import Foxtrot.Archon.Configuration
import Foxtrot.Foundation.Delimited
import Foxtrot.Foundation.Fallible
import Foxtrot.Foundation.Hexadecimal
import Foxtrot.Foundation.TransitionSystem
import Foxtrot.Protocols.SimpleTcp

/-!
# Requests to an Archon controller, and its replies

`archon::cmd` (`devices/archon/archon.cpp`) writes a request with its order, which counts the calls
modulo 254, and reads up to the piece that has the end of a line. It takes the first of what it has
read for its reply if the order in it is its own. What it has read beyond is lost, and if that is
the beginning of another reply, then the rest of this is in front of the next one. So in a run with
calls that fail, replies go to their own requests as long as reading ends where a reply ends, no
order comes back before the reply to its last request has been read, and no reply is read as another
than it is (`own_of_reachableWhile`).

Calls exclude each other until they have read, and what follows then concerns no other call. The
socket takes a request as a whole, or none of it.

Two invariants. The requests are numbered by their calls, and their orders repeat after 254 calls
(`Numbered`); the controller answers in this order. And the unread replies stand in the socket in
the order of their requests, each up to its line end, with that of the call that waits as the last
one (`Aligned`). A step that keeps the replies apart keeps both: a read ends at a line end, so
nothing of another reply is cut, and the order in the reply is that of one request only among those
that are still owed one.
-/

namespace Foxtrot

open Text Hexadecimal

/-- How `cmd` fails. -/
inductive CmdFault where
  | thrown (e : Thrown)
  /-- A character behind the terminator of a string is read. -/
  | outOfBounds
  deriving DecidableEq

namespace ArchonLink

/-! ### The function -/

/-- The characters that bytes are. -/
def chars (bytes : List UInt8) : List Char := bytes.map fun b => Char.ofNat b.toNat

/-- `operator[]`, for which the terminator is the last character. -/
def charAt (ret : String) (i : ℕ) : Except CmdFault Char :=
  if i ≤ ret.length then .ok (ret.toList.getD i '\x00') else .error .outOfBounds

/-- `std::string::substr`. -/
def substrOrThrow (ret : String) (pos n : ℕ) : Except CmdFault String :=
  (substr ret pos n).elim (.error (.thrown (.outOfRange "basic_string::substr"))) .ok

/-- The order of the next request. `_order` is at most `0xFE`. -/
def thisorder (order : ℕ) : ℕ := if order = 0xFE then 0 else order

/-- What is written for a request. An order has two digits. -/
def requestText (order : ℕ) (request : String) : String :=
  ">" ++ String.ofList (text 2 order) ++ request ++ "\n"

/-- `cmd`, behind `read_until_endl`. -/
def parseReply (thisorder : ℕ) (ret : List UInt8) : Except CmdFault String := do
  let ret := printable (String.ofList (chars ret))
  let first ← charAt ret 0
  if first ≠ '<' then
    if first = '?' then
      throw (.thrown (.deviceError "archon threw an error message! Check the logs..."))
    else
      throw (.thrown (.protocolError "invalid archon response!"))
  else
    let digits ← substrOrThrow ret 1 2
    let outret ← (stoulHex digits).mapError fun e => .thrown (thrownByNumber "stoul" e)
    if outret ≠ thisorder then
      throw (.thrown (.protocolError "mismatched order response"))
    else
      substrOrThrow ret 3 ret.length

/-- What `cmd` comes to, if this is received behind its request; nothing, while it waits. -/
def cmdResult (tcp : SimpleTcp) (thisorder : ℕ) (incoming : Incoming) :
    Option (Except CmdFault String) :=
  match ((tcp.readUntilEndl 0x0A incoming.chunks.length).on incoming).1 with
  | .ok ret => some (parseReply thisorder ret)
  | .error (.thrown e) => some (.error (.thrown e))
  | .error .unfinished => none

end ArchonLink

open ArchonLink

/-! ### Runs of calls -/

/-- A call, by its number, with its order. -/
structure ArchonRequest where
  id : ℕ
  order : ℕ
  deriving DecidableEq

/-- What the controller has answered to a request, without the end of the line. -/
structure ArchonReply where
  request : ArchonRequest
  text : List UInt8
  deriving DecidableEq

/-- What has been sent for a request. -/
structure SentRequest where
  order : ℕ
  /-- The orders of the requests that had not been answered. -/
  outstanding : List ℕ
  text : String
  deriving DecidableEq

/-- A call that waits for its reply. -/
structure WaitingCmd where
  request : ArchonRequest
  /-- What its reads have received. -/
  pieces : List (List UInt8)
  deriving DecidableEq

/-- A call that has returned or thrown. -/
structure EndedCmd where
  request : ArchonRequest
  result : Except CmdFault String
  deriving DecidableEq

/-- The order in a reply, and the body behind it. -/
def ArchonLink.splitReply : List UInt8 → Option (ℕ × List UInt8)
  | c :: d₁ :: d₂ :: body =>
    if c = 0x3C then (readNat (chars [d₁, d₂])).map fun order => (order, body) else none
  | _ => none

/-- The controller, the socket, and the calls. -/
structure LinkState where
  /-- `_order`. -/
  order : ℕ
  /-- The number of calls. -/
  calls : ℕ
  /-- The requests that have not been answered. -/
  pending : List ArchonRequest
  answered : List ArchonReply
  /-- The replies of which the end has not been read. -/
  unread : List ArchonReply
  /-- What is received next. -/
  wire : List UInt8
  waiting : Option WaitingCmd
  sent : List SentRequest
  ended : List EndedCmd
  deriving DecidableEq

/-- The steps of a run. -/
inductive LinkLabel where
  /-- A call writes its request. -/
  | send (request : String)
  /-- The same, where `::write` fails. -/
  | sendFails (request : String)
  /-- The controller answers the oldest request. -/
  | answer (text : List UInt8)
  /-- A call of `::read` receives so many bytes. -/
  | receive (n : ℕ)
  /-- A call of `::read` fails. -/
  | receiveFails

namespace LinkState

/-- Before the first call. -/
def new : LinkState where
  order := 0
  calls := 0
  pending := []
  answered := []
  unread := []
  wire := []
  waiting := none
  sent := []
  ended := []

/-- The request of the next call. -/
def next (s : LinkState) : ArchonRequest := ⟨s.calls, thisorder s.order⟩

/-- The requests of which the reply has not been read to its end. -/
def owed (s : LinkState) : List ArchonRequest := s.unread.map (·.request) ++ s.pending

/-- What the reads of the call that waits have received. -/
def received (s : LinkState) : List UInt8 := s.waiting.elim [] fun w => w.pieces.flatten

/-- A call writes its request. -/
def send (s : LinkState) (request : String) : LinkState :=
  { s with
    order := s.next.order + 1
    calls := s.calls + 1
    pending := s.pending ++ [s.next]
    waiting := some ⟨s.next, []⟩
    sent := s.sent ++
      [⟨s.next.order, s.pending.map (·.order), requestText s.next.order request⟩] }

/-- A call cannot write its request. -/
def sendFails (s : LinkState) : LinkState :=
  { s with
    order := s.next.order + 1
    calls := s.calls + 1
    ended := s.ended ++ [⟨s.next,
      .error (.thrown (.protocolError "error writing to socket: Unknown error -1"))⟩] }

/-- The controller answers. -/
def answer (s : LinkState) (request : ArchonRequest) (pending : List ArchonRequest)
    (text : List UInt8) : LinkState :=
  { s with
    pending
    answered := s.answered ++ [⟨request, text⟩]
    unread := s.unread ++ [⟨request, text⟩]
    wire := s.wire ++ text ++ [0x0A] }

/-- What has been received leads a call on. If this ends it, then the replies of which it has read
the end are no longer unread. -/
def goOn (tcp : SimpleTcp) (s : LinkState) (w : WaitingCmd) (ending : StreamEnd) : LinkState :=
  match cmdResult tcp w.request.order ⟨w.pieces, ending⟩ with
  | none => { s with waiting := some w }
  | some result => { s with
      waiting := none
      unread := s.unread.drop (w.pieces.flatten.count 0x0A)
      ended := s.ended ++ [⟨w.request, result⟩] }

end LinkState

/-- The text can be a reply: if it has an order, then that of its request. It may have none. -/
def ArchonRequest.MayGet (request : ArchonRequest) (text : List UInt8) : Prop :=
  0x0A ∉ text ∧ ∀ split ∈ splitReply text, split.1 = request.order

instance (request : ArchonRequest) (text : List UInt8) : Decidable (request.MayGet text) :=
  inferInstanceAs (Decidable (_ ∧ _))

/-- The calls of `cmd`, one after the other, and a controller that answers the requests in their
order, at any time. -/
def archonLink (tcp : SimpleTcp) : TransitionSystem LinkState LinkLabel where
  init := .new
  step s
    | .send request => if s.waiting = none then some (s.send request) else none
    | .sendFails _ => if s.waiting = none then some s.sendFails else none
    | .answer text =>
      match s.pending with
      | [] => none
      | request :: pending =>
        if request.MayGet text then some (s.answer request pending text) else none
    | .receive n =>
      match s.waiting with
      | none => none
      | some w =>
        if n ≤ s.wire.length ∧ n ≤ tcp.chunkSize.1 then
          some ({ s with wire := s.wire.drop n }.goOn tcp
            { w with pieces := w.pieces ++ [s.wire.take n] } .silent)
        else
          none
    | .receiveFails =>
      match s.waiting with
      | none => none
      | some w => some (s.goOn tcp w .failed)

/-! ### Replies to their own requests -/

/-- The reply is well-formed, with this body. -/
def ArchonReply.HasBody (r : ArchonReply) (body : List UInt8) : Prop :=
  splitReply r.text = some (r.request.order, body)

/-- **Replies go to their own requests**: a call that has returned has the body of its reply, one
with an ill-formed reply has thrown, none has read beyond a string, and each order that has been
sent was below `0xFE` and different from those of the requests that had not been answered. -/
structure LinkState.Own (s : LinkState) : Prop where
  returns : ∀ e ∈ s.ended, ∀ val, e.result = .ok val → ∃ r ∈ s.answered, r.request = e.request ∧
    ∃ body, r.HasBody body ∧ val = String.ofList (chars body)
  throws : ∀ e ∈ s.ended, ∀ r ∈ s.answered, r.request = e.request → (∀ body, ¬ r.HasBody body) →
    ∃ e', e.result = .error (.thrown e')
  inside : ∀ e ∈ s.ended, e.result ≠ .error .outOfBounds
  orders : ∀ r ∈ s.sent, r.order < 0xFE ∧
    readNat ((r.text.toList.drop 1).take 2) = some r.order
  distinct : ∀ r ∈ s.sent, r.outstanding.length < 254 → r.order ∉ r.outstanding

/-- What is printable of a line begins with `<` and is read as having the order. -/
def ArchonLink.Marked (order : ℕ) (line : List UInt8) : Prop :=
  let printed := (chars line).filter isprint
  printed.head? = some '<' ∧ stoulHex (String.ofList ((printed.drop 1).take 2)) = .ok order

/-- A line is, behind empty ones, `<`, an order in two digits, and printable characters. -/
def ArchonLink.Clean (line : List UInt8) : Prop :=
  ∃ split, splitReply (line.dropWhile (· = 0x0A)) = some split ∧
    ∀ b ∈ split.2, b = 0x0A ∨ isprint (Char.ofNat b.toNat)

/-- **A step keeps the replies apart.** No reply is outstanding of a request that was sent a
multiple of 254 calls before. A call that reads the end of a line stops at the end of one, and what
it reads is clean if it is taken for its reply. And reading does not fail within a line. -/
def KeepsApart (s : LinkState) : LinkLabel → Prop
  | .send _ => ∀ r ∈ s.owed, ¬ 254 ∣ s.calls - r.id
  | .receive n => ∀ w ∈ s.waiting, 0x0A ∈ s.wire.take n →
    (s.wire.take n).getLast? = some 0x0A ∧
      (Marked w.request.order (s.received ++ s.wire.take n) →
        Clean (s.received ++ s.wire.take n))
  | .receiveFails => s.received = []
  | _ => True

/-! ### What is taken for a reply -/

section Parse

open Fallible

variable {order : ℕ} {line : List UInt8} {val : String}

namespace ArchonLink

/-- The printable characters of a line. -/
def printed (line : List UInt8) : List Char := (chars line).filter isprint

private theorem charAt_zero (ret : String) : charAt ret 0 = .ok (ret.toList.getD 0 '\x00') :=
  if_pos (Nat.zero_le _)

/-- `substr` returns the part of a text that is long enough. -/
theorem substrOrThrow_eq_ok_iff {ret part : String} {pos n : ℕ} :
    substrOrThrow ret pos n = .ok part ↔ substr ret pos n = some part := by
  rw [substrOrThrow]
  cases substr ret pos n with
  | none => exact ⟨nofun, nofun⟩
  | some part' => exact ⟨fun h => congrArg some (Except.ok.inj h), fun h => by cases h; rfl⟩

/-- `substr` throws, and does not read beyond the text. -/
private theorem substrOrThrow_ne_outOfBounds (ret : String) (pos n : ℕ) :
    substrOrThrow ret pos n ≠ .error .outOfBounds := by
  rw [substrOrThrow]
  cases substr ret pos n with
  | none => exact nofun
  | some part => exact nofun

private theorem toList_of_substr {ret part : String} {pos n : ℕ}
    (h : substr ret pos n = some part) :
    part.toList = (ret.toList.drop pos).take n := by
  rw [substr] at h
  split_ifs at h
  rw [← Option.some.inj h, String.toList_ofList]

/-- The characters of what has been read that are printable. -/
private theorem toList_printable (line : List UInt8) :
    (printable (String.ofList (chars line))).toList = printed line := by
  rw [printable, String.toList_ofList, String.toList_ofList, printed]

/-- What is returned is behind the mark in the line. -/
theorem of_parseReply (h : parseReply order line = .ok val) :
    Marked order line ∧ val = String.ofList ((printed line).drop 3) := by
  rw [parseReply, bind_of_ok (charAt_zero _), toList_printable] at h
  by_cases hfirst : (printed line).getD 0 '\x00' ≠ '<'
  · rw [if_pos hfirst] at h
    split_ifs at h
  · rw [if_neg hfirst] at h
    obtain ⟨digits, hdigits, hrest⟩ := bind_eq_ok_iff.mp h
    obtain ⟨outret, houtret, hlast⟩ := bind_eq_ok_iff.mp hrest
    by_cases hne : outret ≠ order
    · rw [if_pos hne] at hlast
      cases hlast
    rw [if_neg hne] at hlast
    rw [not_not] at hfirst hne
    have hval := toList_of_substr (substrOrThrow_eq_ok_iff.mp hlast)
    have hlist := toList_of_substr (substrOrThrow_eq_ok_iff.mp hdigits)
    rw [toList_printable] at hval hlist
    -- the count of `substr` is beyond the end
    have hall : (printed line).drop 3 = val.toList := by
      rw [hval, List.take_of_length_le]
      rw [List.length_drop, ← toList_printable, String.length_toList]
      exact Nat.sub_le _ _
    refine ⟨⟨?_, ?_⟩, ?_⟩
    · change (printed line).head? = some '<'
      cases hprinted : printed line with
      | nil =>
        rw [hprinted] at hfirst
        cases hfirst
      | cons c rest =>
        rw [hprinted] at hfirst
        exact congrArg some hfirst
    · change stoulHex (String.ofList (((printed line).drop 1).take 2)) = .ok order
      rw [← hlist, String.ofList_toList, ← hne]
      exact mapError_eq_ok_iff.mp houtret
    · rw [hall, String.ofList_toList]

/-- No character behind a string is read. -/
theorem parseReply_ne_outOfBounds (order : ℕ) (line : List UInt8) :
    parseReply order line ≠ .error .outOfBounds := by
  intro h
  rw [parseReply, bind_of_ok (charAt_zero _)] at h
  by_cases hfirst : (printable (String.ofList (chars line))).toList.getD 0 '\x00' ≠ '<'
  · rw [if_pos hfirst] at h
    split_ifs at h <;> cases h
  · rw [if_neg hfirst] at h
    obtain h | ⟨digits, -, hrest⟩ := bind_eq_error_iff.mp h
    · exact substrOrThrow_ne_outOfBounds _ _ _ h
    · obtain hstoul | ⟨outret, -, hlast⟩ := bind_eq_error_iff.mp hrest
      · cases hnumber : stoulHex digits with
        | error e =>
          rw [hnumber] at hstoul
          cases hstoul
        | ok n =>
          rw [hnumber] at hstoul
          cases hstoul
      · split_ifs at hlast
        · cases hlast
        · exact substrOrThrow_ne_outOfBounds _ _ _ hlast

/-! ### What has been read

The buffer is longer than what was read, and what is behind is zeros, which are not printable; so a
line matters by its printable characters only. -/

/-- What is printable in two texts, one after the other. -/
private theorem printed_append (line line' : List UInt8) :
    printed (line ++ line') = printed line ++ printed line' := by
  rw [printed, chars, List.map_append, List.filter_append]
  rfl

/-- The zeros of a buffer are not printable. -/
theorem printed_pad (len : ℕ) (piece : List UInt8) :
    printed (SimpleTcp.pad len piece) = printed piece := by
  have hzeros : ∀ n, printed (List.replicate n 0) = [] := by
    intro n
    rw [printed, chars, List.map_replicate, List.filter_replicate, if_neg (by decide)]
  rw [SimpleTcp.pad, printed_append, hzeros, List.append_nil]

/-- The zeros that fill up a piece are not printable. -/
private theorem printed_flatten_pad (len : ℕ) (pieces : List (List UInt8)) :
    printed (pieces.map (SimpleTcp.pad len)).flatten = printed pieces.flatten := by
  induction pieces with
  | nil => rfl
  | cons piece pieces ih =>
    rw [List.map_cons, List.flatten_cons, List.flatten_cons, printed_append, printed_append,
      printed_pad, ih]

/-- A line matters by what is printable of it. -/
theorem parseReply_congr {line line' : List UInt8} (h : printed line = printed line') (order : ℕ) :
    parseReply order line = parseReply order line' := by
  have hprintable : printable (String.ofList (chars line)) =
      printable (String.ofList (chars line')) := by
    rw [← String.toList_inj, toList_printable, toList_printable, h]
  rw [parseReply, parseReply, hprintable]

variable {tcp : SimpleTcp} {pieces : List (List UInt8)} {piece : List UInt8} {ending : StreamEnd}

private theorem on_readUntilEndl (tcp : SimpleTcp) (hpieces : ∀ p ∈ pieces, 0x0A ∉ p)
    (ending : StreamEnd)
    (rounds : ℕ) (chunks : List (List UInt8)) :
    (tcp.readUntilEndl 0x0A (pieces.length + rounds)).on ⟨pieces ++ chunks, ending⟩ =
      (tcp.untilEndl 0x0A (rounds + 1)
        (pieces.map (SimpleTcp.pad tcp.chunkSize.1)).flatten).on ⟨chunks, ending⟩ := by
  rw [SimpleTcp.readUntilEndl_eq, Nat.add_assoc,
    SimpleTcp.on_untilEndl_append (by decide) hpieces List.not_mem_nil, List.nil_append]

/-- The zeros that fill up a piece are no line end. -/
private theorem not_mem_flatten_pad (hpieces : ∀ p ∈ pieces, 0x0A ∉ p) :
    0x0A ∉ (pieces.map (SimpleTcp.pad tcp.chunkSize.1)).flatten := by
  rw [List.mem_flatten]
  rintro ⟨_, hp, hmem⟩
  obtain ⟨p, hpiece, rfl⟩ := List.mem_map.mp hp
  exact hpieces p hpiece ((SimpleTcp.mem_pad_iff (by decide)).mp hmem)

/-- Without the end of a line, a call waits. -/
theorem cmdResult_silent (hpieces : ∀ p ∈ pieces, 0x0A ∉ p) :
    cmdResult tcp order ⟨pieces, .silent⟩ = none := by
  have hon := on_readUntilEndl tcp hpieces .silent 0 []
  rw [List.append_nil, Nat.add_zero, SimpleTcp.untilEndl, if_neg (not_mem_flatten_pad hpieces)]
    at hon
  rw [cmdResult, hon]
  rfl

/-- Where the connection fails before the line end, the call throws. -/
private theorem cmdResult_failed (tcp : SimpleTcp) (order : ℕ) (hpieces : ∀ p ∈ pieces, 0x0A ∉ p) :
    ∃ e, cmdResult tcp order ⟨pieces, .failed⟩ = some (.error (.thrown e)) := by
  have hon := on_readUntilEndl tcp hpieces .failed 0 []
  rw [List.append_nil, Nat.add_zero, SimpleTcp.untilEndl, if_neg (not_mem_flatten_pad hpieces)]
    at hon
  rw [cmdResult, hon]
  exact ⟨_, rfl⟩

/-- With the end of a line, a call parses what it has read. -/
theorem cmdResult_line (tcp : SimpleTcp) (order : ℕ) (hpieces : ∀ p ∈ pieces, 0x0A ∉ p)
    (hpiece : 0x0A ∈ piece) (ending : StreamEnd) :
    cmdResult tcp order ⟨pieces ++ [piece], ending⟩ =
      some (parseReply order (pieces.flatten ++ piece)) := by
  have hmem : 0x0A ∈ (pieces.map (SimpleTcp.pad tcp.chunkSize.1)).flatten ++
      SimpleTcp.pad tcp.chunkSize.1 piece :=
    List.mem_append_right _ ((SimpleTcp.mem_pad_iff (by decide)).mpr hpiece)
  have hon := on_readUntilEndl tcp hpieces ending 1 [piece]
  rw [SimpleTcp.on_untilEndl_cons (not_mem_flatten_pad hpieces),
    SimpleTcp.on_untilEndl_of_mem hmem] at hon
  rw [cmdResult, List.length_append, List.length_singleton, hon]
  refine congrArg some (parseReply_congr ?_ order)
  rw [printed_append, printed_append, printed_pad, printed_flatten_pad]

/-! ### Replies that are read as such -/

variable {text body rest more : List UInt8} {o : ℕ}

/-- A reply begins with its mark and two digits. -/
private theorem splitReply_eq_some_iff : splitReply text = some (o, body) ↔
    ∃ d₁ d₂, text = 0x3C :: d₁ :: d₂ :: body ∧ readNat (chars [d₁, d₂]) = some o := by
  constructor
  · intro h
    rcases text with _ | ⟨c, _ | ⟨d₁, _ | ⟨d₂, body'⟩⟩⟩
    · cases h
    · cases h
    · cases h
    · rw [splitReply] at h
      split_ifs at h with hc
      obtain ⟨order, hread, heq⟩ := Option.map_eq_some_iff.mp h
      obtain ⟨rfl, rfl⟩ := Prod.mk.inj heq
      exact ⟨d₁, d₂, by rw [hc], hread⟩
  · rintro ⟨d₁, d₂, rfl, hread⟩
    rw [splitReply, if_pos rfl, hread]
    rfl

/-- The order is in front of the end of the line. -/
theorem of_splitReply_append (h : splitReply (text ++ 0x0A :: rest) = some (o, more)) :
    ∃ body, splitReply text = some (o, body) ∧ more = body ++ 0x0A :: rest := by
  have hend : ∀ d, readNat (chars [0x0A, d]) ≠ some o ∧ readNat (chars [d, 0x0A]) ≠ some o := by
    refine fun d => ⟨fun hread => ?_, fun hread => ?_⟩
    · exact absurd (isxdigit_of_readNat (c := '\n') hread (by simp [chars])) (by decide)
    · exact absurd (isxdigit_of_readNat (c := '\n') hread (by simp [chars])) (by decide)
  obtain ⟨d₁, d₂, heq, hread⟩ := splitReply_eq_some_iff.mp h
  rcases text with _ | ⟨c, _ | ⟨d, _ | ⟨d', body⟩⟩⟩ <;>
    simp only [List.cons_append, List.nil_append, List.cons.injEq] at heq
  · exact absurd heq.1 (by decide)
  · exact absurd (heq.2.1 ▸ hread) (hend d₂).1
  · exact absurd (heq.2.2.1 ▸ hread) (hend d₁).2
  · obtain ⟨rfl, rfl, rfl, rfl⟩ := heq
    exact ⟨body, splitReply_eq_some_iff.mpr ⟨d, d', rfl, hread⟩, rfl⟩

/-- A character is in front, if it is printable. -/
private theorem printed_cons (b : UInt8) (line : List UInt8) :
    printed (b :: line) = (if isprint (Char.ofNat b.toNat) then [Char.ofNat b.toNat] else []) ++
      printed line := by
  rw [printed, chars, List.map_cons, List.filter_cons]
  split_ifs <;> rfl

/-- The ends of lines are not printable. -/
theorem printed_dropWhile (line : List UInt8) :
    printed (line.dropWhile (· = 0x0A)) = printed line := by
  induction line with
  | nil => rfl
  | cons b line ih =>
    rw [List.dropWhile_cons]
    by_cases hb : b = 0x0A
    · subst hb
      rw [if_pos (by decide), ih, printed_cons, if_neg (by decide), List.nil_append]
    · rw [if_neg (by simpa using hb)]

/-- The mark of a reply is printable. -/
theorem printed_of_splitReply (h : splitReply text = some (o, body)) (rest : List UInt8) :
    ∃ d₁ d₂, readNat [d₁, d₂] = some o ∧
      printed (text ++ rest) = '<' :: d₁ :: d₂ :: printed (body ++ rest) := by
  obtain ⟨d₁, d₂, rfl, hread⟩ := splitReply_eq_some_iff.mp h
  refine ⟨Char.ofNat d₁.toNat, Char.ofNat d₂.toNat, hread, ?_⟩
  have hprint : ∀ c ∈ chars [d₁, d₂], isprint c := by
    intro c hc
    have hle := isxdigit_le (isxdigit_of_readNat hread hc)
    rw [isprint, Bool.and_eq_true, decide_eq_true_eq, decide_eq_true_eq]
    omega
  rw [List.cons_append, List.cons_append, List.cons_append, printed_cons, printed_cons,
    printed_cons, if_pos (by decide), if_pos (hprint _ (by simp [chars])),
    if_pos (hprint _ (by simp [chars]))]
  rfl

/-- Printable characters are left as they are. -/
theorem printed_of_isprint (h : ∀ b ∈ line, isprint (Char.ofNat b.toNat)) :
    printed line = chars line := by
  refine List.filter_eq_self.mpr fun c hc => ?_
  obtain ⟨b, hb, rfl⟩ := List.mem_map.mp hc
  exact h b hb

/-- The first of the replies that is not empty is the one that is read, if they are clean. -/
theorem exists_of_clean {rs : List ArchonReply} (hrs : ∀ r ∈ rs, 0x0A ∉ r.text)
    (h : Clean (Delimited.join 0x0A (rs.map (·.text)))) :
    ∃ front r back o body, rs = front ++ r :: back ∧ splitReply r.text = some (o, body) ∧
      ∃ d₁ d₂, readNat [d₁, d₂] = some o ∧
        printed (Delimited.join 0x0A (rs.map (·.text))) =
          '<' :: d₁ :: d₂ :: (chars body ++ printed (Delimited.join 0x0A (back.map (·.text)))) := by
  obtain ⟨⟨o, more⟩, hsplit, hprint⟩ := h
  have htexts : ∀ text ∈ rs.map (·.text), 0x0A ∉ text := by
    rintro text htext
    obtain ⟨r, hr, rfl⟩ := List.mem_map.mp htext
    exact hrs r hr
  have hdrop := Delimited.dropWhile_join htexts
  -- empty replies stand before the one that is read
  have hsplitAt : (rs.map (·.text)).takeWhile (· = []) ++ (rs.map (·.text)).dropWhile (· = []) =
      rs.map (·.text) := List.takeWhile_append_dropWhile
  cases htail : (rs.map (·.text)).dropWhile (· = []) with
  | nil =>
    rw [hdrop, htail] at hsplit
    cases hsplit
  | cons t ts =>
    rw [htail] at hdrop hsplitAt
    rw [Delimited.join_cons] at hdrop
    rw [hdrop] at hsplit
    obtain ⟨body, hbody, rfl⟩ := of_splitReply_append hsplit
    obtain ⟨front, rest, rfl, -, hrest⟩ := List.map_eq_append_iff.mp hsplitAt.symm
    obtain ⟨r, back, rfl, rfl, rfl⟩ := List.map_eq_cons_iff.mp hrest
    -- a line break would be in the text of the reply, which has none
    have hbodyPrint : ∀ b ∈ body, isprint (Char.ofNat b.toNat) := by
      intro b hb
      refine (hprint b (List.mem_append_left _ hb)).resolve_left fun heq => ?_
      obtain ⟨_, _, htext, -⟩ := splitReply_eq_some_iff.mp hbody
      refine hrs r (by simp) ?_
      rw [htext, ← heq]
      simp [hb]
    obtain ⟨d₁, d₂, hdigits, hprinted⟩ :=
      printed_of_splitReply hbody (0x0A :: Delimited.join 0x0A (back.map (·.text)))
    refine ⟨front, r, back, o, body, rfl, hbody, d₁, d₂, hdigits, ?_⟩
    rw [← printed_dropWhile, hdrop, hprinted, printed_append, printed_of_isprint hbodyPrint]
    rfl

end ArchonLink

end Parse

/-! ### What a step can do -/

namespace LinkState

section Steps

open Delimited

variable {tcp : SimpleTcp} {s s' : LinkState} {l : LinkLabel}

private theorem step_cases (h : (archonLink tcp).step s l = some s') :
    (∃ request, l = .send request ∧ s.waiting = none ∧ s' = s.send request) ∨
    (∃ request, l = .sendFails request ∧ s.waiting = none ∧ s' = s.sendFails) ∨
    (∃ text request pending, l = .answer text ∧ s.pending = request :: pending ∧
      request.MayGet text ∧ s' = s.answer request pending text) ∨
    (∃ n w, l = .receive n ∧ s.waiting = some w ∧ s' = { s with wire := s.wire.drop n }.goOn tcp
      { w with pieces := w.pieces ++ [s.wire.take n] } .silent) ∨
    ∃ w, l = .receiveFails ∧ s.waiting = some w ∧ s' = s.goOn tcp w .failed := by
  cases l with
  | send request =>
    simp only [archonLink] at h
    split_ifs at h with hidle
    exact .inl ⟨request, rfl, hidle, (Option.some.inj h).symm⟩
  | sendFails request =>
    simp only [archonLink] at h
    split_ifs at h with hidle
    exact .inr (.inl ⟨request, rfl, hidle, (Option.some.inj h).symm⟩)
  | answer text =>
    simp only [archonLink] at h
    cases hpending : s.pending with
    | nil =>
      rw [hpending] at h
      cases h
    | cons request pending =>
      simp only [hpending] at h
      split_ifs at h with hmay
      exact .inr (.inr (.inl ⟨text, request, pending, rfl, rfl, hmay, (Option.some.inj h).symm⟩))
  | receive n =>
    simp only [archonLink] at h
    cases hwaiting : s.waiting with
    | none =>
      rw [hwaiting] at h
      cases h
    | some w =>
      simp only [hwaiting] at h
      split_ifs at h
      exact .inr (.inr (.inr (.inl ⟨n, w, rfl, rfl, (Option.some.inj h).symm⟩)))
  | receiveFails =>
    simp only [archonLink] at h
    cases hwaiting : s.waiting with
    | none =>
      rw [hwaiting] at h
      cases h
    | some w =>
      simp only [hwaiting] at h
      exact .inr (.inr (.inr (.inr ⟨w, rfl, rfl, (Option.some.inj h).symm⟩)))

/-- A call without a result yet goes on waiting. -/
private theorem goOn_of_none (w : WaitingCmd) {ending : StreamEnd}
    (h : cmdResult tcp w.request.order ⟨w.pieces, ending⟩ = none) :
    s.goOn tcp w ending = { s with waiting := some w } := by
  rw [goOn, h]

private theorem goOn_of_some (w : WaitingCmd) {ending : StreamEnd} {result : Except CmdFault String}
    (h : cmdResult tcp w.request.order ⟨w.pieces, ending⟩ = some result) :
    s.goOn tcp w ending = { s with
      waiting := none
      unread := s.unread.drop (w.pieces.flatten.count 0x0A)
      ended := s.ended ++ [⟨w.request, result⟩] } := by
  rw [goOn, h]

/-- A call reads the end of a line. -/
def readLine (s : LinkState) (w : WaitingCmd) (n : ℕ) : LinkState :=
  let line := w.pieces.flatten ++ s.wire.take n
  { s with
    wire := s.wire.drop n
    waiting := none
    unread := s.unread.drop (line.count 0x0A)
    ended := s.ended ++ [⟨w.request, parseReply w.request.order line⟩] }

/-- A call that has read its line end has a result. -/
private theorem goOn_line {w : WaitingCmd} {n : ℕ} (hpieces : ∀ p ∈ w.pieces, 0x0A ∉ p)
    (hline : 0x0A ∈ s.wire.take n) : { s with wire := s.wire.drop n }.goOn tcp
      { w with pieces := w.pieces ++ [s.wire.take n] } .silent = s.readLine w n := by
  have hresult := cmdResult_line tcp w.request.order hpieces hline .silent
  rw [goOn_of_some { w with pieces := w.pieces ++ [s.wire.take n] } hresult, List.flatten_append,
    List.flatten_singleton]
  rfl

/-! ### Invariants -/

/-- The requests that have been sent, in their order. -/
def requests (s : LinkState) : List ArchonRequest := s.answered.map (·.request) ++ s.pending

/-- **Requests are numbered**, by the calls and by their orders, and answered one after the
other. -/
structure Numbered (s : LinkState) : Prop where
  next : thisorder s.order = s.calls % 254
  pairwise : s.requests.Pairwise (·.id < ·.id)
  order : ∀ r ∈ s.requests, r.id < s.calls ∧ r.order = r.id % 254
  mayGet : ∀ r ∈ s.answered, r.request.MayGet r.text
  unread : s.unread <:+ s.answered

/-- **Replies are kept apart**: the unread ones are before the call that waits, of which the reply
is the last, and no other has its order. -/
structure Aligned (s : LinkState) : Prop extends s.Numbered where
  lines : s.received ++ s.wire = join 0x0A (s.unread.map (·.text))
  pieces : ∀ w ∈ s.waiting, ∀ p ∈ w.pieces, 0x0A ∉ p
  last : ∀ w ∈ s.waiting, ∃ before, s.owed = before ++ [w.request]
  own : ∀ w ∈ s.waiting, ∀ r ∈ s.owed, r.order = w.request.order → r = w.request
  returns : ∀ e ∈ s.ended, ∀ val, e.result = .ok val → ∃ r ∈ s.answered, r.request = e.request ∧
    ∃ body, r.HasBody body ∧ val = String.ofList (chars body)
  inside : ∀ e ∈ s.ended, e.result ≠ .error .outOfBounds
  orders : ∀ r ∈ s.sent, r.order < 0xFE ∧
    readNat ((r.text.toList.drop 1).take 2) = some r.order
  distinct : ∀ r ∈ s.sent, r.order ∉ r.outstanding

private theorem aligned_new : new.Aligned where
  next := rfl
  pairwise := .nil
  order := nofun
  mayGet := nofun
  unread := List.suffix_rfl
  lines := rfl
  pieces := nofun
  last := nofun
  own := nofun
  returns := nofun
  inside := nofun
  orders := nofun
  distinct := nofun

private theorem Numbered.owed_suffix (h : s.Numbered) : s.owed <:+ s.requests := by
  obtain ⟨read, hread⟩ := h.unread
  refine ⟨read.map (·.request), ?_⟩
  rw [requests, owed, ← hread, List.map_append, List.append_assoc]

/-- The order of a call is that of an earlier one only if the number of calls since is a multiple
of 254. -/
theorem Numbered.dvd_of_order_eq (h : s.Numbered) {r : ArchonRequest} (hr : r ∈ s.owed)
    (heq : r.order = s.next.order) : 254 ∣ s.calls - r.id := by
  obtain ⟨hlt, horder⟩ := h.order r (h.owed_suffix.subset hr)
  have hnext : s.next.order = s.calls % 254 := h.next
  omega

/-! ### Steps that write, and answers -/

/-- The order counter follows the number of the calls, up to its period. -/
private theorem thisorder_succ {order calls : ℕ} (h : thisorder order = calls % 254) :
    thisorder (thisorder order + 1) = (calls + 1) % 254 := by
  rw [h, thisorder]
  split_ifs <;> omega

/-- A request that is not sent keeps the numbers. -/
private theorem Numbered.sendFails (h : s.Numbered) : s.sendFails.Numbered :=
  { h with
    next := thisorder_succ h.next
    order := fun r hr => ⟨Nat.lt_succ_of_lt (h.order r hr).1, (h.order r hr).2⟩ }

/-- A request gets the next number. -/
theorem Numbered.send (h : s.Numbered) (request : String) : (s.send request).Numbered := by
  have hrequests : (s.send request).requests = s.requests ++ [s.next] :=
    (List.append_assoc _ _ _).symm
  refine ⟨thisorder_succ h.next, ?_, ?_, h.mayGet, h.unread⟩
  · rw [hrequests]
    refine List.pairwise_append.mpr ⟨h.pairwise, List.pairwise_singleton _ _, ?_⟩
    intro r hr r' hr'
    rw [List.mem_singleton.mp hr']
    exact (h.order r hr).1
  · intro r hr
    rw [hrequests, List.mem_append] at hr
    obtain hr | hr := hr
    · exact ⟨Nat.lt_succ_of_lt (h.order r hr).1, (h.order r hr).2⟩
    · rw [List.mem_singleton.mp hr]
      exact ⟨Nat.lt_succ_self _, h.next⟩

/-- An answer is to the oldest request that is owed one. -/
theorem Numbered.answer (h : s.Numbered) {request : ArchonRequest} {pending : List ArchonRequest}
    (hpending : s.pending = request :: pending) {text : List UInt8} (hmay : request.MayGet text) :
    (s.answer request pending text).Numbered := by
  have hrequests : (s.answer request pending text).requests = s.requests := by
    rw [requests, requests, hpending, LinkState.answer, List.map_append, List.append_assoc]
    rfl
  refine ⟨h.next, hrequests ▸ h.pairwise, hrequests ▸ h.order, ?_, ?_⟩
  · intro r hr
    obtain hr | hr := List.mem_append.mp hr
    · exact h.mayGet r hr
    · rw [List.mem_singleton.mp hr]
      exact hmay
  · obtain ⟨read, hread⟩ := h.unread
    refine ⟨read, ?_⟩
    rw [LinkState.answer, ← hread, List.append_assoc]

/-- A call that throws returns nothing, and has read no further than the end. -/
theorem Aligned.thrown (h : s.Aligned) (request : ArchonRequest) (e : Thrown) :
    (∀ c ∈ s.ended ++ [(⟨request, .error (.thrown e)⟩ : EndedCmd)], ∀ val, c.result = .ok val →
      ∃ r ∈ s.answered, r.request = c.request ∧
        ∃ body, r.HasBody body ∧ val = String.ofList (chars body)) ∧
    ∀ c ∈ s.ended ++ [(⟨request, .error (.thrown e)⟩ : EndedCmd)],
      c.result ≠ .error .outOfBounds := by
  constructor
  · intro c hc val hval
    obtain hc | hc := List.mem_append.mp hc
    · exact h.returns c hc val hval
    · rw [List.mem_singleton.mp hc] at hval
      cases hval
  · intro c hc
    obtain hc | hc := List.mem_append.mp hc
    · exact h.inside c hc
    · rw [List.mem_singleton.mp hc]
      exact nofun

/-- A request that is not sent keeps the answers aligned. -/
private theorem Aligned.sendFails (h : s.Aligned) : s.sendFails.Aligned := by
  obtain ⟨hreturns, hinside⟩ := h.thrown s.next
    (.protocolError "error writing to socket: Unknown error -1")
  exact { h with toNumbered := h.toNumbered.sendFails, returns := hreturns, inside := hinside }

/-- A request keeps them aligned, if no answer with its mark is owed. -/
theorem Aligned.send (h : s.Aligned) (hidle : s.waiting = none)
    (howed : ∀ r ∈ s.owed, ¬ 254 ∣ s.calls - r.id) (request : String) :
    (s.send request).Aligned := by
  have howed' : (s.send request).owed = s.owed ++ [s.next] := (List.append_assoc _ _ _).symm
  -- the marks repeat after 254 calls, and no such answer is owed
  have hdistinct : ∀ r ∈ s.owed, r.order ≠ s.next.order :=
    fun r hr heq => howed r hr (h.dvd_of_order_eq hr heq)
  have hlt : s.next.order < 0xFE := by
    have hnext : s.next.order = s.calls % 254 := h.next
    omega
  refine ⟨h.toNumbered.send request, ?_, ?_, ?_, ?_, h.returns, h.inside, ?_, ?_⟩
  · have hlines := h.lines
    rw [received, hidle] at hlines
    exact hlines
  · rintro w ⟨⟩ p hp
    cases hp
  · rintro w ⟨⟩
    exact ⟨s.owed, howed'⟩
  · rintro w ⟨⟩ r hr heq
    rw [howed', List.mem_append] at hr
    exact List.mem_singleton.mp (hr.resolve_left fun hr => hdistinct r hr heq)
  · intro r hr
    obtain hr | hr := List.mem_append.mp hr
    · exact h.orders r hr
    · rw [List.mem_singleton.mp hr]
      have hdigits : ((requestText s.next.order request).toList.drop 1).take 2 =
          text 2 s.next.order := by
        simp only [requestText, String.toList_append, String.toList_ofList, List.append_assoc]
        exact List.take_left' (length_text 2 _)
      exact ⟨hlt, hdigits ▸ readNat_text (by decide) (by omega)⟩
  · intro r hr
    obtain hr | hr := List.mem_append.mp hr
    · exact h.distinct r hr
    · rw [List.mem_singleton.mp hr]
      intro hmem
      obtain ⟨r', hr', heq⟩ := List.mem_map.mp hmem
      exact hdistinct r' (List.mem_append_right _ hr') heq

/-- An answer keeps them aligned. -/
theorem Aligned.answer (h : s.Aligned) {request : ArchonRequest} {pending : List ArchonRequest}
    (hpending : s.pending = request :: pending) {text : List UInt8} (hmay : request.MayGet text) :
    (s.answer request pending text).Aligned := by
  have howed : (s.answer request pending text).owed = s.owed := by
    rw [owed, owed, hpending, LinkState.answer, List.map_append, List.append_assoc]
    rfl
  refine ⟨h.toNumbered.answer hpending hmay, ?_, h.pieces, ?_, ?_, ?_, h.inside, h.orders,
    h.distinct⟩
  · have hlines := h.lines
    change s.received ++ (s.wire ++ text ++ [0x0A]) = join 0x0A ((s.unread ++ [_]).map _)
    rw [List.append_assoc, ← List.append_assoc, hlines, List.map_append, join_append,
      List.map_singleton, join_cons, join_nil]
  · rw [howed]
    exact h.last
  · rw [howed]
    exact h.own
  · intro e he val hval
    obtain ⟨r, hr, hbody⟩ := h.returns e he val hval
    exact ⟨r, List.mem_append_left _ hr, hbody⟩

/-! ### Steps that read -/

/-- Nothing is behind the last request. -/
theorem behind_last {requests front behind before : List ArchonRequest} {r : ArchonRequest}
    (hpairwise : requests.Pairwise (·.id < ·.id)) (h : requests = front ++ r :: behind)
    (hlast : requests = before ++ [r]) : behind = [] := by
  rcases List.eq_nil_or_concat behind with rfl | ⟨behind, x, rfl⟩
  · rfl
  · rw [List.concat_eq_append] at h
    rw [h, List.pairwise_append, List.pairwise_cons] at hpairwise
    have hlt := hpairwise.2.1.1 x (by simp)
    rw [hlast, ← List.cons_append, ← List.append_assoc] at h
    obtain rfl : r = x := List.singleton_inj.mp (List.append_inj' h rfl).2
    exact absurd hlt (lt_irrefl _)

/-- **What is taken for its reply is the reply of the call that waits.** -/
theorem Aligned.own_reply (h : s.Aligned) {w : WaitingCmd} (hw : s.waiting = some w)
    {line : List UInt8} {k : ℕ} (hline : line = join 0x0A ((s.unread.take k).map (·.text)))
    (hmarked : Marked w.request.order line) (hclean : Clean line) :
    ∃ r ∈ s.answered, r.request = w.request ∧
      ∃ body, r.HasBody body ∧ (printed line).drop 3 = chars body := by
  have hfree : ∀ r ∈ s.unread.take k, 0x0A ∉ r.text :=
    fun r hr => (h.mayGet r (h.unread.subset (List.mem_of_mem_take hr))).1
  obtain ⟨front, r, back, o, body, htake, hbody, d₁, d₂, hdigits, hprinted⟩ :=
    exists_of_clean hfree (hline ▸ hclean)
  rw [← hline] at hprinted
  have hunread : s.unread = front ++ r :: (back ++ s.unread.drop k) := by
    rw [← List.cons_append, ← List.append_assoc, ← htake, List.take_append_drop]
  have hmem : r ∈ s.unread := by
    rw [hunread]
    simp
  have hanswered := h.unread.subset hmem
  have howed : r.request ∈ s.owed := List.mem_append_left _ (List.mem_map_of_mem hmem)
  obtain rfl : o = r.request.order := (h.mayGet r hanswered).2 _ hbody
  obtain ⟨-, horder⟩ := h.order _ (h.owed_suffix.subset howed)
  -- it has the order of the call
  have hstoul : stoulHex (String.ofList (((printed line).drop 1).take 2)) =
      .ok w.request.order := hmarked.2
  rw [hprinted] at hstoul
  change stoulHex (String.ofList [d₁, d₂]) = _ at hstoul
  rw [stoulHex_of_digits (by rw [String.toList_ofList, hdigits]) (by omega)] at hstoul
  have hown := h.own w hw r.request howed (Except.ok.inj hstoul)
  -- so no reply is behind it
  have hback : back = [] := by
    obtain ⟨before, hlast⟩ := h.last w hw
    have hsplit : s.owed = front.map (·.request) ++ w.request ::
        (back.map (·.request) ++ ((s.unread.drop k).map (·.request) ++ s.pending)) := by
      rw [owed, congrArg (List.map (·.request)) hunread, ← hown]
      simp
    have hbehind := behind_last (h.pairwise.sublist h.owed_suffix.sublist) hsplit hlast
    exact List.map_eq_nil_iff.mp (List.append_eq_nil_iff.mp hbehind).1
  refine ⟨r, hanswered, hown, body, hbody, ?_⟩
  rw [hprinted, hback]
  exact List.append_nil _

/-- A piece keeps them aligned, if a marked line ends with it. -/
theorem Aligned.receive (h : s.Aligned) {w : WaitingCmd} (hw : s.waiting = some w) {n : ℕ}
    (hend : 0x0A ∈ s.wire.take n → (s.wire.take n).getLast? = some 0x0A ∧
      (Marked w.request.order (s.received ++ s.wire.take n) →
        Clean (s.received ++ s.wire.take n))) :
    ({ s with wire := s.wire.drop n }.goOn tcp
      { w with pieces := w.pieces ++ [s.wire.take n] } .silent).Aligned := by
  have hreceived : s.received = w.pieces.flatten := by rw [received, hw]; rfl
  have hlines : w.pieces.flatten ++ s.wire.take n ++ s.wire.drop n =
      join 0x0A (s.unread.map (·.text)) := by
    rw [List.append_assoc, List.take_append_drop, ← hreceived, h.lines]
  have hpieces := h.pieces w hw
  by_cases hline : 0x0A ∈ s.wire.take n
  · obtain ⟨hlast, hclean⟩ := hend hline
    rw [hreceived] at hclean
    have hfree : ∀ text ∈ s.unread.map (·.text), 0x0A ∉ text := by
      intro text htext
      obtain ⟨r, hr, rfl⟩ := List.mem_map.mp htext
      exact (h.mayGet r (h.unread.subset hr)).1
    have hends : ∀ b ∈ (w.pieces.flatten ++ s.wire.take n).getLast?, b = 0x0A := by
      rw [List.getLast?_append, hlast]
      rintro b ⟨⟩
      rfl
    -- what has been received ends with a line, so whole replies are used up
    obtain ⟨htake, hdrop⟩ := eq_join_take hfree hends hlines
    rw [← List.map_take] at htake
    rw [← List.map_drop] at hdrop
    rw [goOn_line hpieces hline]
    refine ⟨⟨h.next, h.pairwise, h.order, h.mayGet, (List.drop_suffix _ _).trans h.unread⟩, hdrop,
      nofun, nofun, nofun, ?_, ?_, h.orders, h.distinct⟩
    · intro e he val hval
      obtain he | he := List.mem_append.mp he
      · exact h.returns e he val hval
      · rw [List.mem_singleton.mp he] at hval ⊢
        obtain ⟨hmarked, rfl⟩ := of_parseReply hval
        obtain ⟨r, hr, hrequest, body, hbody, hchars⟩ :=
          h.own_reply hw htake hmarked (hclean hmarked)
        exact ⟨r, hr, hrequest, body, hbody, by rw [hchars]⟩
    · intro e he
      obtain he | he := List.mem_append.mp he
      · exact h.inside e he
      · rw [List.mem_singleton.mp he]
        exact parseReply_ne_outOfBounds _ _
  · have hall : ∀ p ∈ w.pieces ++ [s.wire.take n], 0x0A ∉ p := by
      intro p hp
      obtain hp | hp := List.mem_append.mp hp
      · exact hpieces p hp
      · rwa [List.mem_singleton.mp hp]
    -- no line is complete yet: the call goes on receiving
    rw [goOn_of_none { w with pieces := w.pieces ++ [s.wire.take n] } (cmdResult_silent hall)]
    refine ⟨⟨h.next, h.pairwise, h.order, h.mayGet, h.unread⟩, ?_, ?_, ?_, ?_, h.returns, h.inside,
      h.orders, h.distinct⟩
    · rw [← hlines]
      simp [received]
    · rintro w' ⟨⟩
      exact hall
    · rintro w' ⟨⟩
      exact h.last w hw
    · rintro w' ⟨⟩
      exact h.own w hw

/-- A failure keeps them aligned, if nothing of a reply has been read. -/
private theorem Aligned.receiveFails (h : s.Aligned) {w : WaitingCmd} (hw : s.waiting = some w)
    (hnothing : s.received = []) : (s.goOn tcp w .failed).Aligned := by
  have hreceived : w.pieces.flatten = [] := by
    rw [← hnothing, received, hw]
    rfl
  obtain ⟨e, hresult⟩ := cmdResult_failed tcp w.request.order (h.pieces w hw)
  have hlines := h.lines
  rw [hnothing] at hlines
  obtain ⟨hreturns, hinside⟩ := h.thrown w.request e
  rw [goOn_of_some w hresult, hreceived]
  exact ⟨⟨h.next, h.pairwise, h.order, h.mayGet, h.unread⟩, hlines, nofun, nofun, nofun, hreturns,
    hinside, h.orders, h.distinct⟩

/-- **A step that keeps the replies apart** keeps the invariant. -/
theorem Aligned.step (h : s.Aligned) (hok : KeepsApart s l)
    (hstep : (archonLink tcp).step s l = some s') : s'.Aligned := by
  obtain ⟨request, rfl, hidle, rfl⟩ | ⟨request, rfl, -, rfl⟩ |
    ⟨text, request, pending, rfl, hpending, hmay, rfl⟩ | ⟨n, w, rfl, hw, rfl⟩ |
    ⟨w, rfl, hw, rfl⟩ := step_cases hstep
  · exact h.send hidle hok request
  · exact h.sendFails
  · exact h.answer hpending hmay
  · exact h.receive hw (hok w hw)
  · exact h.receiveFails hw hok

/-- Answered requests are different. -/
theorem Numbered.eq_of_request_eq (h : s.Numbered) {r r' : ArchonReply} (hr : r ∈ s.answered)
    (hr' : r' ∈ s.answered) (heq : r.request = r'.request) : r = r' := by
  have hpairwise : (s.answered.map (·.request)).Pairwise (·.id < ·.id) :=
    h.pairwise.sublist (List.sublist_append_left _ _)
  have hnodup : (s.answered.map (·.request)).Nodup :=
    hpairwise.imp fun hlt heq => absurd (heq ▸ hlt) (lt_irrefl _)
  exact List.inj_on_of_nodup_map hnodup hr hr' heq

/-- Where the answers are aligned, what a call returns is its own. -/
private theorem Aligned.isOwn (h : s.Aligned) : s.Own := by
  refine ⟨h.returns, fun e he r hr hrequest hill => ?_, h.inside, h.orders,
    fun r hr _ => h.distinct r hr⟩
  cases hresult : e.result with
  | ok val =>
    obtain ⟨r', hr', hrequest', body, hbody, -⟩ := h.returns e he val hresult
    obtain rfl := h.eq_of_request_eq hr hr' (hrequest.trans hrequest'.symm)
    exact absurd hbody (hill body)
  | error fault =>
    cases fault with
    | thrown e' => exact ⟨e', rfl⟩
    | outOfBounds => exact absurd hresult (h.inside e he)

end Steps

end LinkState

open LinkState

/-- **Replies go to their own requests**, in every run of which the steps keep the replies
apart. -/
theorem own_of_reachableWhile (tcp : SimpleTcp) {s : LinkState}
    (h : (archonLink tcp).ReachableWhile KeepsApart s) : s.Own :=
  (h.invariant (P := Aligned) aligned_new fun _ _ _ _ ih hok hstep => ih.step hok hstep).isOwn

/-! ### Two runs -/

section Runs

variable {tcp : SimpleTcp} {s : LinkState}

private theorem step_send (h : s.waiting = none) (request : String) :
    (archonLink tcp).step s (.send request) = some (s.send request) := by
  simp only [archonLink, if_pos h]

/-- The controller may answer the oldest request. -/
private theorem step_answer {request : ArchonRequest} {pending : List ArchonRequest}
    {text : List UInt8}
    (hpending : s.pending = request :: pending) (hmay : request.MayGet text) :
    (archonLink tcp).step s (.answer text) = some (s.answer request pending text) := by
  simp only [archonLink, hpending, if_pos hmay]

private theorem step_receiveFails {w : WaitingCmd} (hw : s.waiting = some w) :
    (archonLink tcp).step s .receiveFails = some (s.goOn tcp w .failed) := by
  simp only [archonLink, hw]

private theorem step_receive_line {w : WaitingCmd} {n : ℕ} (hw : s.waiting = some w)
    (hn : n ≤ s.wire.length) (hchunk : n ≤ tcp.chunkSize.1) (hpieces : ∀ p ∈ w.pieces, 0x0A ∉ p)
    (hline : 0x0A ∈ s.wire.take n) :
    (archonLink tcp).step s (.receive n) = some (s.readLine w n) := by
  simp only [archonLink, hw, if_pos (And.intro hn hchunk)]
  exact congrArg some (goOn_line hpieces hline)

end Runs

/-- A call with the request SYSTEM, to which the controller answers `<00A=1`. -/
def systemCall : LinkState :=
  (LinkState.new.send "SYSTEM").answer ⟨0, 0⟩ [] [0x3C, 0x30, 0x30, 0x41, 0x3D, 0x31]

/-- It returns `A=1`. -/
theorem own_systemCall : (systemCall.readLine ⟨⟨0, 0⟩, []⟩ 7).ended = [⟨⟨0, 0⟩, .ok "A=1"⟩] ∧
    (systemCall.readLine ⟨⟨0, 0⟩, []⟩ 7).Own := by
  have hsend : KeepsApart .new (.send "SYSTEM") := by
    rintro r ⟨⟩
  have hread : KeepsApart systemCall (.receive 7) := by
    rintro w ⟨⟩ -
    exact ⟨by decide, fun _ => ⟨(0, [0x41, 0x3D, 0x31, 0x0A]), by decide, by decide +kernel⟩⟩
  have hsent : (archonLink defaultTcp).ReachableWhile KeepsApart (LinkState.new.send "SYSTEM") :=
    .step .init hsend (step_send rfl "SYSTEM")
  have hanswered : (archonLink defaultTcp).ReachableWhile KeepsApart systemCall :=
    hsent.step (l := .answer _) trivial (step_answer rfl (by decide))
  exact ⟨by decide, own_of_reachableWhile defaultTcp
    (.step hanswered hread (step_receive_line rfl (by decide) (by decide) nofun (by decide)))⟩

/-- A call whose read fails. It is answered afterwards, and so is the next one. -/
def staleReply : LinkState :=
  (((((LinkState.new.send "A").goOn defaultTcp ⟨⟨0, 0⟩, []⟩ .failed).answer ⟨0, 0⟩ []
    [0x3C, 0x30, 0x30, 0x61]).send "B").answer ⟨1, 1⟩ [] [0x3C, 0x30, 0x31, 0x62])

/-- The read of that one has stopped before the end of its reply, and the end is in front of the
reply of the call after it. -/
def strayEnd : LinkState :=
  ((staleReply.readLine ⟨⟨1, 1⟩, []⟩ 9).send "C").answer ⟨2, 2⟩ [] [0x3C, 0x30, 0x32, 0x63, 0x64]

private theorem reachable_strayEnd : (archonLink defaultTcp).Reachable strayEnd := by
  have hfailed : (archonLink defaultTcp).Reachable
      ((LinkState.new.send "A").goOn defaultTcp ⟨⟨0, 0⟩, []⟩ .failed) :=
    .step (.step .init trivial (step_send rfl "A")) trivial (step_receiveFails rfl)
  have hstale : (archonLink defaultTcp).Reachable staleReply :=
    .step (.step (.step hfailed trivial (step_answer rfl (by decide))) trivial (step_send rfl "B"))
      trivial (step_answer rfl (by decide))
  have hread : (archonLink defaultTcp).Reachable (staleReply.readLine ⟨⟨1, 1⟩, []⟩ 9) :=
    .step hstale trivial (step_receive_line rfl (by decide) (by decide) nofun (by decide))
  exact .step (.step hread trivial (step_send rfl "C")) trivial (step_answer rfl (by decide))

/-- The controller has answered `<02cd` to the third call, and this returns `c`. -/
theorem not_own : ∃ s, (archonLink defaultTcp).Reachable s ∧ ¬ s.Own := by
  refine ⟨strayEnd.readLine ⟨⟨2, 2⟩, []⟩ 5, .step reachable_strayEnd trivial
    (step_receive_line rfl (by decide) (by decide) nofun (by decide)), fun hown => ?_⟩
  obtain ⟨r, hr, hrequest, body, hbody, hval⟩ :=
    hown.returns ⟨⟨2, 2⟩, .ok "c"⟩ (by decide) "c" rfl
  have hthird : ∀ r ∈ (strayEnd.readLine ⟨⟨2, 2⟩, []⟩ 5).answered, r.request = ⟨2, 2⟩ →
      splitReply r.text = some (2, [0x63, 0x64]) := by
    decide
  have hsplit := (hthird r hr hrequest).symm.trans hbody
  obtain rfl := (Prod.mk.inj (Option.some.inj hsplit)).2
  exact absurd hval (by decide)

end Foxtrot
