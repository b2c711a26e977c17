import Foxtrot.Foundation.Stateful
import Foxtrot.Foundation.Text
import Foxtrot.Protocols.SerialPort

/-!
# The link to the Newport 2936-R power meter

`cmd` (`devices/newport_2936R/newport2936R.cpp`) writes a request, and reads one answer. The meter
is on a USB port or on a serial one. A USB answer comes in transfers, and is read up to one that is
shorter than a packet. The serial port is **flushed in both directions after the request has been
written**, and then a line is read: what has not been transmitted by then does not reach the meter,
and what has arrived is lost. A read gives up when its time is over, and the answer comes later.

A read knows nothing of the query that it is for: it takes what comes first. So between two requests
nothing may be on its way (`Settled`). `Ends` says that a computation keeps that, and what it comes
to after the commands that the meter has received before.

`Ends` is a triple for these computations: it has a rule for a value, one for an error, one for a
sequence and one for a weaker conclusion, and the exchange of a query or of commands without an
answer are its two primitive cases (`ends_cmd`, `ends_cmdNoResponse`). What the meter has received
by then is a list of whole commands, to which each exchange adds its own.
-/

namespace Foxtrot

namespace Newport

open Text

/-! ### The meter -/

/-- `_usbmode`. -/
inductive Mode where
  | usb
  | serial
  deriving DecidableEq

/-- A meter that answers each query with one line. The answer may depend on all the commands so far,
of which the query is the last one. Of its USB transfers only the last may be shorter than a packet
(`long`): a read ends with the first that is. -/
structure Meter where
  line : List String → List Char
  /-- The USB transfers in which the answer comes. -/
  transfers : List String → List String
  unbroken : ∀ heard, '\r' ∉ line heard ∧ '\n' ∉ line heard
  joined_transfers : ∀ heard, joined (transfers heard) = line heard ++ ['\r', '\n']
  /-- All transfers but the last are packets of 64 characters at least. -/
  long : ∀ heard, ∀ piece ∈ (transfers heard).dropLast, 64 ≤ piece.length

/-- A command that contains `?` is a query. -/
def Query (command : String) : Prop := '?' ∈ command.toList

instance (command : String) : Decidable (Query command) :=
  inferInstanceAs (Decidable ('?' ∈ command.toList))

/-- The answer to a query, as `cmd` returns it. -/
def Meter.reply (m : Meter) (mode : Mode) (heard : List String) : String :=
  String.ofList (match mode with
    | .usb => m.line heard ++ ['\r', '\n']
    | .serial => m.line heard)

/-- The answer has an end that `cmd` sees. -/
def Meter.Readable (m : Meter) (mode : Mode) (heard : List String) : Prop :=
  mode = .usb → ∃ piece ∈ m.transfers heard, piece.length < 64

instance (m : Meter) (mode : Mode) (heard : List String) : Decidable (m.Readable mode heard) :=
  inferInstanceAs (Decidable (mode = .usb → ∃ piece ∈ m.transfers heard, piece.length < 64))

/-! ### The link -/

/-- What happens while a request is written and its answer is read. -/
structure Timing where
  /-- The number of characters that have not been transmitted when the port is flushed. -/
  lost : ℕ := 0
  /-- The number of characters that have arrived when the port is flushed. -/
  early : ℕ := 0
  /-- The read gives up before the answer has arrived. -/
  late : Bool := false
  /-- The number of characters beyond the line break that are read with it. -/
  extra : ℕ := 0
  deriving DecidableEq

/-- Nothing is lost, and the answer arrives while it is waited for. -/
def Timing.Good (t : Timing) : Prop := t.lost = 0 ∧ t.early = 0 ∧ t.late = false

instance (t : Timing) : Decidable t.Good :=
  inferInstanceAs (Decidable (t.lost = 0 ∧ t.early = 0 ∧ t.late = false))

/-- A request, with what has been read after it. -/
structure Exchange where
  request : String
  /-- The commands that the meter has received then. -/
  heard : List String
  reply : String

/-- The link, and what the meter has received. -/
structure Link where
  received : List String
  /-- The command that has begun. -/
  begun : List Char
  /-- What has been written to the serial port and has not been transmitted. -/
  outgoing : List Char
  /-- What is on its way from the meter. -/
  incoming : List String
  timings : List Timing
  /-- What has been read so far. -/
  exchanges : List Exchange

/-- The meter receives a character. -/
def Link.hear (m : Meter) (p : Link) (c : Char) : Link :=
  if c = '\r' then
    let received := p.received ++ [String.ofList p.begun]
    { p with
      received
      begun := []
      incoming := p.incoming ++ if '?' ∈ p.begun then m.transfers received else [] }
  else
    { p with begun := p.begun ++ [c] }

/-- The meter receives a text. -/
def Link.transmit (m : Meter) (p : Link) (text : List Char) : Link := text.foldl (Link.hear m) p

/-- The next timing. -/
def Link.timing (p : Link) : Timing := p.timings.headD {}

abbrev LinkM := Stateful Link Thrown

/-- The loop of `cmd_usb_mode`. It ends at a transfer that is shorter than a packet. `silent` is
what a read throws when nothing comes, which is not the exception that the loop catches. -/
def readTransfers (silent : Thrown) (oss : String) :
    List String → Except Thrown String × List String
  | [] => (.error silent, [])
  | buffer :: incoming =>
    if buffer.length < 64 then (.ok (oss ++ buffer), incoming)
    else readTransfers silent (oss ++ buffer) incoming

section Operations

variable (m : Meter) (mode : Mode) (silent : Thrown)

/-- `write` of the protocol. What is written to the serial port is transmitted later. -/
def write (text : String) : LinkM Unit := ExceptT.mk fun p =>
  (.ok (), match mode with
    | .usb => p.transmit m text.toList
    | .serial => { p with outgoing := p.outgoing ++ text.toList })

/-- `SerialPort::flush`. -/
def flush : LinkM Unit := ExceptT.mk fun p =>
  let sent := p.transmit m (p.outgoing.take (p.outgoing.length - p.timing.lost))
  (.ok (), { sent with
    outgoing := []
    incoming := [String.ofList ((joined sent.incoming).drop p.timing.early)] })

/-- `SerialPort::read_until_endl`. -/
def readUntilEndl : LinkM String := ExceptT.mk fun p =>
  if p.timing.late then (.error silent, { p with timings := p.timings.tail })
  else
    let (reply, left) := SerialPort.readUntilEndl '\n' p.timing.extra (joined p.incoming)
    (reply.elim (.error silent) fun text => .ok (String.ofList text),
      { p with timings := p.timings.tail, incoming := [String.ofList left] })

/-- `cmd_usb_mode`. -/
def cmdUsbMode : LinkM String := ExceptT.mk fun p =>
  if p.timing.late then (.error silent, { p with timings := p.timings.tail })
  else
    let (reply, incoming) := readTransfers silent "" p.incoming
    (reply, { p with timings := p.timings.tail, incoming })

/-- `cmd_serial_mode`. -/
def cmdSerialMode : LinkM String := do
  flush m
  match splitFirst '\r' (← readUntilEndl silent) with
  | none => throw (.deviceError "failed to find carriage return in device response")
  | some (text, _) => return text

/-- `cmd_no_response`. -/
def cmdNoResponse (request : String) : LinkM Unit := write m mode (request ++ "\r")

/-- The reply to a request has been read. -/
def record (request reply : String) : LinkM Unit := ExceptT.mk fun p =>
  (.ok (), { p with exchanges := p.exchanges ++ [⟨request, p.received, reply⟩] })

/-- `cmd`. -/
def cmd (request : String) : LinkM String := do
  cmdNoResponse m mode request
  let reply ← match mode with
    | .usb => cmdUsbMode silent
    | .serial => cmdSerialMode m silent
  record request reply
  return reply

end Operations

/-! ### Nothing on its way -/

/-- Commands, each with the carriage return that ends it. -/
def commandLines (commands : List String) : List Char :=
  Occurrences.lines '\r' (commands.map String.toList)

/-- These are commands that are not answered. -/
def Unanswered (commands : List String) : Prop :=
  ∀ command ∈ commands, '\r' ∉ command.toList ∧ ¬ Query command

/-- Nothing is on its way, but for commands that are not answered and are whole. The timings are
good. -/
structure Settled (mode : Mode) (p : Link) (pending : List String) : Prop where
  begun : p.begun = []
  usb : mode = .usb → p.incoming = [] ∧ pending = []
  incoming : joined p.incoming = []
  outgoing : p.outgoing = commandLines pending
  unanswered : Unanswered pending
  timings : ∀ t ∈ p.timings, t.Good

section Transmission

variable {m : Meter} {p : Link} {commands : List String}

/-- The transfers in which these commands are answered. -/
def Meter.answers (m : Meter) (heard : List String) : List String → List String
  | [] => []
  | command :: commands =>
    (if Query command then m.transfers (heard ++ [command]) else []) ++
      m.answers (heard ++ [command]) commands

private theorem Meter.answers_append (m : Meter) (heard commands more : List String) :
    m.answers heard (commands ++ more) =
      m.answers heard commands ++ m.answers (heard ++ commands) more := by
  induction commands generalizing heard with
  | nil => rw [List.nil_append, answers, List.nil_append, List.append_nil]
  | cons command commands ih =>
    rw [List.cons_append, answers, answers, ih, List.append_assoc, List.append_assoc,
      List.singleton_append]

/-- Commands that are not queries are not answered. -/
private theorem Meter.answers_of_unanswered (h : Unanswered commands) (heard : List String) :
    m.answers heard commands = [] := by
  induction commands generalizing heard with
  | nil => rfl
  | cons command commands ih =>
    rw [Unanswered, List.forall_mem_cons] at h
    rw [answers, if_neg h.1.2, ih h.2, List.nil_append]

/-- Two series of commands, one after the other. -/
private theorem commandLines_append (commands more : List String) :
    commandLines (commands ++ more) = commandLines commands ++ commandLines more := by
  rw [commandLines, List.map_append, Occurrences.lines, List.flatMap_append]
  rfl

/-- A whole command is received. -/
theorem transmit_append_cons {xs : List Char} (h : '\r' ∉ xs) (p : Link) (ys : List Char) :
    p.transmit m (xs ++ '\r' :: ys) =
      (({ p with begun := p.begun ++ xs } : Link).hear m '\r').transmit m ys := by
  induction xs generalizing p with
  | nil => rw [List.nil_append, List.append_nil]; rfl
  | cons x xs ih =>
    rw [List.mem_cons, not_or] at h
    have hx : p.hear m x = { p with begun := p.begun ++ [x] } := if_neg (Ne.symm h.1)
    have hstep : p.transmit m (x :: xs ++ '\r' :: ys) =
        (p.hear m x).transmit m (xs ++ '\r' :: ys) := rfl
    rw [hstep, hx, ih h.2, List.append_assoc]
    rfl

/-- Whole commands are received, and answered. -/
theorem transmit_commandLines (hbegun : p.begun = [])
    (h : ∀ command ∈ commands, '\r' ∉ command.toList) :
    p.transmit m (commandLines commands) = { p with
      received := p.received ++ commands
      incoming := p.incoming ++ m.answers p.received commands } := by
  induction commands generalizing p with
  | nil =>
    rw [Meter.answers, List.append_nil, List.append_nil]
    rfl
  | cons command commands ih =>
    rw [List.forall_mem_cons] at h
    have hlines : commandLines (command :: commands) =
        command.toList ++ '\r' :: commandLines commands := Occurrences.lines_cons _ _ _
    have hheard : ({ p with begun := p.begun ++ command.toList } : Link).hear m '\r' = { p with
        received := p.received ++ [command]
        incoming := p.incoming ++
          if Query command then m.transfers (p.received ++ [command]) else [] } := by
      rw [hbegun, List.nil_append, Link.hear, if_pos rfl, String.ofList_toList]
      cases p
      cases hbegun
      rfl
    rw [hlines, transmit_append_cons h.1, hheard]
    rw [ih (by exact hbegun) h.2, Meter.answers, List.append_assoc, List.append_assoc]
    rfl

end Transmission

/-! ### What a computation comes to -/

section Specifications

variable {A A' : Type} {m : Meter} {mode : Mode} {silent : Thrown} {heard : List String}
  {request query : String} {commands more : List String}

/-- After the commands `heard`, with nothing on its way, the computation comes to what `Q` says of
its result, of the commands then, and of what has been read in it. Nothing is on its way then. -/
def Ends (mode : Mode) (act : LinkM A) (heard : List String)
    (Q : Except Thrown A → List String → List Exchange → Prop) : Prop :=
  ∀ p pending, Settled mode p pending → p.received ++ pending = heard →
    ∃ r p' pending' es, act.on p = (r, p') ∧ Settled mode p' pending' ∧
      p'.exchanges = p.exchanges ++ es ∧ Q r (p'.received ++ pending') es

/-- A value is returned without an exchange. -/
theorem Ends.pure (a : A) :
    Ends mode (Pure.pure a) heard fun r heard' es => r = .ok a ∧ heard' = heard ∧ es = [] :=
  fun p pending hp hheard =>
    ⟨.ok a, p, pending, [], rfl, hp, (List.append_nil _).symm, rfl, hheard, rfl⟩

/-- An error is thrown without an exchange. -/
theorem Ends.throw (e : Thrown) : Ends mode (MonadExcept.throw e : LinkM A) heard
    fun r heard' es => r = .error e ∧ heard' = heard ∧ es = [] :=
  fun p pending hp hheard =>
    ⟨.error e, p, pending, [], rfl, hp, (List.append_nil _).symm, rfl, hheard, rfl⟩

/-- Less may be asked of how a computation ends. -/
theorem Ends.imp {act : LinkM A} {Q Q' : Except Thrown A → List String → List Exchange → Prop}
    (h : Ends mode act heard Q) (himp : ∀ r heard' es, Q r heard' es → Q' r heard' es) :
    Ends mode act heard Q' := by
  intro p pending hp hheard
  obtain ⟨r, p', pending', es, hon, hp', hes, hQ⟩ := h p pending hp hheard
  exact ⟨r, p', pending', es, hon, hp', hes, himp _ _ _ hQ⟩

/-- The rule for a sequence. -/
theorem Ends.bind {act : LinkM A} {f : A → LinkM A'}
    {Q : Except Thrown A → List String → List Exchange → Prop}
    {Q' : Except Thrown A' → List String → List Exchange → Prop} (h : Ends mode act heard Q)
    (hok : ∀ a heard' es, Q (.ok a) heard' es →
      Ends mode (f a) heard' fun r heard'' es' => Q' r heard'' (es ++ es'))
    (herror : ∀ e heard' es, Q (.error e) heard' es → Q' (.error e) heard' es) :
    Ends mode (act >>= f) heard Q' := by
  intro p pending hp hheard
  obtain ⟨r, p', pending', es, hon, hp', hes, hQ⟩ := h p pending hp hheard
  cases r with
  | error e =>
    exact ⟨.error e, p', pending', es, Stateful.on_bind_of_error hon f, hp', hes,
      herror e _ es hQ⟩
  | ok a =>
    obtain ⟨r, p'', pending'', es', hon', hp'', hes', hQ'⟩ := hok a _ es hQ p' pending' hp' rfl
    refine ⟨r, p'', pending'', es ++ es', (Stateful.on_bind_of_ok hon f).trans hon', hp'', ?_,
      hQ'⟩
    rw [hes', hes, List.append_assoc]

/-- The request is a query, with commands behind it that are not answered. -/
structure Asks (request query : String) (more : List String) : Prop where
  text : (request ++ "\r").toList = commandLines (query :: more)
  asked : Query query
  unbroken : '\r' ∉ query.toList
  unanswered : Unanswered more

/-- The request is commands that are not answered. -/
structure Tells (request : String) (commands : List String) : Prop where
  text : (request ++ "\r").toList = commandLines commands
  unanswered : Unanswered commands

/-- No command of a request is broken by a carriage return. -/
private theorem Asks.unbroken_of_mem (h : Asks request query more) {pending : List String}
    (hpending : Unanswered pending) :
    ∀ command ∈ pending ++ query :: more, '\r' ∉ command.toList := by
  rw [List.forall_mem_append, List.forall_mem_cons]
  exact ⟨fun command hmem => (hpending command hmem).1, h.unbroken,
    fun command hmem => (h.unanswered command hmem).1⟩

/-- Only the query is answered. -/
theorem Asks.answers_eq (h : Asks request query more) {pending : List String}
    (hpending : Unanswered pending) (heard : List String) :
    m.answers heard (pending ++ query :: more) =
      m.transfers (heard ++ pending ++ [query]) := by
  rw [Meter.answers_append, Meter.answers_of_unanswered hpending, Meter.answers, if_pos h.asked,
    Meter.answers_of_unanswered h.unanswered, List.append_nil, List.nil_append]

/-- Between two requests the next timing is a good one. -/
private theorem timing_good {p : Link} {pending : List String} (h : Settled mode p pending) :
    p.timing.Good := by
  rw [Link.timing]
  cases htimings : p.timings with
  | nil => exact ⟨rfl, rfl, rfl⟩
  | cons t timings => exact h.timings t (htimings ▸ List.mem_cons_self)

/-- Transfers up to a short one are read, if there is one. -/
theorem readTransfers_of_long {pieces : List String}
    (hlong : ∀ piece ∈ pieces.dropLast, 64 ≤ piece.length) (oss : String) :
    readTransfers silent oss pieces =
      (if ∃ piece ∈ pieces, piece.length < 64 then .ok (String.ofList (oss.toList ++ joined pieces))
        else .error silent, []) := by
  induction pieces generalizing oss with
  | nil => rw [if_neg (by simp)]; rfl
  | cons piece pieces ih =>
    by_cases hshort : piece.length < 64
    · obtain rfl : pieces = [] := by
        by_contra hne
        rw [List.dropLast_cons_of_ne_nil hne] at hlong
        exact absurd hshort (not_lt.mpr (hlong piece List.mem_cons_self))
      rw [if_pos ⟨piece, List.mem_singleton.mpr rfl, hshort⟩, readTransfers, if_pos hshort,
        joined_singleton, ← String.toList_append, String.ofList_toList]
    · have htail : ∀ piece ∈ pieces.dropLast, 64 ≤ piece.length := by
        intro piece' hmem
        have hne : pieces ≠ [] := by
          rintro rfl
          cases hmem
        exact hlong piece' (List.dropLast_cons_of_ne_nil hne ▸ List.mem_cons_of_mem piece hmem)
      rw [readTransfers, if_neg hshort, ih htail, String.toList_append, List.append_assoc]
      simp only [List.exists_mem_cons_iff, hshort, false_or]
      rfl

/-- On the USB port the answer is read, if its end is seen. -/
theorem cmdUsbMode_on {p : Link} (htiming : p.timing.Good)
    (hincoming : p.incoming = m.transfers heard) : (cmdUsbMode silent).on p =
      (if m.Readable .usb heard then .ok (m.reply .usb heard) else .error silent,
        { p with timings := p.timings.tail, incoming := [] }) := by
  have hread : readTransfers silent "" (m.transfers heard) = _ :=
    readTransfers_of_long (m.long heard) ""
  have hreply : String.ofList ("".toList ++ joined (m.transfers heard)) = m.reply .usb heard := by
    rw [m.joined_transfers]
    rfl
  have hreadable : m.Readable .usb heard ↔ ∃ piece ∈ m.transfers heard, piece.length < 64 :=
    forall_prop_of_true rfl
  rw [hreply] at hread
  change (if p.timing.late = true then _ else _) = _
  rw [htiming.2.2, if_neg Bool.false_ne_true, hincoming, hread]
  simp only [hreadable]

/-- A read in time returns what has arrived. -/
theorem readUntilEndl_on {p : Link} {reply left : List Char} (hlate : p.timing.late = false)
    (h : SerialPort.readUntilEndl '\n' p.timing.extra (joined p.incoming) = (some reply, left)) :
    (readUntilEndl silent).on p = (.ok (String.ofList reply),
      { p with timings := p.timings.tail, incoming := [String.ofList left] }) := by
  simp only [readUntilEndl, Stateful.on, ExceptT.mk, ExceptT.run, hlate, h]
  rfl

/-- On the serial port the answer is read when everything has been transmitted. -/
theorem cmdSerialMode_on (h : Asks request query more) {p : Link} {pending : List String}
    (hbegun : p.begun = []) (hincoming : joined p.incoming = []) (hpending : Unanswered pending)
    (htiming : p.timing.Good) (houtgoing : p.outgoing = commandLines (pending ++ query :: more)) :
    (cmdSerialMode m silent).on p = (.ok (m.reply .serial (p.received ++ pending ++ [query])),
      { p with
        received := p.received ++ (pending ++ query :: more)
        outgoing := []
        incoming := [""]
        timings := p.timings.tail }) := by
  obtain ⟨hlost, hearly, hlate⟩ := htiming
  obtain ⟨hreturn, hbreak⟩ := m.unbroken (p.received ++ pending ++ [query])
  have hflush : (flush m).on p = (.ok (), { p with
      received := p.received ++ (pending ++ query :: more)
      outgoing := []
      incoming := [String.ofList
        (m.line (p.received ++ pending ++ [query]) ++ ['\r', '\n'])] }) := by
    change (Except.ok (), _) = _
    rw [hlost, hearly, Nat.sub_zero, List.take_length, houtgoing,
      transmit_commandLines hbegun (h.unbroken_of_mem hpending), h.answers_eq hpending,
      joined_append, hincoming, m.joined_transfers]
    rfl
  -- the reply is the only line, and it has its line break at the end
  have hline : SerialPort.readUntilEndl '\n' p.timing.extra (joined [String.ofList
      (m.line (p.received ++ pending ++ [query]) ++ ['\r', '\n'])]) =
      (some (m.line (p.received ++ pending ++ [query]) ++ ['\r', '\n']), []) := by
    rw [joined_singleton, String.toList_ofList, List.append_cons,
      SerialPort.readUntilEndl_append (by simpa using hbreak)]
    simp
  have hread : (readUntilEndl silent).on { p with
      received := p.received ++ (pending ++ query :: more)
      outgoing := []
      incoming := [String.ofList
        (m.line (p.received ++ pending ++ [query]) ++ ['\r', '\n'])] } =
      (.ok (String.ofList (m.line (p.received ++ pending ++ [query]) ++ ['\r', '\n'])), { p with
        received := p.received ++ (pending ++ query :: more)
        outgoing := []
        incoming := [""]
        timings := p.timings.tail }) := readUntilEndl_on hlate hline
  have hsplit : splitFirst '\r' (String.ofList
      (m.line (p.received ++ pending ++ [query]) ++ ['\r', '\n'])) =
      some (m.reply .serial (p.received ++ pending ++ [query]), "\n") := by
    rw [splitFirst, String.toList_ofList, cut_append hreturn]
    rfl
  refine (Stateful.on_bind_of_ok hflush _).trans
    ((Stateful.on_bind_of_ok hread _).trans ?_)
  rw [hsplit]
  rfl

/-- **A query is answered**: what is read is the answer to it, unless its end is not seen. -/
theorem ends_cmd (h : Asks request query more) : Ends mode (cmd m mode silent request) heard
    fun r heard' es => heard' = heard ++ query :: more ∧
      ((m.Readable mode (heard ++ [query]) ∧ r = .ok (m.reply mode (heard ++ [query])) ∧
          es = [⟨request, heard', m.reply mode (heard ++ [query])⟩]) ∨
        (¬ m.Readable mode (heard ++ [query]) ∧ r = .error silent ∧ es = [])) := by
  rintro p pending hp rfl
  have hgood := timing_good hp
  have htail : ∀ t ∈ p.timings.tail, t.Good := fun t ht =>
    hp.timings t (List.mem_of_mem_tail ht)
  cases mode with
  | usb =>
    obtain ⟨hincoming, rfl⟩ := hp.usb rfl
    have hwrite : (cmdNoResponse m .usb request).on p = (.ok (), { p with
        received := p.received ++ query :: more
        incoming := m.transfers (p.received ++ [query]) }) := by
      have hnone : Unanswered [] := nofun
      have hunbroken := h.unbroken_of_mem hnone
      have hanswers : m.answers p.received ([] ++ query :: more) = _ :=
        h.answers_eq hnone p.received
      rw [List.nil_append] at hunbroken hanswers
      change (Except.ok (), p.transmit m _) = _
      rw [h.text, transmit_commandLines hp.begun hunbroken, hanswers, hincoming, List.append_nil]
      rfl
    -- in USB mode the transfers hold the answer of this query only
    have hread : (cmdUsbMode silent).on _ =
        (if m.Readable .usb (p.received ++ [query]) then _ else _, _) :=
      cmdUsbMode_on (p := { p with
        received := p.received ++ query :: more
        incoming := m.transfers (p.received ++ [query]) }) hgood rfl
    rw [List.append_nil]
    by_cases hreadable : m.Readable .usb (p.received ++ [query])
    · rw [if_pos hreadable] at hread
      refine ⟨_, _, [], _, (Stateful.on_bind_of_ok hwrite _).trans
        (Stateful.on_bind_of_ok hread _), ⟨hp.begun, fun _ => ⟨rfl, rfl⟩, rfl, hp.outgoing, nofun,
          htail⟩, rfl, (List.append_nil _), .inl ⟨hreadable, rfl, ?_⟩⟩
      rw [List.append_nil]
    · rw [if_neg hreadable] at hread
      exact ⟨_, _, [], [], (Stateful.on_bind_of_ok hwrite _).trans
        (Stateful.on_bind_of_error hread _), ⟨hp.begun, fun _ => ⟨rfl, rfl⟩, rfl, hp.outgoing,
          nofun, htail⟩, (List.append_nil _).symm, List.append_nil _, .inr ⟨hreadable, rfl, rfl⟩⟩
  | serial =>
    -- in serial mode the commands that were pending are received with this one
    have hwrite : (cmdNoResponse m .serial request).on p = (.ok (), { p with
        outgoing := commandLines (pending ++ query :: more) }) := by
      change (Except.ok (), ({ p with outgoing := _ } : Link)) = _
      rw [hp.outgoing, h.text, commandLines_append]
    have hread : (cmdSerialMode m silent).on _ = _ := cmdSerialMode_on h (p := { p with
      outgoing := commandLines (pending ++ query :: more) }) hp.begun hp.incoming hp.unanswered
      hgood rfl
    have hon : (cmd m .serial silent request).on p =
        (.ok (m.reply .serial (p.received ++ pending ++ [query])), { p with
          received := p.received ++ (pending ++ query :: more)
          outgoing := []
          incoming := [""]
          timings := p.timings.tail
          exchanges := p.exchanges ++ [⟨request, p.received ++ (pending ++ query :: more),
            m.reply .serial (p.received ++ pending ++ [query])⟩] }) :=
      (Stateful.on_bind_of_ok hwrite _).trans (Stateful.on_bind_of_ok hread _)
    refine ⟨_, _, [], _, hon, ⟨hp.begun, nofun, rfl, rfl, nofun, htail⟩, rfl, ?_,
      .inl ⟨nofun, rfl, ?_⟩⟩
    · exact (List.append_nil _).trans (List.append_assoc _ _ _).symm
    · rw [List.append_nil]

/-- Commands that are not answered leave nothing to read. -/
theorem ends_cmdNoResponse (h : Tells request commands) :
    Ends mode (cmdNoResponse m mode request) heard
      fun r heard' es => r = .ok () ∧ heard' = heard ++ commands ∧ es = [] := by
  rintro p pending hp rfl
  have hunbroken : ∀ command ∈ commands, '\r' ∉ command.toList :=
    fun command hmem => (h.unanswered command hmem).1
  cases mode with
  | usb =>
    obtain ⟨hincoming, rfl⟩ := hp.usb rfl
    have hwrite : (cmdNoResponse m .usb request).on p = (.ok (), { p with
        received := p.received ++ commands }) := by
      change (Except.ok (), p.transmit m _) = _
      rw [h.text, transmit_commandLines hp.begun hunbroken,
        Meter.answers_of_unanswered h.unanswered, List.append_nil]
    exact ⟨_, _, [], [], hwrite, ⟨hp.begun, fun _ => ⟨hincoming, rfl⟩, hp.incoming, hp.outgoing,
      hp.unanswered, hp.timings⟩, (List.append_nil _).symm, rfl, by
        rw [List.append_nil, List.append_nil], rfl⟩
  | serial =>
    -- the command waits in the output until the next flush
    have hwrite : (cmdNoResponse m .serial request).on p = (.ok (), { p with
        outgoing := commandLines (pending ++ commands) }) := by
      change (Except.ok (), ({ p with outgoing := _ } : Link)) = _
      rw [hp.outgoing, h.text, commandLines_append]
    exact ⟨_, _, pending ++ commands, [], hwrite, ⟨hp.begun, nofun, hp.incoming, rfl,
      List.forall_mem_append.mpr ⟨hp.unanswered, h.unanswered⟩, hp.timings⟩,
      (List.append_nil _).symm, rfl, (List.append_assoc _ _ _).symm, rfl⟩

end Specifications

end Newport

end Foxtrot
