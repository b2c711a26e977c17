import Foxtrot.Foundation.Stateful
import Foxtrot.Foundation.Text
import Foxtrot.Server.Handler

/-!
# The data store of the Newport 2936-R power meter

`do_fetch_buffer` (`devices/newport_2936R/newport2936R.cpp`) reads until the reply is over: lines of
a header, one value on each line, and `End of Data`. The reply comes in pieces, and **each piece
alone is searched for the terminator**, while the joined text is parsed. So the fetch is complete if
and only if the terminator lies within one of the pieces (`complete_iff`). Where it is cut, the loop
waits for data that does not come, and the read throws.

Reading and parsing are separate. Reading ends with the first piece that has the terminator in it,
if there is one (`readBuffer_append_cons`). Parsing goes through the lines of all pieces together,
and the terminator does not occur before its place in the reply (`Reply.not_infix_lines`), so what
has been read up to the piece has all of the lines, and the values are those of the reply whatever
is behind.
-/

namespace Foxtrot

namespace Newport

namespace DataStore

open Text

/-! ### Fetching -/

/-- What has been sent to the meter, and what the successive reads return. -/
structure Fetching where
  incoming : List String
  sent : List String

abbrev FetchM := Stateful Fetching Thrown

/-- What the reply ends with. -/
def terminator : String := "End of Data"

/-- The loop of `do_fetch_buffer` that reads. `silent` is what a read throws when nothing comes. -/
def readBuffer (silent : Thrown) (buffer : String) :
    List String → Except Thrown String × List String
  | [] => (.error silent, [])
  | nextbit :: incoming =>
    if Occurs terminator nextbit then (.ok (buffer ++ nextbit), incoming)
    else readBuffer silent (buffer ++ nextbit) incoming

section Operations

variable {F : Type} (stod : String → Except NumberError F) (silent : Thrown)
  (answer : String → List String) (count : Except Thrown ℤ)

/-- The loop of `do_fetch_buffer` that parses. -/
def parseLines (dataStarted : Bool) : List String → Except NumberError (List F)
  | [] => .ok []
  | line :: lines =>
    if Occurs "Header" line then parseLines true lines
    else if Occurs terminator line then .ok []
    else if dataStarted then do
      let value ← stod line
      let out ← parseLines dataStarted lines
      return value :: out
    else parseLines dataStarted lines

/-- `do_fetch_buffer`. -/
def doFetchBuffer (n : ℤ) : FetchM (List F) :=
  if n < 0 then throw (.exception "vector::reserve")
  else do
    let buffer ← (ExceptT.mk fun s =>
      let (buffer, incoming) := readBuffer silent "" s.incoming
      (buffer, { s with incoming }) : FetchM String)
    match parseLines stod false (getlines buffer) with
    | .error e => throw (thrownByNumber "stod" e)
    | .ok out => return out

/-- `cmd_no_response`. `answer` has the pieces in which the reply to a request comes. -/
def cmdNoResponse (request : String) : FetchM Unit := ExceptT.mk fun s =>
  (.ok (), ⟨s.incoming ++ answer request, s.sent ++ [request ++ "\r"]⟩)

/-- `getDataStoreCount`, with what it returns or throws. -/
def getDataStoreCount : FetchM ℤ := ExceptT.mk fun s => (count, s)

/-- The request for a range. -/
def rangeRequest (b e : ℤ) : String := "PM:DS:GET? " ++ b.repr ++ "-" ++ e.repr

/-- `fetchDataStore`. -/
def fetchDataStore (b e : ℤ) : FetchM (List F) :=
  if b < 1 then throw (.outOfRange "array starts at index 1!")
  else do
    let available ← getDataStoreCount count
    if available < e then throw (.outOfRange "requested end longer than data count!")
    else do
      cmdNoResponse answer (rangeRequest b e)
      doFetchBuffer stod silent (e - b)

/-- The request for so many of the newest or of the oldest values. -/
def signedRequest (sign : String) (n : ℤ) : String := "PM:DS:GET? " ++ sign ++ n.repr

/-- What `fetchDataStoreNewest` and `fetchDataStoreOldest` share. They differ in the sign. -/
def fetchSigned (sign : String) (n : ℤ) : FetchM (List F) :=
  if n < 1 then throw (.outOfRange "must choose at least n=1")
  else do
    let available ← getDataStoreCount count
    if available < n then throw (.outOfRange "requested more data than available")
    else do
      cmdNoResponse answer (signedRequest sign n)
      doFetchBuffer stod silent n

/-- `fetchDataStoreNewest`. -/
def fetchDataStoreNewest (n : ℤ) : FetchM (List F) := fetchSigned stod silent answer count "+" n

/-- `fetchDataStoreOldest`. -/
def fetchDataStoreOldest (n : ℤ) : FetchM (List F) := fetchSigned stod silent answer count "-" n

end Operations

/-! ### Replies -/

/-- A line without a line break and without the terminator. -/
structure Plain (line : String) : Prop where
  unbroken : '\n' ∉ line.toList
  unended : ¬ Occurs terminator line

/-- A reply of the meter. -/
structure Reply {F : Type} (stod : String → Except NumberError F) where
  /-- What is in front of the lines that are marked as header. -/
  preamble : List String
  header : List String
  /-- The lines with the values, and the values. -/
  values : List (String × F)
  /-- The line breaks behind the terminator. -/
  ending : String
  preamble_plain : ∀ line ∈ preamble, Plain line ∧ ¬ Occurs "Header" line
  header_plain : ∀ line ∈ header, Plain line ∧ Occurs "Header" line
  header_ne_nil : header ≠ []
  values_plain : ∀ v ∈ values, (Plain v.1 ∧ ¬ Occurs "Header" v.1) ∧ stod v.1 = .ok v.2
  ending_blank : ∀ c ∈ ending.toList, c = '\r' ∨ c = '\n'

namespace Reply

variable {F : Type} {stod : String → Except NumberError F} (reply : Reply stod)

/-- The lines before the terminator. -/
def lines : List String := reply.preamble ++ reply.header ++ reply.values.map Prod.fst

/-- The values, in their order. -/
def readings : List F := reply.values.map Prod.snd

/-- The characters of the reply. -/
def text : List Char :=
  Occurrences.lines '\n' (reply.lines.map String.toList) ++ terminator.toList ++
    reply.ending.toList

private theorem plain_of_mem_lines {line : String} (h : line ∈ reply.lines) : Plain line := by
  rw [lines, List.mem_append, List.mem_append, List.mem_map] at h
  obtain (h | h) | ⟨v, hv, rfl⟩ := h
  · exact (reply.preamble_plain line h).1
  · exact (reply.header_plain line h).1
  · exact (reply.values_plain v hv).1.1

end Reply

/-- The terminator is complete with the last of these pieces. -/
structure EndsWith (pieces : List String) : Prop where
  complete : terminator.toList <:+: joined pieces
  before : ¬ terminator.toList <:+: joined pieces.dropLast

/-- The terminator lies within one of the pieces. -/
def WithinOne (pieces : List String) : Prop := ∃ piece ∈ pieces, Occurs terminator piece

instance (pieces : List String) : Decidable (WithinOne pieces) :=
  inferInstanceAs (Decidable (∃ piece ∈ pieces, Occurs terminator piece))

/-- The values with the numbers `b` to `e` of a data store. -/
def stored {F : Type} (store : List F) (b e : ℤ) : List F :=
  (store.drop (b - 1).toNat).take (e - b + 1).toNat

section Properties

variable {F : Type} {stod : String → Except NumberError F} (silent : Thrown) (reply : Reply stod)
  (pieces : List String)

/-- **The fetch is complete**: it stops after the piece with which the terminator is complete, and
returns the values of the reply. So values of the store that are asked for are returned, in their
number. -/
structure Complete : Prop where
  buffer : ∀ n : ℤ, 0 ≤ n → ∀ sent, ∃ upto rest, pieces = upto ++ rest ∧ EndsWith upto ∧
    (doFetchBuffer stod silent n).on ⟨pieces, sent⟩ = (.ok reply.readings, ⟨rest, sent⟩)
  store : ∀ (store : List F) (answer : String → List String) (b e : ℤ), 1 ≤ b → b ≤ e →
    e ≤ store.length → reply.readings = stored store b e → answer (rangeRequest b e) = pieces →
    ∀ sent, ((fetchDataStore stod silent answer (.ok store.length) b e).on ⟨[], sent⟩).1 =
      .ok (stored store b e) ∧ ((stored store b e).length : ℤ) = e - b + 1
  signed : ∀ (sign : String) (answer : String → List String) (n available : ℤ), 1 ≤ n →
    n ≤ available → answer (signedRequest sign n) = pieces →
    ∀ sent, ((fetchSigned stod silent answer (.ok available) sign n).on ⟨[], sent⟩).1 =
      .ok reply.readings

end Properties

/-! ### Reading -/

section Reading

variable {silent : Thrown} {pieces before rest : List String} {piece : String}

/-- Where no piece has the terminator, the loop does not end before a read throws. -/
theorem readBuffer_of_not_withinOne (h : ¬ WithinOne pieces) (buffer : String) :
    readBuffer silent buffer pieces = (.error silent, []) := by
  induction pieces generalizing buffer with
  | nil => rfl
  | cons piece pieces ih =>
    rw [WithinOne, List.exists_mem_cons_iff, not_or] at h
    rw [readBuffer, if_neg h.1, ih h.2]

/-- The loop ends after the first piece that has the terminator. -/
theorem readBuffer_append_cons (hbefore : ¬ WithinOne before) (hpiece : Occurs terminator piece)
    (buffer : String) : readBuffer silent buffer (before ++ piece :: rest) =
      (.ok (String.ofList (buffer.toList ++ joined (before ++ [piece]))), rest) := by
  induction before generalizing buffer with
  | nil =>
    rw [List.nil_append, readBuffer, if_pos hpiece, List.nil_append, joined_singleton,
      ← String.toList_append, String.ofList_toList]
  | cons first before ih =>
    rw [WithinOne, List.exists_mem_cons_iff, not_or] at hbefore
    rw [List.cons_append, readBuffer, if_neg hbefore.1, ih hbefore.2, String.toList_append,
      List.append_assoc]
    rfl

/-- The first piece that has the terminator. -/
theorem exists_first_of_withinOne (h : WithinOne pieces) : ∃ before piece rest,
    pieces = before ++ piece :: rest ∧ Occurs terminator piece ∧ ¬ WithinOne before := by
  induction pieces with
  | nil =>
    obtain ⟨piece, hmem, -⟩ := h
    cases hmem
  | cons first pieces ih =>
    by_cases hfirst : Occurs terminator first
    · refine ⟨[], first, pieces, rfl, hfirst, ?_⟩
      rintro ⟨piece, hmem, -⟩
      cases hmem
    · rw [WithinOne, List.exists_mem_cons_iff] at h
      obtain ⟨before, piece, rest, rfl, hpiece, hbefore⟩ := ih (h.resolve_left hfirst)
      refine ⟨first :: before, piece, rest, rfl, hpiece, ?_⟩
      rw [WithinOne, List.exists_mem_cons_iff]
      exact not_or.mpr ⟨hfirst, hbefore⟩

end Reading

/-! ### Parsing -/

section Parsing

variable {F : Type} {stod : String → Except NumberError F} {reply : Reply stod}

private theorem not_infix_of_mem_ending {front : List Char}
    (h : ∀ c ∈ front, c = '\r' ∨ c = '\n') : ¬ terminator.toList <:+: front := by
  refine Occurrences.not_infix_of_head_notMem (p := 'E') (fun hmem => ?_) "nd of Data".toList
  exact absurd (h 'E' hmem) (by decide)

/-- In the reply, the terminator does not occur before its place. -/
theorem Reply.not_infix_lines (reply : Reply stod) : ¬ terminator.toList <:+:
    Occurrences.lines '\n' (reply.lines.map String.toList) ++ terminator.toList.dropLast := by
  rw [Occurrences.infix_lines_append_iff (by decide)]
  rintro (⟨l, hl, hoccurs⟩ | hoccurs)
  · obtain ⟨line, hline, rfl⟩ := List.mem_map.mp hl
    exact (reply.plain_of_mem_lines hline).unended hoccurs
  · exact absurd hoccurs (by decide)

/-- A front part of the reply with the terminator has all of its lines. -/
theorem Reply.exists_of_occurs {front : List Char} (hfront : front <+: reply.text)
    (hoccurs : terminator.toList <:+: front) : ∃ blank rest, reply.ending.toList = blank ++ rest ∧
      front = Occurrences.lines '\n' (reply.lines.map String.toList) ++ terminator.toList ++
        blank := by
  obtain ⟨blank, hblank⟩ := Occurrences.reaches_of_occurs reply.not_infix_lines hfront hoccurs
  obtain ⟨rest, hrest⟩ := hfront
  rw [← hblank, text, List.append_assoc, List.append_cancel_left_eq] at hrest
  exact ⟨blank, rest, hrest.symm, hblank.symm⟩

/-- Lines before the header are passed over. -/
theorem parseLines_preamble {ls : List String}
    (h : ∀ line ∈ ls, Plain line ∧ ¬ Occurs "Header" line)
    (more : List String) : parseLines stod false (ls ++ more) = parseLines stod false more := by
  induction ls with
  | nil => rfl
  | cons line ls ih =>
    rw [List.forall_mem_cons] at h
    rw [List.cons_append, parseLines, if_neg h.1.2, if_neg h.1.1.unended,
      if_neg Bool.false_ne_true, ih h.2]

/-- With the header the values begin. -/
theorem parseLines_header {ls : List String} (hne : ls ≠ []) (h : ∀ line ∈ ls, Occurs "Header" line)
    (started : Bool) (more : List String) :
    parseLines stod started (ls ++ more) = parseLines stod true more := by
  induction ls generalizing started with
  | nil => exact absurd rfl hne
  | cons line ls ih =>
    rw [List.forall_mem_cons] at h
    rw [List.cons_append, parseLines, if_pos h.1]
    obtain rfl | hls := eq_or_ne ls []
    · rfl
    · exact ih hls h.2 true

/-- Values are read up to the terminator. -/
theorem parseLines_values {values : List (String × F)}
    (h : ∀ v ∈ values, (Plain v.1 ∧ ¬ Occurs "Header" v.1) ∧ stod v.1 = .ok v.2) {last : String}
    (hheader : ¬ Occurs "Header" last) (hlast : Occurs terminator last) (more : List String) :
    parseLines stod true (values.map Prod.fst ++ last :: more) = .ok (values.map Prod.snd) := by
  induction values with
  | nil =>
    rw [List.map_nil, List.nil_append, parseLines, if_neg hheader, if_pos hlast, List.map_nil]
  | cons v values ih =>
    rw [List.forall_mem_cons] at h
    obtain ⟨⟨⟨hplain, hmark⟩, hvalue⟩, h⟩ := h
    rw [List.map_cons, List.cons_append, parseLines, if_neg hmark, if_neg hplain.unended,
      if_pos rfl, hvalue, ih h]
    rfl

/-- What is parsed of a front part of the reply with the terminator. -/
theorem parseLines_front {front : List Char} (hfront : front <+: reply.text)
    (hoccurs : terminator.toList <:+: front) :
    parseLines stod false (getlines (String.ofList front)) = .ok reply.readings := by
  obtain ⟨blank, rest, hending, rfl⟩ := reply.exists_of_occurs hfront hoccurs
  have hblank : ∀ c ∈ blank, c = '\r' ∨ c = '\n' := fun c hc =>
    reply.ending_blank c (hending ▸ List.mem_append_left rest hc)
  have hunbroken : ∀ l ∈ reply.lines.map String.toList, '\n' ∉ l := by
    rw [List.forall_mem_map]
    exact fun line hline => (reply.plain_of_mem_lines hline).unbroken
  obtain ⟨more, hmore⟩ := exists_linesFrom_eq_cons (List.cons_ne_nil 'E' "nd of Data".toList) blank
  have hfirst : linesFrom [] (terminator.toList ++ blank) =
      (terminator.toList ++ blank.takeWhile (· ≠ '\n')) :: more := hmore
  have hheader : ¬ "Header".toList <:+: terminator.toList ++ blank.takeWhile (· ≠ '\n') := by
    refine Occurrences.not_infix_of_head_notMem (p := 'H') (fun hmem => ?_) "eader".toList
    obtain hmem | hmem := List.mem_append.mp hmem
    · exact absurd hmem (by decide)
    · exact absurd (hblank 'H' (List.takeWhile_subset _ hmem)) (by decide)
  have hlines : (reply.lines.map String.toList).map String.ofList = reply.lines := by
    rw [List.map_map]
    exact (List.map_congr_left fun line _ => String.ofList_toList).trans (List.map_id _)
  rw [getlines, String.toList_ofList, List.append_assoc, linesFrom_lines hunbroken, hfirst,
    List.map_append, hlines, Reply.lines, List.append_assoc, List.append_assoc,
    parseLines_preamble reply.preamble_plain,
    parseLines_header reply.header_ne_nil fun line hline => (reply.header_plain line hline).2]
  exact parseLines_values reply.values_plain (occurs_ofList.not.mpr hheader)
    (occurs_ofList.mpr List.infix_append_left) _

end Parsing

/-! ### Whole fetches -/

section Fetches

variable {F : Type} {stod : String → Except NumberError F} {silent : Thrown}
  {reply : Reply stod} {pieces before rest : List String} {piece : String}

/-- The terminator is complete with the first piece that has it. -/
theorem endsWith_of_first (hpieces : joined (before ++ piece :: rest) = reply.text)
    (hpiece : Occurs terminator piece) : EndsWith (before ++ [piece]) := by
  refine ⟨?_, fun hbefore => ?_⟩
  · rw [joined_append, joined_singleton]
    exact hpiece.trans List.infix_append_right
  · rw [List.dropLast_concat] at hbefore
    rw [joined_append] at hpieces
    obtain ⟨blank, more, hending, hjoined⟩ :=
      reply.exists_of_occurs ⟨_, hpieces⟩ hbefore
    rw [hjoined, Reply.text, hending, List.append_assoc, List.append_cancel_left_eq,
      List.append_cancel_left_eq] at hpieces
    refine not_infix_of_mem_ending (fun c hc => reply.ending_blank c ?_) hpiece
    rw [hending, ← hpieces]
    exact List.mem_append_right _ (List.mem_append_left _ hc)

/-- A fetch of a reply whose terminator lies within a piece. -/
theorem doFetchBuffer_on (hpieces : joined (before ++ piece :: rest) = reply.text)
    (hbefore : ¬ WithinOne before) (hpiece : Occurs terminator piece) {n : ℤ} (hn : 0 ≤ n)
    (sent : List String) : (doFetchBuffer stod silent n).on ⟨before ++ piece :: rest, sent⟩ =
      (.ok reply.readings, ⟨rest, sent⟩) := by
  have hfront : joined (before ++ [piece]) <+: reply.text := by
    rw [← hpieces, List.append_cons before piece rest, joined_append (before ++ [piece])]
    exact List.prefix_append _ _
  have hreserve : ¬ n < 0 := Int.not_lt.mpr hn
  have hparse := parseLines_front hfront (endsWith_of_first hpieces hpiece).complete
  have hread : readBuffer silent "" (before ++ piece :: rest) = _ :=
    readBuffer_append_cons hbefore hpiece ""
  have hbuffer : Stateful.on (S := Fetching) (E := Thrown) (ExceptT.mk fun s =>
      let (buffer, incoming) := readBuffer silent "" s.incoming
      (buffer, { s with incoming })) ⟨before ++ piece :: rest, sent⟩ =
      (.ok (String.ofList (joined (before ++ [piece]))), ⟨rest, sent⟩) := by
    change ((readBuffer silent "" (before ++ piece :: rest)).1, (⟨(readBuffer silent ""
      (before ++ piece :: rest)).2, sent⟩ : Fetching)) = _
    rw [hread]
    rfl
  rw [doFetchBuffer, if_neg hreserve, Stateful.on_bind_of_ok hbuffer, hparse]
  rfl

/-- Where the terminator is cut, the fetch throws. -/
theorem doFetchBuffer_on_of_not_withinOne (h : ¬ WithinOne pieces) {n : ℤ} (hn : 0 ≤ n)
    (sent : List String) : (doFetchBuffer stod silent n).on ⟨pieces, sent⟩ =
      (.error silent, ⟨[], sent⟩) := by
  have hreserve : ¬ n < 0 := Int.not_lt.mpr hn
  rw [doFetchBuffer, if_neg hreserve]
  refine Stateful.on_bind_of_error ?_ _
  change ((readBuffer silent "" pieces).1, (⟨(readBuffer silent "" pieces).2, sent⟩ : Fetching)) = _
  rw [readBuffer_of_not_withinOne h]

/-- A range of the store has as many values as it says. -/
private theorem length_stored {store : List F} {b e : ℤ} (hb : 1 ≤ b) (hbe : b ≤ e)
    (he : e ≤ store.length) : ((stored store b e).length : ℤ) = e - b + 1 := by
  rw [stored, List.length_take, List.length_drop]
  omega

/-- **A fetch is complete if and only if the terminator lies within one of the pieces** in which the
reply is read. -/
theorem complete_iff (hpieces : joined pieces = reply.text) :
    Complete silent reply pieces ↔ WithinOne pieces := by
  constructor
  · intro h
    by_contra hcut
    obtain ⟨upto, rest, -, -, hon⟩ := h.buffer 0 (Int.le_refl 0) []
    -- a terminator over two pieces is not seen, and the fetch goes on until nothing comes
    rw [doFetchBuffer_on_of_not_withinOne hcut (Int.le_refl 0)] at hon
    cases hon
  · intro h
    obtain ⟨before, piece, rest, rfl, hpiece, hbefore⟩ := exists_first_of_withinOne h
    have hfetch : ∀ n : ℤ, 0 ≤ n → ∀ sent, (doFetchBuffer stod silent n).on
        ⟨before ++ piece :: rest, sent⟩ = (.ok reply.readings, ⟨rest, sent⟩) :=
      fun n hn sent => doFetchBuffer_on hpieces hbefore hpiece hn sent
    refine ⟨fun n hn sent => ⟨before ++ [piece], rest, ?_, endsWith_of_first hpieces hpiece,
      hfetch n hn sent⟩, ?_, ?_⟩
    · rw [List.append_assoc, List.singleton_append]
    · intro store answer b e hb hbe he hreadings hanswer sent
      refine ⟨?_, length_stored hb hbe he⟩
      have hsent : (cmdNoResponse answer (rangeRequest b e)).on ⟨[], sent⟩ =
          (.ok (), ⟨before ++ piece :: rest, sent ++ [rangeRequest b e ++ "\r"]⟩) := by
        rw [← hanswer]
        rfl
      have hcount : (getDataStoreCount (.ok store.length)).on ⟨[], sent⟩ =
          (.ok (store.length : ℤ), ⟨[], sent⟩) := rfl
      have hbegin : ¬ b < 1 := Int.not_lt.mpr hb
      have hend : ¬ (store.length : ℤ) < e := Int.not_lt.mpr he
      rw [fetchDataStore, if_neg hbegin, Stateful.on_bind_of_ok hcount, if_neg hend,
        Stateful.on_bind_of_ok hsent, hfetch _ (Int.sub_nonneg_of_le hbe),
        hreadings]
    · intro sign answer n available hn havailable hanswer sent
      have hsent : (cmdNoResponse answer (signedRequest sign n)).on ⟨[], sent⟩ =
          (.ok (), ⟨before ++ piece :: rest, sent ++ [signedRequest sign n ++ "\r"]⟩) := by
        rw [← hanswer]
        rfl
      have hcount : (getDataStoreCount (.ok available)).on ⟨[], sent⟩ =
          (.ok available, ⟨[], sent⟩) := rfl
      have hpos : ¬ n < 1 := Int.not_lt.mpr hn
      have hend : ¬ available < n := Int.not_lt.mpr havailable
      rw [fetchSigned, if_neg hpos, Stateful.on_bind_of_ok hcount, if_neg hend,
        Stateful.on_bind_of_ok hsent,
        hfetch _ (Int.le_trans Int.one_nonneg hn)]

end Fetches

/-- What a read throws when the time is over. -/
def timedOut : Thrown := .protocolError "serial port read timed out..."

/-- A reply with two whole numbers. -/
def twoNumbers : Reply stoi where
  preamble := ["Units: W\r"]
  header := ["End of Header\r"]
  values := [("10\r", 10), ("20\r", 20)]
  ending := "\r\n"
  preamble_plain := List.forall_mem_singleton.mpr ⟨⟨by decide, by decide⟩, by decide⟩
  header_plain := List.forall_mem_singleton.mpr ⟨⟨by decide, by decide⟩, by decide⟩
  header_ne_nil := List.cons_ne_nil _ _
  values_plain := by
    rw [List.forall_mem_cons, List.forall_mem_singleton]
    exact ⟨⟨⟨⟨by decide, by decide⟩, by decide⟩, by decide⟩,
      ⟨⟨by decide, by decide⟩, by decide⟩, by decide⟩
  ending_blank := List.forall_mem_cons.mpr ⟨.inl rfl, List.forall_mem_singleton.mpr (.inr rfl)⟩

/-- The reply is cut within a value, and behind the terminator. -/
theorem complete_iff_twoNumbers :
    Complete timedOut twoNumbers
      ["Units: W\r\nEnd of Header\r\n1", "0\r\n20\r\nEnd of Data", "\r\n"] :=
  (complete_iff rfl).mpr (by decide)

/-- The reply is cut within the terminator. Nothing is returned. -/
theorem terminator_cut : ∃ pieces, joined pieces = twoNumbers.text ∧
    (doFetchBuffer stoi timedOut 1).on ⟨pieces, []⟩ = (.error timedOut, ⟨[], []⟩) ∧
    ¬ Complete timedOut twoNumbers pieces := by
  refine ⟨["Units: W\r\nEnd of Header\r\n10\r\n20\r\nEnd o", "f Data\r\n"], by decide, rfl,
    fun h => ?_⟩
  obtain ⟨upto, rest, -, -, hon⟩ := h.buffer 1 Int.one_nonneg []
  have hthrown : (doFetchBuffer stoi timedOut 1).on
      ⟨["Units: W\r\nEnd of Header\r\n10\r\n20\r\nEnd o", "f Data\r\n"], []⟩ =
      (.error timedOut, ⟨[], []⟩) := rfl
  rw [hthrown] at hon
  cases hon

end DataStore

end Newport

end Foxtrot
