import Foxtrot.Foundation.Stateful
import Foxtrot.Server.Handler

/-!
# Lines over TCP

`simpleTCP::read` fills a buffer of zeros with what a call of `::read` receives, and returns all of
it, whatever has been received. So `read_until_endl` returns zeros behind each piece that is shorter
than the buffer, and where the peer has closed the connection it reads buffers of zeros without end.
What is left is `readUntilEndl_exact_iff`.

The loop takes one piece a round, padded with zeros to the buffer. For a terminator other than zero
a piece has it exactly if its padding has (`mem_pad_iff`), so the rounds follow the pieces, and what
is returned has the length of whole buffers: it is what was received only if each piece fills its
buffer (`length_eq_of_le_flatten`). If zero is the terminator, any padding ends the loop.
-/

namespace Foxtrot

/-- What a stream comes to behind its last byte. -/
inductive StreamEnd where
  | closed
  /-- `::read` fails. -/
  | failed
  /-- `::read` waits. -/
  | silent
  deriving DecidableEq

/-- What is received at a socket: the pieces that the next calls of `::read` receive. -/
structure Incoming where
  chunks : List (List UInt8)
  ending : StreamEnd
  deriving DecidableEq

/-- How a function fails. -/
inductive TcpFault where
  | thrown (e : Thrown)
  /-- It does not end. -/
  | unfinished
  deriving DecidableEq

/-- A function that reads from a socket. -/
abbrev TcpM := Stateful Incoming TcpFault

/-- `simpleTCP`. -/
structure SimpleTcp where
  /-- `_chunk_size`, a positive `int`. -/
  chunkSize : { n : ℕ // 0 < n ∧ n < 2 ^ 31 }

namespace SimpleTcp

/-- A buffer of this length, which begins with the bytes. -/
def pad (len : ℕ) (chunk : List UInt8) : List UInt8 :=
  chunk ++ List.replicate (len - chunk.length) 0

/-- `read`, with what it sets `actlen` to. -/
def read (len : ℕ) : TcpM (List UInt8 × ℕ) :=
  ExceptT.mk fun s =>
    match s.chunks, s.ending with
    | chunk :: rest, ending => (.ok (pad len chunk, chunk.length), ⟨rest, ending⟩)
    | [], .closed => (.ok (pad len [], 0), s)
    | [], .failed =>
      (.error (.thrown (.protocolError "error reading from socket: Bad value for ai_flags")), s)
    | [], .silent => (.error .unfinished, s)

/-- The loop of `read_until_endl`, with at most so many rounds. -/
def untilEndl (tcp : SimpleTcp) (endlchar : UInt8) : ℕ → List UInt8 → TcpM (List UInt8)
  | 0, _ => throw .unfinished
  | rounds + 1, ret =>
    if endlchar ∈ ret then
      return ret
    else do
      let (more, _) ← read tcp.chunkSize.1
      untilEndl tcp endlchar rounds (ret ++ more)

/-- `read_until_endl`. -/
def readUntilEndl (tcp : SimpleTcp) (endlchar : UInt8) (rounds : ℕ) : TcpM (List UInt8) := do
  let (ret, _) ← read tcp.chunkSize.1
  untilEndl tcp endlchar rounds ret

end SimpleTcp

/-! ### Exact lines -/

/-- A way in which the network cuts what the peer sends: no piece is empty, and none is longer than
the buffer. -/
structure TcpStream (tcp : SimpleTcp) extends Incoming where
  ne_nil : ∀ chunk ∈ chunks, chunk ≠ []
  length_le : ∀ chunk ∈ chunks, chunk.length ≤ tcp.chunkSize.1

namespace TcpStream

variable {tcp : SimpleTcp}

/-- These are the pieces up to the first one with the terminator. -/
structure Line (stream : TcpStream tcp) (endlchar : UInt8) (line after : List (List UInt8)) : Prop
    where
  split : stream.chunks = line ++ after
  last : ∃ before chunk, line = before ++ [chunk] ∧ endlchar ∈ chunk ∧
    ∀ chunk ∈ before, endlchar ∉ chunk

/-- **A line is read exactly**: what is returned is what has been received up to the piece with the
terminator, and the call ends where the stream is closed without a terminator. -/
structure ReadExactly (stream : TcpStream tcp) (endlchar : UInt8) : Prop where
  returns : ∀ line after, stream.Line endlchar line after → ∃ rounds,
    (tcp.readUntilEndl endlchar rounds).on stream.toIncoming =
      (.ok line.flatten, ⟨after, stream.ending⟩)
  ends : stream.ending = .closed → (∀ chunk ∈ stream.chunks, endlchar ∉ chunk) → ∃ rounds,
    ((tcp.readUntilEndl endlchar rounds).on stream.toIncoming).1 ≠ .error .unfinished

/-- The pieces of a line fill the buffer, and the stream is not closed without a terminator that is
not zero. -/
structure FillsBuffer (stream : TcpStream tcp) (endlchar : UInt8) : Prop where
  full : ∀ line after, stream.Line endlchar line after →
    ∀ chunk ∈ line, chunk.length = tcp.chunkSize.1
  notClosed : stream.ending = .closed → (∀ chunk ∈ stream.chunks, endlchar ∉ chunk) → endlchar = 0

end TcpStream

namespace SimpleTcp

variable {tcp : SimpleTcp} {endlchar : UInt8} {rounds : ℕ} {ret chunk : List UInt8}
  {chunks rest : List (List UInt8)} {ending : StreamEnd}

/-! ### The rounds of the loop -/

private theorem length_pad {len : ℕ} (h : chunk.length ≤ len) : (pad len chunk).length = len := by
  rw [pad, List.length_append, List.length_replicate]
  omega

private theorem pad_of_length {len : ℕ} (h : chunk.length = len) : pad len chunk = chunk := by
  rw [pad, h, Nat.sub_self, List.replicate_zero, List.append_nil]

/-- What is not zero is in the buffer exactly if it has been received. -/
theorem mem_pad_iff {len : ℕ} (h : endlchar ≠ 0) : endlchar ∈ pad len chunk ↔ endlchar ∈ chunk := by
  rw [pad, List.mem_append, List.mem_replicate]
  exact or_iff_left fun hzero => h hzero.2

/-- The first read is one of the loop. -/
theorem readUntilEndl_eq (tcp : SimpleTcp) (endlchar : UInt8) (rounds : ℕ) :
    tcp.readUntilEndl endlchar rounds = tcp.untilEndl endlchar (rounds + 1) [] := by
  rw [untilEndl, if_neg List.not_mem_nil]
  rfl

/-- With the line end the loop is over. -/
theorem on_untilEndl_of_mem (h : endlchar ∈ ret) (s : Incoming) :
    (tcp.untilEndl endlchar (rounds + 1) ret).on s = (.ok ret, s) := by
  rw [untilEndl, if_pos h]
  rfl

/-- Without it the next chunk is read, and padded. -/
theorem on_untilEndl_cons (h : endlchar ∉ ret) :
    (tcp.untilEndl endlchar (rounds + 1) ret).on ⟨chunk :: rest, ending⟩ =
      (tcp.untilEndl endlchar rounds (ret ++ pad tcp.chunkSize.1 chunk)).on ⟨rest, ending⟩ := by
  rw [untilEndl, if_neg h]
  exact Stateful.on_bind_of_ok rfl _

/-- A closed connection yields nothing but padding. -/
private theorem on_untilEndl_closed (h : endlchar ∉ ret) :
    (tcp.untilEndl endlchar (rounds + 1) ret).on ⟨[], .closed⟩ =
      (tcp.untilEndl endlchar rounds (ret ++ pad tcp.chunkSize.1 [])).on ⟨[], .closed⟩ := by
  rw [untilEndl, if_neg h]
  exact Stateful.on_bind_of_ok rfl _

/-- Pieces that fill the buffer are read as they are. -/
theorem on_untilEndl_full {before after : List (List UInt8)}
    (hfull : ∀ c ∈ before ++ [chunk], c.length = tcp.chunkSize.1) (hlast : endlchar ∈ chunk)
    (hbefore : ∀ c ∈ before, endlchar ∉ c) (hret : endlchar ∉ ret) :
    (tcp.untilEndl endlchar (before.length + 2) ret).on ⟨before ++ chunk :: after, ending⟩ =
      (.ok (ret ++ (before ++ [chunk]).flatten), ⟨after, ending⟩) := by
  induction before generalizing ret with
  | nil =>
    have hpad := pad_of_length (hfull chunk (by simp))
    rw [List.nil_append, on_untilEndl_cons hret, hpad, List.length_nil,
      on_untilEndl_of_mem (List.mem_append_right ret hlast)]
    simp
  | cons c before ih =>
    have hpad := pad_of_length (hfull c (by simp))
    have hmore : endlchar ∉ ret ++ c :=
      List.not_mem_append hret (hbefore c List.mem_cons_self)
    rw [List.cons_append, List.length_cons, on_untilEndl_cons hret, hpad,
      ih (fun c' hc' => hfull c' (List.mem_cons_of_mem c hc'))
        (fun c' hc' => hbefore c' (List.mem_cons_of_mem c hc')) hmore]
    simp

/-- Pieces without the terminator are taken one after the other. -/
theorem on_untilEndl_append {before : List (List UInt8)} (hne : endlchar ≠ 0)
    (hbefore : ∀ c ∈ before, endlchar ∉ c) (hret : endlchar ∉ ret) :
    (tcp.untilEndl endlchar (before.length + rounds) ret).on ⟨before ++ chunks, ending⟩ =
      (tcp.untilEndl endlchar rounds
        (ret ++ (before.map (pad tcp.chunkSize.1)).flatten)).on ⟨chunks, ending⟩ := by
  induction before generalizing ret with
  | nil => rw [List.nil_append, List.length_nil, Nat.zero_add, List.map_nil, List.flatten_nil,
      List.append_nil]
  | cons c before ih =>
    have hmore : endlchar ∉ ret ++ pad tcp.chunkSize.1 c :=
      List.not_mem_append hret (mt (mem_pad_iff hne).mp (hbefore c List.mem_cons_self))
    rw [List.cons_append, List.length_cons, Nat.add_right_comm, on_untilEndl_cons hret,
      ih (fun c' hc' => hbefore c' (List.mem_cons_of_mem c hc')) hmore, List.map_cons,
      List.flatten_cons, List.append_assoc]

/-- What is returned has the length of a number of buffers, at least one for each piece. -/
theorem exists_of_untilEndl {s s' : Incoming} {out : List UInt8}
    (hle : ∀ c ∈ s.chunks, c.length ≤ tcp.chunkSize.1)
    (h : (tcp.untilEndl endlchar rounds ret).on s = (.ok out, s')) :
    ∃ taken, s.chunks = taken ++ s'.chunks ∧
      ret.length + taken.length * tcp.chunkSize.1 ≤ out.length := by
  induction rounds generalizing ret s with
  | zero => cases congrArg Prod.fst h
  | succ rounds ih =>
    by_cases hret : endlchar ∈ ret
    · rw [on_untilEndl_of_mem hret] at h
      obtain ⟨hout, rfl⟩ := Prod.mk.inj h
      obtain rfl := Except.ok.inj hout
      exact ⟨[], rfl, by simp⟩
    · obtain ⟨_ | ⟨chunk, rest⟩, ending⟩ := s
      · cases ending with
        | closed =>
          rw [on_untilEndl_closed hret] at h
          obtain ⟨taken, htaken, hlength⟩ := ih hle h
          rw [List.length_append] at hlength
          exact ⟨taken, htaken, by omega⟩
        | failed | silent =>
          rw [untilEndl, if_neg hret] at h
          obtain ⟨_, _, hread, _⟩ := Stateful.on_bind_eq_ok_iff.mp h
          cases congrArg Prod.fst hread
      · rw [on_untilEndl_cons hret] at h
        obtain ⟨taken, htaken, hlength⟩ :=
          ih (fun c hc => hle c (List.mem_cons_of_mem chunk hc)) h
        rw [List.length_append, length_pad (hle chunk List.mem_cons_self)] at hlength
        refine ⟨chunk :: taken, congrArg (chunk :: ·) htaken, ?_⟩
        rw [List.length_cons, Nat.add_one_mul]
        omega

/-- Where the stream is closed, nothing but zeros can end the loop. -/
theorem on_untilEndl_unfinished (hne : endlchar ≠ 0) (hchunks : ∀ c ∈ chunks, endlchar ∉ c)
    (hret : endlchar ∉ ret) :
    ((tcp.untilEndl endlchar rounds ret).on ⟨chunks, .closed⟩).1 = .error .unfinished := by
  induction rounds generalizing ret chunks with
  | zero => rfl
  | succ rounds ih =>
    have hmore : ∀ chunk, endlchar ∉ chunk → endlchar ∉ ret ++ pad tcp.chunkSize.1 chunk :=
      fun chunk hchunk => List.not_mem_append hret (mt (mem_pad_iff hne).mp hchunk)
    cases chunks with
    | nil =>
      rw [on_untilEndl_closed hret]
      exact ih hchunks (hmore [] List.not_mem_nil)
    | cons chunk rest =>
      rw [on_untilEndl_cons hret]
      exact ih (fun c hc => hchunks c (List.mem_cons_of_mem chunk hc))
        (hmore chunk (hchunks chunk List.mem_cons_self))

/-- A zero ends the loop, at the latest where the stream is closed. -/
theorem on_untilEndl_zero (chunks : List (List UInt8)) (ret : List UInt8) :
    ((tcp.untilEndl 0 (chunks.length + 2) ret).on ⟨chunks, .closed⟩).1 ≠ .error .unfinished := by
  induction chunks generalizing ret with
  | nil =>
    by_cases hret : 0 ∈ ret
    · rw [on_untilEndl_of_mem hret]
      simp
    · have hzero : 0 ∈ ret ++ pad tcp.chunkSize.1 [] := by
        refine List.mem_append_right ret ?_
        rw [pad, List.nil_append, List.mem_replicate]
        exact ⟨Nat.sub_ne_zero_of_lt tcp.chunkSize.2.1, rfl⟩
      rw [List.length_nil, on_untilEndl_closed hret, on_untilEndl_of_mem hzero]
      simp
  | cons chunk rest ih =>
    by_cases hret : 0 ∈ ret
    · rw [on_untilEndl_of_mem hret]
      simp
    · rw [List.length_cons, on_untilEndl_cons hret]
      exact ih _

end SimpleTcp

open SimpleTcp

/-- Lists of a bounded length that together are as long as they can be have that length. -/
theorem length_eq_of_le_flatten {n : ℕ} {l : List (List UInt8)} (hle : ∀ c ∈ l, c.length ≤ n)
    (h : l.length * n ≤ l.flatten.length) : ∀ c ∈ l, c.length = n := by
  have hbound : ∀ l : List (List UInt8), (∀ c ∈ l, c.length ≤ n) →
      l.flatten.length ≤ l.length * n := by
    intro l hl
    induction l with
    | nil => exact Nat.zero_le _
    | cons c l ih =>
      have hrest := ih fun c' hc' => hl c' (List.mem_cons_of_mem c hc')
      have hfirst := hl c List.mem_cons_self
      rw [List.flatten_cons, List.length_append, List.length_cons, Nat.add_one_mul]
      omega
  intro c hc
  obtain ⟨before, after, rfl⟩ := List.append_of_mem hc
  have hfirst := hbound before fun c' hc' => hle c' (by simp [hc'])
  have hrest := hbound after fun c' hc' => hle c' (by simp [hc'])
  have hthis := hle c hc
  simp only [List.length_append, List.length_cons, List.flatten_append, List.flatten_cons,
    Nat.add_mul, Nat.one_mul] at h
  omega

/-- **Lines over TCP are read exactly**, however the network cuts them, exactly if the pieces of a
line fill the buffer, and the stream is not closed without a terminator. -/
theorem readUntilEndl_exact_iff (tcp : SimpleTcp) (endlchar : UInt8) (stream : TcpStream tcp) :
    stream.ReadExactly endlchar ↔ stream.FillsBuffer endlchar := by
  constructor
  · rintro ⟨hreturns, hends⟩
    refine ⟨fun line after hline => ?_, fun hclosed hnone => ?_⟩
    · obtain ⟨rounds, hon⟩ := hreturns line after hline
      rw [readUntilEndl_eq] at hon
      obtain ⟨taken, htaken, hlength⟩ := exists_of_untilEndl stream.length_le hon
      obtain rfl : line = taken := List.append_cancel_right (hline.split.symm.trans htaken)
      refine length_eq_of_le_flatten (fun c hc => stream.length_le c ?_) (by simpa using hlength)
      rw [hline.split]
      exact List.mem_append_left after hc
    · by_contra hne
      obtain ⟨rounds, hon⟩ := hends hclosed hnone
      have hincoming : stream.toIncoming = ⟨stream.chunks, .closed⟩ := by rw [← hclosed]
      rw [readUntilEndl_eq, hincoming] at hon
      exact hon (on_untilEndl_unfinished hne hnone List.not_mem_nil)
  · rintro ⟨hfull, hclosing⟩
    refine ⟨fun line after hline => ?_, fun hclosed hnone => ?_⟩
    · obtain ⟨before, chunk, rfl, hlast, hbefore⟩ := hline.last
      have hincoming : stream.toIncoming = ⟨before ++ chunk :: after, stream.ending⟩ := by
        rw [List.append_cons, ← hline.split]
      refine ⟨before.length + 1, ?_⟩
      rw [readUntilEndl_eq, hincoming,
        on_untilEndl_full (hfull _ after hline) hlast hbefore List.not_mem_nil, List.nil_append]
    · obtain rfl := hclosing hclosed hnone
      have hincoming : stream.toIncoming = ⟨stream.chunks, .closed⟩ := by rw [← hclosed]
      refine ⟨stream.chunks.length + 1, ?_⟩
      rw [readUntilEndl_eq, hincoming]
      exact on_untilEndl_zero _ _

/-- `simpleTCP` with its chunks of 1024 bytes. -/
def defaultTcp : SimpleTcp := ⟨1024, by decide⟩

/-- The line `<00`, in one piece. -/
def shortLine : TcpStream defaultTcp where
  chunks := [[0x3C, 0x30, 0x30, 0x0A]]
  ending := .silent
  ne_nil := by simp
  length_le := by simp [defaultTcp]

/-- Zeros are returned behind a short line. -/
theorem not_readUntilEndl_exact : ¬ shortLine.ReadExactly 0x0A := by
  rw [readUntilEndl_exact_iff]
  rintro ⟨hfull, -⟩
  have hline : shortLine.Line 0x0A [[0x3C, 0x30, 0x30, 0x0A]] [] :=
    ⟨rfl, [], _, rfl, by simp, by simp⟩
  exact absurd (hfull _ _ hline _ List.mem_cons_self) (by decide)

end Foxtrot
