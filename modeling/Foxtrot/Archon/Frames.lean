import Foxtrot.Archon.Modules
import Foxtrot.Foundation.LittleEndian
import Foxtrot.Foundation.Pieces
import Foxtrot.Protocols.SimpleTcp

/-!
# Fetching a frame from an Archon controller

A frame is fetched in blocks of 1024 bytes, each behind the head `<`, two digits, `:`
(`archon::fetch_buffer` in `devices/archon/archon.cpp`). The handler waits for each block, and puts
the samples together. It looks at the first and the last character of a head, but not at the digits,
and makes room for all the blocks by a number that need not fit in an `int`. So frames are fetched
as they should be exactly if no block has other characters for the digits, and a frame is not that
large (`fetch_assembles_iff`).

What arrives in time is a relation between the socket and the blocks (`Delivers`): each next block
is there at one of the hundred polls. It determines the blocks, so the loop over them reads exactly
these (`on_readBlocks_of_delivers`), and where they do not arrive or are not marked it throws. The
numbers in the frame status only decide how many blocks there are and which command is written.
-/

namespace Foxtrot

open LittleEndian Pieces

/-- The socket of a controller. -/
structure FrameSocket where
  written : List String
  /-- What has arrived, and has not been read. -/
  unread : List UInt8
  /-- What arrives during the next waits, one after the other. -/
  coming : List (List UInt8)

/-- After so many waits. -/
def FrameSocket.after (s : FrameSocket) (waits : ℕ) : FrameSocket where
  written := s.written
  unread := s.unread ++ (s.coming.take waits).flatten
  coming := s.coming.drop waits

/-- After so many bytes have been read. -/
def FrameSocket.behind (s : FrameSocket) (len : ℕ) : FrameSocket :=
  { s with unread := s.unread.drop len }

/-- How fetching fails. -/
inductive FetchFault where
  | thrown (e : Thrown)
  /-- A number does not fit in an `int`. -/
  | overflow
  deriving DecidableEq

/-- What fetching is a computation on. -/
abbrev FetchM := Stateful FrameSocket FetchFault

namespace FrameFetch

/-- `simpleTCP::write`. -/
def write (text : String) : FetchM Unit :=
  ExceptT.mk fun s => (.ok (), { s with written := s.written ++ [text] })

/-- `simpleTCP::bytes_available`. -/
def bytesAvailable : FetchM ℕ := ExceptT.mk fun s => (.ok s.unread.length, s)

/-- `std::this_thread::sleep_for`. -/
def sleep : FetchM Unit := ExceptT.mk fun s => (.ok (), s.after 1)

/-- `simpleTCP::read`. -/
def read (len : ℕ) : FetchM (List UInt8) :=
  ExceptT.mk fun s => (.ok (SimpleTcp.pad len (s.unread.take len)), s.behind len)

/-- What is thrown, or the result. -/
def thrown {A : Type} : Except Thrown A → FetchM A
  | .ok a => return a
  | .error e => throw (.thrown e)

/-- A result of the arithmetic of `int`. -/
def int (n : ℤ) : FetchM ℤ := if -2 ^ 31 ≤ n ∧ n < 2 ^ 31 then return n else throw .overflow

/-! ### The entries of the frame status -/

section Entries

variable (frame : Ssmap) (buf : ℤ)

/-- The number of an entry for a buffer. -/
def entry (name : String) : Except Thrown ℤ := frame.valueAt (bufKey buf name) >>= readInt

/-- `get_width`. -/
def getWidth : Except Thrown ℤ := entry frame buf "WIDTH"

/-- `get_height`. -/
def getHeight : Except Thrown ℤ := entry frame buf "HEIGHT"

/-- `isbuffercomplete`. -/
def isbuffercomplete : Except Thrown Bool := do
  let complete ← entry frame buf "COMPLETE"
  return complete ≠ 0

/-- `get_32bit`. -/
def get32bit : Except Thrown Bool := do
  let sample ← entry frame buf "SAMPLE"
  return sample ≠ 0

/-- The base address, which is a decimal number here. -/
def baseaddr : Except Thrown ℕ := do
  let base ← frame.valueAt (bufKey buf "BASE")
  (Text.stoul base).mapError (thrownByNumber "stoul")

end Entries

/-- `lockbuffer`, from what its command comes to. -/
def lockbuffer (locked : Except Thrown Unit) (buf : ℤ) : Except Thrown Unit :=
  if buf < 1 ∨ buf > 3 then .error (.outOfRange "invalid buffer, must be 1 :3 ") else locked

/-! ### Blocks -/

/-- The loop that waits for a block. -/
def awaitBlock (block : ℕ) : ℕ → FetchM Unit
  | 0 => return ()
  | retries + 1 => do
    let bytesAvail ← bytesAvailable
    if bytesAvail ≥ 1028 then
      return ()
    else do
      sleep
      if retries = 0 then
        throw (.thrown (.deviceError
          ("ran out of retries waiting for buffer read, block:" ++ block.repr)))
      else
        awaitBlock block retries

/-- `parse_binary_response`. -/
def parseBinaryResponse (response : List UInt8) : Except Thrown (List UInt8) :=
  if response[0]? ≠ some 0x3C then
    if response[0]? = some 0x3F then
      .error (.deviceError "archon threw an error message! Check the logs...")
    else
      .error (.protocolError "invalid archon response!")
  else if response[3]? ≠ some 0x3A then
    .error (.protocolError "expected a binary response but didn't get one!")
  else
    .ok (response.drop 4)

/-- The samples of a block, each of so many bytes. -/
def samples (width : ℕ) (bytes : List UInt8) : List UInt32 :=
  (List.range (1024 / width)).map fun k => UInt32.ofNat (value (piece width bytes k))

/-- The loop over the blocks, from the number of those that are left. -/
def readBlocks (width : ℕ) : ℕ → ℕ → List UInt32 → FetchM (List UInt32)
  | 0, _, out => return out
  | left + 1, block, out => do
    awaitBlock block 100
    let ret ← read 1028
    let bytes ← thrown (parseBinaryResponse ret)
    readBlocks width left (block + 1) (out ++ samples width bytes)

/-- The command FETCH. -/
def fetchCommand (address : UInt32) (numBlocks : ℕ) : String :=
  ">00FETCH" ++ String.ofList (Hexadecimal.text 8 address.toNat) ++
    String.ofList (Hexadecimal.text 8 numBlocks) ++ "\n"

/-- `read_back_buffer`. -/
def readBackBuffer (width numBlocks : ℕ) (address : UInt32) : FetchM (List UInt32) := do
  write (fetchCommand address numBlocks)
  let _ ← int (numBlocks * 1024)
  readBlocks width numBlocks 0 []

/-- `std::vector::resize`. -/
def resize (out : List UInt32) (size : ℤ) : FetchM (List UInt32) :=
  if size < 0 then
    throw (.thrown (.exception "vector::_M_default_append"))
  else
    return out.take size.toNat ++ List.replicate (size.toNat - out.length) 0

/-- The bytes of a sample. -/
def sampleWidth (is32 : Bool) : ℕ := if is32 then 4 else 2

/-- `fetch_buffer`, from the status of the frame that `update_state` has got. -/
def fetchBuffer (frame : Ssmap) (locked : Except Thrown Unit) (buf : ℤ) : FetchM (List UInt32) := do
  let complete ← thrown (isbuffercomplete frame buf)
  if complete then do
    thrown (lockbuffer locked buf)
    let width ← thrown (getWidth frame buf)
    let height ← thrown (getHeight frame buf)
    let pixels ← int (width * height)
    let base ← thrown (baseaddr frame buf)
    let is32 ← thrown (get32bit frame buf)
    let numBytes ← int (pixels * sampleWidth is32)
    let numBlocks := count 1024 (numBytes % 2 ^ 32).toNat
    let out ← readBackBuffer (sampleWidth is32) numBlocks (UInt32.ofNat base)
    resize out pixels
  else
    throw (.thrown (.deviceError "buffer not complete for reading!"))

/-! ### Blocks in time -/

/-- The next block is there after so many waits, and not before. -/
def FirstPoll (s : FrameSocket) (waits : ℕ) : Prop :=
  1028 ≤ (s.after waits).unread.length ∧ ∀ earlier < waits, (s.after earlier).unread.length < 1028

/-- These are the next blocks, each of which is there at one of the hundred polls. -/
inductive Delivers : FrameSocket → List (List UInt8) → Prop
  | nil (s : FrameSocket) : Delivers s []
  | cons {s : FrameSocket} {waits : ℕ} {blocks : List (List UInt8)} (hwaits : waits < 100)
      (hfirst : FirstPoll s waits) (rest : Delivers ((s.after waits).behind 1028) blocks) :
      Delivers s ((s.after waits).unread.take 1028 :: blocks)

/-- A block has the characters that the handler looks for. -/
def Marked (block : List UInt8) : Prop := block[0]? = some 0x3C ∧ block[3]? = some 0x3A

/-- There are two digits between them. -/
def Digits (block : List UInt8) : Prop :=
  ∀ b ∈ (block.drop 1).take 2, Hexadecimal.isxdigit (Char.ofNat b.toNat)

variable {s s' : FrameSocket} {block : List UInt8} {blocks : List (List UInt8)}
  {width left n waits retries : ℕ} {out : List UInt32}

private theorem on_thrown_of_ok {A : Type} {x : Except Thrown A} {a : A} (h : x = .ok a) :
    (thrown x).on s = (.ok a, s) := by
  rw [h]
  rfl

private theorem on_int_of_fits {n : ℤ} (hlow : -2 ^ 31 ≤ n) (hhigh : n < 2 ^ 31) :
    (int n).on s = (.ok n, s) := by
  rw [int, if_pos ⟨hlow, hhigh⟩]
  rfl

private theorem on_int_of_overflow {n : ℤ} (h : 2 ^ 31 ≤ n) :
    (int n).on s = (.error .overflow, s) := by
  rw [int, if_neg fun hfits => absurd hfits.2 (not_lt.mpr h)]
  rfl

/-- Waits add up. -/
theorem after_after (s : FrameSocket) (m n : ℕ) : (s.after m).after n = s.after (m + n) := by
  simp only [FrameSocket.after, List.take_add, List.flatten_append, List.drop_drop,
    List.append_assoc]

private theorem after_zero (s : FrameSocket) : s.after 0 = s := by
  simp [FrameSocket.after]

/-- There is one first poll. -/
theorem FirstPoll.unique {waits' : ℕ} (h : FirstPoll s waits) (h' : FirstPoll s waits') :
    waits = waits' := by
  rcases Nat.lt_trichotomy waits waits' with hlt | heq | hlt
  · exact absurd h.1 (not_le.mpr (h'.2 _ hlt))
  · exact heq
  · exact absurd h'.1 (not_le.mpr (h.2 _ hlt))

/-- The blocks are determined by what arrives. -/
theorem Delivers.unique {blocks' : List (List UInt8)} (h : Delivers s blocks)
    (h' : Delivers s blocks') (hlength : blocks.length = blocks'.length) : blocks = blocks' := by
  induction h generalizing blocks' with
  | nil => exact (List.eq_nil_of_length_eq_zero hlength.symm).symm
  | cons _ hfirst _ ih =>
    cases h' with
    | nil => cases hlength
    | cons _ hfirst' rest' =>
      obtain rfl := hfirst.unique hfirst'
      rw [ih rest' (Nat.succ.inj hlength)]

/-- A block has its header and its data. -/
theorem Delivers.length_eq (h : Delivers s blocks) : ∀ b ∈ blocks, b.length = 1028 := by
  induction h with
  | nil => exact fun _ hb => nomatch hb
  | cons _ hfirst _ ih =>
    refine List.forall_mem_cons.mpr ⟨?_, ih⟩
    rw [List.length_take, Nat.min_eq_left hfirst.1]

/-! ### Waiting and reading -/

private theorem on_awaitBlock_of_there {block : ℕ} (h : 1028 ≤ s.unread.length) :
    (awaitBlock block (retries + 1)).on s = (.ok (), s) := by
  have hpoll : bytesAvailable.on s = (.ok s.unread.length, s) := rfl
  rw [awaitBlock, Stateful.on_bind_of_ok hpoll, Stateful.on_ite, if_pos h]
  rfl

/-- One that is not there is waited for, until the retries are used up. -/
private theorem on_awaitBlock_of_not_there {block : ℕ} (h : ¬ 1028 ≤ s.unread.length) :
    (awaitBlock block (retries + 1)).on s =
      if retries = 0 then
        (.error (.thrown (.deviceError
          ("ran out of retries waiting for buffer read, block:" ++ block.repr))), s.after 1)
      else
        (awaitBlock block retries).on (s.after 1) := by
  have hpoll : bytesAvailable.on s = (.ok s.unread.length, s) := rfl
  have hsleep : sleep.on s = (.ok (), s.after 1) := rfl
  rw [awaitBlock, Stateful.on_bind_of_ok hpoll, Stateful.on_ite, if_neg h,
    Stateful.on_bind_of_ok hsleep, Stateful.on_ite]
  rfl

/-- The loop ends at the first poll that finds the block. -/
theorem on_awaitBlock_of_firstPoll (block : ℕ) (h : FirstPoll s waits) (hwaits : waits < retries) :
    (awaitBlock block retries).on s = (.ok (), s.after waits) := by
  induction retries generalizing s waits with
  | zero => exact absurd hwaits (Nat.not_lt_zero _)
  | succ retries ih =>
    cases waits with
    | zero => rw [on_awaitBlock_of_there (after_zero s ▸ h.1), after_zero]
    | succ waits =>
      have hnot : ¬ 1028 ≤ s.unread.length := not_le.mpr (after_zero s ▸ h.2 0 (Nat.succ_pos _))
      have hnext : FirstPoll (s.after 1) waits := by
        refine ⟨?_, fun earlier hlt => ?_⟩
        · rw [after_after, Nat.add_comm]
          exact h.1
        · rw [after_after, Nat.add_comm]
          exact h.2 _ (Nat.succ_lt_succ hlt)
      rw [on_awaitBlock_of_not_there hnot, if_neg (by omega),
        ih hnext (Nat.lt_of_succ_lt_succ hwaits), after_after, Nat.add_comm]

/-- If no poll finds it, there is an exception. -/
theorem on_awaitBlock (retries block : ℕ) (s : FrameSocket) :
    (∃ waits < retries + 1, FirstPoll s waits) ∨
      ∃ e s', (awaitBlock block (retries + 1)).on s = (.error (.thrown e), s') := by
  induction retries generalizing s with
  | zero =>
    by_cases hthere : 1028 ≤ s.unread.length
    · exact .inl ⟨0, Nat.one_pos, (after_zero s).symm ▸ hthere, fun _ h => nomatch h⟩
    · exact .inr ⟨_, _, (on_awaitBlock_of_not_there hthere).trans (if_pos rfl)⟩
  | succ retries ih =>
    by_cases hthere : 1028 ≤ s.unread.length
    · exact .inl ⟨0, Nat.succ_pos _, (after_zero s).symm ▸ hthere, fun _ h => nomatch h⟩
    · obtain ⟨waits, hlt, hfirst⟩ | ⟨e, s', hon⟩ := ih (s.after 1)
      · refine .inl ⟨waits + 1, Nat.succ_lt_succ hlt, ?_, fun earlier hearlier => ?_⟩
        · rw [Nat.add_comm, ← after_after]
          exact hfirst.1
        · cases earlier with
          | zero => exact (after_zero s).symm ▸ not_le.mp hthere
          | succ earlier =>
            rw [Nat.add_comm, ← after_after]
            exact hfirst.2 _ (Nat.lt_of_succ_lt_succ hearlier)
      · refine .inr ⟨e, s', ?_⟩
        rw [on_awaitBlock_of_not_there hthere, if_neg (Nat.succ_ne_zero _), hon]

/-- A block that is there is read as it is. -/
theorem on_read (h : 1028 ≤ s.unread.length) :
    (read 1028).on s = (.ok (s.unread.take 1028), s.behind 1028) := by
  have hfull : SimpleTcp.pad 1028 (s.unread.take 1028) = s.unread.take 1028 := by
    rw [SimpleTcp.pad, List.length_take, Nat.min_eq_left h, Nat.sub_self]
    exact List.append_nil _
  rw [← hfull]
  rfl

private theorem parseBinaryResponse_of_marked (h : Marked block) :
    parseBinaryResponse block = .ok (block.drop 4) := by
  rw [parseBinaryResponse, if_neg (not_not.mpr h.1), if_neg (not_not.mpr h.2)]

private theorem parseBinaryResponse_of_not_marked (h : ¬ Marked block) :
    ∃ e, parseBinaryResponse block = .error e := by
  rw [parseBinaryResponse]
  split_ifs with hhead herror hcolon
  · exact ⟨_, rfl⟩
  · exact ⟨_, rfl⟩
  · exact ⟨_, rfl⟩
  · exact absurd ⟨not_not.mp hhead, not_not.mp hcolon⟩ h

/-- The samples of blocks. -/
def allSamples (width : ℕ) (blocks : List (List UInt8)) : List UInt32 :=
  blocks.flatMap fun block => samples width (block.drop 4)

/-- Blocks that are delivered, and marked, are read. -/
theorem on_readBlocks_of_delivers (width : ℕ) (h : Delivers s blocks)
    (hmarked : ∀ b ∈ blocks, Marked b) (n : ℕ) (out : List UInt32) :
    ∃ s', (readBlocks width blocks.length n out).on s =
      (.ok (out ++ allSamples width blocks), s') := by
  induction h generalizing n out with
  | nil s => exact ⟨s, by rw [allSamples, List.flatMap_nil, List.append_nil]; rfl⟩
  | cons hwaits hfirst _ ih =>
    rw [List.forall_mem_cons] at hmarked
    obtain ⟨s', hrest⟩ := ih hmarked.2 (n + 1) (out ++ samples width (List.drop 4 _))
    refine ⟨s', ?_⟩
    rw [List.length_cons, readBlocks,
      Stateful.on_bind_of_ok (on_awaitBlock_of_firstPoll _ hfirst hwaits),
      Stateful.on_bind_of_ok (on_read hfirst.1),
      Stateful.on_bind_of_ok (on_thrown_of_ok (parseBinaryResponse_of_marked hmarked.1)), hrest,
      allSamples, allSamples, List.flatMap_cons, List.append_assoc]

/-- Blocks are read only if they are delivered, and marked; otherwise there is an exception. -/
theorem on_readBlocks (width : ℕ) (s : FrameSocket) (left n : ℕ) (out : List UInt32) :
    (∃ blocks, Delivers s blocks ∧ blocks.length = left ∧ ∀ b ∈ blocks, Marked b) ∨
      ∃ e s', (readBlocks width left n out).on s = (.error (.thrown e), s') := by
  induction left generalizing s n out with
  | zero => exact .inl ⟨[], .nil s, rfl, fun _ h => nomatch h⟩
  | succ left ih =>
    obtain ⟨waits, hwaits, hfirst⟩ | ⟨e, s', hon⟩ := on_awaitBlock 99 n s
    · have hawait := on_awaitBlock_of_firstPoll n hfirst hwaits
      by_cases hmarked : Marked ((s.after waits).unread.take 1028)
      · obtain ⟨blocks, hdelivers, hlength, hall⟩ | ⟨e, s', hon⟩ :=
          ih ((s.after waits).behind 1028) (n + 1)
            (out ++ samples width (((s.after waits).unread.take 1028).drop 4))
        · exact .inl ⟨_, .cons hwaits hfirst hdelivers, congrArg (· + 1) hlength,
            List.forall_mem_cons.mpr ⟨hmarked, hall⟩⟩
        · refine .inr ⟨e, s', ?_⟩
          rw [readBlocks, Stateful.on_bind_of_ok hawait, Stateful.on_bind_of_ok (on_read hfirst.1),
            Stateful.on_bind_of_ok (on_thrown_of_ok (parseBinaryResponse_of_marked hmarked)), hon]
      · obtain ⟨e, he⟩ := parseBinaryResponse_of_not_marked hmarked
        have hthrown : (thrown (parseBinaryResponse ((s.after waits).unread.take 1028))).on
            ((s.after waits).behind 1028) = (.error (.thrown e), (s.after waits).behind 1028) := by
          rw [he]
          rfl
        refine .inr ⟨e, (s.after waits).behind 1028, ?_⟩
        rw [readBlocks, Stateful.on_bind_of_ok hawait, Stateful.on_bind_of_ok (on_read hfirst.1),
          Stateful.on_bind_of_error hthrown]
    · refine .inr ⟨e, s', ?_⟩
      rw [readBlocks, Stateful.on_bind_of_error hon]

/-- Nothing is written while blocks are read. -/
theorem maintains_readBlocks (P : List String → Prop) (width left n : ℕ) (out : List UInt32) :
    Stateful.Maintains (fun s => P s.written) (readBlocks width left n out) := by
  have hawait : ∀ block retries,
      Stateful.Maintains (fun s => P s.written) (awaitBlock block retries) := by
    intro block retries
    induction retries with
    | zero => exact .pure _
    | succ retries ih =>
      exact .bind (fun _ h => h) fun _ => .ite (fun _ => .pure _) fun _ =>
        .bind (fun _ h => h) fun _ => .ite (fun _ => .throw _) fun _ => ih
  have hthrown : ∀ {A : Type} (x : Except Thrown A),
      Stateful.Maintains (fun s => P s.written) (thrown x) := by
    rintro A (e | a)
    · exact .throw _
    · exact .pure _
  induction left generalizing n out with
  | zero => exact .pure _
  | succ left ih =>
    exact .bind (hawait n 100) fun _ => .bind (fun _ h => h) fun _ => .bind (hthrown _) fun _ =>
      ih _ _

end FrameFetch

/-! ### Frames -/

open FrameFetch

/-- A buffer that is complete, with the entries that describe it. -/
structure ReadyBuffer where
  frame : Ssmap
  buf : ℤ
  width : ℕ
  height : ℕ
  is32 : Bool
  base : UInt32
  buf_ok : ¬ (buf < 1 ∨ buf > 3)
  complete : isbuffercomplete frame buf = .ok true
  width_eq : getWidth frame buf = .ok width
  height_eq : getHeight frame buf = .ok height
  is32_eq : get32bit frame buf = .ok is32
  base_eq : baseaddr frame buf = .ok base.toNat
  bytes_lt : width * height * sampleWidth is32 < 2 ^ 31

namespace ReadyBuffer

def pixels (f : ReadyBuffer) : ℕ := f.width * f.height

def numBytes (f : ReadyBuffer) : ℕ := f.pixels * sampleWidth f.is32

def numBlocks (f : ReadyBuffer) : ℕ := count 1024 f.numBytes

/-- The buffer is fetched, where the command that locks it succeeds. -/
def fetch (f : ReadyBuffer) : FetchM (List UInt32) := fetchBuffer f.frame (.ok ()) f.buf

/-- A command FETCH for the blocks that cover the frame, from its base address on. -/
def Requests (f : ReadyBuffer) (text : String) : Prop :=
  ∃ address blocks n, text = ">00FETCH" ++ String.ofList address ++ String.ofList blocks ++ "
" ∧
    address.length = 8 ∧ blocks.length = 8 ∧ Hexadecimal.readNat address = some f.base.toNat ∧
    Hexadecimal.readNat blocks = some n ∧ ∀ k, n ≤ k ↔ f.numBytes ≤ k * 1024

/-- The values are the samples in the data of the blocks. -/
def IsFrame (f : ReadyBuffer) (blocks : List (List UInt8)) (out : List UInt32) : Prop :=
  out.map UInt32.toNat = (List.range f.pixels).map fun i =>
    value (piece (sampleWidth f.is32) (blocks.flatMap (List.drop 4)) i)

/-- The blocks of the frame arrive in time, and are well-formed. -/
def Arrives (f : ReadyBuffer) (s : FrameSocket) (blocks : List (List UInt8)) : Prop :=
  Delivers s blocks ∧ blocks.length = f.numBlocks ∧ ∀ b ∈ blocks, Marked b ∧ Digits b

/-- **A frame is assembled exactly**: the blocks that cover it are requested, and their samples are
returned if they arrive and are well-formed; otherwise there is an exception. -/
structure Assembles (f : ReadyBuffer) (s : FrameSocket)
    (ended : Except FetchFault (List UInt32) × FrameSocket) : Prop where
  requests : ∃ text, ended.2.written = s.written ++ [text] ∧ f.Requests text
  returns : ∀ blocks, f.Arrives s blocks → ∃ out, ended.1 = .ok out ∧ f.IsFrame blocks out
  throws : (¬ ∃ blocks, f.Arrives s blocks) → ∃ e, ended.1 = .error (.thrown e)

/-- Where all the blocks arrive with the characters that the handler looks for, they have digits. -/
def DigitsWhereMarked (f : ReadyBuffer) (s : FrameSocket) : Prop :=
  ∀ blocks, Delivers s blocks → blocks.length = f.numBlocks → (∀ b ∈ blocks, Marked b) →
    ∀ b ∈ blocks, Digits b

variable {f : ReadyBuffer} {s : FrameSocket} {blocks : List (List UInt8)}

private theorem sampleWidth_cases (is32 : Bool) : sampleWidth is32 = 4 ∨ sampleWidth is32 = 2 := by
  cases is32
  · exact .inr rfl
  · exact .inl rfl

/-- The bytes of a frame are counted in 32 bits. -/
private theorem numBytes_lt (f : ReadyBuffer) : f.numBytes < 2 ^ 31 := f.bytes_lt

/-- The pixels of a frame are counted in 32 bits. -/
private theorem pixels_lt (f : ReadyBuffer) : f.pixels < 2 ^ 31 := by
  have hlt := f.numBytes_lt
  rw [numBytes] at hlt
  obtain h | h := sampleWidth_cases f.is32 <;> rw [h] at hlt <;> omega

/-- The entries lead to the numbers of the frame. -/
theorem on_fetch (f : ReadyBuffer) (s : FrameSocket) : f.fetch.on s =
    (readBackBuffer (sampleWidth f.is32) f.numBlocks f.base >>= fun out =>
      resize out f.pixels).on s := by
  have hlock : lockbuffer (.ok ()) f.buf = .ok () := if_neg f.buf_ok
  have hpixels : (int ((f.width : ℤ) * f.height)).on s = (.ok (f.pixels : ℤ), s) := by
    have hlt := f.pixels_lt
    rw [← Nat.cast_mul]
    exact on_int_of_fits (by rw [← pixels]; omega) (by rw [← pixels]; omega)
  have hbytes : (int ((f.pixels : ℤ) * (sampleWidth f.is32 : ℕ))).on s =
      (.ok (f.numBytes : ℤ), s) := by
    have hlt := f.numBytes_lt
    rw [← Nat.cast_mul]
    exact on_int_of_fits (by rw [← numBytes]; omega) (by rw [← numBytes]; omega)
  have hcast : ((f.numBytes : ℤ) % 2 ^ 32).toNat = f.numBytes := by
    have hlt := f.numBytes_lt
    omega
  rw [fetch, fetchBuffer, Stateful.on_bind_of_ok (on_thrown_of_ok f.complete), Stateful.on_ite,
    if_pos rfl, Stateful.on_bind_of_ok (on_thrown_of_ok hlock),
    Stateful.on_bind_of_ok (on_thrown_of_ok f.width_eq),
    Stateful.on_bind_of_ok (on_thrown_of_ok f.height_eq), Stateful.on_bind_of_ok hpixels,
    Stateful.on_bind_of_ok (on_thrown_of_ok f.base_eq),
    Stateful.on_bind_of_ok (on_thrown_of_ok f.is32_eq), Stateful.on_bind_of_ok hbytes, hcast,
    UInt32.ofNat_toNat]
  rfl

/-- The command that is written asks for the right blocks. -/
theorem requests_fetchCommand (f : ReadyBuffer) :
    f.Requests (fetchCommand f.base f.numBlocks) := by
  have hblocks : f.numBlocks < 16 ^ 8 := by
    have hle := count_le (c := 1024) (by decide) f.numBytes
    have hlt := f.numBytes_lt
    rw [numBlocks]
    omega
  exact ⟨_, _, f.numBlocks, rfl, Hexadecimal.length_text _ _, Hexadecimal.length_text _ _,
    Hexadecimal.readNat_text (by decide) f.base.toNat_lt,
    Hexadecimal.readNat_text (by decide) hblocks, fun k => count_le_iff (by decide)⟩

/-- The samples that are read are those of the frame, and more from the rest of the last block. -/
theorem isFrame_take (hlength : ∀ b ∈ blocks, b.length = 1028)
    (hblocks : blocks.length = f.numBlocks) :
    f.IsFrame blocks ((allSamples (sampleWidth f.is32) blocks).take f.pixels) := by
  let w := sampleWidth f.is32
  have hw : 1024 / w * w = 1024 ∧ 0 < w ∧ w ≤ 4 := by
    obtain h | h := sampleWidth_cases f.is32 <;> simp only [w, h] <;> decide
  have hall : allSamples w blocks = (List.range (f.numBlocks * (1024 / w))).map fun k =>
      UInt32.ofNat (value (piece w (blocks.flatMap (List.drop 4)) k)) := by
    have hdata : ∀ d ∈ blocks.map (List.drop 4), d.length = 1024 / w * w := by
      rw [List.forall_mem_map, hw.1]
      intro b hb
      rw [List.length_drop, hlength b hb]
    have hpieces := flatMap_map_piece hdata fun bytes => UInt32.ofNat (value bytes)
    rw [List.length_map, hblocks, ← List.flatMap_def, List.flatMap_map] at hpieces
    exact hpieces
  have hcover : f.pixels ≤ f.numBlocks * (1024 / w) := by
    have hle : f.pixels * w ≤ f.numBlocks * (1024 / w) * w := by
      rw [Nat.mul_assoc, hw.1]
      exact le_count_mul (by decide) f.numBytes
    exact Nat.le_of_mul_le_mul_right hle hw.2.1
  have hvalue : ∀ k, (UInt32.ofNat (value (piece w (blocks.flatMap (List.drop 4)) k))).toNat =
      value (piece w (blocks.flatMap (List.drop 4)) k) := by
    intro k
    have hlt := value_lt (piece w (blocks.flatMap (List.drop 4)) k)
    have hle : (piece w (blocks.flatMap (List.drop 4)) k).length ≤ 4 := by
      rw [piece, List.length_take]
      omega
    rw [UInt32.toNat_ofNat', Nat.mod_eq_of_lt]
    exact hlt.trans_le (Nat.pow_le_pow_right (by decide) hle)
  rw [IsFrame, hall, ← List.map_take, List.take_range, Nat.min_eq_left hcover, List.map_map]
  exact List.map_congr_left fun k _ => hvalue k

/-- After the command has been written. -/
def requested (f : ReadyBuffer) (s : FrameSocket) : FrameSocket :=
  { s with written := s.written ++ [fetchCommand f.base f.numBlocks] }

/-- Writing the command does not change what arrives. -/
theorem delivers_requested_iff : Delivers (f.requested s) blocks ↔ Delivers s blocks := by
  have hwritten : ∀ {s : FrameSocket} {blocks} (written : List String), Delivers s blocks →
      Delivers { s with written } blocks := by
    intro s blocks written h
    induction h with
    | nil s => exact .nil _
    | cons hwaits hfirst _ ih => exact .cons hwaits hfirst ih
  exact ⟨hwritten s.written, hwritten _⟩

/-- The number of bytes in the blocks fits in an `int`. -/
def Fits (f : ReadyBuffer) : Prop := f.numBytes + 1024 ≤ 2 ^ 31

/-- A frame that fits is requested, and its blocks are read. -/
private theorem on_fetch_of_fits (h : f.Fits) : f.fetch.on s =
    (readBlocks (sampleWidth f.is32) f.numBlocks 0 [] >>= fun out => resize out f.pixels).on
      (f.requested s) := by
  have hwrite : (write (fetchCommand f.base f.numBlocks)).on s = (.ok (), f.requested s) := rfl
  have hsize : (int (f.numBlocks * 1024)).on (f.requested s) =
      (.ok ((f.numBlocks : ℤ) * 1024), f.requested s) := by
    have hlt := count_mul_lt (c := 1024) (by decide) f.numBytes
    rw [Fits] at h
    rw [← numBlocks] at hlt
    exact on_int_of_fits (by omega) (by omega)
  rw [on_fetch, readBackBuffer, bind_assoc, Stateful.on_bind_of_ok hwrite, bind_assoc,
    Stateful.on_bind_of_ok hsize]

/-- Where it does not, the behaviour is undefined. -/
theorem on_fetch_of_not_fits (h : ¬ f.Fits) :
    f.fetch.on s = (.error .overflow, f.requested s) := by
  have hwrite : (write (fetchCommand f.base f.numBlocks)).on s = (.ok (), f.requested s) := rfl
  have hsize : (int (f.numBlocks * 1024)).on (f.requested s) =
      (.error .overflow, f.requested s) := by
    have hle := le_count_mul (c := 1024) (by decide) f.numBytes
    rw [Fits] at h
    rw [← numBlocks] at hle
    exact on_int_of_overflow (by omega)
  rw [on_fetch, readBackBuffer, bind_assoc, Stateful.on_bind_of_ok hwrite, bind_assoc,
    Stateful.on_bind_of_error hsize]

/-- The frame is read where the blocks arrive with the characters that the handler looks for. -/
theorem on_fetch_of_marked (h : f.Fits) (hdelivers : Delivers s blocks)
    (hblocks : blocks.length = f.numBlocks) (hmarked : ∀ b ∈ blocks, Marked b) :
    ∃ out, (f.fetch.on s).1 = .ok out ∧ f.IsFrame blocks out := by
  have hframe := isFrame_take hdelivers.length_eq hblocks
  obtain ⟨s', hread⟩ := on_readBlocks_of_delivers (sampleWidth f.is32)
    (delivers_requested_iff (f := f).mpr hdelivers) hmarked 0 []
  rw [hblocks, List.nil_append] at hread
  have hlength : ((allSamples (sampleWidth f.is32) blocks).take f.pixels).length = f.pixels := by
    have hlengths := congrArg List.length hframe
    rwa [List.length_map, List.length_map, List.length_range] at hlengths
  have hresize : (resize (allSamples (sampleWidth f.is32) blocks) f.pixels).on s' =
      (.ok ((allSamples (sampleWidth f.is32) blocks).take f.pixels), s') := by
    rw [List.length_take] at hlength
    rw [resize, if_neg (by omega), Int.toNat_natCast, Nat.sub_eq_zero_of_le (by omega)]
    exact congrArg (fun out => (Except.ok out, s')) (List.append_nil _)
  refine ⟨_, ?_, hframe⟩
  rw [on_fetch_of_fits h, Stateful.on_bind_of_ok hread, hresize]

/-- It is read only there; otherwise there is an exception. -/
theorem on_fetch_cases (h : f.Fits) (s : FrameSocket) :
    (∃ blocks, Delivers s blocks ∧ blocks.length = f.numBlocks ∧ ∀ b ∈ blocks, Marked b) ∨
      ∃ e, (f.fetch.on s).1 = .error (.thrown e) := by
  obtain ⟨blocks, hdelivers, hread⟩ | ⟨e, s', hread⟩ :=
    on_readBlocks (sampleWidth f.is32) (f.requested s) f.numBlocks 0 []
  · exact .inl ⟨blocks, delivers_requested_iff.mp hdelivers, hread⟩
  · exact .inr ⟨e, by rw [on_fetch_of_fits h, Stateful.on_bind_of_error hread]⟩

/-- The command is all that is written. -/
theorem written_fetch (f : ReadyBuffer) (s : FrameSocket) :
    (f.fetch.on s).2.written = s.written ++ [fetchCommand f.base f.numBlocks] := by
  by_cases h : f.Fits
  · have hmaintains : Stateful.Maintains
        (fun s' : FrameSocket => s'.written = s.written ++ [fetchCommand f.base f.numBlocks])
        (readBlocks (sampleWidth f.is32) f.numBlocks 0 [] >>= fun out => resize out f.pixels) :=
      .bind (maintains_readBlocks (· = _) _ _ _ _) fun _ =>
        .ite (fun _ => .throw _) fun _ => .pure _
    rw [on_fetch_of_fits h]
    exact hmaintains _ rfl
  · rw [on_fetch_of_not_fits h]
    rfl

/-- **Frames of an Archon controller**: a frame is assembled exactly if the bytes of its blocks are
not too many for an `int`, and no block has other characters for the digits. -/
theorem fetch_assembles_iff (f : ReadyBuffer) (s : FrameSocket) :
    f.Assembles s (f.fetch.on s) ↔ f.Fits ∧ f.DigitsWhereMarked s := by
  constructor
  · intro hassembles
    have hfits : f.Fits := by
      by_contra hnot
      have hon := on_fetch_of_not_fits (s := s) hnot
      by_cases harrives : ∃ blocks, f.Arrives s blocks
      · obtain ⟨blocks, hblocks⟩ := harrives
        obtain ⟨out, hout, -⟩ := hassembles.returns blocks hblocks
        rw [hon] at hout
        cases hout
      · obtain ⟨e, he⟩ := hassembles.throws harrives
        rw [hon] at he
        cases he
    refine ⟨hfits, fun blocks hdelivers hblocks hmarked => ?_⟩
    obtain ⟨out, hout, -⟩ := on_fetch_of_marked hfits hdelivers hblocks hmarked
    have harrives : ∃ blocks', f.Arrives s blocks' := by
      by_contra hnot
      obtain ⟨e, he⟩ := hassembles.throws hnot
      rw [hout] at he
      cases he
    obtain ⟨blocks', hdelivers', hblocks', hwell⟩ := harrives
    obtain rfl := hdelivers.unique hdelivers' (hblocks.trans hblocks'.symm)
    exact fun b hb => (hwell b hb).2
  · rintro ⟨hfits, hdigits⟩
    refine ⟨⟨_, f.written_fetch s, f.requests_fetchCommand⟩, fun blocks h => ?_, fun hnot => ?_⟩
    · exact on_fetch_of_marked hfits h.1 h.2.1 fun b hb => (h.2.2 b hb).1
    · obtain ⟨blocks, hdelivers, hblocks, hmarked⟩ | herror := on_fetch_cases hfits s
      · exact absurd ⟨blocks, hdelivers, hblocks, fun b hb =>
          ⟨hmarked b hb, hdigits blocks hdelivers hblocks hmarked b hb⟩⟩ hnot
      · exact herror

end ReadyBuffer

/-- A buffer with a frame of one sample of two bytes. -/
def onePixel : ReadyBuffer where
  frame := [("BUF1COMPLETE", "1"), ("BUF1WIDTH", "1"), ("BUF1HEIGHT", "1"), ("BUF1SAMPLE", "0"),
    ("BUF1BASE", "0")].foldr (fun entry map => map.insert entry.1 entry.2) ∅
  buf := 1
  width := 1
  height := 1
  is32 := false
  base := 0
  buf_ok := by decide
  complete := by rfl
  width_eq := by rfl
  height_eq := by rfl
  is32_eq := by rfl
  base_eq := by rfl
  bytes_lt := by decide

/-- A block with the head `<xx:`. -/
def letteredBlock : List UInt8 := [0x3C, 0x78, 0x78, 0x3A] ++ List.replicate 1024 0

/-- A frame is returned where the block has no digits. -/
theorem not_fetch_assembles :
    ¬ onePixel.Assembles ⟨[], letteredBlock, []⟩ (onePixel.fetch.on ⟨[], letteredBlock, []⟩) := by
  have hlength : letteredBlock.length = 1028 := by
    rw [letteredBlock, List.length_append, List.length_replicate]
    rfl
  have hfirst : FirstPoll ⟨[], letteredBlock, []⟩ 0 :=
    ⟨by rw [after_zero, hlength], fun _ h => nomatch h⟩
  have hdelivers := Delivers.cons (by decide) hfirst (.nil _)
  rw [after_zero, List.take_of_length_le hlength.le] at hdelivers
  rw [ReadyBuffer.fetch_assembles_iff]
  rintro ⟨-, hdigits⟩
  have hblock : Digits letteredBlock :=
    hdigits _ hdelivers rfl (List.forall_mem_singleton.mpr ⟨rfl, rfl⟩) _ List.mem_cons_self
  have htaken : (letteredBlock.drop 1).take 2 = [0x78, 0x78] := rfl
  exact absurd (hblock 0x78 (htaken ▸ List.mem_cons_self)) (by decide)

end Foxtrot
