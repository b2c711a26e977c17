import Foxtrot.Apt.Device

/-!
# Waiting for a completion message

The moves of `BSC203` and `TIM101` wait for the completion message by polling: each poll reads what
has arrived and looks for the two bytes of the identifier anywhere in it (`check_code_serport`). The
messages are not taken apart, and nothing is kept from one poll to the next. So the wait ends with
the header of the completion message exactly if the bytes of the identifier are side by side in the
piece that completes the header, and in none before it (`awaitCode_detects_iff`).

A pair of bytes that is put together as an identifier has these two bytes and no others, since a
sign in one of them would show (`chunkOpcode_eq_iff`). So a poll finds the identifier exactly if the
bytes stand side by side in what it has read, in whatever message, and the wait ends with the first
such poll (`awaitCode_eq_ok_iff`). The rest is about positions: a header lies within the first bytes
that have been read, and stays there (`HeaderWithin.mono`).
-/

namespace Foxtrot

namespace Apt

/-! ### The wait -/

/-- Two bytes of what has been read, put together as an identifier. -/
def chunkOpcode (lo hi : UInt8) : UInt32 :=
  charToUnsigned hi <<< 8 ||| charToUnsigned lo &&& 0xFF

/-- The loop of `check_code_serport`. -/
def findCode (expectedOpcode : Bsc203Opcodes) : List UInt8 → Bool
  | lo :: hi :: rest =>
    if chunkOpcode lo hi = expectedOpcode.code.toUInt32 then true
    else findCode expectedOpcode (hi :: rest)
  | _ => false

section Functions

variable {σ : Type}

/-- `check_code_serport`, the same in `BSC203` and in `TIM101`. -/
def checkCodeSerport (expectedOpcode : Bsc203Opcodes) : AptM σ Bool := do
  let headerstr ← readAvailable
  return findCode expectedOpcode headerstr

/-- `while (!check_code_serport(expected_opcode))`, with at most `n` polls. -/
def awaitCode (expectedOpcode : Bsc203Opcodes) : ℕ → AptM σ Unit
  | 0 => throw .unfinished
  | n + 1 => do
    let codein ← checkCodeSerport expectedOpcode
    if codein then
      return
    else
      awaitCode expectedOpcode n

end Functions

/-! ### Messages in pieces -/

/-- A message on the wire: a header, and as many data as it announces. -/
structure WireFrame where
  header : Vector UInt8 6
  payload : List UInt8
  length_payload : payload.length =
    if headerDest header &&& 0x80 = 0x80 then
      256 * (headerP2 header).toNat + (headerP1 header).toNat
    else 0

namespace WireFrame

def bytes (frame : WireFrame) : List UInt8 := frame.header.toList ++ frame.payload

def opcode (frame : WireFrame) : UInt16 := recvOpcode frame.header

end WireFrame

/-- The bytes of the messages, cut into pieces that successive polls read. -/
structure Segmentation (frames : List WireFrame) where
  chunks : List (List UInt8)
  flatten_chunks : chunks.flatten = frames.flatMap WireFrame.bytes

namespace Segmentation

variable {frames : List WireFrame}

/-- The number of bytes that the first polls have read. -/
def received (seg : Segmentation frames) (k : ℕ) : ℕ := (seg.chunks.take k).flatten.length

/-- The header of a completion message lies within the first bytes. -/
def HeaderWithin (frames : List WireFrame) (expectedOpcode : Bsc203Opcodes) (n : ℕ) : Prop :=
  ∃ before frame after, frames = before ++ frame :: after ∧
    frame.opcode = expectedOpcode.code ∧ (before.flatMap WireFrame.bytes).length + 6 ≤ n

/-- **Completion is detected at the header**: the wait has ended after some polls exactly if they
have read the header of a completion message. -/
def Detects (seg : Segmentation frames) (expectedOpcode : Bsc203Opcodes) : Prop :=
  ∀ k, ((awaitCode expectedOpcode k).on
      { Port.receiving [] with polls := seg.chunks }).1 = .ok () ↔
    HeaderWithin frames expectedOpcode (seg.received k)

/-- The bytes of an identifier. -/
def opcodeBytes (expectedOpcode : Bsc203Opcodes) : List UInt8 :=
  LittleEndian.bytes 2 expectedOpcode.code.toNat

/-- As long as the header has not been read, a piece has the bytes of the identifier side by side
exactly if it completes the header. -/
def MarksHeader (seg : Segmentation frames) (expectedOpcode : Bsc203Opcodes) : Prop :=
  ∀ k chunk, seg.chunks[k]? = some chunk →
    ¬ HeaderWithin frames expectedOpcode (seg.received k) →
    (opcodeBytes expectedOpcode <:+: chunk ↔
      HeaderWithin frames expectedOpcode (seg.received (k + 1)))

end Segmentation

/-! ### Looking for the identifier -/

private theorem toNat_code_lt (opcode : Bsc203Opcodes) : opcode.code.toNat < 0x8000 := by
  cases opcode <;> decide

/-- The bytes of an identifier are just what is put together as it: a sign would not fit. -/
theorem chunkOpcode_eq_iff (expectedOpcode : Bsc203Opcodes) (lo hi : UInt8) :
    chunkOpcode lo hi = expectedOpcode.code.toUInt32 ↔
      [lo, hi] = Segmentation.opcodeBytes expectedOpcode := by
  have hlt := toNat_code_lt expectedOpcode
  have hlo := toNat_charToUnsigned lo
  have hhi := toNat_charToUnsigned hi
  have hlo_lt := lo.toNat_lt
  have hhi_lt := hi.toNat_lt
  have hlow : (charToUnsigned lo).toNat % 2 ^ 8 = lo.toNat := by
    split_ifs at hlo <;> omega
  -- the sign of the upper byte stays above the 16 bits of an identifier
  have hshift : (charToUnsigned hi).toNat * 2 ^ 8 % 2 ^ 32 =
      256 * if hi.toNat < 128 then hi.toNat else 0xFFFF00 + hi.toNat := by
    split_ifs at hhi ⊢ <;> omega
  have hopcode : (chunkOpcode lo hi).toNat =
      256 * (if hi.toNat < 128 then hi.toNat else 0xFFFF00 + hi.toNat) + lo.toNat := by
    have height : UInt32.toNat 8 % 32 = 8 := rfl
    have hmask : UInt32.toNat 255 = 2 ^ 8 - 1 := rfl
    simp only [chunkOpcode, UInt32.toNat_or, UInt32.toNat_shiftLeft, UInt32.toNat_and]
    rw [height, hmask, Nat.shiftLeft_eq, Nat.and_two_pow_sub_one_eq_mod, hshift, hlow,
      or_byte _ hlo_lt]
  rw [← UInt32.toNat_inj, hopcode, UInt16.toNat_toUInt32, Segmentation.opcodeBytes,
    LittleEndian.bytes_two, List.cons.injEq, List.cons.injEq, ← UInt8.toNat_inj, ← UInt8.toNat_inj,
    UInt8.toNat_ofNat', UInt8.toNat_ofNat']
  split_ifs <;> simp <;> omega

/-- A code is found exactly if its two bytes occur. -/
private theorem findCode_iff (expectedOpcode : Bsc203Opcodes) (chunk : List UInt8) :
    findCode expectedOpcode chunk = true ↔
      Segmentation.opcodeBytes expectedOpcode <:+: chunk := by
  obtain ⟨a, b, hbytes⟩ : ∃ a b, Segmentation.opcodeBytes expectedOpcode = [a, b] :=
    ⟨_, _, LittleEndian.bytes_two _⟩
  induction chunk with
  | nil => simp [findCode, hbytes]
  | cons lo tail ih =>
    cases tail with
    | nil =>
      refine iff_of_false Bool.false_ne_true fun hinfix => ?_
      have hlength := hinfix.length_le
      rw [hbytes] at hlength
      exact absurd hlength (by simp)
    | cons hi rest =>
      have hprefix : Segmentation.opcodeBytes expectedOpcode <+: lo :: hi :: rest ↔
          chunkOpcode lo hi = expectedOpcode.code.toUInt32 := by
        rw [chunkOpcode_eq_iff, hbytes]
        simp [List.cons_prefix_cons, eq_comm]
      rw [findCode, List.infix_cons_iff, hprefix, ← ih]
      split_ifs with hopcode
      · simp [hopcode]
      · simp [hopcode]

/-- The wait has ended after some polls exactly if one of them has found the identifier. -/
theorem awaitCode_eq_ok_iff {σ : Type} (expectedOpcode : Bsc203Opcodes) (n : ℕ) (port : Port σ) :
    ((awaitCode expectedOpcode n).on port).1 = .ok () ↔
      ∃ k < n, ∃ chunk, port.polls[k]? = some chunk ∧
        Segmentation.opcodeBytes expectedOpcode <:+: chunk := by
  induction n generalizing port with
  | zero =>
    refine iff_of_false (fun h => nomatch h) ?_
    rintro ⟨k, hk, -⟩
    exact absurd hk k.not_lt_zero
  | succ n ih =>
    have hcheck : (checkCodeSerport expectedOpcode).on port =
        (.ok (findCode expectedOpcode (port.polls.headD [])),
          { port.noted [.poll] with polls := port.polls.tail }) := rfl
    rw [awaitCode, Stateful.on_bind_of_ok hcheck]
    cases hpolls : port.polls with
    | nil =>
      have hnone := (ih { port.noted [.poll] with polls := [] }).not.mpr (by simp)
      refine iff_of_false ?_ (by simp)
      exact hnone
    | cons chunk rest =>
      by_cases hfound : findCode expectedOpcode chunk = true
      · have hinfix := (findCode_iff expectedOpcode chunk).mp hfound
        rw [List.headD_cons, if_pos hfound]
        exact iff_of_true rfl ⟨0, n.succ_pos, chunk, rfl, hinfix⟩
      · have hinfix := mt (findCode_iff expectedOpcode chunk).mpr hfound
        rw [List.headD_cons, if_neg hfound, ih, List.tail_cons]
        constructor
        · rintro ⟨k, hk, chunk', hchunk', h⟩
          exact ⟨k + 1, Nat.succ_lt_succ hk, chunk', hchunk', h⟩
        · rintro ⟨_ | k, hk, chunk', hchunk', h⟩
          · exact absurd (Option.some.inj hchunk' ▸ h) hinfix
          · exact ⟨k, Nat.lt_of_succ_lt_succ hk, chunk', hchunk', h⟩

/-- Polling gives no command. -/
theorem quiet_awaitCode {σ : Type} (dest : Destination) (expectedOpcode : Bsc203Opcodes) (n : ℕ) :
    Quiet dest (awaitCode expectedOpcode n : AptM σ Unit) := by
  induction n with
  | zero => exact Quiet.throw _
  | succ n ih =>
    have hcheck : Quiet dest (checkCodeSerport expectedOpcode : AptM σ Bool) :=
      quiet_readAvailable.bind fun _ => Quiet.pure _
    exact hcheck.bind fun _ => (Quiet.pure ()).ite ih

/-! ### The header -/

namespace Segmentation

variable {frames : List WireFrame} {seg : Segmentation frames} {expectedOpcode : Bsc203Opcodes}

/-- A header that has arrived stays. -/
theorem HeaderWithin.mono {m n : ℕ} (h : HeaderWithin frames expectedOpcode m) (hmn : m ≤ n) :
    HeaderWithin frames expectedOpcode n := by
  obtain ⟨before, frame, after, hframes, hopcode, hle⟩ := h
  exact ⟨before, frame, after, hframes, hopcode, hle.trans hmn⟩

private theorem not_headerWithin_zero : ¬ HeaderWithin frames expectedOpcode 0 := by
  rintro ⟨before, frame, after, -, -, hle⟩
  omega

private theorem received_succ_of_some {k : ℕ} {chunk : List UInt8}
    (h : seg.chunks[k]? = some chunk) :
    seg.received (k + 1) = seg.received k + chunk.length := by
  rw [received, received, List.take_add_one, h, Option.toList_some, List.flatten_append,
    List.length_append, List.flatten_singleton]

private theorem received_succ_of_none {k : ℕ} (h : seg.chunks[k]? = none) :
    seg.received (k + 1) = seg.received k := by
  rw [received, received, List.take_add_one, h, Option.toList_none, List.append_nil]

private theorem received_le_succ (k : ℕ) : seg.received k ≤ seg.received (k + 1) := by
  cases hchunk : seg.chunks[k]? with
  | none => exact (received_succ_of_none hchunk).ge
  | some chunk =>
    rw [received_succ_of_some hchunk]
    exact Nat.le_add_right _ _

/-- The pair of bytes has been found by one of the first polls. -/
def Found (seg : Segmentation frames) (expectedOpcode : Bsc203Opcodes) (k : ℕ) : Prop :=
  ∃ i < k, ∃ chunk, seg.chunks[i]? = some chunk ∧ opcodeBytes expectedOpcode <:+: chunk

/-- The code is detected exactly if each poll finds it where its header has arrived. -/
private theorem detects_iff_found : seg.Detects expectedOpcode ↔
    ∀ k, seg.Found expectedOpcode k ↔ HeaderWithin frames expectedOpcode (seg.received k) :=
  forall_congr' fun _ => iff_congr (awaitCode_eq_ok_iff _ _ _) Iff.rfl

/-- The code has been found before, or occurs in the next chunk. -/
private theorem found_succ_iff (k : ℕ) : seg.Found expectedOpcode (k + 1) ↔
    seg.Found expectedOpcode k ∨
      ∃ chunk, seg.chunks[k]? = some chunk ∧ opcodeBytes expectedOpcode <:+: chunk := by
  constructor
  · rintro ⟨i, hi, h⟩
    obtain hlt | rfl := Nat.lt_succ_iff_lt_or_eq.mp hi
    · exact .inl ⟨i, hlt, h⟩
    · exact .inr h
  · rintro (⟨i, hi, h⟩ | h)
    · exact ⟨i, hi.trans k.lt_succ_self, h⟩
    · exact ⟨k, k.lt_succ_self, h⟩

end Segmentation

/-- **Completion messages are detected at frame boundaries**, however the bytes of the messages are
cut, exactly if their identifier is side by side in the piece that completes the header, and in no
piece before it. -/
theorem awaitCode_detects_iff (expectedOpcode : Bsc203Opcodes) (frames : List WireFrame)
    (seg : Segmentation frames) : seg.Detects expectedOpcode ↔ seg.MarksHeader expectedOpcode := by
  rw [Segmentation.detects_iff_found]
  constructor
  · intro h k chunk hchunk hbefore
    have hnotFound := (h k).not.mpr hbefore
    rw [← h (k + 1), Segmentation.found_succ_iff, or_iff_right hnotFound]
    simp [hchunk]
  · intro h k
    -- over the polls: as long as no header has been read, the next piece decides
    induction k with
    | zero =>
      refine iff_of_false ?_ Segmentation.not_headerWithin_zero
      rintro ⟨i, hi, -⟩
      exact absurd hi i.not_lt_zero
    | succ k ih =>
      rw [Segmentation.found_succ_iff, ih]
      by_cases hbefore : Segmentation.HeaderWithin frames expectedOpcode (seg.received k)
      · exact iff_of_true (.inl hbefore) (hbefore.mono (Segmentation.received_le_succ k))
      · rw [or_iff_right hbefore]
        cases hchunk : seg.chunks[k]? with
        | none =>
          rw [Segmentation.received_succ_of_none hchunk]
          exact iff_of_false (by simp) hbefore
        | some chunk => simpa using h k chunk hchunk hbefore

/-- `MGMSG_MOT_MOVE_COMPLETED`. -/
def completionFrame : WireFrame := ⟨#v[0x64, 0x04, 0x01, 0x00, 0x01, 0x21], [], rfl⟩

/-- The two bytes of its identifier are read by different polls. -/
def splitCompletion : Segmentation [completionFrame] :=
  ⟨[[0x64], [0x04, 0x01, 0x00, 0x01, 0x21]], rfl⟩

/-- The completion message is missed. -/
theorem not_awaitCode_detects : ¬ splitCompletion.Detects .motMoveCompleted := by
  intro h
  have hheader : Segmentation.HeaderWithin [completionFrame] .motMoveCompleted
      (splitCompletion.received 2) := ⟨[], completionFrame, [], rfl, by decide, by decide⟩
  have hended := (h 2).mpr hheader
  revert hended
  decide +kernel

end Apt

end Foxtrot
