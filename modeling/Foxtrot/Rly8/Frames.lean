import Foxtrot.Apt.Framing
import Foxtrot.Foundation.Fallible
import Mathlib.Data.List.GetD

/-!
# The frames of the RLY-8

`RLY_8::extract_response` takes the payload out of a frame. It compares the two marks, the address
and the checksum, but it does not compare the length of what has been received with the one that the
frame announces, and takes this as a signed character. So a frame that is cut short makes it read
what has not been received, one that is too long is accepted, and none with a payload of 128 bytes
or more is. What is left is `extractResponse_exact_iff`.

The checks are made in order, each on one byte: the two marks, the address, and at the end of what
has been received the checksum. A byte just behind the end reads as zero, and one further on is out
of bounds, which is undefined; `checkHeader_cases` says that the header is never read that far,
because the check before fails on the zero. Behind the checks the announced length decides alone
(`exact_copyData_iff`).
-/

namespace Foxtrot

open Fallible

namespace Rly8

/-- `RLY_8_Commands`. -/
inductive Rly8Commands where
  | queryVersion
  | queryRelayState
  | setRelay
  deriving DecidableEq

def Rly8Commands.code : Rly8Commands → UInt8
  | queryVersion => 0x07
  | queryRelayState => 0x01
  | setRelay => 0x00

/-- How a function fails. -/
inductive Fault where
  | thrown (e : Thrown)
  /-- It reads outside of the received bytes. -/
  | outOfBounds
  deriving DecidableEq

/-- `calc_checksum`, of elements that are converted like this when they are added up. -/
def calcChecksum (toUnsigned : UInt8 → UInt32) (elements : List UInt8) : UInt8 :=
  (elements.foldl (fun sum it => sum + toUnsigned it) 0 % 256).toUInt8

/-- `assemble_cmd`. -/
def assembleCmd (addr : UInt8) (cmd : Rly8Commands) (data : List UInt8) :
    Except Fault (List UInt8) :=
  if data.length > 255 then
    .error (.thrown (.outOfRange "data supplied is too long!"))
  else
    let req := [0x55, 0xAA, addr, UInt8.ofNat data.length, cmd.code] ++ data
    .ok (req ++ [calcChecksum UInt8.toUInt32 req])

/-- `response[i]`. Behind its last character, a string has a zero. -/
def charAt (response : List UInt8) (i : ℕ) : Except Fault UInt8 :=
  if i ≤ response.length then .ok (response.getD i 0) else .error .outOfBounds

/-- The checks of `extract_response` up to the address. -/
def checkHeader (addr : UInt8) (response : List UInt8) : Except Fault Unit := do
  let first ← charAt response 0
  if first ≠ 0x55 then
    throw (.thrown (.deviceError "first byte should be 0x55!"))
  else do
    let second ← charAt response 1
    if second ≠ 0xAA then
      throw (.thrown (.deviceError "second byte should be 0xAA"))
    else do
      let source ← charAt response 2
      if source ≠ addr then
        throw (.thrown (.deviceError "unexpected source address!"))
      else
        return

/-- The end of `extract_response`: `resize`, and `std::copy`. A negative length is too large a size.
-/
def copyData (response : List UInt8) (length : UInt8) : Except Fault (List UInt8) :=
  if 128 ≤ length.toNat then
    .error (.thrown (.exception "vector::_M_default_append"))
  else if length.toNat = 0 ∨ 5 + length.toNat ≤ response.length then
    .ok ((response.drop 5).take length.toNat)
  else
    .error .outOfBounds

/-- `extract_response`. It reads the command word to log it. -/
def extractResponse (addr : UInt8) (response : List UInt8) (_expdCmd : Rly8Commands) :
    Except Fault (List UInt8) := do
  checkHeader addr response
  let _cmdWord ← charAt response 4
  match response.getLast? with
  | none => throw .outOfBounds
  | some recvCsum =>
    let calcCsum := calcChecksum Apt.charToUnsigned response.dropLast
    if recvCsum ≠ calcCsum then
      throw (.thrown (.deviceError
        s!"received checksum was: {recvCsum.toNat}, but expected: {calcCsum.toNat}"))
    else do
      let length ← charAt response 3
      copyData response length

/-! ### Frames -/

/-- A well-formed frame with this payload. -/
def IsFrame (addr : UInt8) (response payload : List UInt8) : Prop :=
  payload.length < 256 ∧ ∃ cmd : UInt8,
    response = [0x55, 0xAA, addr, UInt8.ofNat payload.length, cmd] ++ payload ++
      [([0x55, 0xAA, addr, UInt8.ofNat payload.length, cmd] ++ payload).sum]

/-- **A response is decoded exactly**: the payload of a well-formed frame is returned, and for other
bytes an exception is thrown. -/
structure Exact (addr : UInt8) (response : List UInt8) (result : Except Fault (List UInt8)) :
    Prop where
  returns : ∀ payload, result = .ok payload ↔ IsFrame addr response payload
  throws : (∃ payload, result = .ok payload) ∨ ∃ e, result = .error (.thrown e)

/-- The marks and the address are what they should be. -/
def HeaderPasses (addr : UInt8) (response : List UInt8) : Prop :=
  response.getD 0 0 = 0x55 ∧ response.getD 1 0 = 0xAA ∧ response.getD 2 0 = addr

/-- The last byte is the sum of the others. -/
def ChecksumPasses (response : List UInt8) : Prop := response.getLast? = some response.dropLast.sum

/-- The length that is announced. -/
def announced (response : List UInt8) : ℕ := (response.getD 3 0).toNat

/-- Bytes with the right marks and address are four at least, and if their checksum is right as
well, then they are as many as announced exactly if that is below 128. -/
structure LengthsAgree (addr : UInt8) (response : List UInt8) : Prop where
  long : HeaderPasses addr response → 4 ≤ response.length
  below : HeaderPasses addr response → ChecksumPasses response →
    (response.length = announced response + 6 ↔ announced response < 128)

/-! ### Checksums -/

/-- Whether the elements have a sign does not matter: the sum is that of the bytes. -/
theorem calcChecksum_eq_sum {toUnsigned : UInt8 → UInt32}
    (h : ∀ c, (toUnsigned c).toUInt8 = c) (elements : List UInt8) :
    calcChecksum toUnsigned elements = elements.sum := by
  have hfold : ∀ sum : UInt32,
      (elements.foldl (fun sum it => sum + toUnsigned it) sum).toUInt8 =
        sum.toUInt8 + elements.sum := by
    induction elements with
    | nil => simp
    | cons c elements ih =>
      intro sum
      rw [List.foldl_cons, ih, UInt32.toUInt8_add, h, List.sum_cons, add_assoc]
  have hmod : ∀ n : UInt32, (n % 256).toUInt8 = n.toUInt8 := by
    intro n
    rw [← UInt8.toNat_inj]
    simp
  rw [calcChecksum, hmod, hfold]
  simp

/-- The checksum of unsigned bytes is their sum. -/
private theorem calcChecksum_toUInt32 (elements : List UInt8) :
    calcChecksum UInt8.toUInt32 elements = elements.sum :=
  calcChecksum_eq_sum (fun c => by simp) elements

/-- The checksum of signed characters is their sum as well. -/
private theorem calcChecksum_charToUnsigned (elements : List UInt8) :
    calcChecksum Apt.charToUnsigned elements = elements.sum := by
  refine calcChecksum_eq_sum (fun c => ?_) elements
  have hc := Apt.toNat_charToUnsigned c
  have hlt := c.toNat_lt
  rw [← UInt8.toNat_inj, UInt32.toNat_toUInt8, hc]
  split_ifs <;> omega

/-! ### What is decoded -/

section Decoding

variable {addr : UInt8} {response payload : List UInt8}

/-- A character of the text, or the zero at its end. -/
private theorem charAt_of_le {i : ℕ} (h : i ≤ response.length) :
    charAt response i = .ok (response.getD i 0) := if_pos h

/-- What is not zero has been received. -/
theorem lt_length_of_getD_ne_zero {i : ℕ} (h : response.getD i 0 ≠ 0) : i < response.length := by
  by_contra hle
  exact h (List.getD_eq_default _ _ (not_lt.mp hle))

/-- The checks of the header read no further than they have found what they should. -/
theorem checkHeader_cases (addr : UInt8) (response : List UInt8) :
    (HeaderPasses addr response ∧ checkHeader addr response = .ok ()) ∨
      (¬ HeaderPasses addr response ∧ ∃ e, checkHeader addr response = .error (.thrown e)) := by
  rw [checkHeader, bind_of_ok (charAt_of_le (Nat.zero_le _))]
  by_cases hfirst : response.getD 0 0 = 0x55
  · have hlength : 0 < response.length := lt_length_of_getD_ne_zero (by rw [hfirst]; decide)
    rw [if_neg (not_not.mpr hfirst), bind_of_ok (charAt_of_le hlength)]
    by_cases hsecond : response.getD 1 0 = 0xAA
    · have hlength : 1 < response.length := lt_length_of_getD_ne_zero (by rw [hsecond]; decide)
      rw [if_neg (not_not.mpr hsecond), bind_of_ok (charAt_of_le hlength)]
      by_cases hsource : response.getD 2 0 = addr
      · rw [if_neg (not_not.mpr hsource)]
        exact .inl ⟨⟨hfirst, hsecond, hsource⟩, rfl⟩
      · rw [if_pos hsource]
        exact .inr ⟨fun h => hsource h.2.2, _, rfl⟩
    · rw [if_pos hsecond]
      exact .inr ⟨fun h => hsecond h.2.1, _, rfl⟩
  · rw [if_pos hfirst]
    exact .inr ⟨fun h => hfirst h.1, _, rfl⟩

private theorem extractResponse_of_not_header (h : ¬ HeaderPasses addr response)
    (expdCmd : Rly8Commands) : ∃ e, extractResponse addr response expdCmd = .error (.thrown e) := by
  obtain ⟨hpasses, -⟩ | ⟨-, e, he⟩ := checkHeader_cases addr response
  · exact absurd hpasses h
  · exact ⟨e, bind_of_error he _⟩

private theorem checkHeader_of_header (h : HeaderPasses addr response) :
    checkHeader addr response = .ok () := by
  obtain ⟨-, hok⟩ | ⟨hnot, -⟩ := checkHeader_cases addr response
  · exact hok
  · exact absurd h hnot

/-- The command word is not there. -/
theorem extractResponse_of_short (h : HeaderPasses addr response) (hlength : response.length < 4)
    (expdCmd : Rly8Commands) : extractResponse addr response expdCmd = .error .outOfBounds := by
  have hword : charAt response 4 = .error .outOfBounds := if_neg (not_le.mpr hlength)
  rw [extractResponse, bind_of_ok (checkHeader_of_header h), bind_of_error hword]

/-- The checksum decides whether the data are copied. -/
theorem extractResponse_of_long (h : HeaderPasses addr response) (hlength : 4 ≤ response.length)
    (expdCmd : Rly8Commands) :
    (ChecksumPasses response ∧
      extractResponse addr response expdCmd = copyData response (response.getD 3 0)) ∨
    (¬ ChecksumPasses response ∧
      ∃ e, extractResponse addr response expdCmd = .error (.thrown e)) := by
  obtain ⟨last, hlast⟩ : ∃ last, response.getLast? = some last :=
    Option.ne_none_iff_exists'.mp fun hnone => by
      rw [List.getLast?_eq_none_iff.mp hnone] at hlength
      exact absurd hlength (by decide)
  have hpasses : ChecksumPasses response ↔
      last = calcChecksum Apt.charToUnsigned response.dropLast := by
    rw [ChecksumPasses, hlast, Option.some.injEq, calcChecksum_charToUnsigned]
  rw [extractResponse, bind_of_ok (checkHeader_of_header h), bind_of_ok (charAt_of_le hlength),
    hlast, hpasses]
  dsimp only
  by_cases hsum : last = calcChecksum Apt.charToUnsigned response.dropLast
  · rw [if_neg (not_not.mpr hsum), bind_of_ok (charAt_of_le (by omega))]
    exact .inl ⟨hsum, rfl⟩
  · rw [if_pos hsum]
    exact .inr ⟨hsum, _, rfl⟩

/-- A well-formed frame is what passes the checks and has the announced length. -/
theorem isFrame_iff : IsFrame addr response payload ↔
    HeaderPasses addr response ∧ ChecksumPasses response ∧
      response.length = announced response + 6 ∧
      payload = (response.drop 5).take (announced response) := by
  constructor
  · rintro ⟨hlt, cmd, rfl⟩
    have hannounced : (UInt8.ofNat payload.length).toNat = payload.length := by
      rw [UInt8.toNat_ofNat']
      omega
    refine ⟨⟨rfl, rfl, rfl⟩, ?_, ?_, ?_⟩
    · rw [ChecksumPasses, List.getLast?_concat, List.dropLast_concat]
    · simp [announced, hannounced]
    · simp [announced, hannounced]
  · rintro ⟨⟨hfirst, hsecond, hsource⟩, hsum, hlength, rfl⟩
    -- five bytes are in front of the payload, and the checksum is behind it
    obtain ⟨length, cmd, rest, rfl⟩ : ∃ length cmd rest, response =
        [0x55, 0xAA, addr, length, cmd] ++ rest := by
      rcases response with _ | ⟨first, _ | ⟨second, _ | ⟨source, _ | ⟨length, _ | ⟨cmd, rest⟩⟩⟩⟩⟩
      case cons.cons.cons.cons.cons =>
        obtain rfl : first = 0x55 := hfirst
        obtain rfl : second = 0xAA := hsecond
        obtain rfl : source = addr := hsource
        exact ⟨length, cmd, rest, rfl⟩
      all_goals
        simp only [List.length_cons, List.length_nil] at hlength
        omega
    have hrest : rest.length = length.toNat + 1 := by
      simp only [announced, List.length_append, List.length_cons, List.length_nil] at hlength
      have hthird : ([0x55, 0xAA, addr, length, cmd] ++ rest).getD 3 0 = length := rfl
      rw [hthird] at hlength
      omega
    have hne : rest ≠ [] := List.ne_nil_of_length_eq_add_one hrest
    obtain ⟨data, last, rfl⟩ : ∃ data last, rest = data ++ [last] :=
      ⟨rest.dropLast, rest.getLast hne, (List.dropLast_concat_getLast hne).symm⟩
    have hdata : data.length = length.toNat := by simpa using hrest
    have hpayload : (([0x55, 0xAA, addr, length, cmd] ++ (data ++ [last])).drop 5).take
        (announced ([0x55, 0xAA, addr, length, cmd] ++ (data ++ [last]))) = data :=
      List.take_left' hdata
    rw [hpayload]
    have hlt := length.toNat_lt
    refine ⟨by omega, cmd, ?_⟩
    rw [ChecksumPasses, ← List.append_assoc, List.getLast?_concat, List.dropLast_concat] at hsum
    rw [hdata, UInt8.ofNat_toNat, ← List.append_assoc, ← Option.some.inj hsum]

/-- Bytes that are no frame are decoded exactly if an exception is thrown. -/
theorem exact_iff_of_not_isFrame {result : Except Fault (List UInt8)}
    (h : ∀ payload, ¬ IsFrame addr response payload) :
    Exact addr response result ↔ ∃ e, result = .error (.thrown e) := by
  constructor
  · intro hexact
    refine hexact.throws.resolve_left ?_
    rintro ⟨payload, hpayload⟩
    exact h payload ((hexact.returns payload).mp hpayload)
  · rintro ⟨e, rfl⟩
    exact ⟨fun payload => iff_of_false (fun hok => nomatch hok) (h payload), .inr ⟨e, rfl⟩⟩

/-- As much data is copied as the response announces. -/
private theorem copyData_announced (response : List UInt8) : copyData response (response.getD 3 0) =
    if 128 ≤ announced response then .error (.thrown (.exception "vector::_M_default_append"))
    else if announced response = 0 ∨ 5 + announced response ≤ response.length then
      .ok ((response.drop 5).take (announced response))
    else .error .outOfBounds := rfl

/-- What passes the checks is decoded exactly if it has the announced length, and that is below 128;
or if neither is so. -/
theorem exact_copyData_iff (h : HeaderPasses addr response) (hsum : ChecksumPasses response) :
    Exact addr response (copyData response (response.getD 3 0)) ↔
      (response.length = announced response + 6 ↔ announced response < 128) := by
  have hframe : ∀ payload, IsFrame addr response payload ↔
      response.length = announced response + 6 ∧
        payload = (response.drop 5).take (announced response) := by
    intro payload
    rw [isFrame_iff, and_iff_right h, and_iff_right hsum]
  by_cases hlength : response.length = announced response + 6
  · rw [iff_true_left hlength]
    by_cases hbelow : announced response < 128
    · have hcopied : copyData response (response.getD 3 0) =
          .ok ((response.drop 5).take (announced response)) := by
        rw [copyData_announced, if_neg (not_le.mpr hbelow), if_pos (.inr (by omega))]
      refine iff_of_true ⟨fun payload => ?_, .inl ⟨_, hcopied⟩⟩ hbelow
      rw [hcopied, hframe, and_iff_right hlength, Except.ok.injEq, eq_comm]
    · have hthrown : copyData response (response.getD 3 0) =
          .error (.thrown (.exception "vector::_M_default_append")) := if_pos (not_lt.mp hbelow)
      refine iff_of_false (fun hexact => ?_) hbelow
      have hok := (hexact.returns _).mpr ((hframe _).mpr ⟨hlength, rfl⟩)
      cases hthrown.symm.trans hok
  · rw [iff_false_left hlength,
      exact_iff_of_not_isFrame fun payload hpayload => hlength ((hframe payload).mp hpayload).1,
      copyData_announced]
    by_cases hbelow : announced response < 128
    · refine iff_of_false ?_ (not_not.mpr hbelow)
      rw [if_neg (not_le.mpr hbelow)]
      split_ifs <;> simp
    · rw [if_pos (not_lt.mp hbelow)]
      exact iff_of_true ⟨_, rfl⟩ hbelow

/-- Any bytes are decoded exactly if their lengths agree. -/
theorem exact_iff (addr : UInt8) (response : List UInt8) (expdCmd : Rly8Commands) :
    Exact addr response (extractResponse addr response expdCmd) ↔ LengthsAgree addr response := by
  by_cases h : HeaderPasses addr response
  · by_cases hlong : 4 ≤ response.length
    -- the length is read, and decides where the checksum is right
    · obtain ⟨hsum, hcopied⟩ | ⟨hsum, hthrown⟩ := extractResponse_of_long h hlong expdCmd
      · rw [hcopied, exact_copyData_iff h hsum]
        exact ⟨fun hbelow => ⟨fun _ => hlong, fun _ _ => hbelow⟩, fun hagree => hagree.below h hsum⟩
      · rw [exact_iff_of_not_isFrame fun payload hpayload => hsum (isFrame_iff.mp hpayload).2.1]
        exact iff_of_true hthrown ⟨fun _ => hlong, fun _ hpasses => absurd hpasses hsum⟩
    · rw [extractResponse_of_short h (not_le.mp hlong)]
      refine iff_of_false (fun hexact => ?_) fun hagree => hlong (hagree.long h)
      obtain ⟨payload, hok⟩ | ⟨e, he⟩ := hexact.throws
      · cases hok
      · cases he
  · rw [exact_iff_of_not_isFrame fun payload hpayload => h (isFrame_iff.mp hpayload).1]
    exact iff_of_true (extractResponse_of_not_header h expdCmd)
      ⟨fun hpasses => absurd hpasses h, fun hpasses => absurd hpasses h⟩

/-- What is assembled is a well-formed frame. -/
theorem assembleCmd_eq_ok (addr : UInt8) (cmd : Rly8Commands) (h : payload.length ≤ 255) :
    ∃ frame, assembleCmd addr cmd payload = .ok frame ∧ IsFrame addr frame payload := by
  refine ⟨_, if_neg (not_lt.mpr h), Nat.lt_succ_of_le h, cmd.code, ?_⟩
  rw [calcChecksum_toUInt32]

end Decoding

/-- **The frames of the RLY-8**: received bytes are decoded exactly if their lengths agree, and of
what has been assembled the payload is extracted exactly if it has less than 128 bytes. -/
theorem extractResponse_exact_iff (addr : UInt8) :
    (∀ (expdCmd : Rly8Commands) (response : List UInt8),
      Exact addr response (extractResponse addr response expdCmd) ↔ LengthsAgree addr response) ∧
    ∀ (cmd expdCmd : Rly8Commands) (payload : { data : List UInt8 // data.length ≤ 255 }),
      (assembleCmd addr cmd payload.1 >>= fun frame => extractResponse addr frame expdCmd) =
        .ok payload.1 ↔ payload.1.length < 128 := by
  refine ⟨fun expdCmd response => exact_iff addr response expdCmd, ?_⟩
  rintro cmd expdCmd ⟨payload, hpayload⟩
  obtain ⟨frame, hassembled, hframe⟩ := assembleCmd_eq_ok addr cmd hpayload
  obtain ⟨hheader, hsum, hlength, heq⟩ := isFrame_iff.mp hframe
  have hannounced : payload.length = announced frame := by
    rw [heq, List.length_take, List.length_drop, hlength]
    omega
  have hcopied : extractResponse addr frame expdCmd = copyData frame (frame.getD 3 0) := by
    obtain ⟨-, hcopied⟩ | ⟨hnot, -⟩ := extractResponse_of_long hheader (by omega) expdCmd
    · exact hcopied
    · exact absurd hsum hnot
  rw [bind_of_ok hassembled, hcopied]
  by_cases hbelow : announced frame < 128
  · have hexact := (exact_copyData_iff hheader hsum).mpr (iff_of_true hlength hbelow)
    exact iff_of_true ((hexact.returns payload).mpr hframe) (hannounced ▸ hbelow)
  · refine iff_of_false ?_ (hannounced ▸ hbelow)
    rw [copyData_announced, if_pos (not_lt.mp hbelow)]
    exact fun hok => nomatch hok

/-- A frame that is cut short behind a length of zero is accepted. -/
theorem not_extractResponse_exact :
    ¬ Exact 0x01 [0x55, 0xAA, 0x01, 0x00]
      (extractResponse 0x01 [0x55, 0xAA, 0x01, 0x00] .setRelay) := by
  intro h
  have hagree := (exact_iff _ _ _).mp h
  have hlength := (hagree.below ⟨rfl, rfl, rfl⟩ rfl).mpr (by decide)
  cases hlength

end Rly8

end Foxtrot
