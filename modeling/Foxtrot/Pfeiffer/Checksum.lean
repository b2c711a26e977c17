import Foxtrot.Foundation.MachineArithmetic
import Foxtrot.Pfeiffer.Telegram
import Mathlib.Algebra.BigOperators.Ring.Finset

/-!
# The checksum of a Pfeiffer telegram

The checksum of the protocol is the sum of the bytes of a message modulo 256, in three digits
(`threeDigits`). `calculate_checksum` adds up in signed characters instead. Only its last addition
is not converted back, so it is right or wrong by the last byte and the sum of those before: it is
wrong exactly where these two, as signed characters, have a negative sum (`calculateChecksum_iff`).

A message like the answer to a request for an unknown parameter is then rejected with its right
checksum, and accepted with none of three digits.
-/

namespace Foxtrot

open Fallible Text NarrowSum

namespace Pfeiffer

/-- The value of a character as a byte. -/
def byte (c : Char) : ℕ := c.toNat % 256

/-- The sum of the bytes of a message. -/
def byteSum (message : String) : ℕ := (message.toList.map byte).sum

/-- The checksum of the protocol: the sum of the bytes modulo 256, in three digits. -/
def threeDigits (message : String) : String := zeroFilled ↑(byteSum message % 256) 3

/-- The response gets past the comparison of checksums. -/
def PastChecksum (response : String) : Prop :=
  interpretResponseTelegram response ≠ .error (.deviceError "got invalid checksum")

/-- The checksum of the message is that of the protocol, and the responses that begin with the
message get past the comparison of checksums exactly with that. -/
structure RightlySummed (message : String) : Prop where
  calculated : calculateChecksum message = threeDigits message
  compared : ∀ response, 4 ≤ response.length →
    substr response 0 (response.length - 4) = some message →
      (PastChecksum response ↔
        substr response (response.length - 4) 3 = some (threeDigits message))

/-- The sum of two bytes is not negative as that of two signed characters, or it is `-256`. -/
def AddUp (a b : ℕ) : Prop :=
  a < 128 ∧ b < 128 ∨ (a < 128 ∧ 128 ≤ b ∨ 128 ≤ a ∧ b < 128) ∧ 256 ≤ a + b ∨ a = 128 ∧ b = 128

instance (a b : ℕ) : Decidable (AddUp a b) :=
  inferInstanceAs (Decidable (a < 128 ∧ b < 128 ∨
    (a < 128 ∧ 128 ≤ b ∨ 128 ≤ a ∧ b < 128) ∧ 256 ≤ a + b ∨ a = 128 ∧ b = 128))

/-- The last byte adds up with the sum of those before it. -/
def LastAddsUp (message : String) : Prop :=
  ∀ c ∈ message.toList.getLast?, AddUp ((message.toList.dropLast.map byte).sum % 256) (byte c)

instance (message : String) : Decidable (LastAddsUp message) :=
  Option.decidableForallMem message.toList.getLast?

/-! ### The sum in signed characters -/

/-- The conversion to a character is the balanced remainder. -/
private theorem toChar_eq_bmod (n : ℤ) : toChar n = n.bmod 256 := by
  have hdef := Int.bmod_def n 256
  rw [toChar, hdef]
  split_ifs <;> omega

/-- A character is converted as its byte is. -/
theorem toChar_byte (c : Char) : toChar (byte c) = toChar c.toNat := by
  rw [byte, toChar, toChar]
  omega

/-- `calculate_checksum` adds up the bytes in a type of 256 values. -/
theorem checksum_eq_narrowSum (message : String) :
    checksum message = narrowSum 256 (message.toList.map fun c => (byte c : ℤ)) := by
  rw [checksum, narrowSum, List.foldl_map]
  refine congrArg (fun f => message.toList.foldl f 0) ?_
  funext sum c
  rw [← toChar_byte, toChar_eq_bmod, toChar_eq_bmod]

/-- The sum of the bytes, as a number of either kind. -/
private theorem sum_map_byte (cs : List Char) :
    (cs.map fun c => (byte c : ℤ)).sum = ((cs.map byte).sum : ℕ) := by
  rw [Nat.cast_list_sum, List.map_map]
  rfl

/-- The sum has the remainder of the sum of the bytes. -/
theorem checksum_emod (message : String) : checksum message % 256 = ↑(byteSum message % 256) := by
  have hmod : checksum message % (256 : ℕ) = (byteSum message : ℤ) % (256 : ℕ) := by
    rw [checksum_eq_narrowSum, emod_narrowSum, sum_map_byte, byteSum]
  exact hmod.trans (Int.natCast_mod _ _).symm

private theorem checksum_nonneg_iff (message : String) :
    0 ≤ checksum message ∨ checksum message = -256 ↔ LastAddsUp message := by
  rw [checksum_eq_narrowSum, LastAddsUp]
  cases hlist : message.toList using List.reverseRecOn with
  | nil => simp
  | append_singleton cs c =>
    have hsum := toChar_eq_bmod (cs.map byte).sum
    have hlast := toChar_eq_bmod (byte c)
    have hbyte : byte c < 256 := Nat.mod_lt _ (by decide)
    simp only [List.map_append, List.map_singleton, narrowSum_concat, sum_map_byte,
      List.getLast?_concat, List.dropLast_concat, Option.mem_some_iff, forall_eq']
    rw [← hsum, ← hlast, toChar, toChar]
    unfold AddUp
    omega

/-! ### The text of the checksum -/

/-- A negative number is not printed in digits. -/
theorem zeroFilled_ne_of_neg {z : ℤ} (hz : z < 0) (n width : ℕ) :
    zeroFilled z width ≠ zeroFilled n width := by
  intro h
  have hsign : '-' ∈ (zeroFilled z width).toList := by
    obtain ⟨k, rfl⟩ := Int.eq_negSucc_of_lt_zero hz
    rw [toList_zeroFilled, Int.repr, String.toList_append]
    exact List.mem_append_right _ (List.mem_append_left _ (by decide))
  rw [h, toList_zeroFilled, List.mem_append, List.mem_replicate] at hsign
  obtain ⟨-, hzero⟩ | hdigits := hsign
  · exact absurd hzero (by decide)
  · have hrepr : (n : ℤ).repr = n.repr := rfl
    rw [hrepr, Nat.toList_repr] at hdigits
    exact absurd (List.all_eq_true.mp (all_isDigit_toDigits n) _ hdigits) (by decide)

/-- The remainder is the sum itself, but for the least sum. -/
theorem tmod_checksum_cases (message : String) :
    (checksum message).tmod 256 = checksum message ∧ -256 < checksum message ∨
      (checksum message).tmod 256 = 0 ∧ checksum message = -256 := by
  obtain ⟨hlow, hhigh⟩ := checksum_bounds message
  obtain ⟨hgt, heq | hzero⟩ := tmod_checksum message
  · exact .inl ⟨heq, heq ▸ hgt⟩
  · have hdvd : 256 ∣ checksum message := Int.dvd_of_tmod_eq_zero hzero
    omega

/-- The checksum is that of the protocol exactly if the last byte adds up. -/
theorem calculateChecksum_eq_iff (message : String) :
    calculateChecksum message = threeDigits message ↔ LastAddsUp message := by
  have hemod := checksum_emod message
  have hhigh := (checksum_bounds message).2
  rw [← checksum_nonneg_iff, calculateChecksum, strFromNumber, threeDigits]
  obtain ⟨htmod, hlow⟩ | ⟨htmod, hleast⟩ := tmod_checksum_cases message
  · obtain hneg | hpos := Int.lt_or_le (checksum message) 0
    · rw [htmod]
      exact iff_of_false (zeroFilled_ne_of_neg hneg _ _) (by omega)
    · have heq : checksum message = ↑(byteSum message % 256) := by omega
      exact iff_of_true (by rw [htmod, heq]) (.inl hpos)
  · have hzero : byteSum message % 256 = 0 := by omega
    exact iff_of_true (by rw [htmod, hzero]; rfl) (.inr hleast)

/-- Then neither is its remainder. -/
theorem LastAddsUp.tmod_nonneg {message : String} (h : LastAddsUp message) :
    0 ≤ (checksum message).tmod 256 := by
  obtain ⟨htmod, hlow⟩ | ⟨htmod, -⟩ := tmod_checksum_cases message
  · have hnonneg := (checksum_nonneg_iff message).mpr h
    omega
  · exact htmod.ge

/-! ### The comparison -/

/-- What comes behind the comparison throws other exceptions. -/
theorem substrOrThrow_ne_deviceError (text what : String) (pos n : ℕ) :
    substrOrThrow text pos n ≠ .error (.deviceError what) := by
  rw [substrOrThrow]
  cases substr text pos n <;> rintro ⟨⟩

/-- A number that cannot be read is no error of the device. -/
private theorem stoiOrThrow_ne_deviceError (text what : String) :
    stoiOrThrow text ≠ .error (.deviceError what) := by
  rw [stoiOrThrow]
  split <;> rintro ⟨⟩

/-- A response of four characters gets past the comparison exactly if it has the checksum. -/
theorem pastChecksum_iff {response message csumstr : String} (hlength : 4 ≤ response.length)
    (hmessage : substr response 0 (response.length - 4) = some message)
    (hcsumstr : substr response (response.length - 4) 3 = some csumstr) :
    PastChecksum response ↔ csumstr = calculateChecksum message := by
  rw [← sizeT_sub_four hlength, ← substrOrThrow_eq_ok_iff] at hmessage hcsumstr
  rw [PastChecksum, interpretResponseTelegram, bind_of_ok hmessage, bind_of_ok hcsumstr]
  by_cases hcsum : csumstr = calculateChecksum message
  · rw [if_neg (not_not.mpr hcsum)]
    refine iff_of_true ?_ hcsum
    simp only [ne_eq, bind_eq_error_iff, substrOrThrow_ne_deviceError, stoiOrThrow_ne_deviceError,
      false_or, not_exists, not_and]
    -- all parts have been read, and the telegram is returned
    intros
    exact nofun
  · rw [if_pos hcsum]
    exact iff_of_false (not_not.mpr rfl) hcsum

/-- **The checksum of `calculate_checksum`** is that of the protocol, in the comparison of responses
too, exactly if the last byte of the message adds up with those before it. -/
theorem calculateChecksum_iff (message : String) : RightlySummed message ↔ LastAddsUp message := by
  refine ⟨fun h => (calculateChecksum_eq_iff message).mp h.calculated, fun h => ?_⟩
  have hcalculated := (calculateChecksum_eq_iff message).mpr h
  refine ⟨hcalculated, fun response hlength hmessage => ?_⟩
  have hcsumstr := substr_eq_some (Nat.sub_le response.length 4) 3
  rw [pastChecksum_iff hlength hmessage hcsumstr, hcsumstr, Option.some_inj, hcalculated]

/-- The answer to a request for an unknown parameter. -/
def unknownParameter : String := "0011099906NO_DEF"

/-- Its checksum is `206`, and is calculated as `-50`. -/
theorem not_calculateChecksum : ¬ ∀ message, RightlySummed message := by
  intro h
  have hadds := (calculateChecksum_eq_iff unknownParameter).mp (h unknownParameter).calculated
  exact absurd hadds (by decide)

end Pfeiffer

end Foxtrot
