import Mathlib.Data.UInt
import Mathlib.Tactic.Ring

/-!
# Little-endian words

A word of `w` bytes as the list of its bytes, least significant first (`bytes`), and back
(`value`). Reading the bytes of a number that fits gives the number (`value_bytes`); for bit
vectors of `8 * w` bits every number fits (`ofNat_value_bytes`).
-/

namespace LittleEndian

/-- The `w` lowest bytes of a number, least significant first. -/
def bytes (w n : ℕ) : List UInt8 :=
  (List.range w).map fun i => UInt8.ofNat (n / 256 ^ i)

/-- The number with the given bytes. -/
def value (bs : List UInt8) : ℕ :=
  bs.foldr (fun b n => b.toNat + 256 * n) 0

/-- There are as many bytes as are asked for. -/
theorem length_bytes (w n : ℕ) : (bytes w n).length = w := by
  rw [bytes, List.length_map, List.length_range]

/-- The lowest byte comes first, then those of the rest. -/
theorem bytes_succ (w n : ℕ) : bytes (w + 1) n = UInt8.ofNat n :: bytes w (n / 256) := by
  rw [bytes, List.range_succ_eq_map, List.map_cons, List.map_map, bytes]
  congr 1
  · simp
  · refine List.map_congr_left fun i _ => ?_
    rw [Function.comp_apply, Nat.succ_eq_add_one, pow_succ', Nat.div_div_eq_div_mul]

/-- Two bytes, the lower one first. -/
theorem bytes_two (n : ℕ) : bytes 2 n = [UInt8.ofNat n, UInt8.ofNat (n / 256)] := by
  rw [bytes_succ, bytes_succ]
  rfl

/-- **The bytes of a number that fits give it back.** -/
theorem value_bytes {w n : ℕ} (h : n < 256 ^ w) : value (bytes w n) = n := by
  induction w generalizing n with
  | zero =>
    obtain rfl : n = 0 := by simpa using h
    rfl
  | succ w ih =>
    have hlt : n / 256 < 256 ^ w := by
      rw [Nat.div_lt_iff_lt_mul (by decide), ← pow_succ]
      exact h
    have hcons : value (bytes (w + 1) n) =
        (UInt8.ofNat n).toNat + 256 * value (bytes w (n / 256)) := by
      rw [bytes_succ]
      rfl
    have hbyte : (UInt8.ofNat n).toNat = n % 256 := by simp
    rw [hcons, ih hlt, hbyte]
    omega

/-- The bytes of a bit vector give it back. -/
theorem ofNat_value_bytes {w : ℕ} (v : BitVec (8 * w)) :
    BitVec.ofNat (8 * w) (value (bytes w v.toNat)) = v := by
  have hlt : v.toNat < 256 ^ w := by
    have hpow : (256 : ℕ) ^ w = 2 ^ (8 * w) := by
      rw [pow_mul]
      norm_num
    rw [hpow]
    exact v.isLt
  rw [value_bytes hlt, BitVec.ofNat_toNat, BitVec.setWidth_eq]

/-- The first byte counts once, and the others 256 times. -/
theorem value_cons (b : UInt8) (bs : List UInt8) : value (b :: bs) = b.toNat + 256 * value bs :=
  rfl

/-- A number is bounded by its bytes. -/
theorem value_lt (bs : List UInt8) : value bs < 256 ^ bs.length := by
  induction bs with
  | nil => exact Nat.one_pos
  | cons b bs ih =>
    have hb := b.toNat_lt
    rw [value_cons, List.length_cons, pow_succ]
    omega

/-- **The number with given bytes has these bytes.** -/
theorem bytes_value (bs : List UInt8) : bytes bs.length (value bs) = bs := by
  induction bs with
  | nil => rfl
  | cons b bs ih =>
    have hb := b.toNat_lt
    have hlow : UInt8.ofNat (b.toNat + 256 * value bs) = b := by
      rw [← UInt8.toNat_inj, UInt8.toNat_ofNat']
      omega
    have hhigh : (b.toNat + 256 * value bs) / 256 = value bs := by omega
    rw [List.length_cons, bytes_succ, value_cons, hlow, hhigh, ih]

/-- The bit vector with given bytes has these bytes. -/
theorem bytes_ofNat_value {w : ℕ} {bs : List UInt8} (h : bs.length = w) :
    bytes w (BitVec.ofNat (8 * w) (value bs)).toNat = bs := by
  have hpow : (2 : ℕ) ^ (8 * w) = 256 ^ w := by
    rw [pow_mul]
    norm_num
  have hlt : value bs < 2 ^ (8 * w) := by
    rw [hpow, ← h]
    exact value_lt bs
  rw [BitVec.toNat_ofNat, Nat.mod_eq_of_lt hlt, ← h, bytes_value]

end LittleEndian
