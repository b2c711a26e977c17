import Mathlib.Algebra.Group.Int.Defs
import Mathlib.Algebra.Group.Nat.Defs
import Mathlib.Data.Int.Basic
import Mathlib.Data.Nat.Cast.Basic

/-!
# Decimal numbers as text

Reading decimal digits inverts printing them (`readNat_repr`, `readInt_repr`).
-/

namespace Decimal

/-- The number that digits stand for, if they are digits. -/
def readNat (text : List Char) : Option ℕ :=
  if text ≠ [] ∧ text.all Char.isDigit then some (Nat.ofDigitChars 10 text 0) else none

/-- The same with a sign. -/
def readInt : List Char → Option ℤ
  | '-' :: text => (readNat text).map fun n => -(n : ℤ)
  | text => (readNat text).map Nat.cast

/-- The digits of a number are read as this number. -/
theorem readNat_toDigits (n : ℕ) : readNat (Nat.toDigits 10 n) = some n := by
  have hdigits : (Nat.toDigits 10 n).all Char.isDigit := by
    rw [List.all_eq_true]
    exact fun c hc => Nat.isDigit_of_mem_toDigits (by decide) (by decide) hc
  rw [readNat, if_pos ⟨Nat.toDigits_ne_nil, hdigits⟩, Nat.ofDigitChars_ten_toDigits]

/-- A printed natural number is read back. -/
theorem readNat_repr (n : ℕ) : readNat n.repr.toList = some n := by
  rw [Nat.toList_repr, readNat_toDigits]

/-- Zeros in front do not change a number. -/
theorem readNat_replicate_zero_append {text : List Char} {n : ℕ} (h : readNat text = some n)
    (k : ℕ) : readNat (List.replicate k '0' ++ text) = some n := by
  rw [readNat] at h
  split_ifs at h with hdigits
  have hall : (List.replicate k '0' ++ text).all Char.isDigit := by
    rw [List.all_append, hdigits.2, Bool.and_true, List.all_eq_true]
    intro c hc
    rw [(List.mem_replicate.mp hc).2]
    rfl
  have hne : List.replicate k '0' ++ text ≠ [] :=
    fun hnil => hdigits.1 (List.append_eq_nil_iff.mp hnil).2
  rw [readNat, if_pos ⟨hne, hall⟩, Nat.ofDigitChars_append, Nat.ofDigitChars_replicate_zero,
    Nat.mul_zero, h]

/-- Digits without a sign are a natural number. -/
theorem readInt_of_digits {text : List Char} {n : ℕ} (h : readNat text = some n) :
    readInt text = some (n : ℤ) := by
  have hsign : ∀ rest, text ≠ '-' :: rest := by
    rintro rest rfl
    rw [readNat, if_neg (by simp)] at h
    cases h
  rw [readInt.eq_2 text hsign, h]
  rfl

/-- A printed number is read back. -/
theorem readInt_repr (n : ℤ) : readInt n.repr.toList = some n := by
  cases n with
  | ofNat m => exact readInt_of_digits (readNat_repr m)
  | negSucc m =>
    have hlist : (Int.negSucc m).repr.toList = '-' :: (m + 1).repr.toList := by
      rw [Int.repr, String.toList_append]
      rfl
    rw [hlist, readInt, readNat_repr]
    rfl

/-- A number of `k` digits takes no more than these and a sign. -/
theorem length_repr_le {n : ℤ} {k : ℕ} (hk : 0 < k) (hlow : -10 ^ k < n) (hhigh : n < 10 ^ k) :
    n.repr.length ≤ k + 1 := by
  cases n with
  | ofNat m =>
    have hm : m < 10 ^ k := by
      have h : ((m : ℕ) : ℤ) < ((10 ^ k : ℕ) : ℤ) := by
        push_cast
        exact hhigh
      exact_mod_cast h
    have hlength := (Nat.length_repr_le_iff hk).mpr hm
    exact Nat.le_succ_of_le hlength
  | negSucc m =>
    have hm : m + 1 < 10 ^ k := by
      have h : ((m + 1 : ℕ) : ℤ) < ((10 ^ k : ℕ) : ℤ) := by
        rw [Int.negSucc_eq] at hlow
        push_cast
        omega
      exact_mod_cast h
    have hlength := (Nat.length_repr_le_iff hk).mpr hm
    rw [Int.repr, String.length_append]
    exact Nat.add_comm _ _ ▸ Nat.succ_le_succ hlength

end Decimal
