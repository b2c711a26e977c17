import Mathlib.Algebra.BigOperators.Group.List.Basic
import Mathlib.Algebra.Order.Floor.Semifield
import Mathlib.Algebra.Ring.Int.Defs
import Mathlib.Data.List.Induction
import Mathlib.Data.Rat.Floor
import Mathlib.Tactic.FieldSimp
import Mathlib.Tactic.Linarith
import Mathlib.Tactic.Positivity
import Foxtrot.Foundation.Pieces

/-!
# Machine arithmetic: rounded quotients and narrow sums

A floating-point division rounds the exact quotient (`Rounding`). Rounding keeps the order and the
whole numbers that have a significand, and its error is small. So for numbers that fit in a
significand, the quotient is never rounded to a whole number that it is not, and rounding it up
counts the pieces (`ceil_round_div`).

A signed type of `m` values has the balanced remainders modulo `m` (`Int.bmod`). `narrowSum` adds up
a list where each addition converts what it is given to that type, but not what it returns. The
conversions keep the remainder of the true sum, so what is lost is only in the last addition: the
result is the true sum up to there, converted, and the last number, converted
(`narrowSum_concat`). Whether it is negative is a matter of these two remainders.
-/

/-! ### Rounded quotients -/

/-- A rounding to 53 significant bits. -/
structure Rounding where
  round : ℚ → ℚ
  mono : Monotone round
  natCast : ∀ n : ℕ, n ≤ 2 ^ 53 → round n = n
  error : ∀ q, 0 ≤ q → |round q - q| ≤ q / 2 ^ 53

namespace Rounding

/-- No rounding at all. -/
def exact : Rounding where
  round := id
  mono := monotone_id
  natCast _ _ := rfl
  error q hq := by
    rw [id, sub_self, abs_zero]
    positivity

variable (fl : Rounding) {n c : ℕ}

/-- What is above a whole number by a fraction of the divisor is rounded to something above. -/
theorem lt_round_div (hc : 0 < c) (hn : n < 2 ^ 53) {k : ℕ} (hk : k * c < n) :
    (k : ℚ) < fl.round (n / c) := by
  have hc' : (0 : ℚ) < c := Nat.cast_pos.mpr hc
  have hquotient : (k : ℚ) + 1 / c ≤ n / c := by
    rw [← sub_nonneg]
    have heq : (n : ℚ) / c - (k + 1 / c) = (n - (k * c + 1)) / c := by
      field_simp
    rw [heq]
    have hle : ((k * c + 1 : ℕ) : ℚ) ≤ n := Nat.cast_le.mpr hk
    push_cast at hle
    exact div_nonneg (by linarith) hc'.le
  have herror : (n : ℚ) / c / 2 ^ 53 < 1 / c := by
    rw [div_right_comm, div_lt_div_iff_of_pos_right hc', div_lt_one (by positivity)]
    exact_mod_cast hn
  have hround := (abs_le.mp (fl.error (n / c) (by positivity))).1
  linarith

/-- **Rounding a quotient and then rounding up is exact.** -/
theorem ceil_round_div (hc : 0 < c) (hn : n < 2 ^ 53) :
    ⌈fl.round (n / c)⌉₊ = Pieces.count c n := by
  have hc' : (0 : ℚ) < c := Nat.cast_pos.mpr hc
  refine le_antisymm ?_ ?_
  · have hcount : Pieces.count c n ≤ 2 ^ 53 := (Pieces.count_le hc n).trans hn.le
    rw [Nat.ceil_le, ← fl.natCast _ hcount]
    refine fl.mono ?_
    rw [div_le_iff₀ hc']
    exact_mod_cast Pieces.le_count_mul hc n
  · cases hcount : Pieces.count c n with
    | zero => exact Nat.zero_le _
    | succ k =>
      rw [Nat.succ_le_iff, Nat.lt_ceil]
      exact fl.lt_round_div hc hn (Pieces.lt_length_of_lt_count hc (by omega))

end Rounding

/-! ### Sums in a narrow signed type -/

namespace NarrowSum

variable {m : ℕ}

/-- The sum of a list, with a conversion before each addition. -/
def narrowSum (m : ℕ) (ns : List ℤ) : ℤ := ns.foldl (fun a b => a.bmod m + b.bmod m) 0

@[simp]
theorem narrowSum_nil : narrowSum m [] = 0 := rfl

/-- The conversions keep the remainder. -/
theorem bmod_narrowSum (ns : List ℤ) : (narrowSum m ns).bmod m = ns.sum.bmod m := by
  induction ns using List.reverseRecOn with
  | nil => rfl
  | append_singleton ns n ih =>
    have hstep : narrowSum m (ns ++ [n]) = (narrowSum m ns).bmod m + n.bmod m :=
      List.foldl_append ..
    rw [hstep, ih, ← Int.add_bmod, List.sum_append, List.sum_singleton]

/-- **The result is a sum of two numbers of the type**: the sum of all but the last, and the last.
-/
theorem narrowSum_concat (ns : List ℤ) (n : ℤ) :
    narrowSum m (ns ++ [n]) = ns.sum.bmod m + n.bmod m := by
  rw [← bmod_narrowSum]
  exact List.foldl_append ..

/-- The remainder is that of the true sum. -/
theorem emod_narrowSum (ns : List ℤ) : narrowSum m ns % m = ns.sum % m := by
  rw [← Int.bmod_emod, bmod_narrowSum, Int.bmod_emod]

end NarrowSum
