import Mathlib.Data.List.Basic

/-!
# Base64 without padding

Three bytes are four digits of six bits; one or two bytes at the end are two or three digits, whose
unused bits are zero. Decoding inverts encoding (`decode_encode`).
-/

namespace Base64

/-- The digit of a value below 64: letters, small letters, numbers, and two signs. -/
def digit (n : ℕ) : Char :=
  if n < 26 then Char.ofNat (65 + n)
  else if n < 52 then Char.ofNat (97 + (n - 26))
  else if n < 62 then Char.ofNat (48 + (n - 52))
  else if n = 62 then '+' else '/'

/-- The value of a digit. -/
def value (c : Char) : Option ℕ :=
  if 65 ≤ c.toNat ∧ c.toNat ≤ 90 then some (c.toNat - 65)
  else if 97 ≤ c.toNat ∧ c.toNat ≤ 122 then some (c.toNat - 97 + 26)
  else if 48 ≤ c.toNat ∧ c.toNat ≤ 57 then some (c.toNat - 48 + 52)
  else if c = '+' then some 62
  else if c = '/' then some 63
  else none

/-- A digit has the value that it stands for. -/
theorem value_digit {n : ℕ} (h : n < 64) : value (digit n) = some n := by
  have hall : ∀ i : Fin 64, value (digit i) = some i.1 := by decide
  exact hall ⟨n, h⟩

/-- The digits of bytes. -/
def encode : List ℕ → List Char
  | [] => []
  | [a] => [digit (a / 4), digit (a % 4 * 16)]
  | [a, b] => [digit (a / 4), digit (a % 4 * 16 + b / 16), digit (b % 16 * 4)]
  | a :: b :: c :: bytes =>
    digit (a / 4) :: digit (a % 4 * 16 + b / 16) :: digit (b % 16 * 4 + c / 64) ::
      digit (c % 64) :: encode bytes

/-- The bytes of digits, if there are any. -/
def decode : List Char → Option (List ℕ)
  | [] => some []
  | [_] => none
  | [w, x] => do
    let i ← value w
    let j ← value x
    if j % 16 = 0 then some [i * 4 + j / 16] else none
  | [w, x, y] => do
    let i ← value w
    let j ← value x
    let k ← value y
    if k % 4 = 0 then some [i * 4 + j / 16, j % 16 * 16 + k / 4] else none
  | w :: x :: y :: z :: digits => do
    let i ← value w
    let j ← value x
    let k ← value y
    let l ← value z
    let bytes ← decode digits
    some ((i * 4 + j / 16) :: (j % 16 * 16 + k / 4) :: (k % 4 * 64 + l) :: bytes)

/-- Decoding inverts encoding. -/
theorem decode_encode {bytes : List ℕ} (h : ∀ a ∈ bytes, a < 256) :
    decode (encode bytes) = some bytes := by
  induction bytes using encode.induct with
  | case1 => rfl
  | case2 a =>
    have ha := h a (by simp)
    rw [encode, decode, value_digit (by omega), value_digit (by omega)]
    -- the digits behind the last byte leave no bits over
    have hzero : a % 4 * 16 % 16 = 0 := by omega
    have hbyte : a / 4 * 4 + a % 4 * 16 / 16 = a := by omega
    simp only [Option.bind_eq_bind, Option.bind_some, hzero, if_true, hbyte]
  | case3 a b =>
    have ha := h a (by simp)
    have hb := h b (by simp)
    rw [encode, decode, value_digit (by omega), value_digit (by omega), value_digit (by omega)]
    have hzero : b % 16 * 4 % 4 = 0 := by omega
    have hfirst : a / 4 * 4 + (a % 4 * 16 + b / 16) / 16 = a := by omega
    have hsecond : (a % 4 * 16 + b / 16) % 16 * 16 + b % 16 * 4 / 4 = b := by omega
    simp only [Option.bind_eq_bind, Option.bind_some, hzero, if_true, hfirst, hsecond]
  | case4 a b c bytes ih =>
    have ha := h a (by simp)
    have hb := h b (by simp)
    have hc := h c (by simp)
    have hrest := ih fun d hd => h d (by simp [hd])
    rw [encode, decode, value_digit (by omega), value_digit (by omega), value_digit (by omega),
      value_digit (by omega), hrest]
    have hfirst : a / 4 * 4 + (a % 4 * 16 + b / 16) / 16 = a := by omega
    have hsecond : (a % 4 * 16 + b / 16) % 16 * 16 + (b % 16 * 4 + c / 64) / 4 = b := by omega
    have hthird : (b % 16 * 4 + c / 64) % 4 * 64 + c % 64 = c := by omega
    simp only [Option.bind_eq_bind, Option.bind_some, hfirst, hsecond, hthird]

/-- Three bytes make four digits, and what is left over makes as many as it needs. -/
theorem length_encode (bytes : List ℕ) : (encode bytes).length = (bytes.length * 4 + 2) / 3 := by
  induction bytes using encode.induct with
  | case1 | case2 | case3 => simp [encode]
  | case4 a b c bytes ih =>
    rw [encode]
    simp only [List.length_cons, ih]
    omega

end Base64
