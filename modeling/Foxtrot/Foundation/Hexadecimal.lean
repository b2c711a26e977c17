import Foxtrot.Foundation.Text

/-!
# Hexadecimal numbers as text

Numbers are written with capitals (`text`), of a fixed width, and read with capitals and small
letters (`readNat`). Reading inverts writing (`readNat_text`), and so does the reading of numbers in
the standard library of C++ (`Text.hexNumber`), which also takes white space, a sign and the prefix
`0x` in front, and anything behind.
-/

namespace Hexadecimal

/-- The value of a digit. -/
def digitValue (c : Char) : Option ℕ :=
  if c.isDigit then some (c.toNat - 0x30)
  else if 0x41 ≤ c.toNat ∧ c.toNat ≤ 0x46 then some (c.toNat - 0x37)
  else if 0x61 ≤ c.toNat ∧ c.toNat ≤ 0x66 then some (c.toNat - 0x57)
  else none

/-- `std::isxdigit`. -/
def isxdigit (c : Char) : Bool := (digitValue c).isSome

/-- The number after another digit. -/
def push (n : ℕ) (c : Char) : ℕ := 16 * n + (digitValue c).getD 0

/-- The number that digits stand for, if they are digits. -/
def readNat (text : List Char) : Option ℕ :=
  if text ≠ [] ∧ text.all isxdigit then some (text.foldl push 0) else none

/-- The digit for a number. -/
def digit (n : ℕ) : Char := if n < 10 then Char.ofNat (0x30 + n) else Char.ofNat (0x37 + n)

/-- A number in so many digits. -/
def text : ℕ → ℕ → List Char
  | 0, _ => []
  | width + 1, n => text width (n / 16) ++ [digit (n % 16)]

/-- A digit has the value that it stands for. -/
theorem digitValue_digit {n : ℕ} (h : n < 16) : digitValue (digit n) = some n := by
  have hall : ∀ n < 16, digitValue (digit n) = some n := by decide
  exact hall n h

/-- A number is written in as many digits as are asked for. -/
theorem length_text (width n : ℕ) : (text width n).length = width := by
  induction width generalizing n with
  | zero => rfl
  | succ width ih => rw [text, List.length_append, ih, List.length_singleton]

/-- A number is written in hexadecimal digits. -/
theorem all_isxdigit_text (width n : ℕ) : (text width n).all isxdigit := by
  induction width generalizing n with
  | zero => rfl
  | succ width ih =>
    have hdigit : isxdigit (digit (n % 16)) = true := by
      rw [isxdigit, digitValue_digit (Nat.mod_lt n (by decide))]
      rfl
    rw [text, List.all_append, ih, Bool.true_and, List.all_cons, hdigit]
    rfl

/-- The digits have the value of the number, up to the width. -/
theorem foldl_push_text (width n : ℕ) : (text width n).foldl push 0 = n % 16 ^ width := by
  induction width generalizing n with
  | zero => rw [pow_zero, Nat.mod_one]; rfl
  | succ width ih =>
    have hsplit : n % 16 ^ (width + 1) = 16 * (n / 16 % 16 ^ width) + n % 16 := by
      rw [pow_succ', Nat.mod_mul]
      omega
    rw [text, List.foldl_append, ih, List.foldl_cons, List.foldl_nil, push,
      digitValue_digit (Nat.mod_lt n (by decide)), hsplit]
    rfl

/-- Reading inverts writing. -/
theorem readNat_text {width n : ℕ} (hwidth : 0 < width) (h : n < 16 ^ width) :
    readNat (text width n) = some n := by
  have hne : text width n ≠ [] := by
    rw [← List.length_pos_iff, length_text]
    exact hwidth
  rw [readNat, if_pos ⟨hne, all_isxdigit_text width n⟩, foldl_push_text, Nat.mod_eq_of_lt h]

/-- A number is read from digits, of which there is at least one. -/
theorem readNat_eq_some_iff {text : List Char} {n : ℕ} :
    readNat text = some n ↔ text ≠ [] ∧ text.all isxdigit ∧ text.foldl push 0 = n := by
  rw [readNat, ite_eq_iff]
  simp [and_assoc]

/-- What a number is read from are digits. -/
theorem isxdigit_of_readNat {text : List Char} {n : ℕ} {c : Char} (h : readNat text = some n)
    (hc : c ∈ text) : isxdigit c :=
  List.all_eq_true.mp (readNat_eq_some_iff.mp h).2.1 c hc

/-- A digit stands for less than 16. -/
theorem digitValue_lt {c : Char} {n : ℕ} (h : digitValue c = some n) : n < 16 := by
  rw [digitValue] at h
  split_ifs at h with hdigit hupper hlower
  · obtain ⟨hlow, hhigh⟩ : 0x30 ≤ c.toNat ∧ c.toNat ≤ 0x39 := Text.toNat_of_isDigit hdigit
    obtain rfl := Option.some.inj h
    omega
  · obtain rfl := Option.some.inj h
    omega
  · obtain rfl := Option.some.inj h
    omega

/-- A number is bounded by its digits. -/
theorem foldl_push_lt (text : List Char) {n bound : ℕ} (h : n < bound) :
    text.foldl push n < bound * 16 ^ text.length := by
  induction text generalizing n bound with
  | nil => simpa using h
  | cons c text ih =>
    have hvalue : (digitValue c).getD 0 < 16 := by
      cases hc : digitValue c with
      | none => exact Nat.zero_lt_succ _
      | some v => exact digitValue_lt hc
    have hpush : push n c < bound * 16 := by
      rw [push]
      omega
    rw [List.foldl_cons, List.length_cons, pow_succ', ← mul_assoc]
    exact ih hpush

/-- A number of so many digits. -/
theorem lt_of_readNat {text : List Char} {n : ℕ} (h : readNat text = some n) :
    n < 16 ^ text.length := by
  rw [← (readNat_eq_some_iff.mp h).2.2]
  simpa using foldl_push_lt text Nat.zero_lt_one

/-- The digits of the core library have the values that they stand for. -/
theorem digitValue_digitChar {n : ℕ} (h : n < 16) : digitValue (Nat.digitChar n) = some n := by
  have hall : ∀ n < 16, digitValue (Nat.digitChar n) = some n := by decide
  exact hall n h

/-- One more digit is read. -/
theorem readNat_concat {text : List Char} {m n : ℕ} {c : Char} (h : readNat text = some m)
    (hc : digitValue c = some n) : readNat (text ++ [c]) = some (16 * m + n) := by
  obtain ⟨-, hall, hfold⟩ := readNat_eq_some_iff.mp h
  refine readNat_eq_some_iff.mpr ⟨List.concat_ne_nil c text, ?_, ?_⟩
  · rw [List.all_append, hall, List.all_cons, isxdigit, hc]
    rfl
  · rw [List.foldl_append, hfold, List.foldl_cons, List.foldl_nil, push, hc]
    rfl

/-- What is printed with small letters is read. -/
theorem readNat_toDigits (n : ℕ) : readNat (Nat.toDigits 16 n) = some n := by
  induction n using Nat.strongRecOn with
  | ind n ih =>
    by_cases hn : n < 16
    · have hdigit := digitValue_digitChar hn
      rw [Nat.toDigits_of_lt_base hn]
      refine readNat_eq_some_iff.mpr ⟨List.cons_ne_nil _ _, ?_, ?_⟩
      · rw [List.all_cons, isxdigit, hdigit]
        rfl
      · rw [List.foldl_cons, List.foldl_nil, push, hdigit]
        exact Nat.zero_add n
    · have hconcat := readNat_concat (ih (n / 16) (by omega))
        (digitValue_digitChar (Nat.mod_lt n (by decide)))
      rw [Nat.toDigits_of_base_le (by decide) (by omega), hconcat, Nat.div_add_mod]

/-- What is read begins with a digit. -/
theorem exists_head_of_readNat {text : List Char} {n : ℕ} (h : readNat text = some n) :
    ∃ c cs, text = c :: cs ∧ isxdigit c := by
  obtain ⟨c, cs, rfl⟩ := List.exists_cons_of_ne_nil (readNat_eq_some_iff.mp h).1
  exact ⟨c, cs, rfl, isxdigit_of_readNat h List.mem_cons_self⟩

end Hexadecimal

namespace Text

open Hexadecimal

/-- The number of the hexadecimal digits in front. -/
def hexDigits (text : List Char) : Option ℕ := readNat (text.takeWhile isxdigit)

/-- The text without the prefix `0x`, which is one only in front of a digit. -/
def dropHexPrefix (text : List Char) : List Char :=
  if (text.take 2 = ['0', 'x'] ∨ text.take 2 = ['0', 'X']) ∧ (text[2]?.any isxdigit) then
    text.drop 2
  else
    text

/-- The hexadecimal number in front, with its sign. -/
def hexSigned : List Char → Option ℤ
  | '-' :: rest => (hexDigits (dropHexPrefix rest)).map fun n => -(n : ℤ)
  | '+' :: rest => (hexDigits (dropHexPrefix rest)).map Nat.cast
  | rest => (hexDigits (dropHexPrefix rest)).map Nat.cast

/-- The hexadecimal number in front, after white space. -/
def hexNumber (text : String) : Option ℤ := hexSigned (text.toList.dropWhile isspace)

/-- `std::stoi` with the base 16, for 32 bits. -/
def stoiHex (text : String) : Except NumberError ℤ :=
  match hexNumber text with
  | none => .error .invalidArgument
  | some n => if -2 ^ 31 ≤ n ∧ n < 2 ^ 31 then .ok n else .error .outOfRange

/-- `std::stoul` with the base 16, for 64 bits. -/
def stoulHex (text : String) : Except NumberError ℕ :=
  match hexNumber text with
  | none => .error .invalidArgument
  | some n => if n.natAbs < 2 ^ 64 then .ok (n % 2 ^ 64).toNat else .error .outOfRange

/-- The codes of the digits. -/
theorem isxdigit_le {c : Char} (h : isxdigit c) : 0x30 ≤ c.toNat ∧ c.toNat ≤ 0x66 := by
  rw [isxdigit, digitValue] at h
  split_ifs at h with hdigit hupper hlower
  · obtain ⟨hlow, hhigh⟩ := toNat_of_isDigit hdigit
    omega
  · omega
  · omega
  · cases h

/-- Digits have no prefix. -/
theorem dropHexPrefix_digits_append {cs rest : List Char} (h : cs.all isxdigit)
    (hx : 'x' ∉ rest) (hX : 'X' ∉ rest) : dropHexPrefix (cs ++ rest) = cs ++ rest := by
  refine if_neg fun hprefix => ?_
  have hmem : ∀ c, isxdigit c = false → c ∉ rest → c ∉ (cs ++ rest).take 2 := by
    intro c hc hrest htake
    obtain hcs | hcs := List.mem_append.mp (List.mem_of_mem_take htake)
    · rw [List.all_eq_true.mp h c hcs] at hc
      cases hc
    · exact hrest hcs
  obtain heq | heq := hprefix.1
  · exact hmem 'x' (by decide) hx (by simp [heq])
  · exact hmem 'X' (by decide) hX (by simp [heq])

/-- Hexadecimal digits are read as their number, up to something else. -/
theorem hexNumber_digits_append {cs rest : List Char} {n : ℕ} (h : readNat cs = some n)
    (hrest : rest.head?.all (!isxdigit ·)) (hx : 'x' ∉ rest) (hX : 'X' ∉ rest) :
    hexNumber (String.ofList (cs ++ rest)) = some (n : ℤ) := by
  have hall := (readNat_eq_some_iff.mp h).2.1
  obtain ⟨c, cs', hdigits, hc⟩ := exists_head_of_readNat h
  have hsign : ∀ d, isxdigit d = false → ∀ rest', cs ++ rest = d :: rest' → False := by
    rintro d hd rest' heq
    rw [hdigits, List.cons_append] at heq
    obtain ⟨rfl, -⟩ := List.cons.inj heq
    rw [hd] at hc
    exact Bool.false_ne_true hc
  have hspace : (cs ++ rest).dropWhile isspace = cs ++ rest := by
    rw [hdigits, List.cons_append, List.dropWhile_cons, isspace_of_le (isxdigit_le hc).1,
      if_neg Bool.false_ne_true]
  rw [hexNumber, String.toList_ofList, hspace,
    hexSigned.eq_3 _ (hsign '-' (by decide)) (hsign '+' (by decide)),
    dropHexPrefix_digits_append hall hx hX, hexDigits, takeWhile_append_of_head hall hrest, h]
  rfl

/-- A text of digits is read as their number. -/
theorem hexNumber_of_digits {text : String} {n : ℕ} (h : readNat text.toList = some n) :
    hexNumber text = some (n : ℤ) := by
  have hnumber := hexNumber_digits_append h rfl List.not_mem_nil List.not_mem_nil
  rwa [List.append_nil, String.ofList_toList] at hnumber

/-- `stoi` to the base 16 reads digits, if the number fits in 32 bits. -/
theorem stoiHex_of_digits {text : String} {n : ℕ} (h : readNat text.toList = some n)
    (hn : n < 2 ^ 31) : stoiHex text = .ok (n : ℤ) := by
  rw [stoiHex, hexNumber_of_digits h]
  exact if_pos ⟨by omega, by omega⟩

/-- `stoul` to the base 16 reads digits, if the number fits in 64 bits. -/
theorem stoulHex_of_digits {text : String} {n : ℕ} (h : readNat text.toList = some n)
    (hn : n < 2 ^ 64) : stoulHex text = .ok n := by
  have hmod : ((n : ℤ) % 2 ^ 64).toNat = n := by omega
  rw [stoulHex, hexNumber_of_digits h]
  exact (if_pos hn).trans (congrArg Except.ok hmod)

/-! ### Hexadecimal digits as decimal ones -/

/-- More digits make no smaller number. -/
theorem le_foldl_push (text : List Char) (n : ℕ) : n ≤ text.foldl push n := by
  induction text generalizing n with
  | nil => exact le_rfl
  | cons c text ih =>
    refine le_trans ?_ (ih (push n c))
    rw [push]
    omega

/-- Decimal digits stand for less with the base ten. -/
theorem ofDigitChars_le_foldl_push {text : List Char} (h : text.all Char.isDigit) {m n : ℕ}
    (hmn : m ≤ n) : Nat.ofDigitChars 10 text m ≤ text.foldl push n := by
  induction text generalizing m n with
  | nil => exact hmn
  | cons c text ih =>
    rw [List.all_cons, Bool.and_eq_true] at h
    have hvalue : digitValue c = some (c.toNat - 0x30) := if_pos h.1
    have hpush : 10 * m + (c.toNat - '0'.toNat) ≤ push n c := by
      rw [push, hvalue]
      exact Nat.add_le_add (Nat.mul_le_mul (by decide) hmn) le_rfl
    exact ih h.2 hpush

/-- A hexadecimal number is read as a decimal one if it begins with a decimal digit. -/
theorem stoul_hexadecimal_returns_iff {text : String} {n : ℕ} (h : readNat text.toList = some n)
    (hn : n < 2 ^ 64) : (∃ m, stoul text = .ok m) ↔ text.toList.head?.any Char.isDigit := by
  obtain ⟨c, cs, hdigits, hc⟩ := exists_head_of_readNat h
  have hnumber := number_of_head hdigits (isxdigit_le hc).1
  rw [hdigits, List.head?_cons, Option.any_some]
  constructor
  · rintro ⟨m, hm⟩
    by_contra hdigit
    have hnone : number text = none := by
      rw [hnumber, hdigits, digits, List.takeWhile_cons, if_neg hdigit]
      rfl
    rw [stoul, hnone] at hm
    cases hm
  · intro hdigit
    -- what is read is the front of decimal digits
    let front := text.toList.takeWhile Char.isDigit
    have hfront : front.all Char.isDigit := List.all_takeWhile
    have hread : digits text.toList = some (Nat.ofDigitChars 10 front 0) := by
      refine if_pos ⟨?_, hfront⟩
      rw [hdigits, List.takeWhile_cons, if_pos hdigit]
      exact List.cons_ne_nil _ _
    -- which is at most the whole text as a hexadecimal number
    have hlt : Nat.ofDigitChars 10 front 0 < 2 ^ 64 := by
      refine lt_of_le_of_lt (ofDigitChars_le_foldl_push hfront le_rfl) (lt_of_le_of_lt ?_ hn)
      have hsplit : text.toList = front ++ text.toList.dropWhile Char.isDigit :=
        List.takeWhile_append_dropWhile.symm
      rw [← (readNat_eq_some_iff.mp h).2.2, hsplit, List.foldl_append]
      exact le_foldl_push _ _
    refine ⟨(((Nat.ofDigitChars 10 front 0 : ℕ) : ℤ) % 2 ^ 64).toNat, ?_⟩
    rw [stoul, hnumber, hread]
    exact if_pos hlt

end Text
