import Foxtrot.Foundation.Decimal
import Foxtrot.Foundation.Occurrences
import Mathlib.Data.List.Basic

/-!
# Text

Functions on text of the standard library of C++: a text is split at the first occurrence of a
character (`splitFirst`) or into its lines (`getlines`), it is searched for another one (`Occurs`),
and numbers are read from the front of one (`stoi`, `stoul`). A `String` stands for a `std::string`,
and each of its characters for a byte.

Splitting undoes the joining of a key without the separator and a value (`splitFirst_join`), so the
key and the value of a line `key=value` are determined by it.
-/

namespace Text

/-! ### Splitting -/

/-- The characters before and after the first occurrence of a character. -/
def cut (c : Char) : List Char → Option (List Char × List Char)
  | [] => none
  | d :: ds => if d = c then some ([], ds) else (cut c ds).map (Prod.map (d :: ·) id)

/-- A list is cut at the first occurrence. -/
theorem cut_append {c : Char} {xs : List Char} (h : c ∉ xs) (ys : List Char) :
    cut c (xs ++ c :: ys) = some (xs, ys) := by
  induction xs with
  | nil => exact if_pos rfl
  | cons d xs ih =>
    rw [List.mem_cons, not_or] at h
    rw [List.cons_append, cut, if_neg (Ne.symm h.1), ih h.2]
    rfl

/-- A cut undoes the joining of two lists, of which the first is without the character. -/
theorem cut_eq_some_iff {c : Char} {text xs ys : List Char} :
    cut c text = some (xs, ys) ↔ text = xs ++ c :: ys ∧ c ∉ xs := by
  constructor
  · intro h
    induction text generalizing xs with
    | nil => cases h
    | cons d text ih =>
      rw [cut] at h
      by_cases hd : d = c
      · rw [if_pos hd] at h
        obtain ⟨rfl, rfl⟩ := Prod.mk.inj (Option.some.inj h)
        exact ⟨by rw [hd, List.nil_append], List.not_mem_nil⟩
      · rw [if_neg hd] at h
        obtain ⟨⟨xs', ys'⟩, hcut, heq⟩ := Option.map_eq_some_iff.mp h
        obtain ⟨rfl, rfl⟩ := Prod.mk.inj heq
        obtain ⟨rfl, hmem⟩ := ih hcut
        exact ⟨rfl, by simp [Ne.symm hd, hmem]⟩
  · rintro ⟨rfl, h⟩
    exact cut_append h ys

/-- The text before and after the first occurrence of a character. -/
def splitFirst (c : Char) (text : String) : Option (String × String) :=
  (cut c text.toList).map (Prod.map String.ofList String.ofList)

/-- A key and a value, joined by `=`. -/
def join (key val : String) : String := key ++ "=" ++ val

/-- The characters of a joined text. -/
theorem toList_join (key val : String) :
    (join key val).toList = key.toList ++ '=' :: val.toList := by
  rw [join, String.toList_append, String.toList_append, List.append_assoc]
  rfl

/-- A joined text is longer by one than its parts. -/
theorem length_join (key val : String) :
    (join key val).length = key.length + 1 + val.length := by
  rw [join, String.length_append, String.length_append]
  rfl

/-- A joined text has a `=` at least. -/
theorem join_ne_empty (key val : String) : join key val ≠ "" := by
  intro h
  have hlength := length_join key val
  rw [h] at hlength
  have hempty : "".length = 0 := rfl
  omega

/-- A line is split into what it has been joined from. -/
theorem splitFirst_join {key : String} (h : '=' ∉ key.toList) (val : String) :
    splitFirst '=' (join key val) = some (key, val) := by
  rw [splitFirst, toList_join, cut_append h, Option.map_some, Prod.map_apply, String.ofList_toList,
    String.ofList_toList]

/-- In front of the first occurrence there is none. -/
theorem not_mem_of_splitFirst {c : Char} {text : String} {kv : String × String}
    (h : splitFirst c text = some kv) : c ∉ kv.1.toList := by
  obtain ⟨⟨xs, ys⟩, hcut, rfl⟩ := Option.map_eq_some_iff.mp h
  rw [Prod.map_apply, String.toList_ofList]
  exact (cut_eq_some_iff.mp hcut).2

/-- A joined text determines its key without `=`, and the value. -/
theorem join_inj {key key' val val' : String} (h : '=' ∉ key.toList) (h' : '=' ∉ key'.toList)
    (heq : join key val = join key' val') : key = key' ∧ val = val' := by
  have hsplit := splitFirst_join h val
  rw [heq, splitFirst_join h'] at hsplit
  obtain ⟨rfl, rfl⟩ := Prod.mk.inj (Option.some.inj hsplit)
  exact ⟨rfl, rfl⟩

/-- A joined text with a known key determines the value. -/
theorem join_left_inj {key val val' : String} (heq : join key val = join key val') :
    val = val' := by
  have hlist := congrArg String.toList heq
  rw [toList_join, toList_join, List.append_cancel_left_eq] at hlist
  exact String.toList_inj.mp (List.cons.inj hlist).2

/-- The lines that `std::getline` yields, after the characters of a line that has begun. -/
def linesFrom (begun : List Char) : List Char → List (List Char)
  | [] => if begun = [] then [] else [begun]
  | c :: cs => if c = '\n' then begun :: linesFrom [] cs else linesFrom (begun ++ [c]) cs

/-- The lines that `std::getline` yields. What follows the last line break is a line if it is not
empty. -/
def getlines (text : String) : List String := (linesFrom [] text.toList).map String.ofList

/-- Up to a line break there is one line. -/
theorem linesFrom_append_cons {xs : List Char} (h : '\n' ∉ xs) (begun ys : List Char) :
    linesFrom begun (xs ++ '\n' :: ys) = (begun ++ xs) :: linesFrom [] ys := by
  induction xs generalizing begun with
  | nil => rw [List.nil_append, linesFrom, if_pos rfl, List.append_nil]
  | cons c xs ih =>
    rw [List.mem_cons, not_or] at h
    rw [List.cons_append, linesFrom, if_neg (Ne.symm h.1), ih h.2, List.append_assoc]
    rfl

/-- A text without a line break is one line. -/
theorem getlines_line {line : String} (h : '\n' ∉ line.toList) :
    getlines (line ++ "\n") = [line] := by
  have hlist : (line ++ "\n").toList = line.toList ++ ['\n'] := by
    rw [String.toList_append]
    rfl
  rw [getlines, hlist, linesFrom_append_cons h, List.nil_append, linesFrom, if_pos rfl,
    List.map_singleton, String.ofList_toList]

/-- The lines of a text that begins with whole lines. -/
theorem linesFrom_lines {ls : List (List Char)} (h : ∀ l ∈ ls, '\n' ∉ l) (rest : List Char) :
    linesFrom [] (Occurrences.lines '\n' ls ++ rest) = ls ++ linesFrom [] rest := by
  induction ls with
  | nil => rfl
  | cons l ls ih =>
    rw [List.forall_mem_cons] at h
    rw [Occurrences.lines_cons, List.append_assoc, List.cons_append,
      linesFrom_append_cons h.1, List.nil_append, ih h.2, List.cons_append]

/-- The first line, where it has begun. -/
theorem exists_linesFrom_eq_cons {begun : List Char} (h : begun ≠ []) (text : List Char) :
    ∃ ls, linesFrom begun text = (begun ++ text.takeWhile (· ≠ '\n')) :: ls := by
  induction text generalizing begun with
  | nil => exact ⟨[], by rw [linesFrom, if_neg h, List.takeWhile_nil, List.append_nil]⟩
  | cons c text ih =>
    by_cases hc : c = '\n'
    · exact ⟨linesFrom [] text, by
        rw [linesFrom, if_pos hc, List.takeWhile_cons_of_neg (by simpa using hc),
          List.append_nil]⟩
    · obtain ⟨ls, hls⟩ := ih (List.append_ne_nil_of_right_ne_nil begun (List.cons_ne_nil c []))
      refine ⟨ls, ?_⟩
      rw [linesFrom, if_neg hc, hls, List.takeWhile_cons_of_pos (by simpa using hc),
        List.append_assoc]
      rfl

/-- The characters that pieces have together. -/
def joined (pieces : List String) : List Char := pieces.flatMap String.toList

theorem joined_append (pieces pieces' : List String) :
    joined (pieces ++ pieces') = joined pieces ++ joined pieces' := List.flatMap_append

theorem joined_singleton (piece : String) : joined [piece] = piece.toList :=
  List.flatMap_singleton _ _

/-! ### Searching -/

/-- `std::string::find` finds the pattern in the text. -/
def Occurs (pattern text : String) : Prop := pattern.toList <:+: text.toList

instance (pattern text : String) : Decidable (Occurs pattern text) :=
  inferInstanceAs (Decidable (pattern.toList <:+: text.toList))

/-- Occurrence in a text, by its characters. -/
theorem occurs_ofList {pattern : String} {cs : List Char} :
    Occurs pattern (String.ofList cs) ↔ pattern.toList <:+: cs := by
  rw [Occurs, String.toList_ofList]

/-! ### Characters -/

/-- `std::isprint`. -/
def isprint (c : Char) : Bool := 0x20 ≤ c.toNat && c.toNat ≤ 0x7E

/-- `std::isspace`. -/
def isspace (c : Char) : Bool := c = ' ' || 0x09 ≤ c.toNat && c.toNat ≤ 0x0D

/-- The printable characters of a text. -/
def printable (text : String) : String := String.ofList (text.toList.filter isprint)

/-- A text of printable characters. -/
def Printable (text : String) : Prop := text.toList.all isprint

instance (text : String) : Decidable (Printable text) :=
  inferInstanceAs (Decidable (text.toList.all isprint = true))

/-- A printable text is left as it is. -/
theorem printable_eq_self {text : String} (h : Printable text) : printable text = text := by
  rw [printable, List.filter_eq_self.mpr (List.all_eq_true.mp h), String.ofList_toList]

/-- No character is added to a text that is made printable. -/
theorem not_mem_printable {c : Char} {text : String} (h : c ∉ text.toList) :
    c ∉ (printable text).toList := by
  rw [printable, String.toList_ofList]
  exact fun hmem => h (List.mem_of_mem_filter hmem)

/-- What is printable of a line is the line of what is printable. -/
theorem printable_join (key val : String) :
    printable (join key val) = join (printable key) (printable val) := by
  have heq : isprint '=' = true := by decide
  refine String.toList_inj.mp ?_
  rw [toList_join, printable, printable, printable, toList_join, String.toList_ofList,
    String.toList_ofList, String.toList_ofList, List.filter_append, List.filter_cons, heq,
    if_pos rfl]

/-- Printable texts, one after the other, are printable. -/
theorem Printable.append {text text' : String} (h : Printable text) (h' : Printable text') :
    Printable (text ++ text') := by
  rw [Printable, String.toList_append, List.all_append, h, h']
  rfl

/-- A printable key and value are joined to a printable text. -/
theorem Printable.join {key val : String} (hkey : Printable key) (hval : Printable val) :
    Printable (join key val) :=
  (hkey.append (by decide)).append hval

/-! ### Numbers -/

/-- The number of the digits in front. -/
def digits (text : List Char) : Option ℕ := Decimal.readNat (text.takeWhile Char.isDigit)

/-- The number in front, with its sign. -/
def signed : List Char → Option ℤ
  | '-' :: rest => (digits rest).map fun n => -(n : ℤ)
  | '+' :: rest => (digits rest).map Nat.cast
  | rest => (digits rest).map Nat.cast

/-- The number in front, after white space. -/
def number (text : String) : Option ℤ := signed (text.toList.dropWhile isspace)

/-- Why a number cannot be read. -/
inductive NumberError where
  | invalidArgument
  | outOfRange
  deriving DecidableEq

/-- `std::stoi`, for 32 bits. -/
def stoi (text : String) : Except NumberError ℤ :=
  match number text with
  | none => .error .invalidArgument
  | some n => if -2 ^ 31 ≤ n ∧ n < 2 ^ 31 then .ok n else .error .outOfRange

/-- `std::stoul`, for 64 bits. A negative number is taken modulo `2 ^ 64`. -/
def stoul (text : String) : Except NumberError ℕ :=
  match number text with
  | none => .error .invalidArgument
  | some n => if n.natAbs < 2 ^ 64 then .ok (n % 2 ^ 64).toNat else .error .outOfRange

/-- A number is printed with digits. -/
theorem all_isDigit_toDigits (n : ℕ) : (Nat.toDigits 10 n).all Char.isDigit := by
  rw [List.all_eq_true]
  exact fun c hc => Nat.isDigit_of_mem_toDigits (by decide) (by decide) hc

/-- The digits of a number are read as this number. -/
theorem digits_toDigits (n : ℕ) : digits (Nat.toDigits 10 n) = some n := by
  have htake : (Nat.toDigits 10 n).takeWhile Char.isDigit = Nat.toDigits 10 n := by
    rw [← List.append_nil (Nat.toDigits 10 n),
      List.takeWhile_append_of_pos (List.all_eq_true.mp (all_isDigit_toDigits n)),
      List.takeWhile_nil]
  rw [digits, htake, Decimal.readNat_toDigits]

/-- The code of a digit. -/
theorem toNat_of_isDigit {c : Char} (h : c.isDigit) : 0x30 ≤ c.toNat ∧ c.toNat ≤ 0x39 := by
  rw [Char.isDigit, Bool.and_eq_true, decide_eq_true_eq, decide_eq_true_eq] at h
  exact h

/-- No character from the digits on is white space. -/
theorem isspace_of_le {c : Char} (h : 0x30 ≤ c.toNat) : isspace c = false := by
  have hne : c ≠ ' ' := by
    rintro rfl
    exact absurd h (by decide)
  simp only [isspace, hne, decide_false, Bool.false_or, Bool.and_eq_false_iff,
    decide_eq_false_iff_not]
  omega

/-- Where there is no white space and no sign in front, the digits in front are read. -/
theorem number_of_head {text : String} {c : Char} {cs : List Char} (htext : text.toList = c :: cs)
    (hc : 0x30 ≤ c.toNat) : number text = (digits text.toList).map Nat.cast := by
  have hsign : ∀ d : Char, d.toNat < 0x30 → ∀ rest, c :: cs = d :: rest → False := by
    rintro d hd rest heq
    obtain ⟨rfl, -⟩ := List.cons.inj heq
    exact absurd hc (not_le.mpr hd)
  rw [number, htext, List.dropWhile_cons, isspace_of_le hc, if_neg Bool.false_ne_true,
    signed.eq_3 _ (hsign '-' (by decide)) (hsign '+' (by decide))]

/-- The characters in front, up to one of another kind. -/
theorem takeWhile_append_of_head {p : Char → Bool} {cs rest : List Char} (hcs : cs.all p)
    (hrest : rest.head?.all (!p ·)) : (cs ++ rest).takeWhile p = cs := by
  rw [List.takeWhile_append_of_pos (List.all_eq_true.mp hcs)]
  cases rest with
  | nil => rw [List.takeWhile_nil, List.append_nil]
  | cons d rest =>
    have hd : p d = false := by simpa using hrest
    rw [List.takeWhile_cons_of_neg (by simp [hd]), List.append_nil]

/-- Digits are read as their number, up to something else. -/
theorem number_digits_append {cs rest : List Char} {n : ℕ} (h : Decimal.readNat cs = some n)
    (hrest : rest.head?.all (!·.isDigit)) : number (String.ofList (cs ++ rest)) = some (n : ℤ) := by
  have hread := h
  rw [Decimal.readNat] at hread
  split_ifs at hread with htext
  obtain ⟨hne, hall⟩ := htext
  obtain ⟨c, cs', hdigits⟩ := List.exists_cons_of_ne_nil hne
  have hc : 0x30 ≤ c.toNat ∧ c.toNat ≤ 0x39 := by
    rw [hdigits, List.all_cons, Bool.and_eq_true] at hall
    exact toNat_of_isDigit hall.1
  have hlist : (String.ofList (cs ++ rest)).toList = c :: (cs' ++ rest) := by
    rw [String.toList_ofList, hdigits, List.cons_append]
  rw [number_of_head hlist hc.1, digits, String.toList_ofList,
    takeWhile_append_of_head hall hrest, h]
  rfl

/-- A text of digits is read as their number. -/
theorem number_of_digits {text : String} {n : ℕ} (h : Decimal.readNat text.toList = some n) :
    number text = some (n : ℤ) := by
  have hnumber := @number_digits_append text.toList [] n h rfl
  rwa [List.append_nil, String.ofList_toList] at hnumber

/-- A printed natural number is read back. -/
theorem number_repr_ofNat (n : ℕ) : number n.repr = some (n : ℤ) :=
  number_of_digits (Decimal.readNat_repr n)

/-- A printed number is read back. -/
theorem number_repr (n : ℤ) : number n.repr = some n := by
  cases n with
  | ofNat m => exact number_repr_ofNat m
  | negSucc m =>
    have hlist : (Int.negSucc m).repr.toList = '-' :: Nat.toDigits 10 (m + 1) := by
      rw [Int.repr, String.toList_append, Nat.toList_repr]
      rfl
    have hspace : isspace '-' = false := by decide
    rw [number, hlist, List.dropWhile_cons, hspace, if_neg Bool.false_ne_true, signed,
      digits_toDigits]
    rfl

/-- `stoi` reads the number in front, if it fits in 32 bits. -/
theorem stoi_eq_ok_iff {text : String} {n : ℤ} :
    stoi text = .ok n ↔ number text = some n ∧ -2 ^ 31 ≤ n ∧ n < 2 ^ 31 := by
  rw [stoi]
  cases number text with
  | none => simp
  | some m =>
    by_cases hrange : -2 ^ 31 ≤ m ∧ m < 2 ^ 31
    · have hif : (if -2 ^ 31 ≤ m ∧ m < 2 ^ 31 then Except.ok m else .error .outOfRange) =
          (.ok m : Except NumberError ℤ) := if_pos hrange
      simp only [hif, Except.ok.injEq, Option.some.injEq]
      exact ⟨fun h => ⟨h, h ▸ hrange⟩, fun h => h.1⟩
    · have hif : (if -2 ^ 31 ≤ m ∧ m < 2 ^ 31 then Except.ok m else .error .outOfRange) =
          (.error .outOfRange : Except NumberError ℤ) := if_neg hrange
      simp only [hif, Option.some.injEq, reduceCtorEq, false_iff]
      rintro ⟨rfl, h⟩
      exact hrange h

/-- `stoul` reads a natural number in front, if it fits in 64 bits. -/
theorem stoul_of_number {text : String} {n : ℕ} (hnumber : number text = some (n : ℤ))
    (h : n < 2 ^ 64) : stoul text = .ok n := by
  have hmod : ((n : ℤ) % 2 ^ 64).toNat = n := by omega
  rw [stoul, hnumber]
  exact (if_pos h).trans (congrArg Except.ok hmod)

/-- `stoul` reads a printed number back. -/
theorem stoul_repr {n : ℕ} (h : n < 2 ^ 64) : stoul n.repr = .ok n :=
  stoul_of_number (number_repr_ofNat n) h

/-! ### Numbered keys -/

/-- A word with a number. -/
def numbered (word : String) (i : ℤ) : String := word ++ i.repr

/-- The capitals in front of a key. -/
def family (key : String) : List Char := key.toList.takeWhile Char.isUpper

/-- A printed number has digits, and a sign if it is negative. -/
theorem of_mem_repr {c : Char} {i : ℤ} (h : c ∈ i.repr.toList) : c = '-' ∨ c.isDigit := by
  have hdigits : ∀ n : ℕ, c ∈ n.repr.toList → c.isDigit := by
    intro n hn
    rw [Nat.toList_repr] at hn
    exact List.all_eq_true.mp (all_isDigit_toDigits n) c hn
  cases i with
  | ofNat n => exact .inr (hdigits n h)
  | negSucc n =>
    have hlist : (Int.negSucc n).repr.toList = '-' :: (n + 1).repr.toList := by
      rw [Int.repr, String.toList_append]
      rfl
    rw [hlist, List.mem_cons] at h
    exact h.imp_right (hdigits (n + 1))

/-- A numbered word determines its number. -/
theorem numbered_inj {word : String} {i j : ℤ} (h : numbered word i = numbered word j) : i = j := by
  have hlist := congrArg String.toList h
  rw [numbered, numbered, String.toList_append, String.toList_append,
    List.append_cancel_left_eq] at hlist
  have hread := Decimal.readInt_repr i
  rw [hlist, Decimal.readInt_repr] at hread
  exact (Option.some.inj hread).symm

/-- A numbered word has the characters of the word, digits and a sign. -/
theorem not_mem_numbered {c : Char} {word : String} (hword : c ∉ word.toList) (hminus : c ≠ '-')
    (hdigit : c.isDigit = false) (i : ℤ) : c ∉ (numbered word i).toList := by
  rw [numbered, String.toList_append, List.mem_append, not_or]
  refine ⟨hword, fun hmem => ?_⟩
  obtain hc | hc := of_mem_repr hmem
  · exact hminus hc
  · rw [hdigit] at hc
    exact Bool.false_ne_true hc

/-- A numbered word is printable if the word is. -/
theorem Printable.numbered {word : String} (h : Printable word) (i : ℤ) :
    Printable (numbered word i) := by
  refine h.append (List.all_eq_true.mpr fun c hc => ?_)
  obtain rfl | hdigit := of_mem_repr hc
  · decide
  · obtain ⟨hlow, hhigh⟩ := toNat_of_isDigit hdigit
    rw [isprint, Bool.and_eq_true, decide_eq_true_eq, decide_eq_true_eq]
    omega

/-- A printed number is printable. -/
theorem printable_repr (n : ℤ) : Printable n.repr := by
  have h : Printable (numbered "" n) := Printable.numbered (by decide) n
  rwa [numbered, String.empty_append] at h

/-- A digit is not an upper-case letter. -/
theorem isUpper_of_isDigit {c : Char} (h : c.isDigit) : c.isUpper = false := by
  have hle := (toNat_of_isDigit h).2
  rw [Bool.eq_false_iff]
  intro hupper
  have hge : 0x41 ≤ c.toNat := (of_decide_eq_true hupper).1
  omega

/-- The family of a key is the word, whatever follows the number. -/
theorem family_numbered_append {word : String} (hword : word.toList.all Char.isUpper) (i : ℤ)
    (rest : String) : family (numbered word i ++ rest) = word.toList := by
  obtain ⟨c, cs, hrepr⟩ : ∃ c cs, i.repr.toList = c :: cs := by
    refine List.exists_cons_of_ne_nil fun hnil => ?_
    have hread := Decimal.readInt_repr i
    rw [hnil] at hread
    cases hread
  have hc : c.isUpper = false := by
    have hmem : c ∈ i.repr.toList := hrepr ▸ List.mem_cons_self
    obtain rfl | hdigit := of_mem_repr hmem
    · rfl
    · exact isUpper_of_isDigit hdigit
  rw [family, numbered, String.toList_append, String.toList_append, hrepr, List.append_assoc,
    List.takeWhile_append_of_pos (List.all_eq_true.mp hword), List.cons_append,
    List.takeWhile_cons, hc]
  exact List.append_nil _

/-- The family of a numbered word in upper case is the word. -/
theorem family_numbered {word : String} (hword : word.toList.all Char.isUpper) (i : ℤ) :
    family (numbered word i) = word.toList := by
  rw [← String.append_empty (s := numbered word i), family_numbered_append hword]

/-- A numbered key is none of the keys of other families. -/
theorem numbered_not_mem {word : String} (hword : word.toList.all Char.isUpper)
    {keys : List String} (hkeys : ∀ key ∈ keys, family key ≠ word.toList) (i : ℤ) :
    numbered word i ∉ keys :=
  fun hmem => hkeys _ hmem (family_numbered hword i)

/-! ### Parts of a text -/

/-- A number as a `std::size_t`, if its size is below `2 ^ 64`. -/
def sizeT (n : ℤ) : ℕ := if 0 ≤ n then n.toNat else (2 ^ 64 + n).toNat

/-- `std::string::substr`, which throws where there is no value. -/
def substr (text : String) (pos n : ℕ) : Option String :=
  if text.length < pos then none else some (String.ofList ((text.toList.drop pos).take n))

/-- A part of a text, by the lengths of what is in front of it and of itself. -/
theorem substr_append {pos n : ℕ} {xs ys : String} (hpos : xs.length = pos) (hn : ys.length = n)
    (zs : String) : substr (xs ++ ys ++ zs) pos n = some ys := by
  have hle : pos ≤ (xs ++ ys ++ zs).length := by
    rw [String.length_append, String.length_append]
    omega
  have hxs : xs.toList.length = pos := hpos
  have hys : ys.toList.length = n := hn
  rw [substr, if_neg (not_lt.mpr hle), String.toList_append, String.toList_append,
    List.append_assoc, ← hxs, List.drop_left, ← hys, List.take_left, String.ofList_toList]

/-- A text that is long enough has each of its parts. -/
theorem substr_eq_some {text : String} {pos : ℕ} (h : pos ≤ text.length) (n : ℕ) :
    substr text pos n = some (String.ofList ((text.toList.drop pos).take n)) :=
  if_neg (not_lt.mpr h)

/-- A number in a stream, filled with zeros up to a width. -/
def zeroFilled (n : ℤ) (width : ℕ) : String := String.ofList (n.repr.toList.leftpad width '0')

/-- The digits of a number, with zeros in front up to the width. -/
theorem toList_zeroFilled (n : ℤ) (width : ℕ) :
    (zeroFilled n width).toList = List.replicate (width - n.repr.length) '0' ++ n.repr.toList := by
  rw [zeroFilled, String.toList_ofList]
  rfl

/-- A number that has room is filled up to the width exactly. -/
theorem length_zeroFilled {n : ℤ} {width : ℕ} (h : n.repr.length ≤ width) :
    (zeroFilled n width).length = width := by
  have hlength := congrArg List.length (toList_zeroFilled n width)
  rw [List.length_append, List.length_replicate, String.length_toList, String.length_toList]
    at hlength
  omega

/-- Zeros in front do not change the number. -/
theorem number_zeroFilled (n width : ℕ) : number (zeroFilled n width) = some (n : ℤ) := by
  refine number_of_digits ?_
  rw [toList_zeroFilled]
  exact Decimal.readNat_replicate_zero_append (Decimal.readNat_repr n) _

/-- `stoi` reads a filled number back. -/
theorem stoi_zeroFilled {n : ℕ} (h : n < 2 ^ 31) (width : ℕ) :
    stoi (zeroFilled n width) = .ok (n : ℤ) :=
  stoi_eq_ok_iff.mpr ⟨number_zeroFilled n width, by omega, by omega⟩

/-- `stoul` reads a filled number back. -/
theorem stoul_zeroFilled {n : ℕ} (h : n < 2 ^ 64) (width : ℕ) :
    stoul (zeroFilled n width) = .ok n :=
  stoul_of_number (number_zeroFilled n width) h

end Text
