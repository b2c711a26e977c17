import Mathlib.Data.List.Basic
import Mathlib.Tactic.Ring

/-!
# Lists in pieces of equal length

`piece c l k` is the `k`-th of the pieces of length `c` that a list falls into; the last one may
be shorter, and beyond it the pieces are empty; `count c n` is how many a list of length `n` has.
Two uses meet here. Sending a buffer piece by piece loses nothing: the first `n` pieces together
are the first `n * c` elements (`flatMap_piece_range`), so enough of them are the whole
(`flatMap_piece_eq_self`); `CutInto` says all that is wanted of the pieces (`cutInto_pieces`). And
reading a buffer of encoded items back at the width of the encoding finds the items
(`map_piece_flatMap`), whatever the encoding, as long as its width is constant.
-/

namespace Pieces

variable {α β γ : Type*}

/-- The `k`-th piece of length `c`. -/
def piece (c : ℕ) (l : List α) (k : ℕ) : List α :=
  (l.drop (k * c)).take c

/-- The first `n` pieces together are the first `n * c` elements. -/
theorem flatMap_piece_range (c : ℕ) (l : List α) (n : ℕ) :
    (List.range n).flatMap (piece c l) = l.take (n * c) := by
  induction n with
  | zero => simp
  | succ n ih =>
    rw [List.range_succ, List.flatMap_append, ih, List.flatMap_singleton, piece,
      Nat.add_one_mul, List.take_add]

/-- Enough pieces together are the whole list. -/
theorem flatMap_piece_eq_self {c n : ℕ} {l : List α} (h : l.length ≤ n * c) :
    (List.range n).flatMap (piece c l) = l := by
  rw [flatMap_piece_range, List.take_of_length_le h]

/-! ### The number of pieces -/

/-- The number of pieces of length `c` that `n` elements fall into: the full ones, and a shorter
one if something is left. -/
def count (c n : ℕ) : ℕ :=
  n / c + if n % c = 0 then 0 else 1

/-- The pieces together reach the end, and less than a piece beyond. -/
theorem count_mul_bounds {c : ℕ} (hc : 0 < c) (n : ℕ) :
    n ≤ count c n * c ∧ count c n * c < n + c := by
  have hsum := Nat.div_add_mod n c
  have hlt := Nat.mod_lt n hc
  have hmul : n / c * c = c * (n / c) := Nat.mul_comm _ _
  rw [count, Nat.add_mul]
  split
  · omega
  · rw [Nat.one_mul]
    omega

/-- The pieces have room for everything. -/
theorem le_count_mul {c : ℕ} (hc : 0 < c) (n : ℕ) : n ≤ count c n * c :=
  (count_mul_bounds hc n).1

/-- Less than one piece of room is left over. -/
theorem count_mul_lt {c : ℕ} (hc : 0 < c) (n : ℕ) : count c n * c < n + c :=
  (count_mul_bounds hc n).2

/-- There are no more pieces than items. -/
theorem count_le {c : ℕ} (hc : 0 < c) (n : ℕ) : count c n ≤ n := by
  have hsum := Nat.div_add_mod n c
  have hle : n / c ≤ c * (n / c) := Nat.le_mul_of_pos_left _ hc
  rw [count]
  split <;> omega

/-- The pieces are the fewest that cover. -/
theorem count_le_iff {c n k : ℕ} (hc : 0 < c) : count c n ≤ k ↔ n ≤ k * c := by
  constructor
  · exact fun h => (le_count_mul hc n).trans (Nat.mul_le_mul_right c h)
  · intro h
    have hlt := count_mul_lt hc n
    refine Nat.le_of_lt_succ (Nat.lt_of_mul_lt_mul_right (a := c) ?_)
    rw [Nat.succ_mul]
    omega

/-- The pieces together have the next multiple of their length. -/
theorem count_mul_eq_iff {c n m : ℕ} (hc : 0 < c) :
    count c n * c = m ↔ c ∣ m ∧ n ≤ m ∧ m < n + c := by
  have hle := le_count_mul hc n
  have hlt := count_mul_lt hc n
  constructor
  · rintro rfl
    exact ⟨Nat.dvd_mul_left c _, hle, hlt⟩
  · rintro ⟨⟨k, rfl⟩, hn, hm⟩
    rw [Nat.mul_comm c k] at hn hm ⊢
    -- two multiples less than the length apart are equal
    have hup : count c n < k + 1 := Nat.lt_of_mul_lt_mul_right (a := c) (by
      rw [Nat.add_one_mul]
      omega)
    have hdown : k < count c n + 1 := Nat.lt_of_mul_lt_mul_right (a := c) (by
      rw [Nat.add_one_mul]
      omega)
    rw [Nat.le_antisymm (Nat.le_of_lt_succ hup) (Nat.le_of_lt_succ hdown)]

/-- The pieces of a list, all together. -/
theorem flatMap_piece_count {c : ℕ} (hc : 0 < c) (l : List α) :
    (List.range (count c l.length)).flatMap (piece c l) = l :=
  flatMap_piece_eq_self (le_count_mul hc l.length)

/-- A list cut at every `c` elements: no piece is empty, all but the last have length `c`, the last
has at most that, and together they are the list. -/
structure CutInto (c : ℕ) (l : List α) (pieces : List (List α)) : Prop where
  ne_nil : ∀ p ∈ pieces, p ≠ []
  length_eq : ∀ p ∈ pieces.dropLast, p.length = c
  length_le : ∀ p ∈ pieces, p.length ≤ c
  flatten : pieces.flatten = l

/-- Each piece begins within the list. -/
theorem lt_length_of_lt_count {c k : ℕ} (hc : 0 < c) {n : ℕ} (hk : k < count c n) : k * c < n := by
  have hsum := Nat.div_add_mod n c
  have hmul : n / c * c = c * (n / c) := Nat.mul_comm _ _
  rw [count] at hk
  split at hk
  · have hle : (k + 1) * c ≤ n / c * c := Nat.mul_le_mul_right c hk
    rw [Nat.add_one_mul] at hle
    omega
  · have hle : k * c ≤ n / c * c := Nat.mul_le_mul_right c (Nat.le_of_lt_succ hk)
    omega

/-- Below the last piece, the pieces are full. -/
theorem succ_mul_le_of_succ_lt_count {c k n : ℕ} (hk : k + 1 < count c n) : (k + 1) * c ≤ n := by
  have hle : k + 1 ≤ n / c := by
    rw [count] at hk
    split at hk <;> omega
  exact (Nat.mul_le_mul_right c hle).trans (Nat.div_mul_le_self n c)

/-- **The pieces of a list cut it.** -/
theorem cutInto_pieces {c : ℕ} (hc : 0 < c) (l : List α) :
    CutInto c l ((List.range (count c l.length)).map (piece c l)) := by
  refine ⟨fun p hp => ?_, fun p hp => ?_, fun p hp => ?_, ?_⟩
  · obtain ⟨k, hk, rfl⟩ := List.mem_map.mp hp
    have hlt := lt_length_of_lt_count hc (List.mem_range.mp hk)
    rw [← List.length_pos_iff, piece, List.length_take, List.length_drop]
    omega
  · -- all pieces but the last lie within the list
    rw [← List.map_dropLast] at hp
    obtain ⟨k, hk, rfl⟩ := List.mem_map.mp hp
    obtain ⟨i, hi, hik⟩ := List.mem_iff_getElem.mp hk
    rw [List.getElem_dropLast, List.getElem_range] at hik
    rw [List.length_dropLast, List.length_range] at hi
    have hle : (k + 1) * c ≤ l.length := succ_mul_le_of_succ_lt_count (by omega)
    rw [Nat.add_one_mul] at hle
    rw [piece, List.length_take, List.length_drop]
    omega
  · obtain ⟨k, -, rfl⟩ := List.mem_map.mp hp
    rw [piece, List.length_take]
    exact Nat.min_le_left _ _
  · rw [← List.flatMap_def]
    exact flatMap_piece_count hc l

/-! ### Pieces of lists behind each other -/

/-- The pieces of a list of whole pieces do not change with what follows. -/
theorem piece_append_left {c n k : ℕ} {l : List α} (hl : l.length = n * c) (hk : k < n)
    (m : List α) : piece c (l ++ m) k = piece c l k := by
  have hle : (k + 1) * c ≤ n * c := Nat.mul_le_mul_right c hk
  rw [Nat.add_one_mul] at hle
  rw [piece, piece, List.drop_append_of_le_length (by omega),
    List.take_append_of_le_length (by rw [List.length_drop]; omega)]

/-- Behind a list of whole pieces, the pieces are those of what follows. -/
theorem piece_append_right {c n : ℕ} {l : List α} (hl : l.length = n * c) (m : List α) (k : ℕ) :
    piece c (l ++ m) (n + k) = piece c m k := by
  rw [piece, piece, Nat.add_mul, ← hl, ← List.drop_drop, List.drop_left]

/-- Lists of whole pieces may be taken to pieces one by one, or all together. -/
theorem flatMap_map_piece {c n : ℕ} {ls : List (List α)} (h : ∀ l ∈ ls, l.length = n * c)
    (f : List α → β) : (ls.flatMap fun l => (List.range n).map fun k => f (piece c l k)) =
      (List.range (ls.length * n)).map fun k => f (piece c ls.flatten k) := by
  induction ls with
  | nil => rw [List.length_nil, Nat.zero_mul]; rfl
  | cons l ls ih =>
    rw [List.forall_mem_cons] at h
    rw [List.flatMap_cons, ih h.2, List.length_cons, Nat.add_one_mul, Nat.add_comm,
      List.range_add, List.map_append, List.map_map, List.flatten_cons]
    congr 1
    · refine List.map_congr_left fun k hk => ?_
      rw [piece_append_left h.1 (List.mem_range.mp hk)]
    · refine List.map_congr_left fun k _ => ?_
      rw [Function.comp_apply, piece_append_right h.1]

/-! ### Items of equal width -/

section Encode

variable {w : ℕ} {f : β → List α}

/-- Items of one width make a list of so many times their number. -/
theorem length_flatMap_of_width (hf : ∀ b, (f b).length = w) (xs : List β) :
    (xs.flatMap f).length = xs.length * w := by
  induction xs with
  | nil => simp
  | cons x xs ih =>
    rw [List.flatMap_cons, List.length_append, ih, hf, List.length_cons]
    ring

/-- The pieces of the encoded items are the items' encodings. -/
theorem piece_flatMap (hf : ∀ b, (f b).length = w) {xs : List β} {k : ℕ} (hk : k < xs.length) :
    piece w (xs.flatMap f) k = f xs[k] := by
  induction xs generalizing k with
  | nil => exact absurd hk (Nat.not_lt_zero k)
  | cons x xs ih =>
    rcases k with _ | k
    · rw [piece, Nat.zero_mul, List.drop_zero, List.flatMap_cons, List.take_append_of_le_length
        (hf x).ge, List.take_of_length_le (hf x).le]
      rfl
    · have hlt : k < xs.length := Nat.lt_of_succ_lt_succ hk
      have hdrop : ((x :: xs).flatMap f).drop ((k + 1) * w) = (xs.flatMap f).drop (k * w) := by
        rw [List.flatMap_cons, Nat.add_one_mul, Nat.add_comm, ← List.drop_drop, ← hf x,
          List.drop_left]
      rw [piece, hdrop]
      exact ih hlt

/-- **Reading encoded items back at their width finds the items.** -/
theorem map_piece_flatMap (hf : ∀ b, (f b).length = w) (g : List α → γ) (xs : List β) :
    (List.range xs.length).map (fun k => g (piece w (xs.flatMap f) k)) =
      xs.map fun x => g (f x) := by
  refine List.ext_getElem (by simp) fun k hk _ => ?_
  have hlt : k < xs.length := by simpa using hk
  simp only [List.getElem_map, List.getElem_range, piece_flatMap hf hlt]

end Encode

end Pieces
