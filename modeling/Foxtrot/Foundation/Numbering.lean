import Foxtrot.Foundation.FiniteMap
import Mathlib.Algebra.Group.Nat.Defs

/-!
# Numbering a list with a bounded counter

The items of a list are numbered in order with a counter of `w` bits, and each has a name, which
others may have as well. A `Numbering` holds the items by number and the numbers by name. Both maps
keep the first entry of a key.

As long as the counter does not wrap, a name leads to the first item of the list with that name. In
general it leads there exactly if that item is among the first `2 ^ w` ones (`resolve_eq_iff`).
Distinct numbers always hold items from distinct places (`lookup_items_fill`).
-/

namespace Foxtrot

/-- Items by number and numbers by name, with the next number. -/
structure Numbering (w : ℕ) (ν α : Type) where
  items : AList fun _ : BitVec w => α
  numbers : AList fun _ : ν => BitVec w
  next : BitVec w

namespace Numbering

variable {w : ℕ} {ν α : Type} [DecidableEq ν] {name : α → ν}

/-- No item is numbered. -/
def empty : Numbering w ν α := ⟨∅, ∅, 0⟩

/-- Number one more item. A key that is there already keeps its entry. -/
def add (name : α → ν) (t : Numbering w ν α) (a : α) : Numbering w ν α where
  items := t.items.insertNew t.next a
  numbers := t.numbers.insertNew (name a) t.next
  next := t.next + 1

/-- Number the items of a list. -/
def fill (w : ℕ) (name : α → ν) (l : List α) : Numbering w ν α := l.foldl (add name) empty

/-- The item to which a name leads. -/
def resolve (t : Numbering w ν α) (n : ν) : Option α :=
  (t.numbers.lookup n).bind fun i => t.items.lookup i

/-- The items of the list `l` are numbered. -/
structure Numbers (name : α → ν) (l : List α) (t : Numbering w ν α) : Prop where
  items : ∀ i : BitVec w, t.items.lookup i = l[i.toNat]?
  numbers : ∀ n, t.numbers.lookup n = (l.findIdx? fun a => name a = n).map (BitVec.ofNat w)
  next : t.next = BitVec.ofNat w l.length

/-- Nothing is numbered in the beginning. -/
theorem numbers_empty : Numbers name [] (empty : Numbering w ν α) :=
  ⟨fun _ => rfl, fun _ => rfl, rfl⟩

/-- One more item gets the next number. -/
theorem Numbers.add {l : List α} {t : Numbering w ν α} (h : Numbers name l t) (a : α) :
    Numbers name (l ++ [a]) (t.add name a) where
  items i := by
    rw [Numbering.add, AList.lookup_insertNew, h.items, h.next]
    rcases Nat.lt_trichotomy i.toNat l.length with hlt | heq | hgt
    · rw [List.getElem?_append_left hlt, List.getElem?_eq_getElem hlt, Option.some_or]
    · have hge : l.length ≤ i.toNat := Nat.le_of_eq heq.symm
      rw [List.getElem?_append_right hge, List.getElem?_eq_none hge, Option.none_or,
        if_pos (by rw [← heq, BitVec.ofNat_toNat, BitVec.setWidth_eq]), heq, Nat.sub_self]
      rfl
    · have hne : i ≠ BitVec.ofNat w l.length := by
        rintro rfl
        rw [BitVec.toNat_ofNat] at hgt
        exact absurd (Nat.mod_le _ _) (Nat.not_le.mpr hgt)
      rw [List.getElem?_eq_none (Nat.le_of_lt hgt), if_neg hne, Option.none_or,
        List.getElem?_eq_none (by rw [List.length_append]; exact hgt)]
  numbers n := by
    rw [Numbering.add, AList.lookup_insertNew, h.numbers, h.next, List.findIdx?_append]
    cases l.findIdx? fun a => name a = n with
    | some k => rfl
    | none =>
      by_cases hn : n = name a
      · simp [hn]
      · simp [hn, Ne.symm hn]
  next := by
    rw [Numbering.add, h.next, List.length_append, List.length_singleton]
    exact (BitVec.ofNat_add l.length 1).symm

/-- The tables of a list hold its items. -/
theorem numbers_fill (l : List α) : Numbers name l (fill w name l) := by
  have hrun : ∀ (l l' : List α) (t : Numbering w ν α), Numbers name l' t →
      Numbers name (l' ++ l) (l.foldl (add name) t) := by
    intro l
    induction l with
    | nil => exact fun l' t h => by simpa using h
    | cons a l ih =>
      intro l' t h
      have hadd := ih (l' ++ [a]) (t.add name a) (h.add a)
      rwa [List.append_assoc] at hadd
  exact hrun l [] empty numbers_empty

/-- Under a number is the item at its place. -/
theorem lookup_items_fill (l : List α) (i : BitVec w) :
    (fill w name l).items.lookup i = l[i.toNat]? :=
  (numbers_fill l).items i

/-- A name leads to the item at the place of its first one, modulo `2 ^ w`. -/
theorem resolve_fill (l : List α) (n : ν) :
    (fill w name l).resolve n = (l.findIdx? fun a => name a = n).bind fun k => l[k % 2 ^ w]? := by
  rw [resolve, (numbers_fill l).numbers]
  cases l.findIdx? fun a => name a = n with
  | none => rfl
  | some k =>
    change (fill w name l).items.lookup (BitVec.ofNat w k) = l[k % 2 ^ w]?
    rw [lookup_items_fill, BitVec.toNat_ofNat]

/-- **Where a name leads.** It leads to `r`, which has that name, exactly if `r` is the first item
of the name and its number did not wrap. -/
theorem resolve_eq_iff {l : List α} {n : ν} {r : Option α} (hr : ∀ a ∈ r, name a = n) :
    (fill w name l).resolve n = r ↔
      (l.find? fun a => name a = n) = r ∧ ∀ k ∈ l.findIdx? fun a => name a = n, k < 2 ^ w := by
  rw [resolve_fill]
  cases hidx : l.findIdx? fun a => name a = n with
  | none =>
    have hfind : (l.find? fun a => name a = n) = none :=
      List.find?_eq_none.mpr fun a ha => by simpa using List.findIdx?_eq_none_iff.mp hidx a ha
    rw [hfind]
    exact (and_iff_left fun _ h => nomatch h).symm
  | some k =>
    obtain ⟨hk, hname, hbefore⟩ := List.findIdx?_eq_some_iff_getElem.mp hidx
    have hfind : (l.find? fun a => name a = n) = some l[k] :=
      List.find?_eq_some_iff_getElem.mpr
        ⟨hname, k, hk, rfl, fun j hj => by simpa using hbefore j hj⟩
    rw [hfind]
    constructor
    · rintro rfl
      have hmod : k % 2 ^ w < l.length := Nat.lt_of_le_of_lt (Nat.mod_le _ _) hk
      have hsome : (some k).bind (fun k => l[k % 2 ^ w]?) = some l[k % 2 ^ w] :=
        List.getElem?_eq_getElem hmod
      rw [hsome] at hr ⊢
      -- no item before the `k`-th has the name
      have hlt : k < 2 ^ w := by
        refine Nat.lt_of_not_le fun hle => ?_
        have hlow : k % 2 ^ w < k :=
          Nat.lt_of_lt_of_le (Nat.mod_lt _ (Nat.two_pow_pos w)) hle
        exact hbefore _ hlow (by simpa using hr _ rfl)
      refine ⟨?_, fun k' hk' => Option.some.inj hk' ▸ hlt⟩
      simp only [Nat.mod_eq_of_lt hlt]
    · rintro ⟨rfl, hlt⟩
      change l[k % 2 ^ w]? = _
      rw [Nat.mod_eq_of_lt (hlt k rfl), List.getElem?_eq_getElem hk]

end Numbering

end Foxtrot
