import Mathlib.Data.List.AList

/-!
# Finite maps as association lists

Mathlib's `AList` carries the distinctness of its keys as a field, so it serves as the model
of an ordered or a hashed map alike. This file adds the non-dependent reading the program
models use: the value after an insertion or an erasure as a case distinction on the key, and
the loops that insert or erase one key after another.

`VisitOrder` is an iteration order of such a map: any permutation of its entries, as the
iteration over a hashed map is specified. A linear search along one finds an entry exactly
when there is one (`VisitOrder.findKey_eq_none_iff`), but which one is up to the order.
-/

namespace AList

variable {α β : Type*} [DecidableEq α]

/-- An insertion changes what is under its own key only. -/
theorem lookup_insert_ite (a a' : α) (b : β) (m : AList fun _ : α => β) :
    (m.insert a' b).lookup a = if a = a' then some b else m.lookup a := by
  split_ifs with h
  · subst h; exact lookup_insert m
  · exact lookup_insert_ne h

/-- An erasure changes what is under its own key only. -/
theorem lookup_erase_ite (a a' : α) (m : AList fun _ : α => β) :
    (m.erase a').lookup a = if a = a' then none else m.lookup a := by
  split_ifs with h
  · subst h; exact lookup_erase a m
  · exact lookup_erase_ne h

/-- Different keys have different values still if a key gets a value that no other has. -/
theorem lookup_insert_injective {m : AList fun _ : α => β} {a : α} {b : β}
    (h : ∀ a₁ a₂ b', m.lookup a₁ = some b' → m.lookup a₂ = some b' → a₁ = a₂)
    (hfresh : ∀ a', m.lookup a' ≠ some b) (a₁ a₂ : α) (b' : β)
    (h₁ : (m.insert a b).lookup a₁ = some b') (h₂ : (m.insert a b).lookup a₂ = some b') :
    a₁ = a₂ := by
  rw [lookup_insert_ite] at h₁ h₂
  split_ifs at h₁ h₂ with heq₁ heq₂ heq₂
  · rw [heq₁, heq₂]
  · obtain rfl := Option.some.inj h₁
    exact absurd h₂ (hfresh a₂)
  · obtain rfl := Option.some.inj h₂
    exact absurd h₁ (hfresh a₁)
  · exact h a₁ a₂ b' h₁ h₂

/-- Entries and lookups say the same. -/
theorem mk_mem_entries_iff {a : α} {b : β} {m : AList fun _ : α => β} :
    (⟨a, b⟩ : Sigma fun _ : α => β) ∈ m.entries ↔ m.lookup a = some b :=
  mem_lookup_iff.symm

/-- A key is there exactly if something is under it. -/
theorem mem_iff_exists_lookup {a : α} {m : AList fun _ : α => β} :
    a ∈ m ↔ ∃ b, m.lookup a = some b := by
  rw [← lookup_isSome, Option.isSome_iff_exists]

/-- A key is there that something is under. -/
theorem mem_of_lookup {a : α} {b : β} {m : AList fun _ : α => β} (h : m.lookup a = some b) :
    a ∈ m :=
  mem_iff_exists_lookup.mpr ⟨b, h⟩

/-- An insertion under a key that is there adds none. -/
theorem length_keys_insert_of_mem {a : α} {m : AList fun _ : α => β} (h : a ∈ m) (b : β) :
    (m.insert a b).keys.length = m.keys.length := by
  have hpos : 0 < m.keys.length := List.length_pos_of_mem h
  rw [keys_insert, List.length_cons, List.length_erase_of_mem h]
  omega

/-- An insertion under a new key adds one. -/
theorem length_keys_insert_of_not_mem {a : α} {m : AList fun _ : α => β} (h : a ∉ m) (b : β) :
    (m.insert a b).keys.length = m.keys.length + 1 := by
  rw [keys_insert, List.length_cons, List.erase_of_not_mem h]

/-- No insertion removes a key. -/
theorem length_keys_le_insert (m : AList fun _ : α => β) (a : α) (b : β) :
    m.keys.length ≤ (m.insert a b).keys.length := by
  by_cases h : a ∈ m
  · exact Nat.le_of_eq (length_keys_insert_of_mem h b).symm
  · rw [length_keys_insert_of_not_mem h b]
    exact Nat.le_succ _

/-- Insert under a key that is not there yet; a key that is there keeps its value. -/
def insertNew (m : AList fun _ : α => β) (a : α) (b : β) : AList fun _ : α => β :=
  if a ∈ m then m else m.insert a b

/-- What is there already stays. -/
theorem insertNew_of_mem {a : α} {m : AList fun _ : α => β} (h : a ∈ m) (b : β) :
    m.insertNew a b = m :=
  if_pos h

/-- Under a new key it is an insertion. -/
theorem insertNew_of_not_mem {a : α} {m : AList fun _ : α => β} (h : a ∉ m) (b : β) :
    m.insertNew a b = m.insert a b :=
  if_neg h

/-- What is under a key is what was there, or else what is inserted under it. -/
theorem lookup_insertNew (m : AList fun _ : α => β) (a a' : α) (b : β) :
    (m.insertNew a' b).lookup a = (m.lookup a).or (if a = a' then some b else none) := by
  by_cases hmem : a' ∈ m
  · rw [insertNew_of_mem hmem]
    split_ifs with h
    · obtain ⟨b', hb'⟩ := mem_iff_exists_lookup.mp hmem
      rw [h, hb', Option.some_or]
    · rw [Option.or_none]
  · rw [insertNew_of_not_mem hmem, lookup_insert_ite]
    split_ifs with h
    · rw [h, lookup_eq_none.mpr hmem, Option.none_or]
    · rw [Option.or_none]

/-- Insert the same value under one key after another. -/
def insertAll (m : AList fun _ : α => β) (ks : List α) (b : β) : AList fun _ : α => β :=
  ks.foldl (fun m k => m.insert k b) m

/-- Under all of the keys there is the value, and elsewhere what was there. -/
theorem lookup_insertAll (ks : List α) (b : β) (a : α) (m : AList fun _ : α => β) :
    (m.insertAll ks b).lookup a = if a ∈ ks then some b else m.lookup a := by
  induction ks generalizing m with
  | nil => simp [insertAll]
  | cons k ks ih =>
    have hcons : m.insertAll (k :: ks) b = (m.insert k b).insertAll ks b := rfl
    rw [hcons, ih, lookup_insert_ite]
    by_cases hk : a = k <;> by_cases hks : a ∈ ks <;> simp [hk, hks]

/-- Erase one key after another. -/
def eraseAll (m : AList fun _ : α => β) (ks : List α) : AList fun _ : α => β :=
  ks.foldl (fun m k => m.erase k) m

/-- Under none of the keys there is a value, and elsewhere what was there. -/
theorem lookup_eraseAll (ks : List α) (a : α) (m : AList fun _ : α => β) :
    (m.eraseAll ks).lookup a = if a ∈ ks then none else m.lookup a := by
  induction ks generalizing m with
  | nil => simp [eraseAll]
  | cons k ks ih =>
    have hcons : m.eraseAll (k :: ks) = (m.erase k).eraseAll ks := rfl
    rw [hcons, ih, lookup_erase_ite]
    by_cases hk : a = k <;> by_cases hks : a ∈ ks <;> simp [hk, hks]

/-! ### Iteration orders -/

/-- An iteration order of the maps from `α` to `β`: each map is visited along some
permutation of its entries. -/
structure VisitOrder (α β : Type*) [DecidableEq α] where
  /-- The entries in the order in which they are visited. -/
  visit : (AList fun _ : α => β) → List (Sigma fun _ : α => β)
  visit_perm : ∀ m, (visit m).Perm m.entries

/-- The order of the association list itself. -/
def VisitOrder.entries : VisitOrder α β := ⟨AList.entries, fun _ => .refl _⟩

variable [DecidableEq β]

/-- The first key, in visiting order, whose value is `b`. -/
def VisitOrder.findKey (ord : VisitOrder α β) (m : AList fun _ : α => β) (b : β) : Option α :=
  ((ord.visit m).find? fun e => decide (e.2 = b)).map Sigma.fst

/-- A key that is found has the value. -/
theorem VisitOrder.lookup_of_findKey {ord : VisitOrder α β} {m : AList fun _ : α => β} {a : α}
    {b : β} (h : ord.findKey m b = some a) : m.lookup a = some b := by
  obtain ⟨⟨a', b'⟩, hfind, rfl⟩ := Option.map_eq_some_iff.mp h
  obtain rfl : b' = b := by simpa using List.find?_some hfind
  exact mk_mem_entries_iff.mp ((ord.visit_perm m).mem_iff.mp (List.mem_of_find?_eq_some hfind))

/-- No key is found exactly if none has the value. -/
theorem VisitOrder.findKey_eq_none_iff {ord : VisitOrder α β} {m : AList fun _ : α => β}
    {b : β} : ord.findKey m b = none ↔ ∀ a, m.lookup a ≠ some b := by
  rw [findKey, Option.map_eq_none_iff, List.find?_eq_none]
  constructor
  · intro h a hab
    exact h ⟨a, b⟩ ((ord.visit_perm m).mem_iff.mpr (mk_mem_entries_iff.mpr hab)) (by simp)
  · rintro h ⟨a, b'⟩ hmem hb
    obtain rfl : b' = b := by simpa using hb
    exact h a (mk_mem_entries_iff.mp ((ord.visit_perm m).mem_iff.mp hmem))

end AList

namespace List

variable {α β : Type*} [DecidableEq α]

/-- Pairs of a family of distinct keys hold each member's value under its key. -/
theorem lookup_ofFn {n : ℕ} {keys : Fin n → α} (hinj : Function.Injective keys)
    (values : Fin n → β) (i : Fin n) :
    (ofFn fun i => (keys i, values i)).lookup (keys i) = some (values i) := by
  induction n with
  | zero => exact i.elim0
  | succ n ih =>
    rw [ofFn_succ, lookup_cons]
    induction i using Fin.cases with
    | zero => simp
    | succ i =>
      have hne : keys i.succ ≠ keys 0 := fun h => Fin.succ_ne_zero i (hinj h)
      rw [beq_false_of_ne hne]
      exact ih (fun i j hij => Fin.succ_inj.mp (hinj hij)) (fun i => values i.succ) i

end List
