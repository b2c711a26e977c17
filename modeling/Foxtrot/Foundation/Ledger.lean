import Mathlib.Data.Set.BooleanAlgebra
import Mathlib.Data.Set.Image
import Mathlib.Logic.Pairwise
import Mathlib.Order.CompletePartialOrder

/-!
# Keyed ledgers

Owners hold sets of resources, and a *ledger* records who holds what: it maps the **key** of
a resource to an owner. The key need not determine the resource, so two resources may share
a ledger entry.

* `Covers`: every held resource is recorded under its key for its holder. This alone makes
  the holdings pairwise disjoint (`Covers.exclusive`), even keywise (`Covers.owner_unique`).
* `Exact`: the ledger records nothing else, so it answers ownership queries up to the key.

Both are kept by the two operations of a lock manager. **Granting** fresh resources to an
owner needs their keys to be unrecorded; it replaces what the owner held before, so a grant
to an owner already in use loses that owner's older holdings but not the cover
(`Covers.grant`), while exactness needs the owner to hold nothing (`Exact.grant`).
**Releasing** a set of owners strikes the keys of all they hold (`Covers.release`,
`Exact.release`), and under a cover it is local: the entry of a resource held by an owner
that stays is untouched (`Covers.strike_eq`).
-/

namespace Ledger

variable {Owner Resource Key : Type*}

/-- Every held resource is recorded, under its key, for the owner that holds it. -/
def Covers (key : Resource → Key) (holds : Owner → Set Resource) (ledger : Key → Option Owner) :
    Prop :=
  ∀ o, ∀ r ∈ holds o, ledger (key r) = some o

/-- The ledger records exactly the keys of the held resources. -/
def Exact (key : Resource → Key) (holds : Owner → Set Resource) (ledger : Key → Option Owner) :
    Prop :=
  ∀ k o, ledger k = some o ↔ k ∈ key '' holds o

/-- No resource is held by two owners. -/
def Exclusive (holds : Owner → Set Resource) : Prop :=
  Pairwise fun o o' => Disjoint (holds o) (holds o')

variable {key : Resource → Key} {holds : Owner → Set Resource} {ledger : Key → Option Owner}

/-- An exact ledger covers what is held. -/
theorem Exact.covers (h : Exact key holds ledger) : Covers key holds ledger :=
  fun o r hr => (h (key r) o).mpr ⟨r, hr, rfl⟩

/-- Under a cover, resources with the same key have the same owner. -/
theorem Covers.owner_unique (h : Covers key holds ledger) {o o' : Owner} {r r' : Resource}
    (hr : r ∈ holds o) (hr' : r' ∈ holds o') (hk : key r = key r') : o = o' := by
  have h₁ := h o r hr
  rw [hk, h o' r' hr'] at h₁
  exact (Option.some_injective _ h₁).symm

/-- **A cover makes ownership exclusive.** -/
theorem Covers.exclusive (h : Covers key holds ledger) : Exclusive holds := by
  intro o o' hne
  rw [Set.disjoint_left]
  exact fun r hr hr' => hne (h.owner_unique hr hr' rfl)

/-! ### Granting -/

section Grant

open Classical in
/-- The ledger after recording `new` for owner `o`. -/
noncomputable def record (key : Resource → Key) (ledger : Key → Option Owner) (o : Owner)
    (new : Set Resource) : Key → Option Owner :=
  fun k => if k ∈ key '' new then some o else ledger k

open Classical in
/-- The holdings after giving `o` the set `new` in place of what it held. -/
noncomputable def grant (holds : Owner → Set Resource) (o : Owner) (new : Set Resource) :
    Owner → Set Resource :=
  fun o' => if o' = o then new else holds o'

variable {o : Owner} {new : Set Resource}

/-- A grant of what is free keeps the ledger covering. -/
theorem Covers.grant (h : Covers key holds ledger) (hfree : ∀ r ∈ new, ledger (key r) = none) :
    Covers key (grant holds o new) (record key ledger o new) := by
  intro o' r hr
  simp only [Ledger.grant] at hr
  split_ifs at hr with ho
  · subst ho
    exact if_pos ⟨r, hr, rfl⟩
  · -- an older holding is recorded already, so its key is not among the fresh ones
    have hold := h o' r hr
    have hkey : key r ∉ key '' new := by
      rintro ⟨r', hr', hk⟩
      rw [← hk, hfree r' hr'] at hold
      cases hold
    rw [record, if_neg hkey, hold]

/-- A grant of what is free, to an owner of nothing, keeps the ledger exact. -/
theorem Exact.grant (h : Exact key holds ledger) (hfree : ∀ r ∈ new, ledger (key r) = none)
    (hidle : holds o = ∅) : Exact key (grant holds o new) (record key ledger o new) := by
  intro k o'
  constructor
  · intro hk
    simp only [record] at hk
    split_ifs at hk with hmem
    · obtain rfl : o = o' := Option.some_injective _ hk
      rw [Ledger.grant, if_pos rfl]
      exact hmem
    · have hheld := (h k o').mp hk
      -- the grantee held nothing before
      have hne : o' ≠ o := by
        rintro rfl
        rw [hidle, Set.image_empty] at hheld
        exact hheld
      rw [Ledger.grant, if_neg hne]
      exact hheld
  · rintro ⟨r, hr, rfl⟩
    exact h.covers.grant hfree o' r hr

end Grant

/-! ### Releasing -/

section Release

/-- The holdings after the owners in `R` gave up everything. -/
def release (holds : Owner → Set Resource) (R : Set Owner) : Owner → Set Resource :=
  fun o => {r | r ∈ holds o ∧ o ∉ R}

open Classical in
/-- The ledger after striking the keys of everything the owners in `R` hold. -/
noncomputable def strike (key : Resource → Key) (holds : Owner → Set Resource)
    (ledger : Key → Option Owner) (R : Set Owner) : Key → Option Owner :=
  fun k => if ∃ o ∈ R, k ∈ key '' holds o then none else ledger k

variable {R : Set Owner}

/-- **Releasing is local**: what an owner outside `R` holds stays recorded as it was. -/
theorem Covers.strike_eq (h : Covers key holds ledger) {o : Owner} {r : Resource}
    (hr : r ∈ holds o) (ho : o ∉ R) : strike key holds ledger R (key r) = ledger (key r) := by
  refine if_neg ?_
  rintro ⟨o', ho', r', hr', hk⟩
  rw [h.owner_unique hr hr' hk.symm] at ho
  exact ho ho'

/-- Everything held by a released owner is unrecorded afterwards. -/
theorem strike_eq_none {o : Owner} {r : Resource} (hr : r ∈ holds o) (ho : o ∈ R) :
    strike key holds ledger R (key r) = none :=
  if_pos ⟨o, ho, r, hr, rfl⟩

/-- Striking in two steps strikes both sets of owners. -/
theorem strike_strike (R R' : Set Owner) :
    strike key (release holds R) (strike key holds ledger R) R' =
      strike key holds ledger (R ∪ R') := by
  funext k
  by_cases h : ∃ o ∈ R, k ∈ key '' holds o
  · have hu : ∃ o ∈ R ∪ R', k ∈ key '' holds o :=
      h.imp fun o ho => ⟨Or.inl ho.1, ho.2⟩
    simp only [strike, if_pos h, if_pos hu, ite_self]
  · -- no owner in `R` holds the key, so an owner in `R'` holding it is not in `R`
    have hiff : (∃ o ∈ R', k ∈ key '' release holds R o) ↔ ∃ o ∈ R ∪ R', k ∈ key '' holds o := by
      constructor
      · rintro ⟨o, ho, r, hr, hk⟩
        exact ⟨o, Or.inr ho, r, hr.1, hk⟩
      · rintro ⟨o, ho | ho, r, hr, hk⟩
        · exact absurd ⟨o, ho, r, hr, hk⟩ h
        · exact ⟨o, ho, r, ⟨hr, fun hoR => h ⟨o, hoR, r, hr, hk⟩⟩, hk⟩
    by_cases h' : ∃ o ∈ R', k ∈ key '' release holds R o
    · simp only [strike, if_pos h', if_pos (hiff.mp h')]
    · have hu : ¬∃ o ∈ R ∪ R', k ∈ key '' holds o := fun hu => h' (hiff.mpr hu)
      simp only [strike, if_neg h', if_neg h, if_neg hu]

/-- What is released and struck leaves the ledger covering. -/
theorem Covers.release (h : Covers key holds ledger) :
    Covers key (release holds R) (strike key holds ledger R) := by
  rintro o r ⟨hr, ho⟩
  rw [h.strike_eq hr ho]
  exact h o r hr

/-- What is released and struck leaves the ledger exact. -/
theorem Exact.release (h : Exact key holds ledger) :
    Exact key (release holds R) (strike key holds ledger R) := by
  intro k o
  constructor
  · intro hk
    simp only [strike] at hk
    split_ifs at hk with hstruck
    obtain ⟨r, hr, rfl⟩ := (h k o).mp hk
    exact ⟨r, ⟨hr, fun ho => hstruck ⟨o, ho, r, hr, rfl⟩⟩, rfl⟩
  · rintro ⟨r, hr, rfl⟩
    exact h.covers.release o r hr

end Release

end Ledger
