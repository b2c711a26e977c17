import Foxtrot.Foundation.HandleTable
import Foxtrot.Foundation.TransitionSystem
import Foxtrot.Wire.Messages

/-!
# The handle manager as a table of handles

`HandleManager` (`core/src/HandleManager.cpp`) keeps variants under random keys. It should be a
table of handles, in every run and whatever keys are drawn. `Calls` is a manager with the history
of the calls on it, and `HandleTable.Faithful` says of a history what a table answers.

The map of the manager always holds what the history says (`contents_eq_stored`). The answers are
those of a table exactly as long as no key is drawn that is live, no live handle is popped, and
only live handles are dropped (`handleManager_iff`): `add` overwrites the variant under a key that
is drawn again, `drop` does not fail, and `pop` returns the entry of the map in place of the
variant.
-/

namespace Foxtrot.HandleManager

open HandleTable

/-- What an `rttr::variant` holds that the manager returns: a variant that was stored, or an entry
of the map, a key with its variant. -/
inductive Held where
  | stored (var : Variant)
  | entry (key : ℕ) (var : Variant)

/-- `pop`. The variant that is returned is assigned from the iterator's pair. -/
def pop (hm : HandleManager) (handle : ℕ) : Except Failure Held × HandleManager :=
  match hm.values.lookup handle with
  | none => (.error (.outOfRange "no such handle found!"), hm)
  | some var => (.ok (.entry handle var), { hm with values := hm.values.erase handle })

/-- `drop`. -/
def drop (hm : HandleManager) (handle : ℕ) : HandleManager :=
  { hm with values := hm.values.erase handle }

/-- The answer that a result is. -/
def answered {α : Type} (value : α → Held) : Except Failure α → Answer ℕ Held
  | .ok a => .value (value a)
  | .error _ => .failed

/-- A call on the manager, with its answer. -/
def call (hm : HandleManager) : Call ℕ Variant → Answer ℕ Held × HandleManager
  | .add var => (.handle (hm.add var).1, (hm.add var).2)
  | .lookup handle => (answered .stored (hm.lookup handle), hm)
  | .pop handle => (answered id (hm.pop handle).1, (hm.pop handle).2)
  | .drop handle => (.done, hm.drop handle)

/-- The variants by their handles. -/
def contents (hm : HandleManager) (handle : ℕ) : Option Variant :=
  hm.values.lookup handle

/-- A manager with the history of the calls on it. -/
structure Calls where
  hm : HandleManager
  hist : History ℕ Variant Held

/-- The calls on a new manager that is to draw these keys. -/
def calls (twister : ℕ → ℕ) : TransitionSystem Calls (Call ℕ Variant) where
  init := ⟨⟨∅, twister⟩, []⟩
  step s c := some ⟨(s.hm.call c).2, (c, (s.hm.call c).1) :: s.hist⟩

/-- The calls that the manager answers as a table does. -/
def Answerable (s : Calls) : Call ℕ Variant → Prop
  | .add _ => s.hm.twister 0 ∉ s.hm.values
  | .lookup _ => True
  | .pop handle => handle ∉ s.hm.values
  | .drop handle => handle ∈ s.hm.values

instance Answerable.decidable (s : Calls) : ∀ c, Decidable (Answerable s c)
  | .add _ => inferInstanceAs (Decidable (_ ∉ _))
  | .lookup _ => inferInstanceAs (Decidable True)
  | .pop _ => inferInstanceAs (Decidable (_ ∉ _))
  | .drop _ => inferInstanceAs (Decidable (_ ∈ _))

/-! ### One call -/

/-- A call changes the map as its answer says. -/
theorem contents_call (hm : HandleManager) (c : Call ℕ Variant) :
    (hm.call c).2.contents = record hm.contents c (hm.call c).1 := by
  funext handle
  cases c with
  | add var =>
    change (hm.values.insert (hm.twister 0) var).lookup handle =
      Function.update hm.contents (hm.twister 0) (some var) handle
    rw [AList.lookup_insert_ite, Function.update_apply]
    rfl
  | lookup key => rfl
  | pop key =>
    change (hm.pop key).2.values.lookup handle = Function.update hm.contents key none handle
    rw [Function.update_apply, pop]
    rcases hkey : hm.values.lookup key with _ | var
    · split_ifs with heq
      · rw [heq, hkey]
      · rfl
    · exact AList.lookup_erase_ite _ _ _
  | drop key =>
    change (hm.values.erase key).lookup handle = Function.update hm.contents key none handle
    rw [AList.lookup_erase_ite, Function.update_apply]
    rfl

/-- An answer is right exactly for the calls that the manager can answer. -/
theorem right_call_iff (s : Calls) (c : Call ℕ Variant) :
    Right Held.stored s.hm.contents c (s.hm.call c).1 ↔ Answerable s c := by
  cases c with
  | add var => exact AList.lookup_eq_none
  | lookup handle =>
    refine iff_of_true ?_ trivial
    rw [Right, call, lookup, contents]
    cases s.hm.values.lookup handle <;> rfl
  | pop handle =>
    rw [Right, call, pop, Answerable, ← AList.lookup_eq_none, contents]
    cases s.hm.values.lookup handle with
    | none => exact iff_of_true rfl rfl
    | some var => exact iff_of_false (by rintro ⟨⟩) (by rintro ⟨⟩)
  | drop handle =>
    rw [Right, call, Answerable, ← AList.lookup_isSome, contents]
    cases s.hm.values.lookup handle with
    | none => exact iff_of_false (by rintro ⟨⟩) (by rintro ⟨⟩)
    | some var => exact iff_of_true rfl rfl

/-! ### Runs -/

section Runs

variable {twister : ℕ → ℕ} {s : Calls}

/-- In every run the map holds what the history says. -/
theorem contents_eq_stored (hs : (calls twister).Reachable s) : s.hm.contents = stored s.hist := by
  refine hs.invariant (P := fun s => s.hm.contents = stored s.hist) rfl ?_
  rintro s c s' - ih - hstep
  obtain rfl := Option.some.inj hstep
  rw [contents_call, ih]
  rfl

/-- The answers of a run are those of a table exactly if every call can be answered. -/
theorem faithful_iff_guarded {cs : List (Call ℕ Variant)}
    (hrun : (calls twister).run (calls twister).init cs = some s) :
    Faithful Held.stored s.hist ↔ (calls twister).Guarded Answerable (calls twister).init cs := by
  have hinit : Faithful Held.stored (calls twister).init.hist := trivial
  refine TransitionSystem.run_iff_guarded (P := fun s => Faithful Held.stored s.hist) hinit ?_ hrun
  rintro s c s' hs hstep
  obtain rfl := Option.some.inj hstep
  rw [← right_call_iff, contents_eq_stored hs]
  exact Iff.rfl

/-- In such a run a variant stays under the handle that `add` returned until that is popped or
dropped. -/
theorem contents_of_add {cs : List (Call ℕ Variant)}
    (hrun : (calls twister).run (calls twister).init cs = some s)
    (hguard : (calls twister).Guarded Answerable (calls twister).init cs)
    {later hist : History ℕ Variant Held} {var : Variant} {handle : ℕ}
    (hhist : s.hist = later ++ (.add var, .handle handle) :: hist)
    (hpop : ∀ e ∈ later, e.1 ≠ .pop handle) (hdrop : ∀ e ∈ later, e.1 ≠ .drop handle) :
    s.hm.contents handle = some var := by
  have hfaith := (faithful_iff_guarded hrun).mpr hguard
  rw [contents_eq_stored (TransitionSystem.reachable_of_run hrun)]
  rw [hhist] at hfaith ⊢
  exact hfaith.stored_of_add hpop hdrop

/-- **The manager is a table of handles**: in every run, and whatever keys are drawn, its map holds
what the history says, and the answers are those of a table exactly if no key is drawn that is
live, no live handle is popped, and only live handles are dropped. -/
theorem handleManager_iff {cs : List (Call ℕ Variant)}
    (hrun : (calls twister).run (calls twister).init cs = some s) :
    s.hm.contents = stored s.hist ∧
      (Faithful Held.stored s.hist ↔ (calls twister).Guarded Answerable (calls twister).init cs) :=
  ⟨contents_eq_stored (TransitionSystem.reachable_of_run hrun), faithful_iff_guarded hrun⟩

/-- A variant is added, looked up and dropped, and its handle is unknown afterwards. -/
def oneVariant : List (Call ℕ Variant) :=
  [.add (.of .bool true), .lookup 7, .drop 7, .lookup 7, .pop 7]

theorem handleManager_iff_oneVariant : ∃ s,
    (calls fun _ => 7).run (calls fun _ => 7).init oneVariant = some s ∧
      s.hm.contents = stored s.hist ∧
      (Faithful Held.stored s.hist ↔
        (calls fun _ => 7).Guarded Answerable (calls fun _ => 7).init oneVariant) :=
  ⟨_, rfl, handleManager_iff rfl⟩

/-- **`pop` does not return the variant**: it returns the pair of the handle and the variant. -/
theorem not_handleManager : ∃ s, (calls id).run (calls id).init
    [.add (.of .bool true), .pop 0] = some s ∧ ¬ Faithful Held.stored s.hist := by
  refine ⟨_, rfl, ?_⟩
  rintro ⟨-, hright⟩
  cases hright

end Runs

end Foxtrot.HandleManager
