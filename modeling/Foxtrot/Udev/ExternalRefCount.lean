import Foxtrot.Foundation.RefCount
import Foxtrot.Foundation.TransitionSystem

/-!
# Reference counted pointers to udev objects

An `ExternalRefCountInterface` (`core/include/foxtrot/udev/foxtrot_udev_utils.hh`) has a pointer to
an object of `libudev`, which counts the references to it. `RefState` has the wrappers that a
program has constructed, and the calls that they have made. The contexts, enumerations and devices
of udev give their references back with one function, which is also `DelFunc`, so a destructor makes
one call.

A wrapper that is moved from by construction keeps its pointer, and neither assignment gives back
the reference that was held before. With these left out, every object has as many references as live
wrappers that hold it: `accounted_iff_keeping` says exactly in which runs.
-/

namespace Foxtrot

open RefCount

namespace Udev

/-! ### Wrappers -/

/-- A wrapper, with `_ctxt_ptr` until it is destroyed. -/
inductive ExternalRefCountInterface where
  | live (ctxtPtr : Option ℕ)
  | destroyed
  deriving DecidableEq

/-- The wrappers in the order of their construction, the calls of the library with the latest in
front, and the number of objects that it has made. -/
@[ext]
structure RefState where
  wrappers : List ExternalRefCountInterface
  calls : List (Call ℕ)
  made : ℕ

/-- A pointer that a wrapper is constructed from: a null pointer, one that the library has just
returned for a new object, or that of another wrapper. -/
inductive ExistingPtr where
  | null
  | returned
  | got (other : ℕ)

/-- A use of a wrapper, which is meant by its place in the order of construction. -/
inductive Operation where
  | construct (isNull : Bool)
  | constructExisting (ptr : ExistingPtr) (ref : Bool)
  | constructEmpty
  | copyConstruct (other : ℕ)
  | moveConstruct (other : ℕ)
  | copyAssign (this other : ℕ)
  | moveAssign (this other : ℕ)
  | destroy (this : ℕ)

namespace RefState

/-- `_ctxt_ptr` of a live wrapper. -/
def ctxtPtr (s : RefState) (i : ℕ) : Option (Option ℕ) :=
  match s.wrappers[i]? with
  | some (.live p) => some p
  | _ => none

/-- One more wrapper, with this pointer. -/
def push (s : RefState) (p : Option ℕ) : RefState :=
  { s with wrappers := s.wrappers ++ [.live p] }

def set (s : RefState) (i : ℕ) (w : ExternalRefCountInterface) : RefState :=
  { s with wrappers := s.wrappers.set i w }

def call (s : RefState) (calls : List (Call ℕ)) : RefState := { s with calls := calls ++ s.calls }

/-- The library makes an object. -/
def make (s : RefState) : RefState :=
  { s with calls := .make s.made :: s.calls, made := s.made + 1 }

/-- `ExternalRefCountInterface(Ts&&... args)`. It throws where `NewFunc` returns a null pointer. -/
def construct (s : RefState) (isNull : Bool) : RefState :=
  if isNull then s else s.make.push (some s.made)

/-- `ExternalRefCountInterface(T* existing_ptr, bool ref)`. -/
def constructExisting (s : RefState) (existingPtr : Option ℕ) (ref : Bool) : RefState :=
  if ref then (s.push existingPtr).call (refs existingPtr) else s.push existingPtr

/-- `ExternalRefCountInterface(const ExternalRefCountInterface& other)`. -/
def copyConstruct (s : RefState) (other : Option ℕ) : RefState := (s.push other).call (refs other)

/-- `ExternalRefCountInterface(ExternalRefCountInterface&& other)`. -/
def moveConstruct (s : RefState) (other : Option ℕ) : RefState := s.push other

/-- `operator=(ExternalRefCountInterface& other)`. -/
def copyAssign (s : RefState) (this other : ℕ) (p : Option ℕ) : RefState :=
  if this ≠ other then (s.set this (.live p)).call (refs p) else s

/-- `operator=(ExternalRefCountInterface&& other)`. -/
def moveAssign (s : RefState) (this other : ℕ) (p : Option ℕ) : RefState :=
  if this ≠ other then (s.set this (.live p)).set other (.live none) else s

/-- `~ExternalRefCountInterface()`. -/
def destroy (s : RefState) (this : ℕ) (p : Option ℕ) : RefState :=
  (s.set this .destroyed).call (unrefs p)

/-- An operation, where the wrappers that it is about are live. -/
def step (s : RefState) : Operation → Option RefState
  | .construct isNull => some (s.construct isNull)
  | .constructExisting .null ref => some (s.constructExisting none ref)
  | .constructExisting .returned ref => some (s.make.constructExisting (some s.made) ref)
  | .constructExisting (.got other) ref => (s.ctxtPtr other).map (s.constructExisting · ref)
  | .constructEmpty => some (s.push none)
  | .copyConstruct other => (s.ctxtPtr other).map s.copyConstruct
  | .moveConstruct other => (s.ctxtPtr other).map s.moveConstruct
  | .copyAssign this other =>
    (s.ctxtPtr this).bind fun _ => (s.ctxtPtr other).map (s.copyAssign this other)
  | .moveAssign this other =>
    (s.ctxtPtr this).bind fun _ => (s.ctxtPtr other).map (s.moveAssign this other)
  | .destroy this => (s.ctxtPtr this).map (s.destroy this)

/-- The number of live wrappers that hold an object. -/
def holders (s : RefState) (o : ℕ) : ℕ := s.wrappers.count (.live (some o))

/-- Each object has as many references as live wrappers that hold it, and so it has none left when
all wrappers are gone. No object is used that is gone. -/
structure Accounted (s : RefState) : Prop where
  balanced : Balanced s.calls s.holders
  released : (∀ w ∈ s.wrappers, w = .destroyed) → ∀ o, count s.calls o = 0

/-- The operation does not move from a pointer by construction, nor assign over one. A pointer that
the library has returned is taken with its reference, and that of another wrapper with a new one. -/
def Keeping (s : RefState) : Operation → Prop
  | .constructExisting .returned ref => ref = false
  | .constructExisting (.got other) ref => ref = true ∨ s.ctxtPtr other = some none
  | .moveConstruct other => s.ctxtPtr other = some none
  | .copyAssign this other | .moveAssign this other => this = other ∨ s.ctxtPtr this = some none
  | _ => True

instance (s : RefState) : (op : Operation) → Decidable (s.Keeping op)
  | .constructExisting .returned ref => inferInstanceAs (Decidable (ref = false))
  | .constructExisting (.got other) ref =>
    inferInstanceAs (Decidable (ref = true ∨ s.ctxtPtr other = some none))
  | .moveConstruct other => inferInstanceAs (Decidable (s.ctxtPtr other = some none))
  | .copyAssign this other | .moveAssign this other =>
    inferInstanceAs (Decidable (this = other ∨ s.ctxtPtr this = some none))
  | .construct _ | .constructExisting .null _ | .constructEmpty | .copyConstruct _ | .destroy _ =>
    inferInstanceAs (Decidable True)

end RefState

/-- Programs that use wrappers. -/
def refCounts : TransitionSystem RefState Operation where
  init := ⟨[], [], 0⟩
  step := RefState.step

/-! ### Holders -/

/-- One for the object that a live wrapper holds. -/
def ExternalRefCountInterface.holds : ExternalRefCountInterface → ℕ → ℕ
  | live p, o => points p o
  | destroyed, _ => 0

/-- A wrapper counts for the object that it holds. -/
private theorem count_singleton_eq_holds (w : ExternalRefCountInterface) (o : ℕ) :
    (if w == .live (some o) then 1 else 0) = w.holds o := by
  cases w with
  | live p => simp [ExternalRefCountInterface.holds, points]
  | destroyed => rfl

namespace RefState

variable {s s' : RefState} {i j : ℕ} {p q : Option ℕ}

private theorem ctxtPtr_eq_some_iff : s.ctxtPtr i = some p ↔ s.wrappers[i]? = some (.live p) := by
  rw [ctxtPtr]
  split <;> simp_all

private theorem holders_push (s : RefState) (p : Option ℕ) (o : ℕ) :
    (s.push p).holders o = s.holders o + points p o := by
  rw [holders, push, List.count_append, List.count_singleton, count_singleton_eq_holds]
  rfl

/-- A wrapper that is changed holds another object. -/
theorem holders_set (h : s.ctxtPtr i = some q) (w : ExternalRefCountInterface) (o : ℕ) :
    (s.set i w).holders o + points q o = s.holders o + w.holds o := by
  obtain ⟨hi, hget⟩ := List.getElem?_eq_some_iff.mp (ctxtPtr_eq_some_iff.mp h)
  have hcount : (s.set i w).holders o = s.holders o - _ + _ := List.count_set hi
  have hle : _ ≤ s.holders o := List.boole_getElem_le_count hi
  rw [hget, count_singleton_eq_holds] at hcount hle
  rw [count_singleton_eq_holds] at hcount
  have hheld : (ExternalRefCountInterface.live q).holds o = points q o := rfl
  omega

/-- The object that a live wrapper holds has a holder. -/
theorem holders_pos (h : s.ctxtPtr i = some p) : ∀ o ∈ p, 0 < s.holders o := by
  intro o ho
  obtain rfl : p = some o := ho
  exact List.count_pos_iff.mpr (List.mem_of_getElem? (ctxtPtr_eq_some_iff.mp h))

private theorem ctxtPtr_set_of_ne (hne : i ≠ j) (w : ExternalRefCountInterface) :
    (s.set i w).ctxtPtr j = s.ctxtPtr j := by
  rw [ctxtPtr, ctxtPtr, set, List.getElem?_set_ne hne]

/-- Where all wrappers are gone, no object has holders. -/
theorem holders_eq_zero (h : ∀ w ∈ s.wrappers, w = .destroyed) (o : ℕ) : s.holders o = 0 := by
  refine List.count_eq_zero.mpr fun hmem => ?_
  cases h _ hmem

/-- The references are accounted for exactly if the calls balance the holders. -/
private theorem accounted_iff : s.Accounted ↔ Balanced s.calls s.holders :=
  ⟨fun h => h.balanced, fun h => ⟨h, fun hgone o => h.count_eq_zero (holders_eq_zero hgone o)⟩⟩

/-! ### One operation -/

/-- A wrapper that is constructed without a call holds nothing. -/
theorem balanced_push_iff (h : Balanced s.calls s.holders) :
    Balanced (s.push p).calls (s.push p).holders ↔ p = none := by
  have hcalls : (s.push p).calls = s.calls := rfl
  rw [hcalls, h.hold_iff, ← forall_points_eq_zero_iff]
  refine forall_congr' fun o => ?_
  rw [holders_push]
  omega

/-- A wrapper that is constructed with a reference of its own. -/
theorem balanced_push_call (h : Balanced s.calls s.holders) (hheld : ∀ o ∈ p, 0 < s.holders o) :
    Balanced ((s.push p).call (refs p)).calls ((s.push p).call (refs p)).holders :=
  (h.take_iff hheld).mpr (holders_push s p)

/-- A wrapper with an object that the library has made. -/
theorem balanced_make_push (h : Balanced s.calls s.holders) :
    Balanced (s.make.push (some s.made)).calls (s.make.push (some s.made)).holders :=
  (h.make_iff s.made).mpr (holders_push s (some s.made))

/-- A second reference to the object is not balanced. -/
theorem not_balanced_make_push_call (h : Balanced s.calls s.holders) :
    ¬ Balanced ((s.make.push (some s.made)).call (refs (some s.made))).calls
      ((s.make.push (some s.made)).call (refs (some s.made))).holders := by
  have hmade := balanced_make_push h
  have hheld : ∀ o ∈ some s.made, 0 < (s.make.push (some s.made)).holders o := by
    rintro _ ⟨⟩
    rw [holders_push, points_some, if_pos rfl]
    omega
  intro hbalanced
  have hholders := (hmade.take_iff hheld).mp hbalanced s.made
  rw [points_some, if_pos rfl] at hholders
  exact absurd hholders (Nat.succ_ne_self _).symm

/-- A copy keeps the balance exactly if there was nothing to drop. -/
private theorem balanced_copyAssign_iff (h : Balanced s.calls s.holders) (hi : s.ctxtPtr i = some q)
    (hj : s.ctxtPtr j = some p) :
    Balanced (s.copyAssign i j p).calls (s.copyAssign i j p).holders ↔ i = j ∨ q = none := by
  rw [copyAssign]
  by_cases hne : i ≠ j
  · rw [if_pos hne, or_iff_right hne]
    have hcall : Balanced ((s.set i (.live p)).call (refs p)).calls
        ((s.set i (.live p)).call (refs p)).holders ↔ _ := h.take_iff (holders_pos hj)
    rw [hcall, ← forall_points_eq_zero_iff]
    refine forall_congr' fun o => ?_
    have hset := holders_set hi (.live p) o
    have hholds : (ExternalRefCountInterface.live p).holds o = points p o := rfl
    have hsame : ((s.set i (.live p)).call (refs p)).holders o =
        (s.set i (.live p)).holders o := rfl
    omega
  · rw [if_neg hne]
    exact iff_of_true h (.inl (not_not.mp hne))

/-- A move keeps the balance exactly if there was nothing to drop. -/
private theorem balanced_moveAssign_iff (h : Balanced s.calls s.holders) (hi : s.ctxtPtr i = some q)
    (hj : s.ctxtPtr j = some p) :
    Balanced (s.moveAssign i j p).calls (s.moveAssign i j p).holders ↔ i = j ∨ q = none := by
  rw [moveAssign]
  by_cases hne : i ≠ j
  · rw [if_pos hne, or_iff_right hne]
    have hcalls : ((s.set i (.live p)).set j (.live none)).calls = s.calls := rfl
    rw [hcalls, h.hold_iff, ← forall_points_eq_zero_iff]
    refine forall_congr' fun o => ?_
    have hset := holders_set hi (.live p) o
    have hother := holders_set ((ctxtPtr_set_of_ne hne (.live p)).trans hj) (.live none) o
    have hholds : (ExternalRefCountInterface.live p).holds o = points p o := rfl
    have hnull : (ExternalRefCountInterface.live none).holds o = 0 := rfl
    omega
  · rw [if_neg hne]
    exact iff_of_true h (.inl (not_not.mp hne))

private theorem balanced_destroy (h : Balanced s.calls s.holders) (hi : s.ctxtPtr i = some p) :
    Balanced (s.destroy i p).calls (s.destroy i p).holders :=
  (h.give_iff (holders_pos hi)).mpr (holders_set hi .destroyed)

/-- **One operation keeps the balance exactly if it is a keeping one.** -/
theorem balanced_step_iff {op : Operation} (h : Balanced s.calls s.holders)
    (hstep : s.step op = some s') : Balanced s'.calls s'.holders ↔ s.Keeping op := by
  cases op with
  | construct isNull =>
    obtain rfl := Option.some.inj hstep
    refine iff_of_true ?_ trivial
    cases isNull with
    | true => exact h
    | false => exact balanced_make_push h
  | constructExisting ptr ref =>
    cases ptr with
    | null =>
      obtain rfl := Option.some.inj hstep
      refine iff_of_true ?_ trivial
      cases ref with
      | true => exact balanced_push_call h nofun
      | false => exact (balanced_push_iff h).mpr rfl
    | returned =>
      obtain rfl := Option.some.inj hstep
      cases ref with
      | true => exact iff_of_false (not_balanced_make_push_call h) nofun
      | false => exact iff_of_true (balanced_make_push h) rfl
    | got other =>
      obtain ⟨p, hp, rfl⟩ := Option.map_eq_some_iff.mp hstep
      -- a pointer that another wrapper holds needs a reference of its own, unless it is null
      rw [Keeping, hp, Option.some_inj]
      cases ref with
      | true => exact iff_of_true (balanced_push_call h (holders_pos hp)) (.inl rfl)
      | false => exact (balanced_push_iff h).trans (or_iff_right nofun).symm
  | constructEmpty =>
    obtain rfl := Option.some.inj hstep
    exact iff_of_true ((balanced_push_iff h).mpr rfl) trivial
  | copyConstruct other =>
    obtain ⟨p, hp, rfl⟩ := Option.map_eq_some_iff.mp hstep
    exact iff_of_true (balanced_push_call h (holders_pos hp)) trivial
  | moveConstruct other =>
    obtain ⟨p, hp, rfl⟩ := Option.map_eq_some_iff.mp hstep
    -- the wrapper that is moved from keeps its pointer, and only a null one can be shared
    rw [Keeping, hp, Option.some_inj]
    exact balanced_push_iff h
  | copyAssign this other =>
    obtain ⟨q, hq, hstep⟩ := Option.bind_eq_some_iff.mp hstep
    obtain ⟨p, hp, rfl⟩ := Option.map_eq_some_iff.mp hstep
    rw [Keeping, hq, Option.some_inj]
    exact balanced_copyAssign_iff h hq hp
  | moveAssign this other =>
    obtain ⟨q, hq, hstep⟩ := Option.bind_eq_some_iff.mp hstep
    obtain ⟨p, hp, rfl⟩ := Option.map_eq_some_iff.mp hstep
    rw [Keeping, hq, Option.some_inj]
    exact balanced_moveAssign_iff h hq hp
  | destroy this =>
    obtain ⟨p, hp, rfl⟩ := Option.map_eq_some_iff.mp hstep
    exact iff_of_true (balanced_destroy h hp) trivial

end RefState

/-! ### Runs -/

private theorem accounted_init : refCounts.init.Accounted :=
  RefState.accounted_iff.mpr ⟨fun _ => rfl, trivial⟩

/-- **A step keeps the account** exactly if it is a keeping one. -/
private theorem accounted_step_iff {s s' : RefState} {op : Operation} (h : s.Accounted)
    (hstep : refCounts.step s op = some s') : s'.Accounted ↔ s.Keeping op :=
  RefState.accounted_iff.trans (RefState.balanced_step_iff h.balanced hstep)

/-- **Reference counts of wrappers**: in the states of a run, every object has as many references as
live wrappers that hold it, exactly if no operation of the run moves by construction from a wrapper
with a pointer or assigns over one, and the existing pointers are taken as they are meant to. -/
theorem accounted_iff_keeping {ops : List Operation} {s : RefState}
    (hrun : refCounts.run refCounts.init ops = some s) :
    (∀ earlier s', earlier <+: ops → refCounts.run refCounts.init earlier = some s' →
      s'.Accounted) ↔ refCounts.Guarded RefState.Keeping refCounts.init ops :=
  TransitionSystem.forall_prefix_iff_guarded accounted_init
    (fun _ _ _ _ => accounted_step_iff) hrun

/-- What `udev_device` does in its constructor, and with a copy of the wrapper. -/
def deviceCopied : List Operation :=
  [.constructEmpty, .constructExisting .returned false, .moveAssign 0 1, .destroy 1,
    .copyConstruct 0, .destroy 0, .destroy 2]

theorem deviceCopied_accounted : ∃ s, refCounts.run refCounts.init deviceCopied = some s ∧
    ∀ earlier s', earlier <+: deviceCopied →
      refCounts.run refCounts.init earlier = some s' → s'.Accounted :=
  ⟨_, rfl, (accounted_iff_keeping rfl).mpr (by decide)⟩

/-- A wrapper that is constructed by moving, and destroyed with the one that it has been moved from.
-/
def moved : List Operation := [.construct false, .moveConstruct 0, .destroy 1, .destroy 0]

/-- The reference is given back twice. -/
theorem not_accounted : ¬ ∀ ops s, refCounts.run refCounts.init ops = some s → s.Accounted := by
  intro h
  have hcount := (h moved ⟨[.destroyed, .destroyed], [.unref 0, .unref 0, .make 0], 1⟩
    rfl).balanced.count_eq 0
  exact absurd hcount (by decide)

end Udev

end Foxtrot
