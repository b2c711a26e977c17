import Foxtrot.Fsmd.CryoSystem

/-!
# The vacuum state machine

`VacuumSystemFSM` (`lsst/fsmd`). `transit` returns to the `react` that has called it: what follows
it is still executed, and an exception that is thrown then leaves the machine in its new state. So
`InitialVacuumState` throws after each of its transitions, and `PumpVenting`, whose transition
stands after the `if` that looks at the readings, leaves on any data.

The transitions match their conditions (`VacuumConforms`) exactly where neither matters
(`vacuumConforms_iff`).
-/

namespace Foxtrot

/-- The states of `VacuumSystemFSM`. The classes without a `name` are abstract, so there is no such
state. -/
inductive VacuumState where
  | initialVacuumState
  | highVibrationOperation
  | pumpSpinningDown
  | pumpVenting
  | pumpedToAtmosphere
  | lowVibrationRunning
  | cryostatPumpDown
  deriving DecidableEq

/-- The static members of `VacuumSystemFSM` that its states read. -/
structure VacuumThresholds (R : Type*) where
  pumpdownThresh : R
  ambientThresh : R

/-- `std::logic_error`. -/
structure LogicError where
  what : String
  deriving DecidableEq

/-- What a `react` does: it may change the current state, and throw. -/
abbrev VacuumM := ExceptT LogicError (StateM VacuumState)

/-- `transit`. The `exit` and the `entry` of every state are empty. -/
def VacuumState.transit (state : VacuumState) : VacuumM Unit := set state

section React

variable {R : Type*} [LT R] [DecidableLT R] (thresh : VacuumThresholds R) (ev : DataUpdateEvent R)

/-- `InitialVacuumState::react`. -/
def InitialVacuumState.react : VacuumM Unit := do
  if ¬ ev.pumpEnabled ∧ ev.valveOpen ∧ ev.pumpPressure > thresh.ambientThresh then
    VacuumState.transit .pumpedToAtmosphere
  if ev.pumpEnabled ∧ ev.valveOpen ∧ ev.cryoPressure > thresh.pumpdownThresh then
    VacuumState.transit .cryostatPumpDown
  else if ev.pumpEnabled ∧ ev.valveOpen then
    VacuumState.transit .highVibrationOperation
  throw ⟨"cannot transition to a valid operation state!"⟩

/-- `PumpVenting::react`. The `if` that looks at the readings only logs. -/
def PumpVenting.react : VacuumM Unit := do
  if ¬ ev.pumpEnabled ∧ ev.cryoPressure > thresh.ambientThresh then
    pure ()
  VacuumState.transit .pumpedToAtmosphere

/-- `CryostatPumpDown::react`. -/
def CryostatPumpDown.react : VacuumM Unit := do
  if ev.pumpEnabled ∧ ev.cryoPressure < thresh.pumpdownThresh ∧ ¬ ev.lowvibrationRequested then
    VacuumState.transit .highVibrationOperation
  else if ev.pumpEnabled ∧ ev.cryoPressure < thresh.pumpdownThresh then
    VacuumState.transit .pumpSpinningDown

/-- `react` of a state. One that does not override it does nothing. -/
def VacuumState.react : VacuumState → FsmEvent R → VacuumM Unit
  | .initialVacuumState, .dataUpdate ev => InitialVacuumState.react thresh ev
  | .pumpVenting, .dataUpdate ev => PumpVenting.react thresh ev
  | .cryostatPumpDown, .dataUpdate ev => CryostatPumpDown.react thresh ev
  | _, _ => pure ()

/-- The machine, with what the last `dispatch` has thrown. -/
structure VacuumSystem where
  current : VacuumState
  thrown : Option LogicError
  deriving DecidableEq

/-- `dispatch`. -/
def VacuumSystem.dispatch (m : VacuumSystem) (event : FsmEvent R) : VacuumSystem :=
  match (m.current.react thresh event).run.run m.current with
  | (.ok (), current) => ⟨current, none⟩
  | (.error e, current) => ⟨current, some e⟩

/-- The machine, from its initial state. -/
def vacuumSystem : TransitionSystem VacuumSystem (FsmEvent R) where
  init := ⟨.initialVacuumState, none⟩
  step m event := some (m.dispatch thresh event)

/-! ### The conditions -/

/-- The condition of `InitialVacuumState` for `PumpedToAtmosphere`. -/
def AtAmbient : Prop :=
  ¬ ev.pumpEnabled ∧ ev.valveOpen ∧ ev.pumpPressure > thresh.ambientThresh

/-- Its condition for `CryostatPumpDown`. -/
def PumpingDown : Prop :=
  ev.pumpEnabled ∧ ev.valveOpen ∧ ev.cryoPressure > thresh.pumpdownThresh

/-- Its condition for `HighVibrationOperation`. -/
def HighVibration : Prop :=
  ev.pumpEnabled ∧ ev.valveOpen ∧ ¬ ev.cryoPressure > thresh.pumpdownThresh

/-- The pressure that a state tests against the ambient threshold. -/
def VacuumState.testedPressure : VacuumState → Option R
  | .initialVacuumState => some ev.pumpPressure
  | .pumpVenting => some ev.cryoPressure
  | _ => none

/-- **The transitions match their conditions**, in a move on an event. -/
structure VacuumConforms (move : TransitionSystem.Move VacuumSystem (FsmEvent R)) : Prop where
  /-- `PumpedToAtmosphere` is entered with the pump disabled and above the ambient threshold. -/
  atmosphere : move.before.current ≠ .pumpedToAtmosphere →
    move.after.current = .pumpedToAtmosphere →
    ∃ ev pressure, move.label = .dataUpdate ev ∧ ¬ ev.pumpEnabled ∧
      move.before.current.testedPressure ev = some pressure ∧ pressure > thresh.ambientThresh
  /-- `InitialVacuumState` is left as its conditions say, and throws if and only if none is met. -/
  initial : ∀ ev, move.before.current = .initialVacuumState → move.label = .dataUpdate ev →
    (move.after.current = .pumpedToAtmosphere ↔ AtAmbient thresh ev) ∧
    (move.after.current = .cryostatPumpDown ↔ PumpingDown thresh ev) ∧
    (move.after.current = .highVibrationOperation ↔ HighVibration thresh ev) ∧
    (move.after.thrown.isSome ↔
      ¬ AtAmbient thresh ev ∧ ¬ PumpingDown thresh ev ∧ ¬ HighVibration thresh ev)
  /-- `CryostatPumpDown` is left below the pump-down threshold, by what is requested. -/
  pumpDown : move.before.current = .cryostatPumpDown → move.after.current ≠ .cryostatPumpDown →
    ∃ ev, move.label = .dataUpdate ev ∧ ev.pumpEnabled ∧ ev.cryoPressure < thresh.pumpdownThresh ∧
      move.after.current =
        if ev.lowvibrationRequested then .pumpSpinningDown else .highVibrationOperation

/-- In `InitialVacuumState` none of the three conditions is met, and in `PumpVenting` the one for
`PumpedToAtmosphere` is. -/
structure Untroubled (move : TransitionSystem.Move VacuumSystem (FsmEvent R)) : Prop where
  initial : ∀ ev, move.before.current = .initialVacuumState → move.label = .dataUpdate ev →
    ¬ AtAmbient thresh ev ∧ ¬ PumpingDown thresh ev ∧ ¬ HighVibration thresh ev
  venting : ∀ ev, move.before.current = .pumpVenting → move.label = .dataUpdate ev →
    ¬ ev.pumpEnabled ∧ ev.cryoPressure > thresh.ambientThresh

/-! ### What a dispatch does -/

variable {thresh} {ev : DataUpdateEvent R} {m : VacuumSystem}

/-- The text of `InitialVacuumState`. -/
def cannotTransition : LogicError := ⟨"cannot transition to a valid operation state!"⟩

/-- From the initial state the readings lead on. -/
private theorem dispatch_initialVacuumState (h : m.current = .initialVacuumState) :
    m.dispatch thresh (.dataUpdate ev) =
      ⟨if ¬ ev.pumpEnabled ∧ ev.valveOpen ∧ ev.pumpPressure > thresh.ambientThresh then
          .pumpedToAtmosphere
        else if ev.pumpEnabled ∧ ev.valveOpen ∧ ev.cryoPressure > thresh.pumpdownThresh then
          .cryostatPumpDown
        else if ev.pumpEnabled ∧ ev.valveOpen then .highVibrationOperation
        else .initialVacuumState, some cannotTransition⟩ := by
  rw [VacuumSystem.dispatch, h]
  simp only [VacuumState.react, InitialVacuumState.react]
  split_ifs <;> first | rfl | grind

/-- Venting ends with the next readings, whatever they are. -/
private theorem dispatch_pumpVenting (h : m.current = .pumpVenting) :
    m.dispatch thresh (.dataUpdate ev) = ⟨.pumpedToAtmosphere, none⟩ := by
  rw [VacuumSystem.dispatch, h]
  simp only [VacuumState.react, PumpVenting.react]
  split_ifs <;> rfl

private theorem dispatch_cryostatPumpDown (h : m.current = .cryostatPumpDown) :
    m.dispatch thresh (.dataUpdate ev) =
      ⟨if ev.pumpEnabled ∧ ev.cryoPressure < thresh.pumpdownThresh ∧ ¬ ev.lowvibrationRequested
          then .highVibrationOperation
        else if ev.pumpEnabled ∧ ev.cryoPressure < thresh.pumpdownThresh then .pumpSpinningDown
        else .cryostatPumpDown, none⟩ := by
  rw [VacuumSystem.dispatch, h]
  simp only [VacuumState.react, CryostatPumpDown.react]
  split_ifs <;> rfl

private theorem dispatch_timeTick : m.dispatch thresh .timeTick = ⟨m.current, none⟩ := by
  rw [VacuumSystem.dispatch]
  cases m.current <;> rfl

/-- The other states stay. -/
theorem dispatch_of_ne (hinitial : m.current ≠ .initialVacuumState)
    (hventing : m.current ≠ .pumpVenting) (hdown : m.current ≠ .cryostatPumpDown) :
    m.dispatch thresh (.dataUpdate ev) = ⟨m.current, none⟩ := by
  rw [VacuumSystem.dispatch]
  cases hm : m.current <;> first | rfl | contradiction

/-! ### One move -/

variable {move : TransitionSystem.Move VacuumSystem (FsmEvent R)}

omit [DecidableLT R] in
/-- A move that changes nothing conforms. -/
theorem vacuumConforms_of_current_eq (hstays : move.after.current = move.before.current)
    (hinitial : ∀ ev, move.label = .dataUpdate ev →
      move.before.current ≠ .initialVacuumState) : VacuumConforms thresh move where
  atmosphere hne hafter := absurd (hstays.symm.trans hafter) hne
  initial ev hbefore hlabel := absurd hbefore (hinitial ev hlabel)
  pumpDown hbefore hne := absurd (hstays.trans hbefore) hne

/-- `InitialVacuumState` conforms exactly if it has a reason to throw. -/
theorem vacuumConforms_iff_of_initial (hbefore : move.before.current = .initialVacuumState)
    (hlabel : move.label = .dataUpdate ev)
    (hafter : move.after = move.before.dispatch thresh (.dataUpdate ev)) :
    VacuumConforms thresh move ↔
      ¬ AtAmbient thresh ev ∧ ¬ PumpingDown thresh ev ∧ ¬ HighVibration thresh ev := by
  rw [dispatch_initialVacuumState hbefore] at hafter
  constructor
  · intro h
    obtain ⟨-, -, -, hthrown⟩ := h.initial ev hbefore hlabel
    exact hthrown.mp (by rw [hafter]; rfl)
  · rintro ⟨hambient, hpumping, hvibration⟩
    have hcurrent : move.after.current = .initialVacuumState := by
      rw [hafter]
      simp only [AtAmbient, PumpingDown, HighVibration] at hambient hpumping hvibration
      grind
    refine ⟨?_, ?_, ?_⟩
    · intro _ hatmosphere
      simp [hcurrent] at hatmosphere
    · rintro ev' - hlabel'
      obtain rfl : ev = ev' := by
        rw [hlabel] at hlabel'
        exact FsmEvent.dataUpdate.inj hlabel'
      have hthrown : move.after.thrown.isSome := by
        rw [hafter]
        rfl
      simp [hcurrent, hambient, hpumping, hvibration, hthrown]
    · intro hdown
      simp [hbefore] at hdown

/-- `PumpVenting` conforms exactly if its condition is met. -/
theorem vacuumConforms_iff_of_venting (hbefore : move.before.current = .pumpVenting)
    (hlabel : move.label = .dataUpdate ev)
    (hafter : move.after = move.before.dispatch thresh (.dataUpdate ev)) :
    VacuumConforms thresh move ↔ ¬ ev.pumpEnabled ∧ ev.cryoPressure > thresh.ambientThresh := by
  rw [dispatch_pumpVenting hbefore] at hafter
  constructor
  · intro h
    obtain ⟨ev', pressure, hlabel', hpump, htested, habove⟩ :=
      h.atmosphere (by simp [hbefore]) (by rw [hafter])
    obtain rfl : ev = ev' := by
      rw [hlabel] at hlabel'
      exact FsmEvent.dataUpdate.inj hlabel'
    rw [hbefore] at htested
    obtain rfl := Option.some.inj htested
    exact ⟨hpump, habove⟩
  · rintro ⟨hpump, habove⟩
    refine ⟨fun _ _ => ⟨ev, _, hlabel, hpump, by rw [hbefore]; rfl, habove⟩, ?_, ?_⟩
    · intro _ hinitial
      simp [hbefore] at hinitial
    · intro hdown
      simp [hbefore] at hdown

/-- `CryostatPumpDown` conforms. -/
theorem vacuumConforms_of_pumpDown (hbefore : move.before.current = .cryostatPumpDown)
    (hlabel : move.label = .dataUpdate ev)
    (hafter : move.after = move.before.dispatch thresh (.dataUpdate ev)) :
    VacuumConforms thresh move := by
  rw [dispatch_cryostatPumpDown hbefore] at hafter
  refine ⟨?_, ?_, ?_⟩
  · intro _ hatmosphere
    rw [hafter] at hatmosphere
    grind
  · intro _ hinitial
    simp [hbefore] at hinitial
  · intro _ hleft
    rw [hafter] at hleft ⊢
    exact ⟨ev, hlabel, by grind⟩

/-- A move conforms exactly if it is untroubled. -/
theorem vacuumConforms_iff_of_step
    (h : (vacuumSystem thresh).step move.before move.label = some move.after) :
    VacuumConforms thresh move ↔ Untroubled thresh move := by
  have hafter : move.after = move.before.dispatch thresh move.label := (Option.some.inj h).symm
  cases hlabel : move.label with
  | timeTick =>
    have hnodata : ∀ ev, move.label ≠ .dataUpdate ev := by
      intro ev
      rw [hlabel]
      exact nofun
    rw [hlabel, dispatch_timeTick] at hafter
    exact iff_of_true
      (vacuumConforms_of_current_eq (by rw [hafter]) fun ev hev => absurd hev (hnodata ev))
      ⟨fun ev _ hev => absurd hev (hnodata ev), fun ev _ hev => absurd hev (hnodata ev)⟩
  | dataUpdate ev =>
    have hsame : ∀ ev', move.label = .dataUpdate ev' → ev' = ev := by
      intro ev' hev'
      rw [hlabel] at hev'
      exact (FsmEvent.dataUpdate.inj hev').symm
    rw [hlabel] at hafter
    -- only `InitialVacuumState` and `PumpVenting` can fail to conform
    by_cases hinitial : move.before.current = .initialVacuumState
    · rw [vacuumConforms_iff_of_initial hinitial hlabel hafter]
      refine ⟨fun hnone => ⟨?_, ?_⟩, fun hu => hu.initial ev hinitial hlabel⟩
      · intro ev' _ hev'
        rwa [hsame ev' hev']
      · intro _ hventing
        simp [hinitial] at hventing
    · by_cases hventing : move.before.current = .pumpVenting
      · rw [vacuumConforms_iff_of_venting hventing hlabel hafter]
        refine ⟨fun hmet => ⟨?_, ?_⟩, fun hu => hu.venting ev hventing hlabel⟩
        · intro _ hin
          exact absurd hin hinitial
        · intro ev' _ hev'
          rwa [hsame ev' hev']
      · refine iff_of_true ?_ ⟨fun _ hin => absurd hin hinitial, fun _ hin => absurd hin hventing⟩
        by_cases hdown : move.before.current = .cryostatPumpDown
        · exact vacuumConforms_of_pumpDown hdown hlabel hafter
        · rw [dispatch_of_ne hinitial hventing hdown] at hafter
          exact vacuumConforms_of_current_eq (by rw [hafter]) fun _ _ => hinitial

/-! ### Every sequence of events -/

/-- **The transitions match their conditions along a sequence of events**, from any state, exactly
if each of its moves is untroubled. -/
theorem vacuumConforms_iff (thresh : VacuumThresholds R) (m : VacuumSystem)
    (events : List (FsmEvent R)) :
    (∀ move ∈ (vacuumSystem thresh).trace m events, VacuumConforms thresh move) ↔
      ∀ move ∈ (vacuumSystem thresh).trace m events, Untroubled thresh move :=
  forall₂_congr fun _ hmove =>
    vacuumConforms_iff_of_step (TransitionSystem.step_of_mem_trace hmove)

end React

/-- At ambient pressure `InitialVacuumState` moves to `PumpedToAtmosphere` and throws, and
`PumpVenting` moves there with the pump enabled and no pressure. -/
theorem not_vacuumConforms :
    (∃ move ∈ (vacuumSystem (R := ℤ) ⟨1, 10⟩).trace ⟨.initialVacuumState, none⟩
        [.dataUpdate ⟨11, 11, 0, true, false, false, false, false⟩],
      move.after = ⟨.pumpedToAtmosphere, some cannotTransition⟩ ∧ ¬ VacuumConforms ⟨1, 10⟩ move) ∧
    ∃ move ∈ (vacuumSystem (R := ℤ) ⟨1, 10⟩).trace ⟨.pumpVenting, none⟩
        [.dataUpdate ⟨0, 0, 0, true, true, false, false, false⟩],
      move.after = ⟨.pumpedToAtmosphere, none⟩ ∧ ¬ VacuumConforms ⟨1, 10⟩ move := by
  refine ⟨⟨_, List.mem_singleton.mpr rfl, rfl, fun h => ?_⟩,
    ⟨_, List.mem_singleton.mpr rfl, rfl, fun h => ?_⟩⟩
  · obtain ⟨-, -, -, hthrown⟩ := h.initial _ rfl rfl
    exact (hthrown.mp rfl).1 ⟨by decide, rfl, by decide⟩
  · obtain ⟨ev, -, hlabel, hpump, -⟩ := h.atmosphere nofun rfl
    obtain rfl := FsmEvent.dataUpdate.inj hlabel
    exact hpump rfl

end Foxtrot
