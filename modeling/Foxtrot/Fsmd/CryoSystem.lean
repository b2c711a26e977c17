import Foxtrot.Foundation.Trace
import Mathlib.Data.Int.Notation

/-!
# The cryostat state machine

`CryoSystemFSM` (`lsst/fsmd`) decides when the cryostat is filled. Its states are singletons of
`tinyfsm`, which keep their members between visits: `CryostatFilling` has the clock at its entry and
the duration that it compares with the preset fill time.

A fill starts only on data that allow it, and after a fill that has not filled the cryostat not
before somebody has refilled the tank (`FillsGuarded`). The readings are compared only, so the
results hold of any type with a decidable `<`, whatever its laws.

The events are those of both state machines of `fsmd` (`common_events.hh`). Of the data of a
`DataUpdateEvent` there are those that a state machine reads.
-/

namespace Foxtrot

/-! ### Events -/

/-- `DataUpdateEvent`: readings of type `R`, and flags. -/
structure DataUpdateEvent (R : Type*) where
  pumpPressure : R
  cryoPressure : R
  tankTemp : R
  valveOpen : Bool
  pumpEnabled : Bool
  autofillEnabled : Bool
  lowvibrationRequested : Bool
  tankRefillFlagSet : Bool

/-- What is dispatched to a state machine. -/
inductive FsmEvent (R : Type*) where
  | dataUpdate (ev : DataUpdateEvent R)
  | timeTick

/-! ### States -/

/-- The states of `CryoSystemFSM`. -/
inductive CryoState where
  | initialCryoState
  | cryostatEmpty
  | cryostatFull
  | cryostatFilling
  | tankEmpty
  | tankRefilled
  deriving DecidableEq

/-- The static members of `CryoSystemFSM`. -/
structure CryoPresets (R : Type*) where
  cryoEmptyTempThresh : R
  allowedPressureThresh : R
  /-- In seconds. -/
  fillTimePreset : ℤ

/-- A second, in nanoseconds. -/
def nanoseconds : ℤ := 1000000000

/-- The machine: the current state and the members of `CryostatFilling`. -/
structure CryoSystem where
  current : CryoState
  /-- In nanoseconds. -/
  startTime : ℤ
  /-- In seconds. -/
  fillingTime : ℤ
  deriving DecidableEq

/-- The machine in its initial state. Static members start as zero. -/
def CryoSystem.new : CryoSystem := ⟨.initialCryoState, 0, 0⟩

/-- `entry` of the current state. -/
def CryoSystem.entry (m : CryoSystem) (now : ℤ) : CryoSystem :=
  match m.current with
  | .cryostatFilling => { m with startTime := now }
  | _ => m

/-- `transit`. The `exit` of every state is empty. -/
def CryoSystem.transit (m : CryoSystem) (now : ℤ) (state : CryoState) : CryoSystem :=
  { m with current := state }.entry now

/-- A transit leads to the state. -/
@[simp]
theorem CryoSystem.transit_current (m : CryoSystem) (now : ℤ) (state : CryoState) :
    (m.transit now state).current = state := by
  cases state <;> rfl

/-- A transit leaves the time of the fill. -/
@[simp]
theorem CryoSystem.transit_fillingTime (m : CryoSystem) (now : ℤ) (state : CryoState) :
    (m.transit now state).fillingTime = m.fillingTime := by
  cases state <;> rfl

/-- A fill starts when its state is entered. -/
@[simp]
theorem CryoSystem.transit_cryostatFilling_startTime (m : CryoSystem) (now : ℤ) :
    (m.transit now .cryostatFilling).startTime = now := rfl

section React

variable {R : Type*} [LT R] [DecidableLT R] (presets : CryoPresets R) (m : CryoSystem) (now : ℤ)
  (ev : DataUpdateEvent R)

/-- `should_refill`. -/
def shouldRefill : Bool :=
  if ev.tankTemp < presets.cryoEmptyTempThresh then false
  else if ev.autofillEnabled ∧ ev.cryoPressure < presets.allowedPressureThresh then true
  else if ev.cryoPressure > presets.allowedPressureThresh then false
  else false

private theorem shouldRefill_iff :
    shouldRefill presets ev ↔ ¬ ev.tankTemp < presets.cryoEmptyTempThresh ∧
    ev.autofillEnabled ∧ ev.cryoPressure < presets.allowedPressureThresh := by
  grind [shouldRefill]

/-- `InitialCryoState::react`. -/
def InitialCryoState.react : CryoSystem :=
  if ev.tankTemp < presets.cryoEmptyTempThresh then m.transit now .cryostatFull
  else if shouldRefill presets ev then m.transit now .cryostatFilling
  else m.transit now .cryostatEmpty

/-- `CryostatEmpty::react`. -/
def CryostatEmpty.react : CryoSystem :=
  if shouldRefill presets ev then m.transit now .cryostatFilling else m

/-- `CryostatFull::react`. -/
def CryostatFull.react : CryoSystem :=
  if ev.tankTemp > presets.cryoEmptyTempThresh then m.transit now .cryostatEmpty else m

/-- `CryostatFilling::react` to a tick. `duration_cast` rounds towards zero. -/
def CryostatFilling.reactTick : CryoSystem :=
  { m with fillingTime := (now - m.startTime).tdiv nanoseconds }

/-- `CryostatFilling::react` to data. -/
def CryostatFilling.react : CryoSystem :=
  if m.fillingTime > presets.fillTimePreset then
    if ev.tankTemp < presets.cryoEmptyTempThresh then m.transit now .cryostatFull
    else m.transit now .tankEmpty
  else m

/-- `TankEmpty::react`. -/
def TankEmpty.react : CryoSystem :=
  if ev.tankRefillFlagSet then m.transit now .tankRefilled else m

/-- `TankRefilled::react`. -/
def TankRefilled.react : CryoSystem :=
  if shouldRefill presets ev then m.transit now .cryostatFilling else m

/-- `dispatch`. A state that does not override a `react` does nothing. -/
def CryoSystem.dispatch : FsmEvent R → CryoSystem
  | .dataUpdate ev =>
    match m.current with
    | .initialCryoState => InitialCryoState.react presets m now ev
    | .cryostatEmpty => CryostatEmpty.react presets m now ev
    | .cryostatFull => CryostatFull.react presets m now ev
    | .cryostatFilling => CryostatFilling.react presets m now ev
    | .tankEmpty => TankEmpty.react m now ev
    | .tankRefilled => TankRefilled.react presets m now ev
  | .timeTick =>
    match m.current with
    | .cryostatFilling => CryostatFilling.reactTick m now
    | _ => m

/-! ### The moves of the machine -/

/-- An event, and what the clock shows while it is dispatched, in nanoseconds. -/
structure FsmLabel (R : Type*) where
  event : FsmEvent R
  now : ℤ

/-- The machine, from its initial state. -/
def cryoSystem : TransitionSystem CryoSystem (FsmLabel R) where
  init := .new
  step m l := some (m.dispatch presets l.now l.event)

/-- A move that enters `CryostatFilling`. -/
def StartsFill (move : TransitionSystem.Move CryoSystem (FsmLabel R)) : Prop :=
  move.before.current ≠ .cryostatFilling ∧ move.after.current = .cryostatFilling

/-- A move that leaves `CryostatFilling`. -/
def EndsFill (move : TransitionSystem.Move CryoSystem (FsmLabel R)) : Prop :=
  move.before.current = .cryostatFilling ∧ move.after.current ≠ .cryostatFilling

/-- A move that ends a fill with the temperature of the tank not below its threshold. -/
def FillFails (move : TransitionSystem.Move CryoSystem (FsmLabel R)) : Prop :=
  EndsFill move ∧ ∃ ev, move.label.event = .dataUpdate ev ∧
    ¬ ev.tankTemp < presets.cryoEmptyTempThresh

/-- A move on data that allow a fill. -/
def AllowsFill (move : TransitionSystem.Move CryoSystem (FsmLabel R)) : Prop :=
  ∃ ev, move.label.event = .dataUpdate ev ∧ ev.autofillEnabled ∧
    ev.cryoPressure < presets.allowedPressureThresh ∧ ¬ ev.tankTemp < presets.cryoEmptyTempThresh

/-- A move on data with the flag that the tank has been refilled. -/
def TankRefillFlagged (move : TransitionSystem.Move CryoSystem (FsmLabel R)) : Prop :=
  ∃ ev, move.label.event = .dataUpdate ev ∧ ev.tankRefillFlagSet

variable {presets} {m}

/-- The moves between states on data. -/
theorem dispatch_dataUpdate_current {ev : DataUpdateEvent R} {now : ℤ} :
    (m.dispatch presets now (.dataUpdate ev)).current =
      match m.current with
      | .initialCryoState =>
        if ev.tankTemp < presets.cryoEmptyTempThresh then .cryostatFull
        else if shouldRefill presets ev then .cryostatFilling else .cryostatEmpty
      | .cryostatEmpty => if shouldRefill presets ev then .cryostatFilling else .cryostatEmpty
      | .cryostatFull =>
        if ev.tankTemp > presets.cryoEmptyTempThresh then .cryostatEmpty else .cryostatFull
      | .cryostatFilling =>
        if m.fillingTime > presets.fillTimePreset then
          if ev.tankTemp < presets.cryoEmptyTempThresh then .cryostatFull else .tankEmpty
        else .cryostatFilling
      | .tankEmpty => if ev.tankRefillFlagSet then .tankRefilled else .tankEmpty
      | .tankRefilled => if shouldRefill presets ev then .cryostatFilling else .tankRefilled := by
  cases hm : m.current <;>
    grind [CryoSystem.dispatch, InitialCryoState.react, CryostatEmpty.react, CryostatFull.react,
      CryostatFilling.react, TankEmpty.react, TankRefilled.react, CryoSystem.transit_current]

/-- A tick changes no state. -/
theorem dispatch_timeTick_current {now : ℤ} :
    (m.dispatch presets now .timeTick).current = m.current := by
  cases hm : m.current <;> simp [CryoSystem.dispatch, CryostatFilling.reactTick, hm]

/-! ### What starts and ends a fill -/

variable {move : TransitionSystem.Move CryoSystem (FsmLabel R)}

private theorem after_eq_dispatch
    (h : (cryoSystem presets).step move.before move.label = some move.after) :
    move.after = move.before.dispatch presets move.label.now move.label.event :=
  (Option.some.inj h).symm

/-- A move that changes the state is on data. -/
theorem dataUpdate_of_current_ne
    (h : (cryoSystem presets).step move.before move.label = some move.after)
    (hne : move.after.current ≠ move.before.current) :
    ∃ ev, move.label.event = .dataUpdate ev := by
  cases hev : move.label.event with
  | dataUpdate ev => exact ⟨ev, rfl⟩
  | timeTick =>
    rw [after_eq_dispatch h, hev, dispatch_timeTick_current] at hne
    exact absurd rfl hne

/-- The state after a move on data. -/
theorem current_of_dataUpdate {ev : DataUpdateEvent R}
    (h : (cryoSystem presets).step move.before move.label = some move.after)
    (hev : move.label.event = .dataUpdate ev) :
    move.after.current =
      (move.before.dispatch presets move.label.now (.dataUpdate ev)).current := by
  rw [after_eq_dispatch h, hev]

private theorem allowsFill_of_startsFill
    (h : (cryoSystem presets).step move.before move.label = some move.after)
    (hstart : StartsFill move) : AllowsFill presets move := by
  obtain ⟨hbefore, hafter⟩ := hstart
  obtain ⟨ev, hev⟩ := dataUpdate_of_current_ne h (by rw [hafter]; exact hbefore.symm)
  have hrefill : shouldRefill presets ev := by
    rw [current_of_dataUpdate h hev, dispatch_dataUpdate_current] at hafter
    cases hm : move.before.current <;> grind
  obtain ⟨htemp, henabled, hpressure⟩ := (shouldRefill_iff presets ev).mp hrefill
  exact ⟨ev, hev, henabled, hpressure, htemp⟩

/-- A fill ends in `TankEmpty` exactly if it has failed. -/
theorem fillFails_iff (h : (cryoSystem presets).step move.before move.label = some move.after) :
    FillFails presets move ↔ EndsFill move ∧ move.after.current = .tankEmpty := by
  refine and_congr_right fun ⟨hbefore, hafter⟩ => ?_
  obtain ⟨ev, hev⟩ := dataUpdate_of_current_ne h (by rw [hbefore]; exact hafter)
  have hcurrent := current_of_dataUpdate h hev
  rw [dispatch_dataUpdate_current, hbefore] at hcurrent
  rw [hcurrent] at hafter ⊢
  grind

/-- From `TankEmpty` only the refill flag leads on, and not into `CryostatFilling`. -/
theorem current_of_tankEmpty
    (h : (cryoSystem presets).step move.before move.label = some move.after)
    (hempty : move.before.current = .tankEmpty) :
    move.after.current = .tankEmpty ∨
      TankRefillFlagged move ∧ move.after.current = .tankRefilled := by
  cases hev : move.label.event with
  | dataUpdate ev =>
    have hcurrent := current_of_dataUpdate h hev
    rw [dispatch_dataUpdate_current, hempty] at hcurrent
    by_cases hflag : ev.tankRefillFlagSet
    · exact .inr ⟨⟨ev, hev, hflag⟩, by simpa [hflag] using hcurrent⟩
    · exact .inl (by simpa [hflag] using hcurrent)
  | timeTick =>
    rw [after_eq_dispatch h, hev, dispatch_timeTick_current]
    exact .inl hempty

/-- After a failed fill the machine waits for the refill flag. -/
theorem awaits_tankRefillFlagged (m : CryoSystem) (ls : List (FsmLabel R)) :
    Awaits (FillFails presets) StartsFill TankRefillFlagged ((cryoSystem presets).trace m ls) := by
  refine TransitionSystem.awaits_trace (fun m => m.current = .tankEmpty) ?_ ?_ ?_ m ls
  · intro move h hfails
    exact ((fillFails_iff h).mp hfails).2
  · rintro move h hempty ⟨-, hfilling⟩
    obtain hstays | ⟨-, hrefilled⟩ := current_of_tankEmpty h hempty
    · simp [hstays] at hfilling
    · simp [hrefilled] at hfilling
  · intro move h hempty hflag
    obtain hstays | ⟨hflagged, -⟩ := current_of_tankEmpty h hempty
    · exact hstays
    · exact absurd hflagged hflag

/-- **Fills are guarded**, in a list of moves. -/
structure FillsGuarded (presets : CryoPresets R)
    (moves : List (TransitionSystem.Move CryoSystem (FsmLabel R))) : Prop where
  /-- A fill starts on data that allow it. -/
  allowed : ∀ move ∈ moves, StartsFill move → AllowsFill presets move
  /-- It ends in `TankEmpty` exactly if it has failed. -/
  failed : ∀ move ∈ moves,
    FillFails presets move ↔ EndsFill move ∧ move.after.current = .tankEmpty
  /-- After one that has failed there is none before the refill flag. -/
  awaits : Awaits (FillFails presets) StartsFill TankRefillFlagged moves

/-- Fills are guarded along every sequence of events. -/
theorem fillsGuarded (presets : CryoPresets R) (ls : List (FsmLabel R)) :
    FillsGuarded presets ((cryoSystem presets).trace .new ls) where
  allowed _ hmove := allowsFill_of_startsFill (TransitionSystem.step_of_mem_trace hmove)
  failed _ hmove := fillFails_iff (TransitionSystem.step_of_mem_trace hmove)
  awaits := awaits_tankRefillFlagged .new ls

end React

end Foxtrot
