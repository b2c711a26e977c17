import Foxtrot.Fsmd.CryoSystem

/-!
# How long a fill lasts

`CryostatFilling` compares `_filling_time` with the preset fill time when data come. A tick updates
it, but `entry` does not set it back: until its first tick a fill is measured by the time that ended
the fill before it, and this exceeds the preset. So data before the first tick end every fill but
the first at once, and the fills last as they should exactly if such data do not come too soon
(`fillsLast_iff`).

The history keeps when the fill began and whether a tick has come since. Its invariant
(`FillHistory.Measured`) says what the filling time is: after a tick at most the time since the
entry; before it zero in the first fill, and in a later one what the fill before has left, which
exceeds the preset. So of all events only data before the first tick can end a fill too soon
(`measured_step`).
-/

namespace Foxtrot

/-- A machine with what has been seen of its fills. Times are in nanoseconds. -/
structure FillHistory where
  machine : CryoSystem
  /-- What the clock has shown last. -/
  clock : ℤ
  /-- What it showed at the last entry to `CryostatFilling`. -/
  entered : ℤ
  /-- There has been a tick since. -/
  ticked : Bool
  /-- How often `CryostatFilling` has been entered. -/
  fills : ℕ
  /-- How long the fills have lasted that are over. -/
  durations : List ℤ
  deriving DecidableEq

namespace FillHistory

/-- What the history becomes with a move of the machine. -/
def record (s : FillHistory) (now : ℤ) (tick : Bool) (machine : CryoSystem) : FillHistory :=
  if s.machine.current = .cryostatFilling then
    if machine.current = .cryostatFilling then
      { s with machine := machine, clock := now, ticked := s.ticked || tick }
    else
      { s with machine := machine, clock := now, durations := (now - s.entered) :: s.durations }
  else if machine.current = .cryostatFilling then
    { s with machine := machine, clock := now, entered := now, ticked := false,
             fills := s.fills + 1 }
  else { s with machine := machine, clock := now }

end FillHistory

/-- The event is a tick. -/
def FsmEvent.isTick {R : Type*} : FsmEvent R → Bool
  | .dataUpdate _ => false
  | .timeTick => true

section

variable {R : Type*} [LT R] [DecidableLT R] (presets : CryoPresets R)

/-- The machine with its history, and a clock that does not go back. -/
def fillSystem (start : ℤ) : TransitionSystem FillHistory (FsmLabel R) where
  init := ⟨.new, start, start, false, 0, []⟩
  step s l :=
    if l.now < s.clock then none
    else some (s.record l.now l.event.isTick (s.machine.dispatch presets l.now l.event))

/-- **Fills last**: every fill that is over has lasted longer than the preset fill time. -/
def FillHistory.FillsLast (s : FillHistory) : Prop :=
  ∀ duration ∈ s.durations, presets.fillTimePreset * nanoseconds < duration

/-- Data do not come in a fill after the first, before its first tick, and within the preset fill
time. -/
def Unhasty (s : FillHistory) (l : FsmLabel R) : Prop :=
  s.machine.current = .cryostatFilling → s.ticked = false → 1 < s.fills →
    l.event.isTick = false → presets.fillTimePreset * nanoseconds < l.now - s.entered

instance (s : FillHistory) (l : FsmLabel R) : Decidable (Unhasty presets s l) :=
  inferInstanceAs (Decidable (_ → _ → _ → _ → _))

/-! ### What the filling time is -/

/-- What a reached history says of the members of `CryostatFilling`. -/
structure FillHistory.Measured (s : FillHistory) : Prop where
  started : s.machine.current = .cryostatFilling →
    s.machine.startTime = s.entered ∧ s.entered ≤ s.clock ∧ 0 < s.fills
  /-- Before the first tick of the first fill. -/
  fresh : s.fills = 0 ∨ s.fills = 1 ∧ s.machine.current = .cryostatFilling ∧ s.ticked = false →
    s.machine.fillingTime = 0
  /-- After a tick of a fill. -/
  ticked : s.machine.current = .cryostatFilling → s.ticked →
    s.machine.fillingTime * nanoseconds ≤ s.clock - s.entered
  /-- After a fill, until the first tick of the next. -/
  stale : 0 < s.fills → s.machine.current ≠ .cryostatFilling ∨ 1 < s.fills ∧ s.ticked = false →
    presets.fillTimePreset < s.machine.fillingTime

variable {presets} {m : CryoSystem} {now : ℤ}

/-- Outside `CryostatFilling` the filling time stays, and the clock is read at the entry. -/
theorem dispatch_of_not_filling (presets : CryoPresets R) (now : ℤ)
    (h : m.current ≠ .cryostatFilling) (event : FsmEvent R) :
    (m.dispatch presets now event).fillingTime = m.fillingTime ∧
      ((m.dispatch presets now event).current = .cryostatFilling →
        (m.dispatch presets now event).startTime = now) := by
  cases event with
  | dataUpdate ev =>
    cases hm : m.current <;>
      grind [CryoSystem.dispatch, InitialCryoState.react, CryostatEmpty.react, CryostatFull.react,
        TankEmpty.react, TankRefilled.react, CryoSystem.transit_current,
        CryoSystem.transit_fillingTime, CryoSystem.transit_cryostatFilling_startTime]
  | timeTick =>
    cases hm : m.current <;> simp_all [CryoSystem.dispatch]

/-- While filling, a tick is handled by the state. -/
private theorem dispatch_timeTick_of_filling (h : m.current = .cryostatFilling) :
    m.dispatch presets now .timeTick = CryostatFilling.reactTick m now := by
  rw [CryoSystem.dispatch, h]

/-- Data end a fill if the filling time exceeds the preset, and otherwise change nothing. -/
theorem dispatch_dataUpdate_of_filling (presets : CryoPresets R) (now : ℤ)
    (h : m.current = .cryostatFilling) (ev : DataUpdateEvent R) :
    presets.fillTimePreset < m.fillingTime ∧
        (m.dispatch presets now (.dataUpdate ev)).current ≠ .cryostatFilling ∧
        (m.dispatch presets now (.dataUpdate ev)).fillingTime = m.fillingTime ∨
      ¬ presets.fillTimePreset < m.fillingTime ∧ m.dispatch presets now (.dataUpdate ev) = m := by
  rw [CryoSystem.dispatch, h]
  simp only [CryostatFilling.react]
  split
  · split <;> simp_all
  · simp_all

/-- A time that has passed is not less than the whole seconds in it. -/
theorem tdiv_nanoseconds_le {d : ℤ} (hd : 0 ≤ d) : d.tdiv nanoseconds * nanoseconds ≤ d := by
  rw [Int.tdiv_eq_ediv_of_nonneg hd]
  simp only [nanoseconds]
  omega

/-! ### One event -/

variable {start : ℤ} {s s' : FillHistory} {l : FsmLabel R}

/-- A step dispatches its event at a time that is not earlier. -/
private theorem step_eq (h : (fillSystem presets start).step s l = some s') :
    s.clock ≤ l.now ∧
      s' = s.record l.now l.event.isTick (s.machine.dispatch presets l.now l.event) := by
  obtain ⟨hclock, h⟩ := Option.ite_none_left_eq_some.mp h
  exact ⟨Int.not_lt.mp hclock, (Option.some.inj h).symm⟩

/-- An event outside `CryostatFilling`. -/
theorem step_of_not_filling (hs : s.Measured presets)
    (hfilling : s.machine.current ≠ .cryostatFilling)
    (h : (fillSystem presets start).step s l = some s') :
    s'.Measured presets ∧ s'.durations = s.durations := by
  obtain ⟨hclock, rfl⟩ := step_eq h
  obtain ⟨htime, hentry⟩ := dispatch_of_not_filling presets l.now hfilling l.event
  by_cases henters : (s.machine.dispatch presets l.now l.event).current = .cryostatFilling
  · simp only [FillHistory.record, hfilling, henters, if_true, if_false]
    refine ⟨⟨?_, ?_, by rintro - ⟨⟩, ?_⟩, trivial⟩ <;> dsimp only
    · exact fun _ => ⟨hentry henters, Int.le_refl _, s.fills.succ_pos⟩
    · rintro (hzero | ⟨hone, -⟩)
      · omega
      · exact htime.trans (hs.fresh (.inl (by omega)))
    · rintro - (hleft | ⟨hfills, -⟩)
      · exact absurd henters hleft
      · rw [htime]
        exact hs.stale (by omega) (.inl hfilling)
  · simp only [FillHistory.record, hfilling, henters, if_false]
    refine ⟨⟨fun h => absurd h henters, ?_, fun h => absurd h henters, ?_⟩, trivial⟩ <;>
      dsimp only
    · rintro (hzero | ⟨-, hin, -⟩)
      · exact htime.trans (hs.fresh (.inl hzero))
      · exact absurd hin henters
    · intro hfills _
      rw [htime]
      exact hs.stale hfills (.inl hfilling)

/-- A tick in `CryostatFilling`. -/
theorem step_of_tick (hs : s.Measured presets) (hfilling : s.machine.current = .cryostatFilling)
    (hevent : l.event = .timeTick) (h : (fillSystem presets start).step s l = some s') :
    s'.Measured presets ∧ s'.durations = s.durations := by
  obtain ⟨hclock, rfl⟩ := step_eq h
  obtain ⟨hstart, hentered, hfills⟩ := hs.started hfilling
  rw [hevent, dispatch_timeTick_of_filling hfilling]
  simp only [FillHistory.record, CryostatFilling.reactTick, FsmEvent.isTick, hfilling, if_true,
    Bool.or_true]
  refine ⟨⟨?_, ?_, ?_, ?_⟩, trivial⟩ <;> dsimp only
  · exact fun _ => ⟨hstart, by omega, hfills⟩
  · rintro (hzero | ⟨-, -, hticked⟩)
    · omega
    · cases hticked
  · rintro - -
    rw [hstart]
    exact tdiv_nanoseconds_le (by omega)
  · rintro - (hleft | ⟨-, hticked⟩)
    · exact absurd rfl hleft
    · cases hticked

/-- Data in `CryostatFilling`. Where they end the fill, its length is what the condition asks about
if the filling time is an old one, and exceeds the preset fill time if not. -/
theorem step_of_data (hs : s.Measured presets) (hfilling : s.machine.current = .cryostatFilling)
    {ev : DataUpdateEvent R} (hevent : l.event = .dataUpdate ev)
    (h : (fillSystem presets start).step s l = some s') :
    s'.Measured presets ∧
      (s'.FillsLast presets ↔ s.FillsLast presets ∧ Unhasty presets s l) := by
  obtain ⟨hclock, rfl⟩ := step_eq h
  obtain ⟨hstart, hentered, hfills⟩ := hs.started hfilling
  -- the filling time exceeds the preset one, or the data change nothing
  obtain ⟨hexceeds, hleaves, htime⟩ | ⟨hwithin, hsame⟩ :=
    dispatch_dataUpdate_of_filling presets l.now hfilling ev
  · rw [hevent]
    simp only [FillHistory.record, hfilling, hleaves, if_true, if_false]
    refine ⟨⟨fun h => absurd h hleaves, ?_, fun h => absurd h hleaves, ?_⟩, ?_⟩
    any_goals dsimp only
    · rintro (hzero | ⟨-, hin, -⟩)
      · omega
      · exact absurd hin hleaves
    · intro _ _
      rwa [htime]
    · -- after a tick the filling time is of this fill, and before one it is zero or stale
      have hlast : presets.fillTimePreset * nanoseconds < l.now - s.entered ↔
          Unhasty presets s l := by
        refine ⟨fun h _ _ _ _ => h, fun hunhasty => ?_⟩
        cases hticked : s.ticked with
        | true =>
          have := hs.ticked hfilling hticked
          simp only [nanoseconds] at this ⊢
          omega
        | false =>
          by_cases hone : 1 < s.fills
          · exact hunhasty hfilling hticked hone (by rw [hevent]; rfl)
          · have := hs.fresh (.inr ⟨by omega, hfilling, hticked⟩)
            simp only [nanoseconds]
            omega
      simp only [FillHistory.FillsLast, List.forall_mem_cons, hlast]
      exact and_comm
  · -- the filling goes on
    rw [hevent, hsame]
    simp only [FillHistory.record, hfilling, FsmEvent.isTick, if_true, Bool.or_false]
    refine ⟨⟨fun _ => ⟨hstart, ?_, hfills⟩, hs.fresh, ?_, hs.stale⟩, ?_⟩
    any_goals dsimp only
    · omega
    · intro _ hticked
      have := hs.ticked hfilling hticked
      omega
    · refine (and_iff_left ?_).symm
      intro _ hticked hone _
      exact absurd (hs.stale hfills (.inr ⟨hone, hticked⟩)) hwithin

/-- An event keeps the fills lasting exactly if it is not such data. -/
theorem measured_step (hs : s.Measured presets)
    (h : (fillSystem presets start).step s l = some s') :
    s'.Measured presets ∧
      (s'.FillsLast presets ↔ s.FillsLast presets ∧ Unhasty presets s l) := by
  have hkeeps : s'.durations = s.durations →
      (s'.FillsLast presets ↔ s.FillsLast presets) := by
    intro hdurations
    rw [FillHistory.FillsLast, hdurations, FillHistory.FillsLast]
  by_cases hfilling : s.machine.current = .cryostatFilling
  · cases hevent : l.event with
    | dataUpdate ev => exact step_of_data hs hfilling hevent h
    | timeTick =>
      obtain ⟨hmeasured, hdurations⟩ := step_of_tick hs hfilling hevent h
      refine ⟨hmeasured, (hkeeps hdurations).trans (and_iff_left ?_).symm⟩
      intro _ _ _ hdata
      simp [hevent, FsmEvent.isTick] at hdata
  · obtain ⟨hmeasured, hdurations⟩ := step_of_not_filling hs hfilling h
    exact ⟨hmeasured, (hkeeps hdurations).trans
      (and_iff_left fun hin => absurd hin hfilling).symm⟩

/-- In the beginning there is no fill to measure. -/
private theorem measured_init : (fillSystem presets start).init.Measured presets := by
  constructor <;> simp [fillSystem, CryoSystem.new]

/-- The time of the fill is measured in every run. -/
private theorem measured_of_reachable (h : (fillSystem presets start).Reachable s) :
    s.Measured presets := by
  refine h.invariant (P := FillHistory.Measured presets) measured_init ?_
  intro s l s' _ hs _ hstep
  exact (measured_step hs hstep).1

/-! ### Every run -/

/-- **The fills of a run last exactly if no data come too soon**: in a fill after the first, before
its first tick, and within the preset fill time. -/
theorem fillsLast_iff {ls : List (FsmLabel R)}
    (hrun : (fillSystem presets start).run (fillSystem presets start).init ls = some s) :
    s.FillsLast presets ↔
      (fillSystem presets start).Guarded (Unhasty presets) (fillSystem presets start).init ls := by
  have hinit : (fillSystem presets start).init.FillsLast presets := by
    simp [fillSystem, FillHistory.FillsLast]
  exact TransitionSystem.run_iff_guarded (P := FillHistory.FillsLast presets) hinit
    (fun _ _ _ hs h => (measured_step (measured_of_reachable hs) h).2) hrun

end

/-- Data with autofill enabled, a pressure of 0 and the temperature given. -/
def fillReading (tankTemp : ℤ) : FsmEvent ℤ :=
  .dataUpdate ⟨0, 0, tankTemp, true, true, true, false, false⟩

/-- A fill of six seconds, and the entry to a second fill. -/
def oneFill : List (FsmLabel ℤ) :=
  [⟨fillReading 1, 0⟩, ⟨.timeTick, 6 * nanoseconds⟩, ⟨fillReading (-1), 6 * nanoseconds⟩,
    ⟨fillReading 1, 7 * nanoseconds⟩, ⟨fillReading 1, 8 * nanoseconds⟩]

/-- Two fills of six seconds each, with a preset fill time of five. -/
theorem fillsLast_twice : ∃ s : FillHistory, s.durations = [6 * nanoseconds, 6 * nanoseconds] ∧
    s.FillsLast (R := ℤ) ⟨0, 10, 5⟩ := by
  have hrun : (fillSystem (R := ℤ) ⟨0, 10, 5⟩ 0).run (fillSystem ⟨0, 10, 5⟩ 0).init
      (oneFill ++ [⟨.timeTick, 14 * nanoseconds⟩, ⟨fillReading 1, 14 * nanoseconds⟩]) =
        some ⟨⟨.tankEmpty, 8 * nanoseconds, 6⟩, 14 * nanoseconds, 8 * nanoseconds, true, 2,
          [6 * nanoseconds, 6 * nanoseconds]⟩ := by decide
  exact ⟨_, rfl, (fillsLast_iff hrun).mpr (by decide)⟩

/-- The second fill ends after a nanosecond. -/
theorem not_fillsLast_of_hasty : ∃ s : FillHistory, (fillSystem (R := ℤ) ⟨0, 10, 5⟩ 0).Reachable s ∧
    s.durations = [1, 6 * nanoseconds] ∧ ¬ s.FillsLast (R := ℤ) ⟨0, 10, 5⟩ := by
  have hrun : (fillSystem (R := ℤ) ⟨0, 10, 5⟩ 0).run (fillSystem ⟨0, 10, 5⟩ 0).init
      (oneFill ++ [⟨fillReading 1, 8 * nanoseconds + 1⟩]) =
        some ⟨⟨.tankEmpty, 8 * nanoseconds, 6⟩, 8 * nanoseconds + 1, 8 * nanoseconds, false, 2,
          [1, 6 * nanoseconds]⟩ := by decide
  exact ⟨_, TransitionSystem.reachable_of_run hrun, rfl,
    fun h => absurd (h 1 (by decide)) (by decide)⟩

end Foxtrot
