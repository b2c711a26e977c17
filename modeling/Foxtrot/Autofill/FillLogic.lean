import Foxtrot.Foundation.TransitionSystem
import Mathlib.Data.List.Basic
import Mathlib.Order.Basic

/-!
# The fill logic of `autofilld`

`autofill_logic` (`lsst/autofilld/autofill_fill_logic.cpp`) is called at intervals with the readings
of the sensors (`tick`). When the cryostat tank is empty it starts a *fill*: a thread that switches
the relay of a valve on, waits, and switches it off (`execute_fill`), then logs the end, sets the
server flag `autofill/fillactive` back, and sets two flags that `tick` looks at,
`fill_in_progress` and `fill_just_done`. `tick` keeps the future of the fill (`running_fill_`) and
looks at its end whether it is ready.

`Autofill` is the data of the object with the tick that is going on and the threads of all fills.
Between two accesses to what they share, a tick or a fill is one step. A remote call may throw: in a
fill it ends `execute_fill` or the thread, in a tick it ends the program, as `main` has no handler.
A failing call of `SetRelay` may have reached the relay or not.

Assigning to `running_fill_` waits for the end of the fill whose future was in it, **after** the new
fill has been launched. An exception of `execute_fill` is kept in the future, and `tick` asks the
future for it twice, which throws another exception.
-/

namespace Foxtrot

/-- `event_types`. -/
inductive EventTypes where
  | fillBegin
  | fillComplete
  | tankEmpty
  | dewarEmpty
  | dewarFilled
  deriving DecidableEq

/-- What `tick` makes of the sensor readings. -/
structure EnvData where
  /-- `cryostat_pressure < limit_pressure_`. -/
  pumpdown : Bool
  /-- `tank_temp > empty_temp_`. -/
  tankEmpty : Bool
  deriving DecidableEq

/-- Where the thread of a fill stands. -/
inductive FillPc where
  | launched
  /-- `fill_in_progress = true`. -/
  | started
  /-- The relay has been switched on. -/
  | opened
  /-- `execute_fill` is over, with an exception or without. -/
  | filled (except : Bool)
  /-- `fill_complete` is logged. -/
  | logged (except : Bool)
  /-- `autofill/fillactive` is set back. -/
  | unflagged (except : Bool)
  /-- `fill_in_progress = false`. -/
  | cleared (except : Bool)
  /-- `fill_just_done = true`. -/
  | marked (except : Bool)
  /-- The future is ready. -/
  | returned (except : Bool)
  /-- The future is ready, with an exception that has left the function of the thread. -/
  | failed
  deriving DecidableEq

/-- The thread has not come to its end. -/
def FillPc.isRunning : FillPc → Bool
  | .returned _ | .failed => false
  | _ => true

/-- Why the program is over. -/
inductive TickFailure where
  /-- A remote call of `tick` has thrown. -/
  | remoteCall
  /-- The exception that left the function of a fill. -/
  | fillThread
  /-- The future has been asked twice. -/
  | noState
  deriving DecidableEq

/-- Where `tick` stands. -/
inductive TickPc where
  | idle
  /-- The vacuum and the dewar have been dealt with. -/
  | checked (env : EnvData)
  /-- The tank is empty; about to look at `fill_just_done`. -/
  | seenEmpty (pumpdown : Bool)
  /-- About to look at `fill_in_progress`. -/
  | notDone (pumpdown : Bool)
  /-- About to decide whether to fill, and to look at `fill_just_done` once more. -/
  | deciding (pumpdown fillNeeded : Bool)
  /-- A fill is needed; about to look whether fills are enabled. -/
  | starting
  /-- `fill_begin` is logged. -/
  | flagging
  /-- `autofill/fillactive` is set. -/
  | launching
  /-- The thread of a fill is launched; about to assign its future. -/
  | assigning (fill : ℕ)
  /-- About to set `fill_just_done` back. -/
  | resetting
  /-- About to look at the future. -/
  | collecting
  /-- The program is over. -/
  | dead (why : TickFailure)
  deriving DecidableEq

/-- An `autofill_logic`, with what its ticks and fills change outside. -/
structure Autofill where
  dryrun : Bool
  tick : TickPc
  loggedTankEmpty : Bool
  dewarEmpty : Bool
  fillInProgress : Bool
  fillJustDone : Bool
  /-- The threads of the fills, in the order in which they were launched. -/
  fills : List FillPc
  /-- `running_fill_`, as the number of a fill. -/
  runningFill : Option ℕ
  /-- The last relay command that took effect. -/
  relay : Option Bool
  /-- `autofill/fillactive`, once it is set. -/
  fillactive : Option Bool
  events : List EventTypes
  deriving DecidableEq

/-- A step of `tick` or of a fill. -/
inductive AutofillLabel where
  /-- `tick` is called. `dewarFilled` is what `was_dewar_filled` answers. -/
  | tick (env : EnvData) (dewarFilled : Bool)
  /-- `tick` goes on. `enabled` is what `is_autofill_enabled` answers. -/
  | main (enabled : Bool)
  /-- A remote call of `tick`, or of the measurement before it, throws. -/
  | throw
  /-- A fill goes on. -/
  | fill (i : ℕ)
  /-- The call that a fill makes throws, having taken effect or not. -/
  | fail (i : ℕ) (reached : Bool)
  deriving DecidableEq

/-- `tick` makes remote calls here. -/
def TickPc.callsRemote : TickPc → Bool
  | .idle | .checked _ | .seenEmpty _ | .deciding _ _ | .starting | .flagging => true
  | _ => false

/-- The program is not over. -/
def TickPc.isAlive : TickPc → Bool
  | .dead _ => false
  | _ => true

namespace Autofill

/-- A new object; no relay command has been sent. -/
def new (dryrun : Bool) : Autofill :=
  ⟨dryrun, .idle, false, false, false, false, [], none, none, none, []⟩

/-- `LogEvent`. -/
def logEvent (s : Autofill) (evtp : EventTypes) : Autofill :=
  { s with events := s.events ++ [evtp] }

/-- `SetRelay`, which a dry run leaves out. -/
def setRelay (s : Autofill) (on : Bool) : Autofill :=
  if s.dryrun then s else { s with relay := some on }

/-- A fill goes on. -/
def setFill (s : Autofill) (i : ℕ) (pc : FillPc) : Autofill :=
  { s with fills := s.fills.set i pc }

/-- The next step of a fill. -/
def fillNext (s : Autofill) (i : ℕ) : FillPc → Option Autofill
  | .launched => some { s.setFill i .started with fillInProgress := true }
  | .started => some ((s.setRelay true).setFill i .opened)
  | .opened => some ((s.setRelay false).setFill i (.filled false))
  | .filled e => some ((s.logEvent .fillComplete).setFill i (.logged e))
  | .logged e => some { s.setFill i (.unflagged e) with fillactive := some false }
  | .unflagged e => some { s.setFill i (.cleared e) with fillInProgress := false }
  | .cleared e => some { s.setFill i (.marked e) with fillJustDone := true }
  | .marked e => some (s.setFill i (.returned e))
  | .returned _ | .failed => none

/-- The next step of a fill, where its call throws. -/
def fillFail (s : Autofill) (i : ℕ) (reached : Bool) : FillPc → Option Autofill
  | .started =>
    if s.dryrun then none
    else some ((if reached then s.setRelay true else s).setFill i (.filled true))
  | .opened =>
    if s.dryrun then none
    else some ((if reached then s.setRelay false else s).setFill i (.filled true))
  | .filled _ => some ((if reached then s.logEvent .fillComplete else s).setFill i .failed)
  | .logged _ =>
    some ((if reached then { s with fillactive := some false } else s).setFill i .failed)
  | _ => none

private theorem setRelay_fills (s : Autofill) (on : Bool) : (s.setRelay on).fills = s.fills := by
  rw [setRelay]
  split <;> rfl

/-- The step of a fill moves this fill. -/
theorem fillNext_fills {s s' : Autofill} {i : ℕ} {pc : FillPc} (h : s.fillNext i pc = some s') :
    ∃ pc', s'.fills = s.fills.set i pc' := by
  cases pc with
  | started | opened =>
    obtain rfl := Option.some.inj h
    exact ⟨_, congrArg (List.set · i _) (s.setRelay_fills _)⟩
  | returned | failed => cases h
  | _ =>
    obtain rfl := Option.some.inj h
    exact ⟨_, rfl⟩

/-- A fill that fails changes its own place. -/
theorem fillFail_fills {s s' : Autofill} {i : ℕ} {reached : Bool} {pc : FillPc}
    (h : s.fillFail i reached pc = some s') : ∃ pc', s'.fills = s.fills.set i pc' := by
  cases pc with
  | started | opened =>
    obtain ⟨-, h⟩ := Option.ite_none_left_eq_some.mp h
    obtain rfl := Option.some.inj h
    cases reached
    · exact ⟨_, rfl⟩
    · exact ⟨_, congrArg (List.set · i _) (s.setRelay_fills _)⟩
  | filled | logged =>
    obtain rfl := Option.some.inj h
    cases reached <;> exact ⟨_, rfl⟩
  | _ => cases h

/-- The next step of `tick`. -/
def mainNext (s : Autofill) (enabled : Bool) : Option Autofill :=
  match s.tick with
  | .checked env =>
    if env.tankEmpty then
      if !s.fillInProgress && !s.loggedTankEmpty then
        some { s.logEvent .tankEmpty with loggedTankEmpty := true, tick := .seenEmpty env.pumpdown }
      else some { s with tick := .seenEmpty env.pumpdown }
    else some { s with tick := .deciding env.pumpdown false }
  | .seenEmpty pumpdown =>
    if s.fillJustDone then
      let s := if s.dewarEmpty then s else s.logEvent .dewarEmpty
      some { s with
        loggedTankEmpty := false, dewarEmpty := true, tick := .deciding pumpdown false }
    else some { s with tick := .notDone pumpdown }
  | .notDone pumpdown => some { s with tick := .deciding pumpdown (!s.fillInProgress) }
  | .deciding pumpdown fillNeeded =>
    if fillNeeded && pumpdown && !s.fillJustDone && !s.dewarEmpty then
      some { s with tick := .starting }
    else some { s with tick := .resetting }
  | .starting =>
    if enabled then some { s.logEvent .fillBegin with tick := .flagging }
    else some { s with tick := .resetting }
  | .flagging => some { s with fillactive := some true, tick := .launching }
  | .launching =>
    some { s with fills := s.fills ++ [.launched], tick := .assigning s.fills.length }
  | .assigning fill =>
    -- the future that was there before waits for its fill
    match s.runningFill.bind (s.fills[·]?) with
    | none | some (.returned _) | some .failed =>
      some { s with runningFill := some fill, tick := .resetting }
    | some _ => none
  | .resetting => some { s with fillJustDone := false, tick := .collecting }
  | .collecting =>
    match s.runningFill.bind (s.fills[·]?) with
    | some (.returned false) => some { s with runningFill := none, tick := .idle }
    | some (.returned true) => some { s with runningFill := none, tick := .dead .noState }
    | some .failed => some { s with runningFill := none, tick := .dead .fillThread }
    | _ => some { s with tick := .idle }
  | .idle | .dead _ => none

/-- A tick launches a fill or leaves the fills alone. -/
theorem mainNext_fills {s s' : Autofill} {enabled : Bool} (h : s.mainNext enabled = some s') :
    s'.fills = s.fills ∨ s.tick = .launching ∧ s'.fills = s.fills ++ [.launched] := by
  cases htick : s.tick with
  | launching =>
    simp only [mainNext, htick] at h
    obtain rfl := Option.some.inj h
    exact .inr ⟨rfl, rfl⟩
  | seenEmpty =>
    simp only [mainNext, htick] at h
    split at h
    all_goals obtain rfl := Option.some.inj h
    · cases s.dewarEmpty <;> exact .inl rfl
    · exact .inl rfl
  | _ =>
    refine .inl ?_
    simp only [mainNext, htick] at h
    repeat' split at h
    all_goals cases h <;> rfl

/-- One step. -/
def step (s : Autofill) : AutofillLabel → Option Autofill
  | .tick env dewarFilled =>
    match s.tick with
    | .idle =>
      let s := if dewarFilled then { s.logEvent .dewarFilled with dewarEmpty := false } else s
      some { s with tick := .checked env }
    | _ => none
  | .main enabled => s.mainNext enabled
  | .throw => if s.tick.callsRemote then some { s with tick := .dead .remoteCall } else none
  | .fill i => if s.tick.isAlive then s.fills[i]?.bind (s.fillNext i) else none
  | .fail i reached => if s.tick.isAlive then s.fills[i]?.bind (s.fillFail i reached) else none

/-- What a step can do. -/
inductive Steps (s : Autofill) : AutofillLabel → Autofill → Prop
  | tick {env : EnvData} (hidle : s.tick = .idle) :
      Steps s (.tick env false) { s with tick := .checked env }
  | tickFilled {env : EnvData} (hidle : s.tick = .idle) :
      Steps s (.tick env true)
        { s.logEvent .dewarFilled with dewarEmpty := false, tick := .checked env }
  | main {enabled : Bool} {s' : Autofill} (h : s.mainNext enabled = some s') :
      Steps s (.main enabled) s'
  | throw (hremote : s.tick.callsRemote) : Steps s .throw { s with tick := .dead .remoteCall }
  | fill {i : ℕ} {pc : FillPc} {s' : Autofill} (halive : s.tick.isAlive)
      (hi : s.fills[i]? = some pc) (h : s.fillNext i pc = some s') : Steps s (.fill i) s'
  | fail {i : ℕ} {reached : Bool} {pc : FillPc} {s' : Autofill} (halive : s.tick.isAlive)
      (hi : s.fills[i]? = some pc) (h : s.fillFail i reached pc = some s') :
      Steps s (.fail i reached) s'

/-- What a step can do. -/
theorem steps_of_step {s s' : Autofill} {l : AutofillLabel} (h : s.step l = some s') :
    s.Steps l s' := by
  cases l with
  | tick env dewarFilled =>
    simp only [step] at h
    split at h
    · next hidle =>
      obtain rfl := Option.some.inj h
      cases dewarFilled with
      | false => exact .tick hidle
      | true => exact .tickFilled hidle
    · cases h
  | main enabled => exact .main h
  | throw =>
    obtain ⟨hremote, h⟩ := Option.ite_none_right_eq_some.mp h
    obtain rfl := Option.some.inj h
    exact .throw hremote
  | fill i =>
    obtain ⟨halive, h⟩ := Option.ite_none_right_eq_some.mp h
    obtain ⟨pc, hi, h⟩ := Option.bind_eq_some_iff.mp h
    exact .fill halive hi h
  | fail i reached =>
    obtain ⟨halive, h⟩ := Option.ite_none_right_eq_some.mp h
    obtain ⟨pc, hi, h⟩ := Option.bind_eq_some_iff.mp h
    exact .fail halive hi h

end Autofill

/-- A program that has just been started. -/
def autofillSystem (dryrun : Bool) : TransitionSystem Autofill AutofillLabel where
  init := .new dryrun
  step := Autofill.step

end Foxtrot
