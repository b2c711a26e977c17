import Foxtrot.Autofill.Overlap
import Foxtrot.Foundation.Periods

/-!
# What `autofilld` reports

A tick that finds the tank empty logs this unless `logged_tank_empty` is set, which it is then. Only
a tick that finds the tank empty and a fill just done sets it back, and one that finds the tank full
does not. So the tank is reported once in each period in which it is found empty as long as every
such period but the last ends with a tick that finds a fill just done, and none finds one before.

That a dewar is empty is found by the first tick that looks after the end of a fill, unless the
fill ends while a tick is past its look at `fill_just_done` and has not set it back. And an
exception of a fill is thrown by the tick that collects the future, if the function of the thread
has thrown it; what `execute_fill` throws is kept as a value, and becomes another exception when the
future is asked a second time.

`FillReports` is the program with what its ticks have found. In a run in which none of this goes
wrong (`Observant`), all that happens is reported (`reported_of_observant`).

Two invariants are kept beside each other. `Flagged` says what the three flags tell about the fills,
whatever the ticks have found; `Found` says what they tell about what the ticks have found, and
needs `Flagged` to know that a fill that is just done is the newest. Each is kept by every step of a
fill thread, for which only the fill that moves matters, and by every step of `tick`, one lemma for
each place at which a tick looks at something.
-/

namespace Foxtrot

open Periods

/-- The fill has ended with an exception. -/
def FillPc.hasException : FillPc → Bool
  | .returned except => except
  | .failed => true
  | _ => false

/-- The next look at `fill_just_done` is before it is set back. -/
def TickPc.willLook : TickPc → Bool
  | .idle | .checked _ | .seenEmpty _ | .collecting => true
  | _ => false

/-- The last event that the dewar is empty, or has been filled. -/
def lastDewarEvent (events : List EventTypes) : Option EventTypes :=
  (events.filter fun e => e = .dewarEmpty ∨ e = .dewarFilled).getLast?

/-- A tick that has looked at the tank. -/
structure TankLook where
  /-- It has found the tank empty. -/
  empty : Bool
  /-- It has logged this. -/
  logged : Bool
  deriving DecidableEq

/-- The program, with what its ticks have found. -/
structure FillReports where
  logic : Autofill
  looks : List TankLook
  /-- The last tick that has found the tank empty has found that a fill was just done. -/
  foundDone : Bool
  /-- Since the last look at the tank, a fill has ended without an exception, and the dewar has not
  been filled. -/
  due : Bool
  /-- So it was when the tick looked, and the tank was empty. -/
  owed : Bool
  /-- The fills whose exception a tick has thrown. -/
  thrown : List ℕ
  deriving DecidableEq

namespace FillReports

/-- A step of the program to `logic`. -/
def observe (s : FillReports) (logic : Autofill) : AutofillLabel → FillReports
  | .tick _ dewarFilled => { s with logic, due := s.due && !dewarFilled, owed := false }
  | .main _ =>
    match s.logic.tick with
    | .checked env => { s with
        logic
        looks := s.looks ++ [⟨env.tankEmpty,
          logic.events.count .tankEmpty ≠ s.logic.events.count .tankEmpty⟩]
        foundDone := s.foundDone && !env.tankEmpty
        due := false
        owed := env.tankEmpty && s.due }
    | .seenEmpty _ => { s with logic, foundDone := s.logic.fillJustDone }
    | .collecting => { s with
        logic
        thrown := if logic.tick = .dead .fillThread then
          s.thrown ++ s.logic.runningFill.toList else s.thrown }
    | _ => { s with logic }
  | .fill i => { s with logic, due := s.due || s.logic.fills[i]? = some (.cleared false) }
  | .throw | .fail _ _ => { s with logic }

/-- **What happens is reported**: the tank in each maximal period in which it is found empty, once;
the dewar, by the end of the tick that was the first to look after the end of a fill and has found
the tank empty; and an exception of a fill, once and as it is, unless its future is still to be
collected. -/
structure Reported (s : FillReports) : Prop where
  tank : OncePerPeriod TankLook.empty TankLook.logged s.looks
  tankOnly : s.logic.events.count .tankEmpty = (s.looks.filter (·.logged)).length
  dewar : s.logic.tick = .idle → s.owed → lastDewarEvent s.logic.events = some .dewarEmpty
  exceptions : ∀ i pc, s.logic.fills[i]? = some pc → pc.hasException →
    s.thrown.count i = 1 ∨
      s.thrown.count i = 0 ∧ (s.logic.runningFill = some i ∨ s.logic.tick = .assigning i)
  unchanged : s.logic.tick ≠ .dead .noState

/-- A tick finds the tank empty after the last one has done so only if that one has not found a fill
just done; and after the last one has found it full only if the last one that has found it empty, if
any, has found a fill just done. -/
def FindsPeriods (s : FillReports) : AutofillLabel → Prop
  | .main _ =>
    match s.logic.tick with
    | .checked env => env.tankEmpty = true →
      (endsHigh TankLook.empty s.looks = true → s.foundDone = false) ∧
        (endsHigh TankLook.empty s.looks = false → (∃ look ∈ s.looks, look.empty) →
          s.foundDone = true)
    | _ => True
  | _ => True

end FillReports

namespace Autofill

/-- No fill ends without an exception while a tick will set `fill_just_done` back before it
looks. -/
def EndsInTime (s : Autofill) : AutofillLabel → Prop
  | .fill i => s.fills[i]? = some (.cleared false) → s.tick.willLook
  | _ => True

/-- The future that a tick replaces holds no exception, and the one that it collects holds none as a
value. -/
def KeepsExceptions (s : Autofill) : AutofillLabel → Prop
  | .main _ =>
    match s.tick with
    | .assigning _ => ∀ pc ∈ s.runningFill.bind (s.fills[·]?), pc.hasException = false
    | .collecting => s.runningFill.bind (s.fills[·]?) ≠ some (.returned true)
    | _ => True
  | _ => True

end Autofill

/-- **The program observes** what happens: periods end with a fill, fills end in time, and
exceptions are kept. -/
structure Observant (s : FillReports) (l : AutofillLabel) : Prop where
  periods : s.FindsPeriods l
  ends : s.logic.EndsInTime l
  exceptions : s.logic.KeepsExceptions l

instance FillReports.FindsPeriods.decidable (s : FillReports) : ∀ l, Decidable (s.FindsPeriods l)
  | .main _ =>
    match h : s.logic.tick with
    | .checked env => decidable_of_iff (env.tankEmpty = true →
        (endsHigh TankLook.empty s.looks = true → s.foundDone = false) ∧
          (endsHigh TankLook.empty s.looks = false → (∃ look ∈ s.looks, look.empty) →
            s.foundDone = true)) (by simp [FindsPeriods, h])
    | .idle | .seenEmpty _ | .notDone _ | .deciding _ _ | .starting | .flagging | .launching
    | .assigning _ | .resetting | .collecting | .dead _ =>
      decidable_of_iff True (by simp [FindsPeriods, h])
  | .tick _ _ | .throw | .fill _ | .fail _ _ => inferInstanceAs (Decidable True)

instance Autofill.EndsInTime.decidable (s : Autofill) : ∀ l, Decidable (s.EndsInTime l)
  | .fill i => inferInstanceAs (Decidable (s.fills[i]? = some (.cleared false) → s.tick.willLook))
  | .tick _ _ | .main _ | .throw | .fail _ _ => inferInstanceAs (Decidable True)

instance Autofill.KeepsExceptions.decidable (s : Autofill) : ∀ l, Decidable (s.KeepsExceptions l)
  | .main _ =>
    match h : s.tick with
    | .assigning _ => decidable_of_iff
        (∀ pc ∈ s.runningFill.bind (s.fills[·]?), pc.hasException = false)
        (by simp [KeepsExceptions, h])
    | .collecting => decidable_of_iff
        (s.runningFill.bind (s.fills[·]?) ≠ some (.returned true)) (by simp [KeepsExceptions, h])
    | .idle | .checked _ | .seenEmpty _ | .notDone _ | .deciding _ _ | .starting | .flagging
    | .launching | .resetting | .dead _ => decidable_of_iff True (by simp [KeepsExceptions, h])
  | .tick _ _ | .throw | .fill _ | .fail _ _ => inferInstanceAs (Decidable True)

instance (s : FillReports) (l : AutofillLabel) : Decidable (Observant s l) :=
  decidable_of_iff (s.FindsPeriods l ∧ s.logic.EndsInTime l ∧ s.logic.KeepsExceptions l)
    ⟨fun h => ⟨h.1, h.2.1, h.2.2⟩, fun h => ⟨h.periods, h.ends, h.exceptions⟩⟩

/-- A program that has just been started. -/
def fillReports (dryrun : Bool) : TransitionSystem FillReports AutofillLabel where
  init := ⟨.new dryrun, [], false, false, false, []⟩
  step s l := (s.logic.step l).map fun logic => s.observe logic l

/-! ### The fills -/

namespace TickPc

/-- The tick has found the tank empty, and `logged_tank_empty` has not been set back since. -/
def holdsLatch : TickPc → Bool
  | .seenEmpty _ | .notDone _ | .deciding _ true | .starting | .flagging | .launching => true
  | _ => false

end TickPc

/-- The fill is past the point where it clears `fill_in_progress`. -/
def FillPc.hasCleared : FillPc → Bool
  | .cleared _ | .marked _ | .returned _ => true
  | _ => false

namespace Autofill

variable {s s' : Autofill} {l : AutofillLabel} {i : ℕ} {pc pc' : FillPc}

/-- **What the flags say of the fills**: `fill_in_progress` that one is in progress,
`fill_just_done` that all are over, and `logged_tank_empty`, where it is not set, that all have
cleared `fill_in_progress`. All but the one whose future is kept have returned without an
exception. -/
structure Flagged (s : Autofill) : Prop where
  progress : s.fillInProgress = true → ∃ pc ∈ s.fills, pc.inProgress = true
  future : s.tick ≠ .dead .fillThread → ∀ i pc, s.fills[i]? = some pc →
    s.runningFill = some i ∨ s.tick = .assigning i ∨ pc = .returned false
  done : s.fillJustDone = true → s.tick.willLook → ∀ pc ∈ s.fills, pc.isOver = true
  latch : s.loggedTankEmpty = false → ∀ pc ∈ s.fills, pc.hasCleared = true
  latched : s.tick.holdsLatch → s.loggedTankEmpty = true
  unchanged : s.tick ≠ .dead .noState

/-- A fill that has cleared its flag is no longer in progress. -/
private theorem inProgress_of_hasCleared (h : pc.hasCleared = true) : pc.inProgress = false := by
  cases pc <;> first | rfl | cases h

private theorem hasCleared_of_isOver (h : pc.isOver = true) : pc.hasCleared = true := by
  cases pc <;> first | rfl | cases h

/-- While `logged_tank_empty` is not set, no fill is in progress. -/
theorem Flagged.not_inProgress (hs : s.Flagged) (h : s.loggedTankEmpty = false) :
    s.fillInProgress = false := by
  rw [← Bool.not_eq_true]
  intro hprogress
  obtain ⟨pc, hpc, hin⟩ := hs.progress hprogress
  rw [inProgress_of_hasCleared (hs.latch h pc hpc)] at hin
  cases hin

/-- What a fill leaves alone. -/
structure FillMoves (s s' : Autofill) (i : ℕ) (pc pc' : FillPc) : Prop where
  fills : s'.fills = s.fills.set i pc'
  tick : s'.tick = s.tick
  runningFill : s'.runningFill = s.runningFill
  loggedTankEmpty : s'.loggedTankEmpty = s.loggedTankEmpty
  dewarEmpty : s'.dewarEmpty = s.dewarEmpty
  events : s'.events = s.events ∨ s'.events = s.events ++ [.fillComplete]
  progress : s'.fillInProgress = true → pc'.inProgress = true ∨
    s.fillInProgress = true ∧ pc.inProgress = false
  done : s'.fillJustDone = s.fillJustDone ∨ s'.fillJustDone = true ∧ pc'.isOver = true
  marks : pc = .cleared false → s'.fillJustDone = true
  running : pc ≠ .returned false
  isOver : pc.isOver = true → pc'.isOver = true
  cleared : pc.hasCleared = true → pc'.hasCleared = true

private theorem fillNext_moves (h : s.fillNext i pc = some s') :
    ∃ pc', FillMoves s s' i pc pc' := by
  cases pc with
  | started =>
    obtain rfl := Option.some.inj h
    rw [setRelay_eq]
    exact ⟨.opened, rfl, rfl, rfl, rfl, rfl, .inl rfl, fun _ => .inl rfl, .inl rfl, nofun, nofun,
      nofun, nofun⟩
  | opened =>
    obtain rfl := Option.some.inj h
    rw [setRelay_eq]
    exact ⟨.filled false, rfl, rfl, rfl, rfl, rfl, .inl rfl, fun _ => .inl rfl, .inl rfl, nofun,
      nofun, nofun, nofun⟩
  | launched =>
    obtain rfl := Option.some.inj h
    exact ⟨.started, rfl, rfl, rfl, rfl, rfl, .inl rfl, fun _ => .inl rfl, .inl rfl, nofun, nofun,
      nofun, nofun⟩
  | filled e =>
    obtain rfl := Option.some.inj h
    exact ⟨.logged e, rfl, rfl, rfl, rfl, rfl, .inr rfl, fun _ => .inl rfl, .inl rfl, nofun, nofun,
      nofun, nofun⟩
  | logged e =>
    obtain rfl := Option.some.inj h
    exact ⟨.unflagged e, rfl, rfl, rfl, rfl, rfl, .inl rfl, fun _ => .inl rfl, .inl rfl, nofun,
      nofun, nofun, nofun⟩
  | unflagged e =>
    obtain rfl := Option.some.inj h
    exact ⟨.cleared e, rfl, rfl, rfl, rfl, rfl, .inl rfl, nofun, .inl rfl, nofun, nofun, nofun,
      fun _ => rfl⟩
  -- this step sets `fill_just_done`
  | cleared e =>
    obtain rfl := Option.some.inj h
    exact ⟨.marked e, rfl, rfl, rfl, rfl, rfl, .inl rfl, fun h => .inr ⟨h, rfl⟩, .inr ⟨rfl, rfl⟩,
      fun _ => rfl, nofun, fun _ => rfl, fun _ => rfl⟩
  | marked e =>
    obtain rfl := Option.some.inj h
    exact ⟨.returned e, rfl, rfl, rfl, rfl, rfl, .inl rfl, fun h => .inr ⟨h, rfl⟩, .inl rfl, nofun,
      nofun, fun _ => rfl, fun _ => rfl⟩
  | returned | failed => cases h

private theorem fillFail_moves {reached : Bool} (h : s.fillFail i reached pc = some s') :
    ∃ pc', FillMoves s s' i pc pc' := by
  cases pc with
  | started | opened =>
    obtain ⟨-, h⟩ := Option.ite_none_left_eq_some.mp h
    obtain rfl := Option.some.inj h
    rw [setRelay_eq]
    cases reached <;>
      exact ⟨.filled true, rfl, rfl, rfl, rfl, rfl, .inl rfl, fun _ => .inl rfl, .inl rfl, nofun,
        nofun, nofun, nofun⟩
  | filled e =>
    obtain rfl := Option.some.inj h
    cases reached
    · exact ⟨.failed, rfl, rfl, rfl, rfl, rfl, .inl rfl, fun _ => .inl rfl, .inl rfl, nofun, nofun,
        nofun, nofun⟩
    · exact ⟨.failed, rfl, rfl, rfl, rfl, rfl, .inr rfl, fun _ => .inl rfl, .inl rfl, nofun, nofun,
        nofun, nofun⟩
  | logged e =>
    obtain rfl := Option.some.inj h
    cases reached <;>
      exact ⟨.failed, rfl, rfl, rfl, rfl, rfl, .inl rfl, fun _ => .inl rfl, .inl rfl, nofun, nofun,
        nofun, nofun⟩
  | _ => cases h

/-- The item that is set is there. -/
theorem FillMoves.getElem? (hmoves : FillMoves s s' i pc pc') (hi : s.fills[i]? = some pc) :
    s'.fills[i]? = some pc' := by
  obtain ⟨hlt, -⟩ := List.getElem?_eq_some_iff.mp hi
  rw [hmoves.fills, List.getElem?_set_self hlt]

private theorem FillMoves.getElem?_of_ne (hmoves : FillMoves s s' i pc pc') {j : ℕ} (hne : i ≠ j) :
    s'.fills[j]? = s.fills[j]? := by
  rw [hmoves.fills, List.getElem?_set_ne hne]

/-- What holds of the fill that moves and of all others holds of all. -/
theorem FillMoves.forall_mem (hmoves : FillMoves s s' i pc pc') {P : FillPc → Prop} (hpc : P pc')
    (hrest : ∀ j pc, i ≠ j → s.fills[j]? = some pc → P pc) : ∀ pc ∈ s'.fills, P pc := by
  intro pc₁ hmem
  rw [hmoves.fills] at hmem
  obtain ⟨j, hj⟩ := List.mem_iff_getElem?.mp hmem
  by_cases hij : i = j
  · subst hij
    obtain ⟨hlt, -⟩ := List.getElem?_eq_some_iff.mp hj
    rw [List.length_set] at hlt
    rw [List.getElem?_set_self hlt] at hj
    obtain rfl := Option.some.inj hj
    exact hpc
  · rw [List.getElem?_set_ne hij] at hj
    exact hrest j pc₁ hij hj

/-- A fill that moves keeps the flags in accord. -/
private theorem Flagged.fillMoves (hs : s.Flagged) (halive : s.tick.isAlive)
    (hi : s.fills[i]? = some pc)
    (hmoves : FillMoves s s' i pc pc') : s'.Flagged := by
  have hnotDead : s.tick ≠ .dead .fillThread := by
    intro htick
    rw [htick] at halive
    cases halive
  have hmem := List.mem_of_getElem? hi
  -- a fill that still runs is the one that is held, or is about to be
  have hself : s.runningFill = some i ∨ s.tick = .assigning i :=
    (hs.future hnotDead i pc hi).imp_right fun h => h.resolve_right hmoves.running
  refine ⟨fun hprogress => ?_, fun _ j pc₁ hj => ?_, fun hdone hlook => ?_, fun hlatch => ?_, ?_,
    ?_⟩
  · obtain hin | ⟨hprogress, hnot⟩ := hmoves.progress hprogress
    · exact ⟨pc', List.mem_of_getElem? (hmoves.getElem? hi), hin⟩
    · obtain ⟨pc₁, hpc₁, hin⟩ := hs.progress hprogress
      obtain ⟨j, hj⟩ := List.mem_iff_getElem?.mp hpc₁
      have hne : i ≠ j := by
        rintro rfl
        obtain rfl := Option.some.inj (hi.symm.trans hj)
        rw [hnot] at hin
        cases hin
      exact ⟨pc₁, List.mem_of_getElem? ((hmoves.getElem?_of_ne hne).trans hj), hin⟩
  · rw [hmoves.runningFill, hmoves.tick]
    by_cases hij : i = j
    · subst hij
      exact hself.imp_right Or.inl
    · rw [hmoves.getElem?_of_ne hij] at hj
      exact hs.future hnotDead j pc₁ hj
  · rw [hmoves.tick] at hlook
    obtain hsame | ⟨-, hover⟩ := hmoves.done
    · rw [hsame] at hdone
      have hall := hs.done hdone hlook
      exact hmoves.forall_mem (P := fun pc => pc.isOver = true) (hmoves.isOver (hall pc hmem))
        fun j pc₁ _ hj => hall pc₁ (List.mem_of_getElem? hj)
    · -- all other fills have returned before
      have hrunning : s.runningFill = some i := hself.resolve_right fun htick => by
        rw [htick] at hlook
        cases hlook
      refine hmoves.forall_mem (P := fun pc => pc.isOver = true) hover fun j pc₁ hij hj => ?_
      obtain hj' | htick | rfl := hs.future hnotDead j pc₁ hj
      · exact absurd (Option.some.inj (hrunning.symm.trans hj')) hij
      · rw [htick] at hlook
        cases hlook
      · rfl
  · rw [hmoves.loggedTankEmpty] at hlatch
    have hall := hs.latch hlatch
    exact hmoves.forall_mem (P := fun pc => pc.hasCleared = true) (hmoves.cleared (hall pc hmem))
      fun j pc₁ _ hj => hall pc₁ (List.mem_of_getElem? hj)
  · rw [hmoves.tick, hmoves.loggedTankEmpty]
    exact hs.latched
  · rw [hmoves.tick]
    exact hs.unchanged

/-- A step of `tick` that leaves the fills and their flags alone. -/
theorem Flagged.tickStep (hs : s.Flagged) (hfills : s'.fills = s.fills)
    (hprogress : s'.fillInProgress = s.fillInProgress) (hfuture : s'.runningFill = s.runningFill)
    (hnot : ∀ n, s.tick ≠ .assigning n) (hnotDead : s.tick ≠ .dead .fillThread)
    (hdone : s'.fillJustDone = true → s'.tick.willLook →
      s.fillJustDone = true ∧ s.tick.willLook)
    (hlatch : s'.loggedTankEmpty = false → s.loggedTankEmpty = false ∨
      ∀ pc ∈ s.fills, pc.hasCleared = true)
    (hlatched : s'.tick.holdsLatch → s'.loggedTankEmpty = true)
    (hunchanged : s'.tick ≠ .dead .noState) : s'.Flagged := by
  refine ⟨?_, fun _ j pc hj => ?_, fun hd hlook => ?_, fun hl => ?_, hlatched, hunchanged⟩
  · rw [hprogress, hfills]
    exact hs.progress
  · rw [hfills] at hj
    rw [hfuture]
    exact (hs.future hnotDead j pc hj).imp_right fun h => .inr (h.resolve_left (hnot j))
  · rw [hfills]
    obtain ⟨hd, hlook⟩ := hdone hd hlook
    exact hs.done hd hlook
  · rw [hfills]
    exact (hlatch hl).elim hs.latch id

/-- A tick that finds the tank empty has `logged_tank_empty` set then. -/
theorem Flagged.latch_of_not_logs (hs : s.Flagged)
    (h : ¬ (!s.fillInProgress && !s.loggedTankEmpty) = true) : s.loggedTankEmpty = true := by
  by_contra hlatch
  rw [Bool.not_eq_true] at hlatch
  rw [hs.not_inProgress hlatch, hlatch] at h
  exact h rfl

/-- A fill is launched. -/
theorem Flagged.launch (hs : s.Flagged) (htick : s.tick = .launching) :
    ({ s with fills := s.fills ++ [.launched], tick := .assigning s.fills.length } :
      Autofill).Flagged := by
  have hlatch : s.loggedTankEmpty = true := hs.latched (by rw [htick]; rfl)
  refine ⟨fun hprogress => ?_, fun _ i pc hi => ?_, nofun, fun h => ?_, nofun, nofun⟩
  · obtain ⟨pc, hpc, hin⟩ := hs.progress hprogress
    exact ⟨pc, List.mem_append_left _ hpc, hin⟩
  · change (s.fills ++ [.launched])[i]? = some pc at hi
    obtain hlt | hge := Nat.lt_or_ge i s.fills.length
    · rw [List.getElem?_append_left hlt] at hi
      obtain hfuture | hassigning | hreturned := hs.future (by rw [htick]; nofun) i pc hi
      · exact .inl hfuture
      · rw [htick] at hassigning
        cases hassigning
      · exact .inr (.inr hreturned)
    · obtain ⟨hlt, -⟩ := List.getElem?_eq_some_iff.mp hi
      rw [List.length_append, List.length_singleton] at hlt
      obtain rfl : i = s.fills.length := by omega
      exact .inr (.inl rfl)
  · exact absurd (hlatch.symm.trans h) nofun

/-- The future of a fill is assigned, after that of the one before has returned nothing. -/
theorem Flagged.assign (hs : s.Flagged) {n : ℕ} (htick : s.tick = .assigning n)
    (hended : ∀ pc ∈ s.runningFill.bind (s.fills[·]?), pc = .returned false) :
    ({ s with runningFill := some n, tick := .resetting } : Autofill).Flagged := by
  refine ⟨hs.progress, fun _ i pc hi => ?_, nofun, hs.latch, nofun, nofun⟩
  obtain hfuture | hassigning | hreturned := hs.future (by rw [htick]; nofun) i pc hi
  · refine .inr (.inr (hended pc ?_))
    rw [hfuture]
    exact hi
  · rw [htick] at hassigning
    obtain rfl := TickPc.assigning.inj hassigning
    exact .inl rfl
  · exact .inr (.inr hreturned)

/-- A future without an exception is collected. -/
theorem Flagged.collect (hs : s.Flagged) (htick : s.tick = .collecting)
    (hended : s.runningFill.bind (s.fills[·]?) = some (.returned false)) :
    ({ s with runningFill := none, tick := .idle } : Autofill).Flagged := by
  refine ⟨hs.progress, fun _ i pc hi => .inr (.inr ?_), fun hdone _ => ?_, hs.latch, nofun, nofun⟩
  · obtain hfuture | hassigning | hreturned := hs.future (by rw [htick]; nofun) i pc hi
    · rw [hfuture] at hended
      exact Option.some.inj (hi.symm.trans hended)
    · rw [htick] at hassigning
      cases hassigning
    · exact hreturned
  · exact hs.done hdone (by rw [htick]; rfl)

/-- A step of the main thread keeps the flags in accord. -/
theorem Flagged.mainNext (hs : s.Flagged) {enabled : Bool}
    (hl : KeepsExceptions s (.main enabled)) (h : s.mainNext enabled = some s') : s'.Flagged := by
  unfold Autofill.mainNext at h
  cases htick : s.tick with
  | idle | dead => simp [htick] at h
  | checked env =>
    simp only [htick] at h
    split at h
    · split at h
      · obtain rfl := Option.some.inj h
        exact hs.tickStep rfl rfl rfl (by simp [htick]) (by simp [htick])
          (fun hdone _ => ⟨hdone, by rw [htick]; rfl⟩) nofun (fun _ => rfl) nofun
      · next hlogs =>
        obtain rfl := Option.some.inj h
        exact hs.tickStep rfl rfl rfl (by simp [htick]) (by simp [htick])
          (fun hdone _ => ⟨hdone, by rw [htick]; rfl⟩) .inl (fun _ => hs.latch_of_not_logs hlogs)
          nofun
    · obtain rfl := Option.some.inj h
      exact hs.tickStep rfl rfl rfl (by simp [htick]) (by simp [htick]) nofun .inl nofun nofun
  | seenEmpty pumpdown =>
    -- the latch has been set by this tick, or was set when the tank was found empty before
    have hlatch : s.loggedTankEmpty = true := hs.latched (by rw [htick]; rfl)
    simp only [htick] at h
    split at h
    · next hdone =>
      -- all fills are over
      have hall : ∀ pc ∈ s.fills, pc.hasCleared = true :=
        fun pc hpc => hasCleared_of_isOver (hs.done hdone (by rw [htick]; rfl) pc hpc)
      obtain rfl := Option.some.inj h
      cases s.dewarEmpty
      all_goals
        exact hs.tickStep rfl rfl rfl (by simp [htick]) (by simp [htick]) nofun
          (fun _ => .inr hall) nofun nofun
    · obtain rfl := Option.some.inj h
      exact hs.tickStep rfl rfl rfl (by simp [htick]) (by simp [htick]) nofun .inl
        (fun _ => hlatch) nofun
  | notDone pumpdown =>
    have hlatch : s.loggedTankEmpty = true := hs.latched (by rw [htick]; rfl)
    simp only [htick] at h
    obtain rfl := Option.some.inj h
    exact hs.tickStep rfl rfl rfl (by simp [htick]) (by simp [htick]) nofun .inl
      (fun _ => hlatch) nofun
  | deciding pumpdown fillNeeded =>
    simp only [htick] at h
    split at h
    · next hfill =>
      have hneeded : fillNeeded = true := by
        simp only [Bool.and_eq_true] at hfill
        exact hfill.1.1.1
      have hlatch : s.loggedTankEmpty = true := hs.latched (by rw [htick, hneeded]; rfl)
      obtain rfl := Option.some.inj h
      exact hs.tickStep rfl rfl rfl (by simp [htick]) (by simp [htick]) nofun .inl
        (fun _ => hlatch) nofun
    · obtain rfl := Option.some.inj h
      exact hs.tickStep rfl rfl rfl (by simp [htick]) (by simp [htick]) nofun .inl nofun nofun
  | starting =>
    have hlatch : s.loggedTankEmpty = true := hs.latched (by rw [htick]; rfl)
    simp only [htick] at h
    split at h
    all_goals
      obtain rfl := Option.some.inj h
      exact hs.tickStep rfl rfl rfl (by simp [htick]) (by simp [htick]) nofun .inl
        (fun _ => hlatch) nofun
  | flagging =>
    have hlatch : s.loggedTankEmpty = true := hs.latched (by rw [htick]; rfl)
    simp only [htick] at h
    obtain rfl := Option.some.inj h
    exact hs.tickStep rfl rfl rfl (by simp [htick]) (by simp [htick]) nofun .inl
      (fun _ => hlatch) nofun
  | launching =>
    simp only [htick] at h
    obtain rfl := Option.some.inj h
    exact hs.launch htick
  | assigning n =>
    simp only [KeepsExceptions, htick] at hl
    simp only [htick] at h
    split at h
    · next hnone =>
      obtain rfl := Option.some.inj h
      exact hs.assign htick (by rw [hnone]; nofun)
    · next except hreturned =>
      obtain rfl := Option.some.inj h
      -- the future is replaced only when its fill has returned, here without an exception
      refine hs.assign htick fun pc hpc => ?_
      obtain rfl := Option.some.inj (hreturned.symm.trans hpc)
      obtain rfl : except = false := hl _ hpc
      rfl
    · next hfailed => exact absurd (hl _ hfailed) nofun
    · cases h
  | resetting =>
    simp only [htick] at h
    obtain rfl := Option.some.inj h
    exact hs.tickStep rfl rfl rfl (by simp [htick]) (by simp [htick]) nofun .inl nofun nofun
  | collecting =>
    simp only [KeepsExceptions, htick] at hl
    simp only [htick] at h
    split at h
    · next hreturned =>
      obtain rfl := Option.some.inj h
      exact hs.collect htick hreturned
    · next hreturned => exact absurd hreturned hl
    · obtain rfl := Option.some.inj h
      -- the program is over
      exact ⟨hs.progress, fun hne => absurd rfl hne, nofun, hs.latch, nofun, nofun⟩
    · obtain rfl := Option.some.inj h
      exact hs.tickStep rfl rfl rfl (by simp [htick]) (by simp [htick])
        (fun hdone _ => ⟨hdone, by rw [htick]; rfl⟩) .inl nofun nofun

/-- **A step that keeps its exceptions** keeps the flags in accord. -/
theorem Flagged.step (hs : s.Flagged) (hl : KeepsExceptions s l) (h : s.step l = some s') :
    s'.Flagged := by
  cases steps_of_step h with
  | tick htick | tickFilled htick =>
    exact hs.tickStep rfl rfl rfl (by simp [htick]) (by simp [htick])
      (fun hdone _ => ⟨hdone, by rw [htick]; rfl⟩) .inl nofun nofun
  | main h => exact hs.mainNext hl h
  | throw hremote =>
    refine hs.tickStep rfl rfl rfl (fun n htick => ?_) (fun htick => ?_) nofun .inl nofun nofun
    · rw [htick] at hremote
      cases hremote
    · rw [htick] at hremote
      cases hremote
  | fill halive hi h =>
    obtain ⟨pc', hmoves⟩ := fillNext_moves h
    exact hs.fillMoves halive hi hmoves
  | fail halive hi h =>
    obtain ⟨pc', hmoves⟩ := fillFail_moves h
    exact hs.fillMoves halive hi hmoves

private theorem flagged_init (dryrun : Bool) : (new dryrun).Flagged := by
  refine ⟨nofun, fun _ _ _ h => ?_, nofun, fun _ _ h => ?_, nofun, nofun⟩
  · cases h
  · cases h

end Autofill

/-! ### The ticks

A tick looks at the tank, at `fill_just_done` and at the future, in this order, and the fill threads
go on between the looks. `due` and `owed` say what has happened and is to be reported by the end of
this tick or the next one. -/

/-- The next event, if it is one of the dewar, or else the last one before. -/
private theorem lastDewarEvent_concat (events : List EventTypes) (e : EventTypes) :
    lastDewarEvent (events ++ [e]) =
      if e = .dewarEmpty ∨ e = .dewarFilled then some e else lastDewarEvent events := by
  rw [lastDewarEvent, lastDewarEvent, List.filter_append]
  split
  · next h => simp [h]
  · next h => simp [h]

/-- The reports of an empty tank are counted one by one. -/
private theorem count_tankEmpty_concat (events : List EventTypes) (e : EventTypes) :
    (events ++ [e]).count .tankEmpty =
      events.count .tankEmpty + if e = .tankEmpty then 1 else 0 := by
  rw [List.count_append, List.count_singleton]
  simp [beq_iff_eq]

namespace FillReports

variable {s s' : FillReports} {l : AutofillLabel}

/-- **What the flags say of what the ticks have found**: `logged_tank_empty` that one has found the
tank empty, and the last of these no fill just done; `dewar_empty` that this is the last event of
the dewar. An end of a fill that is still to be found by a tick is in `fill_just_done`. -/
structure Found (s : FillReports) : Prop extends s.logic.Flagged where
  edges : MarksEdges TankLook.empty TankLook.logged s.looks
  latch_iff : s.logic.loggedTankEmpty = true ↔
    (∃ look ∈ s.looks, look.empty = true) ∧ s.foundDone = false
  tankOnly : s.logic.events.count .tankEmpty = (s.looks.filter (·.logged)).length
  dewar : s.logic.dewarEmpty = true → lastDewarEvent s.logic.events = some .dewarEmpty
  due : s.logic.tick.isAlive → s.due = true →
    s.logic.dewarEmpty = true ∨ s.logic.fillJustDone = true ∧ s.logic.tick.willLook
  owed : s.logic.tick.isAlive → s.owed = true → s.logic.dewarEmpty = true ∨
    s.logic.fillJustDone = true ∧ ∃ pumpdown, s.logic.tick = .seenEmpty pumpdown
  pending : s.logic.tick ≠ .dead .fillThread → s.thrown = []
  collected : s.logic.tick = .dead .fillThread → ∃ j, s.thrown = [j] ∧
    ∀ i pc, s.logic.fills[i]? = some pc → i = j ∨ pc = .returned false

/-- The event that is logged is none of the tank and of the dewar. -/
def LogsOther (events events' : List EventTypes) : Prop :=
  events' = events ∨ ∃ e, events' = events ++ [e] ∧ e ≠ .tankEmpty ∧ e ≠ .dewarEmpty ∧
    e ≠ .dewarFilled

/-- Other events do not count. -/
theorem LogsOther.count {events events' : List EventTypes} (h : LogsOther events events') :
    events'.count .tankEmpty = events.count .tankEmpty := by
  obtain rfl | ⟨e, rfl, he, -⟩ := h
  · rfl
  · rw [count_tankEmpty_concat, if_neg he, Nat.add_zero]

private theorem LogsOther.lastDewarEvent {events events' : List EventTypes}
    (h : LogsOther events events') : lastDewarEvent events' = Foxtrot.lastDewarEvent events := by
  obtain rfl | ⟨e, rfl, -, hempty, hfilled⟩ := h
  · rfl
  · rw [lastDewarEvent_concat, if_neg (by simp [hempty, hfilled])]

private theorem Found.fillMoves (hs : s.Found) {logic : Autofill} {i : ℕ} {pc pc' : FillPc}
    (hflagged : logic.Flagged) (halive : s.logic.tick.isAlive)
    (hmoves : Autofill.FillMoves s.logic logic i pc pc') {due : Bool}
    (hdue : due = true → s.due = true ∨ logic.fillJustDone = true ∧ s.logic.tick.willLook) :
    ({ s with logic, due } : FillReports).Found := by
  have hother : LogsOther s.logic.events logic.events :=
    hmoves.events.imp_right fun h => ⟨.fillComplete, h, nofun, nofun, nofun⟩
  have hdone : s.logic.fillJustDone = true → logic.fillJustDone = true :=
    fun h => hmoves.done.elim (fun heq => heq.trans h) And.left
  have hnotDead : logic.tick ≠ .dead .fillThread := by
    intro htick
    rw [← hmoves.tick, htick] at halive
    cases halive
  refine ⟨hflagged, hs.edges, ?_, ?_, ?_, fun _ h => ?_, fun _ h => ?_, fun _ => ?_,
    fun h => absurd h hnotDead⟩
  · rw [hmoves.loggedTankEmpty]
    exact hs.latch_iff
  · rw [hother.count]
    exact hs.tankOnly
  · rw [hmoves.dewarEmpty, hother.lastDewarEvent]
    exact hs.dewar
  · rw [hmoves.dewarEmpty, hmoves.tick]
    obtain hold | hnew := hdue h
    · exact (hs.due halive hold).imp_right fun h => ⟨hdone h.1, h.2⟩
    · exact .inr hnew
  · rw [hmoves.dewarEmpty, hmoves.tick]
    exact (hs.owed halive h).imp_right fun h => ⟨hdone h.1, h.2⟩
  · exact hs.pending (hmoves.tick ▸ hnotDead)

/-- A step of `tick` that finds nothing. -/
theorem Found.tickStep (hs : s.Found) {logic : Autofill} (hflagged : logic.Flagged)
    (hlatch : logic.loggedTankEmpty = s.logic.loggedTankEmpty)
    (hdewar : logic.dewarEmpty = s.logic.dewarEmpty)
    (hevents : LogsOther s.logic.events logic.events) (halive : s.logic.tick.isAlive)
    (hlook : s.logic.tick.willLook = false ∨ logic.tick.willLook = true ∧
      logic.fillJustDone = s.logic.fillJustDone)
    (hseen : ∀ pumpdown, s.logic.tick ≠ .seenEmpty pumpdown)
    (hdead : logic.tick ≠ .dead .fillThread) : ({ s with logic } : FillReports).Found := by
  refine ⟨hflagged, hs.edges, ?_, ?_, ?_, fun _ h => ?_, fun _ h => ?_, fun _ => ?_,
    fun h => absurd h hdead⟩
  · rw [hlatch]
    exact hs.latch_iff
  · rw [hevents.count]
    exact hs.tankOnly
  · rw [hdewar, hevents.lastDewarEvent]
    exact hs.dewar
  · rw [hdewar]
    obtain hempty | ⟨hdone, hwill⟩ := hs.due halive h
    · exact .inl hempty
    · -- what is due stays due, since `tick` is still to look
      obtain hnot | ⟨hwill', hsame⟩ := hlook
      · rw [hnot] at hwill
        cases hwill
      · exact .inr ⟨hsame.trans hdone, hwill'⟩
  · rw [hdewar]
    refine .inl ((hs.owed halive h).resolve_right ?_)
    rintro ⟨-, pumpdown, htick⟩
    exact hseen pumpdown htick
  · refine hs.pending fun htick => ?_
    rw [htick] at halive
    cases halive

/-- **A tick looks at the tank.** -/
theorem Found.look (hs : s.Found) {env : EnvData} (htick : s.logic.tick = .checked env)
    {enabled : Bool} (hl : s.FindsPeriods (.main enabled)) {logic : Autofill}
    (hflagged : logic.Flagged) (h : s.logic.mainNext enabled = some logic) :
    (s.observe logic (.main enabled)).Found := by
  simp only [FindsPeriods, htick] at hl
  unfold Autofill.mainNext at h
  simp only [htick] at h
  simp only [observe, htick]
  have hpending : s.thrown = [] := hs.pending (by rw [htick]; nofun)
  have hdue : s.due = true → s.logic.dewarEmpty = true ∨ s.logic.fillJustDone = true :=
    fun h => (hs.due (by rw [htick]; rfl) h).imp_right And.left
  cases hempty : env.tankEmpty with
  | false =>
    rw [hempty, if_neg Bool.false_ne_true] at h
    obtain rfl := Option.some.inj h
    refine ⟨hflagged, hs.edges.concat ?_, ?_, ?_, hs.dewar, nofun, nofun, fun _ => hpending, nofun⟩
    · simp
    · simpa using hs.latch_iff
    · simpa using hs.tankOnly
  | true =>
    obtain ⟨hagain, hnew⟩ := hl hempty
    -- the latch is set exactly if the last look has found the tank empty
    have hlatch : s.logic.loggedTankEmpty = endsHigh TankLook.empty s.looks := by
      rw [Bool.eq_iff_iff, hs.latch_iff]
      refine ⟨fun ⟨hlook, hfound⟩ => ?_, fun h => ⟨exists_of_endsHigh h, hagain h⟩⟩
      by_contra hends
      rw [hnew (by simpa using hends) hlook] at hfound
      cases hfound
    -- so an event is logged for the first of the looks in a row that find it empty
    rw [hempty, if_pos rfl] at h
    split at h
    · next hlogs =>
      have hnot : s.logic.loggedTankEmpty = false := by
        simp only [Bool.and_eq_true, Bool.not_eq_true'] at hlogs
        exact hlogs.2
      obtain rfl := Option.some.inj h
      have hcount : (s.logic.logEvent .tankEmpty).events.count .tankEmpty =
          s.logic.events.count .tankEmpty + 1 := count_tankEmpty_concat _ _
      refine ⟨hflagged, hs.edges.concat ?_, ?_, ?_, ?_, nofun, fun _ h => ?_, fun _ => hpending,
        nofun⟩
      · rw [← hlatch, hnot]
        simp [hcount]
      · simp
      · rw [List.filter_append, List.length_append, ← hs.tankOnly]
        simp [hcount]
      · exact fun h => (lastDewarEvent_concat _ _).trans (hs.dewar h)
      · exact (hdue h).imp_right fun hdone => ⟨hdone, _, rfl⟩
    · next hlogs =>
      have hset := hs.latch_of_not_logs hlogs
      obtain rfl := Option.some.inj h
      refine ⟨hflagged, hs.edges.concat ?_, ?_, ?_, hs.dewar, nofun, fun _ h => ?_,
        fun _ => hpending, nofun⟩
      · rw [← hlatch, hset]
        simp
      · simp [hset]
      · simpa using hs.tankOnly
      · exact (hdue h).imp_right fun hdone => ⟨hdone, _, rfl⟩

/-- **A tick that has found the tank empty looks at `fill_just_done`.** -/
theorem Found.lookDone (hs : s.Found) {pumpdown : Bool} (htick : s.logic.tick = .seenEmpty pumpdown)
    {enabled : Bool} {logic : Autofill} (hflagged : logic.Flagged)
    (h : s.logic.mainNext enabled = some logic) :
    (s.observe logic (.main enabled)).Found := by
  unfold Autofill.mainNext at h
  simp only [htick] at h
  simp only [observe, htick]
  have hpending : s.thrown = [] := hs.pending (by rw [htick]; nofun)
  have hlook := (hs.latch_iff.mp (hs.latched (by rw [htick]; rfl))).1
  split at h
  · next hdone =>
    obtain rfl := Option.some.inj h
    -- `dewar empty` is the last of its events, by this tick or an earlier one
    have hevents : lastDewarEvent (if s.logic.dewarEmpty then s.logic
        else s.logic.logEvent .dewarEmpty).events = some .dewarEmpty := by
      cases hempty : s.logic.dewarEmpty with
      | true => exact hs.dewar hempty
      | false => exact lastDewarEvent_concat _ _
    have hcount : (if s.logic.dewarEmpty then s.logic
        else s.logic.logEvent .dewarEmpty).events.count .tankEmpty =
          s.logic.events.count .tankEmpty := by
      cases s.logic.dewarEmpty with
      | true => rfl
      | false => exact count_tankEmpty_concat _ _
    refine ⟨hflagged, hs.edges, ?_, ?_, fun _ => hevents, fun _ _ => .inl rfl, fun _ _ => .inl rfl,
      fun _ => hpending, nofun⟩
    · simp [hdone]
    · exact hcount.trans hs.tankOnly
  · next hdone =>
    rw [Bool.not_eq_true] at hdone
    obtain rfl := Option.some.inj h
    refine ⟨hflagged, hs.edges, ?_, hs.tankOnly, hs.dewar, fun _ h => ?_, fun _ h => ?_,
      fun _ => hpending, nofun⟩
    · have hlatch := hs.latched (by rw [htick]; rfl)
      simpa [hdone, hlatch] using hlook
    · -- nothing is done, so nothing is due to this tick
      refine .inl ((hs.due (by rw [htick]; rfl) h).resolve_right ?_)
      rw [hdone]
      exact fun h => Bool.false_ne_true h.1
    · refine .inl ((hs.owed (by rw [htick]; rfl) h).resolve_right ?_)
      rw [hdone]
      exact fun h => Bool.false_ne_true h.1

/-- **A tick collects a future.** -/
theorem Found.lookAtFuture (hs : s.Found) (htick : s.logic.tick = .collecting) {enabled : Bool}
    (hl : s.logic.KeepsExceptions (.main enabled)) {logic : Autofill} (hflagged : logic.Flagged)
    (h : s.logic.mainNext enabled = some logic) :
    (s.observe logic (.main enabled)).Found := by
  simp only [Autofill.KeepsExceptions, htick] at hl
  unfold Autofill.mainNext at h
  simp only [htick] at h
  simp only [observe, htick]
  have hpending : s.thrown = [] := hs.pending (by rw [htick]; nofun)
  have hother : LogsOther s.logic.events s.logic.events := .inl rfl
  split at h
  · obtain rfl := Option.some.inj h
    exact hs.tickStep hflagged rfl rfl hother (by rw [htick]; rfl) (.inr ⟨rfl, rfl⟩)
      (by simp [htick]) nofun
  · next hreturned => exact absurd hreturned hl
  · next hfailed =>
    obtain rfl := Option.some.inj h
    refine ⟨hflagged, hs.edges, hs.latch_iff, hs.tankOnly, hs.dewar, nofun, nofun,
      fun h => absurd rfl h, fun _ => ?_⟩
    obtain ⟨j, hj, -⟩ := Option.bind_eq_some_iff.mp hfailed
    refine ⟨j, by simp [hpending, hj], fun i pc hi => ?_⟩
    obtain hfuture | hassigning | hreturned := hs.future (by rw [htick]; nofun) i pc hi
    · exact .inl (Option.some.inj (hfuture.symm.trans hj))
    · rw [htick] at hassigning
      cases hassigning
    · exact .inr hreturned
  · obtain rfl := Option.some.inj h
    exact hs.tickStep hflagged rfl rfl hother (by rw [htick]; rfl) (.inr ⟨rfl, rfl⟩)
      (by simp [htick]) nofun

/-- A step of the main thread keeps what is found. -/
theorem Found.mainNext (hs : s.Found) {enabled : Bool} (hl : Observant s (.main enabled))
    {logic : Autofill} (hflagged : logic.Flagged) (h : s.logic.mainNext enabled = some logic) :
    (s.observe logic (.main enabled)).Found := by
  have hother : LogsOther s.logic.events s.logic.events := .inl rfl
  unfold Autofill.mainNext at h
  cases htick : s.logic.tick with
  | idle | dead => simp [htick] at h
  | checked env => exact hs.look htick hl.periods hflagged h
  | seenEmpty pumpdown => exact hs.lookDone htick hflagged h
  | collecting => exact hs.lookAtFuture htick hl.exceptions hflagged h
  | starting =>
    simp only [htick] at h
    simp only [observe, htick]
    split at h
    · obtain rfl := Option.some.inj h
      exact hs.tickStep hflagged rfl rfl (.inr ⟨.fillBegin, rfl, nofun, nofun, nofun⟩)
        (by rw [htick]; rfl) (.inl (by rw [htick]; rfl)) (by simp [htick]) nofun
    · obtain rfl := Option.some.inj h
      exact hs.tickStep hflagged rfl rfl hother (by rw [htick]; rfl) (.inl (by rw [htick]; rfl))
        (by simp [htick]) nofun
  | deciding =>
    simp only [htick] at h
    simp only [observe, htick]
    split at h
    all_goals
      obtain rfl := Option.some.inj h
      exact hs.tickStep hflagged rfl rfl hother (by rw [htick]; rfl) (.inl (by rw [htick]; rfl))
        (by simp [htick]) nofun
  | assigning fill =>
    simp only [htick] at h
    simp only [observe, htick]
    -- whatever has become of the last fill, the future is that of the new one
    have hassigned : logic = { s.logic with runningFill := some fill, tick := .resetting } := by
      split at h
      · exact (Option.some.inj h).symm
      · exact (Option.some.inj h).symm
      · exact (Option.some.inj h).symm
      · cases h
    subst hassigned
    exact hs.tickStep hflagged rfl rfl hother (by rw [htick]; rfl) (.inl (by rw [htick]; rfl))
      (by simp [htick]) nofun
  | notDone | flagging | launching | resetting =>
    simp only [htick] at h
    simp only [observe, htick]
    obtain rfl := Option.some.inj h
    exact hs.tickStep hflagged rfl rfl hother (by rw [htick]; rfl) (.inl (by rw [htick]; rfl))
      (by simp [htick]) nofun

/-- **A step of an observant program** finds what it should. -/
theorem Found.step {dryrun : Bool} (hs : s.Found) (hl : Observant s l)
    (hstep : (fillReports dryrun).step s l = some s') : s'.Found := by
  obtain ⟨logic, h, rfl⟩ := Option.map_eq_some_iff.mp hstep
  have hflagged := hs.toFlagged.step hl.exceptions h
  cases Autofill.steps_of_step h with
  | tick htick =>
    refine ⟨hflagged, hs.edges, hs.latch_iff, hs.tankOnly, hs.dewar, fun _ h => ?_, nofun,
      fun _ => hs.pending (by rw [htick]; nofun), nofun⟩
    have hdue : s.due = true := by simpa [observe] using h
    exact (hs.due (by rw [htick]; rfl) hdue).imp_right fun h => ⟨h.1, rfl⟩
  | tickFilled htick =>
    refine ⟨hflagged, hs.edges, hs.latch_iff, ?_, nofun, fun _ h => ?_, nofun,
      fun _ => hs.pending (by rw [htick]; nofun), nofun⟩
    · exact (count_tankEmpty_concat _ _).trans hs.tankOnly
    · simp [observe] at h
  | main h => exact hs.mainNext hl hflagged h
  | throw hremote =>
    refine ⟨hflagged, hs.edges, hs.latch_iff, hs.tankOnly, hs.dewar, nofun, nofun,
      fun _ => hs.pending fun htick => ?_, nofun⟩
    rw [htick] at hremote
    cases hremote
  | fill halive hi h =>
    obtain ⟨pc', hmoves⟩ := Autofill.fillNext_moves h
    refine hs.fillMoves hflagged halive hmoves fun hdue => ?_
    rw [Bool.or_eq_true, decide_eq_true_eq] at hdue
    refine hdue.imp_right fun hcleared => ⟨hmoves.marks ?_, hl.ends hcleared⟩
    exact Option.some.inj (hi.symm.trans hcleared)
  | fail halive hi h =>
    obtain ⟨pc', hmoves⟩ := Autofill.fillFail_moves h
    exact hs.fillMoves hflagged halive hmoves .inl

private theorem found_init (dryrun : Bool) : (fillReports dryrun).init.Found where
  toFlagged := Autofill.flagged_init dryrun
  edges := marksEdges_nil
  latch_iff := ⟨nofun, fun ⟨⟨_, h, _⟩, _⟩ => nomatch h⟩
  tankOnly := rfl
  dewar := nofun
  due _ := nofun
  owed _ := nofun
  pending _ := rfl
  collected := nofun

private theorem Found.reported (hs : s.Found) : s.Reported where
  tank := hs.edges.oncePerPeriod
  tankOnly := hs.tankOnly
  dewar htick howed := by
    refine hs.dewar ((hs.owed (by rw [htick]; rfl) howed).resolve_right ?_)
    rintro ⟨-, pumpdown, hseen⟩
    rw [htick] at hseen
    cases hseen
  exceptions i pc hi hexception := by
    by_cases hdead : s.logic.tick = .dead .fillThread
    · obtain ⟨j, hj, hothers⟩ := hs.collected hdead
      obtain rfl | rfl := hothers i pc hi
      · exact .inl (by simp [hj])
      · cases hexception
    · refine .inr ⟨by simp [hs.pending hdead], ?_⟩
      obtain hfuture | hassigning | rfl := hs.future hdead i pc hi
      · exact .inl hfuture
      · exact .inr hassigning
      · cases hexception
  unchanged := hs.unchanged

end FillReports

/-- **What happens is reported**, in every run of an observant program. -/
theorem reported_of_observant {dryrun : Bool} {s : FillReports}
    (h : (fillReports dryrun).ReachableWhile Observant s) : s.Reported :=
  (h.invariant (P := FillReports.Found) (FillReports.found_init dryrun)
    fun _ _ _ _ hs hl hstep => hs.step hl hstep).reported

/-- A tick finds the tank empty and starts a fill, which is carried out. -/
def wholeFill : List AutofillLabel :=
  [.tick ⟨true, true⟩ false, .main true, .main true, .main true, .main true, .main true, .main true,
    .main true, .main true, .main true, .main true, .fill 0, .fill 0, .fill 0, .fill 0, .fill 0,
    .fill 0, .fill 0, .fill 0]

/-- The tank is still empty then, full after the dewar has been filled, and empty again. -/
theorem reported_of_observant_wholeFill : ∃ s : FillReports,
    s.looks = [⟨true, true⟩, ⟨true, false⟩, ⟨false, false⟩, ⟨true, true⟩] ∧
      s.logic.events = [.tankEmpty, .fillBegin, .fillComplete, .dewarEmpty, .dewarFilled,
        .tankEmpty] ∧ s.Reported := by
  let more : List AutofillLabel :=
    [.tick ⟨true, true⟩ false, .main true, .main true, .main true, .main true, .main true,
      .tick ⟨true, false⟩ true, .main true, .main true, .main true, .main true,
      .tick ⟨true, true⟩ false, .main true]
  have hrun : ((fillReports false).run (fillReports false).init (wholeFill ++ more)).map
      (fun s => (s.looks, s.logic.events)) =
      some ([⟨true, true⟩, ⟨true, false⟩, ⟨false, false⟩, ⟨true, true⟩],
        [.tankEmpty, .fillBegin, .fillComplete, .dewarEmpty, .dewarFilled, .tankEmpty]) := by
    decide
  obtain ⟨s, hs, hfacts⟩ := Option.map_eq_some_iff.mp hrun
  obtain ⟨hlooks, hevents⟩ := Prod.mk.inj hfacts
  have hreach : (fillReports false).ReachableWhile Observant s :=
    TransitionSystem.ReachableWhile.init.run (by decide) hs
  exact ⟨s, hlooks, hevents, reported_of_observant hreach⟩

/-- **The tank is not reported again** when it is found full after a fill, and empty after that. -/
theorem not_reported : ∃ s : FillReports, (fillReports false).Reachable s ∧ ¬ s.Reported := by
  let again : List AutofillLabel :=
    [.tick ⟨true, false⟩ false, .main true, .main true, .main true, .main true,
      .tick ⟨true, true⟩ false, .main true]
  have hrun : ((fillReports false).run (fillReports false).init (wholeFill ++ again)).map
      FillReports.looks = some [⟨true, true⟩, ⟨false, false⟩, ⟨true, false⟩] := by decide
  obtain ⟨s, hs, hlooks⟩ := Option.map_eq_some_iff.mp hrun
  have hreach := (fillReports false).reachable_of_run hs
  refine ⟨s, hreach, fun hreported => ?_⟩
  have hperiod := hreported.tank [⟨true, true⟩, ⟨false, false⟩] [⟨true, false⟩] [] hlooks
    ⟨by decide, by decide, by decide, by decide⟩
  exact absurd hperiod (by decide)

end Foxtrot
