import Foxtrot.Foundation.Histories
import Foxtrot.Foundation.TransitionSystem

/-!
# Recorded runs

What the users of a system see of it is a history of observations, some steps being seen and others
not. `M.recorded obs` is the system `M` with a record of what `obs` sees of its steps. Recording
adds nothing to what `M` reaches (`of_recorded`).

A property of each observation in the light of those before it is proved of all records at once, by
an invariant between the state and the record (`throughout_of_recorded`).
-/

namespace TransitionSystem

open Histories

variable {State Label ω : Type*}

/-- The system with a record of what is seen of its steps. -/
def recorded (M : TransitionSystem State Label) (obs : State → Label → Option ω) :
    TransitionSystem (State × List ω) Label where
  init := (M.init, [])
  step s l := (M.step s.1 l).map fun s' => (s', s.2 ++ (obs s.1 l).toList)

variable {M : TransitionSystem State Label} {obs : State → Label → Option ω}
  {ok : State → Label → Prop} {s s' : State} {l : Label} {log log' : List ω}

/-- A recorded step is a step, and adds what is observed in it. -/
theorem recorded_step_eq_some_iff : (M.recorded obs).step (s, log) l = some (s', log') ↔
    M.step s l = some s' ∧ log' = log ++ (obs s l).toList := by
  change (M.step s l).map _ = _ ↔ _
  rw [Option.map_eq_some_iff]
  constructor
  · rintro ⟨s₁, h, heq⟩
    obtain ⟨rfl, rfl⟩ := Prod.mk.inj heq
    exact ⟨h, rfl⟩
  · rintro ⟨h, rfl⟩
    exact ⟨s', h, rfl⟩

/-- Recording adds nothing. -/
theorem of_recorded (h : (M.recorded obs).ReachableWhile (fun s l => ok s.1 l) (s, log)) :
    M.ReachableWhile ok s := by
  refine ReachableWhile.invariant (P := fun r => M.ReachableWhile ok r.1) .init ?_ h
  rintro ⟨s, log⟩ l ⟨s', log'⟩ - hs hl hstep
  exact hs.step hl (recorded_step_eq_some_iff.mp hstep).1

/-- **What is seen is as the record before it says**, if an invariant between the state and the
record says so of each step that is seen, and is kept by all steps. -/
theorem throughout_of_recorded (ok : State → Label → Prop) {I : State → List ω → Prop}
    {P : List ω → ω → Prop} (hinit : I M.init [])
    (hunseen : ∀ s l s' log, M.ReachableWhile ok s → I s log → ok s l → M.step s l = some s' →
      obs s l = none → I s' log)
    (hseen : ∀ s l s' log w, M.ReachableWhile ok s → I s log → ok s l → M.step s l = some s' →
      obs s l = some w → P log w ∧ I s' (log ++ [w]))
    (h : (M.recorded obs).ReachableWhile (fun s l => ok s.1 l) (s, log)) :
    I s log ∧ Throughout P log := by
  refine ReachableWhile.invariant (P := fun r => I r.1 r.2 ∧ Throughout P r.2)
    ⟨hinit, throughout_nil⟩ ?_ h
  rintro ⟨s, log⟩ l ⟨s', log'⟩ hs ⟨hinv, hall⟩ hl hstep
  obtain ⟨hM, rfl⟩ := recorded_step_eq_some_iff.mp hstep
  have hreach : M.ReachableWhile ok s := of_recorded hs
  -- a step that is not seen leaves the record
  cases hobs : obs s l with
  | none =>
    rw [Option.toList_none, List.append_nil]
    exact ⟨hunseen s l s' log hreach hinv hl hM hobs, hall⟩
  | some w =>
    obtain ⟨hP, hinv'⟩ := hseen s l s' log w hreach hinv hl hM hobs
    exact ⟨hinv', throughout_concat.mpr ⟨hall, hP⟩⟩

end TransitionSystem
