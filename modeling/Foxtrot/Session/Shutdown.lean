import Foxtrot.Session.Timely

/-!
# Shutting the update thread down

`stop_updates` takes `_updatemut`, sets the stop flag, notifies `_stop_updates_cv` and joins the
thread. It gets stuck in one way only: with the thread waiting on `_sessionop_cv`. There the thread
keeps `_updatemut`, so `stop_updates` either cannot take it or, when it took it before, joins a
thread that nobody notifies (`deadlock_iff`). The stop flag does not help: the thread copies it
before it looks at the session map and tests the copy after the wait.

So a shutdown goes through when it does not begin with the thread waiting for a session
operation, or about to, and when from then on the thread finds a session whenever it looks
(`Orderly`, `no_deadlock_of_orderly`). Both parts are needed: from a state that misses one the
thread walks into the deadlock (`deadlock_of_callStop`, `deadlock_of_look`). The shortest case
is a session manager that is made and destroyed (`shutdown_stuck`).
-/

namespace Foxtrot

open SessionManager

/-- The thread can go on by itself: it is not out of the loop, does not wait for a notification,
and does not wait for a lock. A wait with a deadline counts as going on. -/
def Updates.threadCanGoOn {ι : Type} (s : Updates ι) : Bool :=
  match s.pc with
  | .opWait | .exited => false
  -- the lock is free: `stop_updates` holds it only within its own step
  | .loop | .reacquire => true
  | .look | .decide _ | .timedWait _ | .mustUpdate | .sawEmpty | .opWoken => true

/-- `stop_updates` can go on: it gets the lock, or the thread it joins has ended. -/
def Updates.stopCanGoOn {ι : Type} (s : Updates ι) : Bool :=
  match s.stopper with
  | .idle | .done => false
  | .wantLock => !s.pc.holdsUpdatemut
  | .joining => decide (s.pc = .exited)

/-- **The shutdown is stuck**: `stop_updates` has been called, the thread has not ended, and
neither can go on. -/
def Updates.Deadlock {ι : Type} (s : Updates ι) : Prop :=
  s.stopper ≠ .idle ∧ s.pc ≠ .exited ∧ s.threadCanGoOn = false ∧ s.stopCanGoOn = false

section Deadlock

variable {ι : Type} {s : Updates ι}

/-- **The one deadlock**: `stop_updates` against a thread that waits for a session operation. -/
theorem deadlock_iff : s.Deadlock ↔ s.stopper ≠ .idle ∧ s.pc = .opWait := by
  rcases s with ⟨sessions, pc, localStop, stopFlag, stopper⟩
  simp only [Updates.Deadlock, Updates.threadCanGoOn, Updates.stopCanGoOn]
  rcases pc with _ | _ | _ | _ | _ | _ | _ | _ | _ | _ <;>
    rcases stopper with _ | _ | _ | _ <;> simp [UpdatePc.holdsUpdatemut]

variable [DecidableEq ι] {ord : SecretOrder}

omit [DecidableEq ι] in
/-- A thread that makes a step can go on. -/
theorem threadCanGoOn_of_step (h : (s.threadStep ord).isSome) : s.threadCanGoOn = true := by
  rcases hpc : s.pc with _ | _ | _ | _ | _ | _ | _ | _ | _ | _ <;>
    simp_all [Updates.threadStep, Updates.threadCanGoOn]

/-- What `stop_updates` can do is what it does. -/
theorem stopCanGoOn_iff_step : s.stopCanGoOn = true ↔ (s.step ord .stop).isSome := by
  rcases hstop : s.stopper with _ | _ | _ | _ <;>
    simp only [Updates.stopCanGoOn, Updates.step, hstop]
  · simp
  · rcases s.pc.holdsUpdatemut <;> simp
  · by_cases hpc : s.pc = .exited <;> simp [hpc]
  · simp

end Deadlock

section Orderly

variable {ι : Type} [DecidableEq ι] {ord : SecretOrder} {len : Int} {s s' : Updates ι}
  {l : UpdateLabel ι}

/-- The conditions of an orderly shutdown: `stop_updates` is not called while the thread waits
for a session operation or is about to, and once it has been called the thread finds a session
whenever it looks. -/
def Orderly (s : Updates ι) : UpdateLabel ι → Prop
  | .callStop => s.pc ≠ .sawEmpty ∧ s.pc ≠ .opWait
  | .thread => s.stopper ≠ .idle → s.pc = .look → s.sessions.mgr.nextExpiry ≠ none
  | _ => True

instance Orderly.decidable (s : Updates ι) : ∀ l, Decidable (Orderly s l)
  | .callStop => inferInstanceAs (Decidable (_ ∧ _))
  | .thread => inferInstanceAs (Decidable (_ → _ → _))
  | .session _ | .spurious | .stop => inferInstanceAs (Decidable True)

/-- The invariant: after the call the thread neither waits for a session operation nor is about
to. -/
def Updates.Stoppable (s : Updates ι) : Prop :=
  s.stopper ≠ .idle → s.pc ≠ .sawEmpty ∧ s.pc ≠ .opWait

/-- A step of the thread keeps it stoppable. -/
theorem Updates.Stoppable.thread (hs : s.Stoppable) (hl : Orderly s .thread)
    (h : s.threadStep ord = some s') : s'.Stoppable := by
  obtain ⟨hstop, hmove⟩ := threadStep_cases h
  intro hcalled
  rw [hstop] at hcalled
  rcases hmove with ⟨-, ⟨-, hpc⟩ | ⟨hlook, hnone, -⟩ | ⟨e, -, -, hpc⟩ | ⟨e, -, -, hpc⟩ | hpc | hpc |
    hpc | hpc | ⟨hempty, -⟩⟩ | ⟨-, -, hpc | hpc⟩
  all_goals first
    | exact absurd hnone (hl hcalled hlook)
    | exact absurd hempty (hs hcalled).1
    | simp [hpc]

/-- **An orderly step** keeps the thread stoppable. -/
theorem Updates.Stoppable.step (hs : s.Stoppable) (hl : Orderly s l)
    (h : s.step ord l = some s') : s'.Stoppable := by
  rcases l with l | _ | _ | _ | _
  · obtain ⟨-, -, hpc, hstop⟩ := sessionStep_cases h
    intro hcalled
    rw [hstop] at hcalled
    obtain ⟨hempty, hwait⟩ := hs hcalled
    -- a thread that is not waiting is not woken by a notification
    have hsame : s.pc.notifyOp = s.pc := by
      rcases hp : s.pc with _ | _ | _ | _ | _ | _ | _ | _ | _ | _ <;> first | rfl | simp_all
    rw [hpc, hsame, ite_self]
    exact ⟨hempty, hwait⟩
  · exact hs.thread hl h
  · intro _
    rcases (spurious_cases h).2.2 with hpc | hpc <;> simp [hpc]
  · obtain ⟨-, hpc, -, -⟩ := callStop_cases h
    intro _
    rw [hpc]
    exact hl
  · obtain ⟨-, ⟨hstop, hlock, -, hpc⟩ | ⟨-, hexit, -, hpc⟩⟩ := stop_cases h
    · intro _
      obtain ⟨hempty, hwait⟩ := hs (by simp [hstop])
      rw [hpc]
      rcases hp : s.pc with _ | _ | _ | _ | _ | _ | _ | _ | _ | _ <;>
        simp_all [UpdatePc.notifyStop]
    · intro _
      simp [hpc, hexit]

/-- **An orderly shutdown cannot get stuck**, in any state of any run. -/
theorem no_deadlock_of_orderly (h : (updateSystem ι ord len).ReachableWhile Orderly s) :
    ¬ s.Deadlock := by
  have hs : s.Stoppable := h.invariant (P := Updates.Stoppable)
    (fun hcalled => absurd rfl hcalled) fun _ _ _ _ hs hl hstep => hs.step hl hstep
  rw [deadlock_iff]
  rintro ⟨hcalled, hwait⟩
  exact (hs hcalled).2 hwait

/-! ### Both conditions are needed -/

/-- Called while the thread waits for a session operation, or is about to, `stop_updates` ends
in the deadlock. -/
theorem deadlock_of_callStop (hidle : s.stopper = .idle) (hpc : s.pc = .sawEmpty ∨ s.pc = .opWait) :
    ∃ ls s', (updateSystem ι ord len).run s (.callStop :: ls) = some s' ∧ s'.Deadlock := by
  rcases hpc with hpc | hpc
  · refine ⟨[.thread], { s with stopper := .wantLock, pc := .opWait }, ?_, ?_⟩
    · simp [TransitionSystem.run_cons, updateSystem, Updates.step, Updates.threadStep, hidle, hpc]
    · exact deadlock_iff.mpr ⟨by simp, rfl⟩
  · refine ⟨[], { s with stopper := .wantLock }, ?_, ?_⟩
    · simp [TransitionSystem.run_cons, updateSystem, Updates.step, hidle]
    · exact deadlock_iff.mpr ⟨by simp, hpc⟩

/-- After the call, a thread that finds no session walks into the deadlock. -/
theorem deadlock_of_look (hcalled : s.stopper ≠ .idle) (hpc : s.pc = .look)
    (hnone : s.sessions.mgr.nextExpiry = none) :
    ∃ s', (updateSystem ι ord len).run s [.thread, .thread] = some s' ∧ s'.Deadlock := by
  refine ⟨{ s with pc := .opWait }, ?_, deadlock_iff.mpr ⟨hcalled, rfl⟩⟩
  simp [TransitionSystem.run_cons, updateSystem, Updates.step, Updates.threadStep, hpc, hnone]

end Orderly

/-- With a session of 100 seconds the thread is stopped in its timed wait, and joined after the
update. -/
def orderlyTrace : List (UpdateLabel (Fin 2)) :=
  startSteps 0 (Vector.replicate 32 0) ++ [.thread, .thread, .thread, .callStop, .stop, .thread,
    .thread, .thread, .thread, .thread]

theorem no_deadlock_of_orderly_orderlyTrace : ∃ s,
    twoClientsUpdated.run twoClientsUpdated.init orderlyTrace = some s ∧
      s.stopper = .joining ∧ s.localStop = true ∧ s.pc = .timedWait (101 * second) ∧
      ¬ s.Deadlock := by
  have hrun : (twoClientsUpdated.run twoClientsUpdated.init orderlyTrace).map (fun s =>
      (s.stopper, s.localStop, s.pc)) = some (.joining, true, .timedWait (101 * second)) := by
    decide
  obtain ⟨s, hs, hfacts⟩ := Option.map_eq_some_iff.mp hrun
  simp only [Prod.mk.injEq] at hfacts
  obtain ⟨hstop, hlocal, hpc⟩ := hfacts
  have hreach : (updateSystem (Fin 2) .entries (100 * second)).ReachableWhile Orderly s :=
    TransitionSystem.ReachableWhile.init.run (by decide) hs
  exact ⟨s, hs, hstop, hlocal, hpc, no_deadlock_of_orderly hreach⟩

/-- **A shutdown can get stuck**: a session manager is made, its thread finds no session and
waits, and the destructor asks for `_updatemut`. -/
theorem shutdown_stuck : ∃ s, twoClientsUpdated.Reachable s ∧ s.Deadlock := by
  have hrun : (twoClientsUpdated.run twoClientsUpdated.init
      [.thread, .thread, .thread, .callStop]).map (fun s => (s.stopper, s.pc)) =
        some (.wantLock, .opWait) := by decide
  obtain ⟨s, hs, hfacts⟩ := Option.map_eq_some_iff.mp hrun
  obtain ⟨hstop, hpc⟩ := Prod.mk.inj hfacts
  exact ⟨s, TransitionSystem.reachable_of_run hs, deadlock_iff.mpr ⟨by simp [hstop], hpc⟩⟩

end Foxtrot
