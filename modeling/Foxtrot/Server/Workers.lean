import Foxtrot.Foundation.TransitionSystem
import Mathlib.Data.Fintype.Basic
import Mathlib.Logic.Function.Basic

/-!
# The exit of a worker

`ServerImplLegacy::RunMultithread` starts `n` threads that take events from the completion queue
(`HandleRpcs`). A thread whose `HandleRpcs` returns or throws writes its number to
`_exitthreadnum`, notifies `_condvar`, and gives the exception to its future. The main thread waits
in `join_multithreaded`, with a plain `_condvar.wait(lock)`, and asks the future with the number it
finds in `_exitthreadnum` for the exception.

The notifier takes no lock, and the wait has no predicate. So the exit of a worker is noticed if
the wait begins in time, before the first exit or at least before the last notification to come,
and does not end on its own before a number is written (`Attentive`, `noticed_of_attentive`).
Otherwise it can be missed for good (`exit_missed`), and a wait that ends on its own too early
reads a variable that was never written.

The invariant (`Workers.Watched`) adds two facts to what is to be shown: as soon as a worker has
written its number, the one in the variable is that of such a worker, and when the main thread is
past the wait, there is one. A worker that leaves writes its number, notifies, and gives its
exception to the future, in this order; each of these steps keeps the invariant
(`Workers.Watched.setWorker`).
-/

namespace Foxtrot

/-- Where a worker stands. `ε` is the type of exceptions. -/
inductive WorkerPc (ε : Type) where
  /-- In `HandleRpcs`. -/
  | running
  /-- `HandleRpcs` is over, with or without an exception. -/
  | exited (except : Option ε)
  /-- The number is in `_exitthreadnum`. -/
  | wrote (except : Option ε)
  /-- The waiting threads have been notified, the future has its value. -/
  | returned (except : Option ε)
  deriving DecidableEq

/-- Where the main thread stands. -/
inductive JoinPc (ε : Type) where
  | starting
  /-- In the wait of `join_multithreaded`. -/
  | waiting
  /-- The wait is over. -/
  | woken
  /-- `join_multithreaded` has returned. -/
  | joined (exitthread : Int)
  /-- With the exception of the thread, or without one. -/
  | finished (exitthread : Int) (except : Option ε)
  deriving DecidableEq

/-- The server threads and the main thread. -/
structure Workers (n : ℕ) (ε : Type) where
  worker : Fin n → WorkerPc ε
  main : JoinPc ε
  exitthreadnum : Int

/-- A step of one of the threads. -/
inductive WorkersLabel (n : ℕ) (ε : Type) where
  /-- `HandleRpcs` returns or throws. -/
  | exit (i : Fin n) (except : Option ε)
  /-- `_exitthreadnum = i`. -/
  | write (i : Fin n)
  /-- `_condvar.notify_all()`. -/
  | notify (i : Fin n)
  /-- The wait begins. -/
  | wait
  /-- The wait ends without a notification. -/
  | spurious
  /-- `join_multithreaded` returns the number it finds. -/
  | join
  /-- `excepts[exitthread].get()`. -/
  | get

namespace WorkerPc

variable {ε : Type}

/-- The worker has left `HandleRpcs`. -/
def HasExited (pc : WorkerPc ε) : Prop := pc ≠ .running

/-- The number of the worker is written. -/
def HasWritten : WorkerPc ε → Prop
  | .wrote _ | .returned _ => True
  | .running | .exited _ => False

/-- The worker has notified. -/
def HasNotified : WorkerPc ε → Prop
  | .returned _ => True
  | .running | .exited _ | .wrote _ => False

instance : DecidablePred (HasExited : WorkerPc ε → Prop)
  | .running => isFalse fun h => h rfl
  | .exited _ | .wrote _ | .returned _ => isTrue nofun

instance : DecidablePred (HasWritten : WorkerPc ε → Prop)
  | .wrote _ | .returned _ => isTrue trivial
  | .running | .exited _ => isFalse id

instance : DecidablePred (HasNotified : WorkerPc ε → Prop)
  | .returned _ => isTrue trivial
  | .running | .exited _ | .wrote _ => isFalse id

/-- A worker that has written its result has left its loop. -/
private theorem HasWritten.hasExited {pc : WorkerPc ε} (h : pc.HasWritten) : pc.HasExited := by
  rintro rfl
  exact h

end WorkerPc

namespace Workers

variable {n : ℕ} {ε : Type}

/-- A worker goes on. -/
def setWorker (s : Workers n ε) (i : Fin n) (pc : WorkerPc ε) : Workers n ε :=
  { s with worker := Function.update s.worker i pc }

/-- One step of the threads. -/
def step (s : Workers n ε) : WorkersLabel n ε → Option (Workers n ε)
  | .exit i except =>
    match s.worker i with
    | .running => some (s.setWorker i (.exited except))
    | _ => none
  | .write i =>
    match s.worker i with
    | .exited except => some { s.setWorker i (.wrote except) with exitthreadnum := i }
    | _ => none
  | .notify i =>
    match s.worker i with
    | .wrote except =>
      -- whoever waits is woken, and nothing is kept for later
      some { s.setWorker i (.returned except) with
        main := match s.main with | .waiting => .woken | pc => pc }
    | _ => none
  | .wait =>
    match s.main with
    | .starting => some { s with main := .waiting }
    | _ => none
  | .spurious =>
    match s.main with
    | .waiting => some { s with main := .woken }
    | _ => none
  | .join =>
    match s.main with
    | .woken => some { s with main := .joined s.exitthreadnum }
    | _ => none
  | .get =>
    match s.main with
    | .joined exitthread =>
      -- the future of a thread that has not returned blocks, a number out of range is undefined
      if h : 0 ≤ exitthread ∧ exitthread.toNat < n then
        match s.worker ⟨exitthread.toNat, h.2⟩ with
        | .returned except => some { s with main := .finished exitthread except }
        | _ => none
      else none
    | _ => none

end Workers

/-- The threads are started, and the main thread is about to call `join_multithreaded`. `garbage`
is what `_exitthreadnum` has before it is written. -/
def workerSystem (n : ℕ) (ε : Type) (garbage : Int) :
    TransitionSystem (Workers n ε) (WorkersLabel n ε) where
  init := ⟨fun _ => .running, .starting, garbage⟩
  step := Workers.step

section Exit

variable {n : ℕ} {ε : Type} {garbage : Int} {s s' : Workers n ε} {l : WorkersLabel n ε}

/-- The exit of a worker is noticed. -/
structure Workers.Noticed (s : Workers n ε) : Prop where
  /-- Once a worker has exited, a notification is still to come while the main thread waits. -/
  toCome : s.main = .waiting → (∃ i, (s.worker i).HasExited) →
    ∃ i, (s.worker i).HasExited ∧ ¬ (s.worker i).HasNotified
  /-- The number returned is that of a worker that has exited. -/
  number : ∀ exitthread, s.main = .joined exitthread →
    ∃ i : Fin n, exitthread = i ∧ (s.worker i).HasExited
  /-- The main thread gets the exception of that worker. -/
  except : ∀ exitthread e, s.main = .finished exitthread e →
    ∃ i : Fin n, exitthread = i ∧ s.worker i = .returned e

/-- The wait begins before the first exit, or with a notification still to come; and it does not
end on its own before a number is written. -/
def Attentive (s : Workers n ε) : WorkersLabel n ε → Prop
  | .wait =>
    (∃ i, (s.worker i).HasExited) → ∃ i, (s.worker i).HasExited ∧ ¬ (s.worker i).HasNotified
  | .spurious => ∃ i, (s.worker i).HasWritten
  | .exit _ _ | .write _ | .notify _ | .join | .get => True

instance Attentive.decidable (s : Workers n ε) : ∀ l, Decidable (Attentive s l)
  | .wait => inferInstanceAs (Decidable ((∃ i, (s.worker i).HasExited) →
      ∃ i, (s.worker i).HasExited ∧ ¬ (s.worker i).HasNotified))
  | .spurious => inferInstanceAs (Decidable (∃ i, (s.worker i).HasWritten))
  | .exit _ _ | .write _ | .notify _ | .join | .get => inferInstanceAs (Decidable True)

/-- The main thread is past the wait. -/
def JoinPc.IsPastWait : JoinPc ε → Prop
  | .starting | .waiting => False
  | .woken | .joined _ | .finished _ _ => True

/-- The invariant: besides the exits being noticed, the number that is in the variable is that of
a worker as soon as one is written, which is so when the wait is over. -/
structure Workers.Watched (s : Workers n ε) : Prop extends s.Noticed where
  written : (∃ i, (s.worker i).HasWritten) →
    ∃ i : Fin n, s.exitthreadnum = i ∧ (s.worker i).HasWritten
  past : s.main.IsPastWait → ∃ i, (s.worker i).HasWritten

/-- A worker goes on, and so may the main thread and the variable. -/
theorem Workers.Watched.setWorker (hs : s.Watched) {i : Fin n} {pc : WorkerPc ε}
    (hworker : s'.worker = Function.update s.worker i pc) (hexit : pc.HasExited)
    (hkeep : (s.worker i).HasWritten → pc.HasWritten) (hreturned : ∀ e, s.worker i ≠ .returned e)
    (hmain : s'.main = s.main ∨ s'.main = .woken ∧ pc.HasWritten)
    (hwait : s'.main = .waiting → ¬ pc.HasNotified)
    (hnum : s'.exitthreadnum = i ∧ pc.HasWritten ∨
      s'.exitthreadnum = s.exitthreadnum ∧ (pc.HasWritten → (s.worker i).HasWritten)) :
    s'.Watched := by
  have hself : s'.worker i = pc := by rw [hworker, Function.update_self]
  have hother : ∀ j, j ≠ i → s'.worker j = s.worker j := fun j hj => by
    rw [hworker, Function.update_of_ne hj]
  -- what has been written stays written
  have hwritten : ∀ j, (s.worker j).HasWritten → (s'.worker j).HasWritten := by
    intro j hj
    by_cases hji : j = i
    · subst hji
      rw [hself]
      exact hkeep hj
    · rwa [hother j hji]
  refine ⟨⟨fun hmain' _ => ⟨i, ?_, ?_⟩, fun k hmain' => ?_, fun k e hmain' => ?_⟩, ?_, ?_⟩
  · rwa [hself]
  · rw [hself]
    exact hwait hmain'
  · obtain hsame | ⟨hwoken, -⟩ := hmain
    · obtain ⟨j, rfl, hj⟩ := hs.number k (hsame ▸ hmain')
      refine ⟨j, rfl, ?_⟩
      by_cases hji : j = i
      · subst hji
        rwa [hself]
      · rwa [hother j hji]
    · rw [hwoken] at hmain'
      cases hmain'
  · obtain hsame | ⟨hwoken, -⟩ := hmain
    · -- the exception was known before, and its worker has returned, so it is another one
      obtain ⟨j, rfl, hj⟩ := hs.except k e (hsame ▸ hmain')
      refine ⟨j, rfl, ?_⟩
      rwa [hother j]
      rintro rfl
      exact hreturned e hj
    · rw [hwoken] at hmain'
      cases hmain'
  · rintro ⟨j, hj⟩
    obtain ⟨hnum, hpc⟩ | ⟨hnum, hback⟩ := hnum
    · exact ⟨i, hnum, by rwa [hself]⟩
    · -- a worker had written before as well
      have hj' : (s.worker j).HasWritten := by
        by_cases hji : j = i
        · subst hji
          rw [hself] at hj
          exact hback hj
        · rwa [hother j hji] at hj
      obtain ⟨k, hk, hkw⟩ := hs.written ⟨j, hj'⟩
      exact ⟨k, hnum.trans hk, hwritten k hkw⟩
  · intro hpast
    obtain hsame | ⟨-, hpc⟩ := hmain
    · obtain ⟨j, hj⟩ := hs.past (hsame ▸ hpast)
      exact ⟨j, hwritten j hj⟩
    · exact ⟨i, by rwa [hself]⟩

/-- **An attentive step** keeps the workers watched. -/
theorem Workers.Watched.step (hs : s.Watched) (hl : Attentive s l) (h : s.step l = some s') :
    s'.Watched := by
  cases l with
  | exit i except =>
    simp only [Workers.step] at h
    split at h
    · next hpc =>
      obtain rfl := Option.some.inj h
      refine hs.setWorker rfl nofun ?_ (by simp [hpc]) (.inl rfl) (fun _ => id)
        (.inr ⟨rfl, False.elim⟩)
      rw [hpc]
      exact False.elim
    · cases h
  | write i =>
    simp only [Workers.step] at h
    split at h
    · next hpc =>
      obtain rfl := Option.some.inj h
      exact hs.setWorker rfl nofun (fun _ => trivial) (by simp [hpc]) (.inl rfl) (fun _ => id)
        (.inl ⟨rfl, trivial⟩)
    · cases h
  | notify i =>
    simp only [Workers.step] at h
    split at h
    · next hpc =>
      obtain rfl := Option.some.inj h
      refine hs.setWorker rfl nofun (fun _ => trivial) (by simp [hpc]) ?_ ?_
        (.inr ⟨rfl, fun _ => ?_⟩)
      · split
        · exact .inr ⟨rfl, trivial⟩
        · exact .inl rfl
      · -- nobody waits any more
        split <;> simp_all
      · rw [hpc]
        trivial
    · cases h
  | wait =>
    simp only [Workers.step] at h
    split at h
    · obtain rfl := Option.some.inj h
      -- if anybody has exited, somebody of them is still to notify
      exact ⟨⟨fun _ => hl, nofun, nofun⟩, hs.written, False.elim⟩
    · cases h
  | spurious =>
    simp only [Workers.step] at h
    split at h
    · obtain rfl := Option.some.inj h
      exact ⟨⟨nofun, nofun, nofun⟩, hs.written, fun _ => hl⟩
    · cases h
  | join =>
    simp only [Workers.step] at h
    split at h
    · next hmain =>
      obtain rfl := Option.some.inj h
      -- behind the wait a worker has written its number, and so has exited
      have hpast := hs.past (by simp [hmain, JoinPc.IsPastWait])
      refine ⟨⟨nofun, fun k hk => ?_, nofun⟩, hs.written, fun _ => hpast⟩
      obtain rfl := JoinPc.joined.inj hk
      obtain ⟨i, hi, hwritten⟩ := hs.written hpast
      exact ⟨i, hi, hwritten.hasExited⟩
    · cases h
  | get =>
    simp only [Workers.step] at h
    split at h
    · next exitthread hmain =>
      split at h
      · next hrange =>
        split at h
        · next except hpc =>
          obtain rfl := Option.some.inj h
          -- the future that is asked is the one of a worker that has returned
          have hpast := hs.past (by simp [hmain, JoinPc.IsPastWait])
          refine ⟨⟨nofun, nofun, fun k e hk => ?_⟩, hs.written, fun _ => hpast⟩
          obtain ⟨rfl, rfl⟩ := JoinPc.finished.inj hk
          exact ⟨_, (Int.toNat_of_nonneg hrange.1).symm, hpc⟩
        · cases h
      · cases h
    · cases h

private theorem watched_init : (workerSystem n ε garbage).init.Watched :=
  ⟨⟨nofun, nofun, nofun⟩, fun ⟨_, h⟩ => h.elim, False.elim⟩

private theorem watched_of_attentive (h : (workerSystem n ε garbage).ReachableWhile Attentive s) :
    s.Watched :=
  h.invariant watched_init fun _ _ _ _ hs hl hstep => hs.step hl hstep

/-- **Exits are noticed** in every run in which the wait begins and ends in time. -/
theorem noticed_of_attentive (h : (workerSystem n ε garbage).ReachableWhile Attentive s) :
    s.Noticed :=
  (watched_of_attentive h).toNoticed

/-- The main thread gets the exception as soon as the worker has returned. -/
theorem get_of_joined (h : (workerSystem n ε garbage).ReachableWhile Attentive s)
    {exitthread : Int} (hmain : s.main = .joined exitthread)
    (hall : ∀ i, (s.worker i).HasExited → (s.worker i).HasNotified) :
    ∃ i : Fin n, ∃ e, exitthread = i ∧ s.worker i = .returned e ∧
      s.step .get = some { s with main := .finished exitthread e } := by
  obtain ⟨i, rfl, hexited⟩ := (watched_of_attentive h).number exitthread hmain
  cases hpc : s.worker i with
  | returned e =>
    refine ⟨i, e, rfl, hpc, ?_⟩
    simp only [Workers.step, hmain]
    rw [dif_pos ⟨Int.natCast_nonneg _, by simp⟩]
    simp [hpc]
  | running => exact absurd hpc hexited
  | exited e => exact (hpc ▸ hall i hexited).elim
  | wrote e => exact (hpc ▸ hall i hexited).elim

/-- **A wait that begins late never ends** but on its own: once all workers that have exited have
notified, it does not notice them. -/
theorem not_noticed_of_late_wait (hl : ¬ Attentive s .wait) (h : s.step .wait = some s') :
    ¬ s'.Noticed := by
  simp only [Workers.step] at h
  split at h
  · obtain rfl := Option.some.inj h
    exact fun hs => hl fun hexited => hs.toCome rfl hexited
  · cases h

/-- Two workers, of which one throws while the main thread waits. -/
def noticedTrace : List (WorkersLabel 2 String) :=
  [.wait, .exit 1 (some "bad_alloc"), .write 1, .notify 1, .join, .get]

theorem noticed_of_attentive_noticedTrace : ∃ s,
    (workerSystem 2 String 7).run (workerSystem 2 String 7).init noticedTrace = some s ∧
      s.main = .finished 1 (some "bad_alloc") ∧ s.Noticed := by
  have hrun : ((workerSystem 2 String 7).run (workerSystem 2 String 7).init noticedTrace).map
      Workers.main = some (.finished 1 (some "bad_alloc")) := by decide
  obtain ⟨s, hs, hmain⟩ := Option.map_eq_some_iff.mp hrun
  have hreach : (workerSystem 2 String 7).ReachableWhile Attentive s :=
    TransitionSystem.ReachableWhile.init.run (by decide) hs
  exact ⟨s, hs, hmain, noticed_of_attentive hreach⟩

/-- **An exit is missed**: a worker throws and notifies before the main thread waits. -/
theorem exit_missed : ∃ s, (workerSystem 2 String 7).Reachable s ∧ ¬ s.Noticed := by
  have hrun : ((workerSystem 2 String 7).run (workerSystem 2 String 7).init
      [.exit 1 (some "bad_alloc"), .write 1, .notify 1, .wait]).map
        (fun s => (s.main, s.worker 0, s.worker 1)) =
      some (.waiting, .running, .returned (some "bad_alloc")) := by decide
  obtain ⟨s, hs, hfacts⟩ := Option.map_eq_some_iff.mp hrun
  obtain ⟨hmain, hworkers⟩ := Prod.mk.inj hfacts
  obtain ⟨hzero, hone⟩ := Prod.mk.inj hworkers
  refine ⟨s, TransitionSystem.reachable_of_run hs, fun hnoticed => ?_⟩
  have hcome := hnoticed.toCome hmain ⟨1, by rw [hone]; exact nofun⟩
  obtain ⟨hexited, -⟩ | ⟨-, hnot⟩ := Fin.exists_fin_two.mp hcome
  · exact hexited hzero
  · exact hnot (hone ▸ trivial)

end Exit

end Foxtrot
