import Foxtrot.Session.Interleaving
import Mathlib.Data.List.MinMax

/-!
# The update thread and its shutdown

The session manager runs a thread that removes expired sessions (`start_updates`,
`update_at_next_expiry`), and its destructor ends it (`stop_updates`). `Updates` adds both to the
interleaved clients of the session manager.

The thread loops. It takes `_updatemut`, copies the stop flag, and looks at the session map. With
sessions it waits on `_stop_updates_cv` until one second after the earliest expiry, giving
`_updatemut` up for the time of the wait, and then updates. Without sessions it waits on
`_sessionop_cv`, **keeping `_updatemut`**, since the lock of that wait is another one. The copied
flag is looked at only at the end of the round.

`start_session`, `renew_session` and `close_session` notify `_sessionop_cv` and nothing else, inside
their section under `_sessionmut`; a notification that finds nobody waiting is lost.
`stop_updates` takes `_updatemut`, sets the flag, notifies `_stop_updates_cv` and joins the
thread. A wait may also end for no reason (`spurious`).

The clients see the thread as the expiry update of their own system, at times of its choice
(`sessionSimulation`).
-/

namespace Foxtrot

open SessionManager

/-- One second, in ticks of the system clock. -/
def second : Int := 1000000000

/-- Where the update thread stands. -/
inductive UpdatePc where
  /-- At the head of the loop, about to take `_updatemut`. -/
  | loop
  /-- About to look at the session map. -/
  | look
  /-- Saw the earliest expiry `e`, about to read the clock. -/
  | decide (e : Int)
  /-- Waiting on `_stop_updates_cv` until `deadline`, without `_updatemut`. -/
  | timedWait (deadline : Int)
  /-- The timed wait is over, about to take `_updatemut` back. -/
  | reacquire
  /-- About to update the session states. -/
  | mustUpdate
  /-- Saw no session, about to wait. -/
  | sawEmpty
  /-- Waiting on `_sessionop_cv`, with `_updatemut`. -/
  | opWait
  /-- The wait for a session operation is over. -/
  | opWoken
  /-- The thread has ended. -/
  | exited
  deriving DecidableEq

/-- Does the thread hold `_updatemut`? -/
def UpdatePc.holdsUpdatemut : UpdatePc → Bool
  | .look | .decide _ | .mustUpdate | .sawEmpty | .opWait | .opWoken => true
  | .loop | .timedWait _ | .reacquire | .exited => false

/-- Where `stop_updates` stands. -/
inductive StopPc where
  /-- Not called. -/
  | idle
  /-- Called, about to take `_updatemut`. -/
  | wantLock
  /-- The flag is set; joining the thread. -/
  | joining
  | done
  deriving DecidableEq

/-- The clients of the session manager, its update thread and `stop_updates`. -/
structure Updates (ι : Type) where
  sessions : Sessions ι
  pc : UpdatePc
  /-- The thread's copy of the flag, `localstopupdates`. -/
  localStop : Bool
  /-- `_stop_updates`. -/
  stopFlag : Bool
  stopper : StopPc

/-- The steps of the clients and the clock, of the thread and of `stop_updates`. -/
inductive UpdateLabel (ι : Type) where
  /-- A step of a client, or of the clock. -/
  | session (l : SessionLabel ι)
  /-- The thread makes its next step. -/
  | thread
  /-- The thread's wait ends for no reason. -/
  | spurious
  /-- `stop_updates` is called. -/
  | callStop
  /-- `stop_updates` makes its next step. -/
  | stop

/-- The expiry of the session that expires first. -/
def SessionManager.nextExpiry (sm : SessionManager) : Option Int :=
  (sm.sessionmap.entries.map fun e => e.2.expiry).min?

/-- The thread when `_sessionop_cv` is notified. -/
def UpdatePc.notifyOp : UpdatePc → UpdatePc
  | .opWait => .opWoken
  | pc => pc

/-- The thread when `_stop_updates_cv` is notified. -/
def UpdatePc.notifyStop : UpdatePc → UpdatePc
  | .timedWait _ => .reacquire
  | pc => pc

section Step

variable {ι : Type} [DecidableEq ι] (ord : SecretOrder)

/-- Does the section of a client end in `notify_session_update`? -/
def Sessions.notifies (s : Sessions ι) : SessionLabel ι → Bool
  | .commit _ _ => true
  | .close secret => ((s.mgr.closeSession ord secret).map Prod.snd).toOption.getD false
  | .renew secret req => ((s.mgr.renewSession secret req s.clock).map Prod.snd).toOption.getD false
  | _ => false

/-- The end of a round: the thread leaves the loop if its copy of the flag is set. -/
def Updates.endRound (s : Updates ι) : Updates ι :=
  { s with pc := if s.localStop then .exited else .loop }

/-- The next step of the update thread. -/
def Updates.threadStep (s : Updates ι) : Option (Updates ι) :=
  match s.pc with
  | .loop => some { s with pc := .look, localStop := s.stopFlag }
  | .look =>
    match s.sessions.mgr.nextExpiry with
    | none => some { s with pc := .sawEmpty }
    | some e => some { s with pc := .decide e }
  | .decide e =>
    if e < s.sessions.clock then some { s with pc := .mustUpdate }
    else some { s with pc := .timedWait (e + second) }
  | .timedWait deadline =>
    if deadline ≤ s.sessions.clock then some { s with pc := .reacquire } else none
  | .reacquire => some { s with pc := .mustUpdate }
  | .mustUpdate =>
    match s.sessions.mgr.updateSessionStates ord s.sessions.clock with
    | .ok mgr => some { s with sessions := { s.sessions with mgr } }.endRound
    | .error .undefinedBehaviour => none
    -- any exception is caught, and asks for the end of the thread
    | .error _ => some { s with stopFlag := true }.endRound
  | .sawEmpty => some { s with pc := .opWait }
  | .opWait => none
  | .opWoken => some s.endRound
  | .exited => none

/-- One step of the whole system. -/
def Updates.step (s : Updates ι) : UpdateLabel ι → Option (Updates ι)
  | .session .update => none
  | .session l => (s.sessions.step ord l).map fun sessions =>
      { s with
        sessions
        pc := if s.sessions.notifies ord l then s.pc.notifyOp else s.pc }
  | .thread => s.threadStep ord
  | .spurious =>
    match s.pc with
    | .timedWait _ => some { s with pc := .reacquire }
    | .opWait => some { s with pc := .opWoken }
    | _ => none
  | .callStop => if s.stopper = .idle then some { s with stopper := .wantLock } else none
  | .stop =>
    match s.stopper with
    | .wantLock =>
      if s.pc.holdsUpdatemut then none
      else some { s with stopper := .joining, stopFlag := true, pc := s.pc.notifyStop }
    | .joining => if s.pc = .exited then some { s with stopper := .done } else none
    | _ => none

/-- A new session manager with its clients and its update thread. -/
def updateSystem (ι : Type) [DecidableEq ι] (ord : SecretOrder) (sessionLength : Int) :
    TransitionSystem (Updates ι) (UpdateLabel ι) where
  init := ⟨(sessionSystem ι ord sessionLength).init, .loop, false, false, .idle⟩
  step := Updates.step ord

variable {ord} {s s' : Updates ι} {l : SessionLabel ι}

/-! ### What the steps do -/

/-- A step of a client or the clock is a step of the session manager, and moves the thread only
by its notification. -/
theorem sessionStep_cases (h : s.step ord (.session l) = some s') :
    l ≠ .update ∧ s.sessions.step ord l = some s'.sessions ∧
      s'.pc = (if s.sessions.notifies ord l then s.pc.notifyOp else s.pc) ∧
      s'.stopper = s.stopper := by
  have hl : l ≠ .update := by
    rintro rfl
    cases h
  have hmap : (s.sessions.step ord l).map (fun sessions => { s with
      sessions
      pc := if s.sessions.notifies ord l then s.pc.notifyOp else s.pc }) = some s' := by
    rcases l with _ | _ | _ | _ | _ | _ | _
    all_goals first | exact h | exact absurd rfl hl
  obtain ⟨sessions, hstep, rfl⟩ := Option.map_eq_some_iff.mp hmap
  exact ⟨hl, hstep, rfl, rfl⟩

/-- Where the thread can be after its next step, and what it did to the sessions. -/
theorem threadStep_cases (h : s.threadStep ord = some s') :
    s'.stopper = s.stopper ∧
    ((s'.sessions = s.sessions ∧
      ((s.pc = .loop ∧ s'.pc = .look) ∨
      (s.pc = .look ∧ s.sessions.mgr.nextExpiry = none ∧ s'.pc = .sawEmpty) ∨
      (∃ e, s.pc = .look ∧ s.sessions.mgr.nextExpiry = some e ∧ s'.pc = .decide e) ∨
      (∃ e, s.pc = .decide e ∧ s.sessions.clock ≤ e ∧ s'.pc = .timedWait (e + second)) ∨
      s'.pc = .mustUpdate ∨ s'.pc = .reacquire ∨ s'.pc = .exited ∨ s'.pc = .loop ∨
      (s.pc = .sawEmpty ∧ s'.pc = .opWait))) ∨
    (s.pc = .mustUpdate ∧ s.sessions.step ord .update = some s'.sessions ∧
      (s'.pc = .exited ∨ s'.pc = .loop))) := by
  -- the end of a round looks only at the thread's own copy of the stop flag
  have hround : ∀ s : Updates ι, s.endRound.sessions = s.sessions ∧
      s.endRound.stopper = s.stopper ∧ (s.endRound.pc = .exited ∨ s.endRound.pc = .loop) := by
    intro s
    rcases hls : s.localStop <;> simp [Updates.endRound, hls]
  rcases hpc : s.pc with _ | _ | e | deadline | _ | _ | _ | _ | _ | _ <;>
    simp only [Updates.threadStep, hpc] at h
  · obtain rfl := Option.some.inj h
    exact ⟨rfl, .inl ⟨rfl, .inl ⟨rfl, rfl⟩⟩⟩
  · rcases hnext : s.sessions.mgr.nextExpiry with _ | e <;> rw [hnext] at h <;>
      obtain rfl := Option.some.inj h
    · exact ⟨rfl, .inl ⟨rfl, .inr (.inl ⟨rfl, rfl, rfl⟩)⟩⟩
    · exact ⟨rfl, .inl ⟨rfl, .inr (.inr (.inl ⟨e, rfl, rfl, rfl⟩))⟩⟩
  · split_ifs at h with hlt <;> obtain rfl := Option.some.inj h
    · exact ⟨rfl, .inl ⟨rfl, by simp⟩⟩
    · exact ⟨rfl, .inl ⟨rfl, .inr (.inr (.inr (.inl ⟨e, rfl, by omega, rfl⟩)))⟩⟩
  · split_ifs at h
    obtain rfl := Option.some.inj h
    exact ⟨rfl, .inl ⟨rfl, by simp⟩⟩
  · obtain rfl := Option.some.inj h
    exact ⟨rfl, .inl ⟨rfl, by simp⟩⟩
  · have hsettle : ∀ r, s.sessions.mgr.updateSessionStates ord s.sessions.clock = r →
        s.sessions.step ord .update =
          (s.sessions.mgr.settle r).map fun mgr => { s.sessions with mgr } := by
      rintro r rfl
      rfl
    -- the update has thrown, was undefined, or has settled the sessions
    rcases hup : s.sessions.mgr.updateSessionStates ord s.sessions.clock with (_ | _ | _) | mgr <;>
      rw [hup] at h
    · obtain rfl := Option.some.inj h
      obtain ⟨hses, hstop, hend⟩ := hround { s with stopFlag := true }
      exact ⟨hstop, .inr ⟨rfl, (hsettle _ hup).trans (congrArg some hses.symm), hend⟩⟩
    · obtain rfl := Option.some.inj h
      obtain ⟨hses, hstop, hend⟩ := hround { s with stopFlag := true }
      exact ⟨hstop, .inr ⟨rfl, (hsettle _ hup).trans (congrArg some hses.symm), hend⟩⟩
    · -- undefined behaviour has no successor
      cases h
    · obtain rfl := Option.some.inj h
      obtain ⟨hses, hstop, hend⟩ := hround { s with sessions := { s.sessions with mgr } }
      exact ⟨hstop, .inr ⟨rfl, (hsettle _ hup).trans (congrArg some hses.symm), hend⟩⟩
  · obtain rfl := Option.some.inj h
    exact ⟨rfl, .inl ⟨rfl, by simp⟩⟩
  · cases h
  · obtain rfl := Option.some.inj h
    obtain ⟨hses, hstop, hend⟩ := hround s
    exact ⟨hstop, .inl ⟨hses, by rcases hend with hend | hend <;> simp [hend]⟩⟩
  · cases h

/-- A wait that ends for no reason touches only the thread. -/
theorem spurious_cases (h : s.step ord .spurious = some s') :
    s'.sessions = s.sessions ∧ s'.stopper = s.stopper ∧
      (s'.pc = .reacquire ∨ s'.pc = .opWoken) := by
  simp only [Updates.step] at h
  split at h
  · obtain rfl := Option.some.inj h
    exact ⟨rfl, rfl, .inl rfl⟩
  · obtain rfl := Option.some.inj h
    exact ⟨rfl, rfl, .inr rfl⟩
  · cases h

/-- The steps of `stop_updates` leave the sessions alone. -/
theorem stop_cases (h : s.step ord .stop = some s') :
    s'.sessions = s.sessions ∧
      ((s.stopper = .wantLock ∧ s.pc.holdsUpdatemut = false ∧ s'.stopper = .joining ∧
        s'.pc = s.pc.notifyStop) ∨
      (s.stopper = .joining ∧ s.pc = .exited ∧ s'.stopper = .done ∧ s'.pc = s.pc)) := by
  rcases hstop : s.stopper with _ | _ | _ | _ <;> simp only [Updates.step, hstop] at h
  · cases h
  · split_ifs at h with hlock
    obtain rfl := Option.some.inj h
    exact ⟨rfl, .inl ⟨rfl, by simpa using hlock, rfl, rfl⟩⟩
  · split_ifs at h with hpc
    obtain rfl := Option.some.inj h
    exact ⟨rfl, .inr ⟨rfl, hpc, rfl, rfl⟩⟩
  · cases h

/-- What a call of `stop` does. -/
theorem callStop_cases (h : s.step ord .callStop = some s') :
    s'.sessions = s.sessions ∧ s'.pc = s.pc ∧ s.stopper = .idle ∧ s'.stopper = .wantLock := by
  simp only [Updates.step] at h
  split_ifs at h with hidle
  obtain rfl := Option.some.inj h
  exact ⟨rfl, rfl, hidle, rfl⟩

/-! ### The clients' view -/

/-- A condition on the clients' steps, as a condition on the steps of the whole system. -/
def OnSessions (ok : Sessions ι → SessionLabel ι → Prop) (s : Updates ι) : UpdateLabel ι → Prop
  | .session l => ok s.sessions l
  | _ => True

/-- **The clients see the update thread as the expiry update of their own system.** -/
def sessionSimulation (ord : SecretOrder) (len : Int) {ok : Sessions ι → SessionLabel ι → Prop}
    (hupdate : ∀ s, ok s .update) :
    TransitionSystem.Simulation (updateSystem ι ord len) (OnSessions ok)
      (sessionSystem ι ord len) ok where
  abs s := s.sessions
  abs_init := rfl
  abs_step s l s' _ hl hstep := by
    change s.step ord l = some s' at hstep
    rcases l with l | _ | _ | _ | _
    · obtain ⟨-, hses, -⟩ := sessionStep_cases hstep
      exact .inr ⟨l, hl, hses⟩
    · rcases (threadStep_cases hstep).2 with ⟨hses, -⟩ | ⟨-, hses, -⟩
      · exact .inl hses
      · exact .inr ⟨.update, hupdate _, hses⟩
    · exact .inl (spurious_cases hstep).1
    · exact .inl (callStop_cases hstep).1
    · exact .inl (stop_cases hstep).1

/-- Ownership stays exclusive with the update thread at work. -/
theorem exclusive_of_freshCommit_updates {len : Int}
    (h : (updateSystem ι ord len).ReachableWhile (OnSessions FreshCommit) s) :
    s.sessions.mgr.Exclusive :=
  (covered_of_freshCommit ((sessionSimulation ord len fun _ => trivial).reachableWhile h)).exclusive

end Step

end Foxtrot
