import Foxtrot.Session.UpdateThread

/-!
# Timely expiry

While the update thread is blocked it should either have no session to care for or wake up at
most one second after the earliest expiry (`Updates.Timely`). What it decides is right when it
looks at the session map, but `_sessionmut` is given up before the wait begins, and
a notification reaches it only in the wait without a deadline. So it is the windows that matter:

* between seeing no session and beginning to wait, a session that is started is missed, and its
  notification lost (`timely_lost_wakeup`);
* between reading the earliest expiry and the end of the timed wait, a session that gets an
  earlier one is missed: `notify_session_update` notifies the other condition variable.

`QuietWindow` excludes these steps. In every run without them the thread is timely
(`timely_of_quietWindow`); the invariant is that no live session has an expiry the thread, where
it stands, would miss (`UpdatePc.Admits`).
-/

namespace Foxtrot

open SessionManager

namespace SessionManager

variable {sm sm' : SessionManager}

/-- Some live session has this expiry. -/
def LiveExpiry (sm : SessionManager) (x : Int) : Prop :=
  ∃ id ses, sm.sessionmap.lookup id = some ses ∧ ses.expiry = x

/-- The expiries are those of the live sessions. -/
private theorem mem_expiries_iff {x : Int} :
    x ∈ (sm.sessionmap.entries.map fun e => e.2.expiry) ↔ sm.LiveExpiry x := by
  rw [List.mem_map]
  constructor
  · rintro ⟨⟨id, ses⟩, hmem, rfl⟩
    exact ⟨id, ses, AList.mk_mem_entries_iff.mp hmem, rfl⟩
  · rintro ⟨id, ses, hs, rfl⟩
    exact ⟨⟨id, ses⟩, AList.mk_mem_entries_iff.mpr hs, rfl⟩

/-- The earliest expiry is a live one, and no live one is earlier. -/
theorem nextExpiry_eq_some_iff {e : Int} :
    sm.nextExpiry = some e ↔ sm.LiveExpiry e ∧ ∀ x, sm.LiveExpiry x → e ≤ x := by
  rw [nextExpiry, List.min?_eq_some_iff, mem_expiries_iff]
  simp only [mem_expiries_iff]

/-- There is no next expiry exactly if no session lives. -/
private theorem nextExpiry_eq_none_iff : sm.nextExpiry = none ↔ ∀ x, ¬ sm.LiveExpiry x := by
  rw [nextExpiry, List.min?_eq_none_iff, List.eq_nil_iff_forall_not_mem]
  simp only [mem_expiries_iff]

/-- What is left after a removal was there before. -/
private theorem LiveExpiry.of_removed {R : Set UInt16} (hrem : Removed sm sm' R) {x : Int}
    (h : sm'.LiveExpiry x) : sm.LiveExpiry x := by
  obtain ⟨id, ses, hs, rfl⟩ := h
  have hid : id ∉ R := fun hR => by rw [hrem.lookup_of_mem id hR] at hs; cases hs
  rw [hrem.lookup_of_notMem id hid] at hs
  exact ⟨id, ses, hs, rfl⟩

end SessionManager

/-- The thread is blocked waiting on a condition variable. -/
def UpdatePc.Blocked : UpdatePc → Prop
  | .timedWait _ | .opWait => True
  | _ => False

private theorem UpdatePc.blocked_iff {pc : UpdatePc} :
    pc.Blocked ↔ (∃ deadline, pc = .timedWait deadline) ∨ pc = .opWait := by
  rcases pc with _ | _ | _ | _ | _ | _ | _ | _ | _ | _ <;> simp [UpdatePc.Blocked]

/-- The deadline of the thread's wait. -/
def UpdatePc.deadline : UpdatePc → Option Int
  | .timedWait deadline => some deadline
  | _ => none

/-- **Timely expiry**: a blocked thread has no session to care for, or wakes up at most one
second after the earliest expiry. -/
def Updates.Timely {ι : Type} (s : Updates ι) : Prop :=
  s.pc.Blocked → s.sessions.mgr.nextExpiry = none ∨
    ∃ deadline ∈ s.pc.deadline, ∀ e ∈ s.sessions.mgr.nextExpiry, deadline ≤ e + second

/-- The thread, standing here, does not miss a session with this expiry. -/
def UpdatePc.Admits (x : Int) : UpdatePc → Prop
  | .decide e => e ≤ x
  | .timedWait deadline => deadline ≤ x + second
  | .sawEmpty | .opWait => False
  | _ => True

instance UpdatePc.Admits.decidable (x : Int) : ∀ pc : UpdatePc, Decidable (pc.Admits x)
  | .decide e => inferInstanceAs (Decidable (e ≤ x))
  | .timedWait deadline => inferInstanceAs (Decidable (deadline ≤ x + second))
  | .sawEmpty | .opWait => inferInstanceAs (Decidable False)
  | .loop | .look | .reacquire | .mustUpdate | .opWoken | .exited =>
    inferInstanceAs (Decidable True)

section Windows

variable {ι : Type} [DecidableEq ι]

/-- The expiry that a session gets in a client's section, if any does. -/
def Sessions.expirySet (s : Sessions ι) : SessionLabel ι → Option Int
  | .commit c _ =>
    match s.client c with
    | .ready _ now => some (now + s.mgr.sessionLength)
    | _ => none
  | .renew secret req =>
    match s.mgr.renewSession secret req s.clock with
    | .ok (_, true) => some (req.getD (s.clock + s.mgr.sessionLength))
    | _ => none
  | _ => none

/-- No session gets an expiry that the thread misses: none while the thread is about to wait
because it saw no session, and none earlier than the one it has read while it decides or waits for
that one. (A thread that waits for a session operation is notified.) -/
def QuietWindow (s : Updates ι) : UpdateLabel ι → Prop
  | .session l => ∀ x ∈ s.sessions.expirySet l, s.pc.notifyOp.Admits x
  | _ => True

instance QuietWindow.decidable (s : Updates ι) : ∀ l, Decidable (QuietWindow s l)
  | .session l => inferInstanceAs (Decidable (∀ x ∈ s.sessions.expirySet l, s.pc.notifyOp.Admits x))
  | .thread | .spurious | .callStop | .stop => inferInstanceAs (Decidable True)

variable {ord : SecretOrder} {s s' : Sessions ι} {l : SessionLabel ι}

/-- A live expiry after a step was live before, or is set by the step. -/
theorem liveExpiry_step (h : s.step ord l = some s') {x : Int} (hx : s'.mgr.LiveExpiry x) :
    s.mgr.LiveExpiry x ∨ s.expirySet l = some x := by
  obtain ⟨id, ses, hs, rfl⟩ := hx
  rcases step_mgr_cases h with heq | ⟨c, call, now, secret, rfl, hpc, heq⟩ | ⟨R, hrem⟩ |
    ⟨secret, req, id', old, rfl, hold, hrenew, heq⟩
  · rw [heq] at hs
    exact .inl ⟨id, ses, hs, rfl⟩
  · rw [heq, lookup_sessionmap_commit] at hs
    split_ifs at hs with hid
    · obtain rfl := Option.some.inj hs
      exact .inr (by simp only [Sessions.expirySet, hpc, newSession])
    · exact .inl ⟨id, ses, hs, rfl⟩
  · exact .inl (LiveExpiry.of_removed hrem ⟨id, ses, hs, rfl⟩)
  · rw [heq, lookup_sessionmap_withExpiry] at hs
    split_ifs at hs with hid
    · obtain rfl := Option.some.inj hs
      exact .inr (by simp only [Sessions.expirySet, hrenew])
    · exact .inl ⟨id, ses, hs, rfl⟩

omit [DecidableEq ι] in
/-- A section that sets an expiry notifies. -/
theorem notifies_of_expirySet {x : Int} (h : s.expirySet l = some x) : s.notifies ord l = true := by
  rcases l with _ | _ | ⟨c, secret⟩ | _ | ⟨secret, req⟩ | _ | _
  all_goals try cases h
  · rfl
  · rcases hrenew : s.mgr.renewSession secret req s.clock with e | ⟨sm', _ | _⟩ <;>
      simp only [Sessions.expirySet, hrenew] at h
    all_goals try cases h
    simp only [Sessions.notifies, hrenew]
    rfl

end Windows

/-- A notification of an operation keeps what the thread admits. -/
theorem UpdatePc.Admits.notifyOp {x : Int} {pc : UpdatePc} (h : pc.Admits x) :
    pc.notifyOp.Admits x := by
  rcases pc with _ | _ | _ | _ | _ | _ | _ | _ | _ | _ <;> first | exact h | exact h.elim

/-- A notification of the stop keeps what the thread admits. -/
theorem UpdatePc.Admits.notifyStop {x : Int} {pc : UpdatePc} (h : pc.Admits x) :
    pc.notifyStop.Admits x := by
  rcases pc with _ | _ | _ | _ | _ | _ | _ | _ | _ | _ <;> first | exact h | trivial

section Invariant

variable {ι : Type} [DecidableEq ι] {ord : SecretOrder} {len : Int} {s s' : Updates ι}
  {l : UpdateLabel ι}

/-- The invariant: the thread, where it stands, misses no live session. -/
def Updates.Watchful (s : Updates ι) : Prop :=
  ∀ x, s.sessions.mgr.LiveExpiry x → s.pc.Admits x

/-- A step of a session keeps the thread watchful, outside its window. -/
theorem Updates.Watchful.session {l : SessionLabel ι} (hw : s.Watchful)
    (hl : QuietWindow s (.session l)) (h : s.step ord (.session l) = some s') : s'.Watchful := by
  obtain ⟨-, hses, hpc, -⟩ := sessionStep_cases h
  intro x hx
  rw [hpc]
  rcases liveExpiry_step hses hx with hold | hset
  · split_ifs
    · exact (hw x hold).notifyOp
    · exact hw x hold
  · rw [if_pos (notifies_of_expirySet hset)]
    exact hl x hset

/-- A step of the thread keeps it watchful. -/
theorem Updates.Watchful.thread (hw : s.Watchful) (h : s.threadStep ord = some s') :
    s'.Watchful := by
  rcases (threadStep_cases h).2 with ⟨hses, hmove⟩ | ⟨-, -, hend⟩
  · intro x hx
    rw [hses] at hx
    have hadmits := hw x hx
    rcases hmove with ⟨-, hpc⟩ | ⟨-, hnone, -⟩ | ⟨e, -, hnext, hpc⟩ | ⟨e, hdecide, -, hpc⟩ | hpc |
      hpc | hpc | hpc | ⟨hempty, -⟩
    · rw [hpc]; trivial
    · -- it saw no session, and there is none
      exact absurd hx (nextExpiry_eq_none_iff.mp hnone x)
    · -- the expiry it has read is the earliest
      rw [hpc]
      exact (nextExpiry_eq_some_iff.mp hnext).2 x hx
    · rw [hdecide] at hadmits
      rw [hpc]
      exact Int.add_le_add_right hadmits second
    · rw [hpc]; trivial
    · rw [hpc]; trivial
    · rw [hpc]; trivial
    · rw [hpc]; trivial
    · -- nobody is live when it goes to sleep without a deadline
      rw [hempty] at hadmits
      exact hadmits.elim
  · intro x _
    rcases hend with hpc | hpc <;> rw [hpc] <;> trivial

/-- **A step in a quiet window** keeps the thread watchful. -/
theorem Updates.Watchful.step (hw : s.Watchful) (hl : QuietWindow s l)
    (h : s.step ord l = some s') : s'.Watchful := by
  rcases l with l | _ | _ | _ | _
  · exact hw.session hl h
  · exact hw.thread h
  · intro x _
    rcases (spurious_cases h).2.2 with hpc | hpc <;> rw [hpc] <;> trivial
  · obtain ⟨hses, hpc, -⟩ := callStop_cases h
    intro x hx
    rw [hpc]
    exact hw x (hses ▸ hx)
  · obtain ⟨hses, hstop⟩ := stop_cases h
    intro x hx
    have hadmits := hw x (hses ▸ hx)
    rcases hstop with ⟨-, -, -, hpc⟩ | ⟨-, -, -, hpc⟩ <;> rw [hpc]
    · exact hadmits.notifyStop
    · exact hadmits

omit [DecidableEq ι] in
private theorem Updates.Watchful.timely (hw : s.Watchful) : s.Timely := by
  intro hblocked
  rcases hnext : s.sessions.mgr.nextExpiry with _ | e
  · exact .inl rfl
  have hadmits := hw e (nextExpiry_eq_some_iff.mp hnext).1
  rcases UpdatePc.blocked_iff.mp hblocked with ⟨deadline, hpc⟩ | hpc
  · rw [hpc] at hadmits ⊢
    refine .inr ⟨deadline, rfl, fun e' he' => ?_⟩
    obtain rfl := Option.some.inj he'
    exact hadmits
  · rw [hpc] at hadmits
    exact hadmits.elim

/-- **Timely expiry** holds in every state of a run in which no session gets an expiry in a
window where the thread misses it. -/
theorem timely_of_quietWindow (h : (updateSystem ι ord len).ReachableWhile QuietWindow s) :
    s.Timely := by
  refine Updates.Watchful.timely (h.invariant (P := Updates.Watchful) ?_ ?_)
  · rintro x ⟨id, ses, hs, -⟩
    exact absurd hs (by simp [updateSystem, sessionSystem, SessionManager.new])
  · intro s l s' _ hw hl hstep
    exact hw.step hl hstep

end Invariant

/-! ### The lost wake-up -/

/-- Two clients and the update thread on a session manager with sessions of 100 seconds. -/
def twoClientsUpdated : TransitionSystem (Updates (Fin 2)) (UpdateLabel (Fin 2)) :=
  updateSystem (Fin 2) .entries (100 * second)

/-- Client `c` makes a call of `start_session` that asks for nothing. -/
def startSteps (c : Fin 2) (secret : Sessionid) : List (UpdateLabel (Fin 2)) :=
  [.session (.enter c ⟨"user", "", none, none, none⟩), .session (.advance c),
   .session (.advance c), .session (.advance c), .session (.commit c secret)]

/-- The thread waits for a first session, is notified of it, and waits for its expiry. -/
def timelyTrace : List (UpdateLabel (Fin 2)) :=
  [.thread, .thread, .thread] ++ startSteps 0 (Vector.replicate 32 0) ++
  [.thread, .thread, .thread, .thread] ++ startSteps 1 (Vector.replicate 32 1)

theorem timely_of_quietWindow_timelyTrace : ∃ s,
    twoClientsUpdated.run twoClientsUpdated.init timelyTrace = some s ∧
      s.pc = .timedWait (101 * second) ∧ s.sessions.mgr.nextExpiry = some (100 * second) ∧
      s.Timely := by
  have hrun : (twoClientsUpdated.run twoClientsUpdated.init timelyTrace).map (fun s =>
      (s.pc, s.sessions.mgr.nextExpiry)) =
        some (.timedWait (101 * second), some (100 * second)) := by decide
  obtain ⟨s, hs, hfacts⟩ := Option.map_eq_some_iff.mp hrun
  obtain ⟨hpc, hnext⟩ := Prod.mk.inj hfacts
  have hreach : (updateSystem (Fin 2) .entries (100 * second)).ReachableWhile QuietWindow s :=
    TransitionSystem.ReachableWhile.init.run (by decide) hs
  exact ⟨s, hs, hpc, hnext, timely_of_quietWindow hreach⟩

/-- The thread sees no session; one is started before the thread begins to wait. -/
def lostWakeupTrace : List (UpdateLabel (Fin 2)) :=
  [.thread, .thread] ++ startSteps 0 (Vector.replicate 32 0) ++ [.thread]

/-- **A wake-up is lost**: the thread waits without a deadline while a session is live. -/
theorem timely_lost_wakeup : ∃ s, twoClientsUpdated.Reachable s ∧ ¬ s.Timely := by
  have hrun : (twoClientsUpdated.run twoClientsUpdated.init lostWakeupTrace).map (fun s =>
      (s.pc, s.sessions.mgr.nextExpiry)) = some (.opWait, some (100 * second)) := by decide
  obtain ⟨s, hs, hfacts⟩ := Option.map_eq_some_iff.mp hrun
  obtain ⟨hpc, hnext⟩ := Prod.mk.inj hfacts
  refine ⟨s, TransitionSystem.reachable_of_run hs, fun htimely => ?_⟩
  rcases htimely (by rw [hpc]; trivial) with hnone | ⟨deadline, hdeadline, -⟩
  · rw [hnext] at hnone
    cases hnone
  · rw [hpc] at hdeadline
    cases hdeadline

end Foxtrot
