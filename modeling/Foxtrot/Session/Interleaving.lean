import Foxtrot.Foundation.TransitionSystem
import Foxtrot.Session.Ownership
import Mathlib.Logic.Function.Basic

/-!
# Interleaved clients of the session manager

Any number of clients call the session manager at the same time, and each critical section
under `_sessionmut` is one step. `close_session`, `renew_session` and `update_session_states`
are one section each. `start_session` is not: every look-up of `check_requested_items` takes
and releases the lock, the expiry check runs without it, and the final block takes it again
(`commit`). Between those steps the other clients, the expiry update and the clock move freely.

Nothing in the code re-checks ownership in the final block, so two calls that request the same
item can both pass their look-ups and both commit (`startSession_race`). `FreshCommit` is the
condition this leaves to luck: a commit is made in a state where the look-ups of the call,
repeated, would still find no owner. Under it ownership is exclusive in every reachable state
(`exclusive_of_freshCommit`) and removing sessions is local (`localRemoval_of_freshCommit`).
Calls of `start_session` that do not overlap always commit fresh (`freshCommit_of_noOverlap`).
-/

namespace Foxtrot

open SessionManager

/-- Where a client stands in `start_session`; `now` is the clock reading at its entry. -/
inductive StartPc where
  /-- Not in a call. -/
  | idle
  /-- In the loop over the requested devices, `rest` still to be looked up. -/
  | checkDevices (call : StartCall) (now : Int) (rest : List UInt32)
  /-- In the loop over the requested flags, `rest` still to be looked up. -/
  | checkFlags (call : StartCall) (now : Int) (rest : List String)
  /-- Before the check of the requested expiry. -/
  | checkExpiry (call : StartCall) (now : Int)
  /-- Before the final block. -/
  | ready (call : StartCall) (now : Int)
  deriving DecidableEq

/-- The next step of a `start_session` call before its final block, in the state `sm` and at
clock reading `clock`. A thrown exception ends the call. -/
def StartPc.advance (sm : SessionManager) (clock : Int) : StartPc → Option StartPc
  | .checkDevices call now (d :: rest) =>
    match rejectOwned (sm.whoOwnsDevice d) with
    | .ok () => some (.checkDevices call now rest)
    | .error _ => some .idle
  | .checkDevices call now [] => some (.checkFlags call now (call.flagsRequested.getD []))
  | .checkFlags call now (f :: rest) =>
    match rejectOwned (sm.whoOwnsFlag f) with
    | .ok () => some (.checkFlags call now rest)
    | .error _ => some .idle
  | .checkFlags call now [] => some (.checkExpiry call now)
  | .checkExpiry call now =>
    match sm.checkOptionalExpiry clock call.requestedExpiry with
    | .ok () => some (.ready call now)
    | .error _ => some .idle
  | .ready _ _ => none
  | .idle => none

/-- The session manager, the clients of type `ι` that use it, and the clock. -/
structure Sessions (ι : Type) where
  mgr : SessionManager
  client : ι → StartPc
  clock : Int

/-- The steps of the clients, of the expiry update and of the clock. -/
inductive SessionLabel (ι : Type) where
  /-- Client `c` calls `start_session`. -/
  | enter (c : ι) (call : StartCall)
  /-- Client `c` makes its next look-up or check. -/
  | advance (c : ι)
  /-- Client `c` runs the final block with the drawn secret. -/
  | commit (c : ι) (secret : Sessionid)
  | close (secret : Sessionid)
  | renew (secret : Sessionid) (requestedExpiry : Option Int)
  | update
  | tick (now : Int)

section System

variable {ι : Type} [DecidableEq ι] (ord : SecretOrder)

/-- One step of the interleaved system. -/
def Sessions.step (s : Sessions ι) : SessionLabel ι → Option (Sessions ι)
  | .enter c call =>
    if s.client c = .idle then
      let pc := .checkDevices call s.clock (call.devicesRequested.getD [])
      some { s with client := Function.update s.client c pc }
    else none
  | .advance c => ((s.client c).advance s.mgr s.clock).map fun pc =>
      { s with client := Function.update s.client c pc }
  | .commit c secret =>
    match s.client c with
    -- the look-ups of the call are not repeated here
    | .ready call now => some
        { s with
          mgr := s.mgr.commitSession call now secret
          client := Function.update s.client c .idle }
    | _ => none
  | .close secret =>
    (s.mgr.settle ((s.mgr.closeSession ord secret).map Prod.fst)).map fun mgr => { s with mgr }
  | .renew secret req =>
    (s.mgr.settle ((s.mgr.renewSession secret req s.clock).map Prod.fst)).map fun mgr =>
      { s with mgr }
  | .update =>
    (s.mgr.settle (s.mgr.updateSessionStates ord s.clock)).map fun mgr => { s with mgr }
  | .tick now => if s.clock ≤ now then some { s with clock := now } else none

/-- The clients of type `ι` on a new session manager. -/
def sessionSystem (ι : Type) [DecidableEq ι] (ord : SecretOrder) (sessionLength : Int) :
    TransitionSystem (Sessions ι) (SessionLabel ι) where
  init := ⟨SessionManager.new sessionLength, fun _ => .idle, 0⟩
  step := Sessions.step ord

variable {ord} {s s' : Sessions ι} {l : SessionLabel ι} {sm sm' : SessionManager}

/-- A removing step either removes sessions or leaves the manager as it was. -/
theorem removed_of_closing (hl : l = .update ∨ ∃ secret, l = .close secret)
    (h : s.step ord l = some s') : ∃ R, Removed s.mgr s'.mgr R := by
  rcases hl with rfl | ⟨secret, rfl⟩
  · obtain ⟨m, hm, rfl⟩ := Option.map_eq_some_iff.mp h
    rcases settle_cases hm with ⟨-, -, rfl⟩ | hok
    · exact ⟨_, .refl _⟩
    · exact ⟨_, removed_of_updateSessionStates hok⟩
  · obtain ⟨m, hm, rfl⟩ := Option.map_eq_some_iff.mp h
    rcases settle_cases hm with ⟨-, -, rfl⟩ | hok
    · exact ⟨_, .refl _⟩
    rcases hclose : s.mgr.closeSession ord secret with e | ⟨m', b⟩
    · rw [hclose] at hok; cases hok
    · rw [hclose] at hok
      obtain rfl := Except.ok.inj hok
      rcases closeSession_cases hclose with ⟨-, -, rfl⟩ | ⟨-, id, -, hrem⟩
      · exact ⟨_, .refl _⟩
      · exact ⟨_, hrem⟩

/-- **What a step can do to the session manager.** -/
theorem step_mgr_cases (h : s.step ord l = some s') :
    s'.mgr = s.mgr ∨
    (∃ c call now secret, l = .commit c secret ∧ s.client c = .ready call now ∧
      s'.mgr = s.mgr.commitSession call now secret) ∨
    (∃ R, Removed s.mgr s'.mgr R) ∨
    ∃ secret req id ses, l = .renew secret req ∧ s.mgr.sessionmap.lookup id = some ses ∧
      s.mgr.renewSession secret req s.clock = .ok (s'.mgr, true) ∧
      s'.mgr = s.mgr.withExpiry id ses (req.getD (s.clock + s.mgr.sessionLength)) := by
  rcases l with ⟨c, call⟩ | c | ⟨c, secret⟩ | secret | ⟨secret, req⟩ | _ | now
  · simp only [Sessions.step] at h
    split_ifs at h
    obtain rfl := Option.some.inj h
    exact .inl rfl
  · obtain ⟨pc, -, rfl⟩ := Option.map_eq_some_iff.mp h
    exact .inl rfl
  · simp only [Sessions.step] at h
    split at h
    next call now hpc =>
      obtain rfl := Option.some.inj h
      exact .inr (.inl ⟨c, call, now, secret, rfl, hpc, rfl⟩)
    · cases h
  · exact .inr (.inr (.inl (removed_of_closing (.inr ⟨secret, rfl⟩) h)))
  · obtain ⟨m, hm, rfl⟩ := Option.map_eq_some_iff.mp h
    -- a renewal that throws leaves the manager
    rcases settle_cases hm with ⟨-, -, rfl⟩ | hok
    · exact .inl rfl
    rcases hrenew : s.mgr.renewSession secret req s.clock with e | ⟨m', b⟩
    · rw [hrenew] at hok; cases hok
    · rw [hrenew] at hok
      obtain rfl := Except.ok.inj hok
      rcases renewSession_cases hrenew with ⟨-, -, rfl⟩ | ⟨rfl, id, ses, -, hs, -, rfl⟩
      · exact .inl rfl
      · exact .inr (.inr (.inr ⟨secret, req, id, ses, rfl, hs, hrenew, rfl⟩))
  · exact .inr (.inr (.inl (removed_of_closing (.inl rfl) h)))
  · simp only [Sessions.step] at h
    split_ifs at h
    obtain rfl := Option.some.inj h
    exact .inl rfl

/-! ### Fresh commits -/

/-- The condition on a commit: the look-ups of the call, repeated in the state in which it
commits, would still find no owner. -/
def FreshCommit (s : Sessions ι) : SessionLabel ι → Prop
  | .commit c _ =>
    match s.client c with
    | .ready call _ => s.mgr.ChecksPass call
    | _ => True
  | _ => True

omit [DecidableEq ι] in
/-- A fresh commit is of a call whose checks pass still. -/
private theorem FreshCommit.checksPass {c : ι} {call : StartCall} {now : Int} {secret : Sessionid}
    (hl : FreshCommit s (.commit c secret)) (hpc : s.client c = .ready call now) :
    s.mgr.ChecksPass call := by
  simpa only [FreshCommit, hpc] using hl

/-- With fresh commits the caches record everything the live sessions list. -/
theorem covered_of_freshCommit {len : Int}
    (h : (sessionSystem ι ord len).ReachableWhile FreshCommit s) : s.mgr.Covered := by
  refine h.invariant (P := fun s => s.mgr.Covered) (covered_new len) ?_
  intro s l s' _ hcov hl hstep
  rcases step_mgr_cases hstep with heq | ⟨c, call, now, secret, rfl, hpc, heq⟩ | ⟨R, hrem⟩ |
    ⟨secret, req, id, ses, rfl, hs, -, heq⟩
  · rw [heq]; exact hcov
  · rw [heq]; exact hcov.commit (hl.checksPass hpc)
  · exact hcov.removed hrem
  · rw [heq]; exact hcov.withExpiry hs

/-- **Exclusive ownership**: when every `start_session` commits fresh, no device id and no flag
name is listed by two live sessions, in any state the interleaved clients reach. -/
theorem exclusive_of_freshCommit {len : Int}
    (h : (sessionSystem ι ord len).ReachableWhile FreshCommit s) : s.mgr.Exclusive :=
  (covered_of_freshCommit h).exclusive

end System

/-! ### The race between check and commit -/

instance FreshCommit.decidable {ι : Type} (s : Sessions ι) : ∀ l, Decidable (FreshCommit s l)
  | .commit c _ =>
    match h : s.client c with
    | .ready call _ => decidable_of_iff (s.mgr.ChecksPass call) (by simp [FreshCommit, h])
    | .idle | .checkDevices _ _ _ | .checkFlags _ _ _ | .checkExpiry _ _ =>
      isTrue (by simp [FreshCommit, h])
  | .enter _ _ | .advance _ | .close _ | .renew _ _ | .update | .tick _ => isTrue trivial

/-- A `start_session` call that asks for device `1`. -/
def callForDeviceOne : StartCall := ⟨"user", "comment", some [1], none, none⟩

/-- Two clients on a session manager with sessions of 100 ticks. -/
def twoClients : TransitionSystem (Sessions (Fin 2)) (SessionLabel (Fin 2)) :=
  sessionSystem (Fin 2) .entries 100

/-- Two clients check and commit side by side, asking for different items. -/
def disjointTrace : List (SessionLabel (Fin 2)) :=
  [.enter 0 callForDeviceOne, .enter 1 ⟨"other", "", some [2], some ["flag"], none⟩,
   .advance 0, .advance 1, .advance 0, .advance 1, .advance 0, .advance 1, .advance 0, .advance 1,
   .advance 1, .commit 0 (Vector.replicate 32 0), .commit 1 (Vector.replicate 32 1)]

theorem exclusive_of_freshCommit_disjointTrace :
    ∃ s, twoClients.run twoClients.init disjointTrace = some s ∧ s.mgr.Exclusive := by
  obtain ⟨s, hs⟩ : ∃ s, twoClients.run twoClients.init disjointTrace = some s :=
    Option.isSome_iff_exists.mp (by decide)
  have hreach : (sessionSystem (Fin 2) .entries 100).ReachableWhile FreshCommit s :=
    TransitionSystem.ReachableWhile.init.run (by decide) hs
  exact ⟨s, hs, exclusive_of_freshCommit hreach⟩

/-- Two clients ask for the same device; both make all their look-ups before either commits. -/
def raceTrace : List (SessionLabel (Fin 2)) :=
  [.enter 0 callForDeviceOne, .enter 1 callForDeviceOne,
   .advance 0, .advance 1, .advance 0, .advance 1, .advance 0, .advance 1, .advance 0, .advance 1,
   .commit 0 (Vector.replicate 32 0), .commit 1 (Vector.replicate 32 1)]

/-- After the race both sessions list the device. -/
private theorem raceTrace_lists : ∃ s, twoClients.run twoClients.init raceTrace = some s ∧
    (∃ a, s.mgr.sessionmap.lookup 0 = some a ∧ 1 ∈ a.devices) ∧
    ∃ b, s.mgr.sessionmap.lookup 1 = some b ∧ 1 ∈ b.devices := by
  have h : (twoClients.run twoClients.init raceTrace).map (fun s =>
      ((s.mgr.sessionmap.lookup 0).map (·.devices), (s.mgr.sessionmap.lookup 1).map (·.devices)))
      = some (some [1], some [1]) := by decide
  obtain ⟨s, hs, hlists⟩ := Option.map_eq_some_iff.mp h
  obtain ⟨h₀, h₁⟩ := Prod.mk.inj hlists
  obtain ⟨a, ha, hda⟩ := Option.map_eq_some_iff.mp h₀
  obtain ⟨b, hb, hdb⟩ := Option.map_eq_some_iff.mp h₁
  exact ⟨s, hs, ⟨a, ha, by simp [hda]⟩, b, hb, by simp [hdb]⟩

/-- **Two clients can own the same device**: both calls pass their look-ups before either
commits, and both commit. -/
theorem startSession_race : ∃ s, twoClients.Reachable s ∧ ¬ s.mgr.Exclusive := by
  obtain ⟨s, hs, ⟨a, ha, hda⟩, b, hb, hdb⟩ := raceTrace_lists
  refine ⟨s, TransitionSystem.reachable_of_run hs, fun hexcl => ?_⟩
  exact (hexcl 0 1 a b ha hb (by decide)).1 1 hda hdb

/-! ### Removal under interleaving -/

section Removal

variable {ι : Type} [DecidableEq ι] {ord : SecretOrder} {s s' : Sessions ι} {l : SessionLabel ι}

/-- **Closing or expiring is local**: when every `start_session` commits fresh, a
`close_session` or an expiry update changes nothing about the sessions that stay and leaves
nothing behind of those it removes. -/
theorem localRemoval_of_freshCommit {len : Int}
    (h : (sessionSystem ι ord len).ReachableWhile FreshCommit s)
    (hl : l = .update ∨ ∃ secret, l = .close secret) (hstep : s.step ord l = some s') :
    LocalRemoval s.mgr s'.mgr := by
  obtain ⟨R, hrem⟩ := removed_of_closing hl hstep
  exact (covered_of_freshCommit h).localRemoval hrem

end Removal

theorem localRemoval_of_freshCommit_disjointTrace :
    ∃ s s', twoClients.run twoClients.init disjointTrace = some s ∧
      s.step .entries (.close (Vector.replicate 32 0)) = some s' ∧
      s'.mgr.sessionmap.keys = [1] ∧ LocalRemoval s.mgr s'.mgr := by
  have h : ((twoClients.run twoClients.init disjointTrace).bind fun s =>
      (s.step .entries (.close (Vector.replicate 32 0))).map (·.mgr.sessionmap.keys))
      = some [1] := by decide
  obtain ⟨s, hs, hclose⟩ := Option.bind_eq_some_iff.mp h
  obtain ⟨s', hs', hkeys⟩ := Option.map_eq_some_iff.mp hclose
  have hreach : (sessionSystem (Fin 2) .entries 100).ReachableWhile FreshCommit s :=
    TransitionSystem.ReachableWhile.init.run (by decide) hs
  exact ⟨s, s', hs, hs', hkeys, localRemoval_of_freshCommit hreach (.inr ⟨_, rfl⟩) hs'⟩

/-- **After the race a removal is not local**: closing the first session erases the cache entry
of the device that the second one lists. -/
theorem startSession_race_not_local : ∃ s s', twoClients.Reachable s ∧
    s.step .entries (.close (Vector.replicate 32 0)) = some s' ∧
    ¬ LocalRemoval s.mgr s'.mgr := by
  have h : ((twoClients.run twoClients.init raceTrace).bind fun s =>
      (s.step .entries (.close (Vector.replicate 32 0))).map fun s' =>
        (s'.mgr.sessionmap.keys, (s.mgr.sessionmap.lookup 1).map (·.devices),
          decide (s.mgr.whoOwnsDevice 1 = .ok none), s'.mgr.whoOwnsDevice 1))
      = some ([1], some [1], false, .ok none) := by decide
  obtain ⟨s, hs, hclose⟩ := Option.bind_eq_some_iff.mp h
  obtain ⟨s', hs', hfacts⟩ := Option.map_eq_some_iff.mp hclose
  simp only [Prod.mk.injEq, decide_eq_false_iff_not, Option.map_eq_some_iff] at hfacts
  obtain ⟨hkeys, ⟨b, hb, hdb⟩, howned, hunowned⟩ := hfacts
  refine ⟨s, s', TransitionSystem.reachable_of_run hs, hs', fun hlocal => howned ?_⟩
  have hlive : 1 ∈ s'.mgr.sessionmap := by rw [AList.mem_keys, hkeys]; simp
  rw [← hlocal.device_of_live 1 hlive b hb 1 (by simp [hdb])]
  exact hunowned

/-! ### Calls that do not overlap -/

section NoOverlap

variable {ι : Type} [DecidableEq ι] {ord : SecretOrder} {s s' : Sessions ι} {l : SessionLabel ι}
  {sm sm' : SessionManager}

/-- The condition on a commit that no other client is inside `start_session`. -/
def NoOverlap (s : Sessions ι) : SessionLabel ι → Prop
  | .commit c _ => ∀ c', c' ≠ c → s.client c' = .idle
  | _ => True

/-- What a call has looked up so far is unowned. -/
def StartPc.Checked (sm : SessionManager) : StartPc → Prop
  | .idle => True
  | .checkDevices call _ rest => ∃ done, call.devicesRequested.getD [] = done ++ rest ∧
      ∀ d ∈ done, sm.whoOwnsDevice d = .ok none
  | .checkFlags call _ rest =>
      (∀ d ∈ call.devicesRequested.getD [], sm.whoOwnsDevice d = .ok none) ∧
      ∃ done, call.flagsRequested.getD [] = done ++ rest ∧
        ∀ f ∈ done, sm.whoOwnsFlag f = .ok none
  | .checkExpiry call _ => sm.ChecksPass call
  | .ready call _ => sm.ChecksPass call

/-- Unowned items stay unowned. -/
def KeepsUnowned (sm sm' : SessionManager) : Prop :=
  (∀ d, sm.whoOwnsDevice d = .ok none → sm'.whoOwnsDevice d = .ok none) ∧
    ∀ f, sm.whoOwnsFlag f = .ok none → sm'.whoOwnsFlag f = .ok none

/-- What has been checked stays so, where no owner is added. -/
theorem StartPc.Checked.mono {pc : StartPc} (h : pc.Checked sm) (hk : KeepsUnowned sm sm') :
    pc.Checked sm' := by
  have hpass : ∀ {call}, sm.ChecksPass call → sm'.ChecksPass call := fun hp => by
    rw [checksPass_iff] at hp ⊢
    exact ⟨fun d hd => hk.1 d (hp.1 d hd), fun f hf => hk.2 f (hp.2 f hf)⟩
  rcases pc with _ | ⟨call, now, rest⟩ | ⟨call, now, rest⟩ | ⟨call, now⟩ | ⟨call, now⟩
  · trivial
  · obtain ⟨done, heq, hdone⟩ := h
    exact ⟨done, heq, fun d hd => hk.1 d (hdone d hd)⟩
  · obtain ⟨hdev, done, heq, hdone⟩ := h
    exact ⟨fun d hd => hk.1 d (hdev d hd), done, heq, fun f hf => hk.2 f (hdone f hf)⟩
  · exact hpass h
  · exact hpass h

private theorem rejectOwned_eq_ok_iff {r : Except SessionError (Option FtSessionInfo)} :
    rejectOwned r = .ok () ↔ r = .ok none := by
  rcases r with e | _ | ses <;> simp [rejectOwned]

/-- A look-up that finds no owner extends the items found to be unowned. -/
private theorem unowned_concat {α : Type} {look : α → Except SessionError (Option FtSessionInfo)}
    {done : List α} {item : α} (hdone : ∀ a ∈ done, look a = .ok none)
    (hfree : rejectOwned (look item) = .ok ()) : ∀ a ∈ done ++ [item], look a = .ok none := by
  intro a ha
  rcases List.mem_append.mp ha with ha | ha
  · exact hdone a ha
  · obtain rfl := List.mem_singleton.mp ha
    exact rejectOwned_eq_ok_iff.mp hfree

/-- Each look-up adds its item to the unowned ones, or ends the call. -/
theorem StartPc.Checked.advance {pc pc' : StartPc} {clock : Int} (h : pc.Checked sm)
    (hpc : pc.advance sm clock = some pc') : pc'.Checked sm := by
  rcases pc with _ | ⟨call, now, rest⟩ | ⟨call, now, rest⟩ | ⟨call, now⟩ | ⟨call, now⟩
  · cases hpc
  · obtain ⟨done, heq, hdone⟩ := h
    rcases rest with _ | ⟨d, rest⟩
    · -- all devices are looked up, and no flag yet
      obtain rfl := Option.some.inj hpc
      rw [List.append_nil] at heq
      exact ⟨fun d hd => hdone d (heq ▸ hd), [], rfl, by simp⟩
    · rw [StartPc.advance] at hpc
      split at hpc
      next hfree =>
        obtain rfl := Option.some.inj hpc
        exact ⟨done ++ [d], by simp [heq], unowned_concat hdone hfree⟩
      next => obtain rfl := Option.some.inj hpc; trivial
  · obtain ⟨hdev, done, heq, hdone⟩ := h
    rcases rest with _ | ⟨f, rest⟩
    · -- devices and flags are looked up; only the expiry is left
      obtain rfl := Option.some.inj hpc
      rw [List.append_nil] at heq
      exact checksPass_iff.mpr ⟨hdev, fun f hf => hdone f (heq ▸ hf)⟩
    · rw [StartPc.advance] at hpc
      split at hpc
      next hfree =>
        obtain rfl := Option.some.inj hpc
        exact ⟨hdev, done ++ [f], by simp [heq], unowned_concat hdone hfree⟩
      next => obtain rfl := Option.some.inj hpc; trivial
  · rw [StartPc.advance] at hpc
    split at hpc
    next => obtain rfl := Option.some.inj hpc; exact h
    next => obtain rfl := Option.some.inj hpc; trivial
  · cases hpc

private theorem keepsUnowned_removed {R : Set UInt16} (hrem : Removed sm sm' R) :
    KeepsUnowned sm sm' := by
  constructor
  · intro d hd
    rw [← deviceLedger_eq_none_iff] at hd ⊢
    rw [hrem.deviceLedger_eq, Ledger.strike, hd, ite_self]
  · intro f hf
    rw [← flagLedger_eq_none_iff] at hf ⊢
    rw [hrem.flagLedger_eq, Ledger.strike, hf, ite_self]

private theorem keepsUnowned_withExpiry {id : UInt16} {ses : FtSessionInfo} {expiry : Int} :
    KeepsUnowned sm (sm.withExpiry id ses expiry) := by
  constructor
  · intro d hd
    rw [← deviceLedger_eq_none_iff] at hd ⊢
    exact hd
  · intro f hf
    rw [← flagLedger_eq_none_iff] at hf ⊢
    exact hf

/-- What a step can do to a client: enter, advance, end with a commit, or nothing. -/
theorem step_client_cases (h : s.step ord l = some s') (c : ι) :
    s'.client c = s.client c ∨ s'.client c = .idle ∨
    (∃ call, s'.client c = .checkDevices call s.clock (call.devicesRequested.getD [])) ∨
    (s'.mgr = s.mgr ∧ (s.client c).advance s.mgr s.clock = some (s'.client c)) := by
  rcases l with ⟨c', call⟩ | c' | ⟨c', secret⟩ | secret | ⟨secret, req⟩ | _ | now
  · simp only [Sessions.step] at h
    split_ifs at h
    obtain rfl := Option.some.inj h
    by_cases hc : c = c'
    · subst hc; exact .inr (.inr (.inl ⟨call, by simp⟩))
    · exact .inl (by simp [hc])
  · obtain ⟨pc, hpc, rfl⟩ := Option.map_eq_some_iff.mp h
    by_cases hc : c = c'
    · subst hc; exact .inr (.inr (.inr ⟨rfl, by simpa using hpc⟩))
    · exact .inl (by simp [hc])
  · simp only [Sessions.step] at h
    split at h
    next call now hpc =>
      obtain rfl := Option.some.inj h
      by_cases hc : c = c'
      · subst hc; exact .inr (.inl (by simp))
      · exact .inl (by simp [hc])
    · cases h
  · obtain ⟨m, -, rfl⟩ := Option.map_eq_some_iff.mp h
    exact .inl rfl
  · obtain ⟨m, -, rfl⟩ := Option.map_eq_some_iff.mp h
    exact .inl rfl
  · obtain ⟨m, -, rfl⟩ := Option.map_eq_some_iff.mp h
    exact .inl rfl
  · simp only [Sessions.step] at h
    split_ifs at h
    obtain rfl := Option.some.inj h
    exact .inl rfl

/-- Without overlap, what a client has looked up stays unowned until it commits. -/
theorem checked_of_noOverlap {len : Int}
    (h : (sessionSystem ι ord len).ReachableWhile NoOverlap s) (c : ι) :
    (s.client c).Checked s.mgr := by
  refine h.invariant (P := fun s => ∀ c, (s.client c).Checked s.mgr) (fun _ => trivial) ?_ c
  intro s l s' _ hchk hl hstep c
  rcases step_client_cases hstep c with hc | hc | ⟨call, hc⟩ | ⟨hmgr, hadv⟩
  · rw [hc]
    rcases step_mgr_cases hstep with heq | ⟨c', call, now, secret, rfl, hpc, heq⟩ | ⟨R, hrem⟩ |
      ⟨secret, req, id, ses, rfl, -, -, heq⟩
    · rw [heq]; exact hchk c
    · -- another client commits, so this one is idle; the committing one ends its call
      by_cases hcc : c = c'
      · subst hcc
        simp only [sessionSystem, Sessions.step, hpc] at hstep
        obtain rfl := Option.some.inj hstep
        simp [hpc] at hc
      · rw [hl c hcc]; trivial
    · exact (hchk c).mono (keepsUnowned_removed hrem)
    · rw [heq]; exact (hchk c).mono keepsUnowned_withExpiry
  · rw [hc]; trivial
  · rw [hc]; exact ⟨[], rfl, by simp⟩
  · rw [hmgr]; exact (hchk c).advance hadv

/-- **Calls that do not overlap commit fresh.** -/
theorem freshCommit_of_noOverlap {len : Int}
    (h : (sessionSystem ι ord len).ReachableWhile NoOverlap s) (l : SessionLabel ι) :
    FreshCommit s l := by
  rcases l with _ | _ | ⟨c, secret⟩ | _ | _ | _ | _
  · trivial
  · trivial
  · have hchk := checked_of_noOverlap h c
    simp only [FreshCommit]
    split
    next call now hpc => rwa [hpc] at hchk
    · trivial
  all_goals trivial

/-- Without overlap every reached state is reached with fresh commits only. -/
theorem reachableWhile_freshCommit_of_noOverlap {len : Int}
    (h : (sessionSystem ι ord len).ReachableWhile NoOverlap s) :
    (sessionSystem ι ord len).ReachableWhile FreshCommit s :=
  h.mono fun _ l hs _ => freshCommit_of_noOverlap hs l

end NoOverlap

end Foxtrot
