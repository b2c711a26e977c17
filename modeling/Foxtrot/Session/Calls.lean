import Foxtrot.Session.Registry

/-!
# Calls one after the other

`SessionCall` is one call on the session manager together with what the world supplies to it:
its clock readings and the secret it draws. `perform` runs it. A call that throws leaves the
manager as it was, and a call that reports failure does so too.

The effect of a successful call on the registry of leases is a single event (`SessionCall.event`):
starting grants a lease, renewing replaces it, closing drops it and the expiry update sweeps the
book at its clock reading. This needs the manager to be linked, and of a start that is accepted
that its id is available and its secret not in use (`IdAvailable`, `SecretFree`). Then the
manager stays linked (`Linked.perform`), the event is the effect (`Linked.perform_event`), and
no call runs into undefined behaviour (`Linked.perform_ne_undefinedBehaviour`).

Every check of a start comes before its commit, so a start that throws has changed nothing, and one
that commits has passed all of them: the proof of `Linked.perform` needs only the commit, and the
two conditions are on the state before it.
-/

namespace Foxtrot

open LeaseBook

/-- One call on the session manager, with its clock readings and the secret it draws. -/
inductive SessionCall where
  | start (call : StartCall) (now chk : Int) (secret : Sessionid)
  | renew (secret : Sessionid) (requestedExpiry : Option Int) (now : Int)
  | close (secret : Sessionid)
  | update (now : Int)
  deriving DecidableEq

namespace SessionManager

variable {ord : SecretOrder} {sm sm' : SessionManager} {c : SessionCall}

variable (ord) in
/-- The manager after a call. -/
def perform (sm : SessionManager) : SessionCall → Except SessionError SessionManager
  | .start call now chk secret => (sm.startSession call now chk secret).map Prod.fst
  | .renew secret req now => (sm.renewSession secret req now).map Prod.fst
  | .close secret => (sm.closeSession ord secret).map Prod.fst
  | .update now => sm.updateSessionStates ord now

/-! ### The conditions on a start -/

/-- The request passes every check of `start_session`, the expiry at clock reading `chk`. -/
def Accepts (sm : SessionManager) (call : StartCall) (chk : Int) : Prop :=
  sm.ChecksPass call ∧ sm.checkOptionalExpiry chk call.requestedExpiry = .ok ()

instance Accepts.decidable (call : StartCall) (chk : Int) : Decidable (sm.Accepts call chk) :=
  inferInstanceAs (Decidable (_ ∧ _))

/-- `start_session` commits exactly when it accepts the request. -/
theorem startSession_eq_ok_iff_accepts {call : StartCall} {now chk : Int} {secret : Sessionid}
    {r : SessionManager × Sessionid × UInt16} :
    sm.startSession call now chk secret = .ok r ↔ sm.Accepts call chk ∧
      r = (sm.commitSession call now secret, secret, sm.issuedSessionId) := by
  rw [startSession_eq_ok_iff, Accepts, checksPass_iff]
  simp only [and_assoc]

/-- An accepted start is not made while the ids `65535` and `0` are both live. -/
def IdAvailable (sm : SessionManager) : SessionCall → Prop
  | .start call _ chk _ => sm.Accepts call chk → 65535 ∈ sm.sessionmap → 0 ∉ sm.sessionmap
  | _ => True

/-- An accepted start does not draw a secret that is in use. -/
def SecretFree (sm : SessionManager) : SessionCall → Prop
  | .start call _ chk secret => sm.Accepts call chk → secret ∉ sm.sessionidmap
  | _ => True

instance IdAvailable.decidable (sm : SessionManager) : ∀ c, Decidable (sm.IdAvailable c)
  | .start call _ chk _ => inferInstanceAs (Decidable (sm.Accepts call chk → _ → _))
  | .renew _ _ _ | .close _ | .update _ => inferInstanceAs (Decidable True)

instance SecretFree.decidable (sm : SessionManager) : ∀ c, Decidable (sm.SecretFree c)
  | .start call _ chk _ => inferInstanceAs (Decidable (sm.Accepts call chk → _))
  | .renew _ _ _ | .close _ | .update _ => inferInstanceAs (Decidable True)

/-! ### Calls as events of the registry -/

/-- The event of the registry that a successful call amounts to. -/
def event (sm : SessionManager) : SessionCall → Option (Event Sessionid FtSessionInfo Int)
  | .start call now _ secret => some (.grant secret (sm.newSession call now))
  | .renew secret req now => (sm.sessionOf secret).map fun ses =>
      .renew secret { ses with expiry := req.getD (now + sm.sessionLength) }
  | .close secret => some (.drop secret)
  | .update now => some (.sweep now)

/-- **What a successful call does**: a report of failure changes nothing, a start commits, a
renewal sets an expiry, and a close or an update removes sessions. -/
theorem perform_cases (h : sm.perform ord c = .ok sm') :
    sm' = sm ∨
    (∃ call now chk secret, c = .start call now chk secret ∧ sm.Accepts call chk ∧
      sm' = sm.commitSession call now secret) ∨
    (∃ secret req now id ses, c = .renew secret req now ∧
      sm.sessionidmap.lookup secret = some id ∧ sm.sessionmap.lookup id = some ses ∧
      sm.checkOptionalExpiry now req = .ok () ∧
      sm' = sm.withExpiry id ses (req.getD (now + sm.sessionLength))) ∨
    (∃ secret id, c = .close secret ∧ sm.sessionidmap.lookup secret = some id ∧
      Removed sm sm' {id}) ∨
    ∃ now, c = .update now ∧
      Removed sm sm' {id | ∃ s, sm.sessionmap.lookup id = some s ∧ s.expiry < now} := by
  rcases c with ⟨call, now, chk, secret⟩ | ⟨secret, req, now⟩ | secret | now
  · rcases hstart : sm.startSession call now chk secret with e | r
    · simp [perform, hstart, Except.map] at h
    · obtain ⟨hacc, rfl⟩ := startSession_eq_ok_iff_accepts.mp hstart
      simp only [perform, hstart, Except.map, Except.ok.injEq] at h
      exact .inr (.inl ⟨call, now, chk, secret, rfl, hacc, h.symm⟩)
  · rcases hrenew : sm.renewSession secret req now with e | ⟨m, b⟩
    · simp [perform, hrenew, Except.map] at h
    · simp only [perform, hrenew, Except.map, Except.ok.injEq] at h
      subst h
      -- `renew_session` and `close_session` return false where the secret is not known
      rcases renewSession_cases hrenew with ⟨-, -, rfl⟩ | ⟨-, id, ses, hid, hs, hchk, rfl⟩
      · exact .inl rfl
      · exact .inr (.inr (.inl ⟨secret, req, now, id, ses, rfl, hid, hs, hchk, rfl⟩))
  · rcases hclose : sm.closeSession ord secret with e | ⟨m, b⟩
    · simp [perform, hclose, Except.map] at h
    · simp only [perform, hclose, Except.map, Except.ok.injEq] at h
      subst h
      rcases closeSession_cases hclose with ⟨-, -, rfl⟩ | ⟨-, id, hid, hrem⟩
      · exact .inl rfl
      · exact .inr (.inr (.inr (.inl ⟨secret, id, rfl, hid, hrem⟩)))
  · exact .inr (.inr (.inr (.inr ⟨now, rfl, removed_of_updateSessionStates h⟩)))

theorem CoveredExactly.perform (hcov : sm.CoveredExactly) (hid : sm.IdAvailable c)
    (h : sm.perform ord c = .ok sm') : sm'.CoveredExactly := by
  rcases perform_cases h with rfl | ⟨call, now, chk, secret, rfl, hacc, rfl⟩ |
    ⟨secret, req, now, id, ses, rfl, -, hs, -, rfl⟩ | ⟨secret, id, rfl, -, hrem⟩ |
    ⟨now, rfl, hrem⟩
  · exact hcov
  · exact hcov.commit hacc.1 (issuedSessionId_notMem_iff.mpr (hid hacc))
  · exact hcov.withExpiry hs
  · exact hcov.removed hrem
  · exact hcov.removed hrem

theorem Covered.perform (hcov : sm.Covered) (h : sm.perform ord c = .ok sm') : sm'.Covered := by
  rcases perform_cases h with rfl | ⟨call, now, chk, secret, rfl, hacc, rfl⟩ |
    ⟨secret, req, now, id, ses, rfl, -, hs, -, rfl⟩ | ⟨secret, id, rfl, -, hrem⟩ |
    ⟨now, rfl, hrem⟩
  · exact hcov
  · exact hcov.commit hacc.1
  · exact hcov.withExpiry hs
  · exact hcov.removed hrem
  · exact hcov.removed hrem

theorem Linked.perform (hlinked : sm.Linked) (hid : sm.IdAvailable c) (hsec : sm.SecretFree c)
    (h : sm.perform ord c = .ok sm') : sm'.Linked := by
  rcases perform_cases h with rfl | ⟨call, now, chk, secret, rfl, hacc, rfl⟩ |
    ⟨secret, req, now, id, ses, rfl, -, hs, -, rfl⟩ | ⟨secret, id, rfl, -, hrem⟩ |
    ⟨now, rfl, hrem⟩
  · exact hlinked
  · exact hlinked.commit (issuedSessionId_notMem_iff.mpr (hid hacc)) (hsec hacc)
  · exact hlinked.withExpiry hs
  · exact hlinked.removed hrem
  · exact hlinked.removed hrem

/-- Removing the expired sessions sweeps the registry. -/
theorem Linked.sessionOf_expired (hlinked : sm.Linked) {now : Int}
    (hrem : Removed sm sm' {id | ∃ s, sm.sessionmap.lookup id = some s ∧ s.expiry < now}) :
    sm'.sessionOf = (Event.sweep now).apply FtSessionInfo.expiry sm.sessionOf := by
  funext σ
  refine Option.ext fun ses => ?_
  rw [hlinked.sessionOf_removed hrem, apply_sweep]
  refine and_congr_right fun hses => ?_
  obtain ⟨id, -, hs⟩ := sessionOf_eq_some_iff.mp hses
  rw [hlinked.key_eq id ses hs, Set.mem_ofPred_eq, hs]
  simp

/-- Removing the session of a secret drops it from the registry. -/
theorem Linked.sessionOf_closed (hlinked : sm.Linked) {secret : Sessionid} {id : UInt16}
    (hid : sm.sessionidmap.lookup secret = some id) (hrem : Removed sm sm' {id}) :
    sm'.sessionOf = Function.update sm.sessionOf secret none := by
  funext σ
  by_cases hσ : σ = secret
  · subst hσ
    rw [Function.update_self, sessionOf, hlinked.secret_removed hrem hid rfl]
    rfl
  · rw [Function.update_of_ne hσ]
    refine Option.ext fun ses => ?_
    rw [hlinked.sessionOf_removed hrem]
    refine and_iff_left_of_imp fun hses => ?_
    obtain ⟨i, hi, hs⟩ := sessionOf_eq_some_iff.mp hses
    rw [hlinked.key_eq i ses hs]
    rintro rfl
    exact hσ (hlinked.secret_unique σ secret i hi hid)

/-- **A successful call is one event of the registry**, or leaves the manager alone. -/
theorem Linked.perform_event (hlinked : sm.Linked) (hid : sm.IdAvailable c)
    (hsec : sm.SecretFree c) (h : sm.perform ord c = .ok sm') :
    sm' = sm ∨ ∃ ev, sm.event c = some ev ∧ ev.Enabled sm.sessionOf ∧
      sm'.sessionOf = ev.apply FtSessionInfo.expiry sm.sessionOf := by
  rcases perform_cases h with rfl | ⟨call, now, chk, secret, rfl, hacc, rfl⟩ |
    ⟨secret, req, now, id, ses, rfl, hσ, hs, -, rfl⟩ | ⟨secret, id, rfl, hσ, hrem⟩ |
    ⟨now, rfl, hrem⟩
  · exact .inl rfl
  · refine .inr ⟨_, rfl, ?_, ?_⟩
    · exact hlinked.sessionOf_eq_none_iff.mpr (hsec hacc)
    · exact hlinked.sessionOf_commit (issuedSessionId_notMem_iff.mpr (hid hacc))
  · have hses : sm.sessionOf secret = some ses := sessionOf_eq_some_iff.mpr ⟨id, hσ, hs⟩
    refine .inr ⟨_, by rw [event, hses]; rfl, ?_, ?_⟩
    · rw [Event.Enabled, hses]
      exact Option.some_ne_none ses
    · exact hlinked.sessionOf_withExpiry hs hσ
  · refine .inr ⟨_, rfl, ?_, ?_⟩
    · intro hnone
      exact hlinked.sessionOf_eq_none_iff.mp hnone (AList.mem_of_lookup hσ)
    · exact hlinked.sessionOf_closed hσ hrem
  · exact .inr ⟨_, rfl, trivial, hlinked.sessionOf_expired hrem⟩

/-! ### No call gets stuck -/

section Stuck

variable {α β : Type} {x : Except SessionError α}

private theorem bind_ne_undefinedBehaviour {f : α → Except SessionError β}
    (hx : x ≠ .error .undefinedBehaviour) (hf : ∀ a, f a ≠ .error .undefinedBehaviour) :
    x >>= f ≠ .error .undefinedBehaviour := by
  rcases x with e | a
  · intro h
    exact hx (congrArg Except.error (Except.error.inj h))
  · exact hf a

private theorem map_ne_undefinedBehaviour {f : α → β} (hx : x ≠ .error .undefinedBehaviour) :
    x.map f ≠ .error .undefinedBehaviour := by
  rcases x with e | a
  · intro h
    exact hx (congrArg Except.error (Except.error.inj h))
  · exact fun h => nomatch h

end Stuck

private theorem sessionAt_ne_undefinedBehaviour (id : UInt16) :
    sm.sessionAt id ≠ .error .undefinedBehaviour := by
  rw [sessionAt]
  split <;> simp

/-- An ownership look-up and its check raise only what the code throws. -/
private theorem rejectOwned_findInCache_ne {κ υ : Type} [DecidableEq κ] {toId : υ → UInt16}
    {map : AList fun _ : κ => υ} {val : κ} :
    rejectOwned (sm.findInCache toId map val) ≠ .error .undefinedBehaviour := by
  rw [findInCache]
  split
  next v _ =>
    rcases hat : sm.sessionAt (toId v) with e | ses
    · intro h
      obtain rfl : e = .undefinedBehaviour := Except.error.inj h
      exact sessionAt_ne_undefinedBehaviour _ hat
    · simp [Except.map, rejectOwned]
  · simp [rejectOwned]

private theorem checkRequestedItems_ne {α : Type}
    {checkfun : α → Except SessionError (Option FtSessionInfo)}
    (hfun : ∀ a, rejectOwned (checkfun a) ≠ .error .undefinedBehaviour) (items : List α) :
    checkRequestedItems checkfun items ≠ .error .undefinedBehaviour := by
  induction items with
  | nil => simp [checkRequestedItems]
  | cons a items ih =>
    rw [checkRequestedItems]
    split
    · exact ih
    next e he =>
      rintro ⟨⟩
      exact hfun a he

private theorem checkOptionalExpiry_ne_undefinedBehaviour (now : Int) (req : Option Int) :
    sm.checkOptionalExpiry now req ≠ .error .undefinedBehaviour := by
  rcases req with _ | tm
  · simp [checkOptionalExpiry]
  · rw [checkOptionalExpiry, checkRequestedExpiry]
    split_ifs <;> simp

private theorem startSession_ne_undefinedBehaviour (call : StartCall) (now chk : Int)
    (secret : Sessionid) :
    sm.startSession call now chk secret ≠ .error .undefinedBehaviour := by
  refine bind_ne_undefinedBehaviour
    (checkRequestedItems_ne (fun _ => rejectOwned_findInCache_ne) _) fun _ => ?_
  refine bind_ne_undefinedBehaviour
    (checkRequestedItems_ne (fun _ => rejectOwned_findInCache_ne) _) fun _ => ?_
  exact bind_ne_undefinedBehaviour (checkOptionalExpiry_ne_undefinedBehaviour _ _)
    fun _ h => nomatch h

private theorem renewSession_ne_undefinedBehaviour (secret : Sessionid) (req : Option Int)
    (now : Int) :
    sm.renewSession secret req now ≠ .error .undefinedBehaviour := by
  rw [renewSession]
  split
  · simp
  next id _ =>
    refine bind_ne_undefinedBehaviour (sessionAt_ne_undefinedBehaviour id) fun _ => ?_
    exact bind_ne_undefinedBehaviour (checkOptionalExpiry_ne_undefinedBehaviour _ _)
      fun _ h => nomatch h

/-- Every live session of a linked manager can be removed. -/
theorem Linked.removable (hlinked : sm.Linked) {id : UInt16} (hid : id ∈ sm.sessionmap) :
    ∃ s σ, sm.sessionmap.lookup id = some s ∧ sm.sessionidmap.lookup σ = some id := by
  obtain ⟨s, hs⟩ := AList.mem_iff_exists_lookup.mp hid
  obtain ⟨σ, hσ⟩ := hlinked.secret_of_live id hid
  exact ⟨s, σ, hs, hσ⟩

variable (ord) in
/-- The expiry update of a linked manager goes through. -/
theorem Linked.exists_updateSessionStates (hlinked : sm.Linked) (now : Int) :
    ∃ sm', sm.updateSessionStates ord now = .ok sm' := by
  refine exists_removeSessions (sm.expiredIds_nodup now) fun id hid => ?_
  obtain ⟨s, hs, -⟩ := mem_expiredIds.mp hid
  exact hlinked.removable (AList.mem_of_lookup hs)

/-- **No call on a linked manager runs into undefined behaviour.** -/
theorem Linked.perform_ne_undefinedBehaviour (hlinked : sm.Linked) :
    sm.perform ord c ≠ .error .undefinedBehaviour := by
  rcases c with ⟨call, now, chk, secret⟩ | ⟨secret, req, now⟩ | secret | now
  · exact map_ne_undefinedBehaviour (startSession_ne_undefinedBehaviour call now chk secret)
  · exact map_ne_undefinedBehaviour (renewSession_ne_undefinedBehaviour secret req now)
  · refine map_ne_undefinedBehaviour ?_
    rw [closeSession]
    split
    · simp
    next id hid =>
      obtain ⟨s, σ, hs, hσ⟩ := hlinked.removable (hlinked.live_of_secret secret id hid)
      obtain ⟨sm', hrem⟩ : ∃ sm', sm.removeSession ord id = .ok sm' := exists_removeSession hs hσ
      rw [hrem]
      exact fun h => nomatch h
  · obtain ⟨sm', h⟩ := hlinked.exists_updateSessionStates ord now
    rw [SessionManager.perform, h]
    exact fun h => nomatch h

end SessionManager

end Foxtrot
