import Foxtrot.Session.Sequential

/-!
# The expiry contract

What a client may rely on about the expiry of its session (`SessionManager.ExpiryContract`): a
requested expiry is accepted when it lies between now and one session length from now, and it is
then the expiry; without a request the expiry is one session length from now. A call that is
refused changes nothing. An expiry update at a time up to the expiry leaves the session with
everything it lists, and the first one after it removes the session, its secret and its
ownership.

`renew_session` does all of this. `start_session` checks a requested expiry and then uses its
own: the contract holds of a start exactly when the request is for no expiry or for the one the
session gets anyway (`startSession_expiry_iff`). In runs whose starts are of this kind (`Punctual`,
which also asks for an available id and a secret not in use) the contract holds in every state
and a session survives every run that does not touch it (`expiry_contract`).
-/

namespace Foxtrot

open LeaseBook SessionManager

namespace SessionManager

variable {ord : SecretOrder} {sm sm' : SessionManager} {σ : Sessionid} {ses : FtSessionInfo}

/-! ### What the contract says -/

/-- The secret stands for the session, and the session owns what it lists. -/
structure Holds (sm : SessionManager) (σ : Sessionid) (ses : FtSessionInfo) : Prop where
  info : sm.getSessionInfo σ = .ok ses
  device : ∀ d ∈ ses.devices, sm.whoOwnsDevice d = .ok (some ses)
  flag : ∀ f ∈ ses.flags, sm.whoOwnsFlag f = .ok (some ses)

/-- Nothing is left of the session and its secret. -/
structure Gone (sm : SessionManager) (σ : Sessionid) (ses : FtSessionInfo) : Prop where
  secret : σ ∉ sm.sessionidmap
  session : ses.internalSessionId ∉ sm.sessionmap
  device : ∀ d ∈ ses.devices, sm.whoOwnsDevice d = .ok none
  flag : ∀ f ∈ ses.flags, sm.whoOwnsFlag f = .ok none

/-- An accepted start asks for no expiry, or for the one its session gets anyway. -/
def ExpiryHonoured (sm : SessionManager) : SessionCall → Prop
  | .start call now chk _ => sm.Accepts call chk →
      ∀ e ∈ call.requestedExpiry, e = now + sm.sessionLength
  | _ => True

instance ExpiryHonoured.decidable (sm : SessionManager) : ∀ c, Decidable (sm.ExpiryHonoured c)
  | .start call now chk _ => inferInstanceAs (Decidable (sm.Accepts call chk →
      ∀ e ∈ call.requestedExpiry, e = now + sm.sessionLength))
  | .renew _ _ _ | .close _ | .update _ => inferInstanceAs (Decidable True)

/-- The conditions on a call: its id is available, its secret not in use, and the expiry it asks
for the one it gets. -/
def Punctual (sm : SessionManager) (c : SessionCall) : Prop :=
  sm.IdAvailable c ∧ sm.SecretFree c ∧ sm.ExpiryHonoured c

instance Punctual.decidable (sm : SessionManager) (c : SessionCall) : Decidable (sm.Punctual c) :=
  inferInstanceAs (Decidable (_ ∧ _ ∧ _))

/-- **The expiry contract** in one state. -/
structure ExpiryContract (ord : SecretOrder) (sm : SessionManager) : Prop where
  start_accepted : ∀ call now chk secret, sm.ChecksPass call →
    ((∃ r, sm.startSession call now chk secret = .ok r) ↔
      ∀ e ∈ call.requestedExpiry, chk ≤ e ∧ e ≤ chk + sm.sessionLength)
  start_expiry : ∀ call now chk secret sm' σ id, sm.Punctual (.start call now chk secret) →
    sm.startSession call now chk secret = .ok (sm', σ, id) →
    ∃ ses, sm'.getSessionInfo σ = .ok ses ∧
      ses.expiry = call.requestedExpiry.getD (now + sm.sessionLength)
  renew_accepted : ∀ σ ses req now, sm.getSessionInfo σ = .ok ses →
    ((∃ sm', sm.renewSession σ req now = .ok (sm', true)) ↔
      ∀ e ∈ req, now ≤ e ∧ e ≤ now + sm.sessionLength)
  renew_expiry : ∀ σ req now sm', sm.renewSession σ req now = .ok (sm', true) →
    ∃ ses, sm'.getSessionInfo σ = .ok ses ∧ ses.expiry = req.getD (now + sm.sessionLength)
  renew_refused : ∀ σ req now sm', sm.renewSession σ req now = .ok (sm', false) → sm' = sm
  holds : ∀ σ ses, sm.getSessionInfo σ = .ok ses → sm.Holds σ ses
  survives : ∀ σ ses now sm', sm.getSessionInfo σ = .ok ses → now ≤ ses.expiry →
    sm.updateSessionStates ord now = .ok sm' → sm'.Holds σ ses
  removed : ∀ σ ses now, sm.getSessionInfo σ = .ok ses → ses.expiry < now →
    ∃ sm', sm.updateSessionStates ord now = .ok sm' ∧ sm'.Gone σ ses

/-! ### Starting and renewing -/

/-- The session that a start makes. -/
theorem getSessionInfo_of_startSession {call : StartCall} {now chk : Int} {secret : Sessionid}
    {id : UInt16} (h : sm.startSession call now chk secret = .ok (sm', σ, id)) :
    sm'.getSessionInfo σ = .ok (sm.newSession call now) := by
  obtain ⟨-, heq⟩ := startSession_eq_ok_iff_accepts.mp h
  obtain ⟨rfl, rfl, rfl⟩ : sm' = _ ∧ σ = _ ∧ id = _ := by simpa using heq
  refine getSessionInfo_eq_ok_iff.mpr ⟨sm.issuedSessionId, ?_, ?_⟩
  · rw [lookup_sessionidmap_commit, if_pos rfl]
  · rw [lookup_sessionmap_commit, if_pos rfl]

/-- **A start honours the requested expiry exactly when it is the one the session gets anyway.** -/
theorem startSession_expiry_iff {call : StartCall} {now chk : Int} {secret : Sessionid}
    {id : UInt16} (h : sm.startSession call now chk secret = .ok (sm', σ, id))
    (hses : sm'.getSessionInfo σ = .ok ses) :
    ses.expiry = call.requestedExpiry.getD (now + sm.sessionLength) ↔
      ∀ e ∈ call.requestedExpiry, e = now + sm.sessionLength := by
  obtain rfl : sm.newSession call now = ses :=
    Except.ok.inj ((getSessionInfo_of_startSession h).symm.trans hses)
  have hexpiry : (sm.newSession call now).expiry = now + sm.sessionLength := rfl
  rw [hexpiry]
  rcases call.requestedExpiry with _ | e
  · simp
  · simp [eq_comm]

private theorem exists_renewSession_iff {req : Option Int} {now : Int}
    (hses : sm.getSessionInfo σ = .ok ses) :
    (∃ sm', sm.renewSession σ req now = .ok (sm', true)) ↔
      ∀ e ∈ req, now ≤ e ∧ e ≤ now + sm.sessionLength := by
  rw [← checkOptionalExpiry_eq_ok_iff]
  obtain ⟨id, hid, hs⟩ := getSessionInfo_eq_ok_iff.mp hses
  constructor
  · rintro ⟨sm', hrenew⟩
    rcases renewSession_cases hrenew with ⟨hfalse, -⟩ | ⟨-, _, _, -, -, hchk, -⟩
    · cases hfalse
    · exact hchk
  · intro hchk
    rw [renewSession, hid]
    simp only [sessionAt_eq_ok_iff.mpr hs, hchk]
    exact ⟨_, rfl⟩

private theorem expiry_of_renewSession {req : Option Int} {now : Int}
    (h : sm.renewSession σ req now = .ok (sm', true)) :
    ∃ ses, sm'.getSessionInfo σ = .ok ses ∧ ses.expiry = req.getD (now + sm.sessionLength) := by
  rcases renewSession_cases h with ⟨hfalse, -⟩ | ⟨-, id, old, hid, hs, -, rfl⟩
  · cases hfalse
  · refine ⟨{ old with expiry := req.getD (now + sm.sessionLength) }, ?_, rfl⟩
    refine getSessionInfo_eq_ok_iff.mpr ⟨id, hid, ?_⟩
    rw [lookup_sessionmap_withExpiry, if_pos rfl]

/-! ### Expiring -/

theorem Covered.holds (hcov : sm.Covered) (hses : sm.getSessionInfo σ = .ok ses) :
    sm.Holds σ ses := by
  obtain ⟨id, -, hs⟩ := getSessionInfo_eq_ok_iff.mp hses
  refine ⟨hses, fun d hd => ?_, fun f hf => ?_⟩
  · exact whoOwnsDevice_eq_some_iff.mpr ⟨id, hcov.device id d ⟨ses, hs, hd⟩, hs⟩
  · exact whoOwnsFlag_eq_some_iff.mpr ⟨id, hcov.flag id f ⟨ses, hs, hf⟩, hs⟩

/-- An update up to the expiry leaves the session as it is. -/
theorem Linked.survives (hlinked : sm.Linked) (hcov : sm.Covered) {now : Int}
    (hses : sm.getSessionInfo σ = .ok ses) (hle : now ≤ ses.expiry)
    (h : sm.updateSessionStates ord now = .ok sm') : sm'.Holds σ ses := by
  have hrem := removed_of_updateSessionStates h
  refine (hcov.removed hrem).holds (getSessionInfo_eq_ok_iff_sessionOf.mpr ?_)
  rw [hlinked.sessionOf_expired hrem]
  exact apply_sweep.mpr ⟨getSessionInfo_eq_ok_iff_sessionOf.mp hses, hle⟩

/-- An update after the expiry goes through and removes the session with all it owned. -/
theorem Linked.removed_by_update (hlinked : sm.Linked) (hcov : sm.Covered) {now : Int}
    (hses : sm.getSessionInfo σ = .ok ses) (hlt : ses.expiry < now) :
    ∃ sm', sm.updateSessionStates ord now = .ok sm' ∧ sm'.Gone σ ses := by
  obtain ⟨sm', h⟩ := hlinked.exists_updateSessionStates ord now
  have hrem := removed_of_updateSessionStates h
  obtain ⟨id, hid, hs⟩ := getSessionInfo_eq_ok_iff.mp hses
  have hmem : id ∈ {id | ∃ s, sm.sessionmap.lookup id = some s ∧ s.expiry < now} := ⟨ses, hs, hlt⟩
  have hdead : id ∉ sm'.sessionmap := AList.lookup_eq_none.mp (hrem.lookup_of_mem id hmem)
  have hlocal := hcov.localRemoval hrem
  refine ⟨sm', h, AList.lookup_eq_none.mp (hlinked.secret_removed hrem hid hmem), ?_, ?_, ?_⟩
  · rwa [hlinked.key_eq id ses hs]
  · exact hlocal.device_of_removed id hdead ses hs
  · exact hlocal.flag_of_removed id hdead ses hs

/-- **A linked and covered manager keeps the contract.** -/
theorem expiryContract_of_linked (hlinked : sm.Linked) (hcov : sm.Covered) :
    sm.ExpiryContract ord where
  start_accepted call now chk secret hpass := by
    simp only [startSession_eq_ok_iff_accepts, exists_and_left, exists_eq, and_true]
    rw [Accepts, checkOptionalExpiry_eq_ok_iff, and_iff_right hpass]
  start_expiry call now chk secret sm' σ id hpunct h := by
    have hses := getSessionInfo_of_startSession h
    have hacc := (startSession_eq_ok_iff_accepts.mp h).1
    exact ⟨_, hses, (startSession_expiry_iff h hses).mpr (hpunct.2.2 hacc)⟩
  renew_accepted σ ses req now hses := exists_renewSession_iff hses
  renew_expiry σ req now sm' h := expiry_of_renewSession h
  renew_refused σ req now sm' h := by
    rcases renewSession_cases h with ⟨-, -, rfl⟩ | ⟨htrue, -⟩
    · rfl
    · cases htrue
  holds σ ses hses := hcov.holds hses
  survives σ ses now sm' hses hle h := hlinked.survives hcov hses hle h
  removed σ ses now hses hlt := hlinked.removed_by_update hcov hses hlt

end SessionManager

/-! ### Runs -/

/-- The call neither renews nor closes the session of `σ`, and updates at most at time `e`. -/
def SessionCall.Keeps (σ : Sessionid) (e : Int) : SessionCall → Prop
  | .start _ _ _ _ => True
  | .renew secret _ _ => secret ≠ σ
  | .close secret => secret ≠ σ
  | .update now => now ≤ e

variable {ord : SecretOrder} {len : Int} {s s' : SessionHistory} {c : SessionCall}

/-- The invariant of punctual runs. -/
def SessionHistory.Kept (s : SessionHistory) : Prop := s.mgr.Linked ∧ s.mgr.Covered

theorem SessionHistory.Kept.step (hkept : s.Kept) (hc : s.mgr.Punctual c)
    (h : (historySystem ord len).step s c = some s') : s'.Kept := by
  rcases historyStep_cases h with rfl | ⟨hperf, -⟩
  · exact hkept
  · exact ⟨hkept.1.perform hc.1 hc.2.1 hperf, hkept.2.perform hperf⟩

/-- A punctual call that keeps the session of `σ` leaves it registered. -/
theorem sessionOf_step (hkept : s.Kept) (hc : s.mgr.Punctual c)
    (h : (historySystem ord len).step s c = some s') {σ : Sessionid} {ses : FtSessionInfo}
    (hses : s.mgr.sessionOf σ = some ses) (hkeeps : c.Keeps σ ses.expiry) :
    s'.mgr.sessionOf σ = some ses := by
  rcases historyStep_cases h with rfl | ⟨hperf, -⟩
  · exact hses
  rcases hkept.1.perform_event hc.1 hc.2.1 hperf with heq | ⟨ev, hev, hen, happly⟩
  · rwa [heq]
  rw [happly]
  refine apply_keeps hses ?_
  rcases c with ⟨call, now, chk, secret⟩ | ⟨secret, req, now⟩ | secret | now
  · -- a grant needs a secret that is not in use
    obtain rfl := Option.some.inj hev
    rintro rfl
    rw [Event.Enabled, hses] at hen
    cases hen
  · obtain ⟨old, -, rfl⟩ := Option.map_eq_some_iff.mp hev
    exact hkeeps
  · obtain rfl := Option.some.inj hev
    exact hkeeps
  · obtain rfl := Option.some.inj hev
    exact hkeeps

private theorem kept_of_punctual
    (h : (historySystem ord len).ReachableWhile (fun s c => s.mgr.Punctual c) s) : s.Kept :=
  h.invariant (P := SessionHistory.Kept) ⟨linked_new len, covered_new len⟩
    fun _ _ _ _ hkept hc hstep => hkept.step hc hstep

/-- **The expiry contract** holds in every state of a run of punctual calls; a refused call
changes nothing; and a session stays, with all it owns, through every further run that neither
renews nor closes it and updates at most at its expiry. -/
theorem expiry_contract
    (h : (historySystem ord len).ReachableWhile (fun s c => s.mgr.Punctual c) s) :
    s.mgr.ExpiryContract ord ∧
    (∀ c s', (historySystem ord len).step s c = some s' →
      (∃ e, s.mgr.perform ord c = .error e) → s' = s) ∧
    ∀ σ ses cs s', s.mgr.getSessionInfo σ = .ok ses → (∀ c ∈ cs, c.Keeps σ ses.expiry) →
      (historySystem ord len).Guarded (fun s c => s.mgr.Punctual c) s cs →
      (historySystem ord len).run s cs = some s' → s'.mgr.Holds σ ses := by
  have hkept := kept_of_punctual h
  refine ⟨expiryContract_of_linked hkept.1 hkept.2, ?_, ?_⟩
  · rintro c s' hstep ⟨e, he⟩
    rcases historyStep_cases hstep with rfl | ⟨hperf, -⟩
    · rfl
    · rw [he] at hperf
      cases hperf
  · intro σ ses cs s' hses hkeeps hguard hrun
    have hses' := getSessionInfo_eq_ok_iff_sessionOf.mp hses
    obtain ⟨hkept', hfinal⟩ := TransitionSystem.run_invariant
      (P := fun s : SessionHistory => s.Kept ∧ s.mgr.sessionOf σ = some ses)
      (fun s c s' hP hc hstep =>
        ⟨hP.1.step hc.1 hstep, sessionOf_step hP.1 hc.1 hstep hP.2 hc.2⟩)
      cs ⟨hkept, hses'⟩ (hguard.and_mem hkeeps) hrun
    exact hkept'.2.holds (getSessionInfo_eq_ok_iff_sessionOf.mpr hfinal)

/-- A session starts without a request, is renewed to a requested expiry and outlives an update. -/
def renewTrace : List SessionCall :=
  [.start ⟨"user", "", some [1], none, none⟩ 0 0 (Vector.replicate 32 0),
   .renew (Vector.replicate 32 0) (some 120) 50,
   .update 110]

theorem expiry_contract_renewTrace :
    ∃ s s' ses, (historySystem .entries 100).run ⟨.new 100, []⟩ renewTrace = some s ∧
      (historySystem .entries 100).run s [.start plainCall 115 115 (Vector.replicate 32 1),
        .update 120] = some s' ∧ ses.expiry = 120 ∧ s.mgr.ExpiryContract .entries ∧
      s'.mgr.Holds (Vector.replicate 32 0) ses := by
  have hrun : ((historySystem .entries 100).run ⟨.new 100, []⟩ renewTrace).bind (fun s =>
      ((historySystem .entries 100).run s [.start plainCall 115 115 (Vector.replicate 32 1),
        .update 120]).map fun s' =>
      (decide ((historySystem .entries 100).Guarded (fun s c => s.mgr.Punctual c) s
        [.start plainCall 115 115 (Vector.replicate 32 1), .update 120]),
        s.mgr.getSessionInfo (Vector.replicate 32 0))) =
      some (true, .ok ⟨0, "user", "", [1], [], 120⟩) := by decide
  obtain ⟨s, hs, hrest⟩ := Option.bind_eq_some_iff.mp hrun
  obtain ⟨s', hs', hfacts⟩ := Option.map_eq_some_iff.mp hrest
  obtain ⟨hguard, hses⟩ := Prod.mk.inj hfacts
  have hreach : (historySystem .entries 100).ReachableWhile (fun s c => s.mgr.Punctual c) s :=
    TransitionSystem.ReachableWhile.init.run (by decide) hs
  obtain ⟨hcontract, -, hkeeps⟩ := expiry_contract hreach
  exact ⟨s, s', _, hs, hs', rfl, hcontract, hkeeps _ _ _ _ hses
    (by simp [SessionCall.Keeps]) (of_decide_eq_true hguard) hs'⟩

/-- **A requested expiry is checked and then ignored**: a session of a new manager asks to end
at time `50`, is accepted, and gets the full length of 100. -/
theorem expiry_contract_ignored : ∃ sm' σ id ses,
    (SessionManager.new 100).startSession ⟨"user", "", none, none, some 50⟩ 0 0
      (Vector.replicate 32 0) = .ok (sm', σ, id) ∧
    sm'.getSessionInfo σ = .ok ses ∧ ses.expiry ≠ 50 := by
  have hacc : (SessionManager.new 100).Accepts ⟨"user", "", none, none, some 50⟩ 0 := by decide
  have hstart : (SessionManager.new 100).startSession ⟨"user", "", none, none, some 50⟩ 0 0
      (Vector.replicate 32 0) = .ok _ := startSession_eq_ok_iff_accepts.mpr ⟨hacc, rfl⟩
  exact ⟨_, _, _, _, hstart, getSessionInfo_of_startSession hstart, by decide⟩

end Foxtrot
