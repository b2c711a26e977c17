import Foxtrot.Server.SessionAnswers

/-!
# The session service is a book of leases

The proof that the answers of the session service are those of the book that is seen of it
(`Foxtrot.Server.SessionAnswers`). The invariant `Mirrors` ties the session manager to the book;
each RPC and each expiry update keeps it, and the answer follows from it.

One step of a run is one RPC, one expiry update or one event that is no work on a request. For
each of the four logic objects there is a lemma that says what it replies to any request while
`Mirrors` holds (`ServedAs`): the reply is the one that the book determines, and the session manager
holds the book after it. A refusal leaves both as they are, and a grant changes the book by exactly
one event.

The replies of a run are those of the requests worked on, in this order, because each of the logic
objects ends its request at the first `Proceed` (`SessionHandled.Ends`). With
`SessionServer.Follows` for the run so far the step lemma becomes `sessions_answered` by induction
on the run.
-/

namespace Foxtrot

open Histories LeaseBook SessionManager TransitionSystem

namespace SessionManager

variable {sm sm' : SessionManager} {len : Int} {book : SessionBook}

/-! ### The checks of a start

`check_requested_items` throws at the first item that somebody has, devices before flags and each
in the order of the request. In a manager whose caches are exact an owner that is found is a live
session. -/

/-- In an exact manager `who_owns_device` never runs into a stale entry. -/
theorem CoveredExactly.whoOwnsDevice_total (hcov : sm.CoveredExactly) (d : UInt32) :
    ∃ o, sm.whoOwnsDevice d = .ok o := by
  cases hledger : sm.deviceLedger d.toUInt16 with
  | none => exact ⟨none, deviceLedger_eq_none_iff.mp hledger⟩
  | some id =>
    obtain ⟨d', ⟨ses, hs, hmem⟩, hkey⟩ := (hcov.device _ id).mp hledger
    exact ⟨some ses, hcov.whoOwnsDevice_iff.mpr ⟨⟨id, hs⟩, d', hmem, hkey⟩⟩

/-- The owner of a flag is found, or that there is none. -/
private theorem CoveredExactly.whoOwnsFlag_total (hcov : sm.CoveredExactly) (f : String) :
    ∃ o, sm.whoOwnsFlag f = .ok o := by
  cases hledger : sm.flagLedger f with
  | none => exact ⟨none, flagLedger_eq_none_iff.mp hledger⟩
  | some id =>
    obtain ⟨f', ⟨ses, hs, hmem⟩, rfl⟩ := (hcov.flag _ id).mp hledger
    exact ⟨some ses, hcov.whoOwnsFlag_iff.mpr ⟨⟨id, hs⟩, hmem⟩⟩

/-- The look-ups find no owner, or throw the first one they find. -/
theorem checkRequestedItems_cases {α : Type}
    {checkfun : α → Except SessionError (Option FtSessionInfo)}
    (htotal : ∀ a, ∃ o, checkfun a = .ok o) (items : List α) :
    (checkRequestedItems checkfun items = .ok () ∧ ∀ a ∈ items, checkfun a = .ok none) ∨
      ∃ a ∈ items, ∃ ses, checkfun a = .ok (some ses) ∧
        checkRequestedItems checkfun items = .error (.owned ses.internalSessionId) := by
  induction items with
  | nil => exact .inl ⟨rfl, fun _ h => absurd h List.not_mem_nil⟩
  | cons a items ih =>
    obtain ⟨_ | ses, ho⟩ := htotal a
    · have hstep : checkRequestedItems checkfun (a :: items) =
          checkRequestedItems checkfun items := by
        rw [checkRequestedItems, ho, rejectOwned]
      rw [hstep]
      obtain ⟨hok, hnone⟩ | ⟨a', ha', hrest⟩ := ih
      · exact .inl ⟨hok, List.forall_mem_cons.mpr ⟨ho, hnone⟩⟩
      · exact .inr ⟨a', List.mem_cons_of_mem a ha', hrest⟩
    · refine .inr ⟨a, List.mem_cons_self, ses, ho, ?_⟩
      rw [checkRequestedItems, ho, rejectOwned]

/-- The session has an item that is asked for. -/
def Conflicting (ses : FtSessionInfo) (call : StartCall) : Prop :=
  (∃ d ∈ call.devicesRequested.getD [], ∃ d' ∈ ses.devices, d'.toUInt16 = d.toUInt16) ∨
    ∃ f ∈ call.flagsRequested.getD [], f ∈ ses.flags

/-- The checks of a start pass if no live session has an item that is asked for, and throw one that
has otherwise. -/
theorem CoveredExactly.checks_cases (hcov : sm.CoveredExactly) (call : StartCall) (now chk : Int)
    (secret : Sessionid) :
    (sm.ChecksPass call ∧ ∀ ses, sm.IsLive ses → ¬ Conflicting ses call) ∨
      ∃ ses, sm.IsLive ses ∧ Conflicting ses call ∧
        sm.startSession call now chk secret = .error (.owned ses.internalSessionId) := by
  obtain ⟨hdok, hd⟩ | ⟨d, hmem, ses, hses, hderr⟩ :=
    checkRequestedItems_cases hcov.whoOwnsDevice_total (call.devicesRequested.getD [])
  · obtain ⟨hfok, hf⟩ | ⟨f, hmem, ses, hses, hferr⟩ :=
      checkRequestedItems_cases hcov.whoOwnsFlag_total (call.flagsRequested.getD [])
    · refine .inl ⟨⟨hdok, hfok⟩, fun ses hlive hconf => ?_⟩
      rcases hconf with ⟨d, hmem, halias⟩ | ⟨f, hmem, hin⟩
      · have hnone := hd d hmem
        rw [hcov.whoOwnsDevice_iff.mpr ⟨hlive, halias⟩] at hnone
        cases hnone
      · have hnone := hf f hmem
        rw [hcov.whoOwnsFlag_iff.mpr ⟨hlive, hin⟩] at hnone
        cases hnone
    · obtain ⟨hlive, hin⟩ := hcov.whoOwnsFlag_iff.mp hses
      refine .inr ⟨ses, hlive, .inr ⟨f, hmem, hin⟩, ?_⟩
      rw [startSession, hdok, hferr]
      rfl
  · obtain ⟨hlive, halias⟩ := hcov.whoOwnsDevice_iff.mp hses
    refine .inr ⟨ses, hlive, .inl ⟨d, hmem, halias⟩, ?_⟩
    rw [startSession, hderr]
    rfl

/-- The check of an expiry refuses what is out of the bounds. -/
theorem checkOptionalExpiry_eq (now : Int) (req : Option Int) :
    sm.checkOptionalExpiry now req =
      match req.bind (expiryRefusal sm.sessionLength now) with
      | some what => .error (.outOfRange what)
      | none => .ok () := by
  cases req with
  | none => rfl
  | some tm =>
    rw [checkOptionalExpiry, checkRequestedExpiry, Option.bind_some, expiryRefusal]
    split
    · rfl
    · split <;> rfl

/-- A start that passes the checks commits or is refused for its expiry. -/
theorem ChecksPass.startSession_eq {call : StartCall} (hpass : sm.ChecksPass call) (now chk : Int)
    (secret : Sessionid) : sm.startSession call now chk secret =
      match call.requestedExpiry.bind (expiryRefusal sm.sessionLength chk) with
      | some what => .error (.outOfRange what)
      | none => .ok (sm.commitSession call now secret, secret, sm.issuedSessionId) := by
  rw [startSession, hpass.1, hpass.2, checkOptionalExpiry_eq]
  cases call.requestedExpiry.bind (expiryRefusal sm.sessionLength chk) <;> rfl

/-! ### The invariant

The book is indexed by secrets, and the manager by 16-bit ids. `Linked` and `CoveredExactly` are the
facts about the manager's own caches, from which its maps agree with the book. -/

/-- The session manager holds the sessions of the book. -/
structure Mirrors (sm : SessionManager) (len : Int) (book : SessionBook) : Prop where
  linked : sm.Linked
  exact : sm.CoveredExactly
  length : sm.sessionLength = len
  book : ∀ σ, (sm.sessionOf σ).map FtSessionInfo.lease = book σ

variable (hm : sm.Mirrors len book)
include hm

/-- The live sessions are those of the book. -/
theorem Mirrors.live_iff {lease : SessionLease} :
    (∃ ses, sm.IsLive ses ∧ ses.lease = lease) ↔ ∃ σ, book σ = some lease := by
  constructor
  · rintro ⟨ses, ⟨id, hs⟩, rfl⟩
    obtain ⟨σ, hσ⟩ := hm.linked.secret_of_live id (AList.mem_of_lookup hs)
    have hses : sm.sessionOf σ = some ses := sessionOf_eq_some_iff.mpr ⟨id, hσ, hs⟩
    exact ⟨σ, by rw [← hm.book σ, hses]; rfl⟩
  · rintro ⟨σ, hσ⟩
    rw [← hm.book σ] at hσ
    obtain ⟨ses, hses, rfl⟩ := Option.map_eq_some_iff.mp hσ
    obtain ⟨id, -, hs⟩ := sessionOf_eq_some_iff.mp hses
    exact ⟨ses, ⟨id, hs⟩, rfl⟩

/-- What the owner of an id tells. -/
theorem Mirrors.sessionAt_live {ses : FtSessionInfo} (hlive : sm.IsLive ses) :
    sm.sessionAt ses.internalSessionId = .ok ses := by
  obtain ⟨id, hs⟩ := hlive
  rw [hm.linked.key_eq id ses hs]
  exact sessionAt_eq_ok_iff.mpr hs

omit hm in
/-- The book changes as the registry does. -/
theorem book_of_update {σ : Sessionid} {ses : Option FtSessionInfo}
    (hbook : ∀ σ, (sm.sessionOf σ).map FtSessionInfo.lease = book σ)
    (h : sm'.sessionOf = Function.update sm.sessionOf σ ses) (σ' : Sessionid) :
    (sm'.sessionOf σ').map FtSessionInfo.lease =
      Function.update book σ (ses.map FtSessionInfo.lease) σ' := by
  rw [h, Function.update_apply, Function.update_apply, ← hbook σ']
  split <;> rfl

/-- A session starts. -/
theorem Mirrors.commit {call : StartCall} {now : Int} {secret : Sessionid}
    (hpass : sm.ChecksPass call) (hfree : sm.issuedSessionId ∉ sm.sessionmap)
    (hnew : secret ∉ sm.sessionidmap) :
    (sm.commitSession call now secret).Mirrors len
      (Function.update book secret (some (sm.newSession call now).lease)) where
  linked := hm.linked.commit hfree hnew
  exact := hm.exact.commit hpass hfree
  length := hm.length
  book := book_of_update hm.book (hm.linked.sessionOf_commit hfree)

/-- A session gets a new expiry. -/
theorem Mirrors.withExpiry {id : UInt16} {ses : FtSessionInfo} {secret : Sessionid}
    (hσ : sm.sessionidmap.lookup secret = some id) (hs : sm.sessionmap.lookup id = some ses)
    (expiry : Int) : (sm.withExpiry id ses expiry).Mirrors len
      (Function.update book secret (some { ses.lease with expiry })) where
  linked := hm.linked.withExpiry hs
  exact := hm.exact.withExpiry hs
  length := hm.length
  book := book_of_update hm.book (hm.linked.sessionOf_withExpiry hs hσ)

/-- A session is closed. -/
theorem Mirrors.closed {id : UInt16} {secret : Sessionid}
    (hσ : sm.sessionidmap.lookup secret = some id) (hrem : Removed sm sm' {id}) :
    sm'.Mirrors len (Function.update book secret none) where
  linked := hm.linked.removed hrem
  exact := hm.exact.removed hrem
  length := hrem.sessionLength_eq.trans hm.length
  book := book_of_update hm.book (hm.linked.sessionOf_closed hσ hrem)

/-- The expired sessions are removed. -/
theorem Mirrors.updated {ord : SecretOrder} {now : Int}
    (h : sm.updateSessionStates ord now = .ok sm') :
    sm'.Mirrors len ((Event.sweep now).apply SessionLease.expiry book) where
  linked := hm.linked.removed (removed_of_updateSessionStates h)
  exact := hm.exact.removed (removed_of_updateSessionStates h)
  length := (removed_of_updateSessionStates h).sessionLength_eq.trans hm.length
  book σ := by
    rw [hm.linked.sessionOf_expired (removed_of_updateSessionStates h)]
    change ((sm.sessionOf σ).filter _).map _ = (book σ).filter _
    rw [← hm.book σ]
    cases sm.sessionOf σ with
    | none => rfl
    | some ses =>
      rw [Option.map_some, Option.filter_some, Option.filter_some, apply_ite (Option.map _)]
      rfl

end SessionManager

/-! ### Times, secrets and refusals -/

private theorem getExpiry_eq {req : SessionInfo} {r : Option Int} (h : getExpiry req = some r) :
    r = req.requested := by
  rw [getExpiry] at h
  rw [SessionInfo.requested]
  cases hexpiry : req.expiry with
  | none =>
    rw [hexpiry] at h
    exact (Option.some.inj h).symm
  | some seconds =>
    rw [hexpiry] at h
    obtain ⟨t, ht, rfl⟩ := Option.map_eq_some_iff.mp h
    rw [fromTimeT, Option.ite_none_right_eq_some] at ht
    rw [← Option.some.inj ht.2]
    rfl

/-- The bytes of a secret are the secret. -/
theorem binarySesid_toList (secret : Sessionid) : binarySesid secret.toList = secret := by
  refine Vector.ext fun i hi => ?_
  rw [binarySesid, Vector.getElem_ofFn, List.getD_eq_getElem?_getD, Vector.getElem?_toList,
    Vector.getElem?_eq_getElem hi, Option.getD_some]

/-- Nothing happens to the book when nothing is granted. -/
theorem SessionBook.next_of_none {len : Int} {book : SessionBook} {w : SessionSeen}
    (h : sessionEvent len book w = none) : book.next len w = book := by
  rw [SessionBook.next, h]

/-- What is seen is an event of the book. -/
theorem SessionBook.next_of_some {len : Int} {book : SessionBook} {w : SessionSeen}
    {ev : Event Sessionid SessionLease Int} (h : sessionEvent len book w = some ev) :
    book.next len w = ev.apply SessionLease.expiry book := by
  rw [SessionBook.next, h]

/-! ### The logic objects -/

section Serve

variable {Inv : Type} {ord : SecretOrder} {sm : SessionManager} {len : Int} {book : SessionBook}
  {readings : SessionReadings} {req : SessionInfo}

/-- What is seen is as the book says, and the session manager holds the next book. -/
def ServedAs (len : Int) (book : SessionBook) (w : SessionSeen) (sm : SessionManager) : Prop :=
  AnswersFrom len book w ∧ sm.Mirrors len (book.next len w)

/-- A request to start a session is refused. -/
theorem SessionManager.Mirrors.servedAs_refused (hm : sm.Mirrors len book) {repl : SessionInfo}
    (herr : repl.err ≠ none) (hanswer : StartAnswer len book req readings repl) :
    ServedAs len book (.inl ⟨.startSession, req, readings, [.finishWith repl]⟩) sm := by
  refine ⟨⟨repl, rfl, hanswer⟩, ?_⟩
  rwa [SessionBook.next_of_none]
  rw [sessionEvent, granted, if_neg herr]
  rfl

/-- A session is started. -/
theorem servedAs_started {secret : Sessionid} {repl : SessionInfo}
    (hm : sm.Mirrors len (Function.update book secret (some
      ⟨req.userIdentifier, req.comment, req.devices, req.flags, readings.now + len⟩)))
    (herr : repl.err = none) (hid : repl.sessionid = secret.toList)
    (hanswer : StartAnswer len book req readings repl) :
    ServedAs len book (.inl ⟨.startSession, req, readings, [.finishWith repl]⟩) sm := by
  refine ⟨⟨repl, rfl, hanswer⟩, ?_⟩
  have hevent : sessionEvent len book (.inl ⟨.startSession, req, readings, [.finishWith repl]⟩) =
      some (.grant secret
        ⟨req.userIdentifier, req.comment, req.devices, req.flags, readings.now + len⟩) := by
    rw [sessionEvent, granted, if_pos herr, Option.map_some, hid, binarySesid_toList]
  rwa [SessionBook.next_of_some hevent]

/-- A start is answered as the book says. -/
theorem SessionManager.Mirrors.startSession (hm : sm.Mirrors len book)
    {r : Handled SessionManager SessionInfo Inv Bool}
    (hr : (sessionRpcs Inv ord .startSession).process sm readings req .empty = some r)
    (hsafe : sm.StartsSafely (some (.inl ⟨.startSession, req, readings, r.calls⟩))) :
    ServedAs len book (.inl ⟨.startSession, req, readings, r.calls⟩) r.logic := by
  obtain ⟨h, hh, rfl⟩ := Option.map_eq_some_iff.mp hr
  simp only [sessionRpcs, startSessionLogic] at hh
  split at hh
  next huser =>
    obtain rfl := Option.some.inj hh
    exact hm.servedAs_refused (Option.some_ne_none _) (.anonymous huser)
  next huser =>
    obtain ⟨requested, hreq, hh⟩ := Option.bind_eq_some_iff.mp hh
    obtain rfl := getExpiry_eq hreq
    obtain ⟨hpass, hitems⟩ | ⟨ses, hlive, hconf, herr⟩ := hm.exact.checks_cases
      (req.startCall req.requested) readings.now readings.chk readings.secret
    · -- all look-ups pass: no lease of the book holds an item of the request
      have hfree : ∀ σ lease, book σ = some lease → ¬ lease.Conflicts req := by
        intro σ lease hσ
        obtain ⟨ses, hlive, rfl⟩ := hm.live_iff.mpr ⟨σ, hσ⟩
        exact hitems ses hlive
      have hcall : (req.startCall req.requested).requestedExpiry = req.requested := rfl
      rw [hpass.startSession_eq, hm.length, hcall] at hh
      cases hwhat : req.requested.bind (expiryRefusal len readings.chk) with
      | some what =>
        rw [hwhat] at hh
        obtain ⟨tm, htm, hrefusal⟩ := Option.bind_eq_some_iff.mp hwhat
        simp only [startOutOfRange, htm, hm.length] at hh
        split at hh
        next hbeyond =>
          obtain rfl := Option.some.inj hh
          exact hm.servedAs_refused (Option.some_ne_none _)
            (.beyond huser hfree tm what htm hrefusal hbeyond)
        next hwithin =>
          obtain rfl := Option.some.inj hh
          exact hm.servedAs_refused (Option.some_ne_none _)
            (.outOfRange huser hfree tm what htm hrefusal (not_lt.mp hwithin))
      | none =>
        -- the reply is read from the session that has just been stored
        have hat : (sm.commitSession (req.startCall req.requested) readings.now
            readings.secret).sessionAt sm.issuedSessionId =
              .ok (sm.newSession (req.startCall req.requested) readings.now) :=
          sessionAt_eq_ok_iff.mpr (by rw [lookup_sessionmap_commit, if_pos rfl])
        simp only [hwhat, hat] at hh
        obtain rfl := Option.some.inj hh
        obtain ⟨hnew, hids⟩ := hsafe (Option.some_ne_none _)
        have hlease : (sm.newSession (req.startCall req.requested) readings.now).lease =
            ⟨req.userIdentifier, req.comment, req.devices, req.flags, readings.now + len⟩ := by
          rw [← hm.length]
          rfl
        have hbook : book readings.secret = none := by
          rw [← hm.book, hm.linked.sessionOf_eq_none_iff.mpr hnew]
          rfl
        have hexpiry : (sm.newSession (req.startCall req.requested) readings.now).expiry =
            readings.now + len := congrArg SessionLease.expiry hlease
        have hcommit : (sm.commitSession (req.startCall req.requested) readings.now
            readings.secret).Mirrors len _ :=
          hm.commit hpass (issuedSessionId_notMem_iff.mpr hids) hnew
        rw [hlease] at hcommit
        rw [hexpiry]
        exact servedAs_started hcommit rfl rfl
          (.started huser hfree (Option.bind_eq_none_iff.mp hwhat) hbook)
    · simp only [herr, hm.sessionAt_live hlive] at hh
      obtain rfl := Option.some.inj hh
      -- a look-up has found the owner of an item
      obtain ⟨σ, hσ⟩ := hm.live_iff.mp ⟨ses, hlive, rfl⟩
      exact hm.servedAs_refused (Option.some_ne_none _) (.conflict huser σ ses.lease hσ hconf)

/-- A secret leads to nothing, or to a session of the book. -/
theorem SessionManager.Mirrors.secret_cases (hm : sm.Mirrors len book) (σ : Sessionid) :
    (book σ = none ∧ sm.sessionidmap.lookup σ = none ∧
        sm.getSessionInfo σ = .error (.outOfRange "invalid secret!")) ∨
      ∃ id ses, book σ = some ses.lease ∧ sm.sessionidmap.lookup σ = some id ∧
        sm.sessionmap.lookup id = some ses ∧ sm.getSessionInfo σ = .ok ses := by
  cases hid : sm.sessionidmap.lookup σ with
  | none =>
    refine .inl ⟨?_, rfl, by rw [getSessionInfo, hid]⟩
    rw [← hm.book, sessionOf, hid]
    rfl
  | some id =>
    obtain ⟨ses, hs⟩ := AList.mem_iff_exists_lookup.mp (hm.linked.live_of_secret σ id hid)
    refine .inr ⟨id, ses, ?_, rfl, hs, getSessionInfo_eq_ok_iff.mpr ⟨id, hid, hs⟩⟩
    rw [← hm.book, sessionOf_eq_some_iff.mpr ⟨id, hid, hs⟩]
    rfl

/-- A request has a secret, or is refused for not having one. -/
theorem requireSessionidCheck_cases (book : SessionBook) (req : SessionInfo) :
    (requireSessionidCheck req = none ∧ ∀ unknown known, withSecret book req unknown known =
        match book (binarySesid req.sessionid) with
        | none => unknown
        | some lease => known lease) ∨
      ∃ err, requireSessionidCheck req = some err ∧ ∀ unknown known,
        withSecret book req unknown known = { SessionInfo.empty with err := some err } := by
  by_cases hnil : req.sessionid = []
  · refine .inr ⟨_, if_pos (List.length_eq_zero_iff.mpr hnil), fun unknown known => if_pos hnil⟩
  have hlength : req.sessionid.length ≠ 0 := fun h => hnil (List.length_eq_zero_iff.mp h)
  by_cases h32 : req.sessionid.length ≠ 32
  · refine .inr ⟨_, (if_neg hlength).trans (if_pos h32), fun unknown known => ?_⟩
    exact (if_neg hnil).trans (if_pos h32)
  · refine .inl ⟨(if_neg hlength).trans (if_neg h32), fun unknown known => ?_⟩
    exact (if_neg hnil).trans (if_neg h32)

/-- Nothing is granted by a reply with an error. -/
theorem granted_of_err {repl : SessionInfo} (herr : repl.err ≠ none) :
    granted [.finishWith repl] = none := if_neg herr

/-- A request with a secret is refused, and the book stays. -/
theorem SessionManager.Mirrors.servedAs_of_none (hm : sm.Mirrors len book) {w : SessionSeen}
    (hnone : sessionEvent len book w = none) (hanswer : AnswersFrom len book w) :
    ServedAs len book w sm := by
  refine ⟨hanswer, ?_⟩
  rwa [SessionBook.next_of_none hnone]

/-- A request is granted, and the book changes with it. -/
theorem servedAs_of_some {w : SessionSeen} (ev : Event Sessionid SessionLease Int)
    (hsome : sessionEvent len book w = some ev) (hanswer : AnswersFrom len book w)
    (hm : sm.Mirrors len (ev.apply SessionLease.expiry book)) : ServedAs len book w sm := by
  refine ⟨hanswer, ?_⟩
  rwa [SessionBook.next_of_some hsome]

private theorem servedAs_closed {repl : SessionInfo}
    (hm : sm.Mirrors len (Function.update book (binarySesid req.sessionid) none))
    (herr : repl.err = none) (hanswer : repl = closeAnswer book req) :
    ServedAs len book (.inl ⟨.closeSession, req, readings, [.finishWith repl]⟩) sm := by
  refine servedAs_of_some (.drop (binarySesid req.sessionid)) ?_ ?_ hm
  · rw [sessionEvent, granted, if_pos herr]
    rfl
  · rw [AnswersFrom, hanswer]

private theorem servedAs_renewed {repl : SessionInfo} {lease : SessionLease} {expiry : Int}
    (hm : sm.Mirrors len (Function.update book (binarySesid req.sessionid)
      (some { lease with expiry })))
    (hlease : book (binarySesid req.sessionid) = some lease)
    (hexpiry : expiry = req.requested.getD (readings.now + len))
    (herr : repl.err = none) (hanswer : repl = keepAliveAnswer len book req readings) :
    ServedAs len book (.inl ⟨.keepAliveSession, req, readings, [.finishWith repl]⟩) sm := by
  refine servedAs_of_some (.renew (binarySesid req.sessionid) { lease with expiry }) ?_ ?_ hm
  · rw [sessionEvent, granted, if_pos herr, hlease, hexpiry]
    rfl
  · rw [AnswersFrom, hanswer]

/-- A request to close is served. -/
theorem SessionManager.Mirrors.closeSession (hm : sm.Mirrors len book)
    {r : Handled SessionManager SessionInfo Inv Bool}
    (hr : (sessionRpcs Inv ord .closeSession).process sm readings req .empty = some r) :
    ServedAs len book (.inl ⟨.closeSession, req, readings, r.calls⟩) r.logic := by
  obtain ⟨h, hh, rfl⟩ := Option.map_eq_some_iff.mp hr
  simp only [sessionRpcs, closeSessionLogic] at hh
  have hrefused {repl : SessionInfo} (herr : repl.err ≠ none)
      (hanswer : closeAnswer book req = repl) :
      ServedAs len book (.inl ⟨.closeSession, req, readings, [.finishWith repl]⟩) sm := by
    refine hm.servedAs_of_none ?_ (by rw [AnswersFrom, hanswer])
    rw [sessionEvent, granted_of_err herr]
    rfl
  obtain ⟨hcheck, hwith⟩ | ⟨err, hcheck, hwith⟩ := requireSessionidCheck_cases book req
  · rw [hcheck] at hh
    obtain ⟨hnone, -, hinfo⟩ | ⟨id, ses, hsome, hid, hs, hinfo⟩ :=
      hm.secret_cases (binarySesid req.sessionid)
    · simp only [hinfo] at hh
      obtain rfl := Option.some.inj hh
      exact hrefused (Option.some_ne_none _) (by rw [closeAnswer, hwith, hnone]; rfl)
    · -- the reply is read before the session is removed
      obtain ⟨sm', hrem⟩ : ∃ sm', sm.removeSession ord id = .ok sm' := exists_removeSession hs hid
      have hclose : sm.closeSession ord (binarySesid req.sessionid) = .ok (sm', true) := by
        rw [SessionManager.closeSession, hid]
        simp only [hrem]
        rfl
      simp only [hinfo, hclose] at hh
      obtain rfl := Option.some.inj hh
      exact servedAs_closed (hm.closed hid (removed_of_removeSession hrem)) rfl
        (by rw [closeAnswer, hwith, hsome]; rfl)
  · rw [hcheck] at hh
    obtain rfl := Option.some.inj hh
    exact hrefused (Option.some_ne_none _) (hwith _ _)

/-- A request to renew is served. -/
theorem SessionManager.Mirrors.keepAliveSession (hm : sm.Mirrors len book)
    {r : Handled SessionManager SessionInfo Inv Bool}
    (hr : (sessionRpcs Inv ord .keepAliveSession).process sm readings req .empty = some r) :
    ServedAs len book (.inl ⟨.keepAliveSession, req, readings, r.calls⟩) r.logic := by
  obtain rfl := hm.length
  obtain ⟨h, hh, rfl⟩ := Option.map_eq_some_iff.mp hr
  simp only [sessionRpcs, keepAliveSessionLogic] at hh
  have hrefused {repl : SessionInfo} (herr : repl.err ≠ none)
      (hanswer : keepAliveAnswer sm.sessionLength book req readings = repl) :
      ServedAs sm.sessionLength book
        (.inl ⟨.keepAliveSession, req, readings, [.finishWith repl]⟩) sm := by
    refine hm.servedAs_of_none ?_ (by rw [AnswersFrom, hanswer])
    rw [sessionEvent, granted_of_err herr]
    rfl
  obtain ⟨hcheck, hwith⟩ | ⟨err, hcheck, hwith⟩ := requireSessionidCheck_cases book req
  · rw [hcheck] at hh
    obtain ⟨requested, hreq, hh⟩ := Option.bind_eq_some_iff.mp hh
    obtain rfl := getExpiry_eq hreq
    obtain ⟨hnone, hid, -⟩ | ⟨id, ses, hsome, hid, hs, -⟩ :=
      hm.secret_cases (binarySesid req.sessionid)
    · have hrenew : sm.renewSession (binarySesid req.sessionid) req.requested readings.now =
          .ok (sm, false) := by
        rw [renewSession, hid]
      simp only [hrenew] at hh
      obtain rfl := Option.some.inj hh
      exact hrefused (Option.some_ne_none _) (by rw [keepAliveAnswer, hwith, hnone]; rfl)
    · have hrenew : sm.renewSession (binarySesid req.sessionid) req.requested readings.now =
          match req.requested.bind (expiryRefusal sm.sessionLength readings.now) with
          | some what => .error (.outOfRange what)
          | none => .ok (sm.withExpiry id ses
              (req.requested.getD (readings.now + sm.sessionLength)), true) := by
        rw [renewSession, hid]
        simp only [sessionAt_eq_ok_iff.mpr hs, checkOptionalExpiry_eq]
        cases req.requested.bind (expiryRefusal sm.sessionLength readings.now) <;> rfl
      cases hwhat : req.requested.bind (expiryRefusal sm.sessionLength readings.now) with
      | some what =>
        rw [hwhat] at hrenew
        simp only [hrenew] at hh
        obtain rfl := Option.some.inj hh
        refine hrefused (Option.some_ne_none _) ?_
        rw [keepAliveAnswer, hwith, hsome]
        simp only [hwhat]
        rfl
      | none =>
        rw [hwhat] at hrenew
        -- the answer is read after the expiry has been set
        have hinfo : (sm.withExpiry id ses
            (req.requested.getD (readings.now + sm.sessionLength))).getSessionInfo
              (binarySesid req.sessionid) =
            .ok { ses with expiry := req.requested.getD (readings.now + sm.sessionLength) } := by
          refine getSessionInfo_eq_ok_iff.mpr ⟨id, hid, ?_⟩
          rw [lookup_sessionmap_withExpiry, if_pos rfl]
        simp only [hrenew, hinfo] at hh
        obtain rfl := Option.some.inj hh
        refine servedAs_renewed (hm.withExpiry hid hs _) hsome rfl rfl ?_
        rw [keepAliveAnswer, hwith, hsome]
        simp only [hwhat]
        rfl
  · rw [hcheck] at hh
    obtain rfl := Option.some.inj hh
    exact hrefused (Option.some_ne_none _) (hwith _ _)

private theorem foldl_addSession (items : List ((_ : UInt16) × FtSessionInfo))
    (repl : SessionList) :
    items.foldl addSession repl = { repl with
      sessions := repl.sessions ++ items.map fun item => item.2.lease.describe } := by
  induction items generalizing repl with
  | nil => simp
  | cons item items ih =>
    rw [List.foldl_cons, ih]
    simp only [addSession, List.map_cons, List.append_assoc, List.singleton_append]
    rfl

private theorem process_listSessions :
    (sessionRpcs Inv ord .listSessions).process sm readings () ⟨none, []⟩ = some (
      let repl := ⟨none, sm.orderedSessions.map fun item => item.2.lease.describe⟩
      ⟨sm, repl, [.finishWith repl], [], true⟩) := by
  have hfold := foldl_addSession sm.orderedSessions ⟨none, []⟩
  rw [List.nil_append] at hfold
  rw [← hfold]
  rfl

/-- The sessions that are stored are those of the secrets in use, once each. -/
theorem SessionManager.Linked.entries_perm (hlinked : sm.Linked) :
    sm.sessionmap.entries.Perm (sm.sessionidmap.keys.filterMap fun σ =>
      (sm.sessionOf σ).map fun ses => ⟨ses.internalSessionId, ses⟩) := by
  refine (List.perm_ext_iff_of_nodup sm.sessionmap.nodupKeys.nodup ?_).mpr ?_
  · refine List.Nodup.filterMap ?_ sm.sessionidmap.keys_nodup
    intro σ σ' e hσ hσ'
    obtain ⟨ses, hses, rfl⟩ := Option.map_eq_some_iff.mp hσ
    obtain ⟨ses', hses', heq⟩ := Option.map_eq_some_iff.mp hσ'
    obtain ⟨id, hid, hs⟩ := sessionOf_eq_some_iff.mp hses
    obtain ⟨id', hid', hs'⟩ := sessionOf_eq_some_iff.mp hses'
    have hids : ses'.internalSessionId = ses.internalSessionId := congrArg Sigma.fst heq
    rw [hlinked.key_eq id ses hs, hlinked.key_eq id' ses' hs'] at hids
    exact hlinked.secret_unique σ σ' id hid (hids ▸ hid')
  · rintro ⟨id, ses⟩
    rw [AList.mk_mem_entries_iff, List.mem_filterMap]
    constructor
    · intro hs
      obtain ⟨σ, hσ⟩ := hlinked.secret_of_live id (AList.mem_of_lookup hs)
      refine ⟨σ, AList.mem_keys.mp (AList.mem_of_lookup hσ), ?_⟩
      rw [sessionOf_eq_some_iff.mpr ⟨id, hσ, hs⟩, Option.map_some, hlinked.key_eq id ses hs]
    · rintro ⟨σ, -, hσ⟩
      obtain ⟨ses', hses', heq⟩ := Option.map_eq_some_iff.mp hσ
      obtain ⟨id', -, hs'⟩ := sessionOf_eq_some_iff.mp hses'
      cases heq
      rw [hlinked.key_eq id' ses hs']
      exact hs'

private theorem SessionManager.Mirrors.listAnswer (hm : sm.Mirrors len book) :
    ListAnswer book ⟨none, sm.orderedSessions.map fun item => item.2.lease.describe⟩ := by
  refine ⟨rfl, sm.sessionidmap.keys, sm.sessionidmap.keys_nodup, fun σ => ?_, ?_⟩
  · rw [← hm.book, Ne, Option.map_eq_none_iff, hm.linked.sessionOf_eq_none_iff, not_not,
      AList.mem_keys]
  · have hsort : sm.orderedSessions.Perm sm.sessionmap.entries := List.perm_insertionSort _ _
    have hperm := (hsort.trans hm.linked.entries_perm).map
      fun item : (_ : UInt16) × FtSessionInfo => item.2.lease.describe
    rw [List.map_filterMap] at hperm
    refine hperm.trans (List.Perm.of_eq (List.filterMap_congr fun σ _ => ?_))
    rw [← hm.book, Option.map_map, Option.map_map]
    rfl

/-- A request for the list is served. -/
theorem SessionManager.Mirrors.listSessions (hm : sm.Mirrors len book)
    {r : Handled SessionManager SessionList Inv Bool}
    (hr : (sessionRpcs Inv ord .listSessions).process sm readings () ⟨none, []⟩ = some r) :
    ServedAs len book (.inl ⟨.listSessions, (), readings, r.calls⟩) r.logic := by
  obtain rfl := Option.some.inj (process_listSessions.symm.trans hr)
  exact hm.servedAs_of_none rfl ⟨_, rfl, hm.listAnswer⟩

end Serve

/-! ### Each request is worked on once

No session RPC is a stream: whether it succeeds, refuses or throws, its request is finished or
failed at once, so a handler is never asked to go on with an old request. -/

section Finish

variable {Inv : Type} {ord : SecretOrder} {sm : SessionManager} {repl : SessionInfo}
  {h : SessionHandled Inv}

/-- `HandleRequest` finishes the request or throws. -/
def SessionHandled.Ends (h : SessionHandled Inv) : Prop := h.result ≠ .ok false

private theorem ends_caught (hends : SessionHandled.Ends h) :
    (Handled.caught sessionInfoResponder h).result = true := by
  rw [Handled.caught]
  cases hres : h.result with
  | error e => rfl
  | ok finished =>
    cases finished with
    | true => rfl
    | false => exact absurd hres hends

private theorem ends_sessionThrows {e : SessionError} (hh : sessionThrows sm repl e = some h) :
    SessionHandled.Ends h := by
  obtain ⟨thrown, -, rfl⟩ := Option.map_eq_some_iff.mp hh
  simp [SessionHandled.Ends]

private theorem ends_startOutOfRange (readings : SessionReadings) (requested : Option Int)
    (what : String) :
    SessionHandled.Ends (startOutOfRange sm repl readings requested what : SessionHandled Inv) := by
  cases requested with
  | none => simp [startOutOfRange, SessionHandled.Ends]
  | some requested =>
    simp only [startOutOfRange]
    split <;> simp [SessionHandled.Ends, sessionFailure, Handled.failed]

private theorem ends_startSession {readings : SessionReadings} {req : SessionInfo}
    (hh : startSessionLogic.handleRequest sm readings req repl = some h) :
    SessionHandled.Ends h := by
  simp only [startSessionLogic] at hh
  split at hh
  · obtain rfl := Option.some.inj hh
    simp [SessionHandled.Ends, sessionFailure, Handled.failed]
  · obtain ⟨requested, -, hh⟩ := Option.bind_eq_some_iff.mp hh
    split at hh
    · split at hh
      · obtain rfl := Option.some.inj hh
        simp [SessionHandled.Ends]
      · obtain rfl := Option.some.inj hh
        exact ends_startOutOfRange _ _ _
      · exact ends_sessionThrows hh
    · split at hh
      · obtain rfl := Option.some.inj hh
        simp [SessionHandled.Ends, sessionFailure, Handled.failed]
      · exact ends_sessionThrows hh
    · obtain rfl := Option.some.inj hh
      exact ends_startOutOfRange _ _ _
    · cases hh

private theorem ends_closeSession {readings : SessionReadings} {req : SessionInfo}
    (hh : (closeSessionLogic ord).handleRequest sm readings req repl = some h) :
    SessionHandled.Ends h := by
  simp only [closeSessionLogic] at hh
  split at hh
  · obtain rfl := Option.some.inj hh
    simp [SessionHandled.Ends, Handled.failed]
  · split at hh
    · exact ends_sessionThrows hh
    · split at hh
      · obtain rfl := Option.some.inj hh
        simp [SessionHandled.Ends]
      · obtain rfl := Option.some.inj hh
        simp [SessionHandled.Ends, sessionFailure, Handled.failed]
      · exact ends_sessionThrows hh

private theorem ends_keepAliveSession {readings : SessionReadings} {req : SessionInfo}
    (hh : keepAliveSessionLogic.handleRequest sm readings req repl = some h) :
    SessionHandled.Ends h := by
  simp only [keepAliveSessionLogic] at hh
  split at hh
  · obtain rfl := Option.some.inj hh
    simp [SessionHandled.Ends, Handled.failed]
  · obtain ⟨requested, -, hh⟩ := Option.bind_eq_some_iff.mp hh
    split at hh
    · exact ends_sessionThrows hh
    · obtain rfl := Option.some.inj hh
      simp [SessionHandled.Ends, sessionFailure, Handled.failed]
    · split at hh
      · exact ends_sessionThrows hh
      · obtain rfl := Option.some.inj hh
        simp [SessionHandled.Ends]

private theorem finishAtOnce_sessionRpcs : FinishAtOnce (sessionRpcs Inv ord) := by
  rintro (_ | _ | _ | _) sm readings req r hr
  · obtain ⟨h, hh, rfl⟩ := Option.map_eq_some_iff.mp hr
    exact ends_caught (ends_startSession hh)
  · obtain ⟨h, hh, rfl⟩ := Option.map_eq_some_iff.mp hr
    exact ends_caught (ends_closeSession hh)
  · obtain ⟨h, hh, rfl⟩ := Option.map_eq_some_iff.mp hr
    exact ends_caught (ends_keepAliveSession hh)
  · obtain rfl := Option.some.inj (process_listSessions.symm.trans hr)
    rfl

end Finish

/-! ### Runs -/

section Runs

variable {Inv : Type} {ord : SecretOrder} {len : Int}

/-- A request is answered as the book says, and the session manager holds the next book. -/
theorem SessionManager.Mirrors.serve {sm : SessionManager} {book : SessionBook}
    (hm : sm.Mirrors len book) {kind : SessionRpc} {req : kind.Req} {readings : SessionReadings}
    {r : Handled SessionManager kind.Reply Inv Bool}
    (hr : (sessionRpcs Inv ord kind).process sm readings req (sessionRpcs Inv ord kind).emptyReply =
      some r) (hsafe : sm.StartsSafely (some (.inl ⟨kind, req, readings, r.calls⟩))) :
    ServedAs len book (.inl ⟨kind, req, readings, r.calls⟩) r.logic := by
  cases kind with
  | startSession => exact hm.startSession hr hsafe
  | closeSession => exact hm.closeSession hr
  | keepAliveSession => exact hm.keepAliveSession hr
  | listSessions => exact hm.listSessions hr

/-- The next exchange changes the book that the earlier ones have left. -/
private theorem bookAfter_concat (log : List SessionSeen) (w : SessionSeen) :
    bookAfter len (log ++ [w]) = (bookAfter len log).next len w := by
  rw [bookAfter, List.foldl_append]
  rfl

/-- The invariant of a run. -/
structure SessionServer.Follows (Inv : Type) (ord : SecretOrder) (len : Int)
    (s : SessionServer Inv) (log : List SessionSeen) : Prop where
  waiting : RpcServer.Waiting (sessionRpcs Inv ord) s
  mirrors : s.logic.Mirrors len (bookAfter len log)

/-- **A safe step** is answered from the book, and follows it. -/
theorem SessionServer.Follows.step {s s' : SessionServer Inv} {l : SessionServiceLabel}
    {log : List SessionSeen} (hs : s.Follows Inv ord len log) (hl : s.Safe Inv ord l)
    (hstep : s.step Inv ord l = some s') :
    match s.seen Inv ord l with
    | none => s'.Follows Inv ord len log
    | some w => AnswersFrom len (bookAfter len log) w ∧ s'.Follows Inv ord len (log ++ [w]) := by
  cases l with
  | rpc e =>
    obtain ⟨hwaiting, heffect⟩ := RpcServer.Waiting.step finishAtOnce_sessionRpcs hs.waiting hstep
    obtain ⟨hnone, hlogic⟩ | ⟨kind, req, r, hr, hsome, hlogic⟩ := heffect
    · have hseen : s.seen Inv ord (.rpc e) = none := congrArg (Option.map Sum.inl) hnone
      rw [hseen]
      exact ⟨hwaiting, hlogic ▸ hs.mirrors⟩
    · have hseen : s.seen Inv ord (.rpc e) = some (.inl ⟨kind, req, e.env, r.calls⟩) :=
        congrArg (Option.map Sum.inl) hsome
      have hsafe : s.logic.StartsSafely (some (.inl ⟨kind, req, e.env, r.calls⟩)) := hseen ▸ hl
      obtain ⟨hanswer, hmirrors⟩ := hs.mirrors.serve hr hsafe
      rw [hseen]
      refine ⟨hanswer, hwaiting, ?_⟩
      rwa [hlogic, bookAfter_concat]
  | update now =>
    obtain ⟨sm, hsettle, rfl⟩ := Option.map_eq_some_iff.mp hstep
    obtain ⟨sm', hupdate⟩ := hs.mirrors.linked.exists_updateSessionStates ord now
    rw [hupdate] at hsettle
    obtain rfl := Option.some.inj hsettle
    refine ⟨trivial, hs.waiting, ?_⟩
    rw [bookAfter_concat]
    exact hs.mirrors.updated hupdate

end Runs

end Foxtrot
