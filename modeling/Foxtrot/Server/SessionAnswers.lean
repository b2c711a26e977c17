import Foxtrot.Server.SessionRpcs
import Foxtrot.Session.Agreement

/-!
# The answers of the session service

What the session service is for: a book of leases. A client that starts a session gets a secret, and
who shows the secret can close the session or renew it, until it expires; anyone can list the
sessions, without their secrets. `bookAfter` reads the book off what is seen of the service, the
exchanges and the clock readings of the expiry updates, without its state.

**Every reply is the one of this book** (`sessions_answered`): a session starts unless one of the
book has an item that is asked for, which the error then tells, or the requested expiry is out of
its bounds; a secret leads to its session as long as the book has it; the list has one entry for
each session of the book. Device ids are compared in 16 bits, as the cache of the session manager
does. The granted expiry is the longest one whatever was requested, and a renewal grants what was
requested.

This is so in runs whose sessions start with a secret that is not in use, and not while the ids
`65535` and `0` are both live.
-/

namespace Foxtrot

open Histories LeaseBook SessionManager TransitionSystem

/-! ### The book -/

/-- A session as its clients know it. -/
structure SessionLease where
  userIdentifier : String
  comment : String
  devices : List UInt32
  flags : List String
  expiry : Int
  deriving DecidableEq

/-- A session without its internal id. -/
def FtSessionInfo.lease (ses : FtSessionInfo) : SessionLease :=
  ⟨ses.userIdentifier, ses.comment, ses.devices, ses.flags, ses.expiry⟩

/-- The sessions by their secrets. -/
abbrev SessionBook := Book Sessionid SessionLease

/-- The reply, if it was sent and came without an error. -/
def granted (calls : List (ResponderCall SessionInfo)) : Option SessionInfo :=
  match calls with
  | [.finishWith repl] => if repl.err = none then some repl else none
  | _ => none

/-- The requested expiry, in ticks. -/
def SessionInfo.requested (req : SessionInfo) : Option Int := req.expiry.map (· * ticksPerSecond)

/-- The event of the book that is seen, if there is one. -/
def sessionEvent (len : Int) (book : SessionBook) :
    SessionSeen → Option (Event Sessionid SessionLease Int)
  | .inr now => some (.sweep now)
  | .inl ⟨.startSession, req, readings, calls⟩ => (granted calls).map fun repl =>
    .grant (binarySesid repl.sessionid)
      ⟨req.userIdentifier, req.comment, req.devices, req.flags, readings.now + len⟩
  | .inl ⟨.closeSession, req, _, calls⟩ => (granted calls).map fun _ =>
    .drop (binarySesid req.sessionid)
  | .inl ⟨.keepAliveSession, req, readings, calls⟩ => (granted calls).bind fun _ =>
    (book (binarySesid req.sessionid)).map fun lease =>
      .renew (binarySesid req.sessionid)
        { lease with expiry := req.requested.getD (readings.now + len) }
  | .inl ⟨.listSessions, _, _, _⟩ => none

/-- The book after one more thing is seen. -/
def SessionBook.next (len : Int) (book : SessionBook) (w : SessionSeen) : SessionBook :=
  match sessionEvent len book w with
  | some ev => ev.apply SessionLease.expiry book
  | none => book

/-- The book after all that is seen. -/
def bookAfter (len : Int) (log : List SessionSeen) : SessionBook :=
  log.foldl (SessionBook.next len) fun _ => none

/-! ### The answers of a book -/

/-- A reply with an error. -/
def sessionRefusal (tp : ErrorTypes) (msg : String) : SessionInfo :=
  { SessionInfo.empty with err := some ⟨tp, msg⟩ }

/-- The session has an item that is asked for. -/
def SessionLease.Conflicts (lease : SessionLease) (req : SessionInfo) : Prop :=
  (∃ d ∈ req.devices, ∃ d' ∈ lease.devices, d'.toUInt16 = d.toUInt16) ∨
    ∃ f ∈ req.flags, f ∈ lease.flags

/-- The refusal of an expiry that is longer than the session length from `now`, or past. -/
def expiryRefusal (len now tm : Int) : Option String :=
  if now + len < tm then some "requested a session longer than max allowed"
  else if tm < now then some "requested a session expiry in the past"
  else none

/-- The answers to a request to start a session. -/
inductive StartAnswer (len : Int) (book : SessionBook) (req : SessionInfo)
    (readings : SessionReadings) : SessionInfo → Prop
  | anonymous (huser : req.userIdentifier = "") :
    StartAnswer len book req readings
      (sessionRefusal .ftServerError "must supply a user identifier to start session")
  | conflict (huser : req.userIdentifier ≠ "") (σ : Sessionid) (lease : SessionLease)
      (hlease : book σ = some lease) (hconflicts : lease.Conflicts req) :
    StartAnswer len book req readings
      { sessionRefusal .ftServerError "Can't start session as it conflicts with another session"
        with
        userIdentifier := lease.userIdentifier
        comment := lease.comment
        expiry := some (toTimeT lease.expiry) }
  | beyond (huser : req.userIdentifier ≠ "")
      (hfree : ∀ σ lease, book σ = some lease → ¬ lease.Conflicts req) (tm : Int) (what : String)
      (htm : req.requested = some tm) (hwhat : expiryRefusal len readings.chk tm = some what)
      (hbeyond : readings.later + len < tm) :
    StartAnswer len book req readings
      { sessionRefusal .ftServerError "requested an expiry beyond the maximum allowed" with
        expiry := some (toTimeT (readings.later + len)) }
  | outOfRange (huser : req.userIdentifier ≠ "")
      (hfree : ∀ σ lease, book σ = some lease → ¬ lease.Conflicts req) (tm : Int) (what : String)
      (htm : req.requested = some tm) (hwhat : expiryRefusal len readings.chk tm = some what)
      (hwithin : tm ≤ readings.later + len) :
    StartAnswer len book req readings (sessionRefusal .outOfRange what)
  | started (huser : req.userIdentifier ≠ "")
      (hfree : ∀ σ lease, book σ = some lease → ¬ lease.Conflicts req)
      (hexpiry : ∀ tm ∈ req.requested, expiryRefusal len readings.chk tm = none)
      (hnew : book readings.secret = none) :
    StartAnswer len book req readings
      ⟨none, readings.secret.toList, req.userIdentifier, req.comment, req.devices, req.flags,
        some (toTimeT (readings.now + len))⟩

/-- The answer to a request with a secret, if the secret leads to a session or not. -/
def withSecret (book : SessionBook) (req : SessionInfo) (unknown : SessionInfo)
    (known : SessionLease → SessionInfo) : SessionInfo :=
  if req.sessionid = [] then
    sessionRefusal .ftServerError "must supply a session secret to use this call"
  else if req.sessionid.length ≠ 32 then
    sessionRefusal .ftServerError "invalid session id format"
  else
    match book (binarySesid req.sessionid) with
    | none => unknown
    | some lease => known lease

/-- All that is told of a session. -/
def SessionLease.describe (lease : SessionLease) : SessionInfo :=
  ⟨none, [], lease.userIdentifier, lease.comment, lease.devices, lease.flags,
    some (toTimeT lease.expiry)⟩

/-- The answer to a request to close a session. -/
def closeAnswer (book : SessionBook) (req : SessionInfo) : SessionInfo :=
  withSecret book req (sessionRefusal .outOfRange "invalid secret!") SessionLease.describe

/-- The answer to a request to renew a session. -/
def keepAliveAnswer (len : Int) (book : SessionBook) (req : SessionInfo)
    (readings : SessionReadings) : SessionInfo :=
  withSecret book req (sessionRefusal .ftServerError "unable to renew session") fun lease =>
    match req.requested.bind (expiryRefusal len readings.now) with
    | some what => sessionRefusal .outOfRange what
    | none => ⟨none, [], lease.userIdentifier, lease.comment, [], [],
        some (toTimeT (req.requested.getD (readings.now + len)))⟩

/-- The answers to a request for the list: one entry for each session. -/
def ListAnswer (book : SessionBook) (repl : SessionList) : Prop :=
  repl.err = none ∧ ∃ secrets : List Sessionid, secrets.Nodup ∧
    (∀ σ, σ ∈ secrets ↔ book σ ≠ none) ∧
    repl.sessions.Perm (secrets.filterMap fun σ => (book σ).map SessionLease.describe)

/-- What is seen is as the book says. -/
def AnswersFrom (len : Int) (book : SessionBook) : SessionSeen → Prop
  | .inr _ => True
  | .inl ⟨.startSession, req, readings, calls⟩ =>
    ∃ repl, calls = [.finishWith repl] ∧ StartAnswer len book req readings repl
  | .inl ⟨.closeSession, req, _, calls⟩ => calls = [.finishWith (closeAnswer book req)]
  | .inl ⟨.keepAliveSession, req, readings, calls⟩ =>
    calls = [.finishWith (keepAliveAnswer len book req readings)]
  | .inl ⟨.listSessions, _, _, calls⟩ => ∃ repl, calls = [.finishWith repl] ∧ ListAnswer book repl

/-! ### The conditions on a run -/

/-- An exchange that starts a session does so with a secret that is not in use, and not while the
ids `65535` and `0` are both live. -/
def SessionManager.StartsSafely (sm : SessionManager) : Option SessionSeen → Prop
  | some (.inl ⟨.startSession, _, readings, calls⟩) => granted calls ≠ none →
    readings.secret ∉ sm.sessionidmap ∧ (65535 ∈ sm.sessionmap → 0 ∉ sm.sessionmap)
  | _ => True

instance SessionManager.StartsSafely.decidable (sm : SessionManager) :
    ∀ w, Decidable (sm.StartsSafely w)
  | some (.inl ⟨.startSession, _, readings, calls⟩) => inferInstanceAs (Decidable
      (granted calls ≠ none →
        readings.secret ∉ sm.sessionidmap ∧ (65535 ∈ sm.sessionmap → 0 ∉ sm.sessionmap)))
  | some (.inl ⟨.closeSession, _, _, _⟩) | some (.inl ⟨.keepAliveSession, _, _, _⟩)
  | some (.inl ⟨.listSessions, _, _, _⟩) | some (.inr _) | none => inferInstanceAs (Decidable True)

/-- The condition on a step of the service. -/
def SessionServer.Safe (Inv : Type) (ord : SecretOrder) (s : SessionServer Inv)
    (l : SessionServiceLabel) : Prop :=
  s.logic.StartsSafely (s.seen Inv ord l)

instance SessionServer.Safe.decidable {Inv : Type} {ord : SecretOrder} (s : SessionServer Inv)
    (l : SessionServiceLabel) : Decidable (s.Safe Inv ord l) :=
  inferInstanceAs (Decidable (s.logic.StartsSafely _))

end Foxtrot
