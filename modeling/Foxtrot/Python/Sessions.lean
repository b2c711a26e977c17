import Foxtrot.Python.TypeConversion
import Foxtrot.Server.SessionService

/-!
# Session objects in the Python client

`python/pyfoxtrot/Sessions.py`: a `Session` object is made from a reply, of a start or of a list. It
keeps the secret of the reply, which a list does not tell, and **closes its session when it is
collected** (`__del__`), if it is interactive, which all objects are that are made so. A client
refers to the object it has started last, until that is closed. An exception in `__del__` is
ignored.

So **a session and its object live and die together** (`sessions_owned`): every session of the
server belongs to one object, which has its secret and has not been collected, and to no other. It
ends with that object, or when it has expired: an object made from a list can neither close it nor
renew it, and its collection does nothing to the server.

The clients of the server are taken to be Python clients whose processes end in order, and the
server has a single worker. `ι` are the clients. The objects are numbered in the order in which they
are made.

Each step of a client is one RPC of the session service, so it is described by what the book makes
of it: a start adds a lease with the drawn secret, a close and a collection drop the lease of the
object's secret, a renewal changes its expiry, and a list changes nothing. That objects share no
secret is kept because a start draws one that no object has, even one that has been collected.
-/

namespace Foxtrot.Python

open LeaseBook SessionManager TransitionSystem

/-- `Session`. -/
structure Session (ι : Type) where
  userid : String
  comment : String
  secret : List UInt8
  /-- The seconds of the timestamp; `fromtimestamp` makes a time of them. -/
  expiry : Int
  devices : List UInt32
  flags : List String
  /-- The client whose session manager has made it. -/
  sm : ι
  interactive : Bool

/-- A `Session` object, and whether it has been collected. -/
structure SessionObject (ι : Type) extends Session ι where
  collected : Bool

/-- An exception of `Sessions.py`. -/
inductive SessionException where
  /-- `SessionConflictError`, with the owner and the comment of the reply. -/
  | conflict (msg owner comment : String)
  | reply (e : ReplyException)

/-- The clients of a server, with their objects. -/
structure Sessions (ι : Type) where
  mgr : SessionManager
  objs : List (SessionObject ι)
  /-- `_active_session`, as the number of the object. -/
  active : ι → Option ℕ

/-- `Session._from_repl`, in the session manager of a client. A timestamp that is not set has no
seconds. -/
def Session.fromRepl {ι : Type} (sm : ι) (repl : SessionInfo) : Session ι where
  userid := repl.userIdentifier
  comment := repl.comment
  secret := repl.sessionid
  expiry := repl.expiry.getD 0
  devices := repl.devices
  flags := repl.flags
  sm := sm
  interactive := true

/-- The stubs of the service `sessions`. -/
def sessionStub (ord : SecretOrder) (kind : SessionRpc) (mgr : SessionManager)
    (readings : SessionReadings) (req : kind.Req) : Option (SessionManager × kind.Reply) :=
  (sessionRpcs Empty ord kind).call mgr readings req

namespace Sessions

variable {ι : Type} [DecidableEq ι] (ord : SecretOrder) (s : Sessions ι)
  (readings : SessionReadings)

/-- The request of `_start_session`. -/
def startRequest (userid comment : String) (devices : List UInt32) (flags : List String)
    (expiryRequest : Option Int) : SessionInfo :=
  ⟨none, [], userid, comment, devices, flags, expiryRequest⟩

/-- `_start_session`. -/
def startSession (cl : ι) (userid comment : String) (devices : List UInt32) (flags : List String)
    (expiryRequest : Option Int) : Option (Sessions ι × Except SessionException ℕ) := do
  let (mgr, repl) ← sessionStub ord .startSession s.mgr readings
    (startRequest userid comment devices flags expiryRequest)
  match checkReplErr repl.err with
  | .error (.serverError msg) =>
    return ({ s with mgr }, .error (.conflict msg repl.userIdentifier repl.comment))
  | .error e => return ({ s with mgr }, .error (.reply e))
  | .ok () =>
    let ses := Session.fromRepl cl repl
    return (⟨mgr, s.objs ++ [⟨ses, false⟩], Function.update s.active cl (some s.objs.length)⟩,
      .ok s.objs.length)

/-- `_close_session`, on an object of this number. -/
def closeSession (i : ℕ) (ses : Session ι) :
    Option (Sessions ι × Except SessionException Unit) := do
  let (mgr, repl) ← sessionStub ord .closeSession s.mgr readings
    { SessionInfo.empty with sessionid := ses.secret }
  match checkReplErr repl.err with
  | .error e => return ({ s with mgr }, .error (.reply e))
  | .ok () =>
    let active := if s.active ses.sm = some i then Function.update s.active ses.sm none
      else s.active
    return ({ s with mgr, active }, .ok ())

/-- `_renew_session`. -/
def renewSession (i : ℕ) (ses : Session ι) (requestedExpiry : Option Int) :
    Option (Sessions ι × Except SessionException Unit) := do
  let (mgr, repl) ← sessionStub ord .keepAliveSession s.mgr readings
    { SessionInfo.empty with sessionid := ses.secret, expiry := requestedExpiry }
  match checkReplErr repl.err with
  | .error e => return ({ s with mgr }, .error (.reply e))
  | .ok () =>
    let objs := s.objs.modify i fun o => { o with expiry := repl.expiry.getD 0 }
    return ({ s with mgr, objs }, .ok ())

/-- `_list_sessions`. -/
def listSessions (cl : ι) : Option (Sessions ι × Except SessionException (List ℕ)) := do
  let (mgr, repl) ← sessionStub ord .listSessions s.mgr readings ()
  match checkReplErr repl.err with
  | .error e => return ({ s with mgr }, .error (.reply e))
  | .ok () =>
    let made := repl.sessions.map fun info => ⟨Session.fromRepl cl info, false⟩
    return ({ s with mgr, objs := s.objs ++ made },
      .ok (List.range' s.objs.length made.length))

/-- `Session.__del__`. -/
def del (i : ℕ) (ses : Session ι) : Option (Sessions ι) :=
  if ses.interactive then (s.closeSession ord readings i ses).map Prod.fst else some s

end Sessions

/-- What the users of the clients do, and what happens to them. -/
inductive SessionsLabel (ι : Type) where
  | start (cl : ι) (userid comment : String) (devices : List UInt32) (flags : List String)
    (expiryRequest : Option Int) (readings : SessionReadings)
  /-- `Session.close`. -/
  | close (i : ℕ) (readings : SessionReadings)
  | renew (i : ℕ) (requestedExpiry : Option Int) (readings : SessionReadings)
  | list (cl : ι) (readings : SessionReadings)
  /-- An object is collected. -/
  | collect (i : ℕ) (readings : SessionReadings)
  /-- The server removes the expired sessions. -/
  | update (now : Int)

section System

variable {ι : Type} [DecidableEq ι]

/-- An object that can still be used. -/
def Sessions.object (s : Sessions ι) (i : ℕ) : Option (SessionObject ι) :=
  s.objs[i]?.filter fun o => !o.collected

/-- One step. An object can be collected when its client does not refer to it. A call whose expiry
does not fit in the clock of the server has no step. -/
def Sessions.step (ord : SecretOrder) (s : Sessions ι) : SessionsLabel ι → Option (Sessions ι)
  | .start cl userid comment devices flags expiryRequest readings =>
    (s.startSession ord readings cl userid comment devices flags expiryRequest).map Prod.fst
  | .close i readings => do
    let o ← s.object i
    (s.closeSession ord readings i o.toSession).map Prod.fst
  | .renew i requestedExpiry readings => do
    let o ← s.object i
    (s.renewSession ord readings i o.toSession requestedExpiry).map Prod.fst
  | .list cl readings => (s.listSessions ord readings cl).map Prod.fst
  | .collect i readings => do
    let o ← s.object i
    if s.active o.sm = some i then none
    else do
      let s ← s.del ord readings i o.toSession
      return { s with objs := s.objs.modify i fun o => { o with collected := true } }
  | .update now => (s.mgr.settle (s.mgr.updateSessionStates ord now)).map fun mgr => { s with mgr }

/-- A start draws a secret that no object has, and is not made while the ids `65535` and `0` are
both live. -/
def Sessions.FreshStart (s : Sessions ι) : SessionsLabel ι → Prop
  | .start _ _ _ _ _ _ readings =>
    (∀ o ∈ s.objs, o.secret ≠ readings.secret.toList) ∧
      (65535 ∈ s.mgr.sessionmap → 0 ∉ s.mgr.sessionmap)
  | _ => True

instance Sessions.FreshStart.decidable (s : Sessions ι) : ∀ l, Decidable (s.FreshStart l)
  | .start _ _ _ _ _ _ readings => inferInstanceAs (Decidable
      ((∀ o ∈ s.objs, o.secret ≠ readings.secret.toList) ∧
        (65535 ∈ s.mgr.sessionmap → 0 ∉ s.mgr.sessionmap)))
  | .close _ _ | .renew _ _ _ | .list _ _ | .collect _ _ | .update _ =>
    inferInstanceAs (Decidable True)

end System

/-! ### What the stubs do to the book -/

section Stubs

variable {ord : SecretOrder} {mgr mgr' : SessionManager} {len : Int} {book : SessionBook}
  {readings : SessionReadings} {req : SessionInfo} {repl : SessionInfo} {secret : List UInt8}

/-- A call is answered as the book says. -/
theorem served_of_stub (hm : mgr.Mirrors len book) {kind : SessionRpc} {req : kind.Req}
    {repl : kind.Reply} (h : sessionStub ord kind mgr readings req = some (mgr', repl))
    (hsafe : mgr.StartsSafely (some (.inl ⟨kind, req, readings, [.finishWith repl]⟩))) :
    ServedAs len book (.inl ⟨kind, req, readings, [.finishWith repl]⟩) mgr' := by
  obtain ⟨r, hr, rfl, hcalls⟩ := Rpc.process_of_call h
  rw [← hcalls] at hsafe ⊢
  exact hm.serve hr hsafe

/-- A start is refused, or its session has the secret that was drawn, which led to nothing. -/
theorem startStub_cases (hm : mgr.Mirrors len book)
    (h : sessionStub ord .startSession mgr readings req = some (mgr', repl))
    (hnew : readings.secret ∉ mgr.sessionidmap)
    (hids : 65535 ∈ mgr.sessionmap → 0 ∉ mgr.sessionmap) :
    (repl.err ≠ none ∧ mgr'.Mirrors len book) ∨
      (repl.err = none ∧ repl.sessionid = readings.secret.toList ∧ ∃ lease,
        mgr'.Mirrors len (Function.update book readings.secret (some lease))) := by
  obtain ⟨⟨repl', heq, hanswer⟩, hm'⟩ := served_of_stub hm h fun _ => ⟨hnew, hids⟩
  obtain rfl : repl = repl' := ResponderCall.finishWith.inj (List.singleton_inj.mp heq)
  by_cases herr : repl.err = none
  · -- only a session that starts comes without an error
    have hid : repl.sessionid = readings.secret.toList := by
      cases hanswer with
      | started => rfl
      | anonymous | conflict | beyond | outOfRange => cases herr
    rw [SessionBook.next, sessionEvent, granted, if_pos herr, Option.map_some, hid,
      binarySesid_toList] at hm'
    exact .inr ⟨herr, hid, _, hm'⟩
  · refine .inl ⟨herr, ?_⟩
    rwa [SessionBook.next_of_none] at hm'
    rw [sessionEvent, granted_of_err herr]
    rfl

/-- Bytes of the right number are the vector that they are copied to. -/
theorem toList_ofFn_getD {n : ℕ} {l : List UInt8} (h : l.length = n) :
    (Vector.ofFn fun i : Fin n => l.getD i 0).toList = l := by
  subst h
  rw [Vector.toList_ofFn]
  refine List.ext_getElem (List.length_ofFn) fun i hi hi' => ?_
  rw [List.getElem_ofFn, List.getD_eq_getElem?_getD, List.getElem?_eq_getElem hi', Option.getD_some]

/-- A request has the secret of a session of the book, or is refused. -/
theorem withSecret_cases (book : SessionBook) (req unknown : SessionInfo)
    (known : SessionLease → SessionInfo) :
    (∃ σ lease, req.sessionid = σ.toList ∧ book σ = some lease ∧
        withSecret book req unknown known = known lease) ∨
      ((∀ σ : Sessionid, req.sessionid = σ.toList → book σ = none) ∧
        (unknown.err ≠ none → (withSecret book req unknown known).err ≠ none)) := by
  unfold withSecret
  have hlength {σ : Sessionid} (hσ : req.sessionid = σ.toList) : req.sessionid.length = 32 := by
    rw [hσ, Vector.length_toList]
  split_ifs with hnil h32
  · refine .inr ⟨fun σ hσ => ?_, fun _ => Option.some_ne_none _⟩
    have hzero := hlength hσ
    rw [hnil] at hzero
    cases hzero
  · exact .inr ⟨fun σ hσ => absurd (hlength hσ) h32, fun _ => Option.some_ne_none _⟩
  · cases hbook : book (binarySesid req.sessionid) with
    | none =>
      refine .inr ⟨fun σ hσ => ?_, id⟩
      rwa [hσ, binarySesid_toList] at hbook
    | some lease =>
      exact .inl ⟨_, lease, (toList_ofFn_getD (not_not.mp h32)).symm, hbook, rfl⟩

/-- A close is refused and its secret leads to nothing, or the session of its secret is gone. -/
theorem closeStub_cases (hm : mgr.Mirrors len book)
    (h : sessionStub ord .closeSession mgr readings
      { SessionInfo.empty with sessionid := secret } = some (mgr', repl)) :
    (repl.err ≠ none ∧ mgr'.Mirrors len book ∧
        ∀ σ : Sessionid, secret = σ.toList → book σ = none) ∨
      (repl.err = none ∧ ∃ σ : Sessionid, secret = σ.toList ∧
        mgr'.Mirrors len (Function.update book σ none)) := by
  obtain ⟨heq, hm'⟩ := served_of_stub hm h trivial
  have hrepl := ResponderCall.finishWith.inj (List.singleton_inj.mp heq)
  rw [closeAnswer] at hrepl
  obtain ⟨σ, lease, hσ, -, hknown⟩ | ⟨hunknown, hrefused⟩ := withSecret_cases book
    { SessionInfo.empty with sessionid := secret }
    (sessionRefusal .outOfRange "invalid secret!") SessionLease.describe
  · have herr : repl.err = none := (congrArg SessionInfo.err (hrepl.trans hknown) :)
    have hevent : sessionEvent len book (.inl ⟨.closeSession,
        { SessionInfo.empty with sessionid := secret }, readings, [.finishWith repl]⟩) =
          some (.drop σ) := by
      rw [sessionEvent, granted, if_pos herr, Option.map_some, hσ, binarySesid_toList]
    rw [SessionBook.next_of_some hevent] at hm'
    exact .inr ⟨herr, σ, hσ, hm'⟩
  · have herr : repl.err ≠ none := by
      rw [hrepl]
      exact hrefused (Option.some_ne_none _)
    refine .inl ⟨herr, ?_, hunknown⟩
    rwa [SessionBook.next_of_none] at hm'
    rw [sessionEvent, granted_of_err herr]
    rfl

/-- A renewal leaves the book alone, or gives the session of its secret another expiry. -/
theorem keepAliveStub_cases {expiry : Option Int} (hm : mgr.Mirrors len book)
    (h : sessionStub ord .keepAliveSession mgr readings
      { SessionInfo.empty with sessionid := secret, expiry } = some (mgr', repl)) :
    mgr'.Mirrors len book ∨ ∃ σ lease tm, secret = σ.toList ∧ book σ = some lease ∧
      mgr'.Mirrors len (Function.update book σ (some { lease with expiry := tm })) := by
  obtain ⟨heq, hm'⟩ := served_of_stub hm h trivial
  have hrepl := ResponderCall.finishWith.inj (List.singleton_inj.mp heq)
  by_cases herr : repl.err = none
  · rw [keepAliveAnswer] at hrepl
    obtain ⟨σ, lease, hσ, hlease, -⟩ | ⟨-, hrefused⟩ := withSecret_cases book
      { SessionInfo.empty with sessionid := secret, expiry } _ _
    · have hevent : sessionEvent len book (.inl ⟨.keepAliveSession,
          { SessionInfo.empty with sessionid := secret, expiry }, readings, [.finishWith repl]⟩) =
            some (.renew σ { lease with
              expiry := ({ SessionInfo.empty with sessionid := secret, expiry } :
                SessionInfo).requested.getD (readings.now + len) }) := by
        rw [sessionEvent, granted, if_pos herr, Option.bind_some, hσ, binarySesid_toList, hlease,
          Option.map_some]
      rw [SessionBook.next_of_some hevent, Event.apply] at hm'
      exact .inr ⟨σ, lease, _, hσ, hlease, hm'⟩
    · rw [hrepl] at herr
      exact absurd herr (hrefused (Option.some_ne_none _))
  · refine .inl ?_
    rwa [SessionBook.next_of_none] at hm'
    rw [sessionEvent, granted_of_err herr]
    rfl

/-- A list leaves the book alone, and tells no secret. -/
theorem listStub_cases {repl : SessionList} (hm : mgr.Mirrors len book)
    (h : sessionStub ord .listSessions mgr readings () = some (mgr', repl)) :
    mgr'.Mirrors len book ∧ ∀ info ∈ repl.sessions, info.sessionid = [] := by
  obtain ⟨⟨repl', heq, -, secrets, -, -, hperm⟩, hm'⟩ := served_of_stub hm h trivial
  obtain rfl : repl = repl' := ResponderCall.finishWith.inj (List.singleton_inj.mp heq)
  refine ⟨hm', fun info hinfo => ?_⟩
  obtain ⟨σ, -, hσ⟩ := List.mem_filterMap.mp (hperm.mem_iff.mp hinfo)
  obtain ⟨lease, -, rfl⟩ := Option.map_eq_some_iff.mp hσ
  rfl

end Stubs

/-! ### Owners

To own a session is to have its secret and not to have been collected. A step that starts no session
and gives no object a secret keeps the owners if no session that stays loses its object
(`Sessions.Owned.of_step`). -/

/-- The sessions of a session manager, by their secrets. -/
def book (mgr : SessionManager) : SessionBook := fun σ => (mgr.sessionOf σ).map FtSessionInfo.lease

private theorem book_eq {mgr : SessionManager} {len : Int} {b : SessionBook}
    (hm : mgr.Mirrors len b) :
    book mgr = b := funext hm.book

section Owned

variable {ι : Type} {len : Int} {s s' : Sessions ι}

/-- The object with this number has this secret. -/
def Sessions.Has (s : Sessions ι) (i : ℕ) (secret : List UInt8) : Prop :=
  ∃ o, s.objs[i]? = some o ∧ o.secret = secret

/-- The object with this number has this secret, and can still be used. -/
def Sessions.Owns (s : Sessions ι) (i : ℕ) (secret : List UInt8) : Prop :=
  ∃ o, s.object i = some o ∧ o.secret = secret

/-- Each session has an object that can be used, objects share no secret, and are interactive. -/
structure Sessions.Owned (s : Sessions ι) (len : Int) : Prop where
  mirrors : s.mgr.Mirrors len (book s.mgr)
  owner : ∀ σ : Sessionid, book s.mgr σ ≠ none → ∃ i, s.Owns i σ.toList
  unique : ∀ i j secret, s.Has i secret → s.Has j secret → secret ≠ [] → i = j
  interactive : ∀ o ∈ s.objs, o.interactive = true

/-- What a step makes of the session of a secret: `after` is what is left of it. -/
def Sessions.Treats (s : Sessions ι) (σ : Sessionid) (lease : SessionLease)
    (after : Option SessionLease) : SessionsLabel ι → Prop
  | .close i _ | .collect i _ =>
    (s.Owns i σ.toList ∧ after = none) ∨ (¬ s.Owns i σ.toList ∧ after = some lease)
  | .renew i _ _ =>
    after = some lease ∨ s.Owns i σ.toList ∧ ∃ tm, after = some { lease with expiry := tm }
  | .update now => after = if lease.expiry < now then none else some lease
  | .start _ _ _ _ _ _ _ | .list _ _ => after = some lease

/-- A step keeps the owners, and treats each session as it says. -/
def Sessions.Proper (s : Sessions ι) (len : Int) (l : SessionsLabel ι) (s' : Sessions ι) : Prop :=
  s'.Owned len ∧ ∀ σ lease, book s.mgr σ = some lease → s.Treats σ lease (book s'.mgr σ) l

private theorem object_eq_some_iff {i : ℕ} {o : SessionObject ι} :
    s.object i = some o ↔ s.objs[i]? = some o ∧ o.collected = false := by
  rw [Sessions.object, Option.filter_eq_some_iff, Bool.not_eq_true']

/-- An object that owns a session has its secret. -/
theorem Sessions.Owns.has {i : ℕ} {secret : List UInt8} (h : s.Owns i secret) : s.Has i secret := by
  obtain ⟨o, ho, hsecret⟩ := h
  exact ⟨o, (object_eq_some_iff.mp ho).1, hsecret⟩

private theorem owns_iff {i : ℕ} {o : SessionObject ι} (ho : s.object i = some o)
    {secret : List UInt8} :
    s.Owns i secret ↔ o.secret = secret := by
  constructor
  · rintro ⟨o', ho', hsecret⟩
    rwa [Option.some.inj (ho.symm.trans ho')] at *
  · exact fun hsecret => ⟨o, ho, hsecret⟩

/-- The owners are kept if no session starts, no session that stays loses its object, and no object
gets a secret. -/
theorem Sessions.Owned.of_step (hs : s.Owned len) {b : SessionBook} (hm : s'.mgr.Mirrors len b)
    (hlive : ∀ σ, b σ ≠ none → book s.mgr σ ≠ none)
    (howns : ∀ i (σ : Sessionid), b σ ≠ none → s.Owns i σ.toList → s'.Owns i σ.toList)
    (hhas : ∀ i secret, s'.Has i secret → secret ≠ [] → s.Has i secret)
    (hinter : ∀ o ∈ s'.objs, o.interactive = true) : s'.Owned len where
  mirrors := book_eq hm ▸ hm
  owner σ hσ := by
    rw [book_eq hm] at hσ
    obtain ⟨i, hi⟩ := hs.owner σ (hlive σ hσ)
    exact ⟨i, howns i σ hσ hi⟩
  unique i j secret hi hj hne :=
    hs.unique i j secret (hhas i secret hi hne) (hhas j secret hj hne) hne
  interactive := hinter

/-! ### Objects that are added or changed -/

/-- New objects leave the old ones alone. -/
theorem owns_append {made : List (SessionObject ι)} (hobjs : s'.objs = s.objs ++ made) {i : ℕ}
    {secret : List UInt8} (h : s.Owns i secret) : s'.Owns i secret := by
  obtain ⟨o, ho, hsecret⟩ := h
  obtain ⟨hi, hcollected⟩ := object_eq_some_iff.mp ho
  refine ⟨o, object_eq_some_iff.mpr ⟨?_, hcollected⟩, hsecret⟩
  rw [hobjs, List.getElem?_append_left (List.getElem?_eq_some_iff.mp hi).1, hi]

/-- An object is an old one or one of the new ones. -/
theorem has_append {made : List (SessionObject ι)} (hobjs : s'.objs = s.objs ++ made) {i : ℕ}
    {secret : List UInt8} (h : s'.Has i secret) :
    s.Has i secret ∨ s.objs.length ≤ i ∧ ∃ o, made[i - s.objs.length]? = some o ∧
      o.secret = secret := by
  obtain ⟨o, ho, hsecret⟩ := h
  rw [hobjs] at ho
  rcases lt_or_ge i s.objs.length with hlt | hge
  · rw [List.getElem?_append_left hlt] at ho
    exact .inl ⟨o, ho, hsecret⟩
  · rw [List.getElem?_append_right hge] at ho
    exact .inr ⟨hge, o, ho, hsecret⟩

variable {f : SessionObject ι → SessionObject ι} {i : ℕ}

/-- A change of another kind leaves what an object owns. -/
private theorem owns_modify (hf : ∀ o, (f o).secret = o.secret)
    (hobjs : s'.objs = s.objs.modify i f)
    {j : ℕ} {secret : List UInt8} (hj : j = i → ∀ o, (f o).collected = o.collected)
    (h : s.Owns j secret) : s'.Owns j secret := by
  obtain ⟨o, ho, rfl⟩ := h
  obtain ⟨ho, hcollected⟩ := object_eq_some_iff.mp ho
  by_cases hji : j = i
  · refine ⟨f o, object_eq_some_iff.mpr ⟨?_, (hj hji o).trans hcollected⟩, hf o⟩
    rw [hobjs, List.getElem?_modify, ho, Option.map_eq_map, Option.map_some, if_pos hji.symm]
  · refine ⟨o, object_eq_some_iff.mpr ⟨?_, hcollected⟩, rfl⟩
    rw [hobjs, List.getElem?_modify, ho, Option.map_eq_map, Option.map_some, if_neg (Ne.symm hji)]

private theorem has_modify (hf : ∀ o, (f o).secret = o.secret) (hobjs : s'.objs = s.objs.modify i f)
    {j : ℕ} {secret : List UInt8} (h : s'.Has j secret) : s.Has j secret := by
  obtain ⟨o, ho, rfl⟩ := h
  rw [hobjs, List.getElem?_modify] at ho
  obtain ⟨o', ho', rfl⟩ := Option.map_eq_some_iff.mp ho
  refine ⟨o', ho', ?_⟩
  split
  · exact (hf o').symm
  · rfl

/-- A change of another kind leaves the objects interactive. -/
private theorem Sessions.Owned.interactive_modify (hs : s.Owned len)
    (hf : ∀ o, (f o).interactive = o.interactive) :
    ∀ o ∈ s.objs.modify i f, o.interactive = true := by
  intro o ho
  obtain ⟨j, hj⟩ := List.mem_iff_getElem?.mp ho
  rw [List.getElem?_modify] at hj
  obtain ⟨o', ho', rfl⟩ := Option.map_eq_some_iff.mp hj
  have hmem := hs.interactive o' (List.mem_of_getElem? ho')
  split
  · exact (hf o').trans hmem
  · exact hmem

end Owned

/-! ### Steps -/

section Steps

variable {ι : Type} {ord : SecretOrder} {len : Int} {s s' : Sessions ι} {readings : SessionReadings}
  {i : ℕ} {cl : ι}

/-- A secret that no object has is not in use. -/
theorem Sessions.Owned.secret_free (hs : s.Owned len)
    (hfresh : ∀ o ∈ s.objs, o.secret ≠ readings.secret.toList) :
    readings.secret ∉ s.mgr.sessionidmap := by
  intro hmem
  have hlive : book s.mgr readings.secret ≠ none := by
    rw [book, Ne, Option.map_eq_none_iff, hs.mirrors.linked.sessionOf_eq_none_iff, not_not]
    exact hmem
  obtain ⟨i, hi⟩ := hs.owner readings.secret hlive
  obtain ⟨o, ho, hsecret⟩ := hi.has
  exact hfresh o (List.mem_of_getElem? ho) hsecret

/-- Nothing happens but at the server, which keeps the book. -/
theorem Sessions.Owned.of_objs (hs : s.Owned len) (hm : s'.mgr.Mirrors len (book s.mgr))
    (hobjs : s'.objs = s.objs) : s'.Owned len := by
  have hobject : s'.object = s.object := by
    funext i
    rw [Sessions.object, Sessions.object, hobjs]
  refine hs.of_step hm (fun _ => id) (fun i σ _ hi => ?_) (fun i secret hi _ => ?_)
    (hobjs ▸ hs.interactive)
  · rwa [Sessions.Owns, hobject]
  · rwa [Sessions.Has, hobjs] at hi

/-- The session of the secret of an object that is used ends, and no other. -/
theorem Sessions.closed_cases {o : SessionObject ι} (ho : s.object i = some o) {b : SessionBook}
    (hb : ∀ σ : Sessionid, b σ = if o.secret = σ.toList then none else book s.mgr σ)
    {σ : Sessionid} {lease : SessionLease} (hσ : book s.mgr σ = some lease) :
    (s.Owns i σ.toList ∧ b σ = none) ∨ (¬ s.Owns i σ.toList ∧ b σ = some lease) := by
  rw [owns_iff ho, hb]
  split
  next hsecret => exact .inl ⟨hsecret, rfl⟩
  next hsecret => exact .inr ⟨hsecret, hσ⟩

/-- A renewal treats the sessions properly. -/
theorem Sessions.Owned.renew (hs : s.Owned len) {o : SessionObject ι} (ho : s.object i = some o)
    {requestedExpiry : Option Int} {r : Except SessionException Unit}
    (h : s.renewSession ord readings i o.toSession requestedExpiry = some (s', r)) :
    s.Proper len (.renew i requestedExpiry readings) s' := by
  obtain ⟨⟨mgr, repl⟩, hstub, h⟩ := Option.bind_eq_some_iff.mp h
  -- on the client's side at most the expiry that the object shows changes
  have hs' : s'.mgr = mgr ∧ ∃ f : SessionObject ι → SessionObject ι,
      (∀ o, (f o).secret = o.secret ∧ (f o).interactive = o.interactive ∧
        (f o).collected = o.collected) ∧ s'.objs = s.objs.modify i f := by
    cases hcheck : checkReplErr repl.err with
    | ok u =>
      simp only [hcheck] at h
      obtain rfl := (Prod.mk.inj (Option.some.inj h)).1
      exact ⟨rfl, fun o => { o with expiry := repl.expiry.getD 0 }, fun _ => ⟨rfl, rfl, rfl⟩, rfl⟩
    | error e =>
      simp only [hcheck] at h
      obtain rfl := (Prod.mk.inj (Option.some.inj h)).1
      exact ⟨rfl, id, fun _ => ⟨rfl, rfl, rfl⟩, (List.modify_id _ _).symm⟩
  obtain ⟨rfl, f, hf, hobjs⟩ := hs'
  have hkept {b : SessionBook} (hm : s'.mgr.Mirrors len b)
      (hlive : ∀ σ, b σ ≠ none → book s.mgr σ ≠ none) : s'.Owned len := by
    refine hs.of_step hm hlive
      (fun j σ _ hj => owns_modify (fun o => (hf o).1) hobjs (fun _ o => (hf o).2.2) hj)
      (fun j secret hj _ => has_modify (fun o => (hf o).1) hobjs hj) ?_
    rw [hobjs]
    exact hs.interactive_modify fun o => (hf o).2.1
  obtain hm | ⟨σ₀, lease₀, tm, hσ₀, hlease₀, hm⟩ := keepAliveStub_cases hs.mirrors hstub
  · exact ⟨hkept hm fun _ => id, fun σ lease hσ => .inl ((congrFun (book_eq hm) σ).trans hσ)⟩
  · refine ⟨hkept hm fun σ hσ => ?_, fun σ lease hσ => ?_⟩
    · by_cases hσ' : σ = σ₀
      · rw [hσ', hlease₀]
        exact Option.some_ne_none _
      · rwa [Function.update_of_ne hσ'] at hσ
    · rw [book_eq hm, Sessions.Treats, owns_iff ho]
      by_cases hσ' : σ = σ₀
      · subst hσ'
        obtain rfl := Option.some.inj (hσ.symm.trans hlease₀)
        exact .inr ⟨hσ₀, tm, Function.update_self _ _ _⟩
      · exact .inl ((Function.update_of_ne hσ' _ _).trans hσ)

/-- The objects of a list have no secret. -/
theorem Sessions.Owned.list (hs : s.Owned len) {r : Except SessionException (List ℕ)}
    (h : s.listSessions ord readings cl = some (s', r)) : s.Proper len (.list cl readings) s' := by
  unfold Sessions.listSessions at h
  obtain ⟨⟨mgr, repl⟩, hstub, h⟩ := Option.bind_eq_some_iff.mp h
  obtain ⟨hm, hsecrets⟩ := listStub_cases hs.mirrors hstub
  have hs' : s'.mgr = mgr ∧ ∃ made : List (SessionObject ι),
      (∀ o ∈ made, o.secret = [] ∧ o.interactive = true) ∧ s'.objs = s.objs ++ made := by
    cases hcheck : checkReplErr repl.err with
    | ok u =>
      simp only [hcheck] at h
      obtain rfl := (Prod.mk.inj (Option.some.inj h)).1
      refine ⟨rfl, _, fun o ho => ?_, rfl⟩
      obtain ⟨info, hinfo, rfl⟩ := List.mem_map.mp ho
      exact ⟨hsecrets info hinfo, rfl⟩
    | error e =>
      simp only [hcheck] at h
      obtain rfl := (Prod.mk.inj (Option.some.inj h)).1
      refine ⟨rfl, [], fun o ho => ?_, (List.append_nil _).symm⟩
      cases ho
  obtain ⟨rfl, made, hmade, hobjs⟩ := hs'
  refine ⟨hs.of_step hm (fun _ => id) (fun j σ _ hj => owns_append hobjs hj)
    (fun j secret hj hne => ?_) fun o ho => ?_,
    fun σ lease hσ => (congrFun (book_eq hm) σ).trans hσ⟩
  · rcases has_append hobjs hj with hj | ⟨-, o, ho, rfl⟩
    · exact hj
    · exact absurd (hmade o (List.mem_of_getElem? ho)).1 hne
  · rw [hobjs] at ho
    rcases List.mem_append.mp ho with ho | ho
    · exact hs.interactive o ho
    · exact (hmade o ho).2

/-- An update treats the sessions properly. -/
theorem Sessions.Owned.update (hs : s.Owned len) {now : Int} {mgr : SessionManager}
    (h : s.mgr.updateSessionStates ord now = .ok mgr) :
    s.Proper len (.update now) { s with mgr } := by
  have hm := hs.mirrors.updated h
  refine ⟨hs.of_step hm (fun σ hσ => ?_) (fun _ _ _ hi => hi) (fun _ _ hi _ => hi) hs.interactive,
    fun σ lease hσ => ?_⟩
  · rintro hnone
    unfold Event.apply at hσ
    simp only [hnone] at hσ
    exact absurd rfl hσ
  · change book mgr σ = _
    unfold Event.apply at hm
    rw [book_eq hm]
    simp only [hσ, Option.filter_some, decide_eq_true_eq, ← not_lt, ite_not]

variable [DecidableEq ι]

/-- A start treats the sessions properly, if its secret and its number are free. -/
theorem Sessions.Owned.start (hs : s.Owned len) {userid comment : String} {devices : List UInt32}
    {flags : List String} {expiryRequest : Option Int} {r : Except SessionException ℕ}
    (hfresh : ∀ o ∈ s.objs, o.secret ≠ readings.secret.toList)
    (hids : 65535 ∈ s.mgr.sessionmap → 0 ∉ s.mgr.sessionmap)
    (h : s.startSession ord readings cl userid comment devices flags expiryRequest =
      some (s', r)) :
    s.Proper len (.start cl userid comment devices flags expiryRequest readings) s' := by
  obtain ⟨⟨mgr, repl⟩, hstub, h⟩ := Option.bind_eq_some_iff.mp h
  obtain ⟨herr, hm⟩ | ⟨herr, hid, lease, hm⟩ :=
    startStub_cases hs.mirrors hstub (hs.secret_free hfresh) hids
  · have hraised : ∃ e, checkReplErr repl.err = .error e := by
      cases hcheck : checkReplErr repl.err with
      | ok u => exact absurd (checkReplErr_eq_ok_iff.mp hcheck) herr
      | error e => exact ⟨e, rfl⟩
    obtain ⟨e, he⟩ := hraised
    have hs' : s' = { s with mgr } := by
      simp only [he] at h
      split at h
      · exact (Prod.mk.inj (Option.some.inj h)).1.symm
      · exact (Prod.mk.inj (Option.some.inj h)).1.symm
      next heq => cases heq
    subst hs'
    exact ⟨hs.of_objs hm rfl, fun σ lease hσ => (congrFun (book_eq hm) σ).trans hσ⟩
  · simp only [herr, checkReplErr] at h
    obtain rfl := (Prod.mk.inj (Option.some.inj h)).1
    set made : SessionObject ι := ⟨Session.fromRepl cl repl, false⟩
    have hbook : book mgr = Function.update (book s.mgr) readings.secret (some lease) := book_eq hm
    refine ⟨⟨hbook ▸ hm, fun σ hσ => ?_, fun i j secret hi hj hne => ?_, fun o ho => ?_⟩, ?_⟩
    · by_cases hσ' : σ = readings.secret
      · refine ⟨s.objs.length, made, object_eq_some_iff.mpr ⟨?_, rfl⟩, ?_⟩
        · exact List.getElem?_concat_length
        · rw [hσ']
          exact hid
      · rw [hbook, Function.update_of_ne hσ'] at hσ
        obtain ⟨i, hi⟩ := hs.owner σ hσ
        exact ⟨i, owns_append rfl hi⟩
    · -- only the new object has the secret that was drawn
      have hnew {i : ℕ} (hi : s.Has i readings.secret.toList) : False := by
        obtain ⟨o, ho, hsecret⟩ := hi
        exact hfresh o (List.mem_of_getElem? ho) hsecret
      have hlast {i : ℕ} (hge : s.objs.length ≤ i)
          (h : ∃ o, [made][i - s.objs.length]? = some o ∧ o.secret = secret) :
          i = s.objs.length ∧ secret = readings.secret.toList := by
        obtain ⟨o, ho, rfl⟩ := h
        have hlt := (List.getElem?_eq_some_iff.mp ho).1
        rw [List.length_singleton] at hlt
        rw [List.mem_singleton.mp (List.mem_of_getElem? ho)]
        exact ⟨by omega, hid⟩
      rcases has_append rfl hi with hi | ⟨hgei, hi⟩ <;>
        rcases has_append rfl hj with hj | ⟨hgej, hj⟩
      · exact hs.unique i j secret hi hj hne
      · exact (hnew ((hlast hgej hj).2 ▸ hi)).elim
      · exact (hnew ((hlast hgei hi).2 ▸ hj)).elim
      · exact (hlast hgei hi).1.trans (hlast hgej hj).1.symm
    · rcases List.mem_append.mp ho with ho | ho
      · exact hs.interactive o ho
      · rw [List.mem_singleton.mp ho]
        rfl
    · intro σ lease' hσ
      change book mgr σ = some lease'
      rw [hbook, Function.update_of_ne, hσ]
      -- the secret that was drawn was not in use
      rintro rfl
      obtain ⟨j, hj⟩ := hs.owner readings.secret (hσ ▸ Option.some_ne_none lease')
      obtain ⟨o, ho, hsecret⟩ := hj.has
      exact hfresh o (List.mem_of_getElem? ho) hsecret

/-- A close ends the session of its secret, if there is one, and leaves the objects alone. -/
theorem Sessions.Owned.closeSession_spec (hs : s.Owned len) {ses : Session ι}
    {r : Except SessionException Unit} (h : s.closeSession ord readings i ses = some (s', r)) :
    s'.objs = s.objs ∧ s'.mgr.Mirrors len (book s'.mgr) ∧ ∀ σ : Sessionid,
      book s'.mgr σ = if ses.secret = σ.toList then none else book s.mgr σ := by
  obtain ⟨⟨mgr, repl⟩, hstub, h⟩ := Option.bind_eq_some_iff.mp h
  have hs' : s'.objs = s.objs ∧ s'.mgr = mgr := by
    cases hcheck : checkReplErr repl.err with
    | ok u =>
      simp only [hcheck] at h
      obtain rfl := (Prod.mk.inj (Option.some.inj h)).1
      exact ⟨rfl, rfl⟩
    | error e =>
      simp only [hcheck] at h
      obtain rfl := (Prod.mk.inj (Option.some.inj h)).1
      exact ⟨rfl, rfl⟩
  rw [hs'.2]
  refine ⟨hs'.1, ?_⟩
  obtain ⟨-, hm, hunknown⟩ | ⟨-, σ₀, hσ₀, hm⟩ := closeStub_cases hs.mirrors hstub
  · rw [book_eq hm]
    refine ⟨hm, fun σ => ?_⟩
    split
    next hσ => exact hunknown σ hσ
    next => rfl
  · rw [book_eq hm]
    refine ⟨hm, fun σ => ?_⟩
    rw [Function.update_apply, hσ₀]
    exact if_congr (eq_comm.trans Vector.toList_inj.symm) rfl rfl

/-- A close treats the sessions properly. -/
theorem Sessions.Owned.close (hs : s.Owned len) {o : SessionObject ι} (ho : s.object i = some o)
    {r : Except SessionException Unit}
    (h : s.closeSession ord readings i o.toSession = some (s', r)) :
    s.Proper len (.close i readings) s' := by
  obtain ⟨hobjs, hm, hb⟩ := hs.closeSession_spec h
  have hobject : s'.object = s.object := by
    funext j
    rw [Sessions.object, Sessions.object, hobjs]
  refine ⟨hs.of_step hm (fun σ hσ => ?_) (fun j σ _ hj => ?_) (fun j secret hj _ => ?_)
    (hobjs ▸ hs.interactive), fun σ lease hσ => closed_cases ho hb hσ⟩
  · rw [hb] at hσ
    exact (ite_ne_left_iff.mp hσ).2.symm
  · rwa [Sessions.Owns, hobject]
  · rwa [Sessions.Has, hobjs] at hj

/-- An object that is collected closes its session. -/
theorem Sessions.Owned.collect (hs : s.Owned len) {o : SessionObject ι} (ho : s.object i = some o)
    {s₁ : Sessions ι} (h : s.del ord readings i o.toSession = some s₁) :
    s.Proper len (.collect i readings)
      { s₁ with objs := s₁.objs.modify i fun o => { o with collected := true } } := by
  rw [Sessions.del, if_pos (hs.interactive o (List.mem_of_getElem? (object_eq_some_iff.mp ho).1))]
    at h
  obtain ⟨⟨s₁, r⟩, hclose, rfl⟩ := Option.map_eq_some_iff.mp h
  obtain ⟨hobjs, hm, hb⟩ := hs.closeSession_spec hclose
  rw [hobjs]
  set f : SessionObject ι → SessionObject ι := fun o => { o with collected := true }
  have hf (o) : (f o).secret = o.secret := rfl
  refine ⟨hs.of_step hm (fun σ hσ => ?_) (fun j σ hσ hj => owns_modify hf rfl ?_ hj)
    (fun j secret hj _ => has_modify hf rfl hj) (hs.interactive_modify fun _ => rfl),
    fun σ lease hσ => closed_cases ho hb hσ⟩
  · rw [hb] at hσ
    exact (ite_ne_left_iff.mp hσ).2.symm
  · -- a session that stays is not the one of this object
    rintro rfl
    rw [hb, if_pos ((owns_iff ho).mp hj)] at hσ
    exact absurd rfl hσ

/-- **One step** keeps the owners, and treats each session as it says. -/
theorem Sessions.Owned.step (hs : s.Owned len) {l : SessionsLabel ι} (hl : s.FreshStart l)
    (h : s.step ord l = some s') : s.Proper len l s' := by
  cases l with
  | start cl userid comment devices flags expiryRequest readings =>
    obtain ⟨⟨s', r⟩, hstart, rfl⟩ := Option.map_eq_some_iff.mp h
    exact hs.start hl.1 hl.2 hstart
  | close i readings =>
    obtain ⟨o, ho, h⟩ := Option.bind_eq_some_iff.mp h
    obtain ⟨⟨s', r⟩, hclose, rfl⟩ := Option.map_eq_some_iff.mp h
    exact hs.close ho hclose
  | renew i requestedExpiry readings =>
    obtain ⟨o, ho, h⟩ := Option.bind_eq_some_iff.mp h
    obtain ⟨⟨s', r⟩, hrenew, rfl⟩ := Option.map_eq_some_iff.mp h
    exact hs.renew ho hrenew
  | list cl readings =>
    obtain ⟨⟨s', r⟩, hlist, rfl⟩ := Option.map_eq_some_iff.mp h
    exact hs.list hlist
  | collect i readings =>
    obtain ⟨o, ho, h⟩ := Option.bind_eq_some_iff.mp h
    split at h
    · cases h
    · obtain ⟨s₁, hdel, hs'⟩ := Option.bind_eq_some_iff.mp h
      obtain rfl := Option.some.inj hs'
      exact hs.collect ho hdel
  | update now =>
    obtain ⟨mgr, hsettle, rfl⟩ := Option.map_eq_some_iff.mp h
    -- the update always has a result, as the maps are linked
    obtain ⟨mgr', hupdate⟩ := hs.mirrors.linked.exists_updateSessionStates ord now
    rw [hupdate] at hsettle
    obtain rfl := Option.some.inj hsettle
    exact hs.update hupdate

end Steps

end Foxtrot.Python
