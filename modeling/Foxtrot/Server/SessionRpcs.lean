import Foxtrot.Server.UnaryRpcs
import Foxtrot.Session.Calls
import Mathlib.Data.List.Sort

/-!
# The session service

The four RPCs of the service `sessions`: `StartSession`, `CloseSession`, `KeepAliveSession` and
`ListSessions` (`server/src/StartSessionImpl.cpp` and so on, `server/include/exptserve/
session_utils.hh`). Their logic objects share the session manager. The server is one with a single
worker (`exptserve` runs four unless told otherwise), so each works on a request without
interruption. The other thread of the process is the one that removes expired sessions; an expiry
update is a step of its own (`sessionService`).

A `session_info` is the message of all four, as a request and as a reply. Its expiry is in seconds,
the session manager counts the ticks of `std::chrono::system_clock`, nanoseconds in 64 bits: there
is nothing promised about a request with more seconds than that.
-/

namespace Foxtrot

open SessionManager

/-- `session_info`. -/
structure SessionInfo where
  err : Option Errstatus
  sessionid : List UInt8
  userIdentifier : String
  comment : String
  devices : List UInt32
  flags : List String
  /-- The seconds of the timestamp, if there is one. -/
  expiry : Option Int
  deriving DecidableEq

/-- `session_list`. -/
structure SessionList where
  err : Option Errstatus
  sessions : List SessionInfo
  deriving DecidableEq

/-- A `session_info` with nothing set. -/
def SessionInfo.empty : SessionInfo := ⟨none, [], "", "", [], [], none⟩

/-- What the world supplies to a request: the clock readings of `start_session`, of its expiry check
and of the handler of `std::out_of_range`, and the secret that is drawn. A renewal reads the clock
once, as `now`. -/
structure SessionReadings where
  now : Int
  chk : Int
  later : Int
  secret : Sessionid

/-! ### Times and secrets -/

/-- The ticks of `std::chrono::system_clock` in a second. -/
def ticksPerSecond : Int := 1000000000

/-- `system_clock::to_time_t`, which cuts towards the epoch. -/
def toTimeT (time : Int) : Int := time.tdiv ticksPerSecond

/-- `system_clock::from_time_t`, if the ticks fit in 64 bits. -/
def fromTimeT (seconds : Int) : Option Int :=
  if -2 ^ 63 ≤ seconds * ticksPerSecond ∧ seconds * ticksPerSecond < 2 ^ 63 then
    some (seconds * ticksPerSecond)
  else none

/-- `get_expiry`: the requested expiry, if there is one. Without an outcome the conversion
overflows. -/
def getExpiry (req : SessionInfo) : Option (Option Int) :=
  match req.expiry with
  | none => some none
  | some seconds => (fromTimeT seconds).map some

/-- `require_sessionid_check`: the error, if the secret is not there or not one. -/
def requireSessionidCheck (req : SessionInfo) : Option Errstatus :=
  if req.sessionid.length = 0 then
    some ⟨.ftServerError, "must supply a session secret to use this call"⟩
  else if req.sessionid.length ≠ 32 then some ⟨.ftServerError, "invalid session id format"⟩
  else none

/-- The bytes copied to a `Sessionid`. -/
def binarySesid (sessionid : List UInt8) : Sessionid := Vector.ofFn fun i => sessionid.getD i 0

/-- `set_expiry_from_time`. -/
def setExpiryFromTime (repl : SessionInfo) (time : Int) : SessionInfo :=
  { repl with expiry := some (toTimeT time) }

/-- An exception of the session manager, as `HandlerBase` catches it. After undefined behaviour
there is none. -/
def SessionError.raised : SessionError → Option Thrown
  | .owned _ => some .unspecified
  | .outOfRange what => some (.outOfRange what)
  | .undefinedBehaviour => none

/-! ### The logic objects -/

/-- The responder of three of the RPCs. -/
def sessionInfoResponder : Responder SessionInfo where
  setReplErr repl err := { repl with err := some err }
  errcall := .finishWith

/-- The responder of `ListSessions`. -/
def sessionListResponder : Responder SessionList where
  setReplErr repl err := { repl with err := some err }
  errcall := .finishWith

/-- What the logic objects of three of the RPCs come to. -/
abbrev SessionHandled (Inv : Type) := Handled SessionManager SessionInfo Inv (Except Thrown Bool)

section Logics

variable {Inv : Type} (ord : SecretOrder)

/-- `foxtrot_server_specific_error`. -/
def sessionFailure (sm : SessionManager) (repl : SessionInfo) (msg : String) :
    SessionHandled Inv :=
  .failed sessionInfoResponder sm repl [] ⟨.ftServerError, msg⟩

/-- An exception of the session manager leaves `HandleRequest`. -/
def sessionThrows (sm : SessionManager) (repl : SessionInfo) (e : SessionError) :
    Option (SessionHandled Inv) :=
  e.raised.map fun e => ⟨sm, repl, [], [], .error e⟩

/-- The handler of `std::out_of_range` in `StartSession`. -/
def startOutOfRange (sm : SessionManager) (repl : SessionInfo) (readings : SessionReadings)
    (requestedExpiry : Option Int) (what : String) : SessionHandled Inv :=
  match requestedExpiry with
  | none => ⟨sm, repl, [], [], .error (.outOfRange what)⟩
  | some requested =>
    let maxExpiry := readings.later + sm.sessionLength
    if maxExpiry < requested then
      sessionFailure sm (setExpiryFromTime repl maxExpiry)
        "requested an expiry beyond the maximum allowed"
    else ⟨sm, repl, [], [], .error (.outOfRange what)⟩

/-- The call of `start_session` that a request makes. -/
def SessionInfo.startCall (req : SessionInfo) (requestedExpiry : Option Int) : StartCall :=
  ⟨req.userIdentifier, req.comment, some req.devices, some req.flags, requestedExpiry⟩

/-- `StartSessionLogic`. -/
def startSessionLogic : Logic SessionManager SessionReadings SessionInfo SessionInfo Inv where
  responder := sessionInfoResponder
  emptyReply := .empty
  checkMetadata _ _ := .ok true
  handleRequest sm readings req repl :=
    if req.userIdentifier = "" then
      some (sessionFailure sm repl "must supply a user identifier to start session")
    else do
      let requestedExpiry ← getExpiry req
      match sm.startSession (req.startCall requestedExpiry) readings.now readings.chk
          readings.secret with
      | .ok (sm, sessionid, internalid) =>
        let repl := { repl with
          sessionid := sessionid.toList
          userIdentifier := req.userIdentifier
          comment := req.comment
          devices := req.devices
          flags := req.flags }
        -- the session is looked up by the id that `start_session` returns
        match sm.sessionAt internalid with
        | .ok sesinfo =>
          let repl := setExpiryFromTime repl sesinfo.expiry
          some ⟨sm, repl, [.finishWith repl], [], .ok true⟩
        | .error (.outOfRange what) =>
          some (startOutOfRange sm repl readings requestedExpiry what)
        | .error e => sessionThrows sm repl e
      -- `already_owned_error` has the id of the owner, whose data go into the reply
      | .error (.owned i) =>
        match sm.sessionAt i with
        | .ok owner =>
          let repl := { repl with
            userIdentifier := owner.userIdentifier
            comment := owner.comment }
          some (sessionFailure sm (setExpiryFromTime repl owner.expiry)
            "Can't start session as it conflicts with another session")
        | .error e => sessionThrows sm repl e
      | .error (.outOfRange what) =>
        some (startOutOfRange sm repl readings requestedExpiry what)
      | .error .undefinedBehaviour => none

/-- `CloseSessionLogic`. -/
def closeSessionLogic : Logic SessionManager SessionReadings SessionInfo SessionInfo Inv where
  responder := sessionInfoResponder
  emptyReply := .empty
  checkMetadata _ _ := .ok true
  handleRequest sm _ req repl :=
    match requireSessionidCheck req with
    | some err => some (.failed sessionInfoResponder sm repl [] err)
    | none =>
      match sm.getSessionInfo (binarySesid req.sessionid) with
      | .error e => sessionThrows sm repl e
      | .ok sesinfo =>
        let repl := setExpiryFromTime { repl with
          userIdentifier := sesinfo.userIdentifier
          comment := sesinfo.comment
          devices := sesinfo.devices
          flags := repl.flags ++ sesinfo.flags } sesinfo.expiry
        match sm.closeSession ord (binarySesid req.sessionid) with
        | .ok (sm, true) => some ⟨sm, repl, [.finishWith repl], [], .ok true⟩
        | .ok (sm, false) =>
          some (sessionFailure sm repl "unable to close session, perhaps secret is incorrect")
        | .error e => sessionThrows sm repl e

/-- `KeepAliveSessionLogic`. -/
def keepAliveSessionLogic : Logic SessionManager SessionReadings SessionInfo SessionInfo Inv where
  responder := sessionInfoResponder
  emptyReply := .empty
  checkMetadata _ _ := .ok true
  handleRequest sm readings req repl :=
    match requireSessionidCheck req with
    | some err => some (.failed sessionInfoResponder sm repl [] err)
    | none => do
      let requestedExpiry ← getExpiry req
      match sm.renewSession (binarySesid req.sessionid) requestedExpiry readings.now with
      | .error e => sessionThrows sm repl e
      | .ok (sm, false) => some (sessionFailure sm repl "unable to renew session")
      | .ok (sm, true) =>
        match sm.getSessionInfo (binarySesid req.sessionid) with
        | .error e => sessionThrows sm repl e
        | .ok sesinfo =>
          let repl := setExpiryFromTime { repl with
            userIdentifier := sesinfo.userIdentifier
            comment := sesinfo.comment } sesinfo.expiry
          some ⟨sm, repl, [.finishWith repl], [], .ok true⟩

/-- The body of the loop of `ListSessions`. -/
def addSession (repl : SessionList) (item : (_ : UInt16) × FtSessionInfo) : SessionList :=
  let sessionOut := { SessionInfo.empty with
    userIdentifier := item.2.userIdentifier
    comment := item.2.comment
    devices := item.2.devices
    flags := item.2.flags }
  { repl with sessions := repl.sessions ++ [setExpiryFromTime sessionOut item.2.expiry] }

/-- `_sessionmap` in its order. -/
def SessionManager.orderedSessions (sm : SessionManager) : List ((_ : UInt16) × FtSessionInfo) :=
  sm.sessionmap.entries.insertionSort fun a b => a.1 ≤ b.1

/-- `ListSessionsLogic`. -/
def listSessionsLogic : Logic SessionManager SessionReadings Unit SessionList Inv where
  responder := sessionListResponder
  emptyReply := ⟨none, []⟩
  checkMetadata _ _ := .ok true
  handleRequest sm _ _ repl :=
    let repl := sm.orderedSessions.foldl addSession repl
    some ⟨sm, repl, [.finishWith repl], [], .ok true⟩

end Logics

/-! ### The service -/

/-- The RPCs of the service `sessions`. -/
inductive SessionRpc where
  | startSession
  | closeSession
  | keepAliveSession
  | listSessions
  deriving DecidableEq

/-- The message with a request. -/
abbrev SessionRpc.Req : SessionRpc → Type
  | .startSession | .closeSession | .keepAliveSession => SessionInfo
  | .listSessions => Unit

/-- The message with a reply. -/
abbrev SessionRpc.Reply : SessionRpc → Type
  | .startSession | .closeSession | .keepAliveSession => SessionInfo
  | .listSessions => SessionList

/-- The logic objects that `setup_common` registers. -/
def sessionRpcs (Inv : Type) (ord : SecretOrder) :
    ∀ kind : SessionRpc, Rpc SessionManager SessionReadings kind.Req kind.Reply Inv
  | .startSession => { startSessionLogic with emptyRequest := .empty }
  | .closeSession => { closeSessionLogic ord with emptyRequest := .empty }
  | .keepAliveSession => { keepAliveSessionLogic with emptyRequest := .empty }
  | .listSessions => { listSessionsLogic with emptyRequest := () }

/-- What happens to the sessions of a server. -/
inductive SessionServiceLabel where
  /-- An event of the completion queue. -/
  | rpc (e : QueueEvent SessionReadings SessionRpc.Req)
  /-- `update_session_states` of the other thread, at this clock reading. -/
  | update (now : Int)

/-- A request with what was sent for it. -/
abbrev SessionExchange := Exchange SessionReadings SessionRpc.Req SessionRpc.Reply

/-- What is seen of a step: an exchange, or the clock reading of an expiry update. -/
abbrev SessionSeen := SessionExchange ⊕ Int

/-- The handlers of the session service. -/
abbrev SessionServer (Inv : Type) := RpcServer SessionManager Inv SessionRpc.Req SessionRpc.Reply

section Service

variable (Inv : Type) (ord : SecretOrder)

/-- One step: the worker takes a request, or the other thread removes what has expired. A request
whose expiry does not fit in the clock has no step. -/
def SessionServer.step (s : SessionServer Inv) : SessionServiceLabel → Option (SessionServer Inv)
  | .rpc e => RpcServer.step (sessionRpcs Inv ord) s e
  | .update now =>
    (s.logic.settle (s.logic.updateSessionStates ord now)).map fun sm => { s with logic := sm }

/-- What is seen of a step. -/
def SessionServer.seen (s : SessionServer Inv) : SessionServiceLabel → Option SessionSeen
  | .rpc e => (RpcServer.exchange (sessionRpcs Inv ord) s e).map .inl
  | .update now => some (.inr now)

end Service

end Foxtrot
