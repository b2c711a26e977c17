import Foxtrot.Foundation.FiniteMap
import Mathlib.Data.UInt
import Mathlib.Order.Defs.LinearOrder

/-!
# The session manager

The data and the operations of `SessionManager` (`server/src/SessionManager.cpp`), each
operation being one critical section under `_sessionmut`, as a function on the state. A
session is stored in `_sessionmap` under a 16-bit internal id; `_sessionidmap` leads from the
32-byte secret handed to the client to that id; two caches lead from a device id and from a
flag name to the id of the owning session. The device cache is declared as
`std::map<unsigned short, unsigned>`, so **its key is the device id cut to 16 bits**, and the
stored session id is widened to 32 bits.

The maps are association lists with distinct keys. Where the code searches `_sessionidmap`
linearly (a hashed map, whose iteration order is unspecified) the order is a parameter.
A thrown exception is an error value; since every check precedes the first write, a call that
throws leaves the state as it was. Erasing the end iterator, which the code does when no
secret leads to the id being removed, is the error `undefinedBehaviour`: it has no successor.

Time points and durations (`time_type`, `duration_type`) are integers, in ticks of
`std::chrono::system_clock`.
-/

namespace Foxtrot

/-- A session secret, `std::array<unsigned char, SESSION_ID_BYTES>`. -/
abbrev Sessionid := Vector UInt8 32

/-- `ft_session_info`. -/
structure FtSessionInfo where
  internalSessionId : UInt16
  userIdentifier : String
  comment : String
  devices : List UInt32
  flags : List String
  expiry : Int
  deriving DecidableEq, Repr

/-- What a call on the session manager can raise. -/
inductive SessionError where
  /-- `throw sesinfo->internal_session_id`: a requested item is owned by that session. -/
  | owned (id : UInt16)
  /-- `std::out_of_range`. -/
  | outOfRange (what : String)
  /-- The code runs into undefined behaviour; nothing is promised afterwards. -/
  | undefinedBehaviour
  deriving DecidableEq, Repr

/-- The state of `SessionManager` that `_sessionmut` protects, and the session length. -/
structure SessionManager where
  sessionmap : AList fun _ : UInt16 => FtSessionInfo
  sessionidmap : AList fun _ : Sessionid => UInt16
  devicecachemap : AList fun _ : UInt16 => UInt32
  flagcachemap : AList fun _ : String => UInt16
  nextSessionId : UInt16
  sessionLength : Int
  deriving DecidableEq

/-- The arguments of `start_session`; the vectors and the expiry are optional pointers. -/
structure StartCall where
  username : String
  comment : String
  devicesRequested : Option (List UInt32)
  flagsRequested : Option (List String)
  requestedExpiry : Option Int
  deriving DecidableEq, Repr

/-- The iteration order of `_sessionidmap`. -/
abbrev SecretOrder := AList.VisitOrder Sessionid UInt16

namespace SessionManager

/-- A new manager for the given session length. -/
def new (sessionLength : Int) : SessionManager :=
  ⟨∅, ∅, ∅, ∅, 0, sessionLength⟩

/-! ### Queries -/

/-- `_sessionmap.at(id)`. -/
def sessionAt (sm : SessionManager) (id : UInt16) : Except SessionError FtSessionInfo :=
  match sm.sessionmap.lookup id with
  | some sesinfo => .ok sesinfo
  | none => .error (.outOfRange "map::at")

/-- `get_session_info(secret)`. -/
def getSessionInfo (sm : SessionManager) (secret : Sessionid) :
    Except SessionError FtSessionInfo :=
  match sm.sessionidmap.lookup secret with
  | some id => sm.sessionAt id
  | none => .error (.outOfRange "invalid secret!")

/-- `find_in_cache`: the session whose id the cache holds under `val`. The stored value is
converted to the key type of `_sessionmap`. -/
def findInCache {κ υ : Type} [DecidableEq κ] (sm : SessionManager) (toId : υ → UInt16)
    (map : AList fun _ : κ => υ) (val : κ) : Except SessionError (Option FtSessionInfo) :=
  match map.lookup val with
  | some v => (sm.sessionAt (toId v)).map some
  | none => .ok none

/-- `who_owns_device`: the 32-bit device id is cut to the key type of the cache. -/
def whoOwnsDevice (sm : SessionManager) (devid : UInt32) :
    Except SessionError (Option FtSessionInfo) :=
  sm.findInCache UInt32.toUInt16 sm.devicecachemap devid.toUInt16

/-- `who_owns_flag`. -/
def whoOwnsFlag (sm : SessionManager) (flagname : String) :
    Except SessionError (Option FtSessionInfo) :=
  sm.findInCache (fun id => id) sm.flagcachemap flagname

/-- `auth_check`: does the session of the secret list the value? -/
def authCheck {α : Type} [DecidableEq α] (sm : SessionManager) (secret : Sessionid)
    (valmapGet : FtSessionInfo → List α) (val : α) : Except SessionError Bool :=
  match sm.sessionidmap.lookup secret with
  | none => .ok false
  | some id => (sm.sessionAt id).map fun sesinfo => decide (val ∈ valmapGet sesinfo)

/-- `session_auth_check` for a device. -/
def sessionAuthCheckDevice (sm : SessionManager) (secret : Sessionid) (devid : UInt32) :
    Except SessionError Bool :=
  sm.authCheck secret FtSessionInfo.devices devid

/-- `session_auth_check` for a flag. -/
def sessionAuthCheckFlag (sm : SessionManager) (secret : Sessionid) (flagname : String) :
    Except SessionError Bool :=
  sm.authCheck secret FtSessionInfo.flags flagname

/-! ### Starting a session -/

/-- The outcome of one ownership lookup in `check_requested_items`: an owner is thrown. -/
def rejectOwned : Except SessionError (Option FtSessionInfo) → Except SessionError Unit
  | .ok none => .ok ()
  | .ok (some sesinfo) => .error (.owned sesinfo.internalSessionId)
  | .error e => .error e

/-- `check_requested_items`: look up one item after another. -/
def checkRequestedItems {α : Type}
    (checkfun : α → Except SessionError (Option FtSessionInfo)) :
    List α → Except SessionError Unit
  | [] => .ok ()
  | item :: rest =>
    match rejectOwned (checkfun item) with
    | .ok () => checkRequestedItems checkfun rest
    | .error e => .error e

/-- `check_requested_expiry` at clock reading `now`. -/
def checkRequestedExpiry (sm : SessionManager) (now tm : Int) : Except SessionError Unit :=
  if now + sm.sessionLength < tm then
    .error (.outOfRange "requested a session longer than max allowed")
  else if tm < now then .error (.outOfRange "requested a session expiry in the past")
  else .ok ()

/-- The check of an optional requested expiry. -/
def checkOptionalExpiry (sm : SessionManager) (now : Int) :
    Option Int → Except SessionError Unit
  | none => .ok ()
  | some tm => sm.checkRequestedExpiry now tm

/-- The id the next session gets: one past the largest live id, in `unsigned short`
arithmetic, or the member's old value when no session is live. -/
def issuedSessionId (sm : SessionManager) : UInt16 :=
  match sm.sessionmap.keys.max? with
  | some m => m + 1
  | none => sm.nextSessionId

/-- The session built by `start_session`. Its expiry is `now + _session_length` whatever was
requested: the requested expiry is checked and then not used. -/
def newSession (sm : SessionManager) (call : StartCall) (now : Int) : FtSessionInfo where
  internalSessionId := sm.issuedSessionId
  userIdentifier := call.username
  comment := call.comment
  devices := call.devicesRequested.getD []
  flags := call.flagsRequested.getD []
  expiry := now + sm.sessionLength

/-- The final block of `start_session`, under the exclusive lock. -/
def commitSession (sm : SessionManager) (call : StartCall) (now : Int)
    (secret : Sessionid) : SessionManager where
  sessionmap := sm.sessionmap.insert sm.issuedSessionId (sm.newSession call now)
  sessionidmap := sm.sessionidmap.insert secret sm.issuedSessionId
  devicecachemap := sm.devicecachemap.insertAll
    ((call.devicesRequested.getD []).map UInt32.toUInt16) sm.issuedSessionId.toUInt32
  flagcachemap := sm.flagcachemap.insertAll (call.flagsRequested.getD []) sm.issuedSessionId
  nextSessionId := sm.issuedSessionId
  sessionLength := sm.sessionLength

/-- `start_session` run without interruption: `now` is its first clock reading, `chk` the
reading of the expiry check, `secret` the drawn secret. -/
def startSession (sm : SessionManager) (call : StartCall) (now chk : Int)
    (secret : Sessionid) : Except SessionError (SessionManager × Sessionid × UInt16) := do
  checkRequestedItems sm.whoOwnsDevice (call.devicesRequested.getD [])
  checkRequestedItems sm.whoOwnsFlag (call.flagsRequested.getD [])
  sm.checkOptionalExpiry chk call.requestedExpiry
  return (sm.commitSession call now secret, secret, sm.issuedSessionId)

/-! ### Removing sessions -/

variable (ord : SecretOrder)

/-- `remove_session`. -/
def removeSession (sm : SessionManager) (sesid : UInt16) : Except SessionError SessionManager :=
  match sm.sessionmap.lookup sesid with
  | none => .error (.outOfRange "map::at")
  | some sesinfo =>
    match ord.findKey sm.sessionidmap sesid with
    | none => .error .undefinedBehaviour
    | some loc => .ok
        { sm with
          sessionmap := sm.sessionmap.erase sesid
          sessionidmap := sm.sessionidmap.erase loc
          devicecachemap := sm.devicecachemap.eraseAll (sesinfo.devices.map UInt32.toUInt16)
          flagcachemap := sm.flagcachemap.eraseAll sesinfo.flags }

/-- Remove the sessions of a list of ids, one after the other. -/
def removeSessions (sm : SessionManager) : List UInt16 → Except SessionError SessionManager
  | [] => .ok sm
  | id :: ids =>
    match sm.removeSession ord id with
    | .ok sm' => removeSessions sm' ids
    | .error e => .error e

/-- `close_session`: `false` for a secret that is not live. -/
def closeSession (sm : SessionManager) (secret : Sessionid) :
    Except SessionError (SessionManager × Bool) :=
  match sm.sessionidmap.lookup secret with
  | none => .ok (sm, false)
  | some id => (sm.removeSession ord id).map fun sm' => (sm', true)

/-- The ids `update_session_states` queues for removal at time `now`. -/
def expiredIds (sm : SessionManager) (now : Int) : List UInt16 :=
  (sm.sessionmap.entries.filter fun e => decide (e.2.expiry < now)).map Sigma.fst

/-- `update_session_states` at clock reading `now`. -/
def updateSessionStates (sm : SessionManager) (now : Int) :
    Except SessionError SessionManager :=
  sm.removeSessions ord (sm.expiredIds now)

/-! ### Renewing a session -/

/-- `renew_session` at clock reading `now`: `false` for a secret that is not live. -/
def renewSession (sm : SessionManager) (secret : Sessionid) (requestedExpiry : Option Int)
    (now : Int) : Except SessionError (SessionManager × Bool) :=
  match sm.sessionidmap.lookup secret with
  | none => .ok (sm, false)
  | some id => do
    let sesinfo ← sm.sessionAt id
    sm.checkOptionalExpiry now requestedExpiry
    let expiry := requestedExpiry.getD (now + sm.sessionLength)
    return ({ sm with sessionmap := sm.sessionmap.insert id { sesinfo with expiry } }, true)

/-- The state a call leaves behind: an exception leaves the old one, and after undefined
behaviour there is none. -/
def settle (sm : SessionManager) :
    Except SessionError SessionManager → Option SessionManager
  | .ok sm' => some sm'
  | .error .undefinedBehaviour => none
  | .error _ => some sm

end SessionManager

end Foxtrot
