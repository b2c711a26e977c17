import Foxtrot.Client.FetchData
import Foxtrot.Foundation.Recording
import Foxtrot.Python.Arguments
import Foxtrot.Python.TypeConversion
import Foxtrot.Server.LiveDevices

/-!
# Calls of devices by clients

`Capability.__call__` of the Python client (`python/pyfoxtrot/Client.py`), for a capability that is
no stream, and `InvokeCapability` of the C++ client (`client/include/foxtrot/client/client.h`). A
call makes a request, the server carries it out (`LiveDevices`), and the reply becomes a value of
the language or an exception. The Python client puts the secret of its active session in the
metadata; the C++ client has no sessions.

**Such a call is a call of the device itself** (`remote_calls`). The action that its values call for
is done once, in the state that the earlier calls have left, and the call returns or raises what the
device makes of it, as far as the language has a value for it. If no action is called for, or the
call is not admitted, nothing is done, and the call raises. An object of the Python client numbers
its requests, and after $2^{32}$ of them it only raises.

The transport is taken to deliver. `ι` are the capability objects of all Python clients.

The state of the devices is that after the actions done so far, and an object of the Python client
has one request number more for each request it has sent (`objectsAfter`). A call makes its request
or raises before it does; the request is settled by the server as in `Foxtrot.Server.LiveDevices`;
and the reply says what the device makes of the action, which each language reads in its own way.
-/

namespace Foxtrot

open Fallible Histories TransitionSystem

/-! ### The Python client -/

namespace Python

/-- The argument as the server reads it. -/
def CapabilityArgument.received (arg : CapabilityArgument) : Foxtrot.CapabilityArgument FtVariant :=
  ⟨UInt32.ofNat arg.position, arg.value⟩

/-- The request as the server reads it. The contention timeout is not set. -/
def Request.received (req : Request) :
    CapabilityRequest (Foxtrot.CapabilityArgument FtVariant) where
  msgid := ⟨req.msgid⟩
  devid := ⟨req.devid⟩
  capname := req.capname
  args := req.args.map CapabilityArgument.received
  contentionTimeout := 0

/-- Why a call raises. -/
inductive CallException where
  /-- Before there was a request. -/
  | constructing (e : PyException)
  /-- By the reply. -/
  | checking (e : ReplyException)
  /-- By the value in the reply. -/
  | reading (e : PyException)

/-- `_process_sync_response`. A `returnval` that is not set reads as the message that nothing has
been read into. -/
def processSyncResponse (widen : BitVec 32 → BitVec 64) (repl : CapabilityResponse FtVariant) :
    Except CallException PyValue := do
  (checkReplErr repl.err).mapError .checking
  (valueFromFtVariant widen (repl.returnval.getD .notSet)).mapError .reading

/-- The metadata of `call_cap_sync`, with the `_secret` of the active session. -/
def callMetadata (activeSecret : Option (List UInt8)) : List (String × List UInt8) :=
  activeSecret.toList.map fun secret => (sessionSecretKey, secret)

end Python

/-! ### The C++ client -/

namespace Client

/-- The request of `InvokeCapability`. The contention timeout is not set. -/
def capabilityRequest (client : Client) (devid : UInt32) (capname : String)
    (args : List FtStdVariant) : CapabilityRequest (CapabilityArgument FtVariant) where
  msgid := client.msgid
  devid := devid
  capname := capname
  args := fillArgs args
  contentionTimeout := 0

end Client

/-! ### Calls -/

/-- What a call returns or raises. -/
inductive CallOutcome where
  | python (result : Except Python.CallException Python.PyValue)
  | cpp (result : Except Thrown Client.FtStdVariant)

/-- An exception is raised. -/
def CallOutcome.Raises : CallOutcome → Prop
  | .python result => ∃ e, result = .error e
  | .cpp result => ∃ e, result = .error e

/-- What was done for a call, and what came of it. -/
structure Settled (Ty Val : Type) where
  done : List (Core.Action Ty Val)
  outcome : CallOutcome

/-- A call of a device. -/
inductive RemoteCall (ι : Type) where
  /-- `Capability.__call__`. -/
  | python (cap : ι) (args : List Python.PyValue) (kwargs : Python.Kwargs)
    (activeSecret : Option (List UInt8))
  /-- `Client::InvokeCapability`. -/
  | cpp (client : Client) (devid : UInt32) (capname : String) (args : List Client.FtStdVariant)

section Calls

variable {ι W Ty Val : Type} [DecidableEq Ty] (L : LiveDevices W Ty Val)
  (widen : BitVec 32 → BitVec 64)

/-- `Capability.__call__`, with what it leaves of the object. -/
def Python.Capability.call (w : W) (env : CallMeets) (cap : Capability) (args : List PyValue)
    (kwargs : Kwargs) (activeSecret : Option (List UInt8)) :
    Option (Capability × Settled Ty Val) :=
  match constructRequest cap args kwargs with
  | (.error e, cap) => some (cap, ⟨[], .python (.error (.constructing e))⟩)
  | (.ok req, cap) => do
    let (done, repl) ← L.invokeCapability w env (callMetadata activeSecret) req.received
    return (cap, ⟨done, .python (processSyncResponse widen repl)⟩)

/-- `Client::InvokeCapability`. -/
def Client.invokeCapability (w : W) (env : CallMeets) (client : Client) (devid : UInt32)
    (capname : String) (args : List FtStdVariant) : Option (Client × Settled Ty Val) := do
  let (done, repl) ← L.invokeCapability w env [] (client.capabilityRequest devid capname args)
  return (⟨client.msgid + 1⟩, ⟨done, .cpp (ftVariantFromResponse repl)⟩)

variable [DecidableEq ι]

/-- A call, with what it leaves of the objects of the Python clients. -/
def RemoteCall.perform (w : W) (caps : ι → Python.Capability) (env : CallMeets) :
    RemoteCall ι → Option ((ι → Python.Capability) × Settled Ty Val)
  | .python cap args kwargs activeSecret =>
    ((caps cap).call L widen w env args kwargs activeSecret).map fun r =>
      (Function.update caps cap r.1, r.2)
  | .cpp client devid capname args =>
    (client.invokeCapability L w env devid capname args).map fun r => (caps, r.2)

end Calls

/-- The device that is called. -/
def RemoteCall.devid {ι : Type} (caps : ι → Python.Capability) : RemoteCall ι → UInt32
  | .python cap _ _ _ => ⟨(caps cap).devid⟩
  | .cpp _ devid _ _ => devid

section System

variable {ι W Ty Val : Type} [DecidableEq Ty] [DecidableEq ι]

/-- The clients of a server. Each call meets sessions and locks of its own. -/
def remoteClients (L : LiveDevices W Ty Val) (widen : BitVec 32 → BitVec 64) (w : W)
    (caps : ι → Python.Capability) :
    TransitionSystem
      ((W × (ι → Python.Capability)) × List ((RemoteCall ι × CallMeets) × Settled Ty Val))
      (RemoteCall ι × CallMeets) :=
  TransitionSystem.recorded
    { init := (w, caps)
      step := fun s c => (c.1.perform L widen s.1 s.2 c.2).map fun r =>
        (L.afterAll s.1 (c.1.devid s.2) r.2.done, r.1) }
    fun s c => (c.1.perform L widen s.1 s.2 c.2).map fun r => (c, r.2)

end System

/-! ### Calls of the device itself -/

section Local

variable {ι W Ty Val : Type}

/-- The request that a call makes. In Python each value becomes a message of the type at its place,
and a property that can be written is read if there is no value. -/
def RemoteCall.Requests (caps : ι → Python.Capability) :
    RemoteCall ι → CapabilityRequest (CapabilityArgument FtVariant) → Prop
  | .python cap args kwargs _, req =>
    (caps cap).msgid < 2 ^ 32 ∧ kwargs.entries = [] ∧ ∃ capargs,
      (if (caps cap).captp = .valueReadwrite ∧ args = [] then capargs = [] else
        Python.InPlace 0 (caps cap).argtypes args capargs) ∧
      req = ⟨UInt32.ofNat (caps cap).msgid, ⟨(caps cap).devid⟩, (caps cap).capname,
        capargs.map Python.CapabilityArgument.received, 0⟩
  | .cpp client devid capname args, req => req = client.capabilityRequest devid capname args

/-- The metadata of a call. -/
def RemoteCall.metadata : RemoteCall ι → List (String × List UInt8)
  | .python _ _ _ activeSecret => Python.callMetadata activeSecret
  | .cpp _ _ _ _ => []

/-- What a call makes of its reply. -/
def RemoteCall.receive (widen : BitVec 32 → BitVec 64) (repl : CapabilityResponse FtVariant) :
    RemoteCall ι → CallOutcome
  | .python _ _ _ _ => .python (Python.processSyncResponse widen repl)
  | .cpp _ _ _ _ => .cpp (Client.ftVariantFromResponse repl)

/-- The action that a call calls for is done, and its outcome is that of the call; or nothing is
done, and the call raises. -/
def RemoteCall.SettledAs [DecidableEq Ty] (L : LiveDevices W Ty Val)
    (widen : BitVec 32 → BitVec 64) (w : W) (caps : ι → Python.Capability) (env : CallMeets)
    (c : RemoteCall ι) (a : Settled Ty Val) : Prop :=
  (∃ req act, c.Requests caps req ∧ L.Calls w env c.metadata req act ∧ a.done = [act] ∧
      a.outcome = c.receive widen (.saying (L.answer w req.devid act))) ∨
    ((∀ req act, c.Requests caps req → ¬ L.Calls w env c.metadata req act) ∧ a.done = [] ∧
      a.outcome.Raises)

/-- Whether a call has sent a request of this object. -/
def RemoteCall.sends [DecidableEq ι] (i : ι) : RemoteCall ι → CallOutcome → Bool
  | .python _ _ _ _, .python (.error (.constructing _)) => false
  | .python cap _ _ _, _ => cap = i
  | .cpp _ _ _ _, _ => false

variable (log : List ((RemoteCall ι × CallMeets) × Settled Ty Val))

/-- The objects of the Python clients after some calls. -/
def objectsAfter [DecidableEq ι] (caps : ι → Python.Capability) : ι → Python.Capability := fun i =>
  { caps i with
    msgid := (caps i).msgid + log.countP fun v => v.1.1.sends i v.2.outcome }

/-- The state of the devices after some calls. -/
def LiveDevices.stateAfter (L : LiveDevices W Ty Val) (caps : ι → Python.Capability) (w : W) : W :=
  log.foldl (fun w v => L.afterAll w (v.1.1.devid caps) v.2.done) w

end Local

/-! ### A call -/

section Receive

variable {ι : Type} {c : RemoteCall ι} {widen : BitVec 32 → BitVec 64}
  {repl : CapabilityResponse FtVariant}

/-- All that a call reads of a reply is what it says. -/
theorem receive_of_says {said : Except Errstatus FtVariant} (h : repl.Says said) :
    c.receive widen repl = c.receive widen (.saying said) := by
  obtain ⟨msgid, devid, capname, returnval, err⟩ := repl
  cases said with
  | ok wire =>
    obtain ⟨rfl, rfl⟩ : err = none ∧ returnval = some wire := h
    cases c <;> rfl
  | error err' =>
    obtain rfl : err = some err' := h
    cases c with
    | python cap args kwargs activeSecret =>
      simp only [RemoteCall.receive, Python.processSyncResponse, CapabilityResponse.saying]
      cases hraised : Python.checkReplErr (some err') with
      | error e => rfl
      | ok u => cases Python.checkReplErr_eq_ok_iff.mp hraised
    | cpp client devid capname args =>
      simp only [RemoteCall.receive, Client.ftVariantFromResponse, CapabilityResponse.saying]
      cases hraised : Client.checkReplErr (some err') with
      | error e => rfl
      | ok u => cases Client.checkReplErr_eq_ok_iff.mp hraised

private theorem raises_of_err (h : repl.err ≠ none) : (c.receive widen repl).Raises := by
  cases c with
  | python cap args kwargs activeSecret =>
    simp only [RemoteCall.receive, Python.processSyncResponse, CallOutcome.Raises]
    cases hraised : Python.checkReplErr repl.err with
    | error e => exact ⟨_, rfl⟩
    | ok u => exact absurd (Python.checkReplErr_eq_ok_iff.mp hraised) h
  | cpp client devid capname args =>
    simp only [RemoteCall.receive, Client.ftVariantFromResponse, CallOutcome.Raises]
    cases hraised : Client.checkReplErr repl.err with
    | error e => exact ⟨_, rfl⟩
    | ok u => exact absurd (Client.checkReplErr_eq_ok_iff.mp hraised) h

end Receive

namespace Python

section Request

variable {ι : Type} {caps : ι → Capability} {i : ι} {cap : Capability} {args : List PyValue}
  {kwargs : Kwargs}

/-- The arguments of a request. -/
theorem capargs_eq_ok_iff {margs : List CapabilityArgument} :
    capargs cap args kwargs = .ok margs ↔ kwargs.entries = [] ∧
      if cap.captp = .valueReadwrite ∧ args = [] then margs = []
      else InPlace 0 cap.argtypes args margs := by
  by_cases hkwargs : kwargs.entries = []
  · obtain rfl : kwargs = ∅ := AList.ext hkwargs
    have hread : readsProperty cap args ∅ = true ↔ cap.captp = .valueReadwrite ∧ args = [] := by
      simp [readsProperty]
    simp only [capargs, hread, hkwargs, true_and]
    split_ifs
    · rw [Except.ok.injEq, eq_comm]
    · exact constructArgs_positional_eq_ok_iff
  · refine iff_of_false (fun h => ?_) fun h => hkwargs h.1
    rw [capargs, if_neg (by simp [readsProperty, hkwargs])] at h
    exact constructArgs_keyword hkwargs h

/-- An object makes a request and numbers it, or it stays as it is. -/
theorem constructRequest_cases (hkind : cap.captp ≠ .stream) :
    (∃ req, newRequest cap args kwargs = .ok req ∧
        constructRequest cap args kwargs = (.ok req, { cap with msgid := cap.msgid + 1 })) ∨
      ∃ e, newRequest cap args kwargs = .error e ∧
        constructRequest cap args kwargs = (.error e, cap) := by
  rw [constructRequest]
  cases newRequest cap args kwargs with
  | error e => exact .inr ⟨e, rfl, rfl⟩
  | ok req => exact .inl ⟨req, rfl, by simp only [setChunksize, if_neg hkind]⟩

/-- A call in Python requests what its arguments are made to. -/
private theorem requests_python_iff {activeSecret : Option (List UInt8)}
    {req : CapabilityRequest (Foxtrot.CapabilityArgument FtVariant)} :
    (RemoteCall.python i args kwargs activeSecret).Requests caps req ↔
      ∃ pyreq, newRequest (caps i) args kwargs = .ok pyreq ∧ req = pyreq.received := by
  have hmsgid {x : BitVec 32} : assignUint32 (caps i).msgid = .ok x ↔
      (caps i).msgid < 2 ^ 32 ∧ x = BitVec.ofNat 32 (caps i).msgid := by
    rw [assignUint32]
    split_ifs with hlt
    · rw [Except.ok.injEq, Int.toNat_natCast, eq_comm]
      exact (and_iff_right (by omega)).symm
    · exact iff_of_false (fun h => by cases h) fun h => hlt ⟨by omega, by omega⟩
  simp only [RemoteCall.Requests, newRequest_eq_ok_iff, capargs_eq_ok_iff, hmsgid]
  constructor
  · rintro ⟨hlt, hkwargs, margs, hargs, rfl⟩
    exact ⟨⟨_, _, _, margs, none⟩, ⟨⟨hkwargs, hargs⟩, ⟨hlt, rfl⟩, rfl, rfl, rfl⟩, rfl⟩
  · rintro ⟨⟨_, _, _, margs, _⟩, ⟨⟨hkwargs, hargs⟩, ⟨hlt, rfl⟩, rfl, rfl, rfl⟩, rfl⟩
    exact ⟨hlt, hkwargs, margs, hargs, rfl⟩

end Request

end Python

section Perform

variable {ι W Ty Val : Type} {L : LiveDevices W Ty Val} {widen : BitVec 32 → BitVec 64} {w : W}
  {caps : ι → Python.Capability} {env : CallMeets}
  {log : List ((RemoteCall ι × CallMeets) × Settled Ty Val)}

/-- The next call acts on the state that the earlier ones have left. -/
private theorem stateAfter_concat (v : (RemoteCall ι × CallMeets) × Settled Ty Val) :
    L.stateAfter (log ++ [v]) caps w =
      L.afterAll (L.stateAfter log caps w) (v.1.1.devid caps) v.2.done := by
  rw [LiveDevices.stateAfter, List.foldl_append]
  rfl

/-- The one request of a call is settled by the server. -/
theorem settledAs_of_settles [DecidableEq Ty] {c : RemoteCall ι}
    {req : CapabilityRequest (CapabilityArgument FtVariant)} {done : List (Core.Action Ty Val)}
    {repl : CapabilityResponse FtVariant} (hreq : ∀ req', c.Requests caps req' ↔ req' = req)
    (h : L.Settles w env c.metadata req done repl) :
    c.SettledAs L widen w caps env ⟨done, c.receive widen repl⟩ := by
  obtain ⟨act, hcalls, rfl, hsays⟩ | ⟨hno, rfl, herr⟩ := h
  · exact .inl ⟨req, act, (hreq req).mpr rfl, hcalls, rfl, receive_of_says hsays⟩
  · refine .inr ⟨fun req' act hreq' => ?_, rfl, raises_of_err herr⟩
    obtain rfl := (hreq req').mp hreq'
    exact hno act

variable [DecidableEq ι]

/-- A reply is read after its request. -/
theorem sends_processSyncResponse {i j : ι} {args : List Python.PyValue} {kwargs : Python.Kwargs}
    {activeSecret : Option (List UInt8)} {repl : CapabilityResponse FtVariant} :
    (RemoteCall.python j args kwargs activeSecret).sends i
      (.python (Python.processSyncResponse widen repl)) = decide (j = i) := by
  cases hresult : Python.processSyncResponse widen repl with
  | ok val => rfl
  | error e =>
    cases e with
    | checking e | reading e => rfl
    | constructing e =>
      rw [Python.processSyncResponse] at hresult
      cases hchecked : Python.checkReplErr repl.err with
      | error e =>
        rw [hchecked] at hresult
        cases hresult
      | ok u =>
        rw [hchecked] at hresult
        cases hval : Python.valueFromFtVariant widen (repl.returnval.getD .notSet) with
        | error e =>
          rw [hval] at hresult
          cases hresult
        | ok val =>
          rw [hval] at hresult
          cases hresult

/-- An object whose call has sent a request has the next number. -/
theorem update_eq_objectsAfter {c : RemoteCall ι} {i : ι} {a : Settled Ty Val}
    (hsends : ∀ j, c.sends j a.outcome = decide (i = j)) :
    Function.update caps i { caps i with msgid := (caps i).msgid + 1 } =
      objectsAfter [((c, env), a)] caps := by
  funext j
  rw [objectsAfter, List.countP_singleton, hsends]
  obtain rfl | hne := eq_or_ne i j
  · simp
  · simp [hne, hne.symm]

/-- The next call changes the objects that the earlier ones have left. -/
private theorem objectsAfter_concat (v : (RemoteCall ι × CallMeets) × Settled Ty Val) :
    objectsAfter (log ++ [v]) caps = objectsAfter [v] (objectsAfter log caps) := by
  funext i
  simp only [objectsAfter, List.countP_append, Nat.add_assoc]

/-- Calls leave alone which device an object calls. -/
theorem devid_objectsAfter (c : RemoteCall ι) : c.devid (objectsAfter log caps) = c.devid caps := by
  cases c <;> rfl

variable [DecidableEq Ty]

variable (caps) in
/-- **A call is a call of the device.** -/
theorem RemoteCall.perform_settledAs (hL : L.Consistent) (hkind : ∀ i, (caps i).captp ≠ .stream)
    (c : RemoteCall ι) :
    ∃ a, c.perform L widen w caps env = some (objectsAfter [((c, env), a)] caps, a) ∧
      c.SettledAs L widen w caps env a := by
  cases c with
  | python i args kwargs activeSecret =>
    obtain ⟨req, hnew, hreq⟩ | ⟨e, hnew, hreq⟩ := Python.constructRequest_cases (hkind i)
    · obtain ⟨done, repl, hstub, hsettles⟩ := LiveDevices.invokeCapability_settles hL
      refine ⟨⟨done, .python (Python.processSyncResponse widen repl)⟩, ?_,
        settledAs_of_settles (fun req' => ?_) hsettles⟩
      · rw [perform, Python.Capability.call, hreq]
        have hcall : L.invokeCapability w env (Python.callMetadata activeSecret) req.received =
            some (done, repl) := hstub
        simp only [hcall]
        exact congrArg (fun caps' => some (caps', _))
          (update_eq_objectsAfter fun _ => sends_processSyncResponse)
      · rw [Python.requests_python_iff, hnew]
        simp
    · refine ⟨⟨[], .python (.error (.constructing e))⟩, ?_, .inr ⟨?_, rfl, _, rfl⟩⟩
      · rw [perform, Python.Capability.call, hreq]
        exact congrArg (fun caps' => some (caps', _)) (Function.update_eq_self ..)
      · intro req act hreq'
        rw [Python.requests_python_iff, hnew] at hreq'
        obtain ⟨_, hok, -⟩ := hreq'
        cases hok
  | cpp client devid capname args =>
    obtain ⟨done, repl, hstub, hsettles⟩ := LiveDevices.invokeCapability_settles hL
    refine ⟨⟨done, .cpp (Client.ftVariantFromResponse repl)⟩, ?_,
      settledAs_of_settles (fun req' => Iff.rfl) hsettles⟩
    have hcall : L.invokeCapability w env [] (client.capabilityRequest devid capname args) =
        some (done, repl) := hstub
    rw [perform, Client.invokeCapability, hcall]
    rfl

/-- **The calls of all clients are calls of the devices themselves**, one after the other. Each
finds the state that the actions of the earlier calls have left, and no call gets stuck. -/
theorem remote_calls (hL : L.Consistent) (hkind : ∀ i, (caps i).captp ≠ .stream)
    {s : W × (ι → Python.Capability)} (h : (remoteClients L widen w caps).Reachable (s, log)) :
    s = (L.stateAfter log caps w, objectsAfter log caps) ∧
      Throughout (fun earlier v => v.1.1.SettledAs L widen (L.stateAfter earlier caps w)
        (objectsAfter earlier caps) v.1.2 v.2) log ∧
      ∀ c, ∃ r, (remoteClients L widen w caps).step (s, log) c = some r := by
  have hperform : ∀ (log : List ((RemoteCall ι × CallMeets) × Settled Ty Val)) c, ∃ a,
      c.1.perform L widen (L.stateAfter log caps w) (objectsAfter log caps) c.2 =
          some (objectsAfter (log ++ [(c, a)]) caps, a) ∧
        c.1.SettledAs L widen (L.stateAfter log caps w) (objectsAfter log caps) c.2 a := by
    intro log c
    obtain ⟨a, ha, hsettled⟩ := c.1.perform_settledAs (objectsAfter log caps) hL hkind
    exact ⟨a, by rw [ha, objectsAfter_concat], hsettled⟩
  have hall : s = (L.stateAfter log caps w, objectsAfter log caps) ∧
      Throughout (fun earlier v => v.1.1.SettledAs L widen (L.stateAfter earlier caps w)
        (objectsAfter earlier caps) v.1.2 v.2) log := by
    refine throughout_of_recorded (fun _ _ => True)
      (I := fun s log => s = (L.stateAfter log caps w, objectsAfter log caps)) rfl ?_ ?_ h
    · rintro _ c s' log - rfl - - hnone
      obtain ⟨a, ha, -⟩ := hperform log c
      rw [ha] at hnone
      cases hnone
    · rintro _ c s' log v - rfl - hstep hv
      obtain ⟨a, ha, hsettled⟩ := hperform log c
      simp only [ha] at hstep hv
      obtain rfl := Option.some.inj hstep
      obtain rfl := Option.some.inj hv
      refine ⟨hsettled, Prod.ext ?_ rfl⟩
      rw [stateAfter_concat, devid_objectsAfter]
  obtain ⟨rfl, hlog⟩ := hall
  refine ⟨rfl, hlog, fun c => ?_⟩
  obtain ⟨a, ha, -⟩ := hperform log c
  exact ⟨_, recorded_step_eq_some_iff.mpr ⟨congrArg (Option.map _) ha, rfl⟩⟩

end Perform

/-! ### A counter -/

/-- `Add`, of one number. -/
private def addMethod : Core.Method Unit := ⟨0, "Add", (), [("by", ())], false⟩

/-- What has been counted can be read as well. -/
private def counterType : Core.ReflectedType Unit :=
  ⟨[⟨1, "Count", (), true⟩], [addMethod], List.nodup_singleton _, List.nodup_singleton _⟩

private def counterDevice : Core.Device Unit :=
  .new (fun _ => "int") counterType counterType true

private theorem counterDevice_consistent : counterDevice.Consistent fun _ => "int" :=
  Core.Device.consistent_new _ counterType (by change 2 < 2 ^ 16; decide)

/-- A server of one counter, whose state is what it has counted. -/
private def counter : LiveDevices ℕ Unit ℕ where
  devices := [counterDevice]
  rttr :=
    { getName := fun _ => "int"
      isValid := fun _ => true
      getType := fun _ => ()
      canConvert := fun _ _ => true
      convert := fun a _ => some a
      isWrapper := fun _ => false
      extractWrappedValue := id }
  wireTypeToVariant _ m _ :=
    match m with
    | .simplevar ⟨.intval n, _, _⟩ => .ok n.toNat
    | _ => .error (.exception "no number")
  getVariantWireType _ ret :=
    match ret with
    | .other n => .ok (.simplevar { value := .uintval (BitVec.ofNat 64 n), size := 4 })
    | _ => .error (.exception "no number")
  reactions n _ :=
    { getValue := fun _ => .ok (.other n)
      setValue := fun _ _ => .ok true
      invokeVariadic := fun _ args => .ok (some (.other (n + args.sum)))
      voidValue := .other 0 }
  after n _ act :=
    match act with
    | .invokeVariadic _ args => n + args.sum
    | _ => n

private def counterCapability : Python.Capability :=
  ⟨.action, "Add", ["by"], [.simplevar "int" (some .intType) 4], by decide, 0, 0, 1000⟩

/-- C++ adds two and Python three, but neither by keyword nor to another device. -/
def counterTrace : List (RemoteCall Unit × CallMeets) :=
  let free : CallMeets := ⟨⟨∅, ∅, ∅, ∅, 0, 0⟩, fun _ _ => .ok ()⟩
  [(.cpp ⟨0⟩ 0 "Add" [.int 2], free), (.python () [.int 3] ∅ none, free),
    (.python () [] (AList.singleton "by" (.int 3)) none, free), (.cpp ⟨1⟩ 1 "Add" [.int 2], free)]

/-- The clients of the counter. -/
private def counterClients := remoteClients counter (BitVec.setWidth 64) 0
  fun _ : Unit => counterCapability

theorem remote_calls_counterTrace : ∃ s log, counterClients.Reachable (s, log) ∧
    s.1 = 5 ∧ log.length = 4 ∧
    s = (counter.stateAfter log (fun _ => counterCapability) 0,
      objectsAfter log fun _ => counterCapability) ∧
    Throughout (fun earlier v => v.1.1.SettledAs counter (BitVec.setWidth 64)
      (counter.stateAfter earlier (fun _ => counterCapability) 0)
      (objectsAfter earlier fun _ => counterCapability) v.1.2 v.2) log ∧
    ∀ c, ∃ r, counterClients.step (s, log) c = some r := by
  have hrun : ((counterClients.run counterClients.init counterTrace).map fun r =>
      (r.1.1, r.2.length)) = some (5, 4) := by decide
  obtain ⟨⟨s, log⟩, hrun, hs⟩ := Option.map_eq_some_iff.mp hrun
  obtain ⟨hstate, hlength⟩ := Prod.mk.inj hs
  have hconsistent : counter.Consistent := by
    intro dev hdev
    obtain rfl := List.mem_singleton.mp hdev
    exact counterDevice_consistent
  have hreach := reachable_of_run hrun
  exact ⟨s, log, hreach, hstate, hlength, remote_calls hconsistent (fun _ => by decide) hreach⟩

end Foxtrot
