import Foxtrot.Server.Flags
import Foxtrot.Server.InvokeCapability
import Foxtrot.Server.StreamIsolation
import Foxtrot.Session.Agreement
import Foxtrot.Session.Interleaving

/-!
# What a session protects

Four RPCs change something that a session can own: `InvokeCapability` and `FetchData` act on a
device, `SetServerFlag` and `DropServerFlag` on a flag. `Protected` says of a request that the
owner's session protects its target: without the owner's secret nothing is invoked, the flags
stay as they are and the reply is an error; with the secret the session check lets the request
pass.

The check is a mixin of the logic object, and `setup_common` (`server/src/ServerImplLegacy.cpp`)
uses it for `InvokeCapability` only. So a request for an owned target is protected **exactly when it
carries the owner's secret, or the session check stops it, or it is refused for a reason of its
own** (`protected_iff`), and only an `InvokeCapability` is ever stopped by the check. This holds in
any session state, whether or not ownership is exclusive in it; where it is, in the states reached
with fresh commits, every `InvokeCapability` is protected (`protected_invokeCapability`).

The secret of a session is one that leads to it (`get_session_info`).

For each RPC there is one equivalence about when its request is stopped
(`stopped_iff_refusedAnyway`) and one about when the check lets the owner's secret pass
(`notRejected_iff`), and `protected_iff` is put together from them without any assumption on the
session state. Only the last step, from lists to owners, needs the ownership cover of runs with
fresh commits.
-/

namespace Foxtrot

variable {Ty Arg Value Wire : Type}

/-- A request of an RPC that changes something. -/
inductive RpcRequest (Arg : Type) where
  | invokeCapability (req : CapabilityRequest Arg)
  | fetchData (req : ChunkRequest Arg)
  | setServerFlag (req : Serverflag)
  | dropServerFlag (req : Serverflag)

/-- The state of the logic objects. -/
structure LogicStates where
  fetchData : FetchDataLogic
  vars : FlagMap

/-- What came of a request: the invocations, the flags, the errors of the messages sent, and
whether the request is finished. -/
structure RpcOutcome (Value : Type) where
  invoked : List (Invocation Value)
  vars : FlagMap
  errs : List (Option Errstatus)
  finished : Bool

/-- The message that a call on a responder sends. -/
def ResponderCall.message {Reply : Type} : ResponderCall Reply → Option Reply
  | .write repl | .finishWith repl => some repl
  | .finish => none

/-- The errors of the messages that calls send. -/
def errorsSent {Reply : Type} (err : Reply → Option Errstatus)
    (calls : List (ResponderCall Reply)) : List (Option Errstatus) :=
  (calls.filterMap ResponderCall.message).map err

/-- The first `Proceed` of a request, with the logic objects that `setup_common` registers. -/
def RpcRequest.process [Inhabited Wire] (harness : DeviceHarness Ty Arg Value Wire)
    (s : LogicStates) (ctxt : CallContext Value) : RpcRequest Arg → Option (RpcOutcome Value)
  | .invokeCapability req =>
    let L := harness.invokeCapabilityWithSession
    (L.process () ctxt req L.emptyReply).map fun r =>
      ⟨r.invoked, s.vars, errorsSent CapabilityResponse.err r.calls, r.result⟩
  | .fetchData req =>
    let L := harness.fetchDataLogic
    (L.process s.fetchData ctxt req L.emptyReply).map fun r =>
      ⟨r.invoked, s.vars, errorsSent Datachunk.err r.calls, r.result⟩
  | .setServerFlag req =>
    ((setServerFlagsLogic (CallContext Value) (Invocation Value)).process s.vars ctxt req
      .empty).map fun r => ⟨r.invoked, r.logic, errorsSent Serverflag.err r.calls, r.result⟩
  | .dropServerFlag req =>
    ((dropServerFlagLogic (CallContext Value) (Invocation Value)).process s.vars ctxt req
      .empty).map fun r => ⟨r.invoked, r.logic, errorsSent Serverflag.err r.calls, r.result⟩

/-- The metadata check of a request. -/
def RpcRequest.checkMetadata [Inhabited Wire] (harness : DeviceHarness Ty Arg Value Wire)
    (ctxt : CallContext Value) : RpcRequest Arg → Except Thrown Bool
  | .invokeCapability req => harness.invokeCapabilityWithSession.checkMetadata ctxt req
  | .fetchData req => harness.fetchDataLogic.checkMetadata ctxt req
  | .setServerFlag req =>
    (setServerFlagsLogic (CallContext Value) (Invocation Value)).checkMetadata ctxt req
  | .dropServerFlag req =>
    (dropServerFlagLogic (CallContext Value) (Invocation Value)).checkMetadata ctxt req

/-! ### Protected requests -/

/-- The session lists the target of the request. -/
def RpcRequest.targetIn (ses : FtSessionInfo) : RpcRequest Arg → Prop
  | .invokeCapability req => req.devid ∈ ses.devices
  | .fetchData req => req.devid ∈ ses.devices
  | .setServerFlag req | .dropServerFlag req => req.flagname ∈ ses.flags

/-- The metadata carries a secret of the session. -/
def CallContext.carriesSecret (ctxt : CallContext Value) (ses : FtSessionInfo) : Prop :=
  ∃ id : Sessionid, ctxt.clientMetadata.lookup sessionSecretKey = some id.toList ∧
    ctxt.sessions.getSessionInfo id = .ok ses

/-- The request achieves nothing: no device is invoked, the flags are unchanged, the one message
sent is an error, and the request is finished. -/
def RpcRequest.Stopped [Inhabited Wire] (harness : DeviceHarness Ty Arg Value Wire)
    (s : LogicStates) (ctxt : CallContext Value) (req : RpcRequest Arg) : Prop :=
  ∃ r, req.process harness s ctxt = some r ∧ r.invoked = [] ∧ r.vars = s.vars ∧
    (∃ err, r.errs = [some err]) ∧ r.finished = true

/-- The session check lets the request pass, or stops only because the requested capability does
not exist. -/
def RpcRequest.NotRejected [Inhabited Wire] (harness : DeviceHarness Ty Arg Value Wire)
    (ctxt : CallContext Value) (req : RpcRequest Arg) : Prop :=
  req.checkMetadata harness ctxt = .ok true ∨
    ∃ capreq e, req = .invokeCapability capreq ∧
      harness.findCapability capreq.devid capreq.capname = .error e

/-- **The owner's session protects the target of the request.** -/
def Protected [Inhabited Wire] (harness : DeviceHarness Ty Arg Value Wire) (s : LogicStates)
    (ctxt : CallContext Value) (req : RpcRequest Arg) : Prop :=
  ∀ ses, ctxt.sessions.IsLive ses → req.targetIn ses →
    (¬ ctxt.carriesSecret ses → req.Stopped harness s ctxt) ∧
      (ctxt.carriesSecret ses → req.NotRejected harness ctxt)

/-- The request is refused for a reason that has nothing to do with sessions: there is no way to
the device for an `InvokeCapability` or a new `FetchData`, a flag has no value, a flag to drop is
not there. -/
def RpcRequest.RefusedAnyway (harness : DeviceHarness Ty Arg Value Wire) (s : LogicStates)
    (ctxt : CallContext Value) : RpcRequest Arg → Prop
  | .invokeCapability req => ∃ refusal, harness.invocationArgs req ctxt.answers = .error refusal
  | .fetchData req => s.fetchData.thischunk = 0 ∧
      ∃ refusal, harness.fetchInvocation req ctxt.answers = .error refusal
  | .setServerFlag req => req.arg = none
  | .dropServerFlag req => req.flagname ∉ s.vars

/-- The request is an `InvokeCapability` for which the owner of the device cannot be looked up,
since the cache leads to a session that is gone. -/
def RpcRequest.OwnerLost (ctxt : CallContext Value) : RpcRequest Arg → Prop
  | .invokeCapability req => ∃ e, ctxt.sessions.whoOwnsDevice req.devid = .error e
  | .fetchData _ | .setServerFlag _ | .dropServerFlag _ => False

/-- The request is an `InvokeCapability` for a device that has an owner, and does not carry the
secret of a session that lists the device. -/
def RpcRequest.LacksSecret (ctxt : CallContext Value) : RpcRequest Arg → Prop
  | .invokeCapability req => (∃ ses, ctxt.sessions.whoOwnsDevice req.devid = .ok (some ses)) ∧
      ∀ ses, ctxt.carriesSecret ses → req.devid ∉ ses.devices
  | .fetchData _ | .setServerFlag _ | .dropServerFlag _ => False

/-- The requested capability exists, as far as the request names one. -/
def RpcRequest.HasCapability (harness : DeviceHarness Ty Arg Value Wire) : RpcRequest Arg → Prop
  | .invokeCapability req => ∃ cap, harness.findCapability req.devid req.capname = .ok cap
  | .fetchData _ | .setServerFlag _ | .dropServerFlag _ => True

/-- Where the check passes, the owner of the device could be looked up, and there is none or the
request carries the secret of a session that lists the device. -/
theorem sessionCheck_iff {harness : DeviceHarness Ty Arg Value Wire} {ctxt : CallContext Value}
    {req : CapabilityRequest Arg} {cap : Capability Ty}
    (hcap : harness.findCapability req.devid req.capname = .ok cap) :
    sessionCheck harness ctxt req.devid req.capname = .ok true ↔
      ctxt.sessions.whoOwnsDevice req.devid = .ok none ∨
        ∃ owner, ctxt.sessions.whoOwnsDevice req.devid = .ok (some owner) ∧
          ∃ ses, ctxt.carriesSecret ses ∧ req.devid ∈ ses.devices := by
  have hauth : (∃ id : Sessionid, ctxt.clientMetadata.lookup sessionSecretKey = some id.toList ∧
      ctxt.sessions.sessionAuthCheckDevice id req.devid = .ok true) ↔
        ∃ ses, ctxt.carriesSecret ses ∧ req.devid ∈ ses.devices := by
    constructor
    · rintro ⟨id, hmd, hid⟩
      obtain ⟨n, ses, hn, hses, hd⟩ := SessionManager.authCheck_eq_true_iff.mp hid
      exact ⟨ses, ⟨id, hmd, SessionManager.getSessionInfo_eq_ok_iff.mpr ⟨n, hn, hses⟩⟩, hd⟩
    · rintro ⟨ses, ⟨id, hmd, hinfo⟩, hd⟩
      exact ⟨id, hmd, SessionManager.authCheck_of_getSessionInfo hinfo hd⟩
  rw [sessionCheck_eq_ok_iff hcap, hauth]
  constructor
  · rintro ⟨owner, howner, rfl | hses⟩
    · exact .inl howner
    · rcases owner with _ | owner
      · exact .inl howner
      · exact .inr ⟨owner, howner, hses⟩
  · rintro (howner | ⟨owner, howner, hses⟩)
    · exact ⟨none, howner, .inl rfl⟩
    · exact ⟨some owner, howner, .inr hses⟩

/-! ### The four RPCs -/

section Rpcs

variable [Inhabited Wire] {harness : DeviceHarness Ty Arg Value Wire} {s : LogicStates}
  {ctxt : CallContext Value}

/-- A request is stopped with an error, before it does anything. -/
private theorem stopped_iff {req : RpcRequest Arg} {o : RpcOutcome Value}
    (ho : req.process harness s ctxt = some o) : req.Stopped harness s ctxt ↔
      o.invoked = [] ∧ o.vars = s.vars ∧ (∃ err, o.errs = [some err]) ∧ o.finished = true := by
  rw [RpcRequest.Stopped, ho]
  simp only [Option.some.injEq, exists_eq_left']

/-- A flag is not set exactly without an argument. -/
private theorem stopped_setServerFlag_iff {req : Serverflag} :
    (RpcRequest.setServerFlag req : RpcRequest Arg).Stopped harness s ctxt ↔ req.arg = none := by
  obtain ⟨r, hr, hinv, hres, hcases⟩ :=
    setServerFlags_process (CallContext Value) (Invocation Value) s.vars ctxt req
  have ho : (RpcRequest.setServerFlag req : RpcRequest Arg).process harness s ctxt =
      some ⟨r.invoked, r.logic, errorsSent Serverflag.err r.calls, r.result⟩ := by
    rw [RpcRequest.process, hr]
    rfl
  rw [stopped_iff ho]
  rcases hcases with ⟨harg, hlogic, err, hcalls⟩ | ⟨val, harg, -, hcalls⟩
  · simp [harg, hinv, hres, hlogic, hcalls, errorsSent, ResponderCall.message]
  · simp [harg, hcalls, errorsSent, ResponderCall.message]

/-- A flag is not dropped exactly if it is not there. -/
private theorem stopped_dropServerFlag_iff {req : Serverflag} :
    (RpcRequest.dropServerFlag req : RpcRequest Arg).Stopped harness s ctxt ↔
      req.flagname ∉ s.vars := by
  obtain ⟨r, hr, hinv, hres, hcases⟩ :=
    dropServerFlag_process (CallContext Value) (Invocation Value) s.vars ctxt req
  have ho : (RpcRequest.dropServerFlag req : RpcRequest Arg).process harness s ctxt =
      some ⟨r.invoked, r.logic, errorsSent Serverflag.err r.calls, r.result⟩ := by
    rw [RpcRequest.process, hr]
    rfl
  rw [stopped_iff ho]
  rcases hcases with ⟨hmem, hlogic, err, hcalls⟩ | ⟨hmem, -, hcalls⟩
  · simp [hmem, hinv, hres, hlogic, hcalls, errorsSent, ResponderCall.message]
  · simp [hmem, hcalls, errorsSent, ResponderCall.message]

/-- A chunk that is sent is not an error, if the reply has none. -/
theorem errorsSent_sendChunk (logic : FetchDataLogic) {repl : Datachunk} (hrepl : repl.err = none)
    (invoked : List (Invocation Value)) :
    ∀ err, errorsSent Datachunk.err (logic.sendChunk repl invoked).calls ≠ [some err] := by
  intro err
  rw [FetchDataLogic.sendChunk]
  split
  · simp [errorsSent, ResponderCall.message, hrepl]
  · split
    · simp [errorsSent, ResponderCall.message, hrepl]
    · exact fun h => by cases h

/-- `FetchData` stops a request only by itself: a new one that does not get to its device. -/
theorem stopped_fetchData_iff {req : ChunkRequest Arg} :
    (RpcRequest.fetchData req).Stopped harness s ctxt ↔
      (RpcRequest.fetchData req).RefusedAnyway harness s ctxt := by
  by_cases hidle : s.fetchData.thischunk = 0
  · rcases hfi : harness.fetchInvocation req ctxt.answers with refusal | v
    · have href : harness.fetched req ctxt.answers = .error refusal := by
        rw [DeviceHarness.fetched, hfi]
        rfl
      obtain ⟨r, hr, -, hcalls, hinv, hres⟩ :=
        process_of_refused hidle href harness.fetchDataLogic.emptyReply
      have ho : (RpcRequest.fetchData req).process harness s ctxt =
          some ⟨r.invoked, s.vars, errorsSent Datachunk.err r.calls, r.result⟩ := by
        rw [RpcRequest.process]
        simp only [hr, Option.map_some]
      rw [hfi] at hinv
      refine iff_of_true ((stopped_iff ho).mpr ⟨hinv, rfl, ⟨refusal.errstatus, ?_⟩, hres⟩)
        ⟨hidle, refusal, hfi⟩
      rw [hcalls]
      rfl
    -- the device was invoked, whatever became of the value
    · refine iff_of_false ?_ (by rintro ⟨-, refusal, href⟩; rw [hfi] at href; cases href)
      rintro ⟨o, ho, hinv, -⟩
      obtain ⟨r, hr, rfl⟩ := Option.map_eq_some_iff.mp ho
      have hown := process_invoked hidle hr
      rw [hfi] at hown
      exact absurd (hinv.symm.trans hown) (by simp [Except.toOption])
  -- in the middle of somebody else's stream the request gets a chunk of it, or its end
  · refine iff_of_false ?_ fun h => hidle h.1
    rintro ⟨o, ho, -, -, ⟨err, herr⟩, -⟩
    obtain ⟨r, hr, rfl⟩ := Option.map_eq_some_iff.mp ho
    rw [fetchDataLogic_process, FetchDataLogic.handleRequest, if_neg hidle] at hr
    obtain rfl := Option.some.inj hr
    have hcalls : ((s.fetchData.sendChunk harness.fetchDataLogic.emptyReply
        ([] : List (Invocation Value))).caught datachunkWriter).calls =
          (s.fetchData.sendChunk harness.fetchDataLogic.emptyReply
            ([] : List (Invocation Value))).calls := by
      rw [FetchDataLogic.sendChunk]
      split
      · rfl
      · split <;> rfl
    exact errorsSent_sendChunk s.fetchData rfl [] err (hcalls ▸ herr)

/-- A request that the session check stops achieves nothing. -/
theorem stopped_of_check_error {req : CapabilityRequest Arg} {e : Thrown}
    (he : sessionCheck harness ctxt req.devid req.capname = .error e) :
    (RpcRequest.invokeCapability req).Stopped harness s ctxt := by
  have ho : (RpcRequest.invokeCapability req).process harness s ctxt =
      some ⟨[], s.vars, [some (foxtrotRpcErrorHandling e)], true⟩ := by
    rw [RpcRequest.process]
    simp only [process_of_check_error he]
    rfl
  exact (stopped_iff ho).mpr ⟨rfl, rfl, ⟨_, rfl⟩, rfl⟩

/-- `InvokeCapability` is stopped by the session check, or refused by itself. -/
theorem stopped_invokeCapability_iff {req : CapabilityRequest Arg} :
    (RpcRequest.invokeCapability req).Stopped harness s ctxt ↔
      ((RpcRequest.invokeCapability req : RpcRequest Arg).OwnerLost ctxt ∨
          (RpcRequest.invokeCapability req : RpcRequest Arg).LacksSecret ctxt) ∨
        (RpcRequest.invokeCapability req).RefusedAnyway harness s ctxt := by
  rcases hcap : harness.findCapability req.devid req.capname with e | cap
  -- no such capability
  · obtain ⟨refusal, href⟩ := prepare_of_findCapability_error hcap harness.invokeStyle req.args
      (ctxt.answers.lockDevice req.devid req.contentionTimeout)
    exact iff_of_true (stopped_of_check_error (sessionCheck_of_findCapability_error hcap))
      (.inr ⟨refusal, href⟩)
  · by_cases hok : sessionCheck harness ctxt req.devid req.capname = .ok true
    -- the check lets the request pass, so it is stopped only on its way to the device
    · have hpass := (sessionCheck_iff hcap).mp hok
      have hnot : ¬ ((RpcRequest.invokeCapability req : RpcRequest Arg).OwnerLost ctxt ∨
          (RpcRequest.invokeCapability req : RpcRequest Arg).LacksSecret ctxt) := by
        rintro (⟨e, he⟩ | ⟨⟨ses, hses⟩, hnone⟩)
        · simp [he] at hpass
        · obtain ⟨_, _, ses', hcarries, hd⟩ := hpass.resolve_left (by simp [hses])
          exact hnone ses' hcarries hd
      rw [or_iff_right hnot]
      obtain ⟨r, hr, hres, hcases⟩ := process_of_check_ok hok
        harness.invokeCapabilityWithSession.emptyReply
      have ho : (RpcRequest.invokeCapability req).process harness s ctxt = some
          ⟨r.invoked, s.vars, errorsSent CapabilityResponse.err r.calls, r.result⟩ := by
        rw [RpcRequest.process]
        simp only [hr, Option.map_some]
      rw [stopped_iff ho, RpcRequest.RefusedAnyway]
      rcases hcases with ⟨refusal, hargs, hinv, repl, hcalls, hrepl⟩ | ⟨vargs, hargs, hinv⟩
      · simp [hargs, hinv, hcalls, hrepl, hres, errorsSent, ResponderCall.message]
      · simp [hargs, hinv]
    -- the check stops it
    · rcases hcheck : sessionCheck harness ctxt req.devid req.capname with e | _ | _
      · refine iff_of_true (stopped_of_check_error hcheck) (.inl ?_)
        rw [sessionCheck_iff hcap, not_or] at hok
        rcases howner : ctxt.sessions.whoOwnsDevice req.devid with e | _ | ses
        · exact .inl ⟨e, howner⟩
        · exact absurd howner hok.1
        · exact .inr ⟨⟨ses, howner⟩, fun ses' hcarries hd =>
            hok.2 ⟨ses, howner, ses', hcarries, hd⟩⟩
      · exact absurd hcheck sessionCheck_ne_false
      · exact absurd hcheck hok

/-- When a request is stopped. -/
theorem stopped_iff_refusedAnyway (req : RpcRequest Arg) : req.Stopped harness s ctxt ↔
    (req.OwnerLost ctxt ∨ req.LacksSecret ctxt) ∨ req.RefusedAnyway harness s ctxt := by
  rcases req with req | req | req | req
  · exact stopped_invokeCapability_iff
  · rw [stopped_fetchData_iff]
    exact ⟨.inr, fun h => h.resolve_left (by rintro (⟨⟨⟩⟩ | ⟨⟨⟩⟩))⟩
  · rw [stopped_setServerFlag_iff]
    exact ⟨.inr, fun h => h.resolve_left (by rintro (⟨⟨⟩⟩ | ⟨⟨⟩⟩))⟩
  · rw [stopped_dropServerFlag_iff]
    exact ⟨.inr, fun h => h.resolve_left (by rintro (⟨⟨⟩⟩ | ⟨⟨⟩⟩))⟩

/-- With the secret of a session that lists the target, the check rejects a request only where it
cannot look the owner up. -/
theorem notRejected_iff {ses : FtSessionInfo} {req : RpcRequest Arg} (htarget : req.targetIn ses)
    (hsecret : ctxt.carriesSecret ses) : req.NotRejected harness ctxt ↔
      ¬ (req.HasCapability harness ∧ req.OwnerLost ctxt) := by
  rcases req with req | req | req | req
  · rcases hcap : harness.findCapability req.devid req.capname with e | cap
    · refine iff_of_true (.inr ⟨req, e, rfl, hcap⟩) ?_
      rintro ⟨⟨cap, hcap'⟩, -⟩
      rw [hcap] at hcap'
      cases hcap'
    · have hpass : (RpcRequest.invokeCapability req).NotRejected harness ctxt ↔
          sessionCheck harness ctxt req.devid req.capname = .ok true := by
        refine ⟨fun h => h.resolve_right ?_, .inl⟩
        rintro ⟨capreq, e, heq, he⟩
        obtain rfl := RpcRequest.invokeCapability.inj heq
        rw [hcap] at he
        cases he
      rw [hpass, sessionCheck_iff hcap]
      constructor
      · rintro (howner | ⟨owner, howner, -⟩) ⟨-, e, he⟩
        · simp [howner] at he
        · simp [howner] at he
      · intro hlost
        rcases howner : ctxt.sessions.whoOwnsDevice req.devid with e | _ | owner
        · exact absurd ⟨⟨cap, hcap⟩, e, howner⟩ hlost
        · exact .inl rfl
        · exact .inr ⟨owner, rfl, ses, hsecret, htarget⟩
  -- the others have no check
  all_goals exact iff_of_true (.inl rfl) fun h => h.2

end Rpcs

/-! ### Who is protected -/

section Protection

variable [Inhabited Wire] {harness : DeviceHarness Ty Arg Value Wire} {s : LogicStates}
  {ctxt : CallContext Value}

/-- **Who is protected.** In any session state, a request for an owned target is protected exactly
when it carries the owner's secret (and the check can look the owner up, if it gets to that), or
else is stopped by the check or refused anyway. -/
theorem protected_iff (req : RpcRequest Arg) : Protected harness s ctxt req ↔
    ∀ ses, ctxt.sessions.IsLive ses → req.targetIn ses →
      (ctxt.carriesSecret ses ∧ ¬ (req.HasCapability harness ∧ req.OwnerLost ctxt)) ∨
        (¬ ctxt.carriesSecret ses ∧
          (req.OwnerLost ctxt ∨ req.LacksSecret ctxt ∨ req.RefusedAnyway harness s ctxt)) := by
  have hper : ∀ ses, req.targetIn ses →
      (((¬ ctxt.carriesSecret ses → req.Stopped harness s ctxt) ∧
          (ctxt.carriesSecret ses → req.NotRejected harness ctxt)) ↔
        (ctxt.carriesSecret ses ∧ ¬ (req.HasCapability harness ∧ req.OwnerLost ctxt)) ∨
          (¬ ctxt.carriesSecret ses ∧
            (req.OwnerLost ctxt ∨ req.LacksSecret ctxt ∨ req.RefusedAnyway harness s ctxt))) := by
    intro ses htarget
    by_cases hsecret : ctxt.carriesSecret ses
    · simp only [hsecret, not_true_eq_false, false_implies, true_and, true_implies, false_and,
        or_false]
      exact notRejected_iff htarget hsecret
    · simp only [hsecret, not_false_eq_true, true_implies, false_implies, and_true, false_and,
        true_and, false_or]
      rw [stopped_iff_refusedAnyway, or_assoc]
  exact forall_congr' fun ses => forall_congr' fun _ => forall_congr' fun htarget =>
    hper ses htarget

open SessionManager

/-- Under the ownership cover, the owner of a listed device is the session that lists it. -/
theorem SessionManager.Covered.whoOwnsDevice_of_mem {sm : SessionManager} {ses : FtSessionInfo}
    (hcov : sm.Covered) (hlive : sm.IsLive ses) {d : UInt32} (hd : d ∈ ses.devices) :
    sm.whoOwnsDevice d = .ok (some ses) := by
  obtain ⟨id, hid⟩ := hlive
  exact whoOwnsDevice_eq_some_iff.mpr ⟨id, hcov.device id d ⟨ses, hid, hd⟩, hid⟩

/-- **The session check does its work** where ownership is exclusive: in a session state reached
with fresh commits, every `InvokeCapability` is protected. -/
theorem protected_invokeCapability {ι : Type} [DecidableEq ι] {ord : SecretOrder} {len : Int}
    {st : Sessions ι} (hreach : (sessionSystem ι ord len).ReachableWhile FreshCommit st)
    (hctxt : ctxt.sessions = st.mgr) (req : CapabilityRequest Arg) :
    Protected harness s ctxt (.invokeCapability req) := by
  have hcov : ctxt.sessions.Covered := hctxt ▸ covered_of_freshCommit hreach
  intro ses hlive htarget
  have howner := hcov.whoOwnsDevice_of_mem hlive htarget
  refine ⟨fun hsecret => stopped_invokeCapability_iff.mpr (.inl (.inr ⟨⟨ses, howner⟩, ?_⟩)),
    fun hsecret => (notRejected_iff htarget hsecret).mpr ?_⟩
  · rintro ses' hcarries hd
    have ⟨_, _, hinfo⟩ := hcarries
    obtain ⟨n, -, hn⟩ := getSessionInfo_eq_ok_iff.mp hinfo
    -- a session that lists the device is its owner
    have heq := howner.symm.trans (hcov.whoOwnsDevice_of_mem ⟨n, hn⟩ hd)
    obtain rfl := Option.some.inj (Except.ok.inj heq)
    exact hsecret hcarries
  · rintro ⟨-, e, he⟩
    rw [howner] at he
    cases he

end Protection

/-- A request without a secret, made in a state of two sessions: one owns device 1, the other
device 2 and a flag. -/
def strangerContext (sm : SessionManager) : CallContext Unit :=
  { imageContext [1, 2, 3] with sessions := sm }

/-- **Anybody can set a flag that a session owns.** -/
theorem setServerFlag_unprotected : ∃ st, twoClients.Reachable st ∧
    ¬ Protected twoCameras ⟨.new, ∅⟩ (strangerContext st.mgr)
      (.setServerFlag ⟨none, 1, "flag", some (.bool true)⟩) := by
  have hrun : (twoClients.run twoClients.init disjointTrace).map (fun st =>
      (st.mgr.sessionmap.lookup 1).map (·.flags)) = some (some ["flag"]) := by decide
  obtain ⟨st, hst, hflags⟩ := Option.map_eq_some_iff.mp hrun
  obtain ⟨ses, hses, hflags⟩ := Option.map_eq_some_iff.mp hflags
  refine ⟨st, TransitionSystem.reachable_of_run hst, fun hprot => ?_⟩
  have hmem : "flag" ∈ ses.flags := by
    rw [hflags]
    exact List.mem_singleton_self _
  have hnone : ¬ (strangerContext st.mgr).carriesSecret ses := by
    rintro ⟨id, hmd, -⟩
    cases hmd
  have hstop := (hprot ses ⟨1, hses⟩ hmem).1 hnone
  cases stopped_setServerFlag_iff.mp hstop

end Foxtrot
