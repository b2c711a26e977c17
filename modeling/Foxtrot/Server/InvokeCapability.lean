import Foxtrot.Server.Harness

/-!
# `InvokeCapability`, and the session check

`InvokeCapabilityLogic` (`server/src/InvokeCapabilityImpl.cpp`) invokes a device and replies with
the value. It is registered through `SessionHandlerMixin`
(`server/include/foxtrot/server/SessionHandlerMixin.hh`), which puts a session check before it:
when a session owns the requested device, the metadata of the request must have a secret whose
session lists the device.

`sessionHandlerMixin` puts the check before any logic object whose requests name a device and a
capability. What it lets pass is `sessionCheck_eq_ok_iff`: the capability exists, and the device is
free or the secret is right. Whatever it stops is answered with an error and nothing else
(`process_of_check_error`).
-/

namespace Foxtrot

/-- `capability_request`. -/
structure CapabilityRequest (Arg : Type) where
  msgid : UInt32
  devid : UInt32
  capname : String
  args : List Arg
  contentionTimeout : UInt32

/-- `capability_response`. -/
structure CapabilityResponse (Wire : Type) where
  msgid : UInt32
  devid : UInt32
  capname : String
  returnval : Option Wire
  err : Option Errstatus

variable {Ty Arg Value Wire : Type}

/-- The responder of `InvokeCapability`. -/
def capabilityResponder : Responder (CapabilityResponse Wire) where
  setReplErr repl err := { repl with err := some err }
  errcall := .finishWith

/-- The way of `InvokeCapability` to the device. -/
def DeviceHarness.invokeStyle (harness : DeviceHarness Ty Arg Value Wire) :
    CallStyle Ty Arg Value where
  invalidDevice := "invalid device id supplied"
  wrongType tp :=
    if tp = .stream then some "tried to call Invoke on a streaming method: " else none
  tooManyArgs :=
    .outOfRange "ran out of arg types to deduce. Possibly you supplied too many arguments"
  convert arg ty :=
    (harness.wireTypeToVariant arg ty).mapError fun e => .replied (foxtrotRpcErrorHandling e)
  lockFailed e := .replied (foxtrotRpcErrorHandling e)

/-- The converted arguments with which a request gets to its device. -/
def DeviceHarness.invocationArgs (harness : DeviceHarness Ty Arg Value Wire)
    (req : CapabilityRequest Arg) (ans : Answers Value) : Except Refusal (List Value) :=
  harness.prepare harness.invokeStyle req.devid req.capname req.args
    (ans.lockDevice req.devid req.contentionTimeout)

/-- `InvokeCapabilityLogic`. A value that has no wire type leaves the empty value, `default`, in
the reply. -/
def DeviceHarness.invokeCapabilityLogic [Inhabited Wire]
    (harness : DeviceHarness Ty Arg Value Wire) :
    Logic Unit (CallContext Value) (CapabilityRequest Arg) (CapabilityResponse Wire)
      (Invocation Value) where
  responder := capabilityResponder
  emptyReply := ⟨0, 0, "", none, none⟩
  checkMetadata _ _ := .ok true
  handleRequest _ ctxt req repl :=
    let repl := { repl with msgid := req.msgid, devid := req.devid, capname := req.capname }
    match harness.invocationArgs req ctxt.answers with
    | .error (.replied err) => some (.failed capabilityResponder () repl [] err)
    | .error (.thrown e) => some ⟨(), repl, [], [], .error e⟩
    | .ok vargs =>
      let answer := ctxt.answers.invoke req.devid req.capname vargs
      let invoked := [⟨req.devid, req.capname, vargs, answer⟩]
      match answer with
      | .error e =>
        some (.failed capabilityResponder () repl invoked (foxtrotRpcErrorHandling e))
      | .ok ret =>
        -- `returnval` is set before the conversion, which may throw
        match harness.getVariantWireType ret with
        | .error e =>
          some (.failed capabilityResponder () { repl with returnval := some default } invoked
            (foxtrotRpcErrorHandling e.sliceLogicError))
        | .ok wire =>
          let repl := { repl with returnval := some wire }
          some ⟨(), repl, [.finishWith repl], invoked, .ok true⟩

/-- A request is refused with an error and without an invocation, or gets to its device, whose error
is the reply's. -/
theorem process_invokeCapabilityLogic [Inhabited Wire] (harness : DeviceHarness Ty Arg Value Wire)
    (ctxt : CallContext Value) (req : CapabilityRequest Arg) (repl : CapabilityResponse Wire) :
    ∃ r, harness.invokeCapabilityLogic.process () ctxt req repl = some r ∧
      ((∃ refusal, harness.invocationArgs req ctxt.answers = .error refusal ∧ r.invoked = [] ∧
          ∃ repl', r.calls = [.finishWith repl'] ∧ repl'.err = some refusal.errstatus) ∨
        ∃ vargs, harness.invocationArgs req ctxt.answers = .ok vargs ∧ r.invoked =
            [⟨req.devid, req.capname, vargs, ctxt.answers.invoke req.devid req.capname vargs⟩] ∧
          ∀ e, ctxt.answers.invoke req.devid req.capname vargs = .error e →
            ∃ repl', r.calls = [.finishWith repl'] ∧
              repl'.err = some (foxtrotRpcErrorHandling e)) := by
  have hhandle : harness.invokeCapabilityLogic.process () ctxt req repl =
      (harness.invokeCapabilityLogic.handleRequest () ctxt req repl).map
        (Handled.caught capabilityResponder) := rfl
  rw [hhandle, DeviceHarness.invokeCapabilityLogic]
  rcases hargs : harness.invocationArgs req ctxt.answers with (err | e) | vargs
  all_goals simp only [hargs]
  · exact ⟨_, rfl, .inl ⟨_, rfl, rfl, _, rfl, rfl⟩⟩
  · exact ⟨_, rfl, .inl ⟨_, rfl, rfl, _, rfl, rfl⟩⟩
  -- the device is locked and invoked; its answer is a value with a wire type, or an error
  · rcases hans : ctxt.answers.invoke req.devid req.capname vargs with e | ret
    · refine ⟨_, rfl, .inr ⟨_, rfl, by rw [hans]; rfl, fun e' he' => ?_⟩⟩
      obtain rfl := Except.error.inj (hans.symm.trans he')
      exact ⟨_, rfl, rfl⟩
    · rcases hwire : harness.getVariantWireType ret with e | wire
      all_goals
        simp only [hwire]
        exact ⟨_, rfl, .inr ⟨_, rfl, by rw [hans]; rfl, fun _ h => nomatch hans.symm.trans h⟩⟩

/-! ### The session check -/

/-- What the queries of the session manager raise, as an exception in a handler. (They never run
into undefined behaviour.) -/
def SessionError.thrown : SessionError → Thrown
  | .outOfRange what => .outOfRange what
  | .owned _ | .undefinedBehaviour => .unspecified

/-- The look-up of the requested capability, which the check begins with. -/
def DeviceHarness.findCapability (harness : DeviceHarness Ty Arg Value Wire) (devid : UInt32)
    (capname : String) : Except Thrown (Capability Ty) :=
  match harness.getDevice devid with
  | .ok dev => dev.getCapability capname
  | .error e => .error e

/-- `check_session_needed`, for requests with a device id. -/
def checkSessionNeeded (harness : DeviceHarness Ty Arg Value Wire) (sesman : SessionManager)
    (devid : UInt32) (capname : String) : Except Thrown Bool :=
  match harness.findCapability devid capname with
  | .error e => .error e
  | .ok _ =>
    match sesman.whoOwnsDevice devid with
    | .error e => .error e.thrown
    | .ok optsession => .ok optsession.isSome

/-- The key of the secret in the metadata. -/
def sessionSecretKey : String := "session_secret-bin"

/-- `get_request_session_id`. The metadata is a multimap; the first entry of the key counts. -/
def getRequestSessionId (clientMetadata : List (String × List UInt8)) : Except Thrown Sessionid :=
  match clientMetadata.lookup sessionSecretKey with
  | none => .error (.serverError "request locked by user session, but no secret provided")
  | some bytes =>
    if h : bytes.toArray.size = 32 then .ok ⟨bytes.toArray, h⟩
    else .error (.outOfRange "invalid session secret array size")

/-- The part of `SessionHandlerMixin::check_metadata` after the parent's check. -/
def sessionCheck (harness : DeviceHarness Ty Arg Value Wire) (ctxt : CallContext Value)
    (devid : UInt32) (capname : String) : Except Thrown Bool :=
  match checkSessionNeeded harness ctxt.sessions devid capname with
  | .error e => .error e
  | .ok false => .ok true
  | .ok true =>
    match getRequestSessionId ctxt.clientMetadata with
    | .error e => .error e
    | .ok id =>
      match ctxt.sessions.sessionAuthCheckDevice id devid with
      | .error e => .error e.thrown
      | .ok true => .ok true
      | .ok false => .error (.serverError "invalid session secret")

/-- `SessionHandlerMixin`: a logic object with the session check before it. -/
def sessionHandlerMixin {State Req Reply Inv : Type} (harness : DeviceHarness Ty Arg Value Wire)
    (devid : Req → UInt32) (capname : Req → String)
    (L : Logic State (CallContext Value) Req Reply Inv) :
    Logic State (CallContext Value) Req Reply Inv :=
  { L with
    checkMetadata ctxt req :=
      match L.checkMetadata ctxt req with
      | .ok true => sessionCheck harness ctxt (devid req) (capname req)
      | parent => parent }

/-- `InvokeCapabilityWithSession`. -/
def DeviceHarness.invokeCapabilityWithSession [Inhabited Wire]
    (harness : DeviceHarness Ty Arg Value Wire) :
    Logic Unit (CallContext Value) (CapabilityRequest Arg) (CapabilityResponse Wire)
      (Invocation Value) :=
  sessionHandlerMixin harness CapabilityRequest.devid CapabilityRequest.capname
    harness.invokeCapabilityLogic

/-! ### What the check lets pass -/

section Check

variable {harness : DeviceHarness Ty Arg Value Wire} {ctxt : CallContext Value} {devid : UInt32}
  {capname : String}

/-- The secret of a request is the first entry under its key. -/
theorem getRequestSessionId_eq_ok_iff {md : List (String × List UInt8)} {id : Sessionid} :
    getRequestSessionId md = .ok id ↔ md.lookup sessionSecretKey = some id.toList := by
  rw [getRequestSessionId]
  rcases md.lookup sessionSecretKey with _ | bytes
  · simp
  · simp only [Option.some.injEq]
    constructor
    · intro h
      split at h
      · obtain rfl := Except.ok.inj h
        simp [Vector.toList]
      · cases h
    · rintro rfl
      simp [Vector.toList]

/-- Where the check passes, the capability exists. -/
theorem sessionCheck_of_findCapability_error {e : Thrown}
    (he : harness.findCapability devid capname = .error e) :
    sessionCheck harness ctxt devid capname = .error e := by
  rw [sessionCheck, checkSessionNeeded, he]

/-- **The check lets pass** exactly the requests for a capability that exists, on a device that
nobody owns or with a secret whose session lists the device. -/
theorem sessionCheck_eq_ok_iff {cap : Capability Ty}
    (hcap : harness.findCapability devid capname = .ok cap) :
    sessionCheck harness ctxt devid capname = .ok true ↔
      ∃ owner, ctxt.sessions.whoOwnsDevice devid = .ok owner ∧
        (owner = none ∨ ∃ id : Sessionid,
          ctxt.clientMetadata.lookup sessionSecretKey = some id.toList ∧
            ctxt.sessions.sessionAuthCheckDevice id devid = .ok true) := by
  rcases howner : ctxt.sessions.whoOwnsDevice devid with e | owner
  -- the look-up of the owner raises, and so does the check
  · have hneeded : checkSessionNeeded harness ctxt.sessions devid capname = .error e.thrown := by
      rw [checkSessionNeeded, hcap, howner]
    simp [sessionCheck, hneeded]
  · have hneeded : checkSessionNeeded harness ctxt.sessions devid capname = .ok owner.isSome := by
      rw [checkSessionNeeded, hcap, howner]
    rw [sessionCheck, hneeded]
    simp only [Except.ok.injEq, exists_eq_left']
    rcases owner with _ | ses
    · simp
    · simp only [Option.isSome_some, reduceCtorEq, false_or, ← getRequestSessionId_eq_ok_iff]
      rcases hid : getRequestSessionId ctxt.clientMetadata with e | id
      · simp
      · rcases hauth : ctxt.sessions.sessionAuthCheckDevice id devid with e | _ | _ <;>
          simp [hauth]

/-- The check accepts or raises; it never turns a request down silently. -/
theorem sessionCheck_ne_false : sessionCheck harness ctxt devid capname ≠ .ok false := by
  rw [sessionCheck]
  repeat' split
  all_goals simp

/-- **A request that the check stops is answered with an error and nothing else.** -/
theorem process_of_check_error [Inhabited Wire] {req : CapabilityRequest Arg} {e : Thrown}
    {repl : CapabilityResponse Wire}
    (he : sessionCheck harness ctxt req.devid req.capname = .error e) :
    harness.invokeCapabilityWithSession.process () ctxt req repl = some
      ⟨(), { repl with err := some (foxtrotRpcErrorHandling e) },
        [.finishWith { repl with err := some (foxtrotRpcErrorHandling e) }], [], true⟩ := by
  have hcheck : harness.invokeCapabilityWithSession.checkMetadata ctxt req = .error e := he
  rw [Logic.process, hcheck]
  rfl

/-- Without the capability there is no way to the device. -/
theorem prepare_of_findCapability_error {e : Thrown}
    (he : harness.findCapability devid capname = .error e) (style : CallStyle Ty Arg Value)
    (args : List Arg) (lock : Except Thrown Unit) :
    ∃ refusal, harness.prepare style devid capname args lock = .error refusal := by
  rw [DeviceHarness.findCapability] at he
  rw [DeviceHarness.prepare]
  rcases hdev : harness.getDevice devid with e' | dev
  · exact ⟨_, rfl⟩
  · have hcap : dev.getCapability capname = .error e := by
      rw [hdev] at he
      exact he
    simp only [hcap]
    exact ⟨_, rfl⟩

/-- **A request that the check lets pass** is refused with an error and without an invocation, or
gets to its device. Either way it is finished. -/
theorem process_of_check_ok [Inhabited Wire] {req : CapabilityRequest Arg}
    (hok : sessionCheck harness ctxt req.devid req.capname = .ok true)
    (repl : CapabilityResponse Wire) :
    ∃ r, harness.invokeCapabilityWithSession.process () ctxt req repl = some r ∧
      r.result = true ∧
      ((∃ refusal, harness.invocationArgs req ctxt.answers = .error refusal ∧ r.invoked = [] ∧
          ∃ repl', r.calls = [.finishWith repl'] ∧ repl'.err = some refusal.errstatus) ∨
        ∃ vargs, harness.invocationArgs req ctxt.answers = .ok vargs ∧ r.invoked =
          [⟨req.devid, req.capname, vargs, ctxt.answers.invoke req.devid req.capname vargs⟩]) := by
  have hcheck : harness.invokeCapabilityWithSession.checkMetadata ctxt req = .ok true := hok
  have hhandle : harness.invokeCapabilityWithSession.process () ctxt req repl =
      (harness.invokeCapabilityLogic.handleRequest () ctxt req repl).map
        (Handled.caught capabilityResponder) := by
    rw [Logic.process, hcheck]
    rfl
  rw [hhandle, DeviceHarness.invokeCapabilityLogic]
  rcases hargs : harness.invocationArgs req ctxt.answers with (err | e) | vargs
  all_goals simp only [hargs]
  · exact ⟨_, rfl, rfl, .inl ⟨_, rfl, rfl, _, rfl, rfl⟩⟩
  · exact ⟨_, rfl, rfl, .inl ⟨_, rfl, rfl, _, rfl, rfl⟩⟩
  -- the device is locked and invoked; its answer is a value with a wire type, or an error
  · rcases hans : ctxt.answers.invoke req.devid req.capname vargs with e | ret
    · exact ⟨_, rfl, rfl, .inr ⟨_, rfl, by rw [hans]; rfl⟩⟩
    · rcases hwire : harness.getVariantWireType ret with e | wire
      all_goals
        simp only [hwire]
        exact ⟨_, rfl, rfl, .inr ⟨_, rfl, by rw [hans]; rfl⟩⟩

end Check

end Foxtrot
