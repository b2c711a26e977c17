import Foxtrot.Server.Arguments
import Foxtrot.Wire.Messages

/-!
# What `InvokeCapability` does to devices that change

`LiveDevices` are the devices of a server in all their states: how they react, and how values and
messages become each other, depends on the state. A request of `InvokeCapability` that finds them in
a state passes the session check, the handler and `Device::Invoke`.

**A request is an action, or it is refused** (`invokeCapability_settles`). If it calls for an action
and is admitted (`LiveDevices.Calls`), this action is done, once, and the reply says what the device
makes of it (`LiveDevices.answer`). If not, nothing is done, and the reply has an error.

The stub is put together from the parts that are modelled elsewhere: the session check of the mixin,
the logic object, which converts the arguments and takes the lock, and `Device::Invoke`, which
converts them once more. `invokeCapability_settles` follows the request through them; at each place
where it can be refused nothing has been done yet, and behind the last of them the device does what
is called for.
-/

namespace Foxtrot

open Fallible

/-- What an action comes to. -/
def Core.Reactions.result {Ty Val Ret : Type} (react : Core.Reactions Ty Val Ret) :
    Core.Action Ty Val → Except Thrown Ret
  | .getValue prop => react.getValue prop
  | .setValue prop arg => do
    if ← react.setValue prop arg then return react.voidValue
    else .error (.exception "failed to set property!")
  | .invokeVariadic meth args => do
    match ← react.invokeVariadic meth args with
    | some out => return out
    | none => .error (.exception "failed to invoke method!")

/-- The message that nothing has been read into. -/
instance FtVariant.inhabited : Inhabited FtVariant := ⟨.notSet⟩

/-- The devices of a server, in all their states. -/
structure LiveDevices (W Ty Val : Type) where
  devices : List (Core.Device Ty)
  rttr : Core.Rttr Ty Val
  wireTypeToVariant : W → FtVariant → Ty → Except Thrown Val
  getVariantWireType : W → Returned Val → Except Thrown FtVariant
  /-- How the device with an id reacts. -/
  reactions : W → ℕ → Core.Reactions Ty Val (Returned Val)
  /-- The state after an action on the device with an id. -/
  after : W → ℕ → Core.Action Ty Val → W

/-- What a request meets but the devices. -/
structure CallMeets where
  sessions : SessionManager
  /-- `lock_device_contentious`, of a device id and a timeout. -/
  lockDevice : UInt32 → UInt32 → Except Thrown Unit

namespace LiveDevices

variable {W Ty Val : Type} (L : LiveDevices W Ty Val)

/-- The devices as they are in a state. -/
def served (w : W) : ServedDevices Ty FtVariant Val FtVariant where
  devices := L.devices.mapIdx fun i dev => (dev, L.reactions w i)
  rttr := L.rttr
  wireTypeToVariant := L.wireTypeToVariant w
  getVariantWireType := L.getVariantWireType w

/-- The state after these actions on a device. -/
def afterAll (w : W) (devid : UInt32) (acts : List (Core.Action Ty Val)) : W :=
  acts.foldl (fun w act => L.after w devid.toNat act) w

/-- A device's id and a name lead to `pm`, by reflection and in the registry. -/
def Names (devid : UInt32) (capname : String) (pm : Core.Invokable Ty) : Prop :=
  ∃ dev, devid.toNat < 2 ^ 31 ∧ L.devices[devid.toNat]? = some dev ∧
    dev.getCapability L.rttr.getName capname = .ok (pm.getCapability L.rttr.getName) ∧
      dev.invokable capname = .ok pm

/-- What is described is what is invoked, in all devices. -/
def Consistent : Prop :=
  ∀ dev ∈ L.devices, dev.Consistent L.rttr.getName

/-- What a reply says of an action: the value, or an error. -/
def answer (w : W) (devid : UInt32) (act : Core.Action Ty Val) : Except Errstatus FtVariant := do
  let ret ← ((L.reactions w devid.toNat).result act).mapError foxtrotRpcErrorHandling
  (L.getVariantWireType w ret).mapError fun e => foxtrotRpcErrorHandling e.sliceLogicError

section Stub

variable [DecidableEq Ty]

/-- What a request meets, in a state of the devices. -/
def context (w : W) (env : CallMeets) (md : List (String × List UInt8)) : CallContext Val :=
  ⟨md, env.sessions, (L.served w).answers env.lockDevice⟩

/-- The stub of `InvokeCapability`: what is done to the device, and the reply. -/
def invokeCapability (w : W) (env : CallMeets) (md : List (String × List UInt8))
    (req : CapabilityRequest (CapabilityArgument FtVariant)) :
    Option (List (Core.Action Ty Val) × CapabilityResponse FtVariant) := do
  let logic := (L.served w).harness.invokeCapabilityWithSession
  let r ← logic.process () (L.context w env md) req logic.emptyReply
  match r.calls with
  | [.finishWith repl] => some ((L.served w).actions r.invoked, repl)
  | _ => none

end Stub

end LiveDevices

/-! ### Requests that are actions -/

/-- The device is free, or the secret in the metadata is that of a session with the device. -/
def CallMeets.Admits (env : CallMeets) (md : List (String × List UInt8)) (devid : UInt32) : Prop :=
  ∃ owner, env.sessions.whoOwnsDevice devid = .ok owner ∧ (owner = none ∨
    ∃ id : Sessionid, md.lookup sessionSecretKey = some id.toList ∧
      env.sessions.sessionAuthCheckDevice id devid = .ok true)

/-- A request is admitted, and its arguments call for an action. -/
structure LiveDevices.Calls {W Ty Val : Type} [DecidableEq Ty] (L : LiveDevices W Ty Val) (w : W)
    (env : CallMeets) (md : List (String × List UInt8))
    (req : CapabilityRequest (CapabilityArgument FtVariant)) (act : Core.Action Ty Val) :
    Prop where
  reaches : ∃ pm, L.Names req.devid req.capname pm ∧
    (pm.getCapability L.rttr.getName).type ≠ .stream ∧ (L.served w).Reaches pm req.args act
  admitted : env.Admits md req.devid
  locked : env.lockDevice req.devid req.contentionTimeout = .ok ()

/-- A reply says this. -/
def CapabilityResponse.Says {Wire : Type} (repl : CapabilityResponse Wire) :
    Except Errstatus Wire → Prop
  | .ok wire => repl.err = none ∧ repl.returnval = some wire
  | .error err => repl.err = some err

/-- A reply that says no more than this. -/
def CapabilityResponse.saying {Wire : Type} : Except Errstatus Wire → CapabilityResponse Wire
  | .ok wire => ⟨0, 0, "", some wire, none⟩
  | .error err => ⟨0, 0, "", none, some err⟩

/-- What was done for a request, and its reply: the action that it calls for, and what the device
makes of it, or nothing, and an error. -/
def LiveDevices.Settles {W Ty Val : Type} [DecidableEq Ty] (L : LiveDevices W Ty Val) (w : W)
    (env : CallMeets) (md : List (String × List UInt8))
    (req : CapabilityRequest (CapabilityArgument FtVariant)) (done : List (Core.Action Ty Val))
    (repl : CapabilityResponse FtVariant) : Prop :=
  (∃ act, L.Calls w env md req act ∧ done = [act] ∧ repl.Says (L.answer w req.devid act)) ∨
    ((∀ act, ¬ L.Calls w env md req act) ∧ done = [] ∧ repl.err ≠ none)

section Reply

variable {Ty Arg Val Ret Wire : Type} {harness : DeviceHarness Ty Arg Val Wire}
  {ctxt : CallContext Val}

/-- **The outcome of an invocation is that of its action.** -/
theorem Core.invoke_result [DecidableEq Ty] {rttr : Core.Rttr Ty Val}
    {react : Core.Reactions Ty Val Ret} {pm : Core.Invokable Ty} {args : List Val}
    {act : Core.Action Ty Val} (h : (Core.invoke rttr react pm args).1 = [act]) :
    (Core.invoke rttr react pm args).2 = react.result act := by
  cases pm with
  | property prop =>
    change (invokeProperty rttr react prop args).1 = _ at h
    change (invokeProperty rttr react prop args).2 = _
    revert h
    fun_cases invokeProperty rttr react prop args <;> intro h <;> cases h <;> rfl
  | method meth =>
    change (invokeMethod rttr react meth args).1 = _ at h
    change (invokeMethod rttr react meth args).2 = _
    revert h
    fun_cases invokeMethod rttr react meth args <;> intro h <;> cases h
    rfl

/-- What is prepared is of the right kind. -/
theorem prepare_kind {style : CallStyle Ty Arg Val} {devid : UInt32} {capname : String}
    {args : List Arg} {lock : Except Thrown Unit} {cap : Capability Ty} {vargs : List Val}
    (hcap : harness.findCapability devid capname = .ok cap)
    (h : harness.prepare style devid capname args lock = .ok vargs) :
    style.wrongType cap.type = none := by
  rw [DeviceHarness.findCapability] at hcap
  rw [DeviceHarness.prepare] at h
  cases hdev : harness.getDevice devid with
  | error e =>
    rw [hdev] at hcap
    cases hcap
  | ok dev =>
    simp only [hdev] at hcap h
    simp only [hcap] at h
    cases hkind : style.wrongType cap.type with
    | none => rfl
    | some msg =>
      rw [hkind] at h
      cases h

/-- What the reply says of what an invocation has returned. -/
def DeviceHarness.said (harness : DeviceHarness Ty Arg Val Wire)
    (ans : Except Thrown (Returned Val)) : Except Errstatus Wire := do
  let ret ← ans.mapError foxtrotRpcErrorHandling
  (harness.getVariantWireType ret).mapError fun e => foxtrotRpcErrorHandling e.sliceLogicError

/-- Behind the session check is the logic object without one. -/
theorem process_invokeCapabilityWithSession [Inhabited Wire] {req : CapabilityRequest Arg}
    (hok : sessionCheck harness ctxt req.devid req.capname = .ok true)
    (repl : CapabilityResponse Wire) :
    harness.invokeCapabilityWithSession.process () ctxt req repl =
      harness.invokeCapabilityLogic.process () ctxt req repl := by
  have hcheck : harness.invokeCapabilityWithSession.checkMetadata ctxt req = .ok true := hok
  rw [Logic.process, hcheck]
  rfl

/-- A request that gets to its device is replied to with what it has returned. -/
theorem process_of_invocationArgs [Inhabited Wire] {req : CapabilityRequest Arg}
    {vargs : List Val} (hargs : harness.invocationArgs req ctxt.answers = .ok vargs)
    (repl : CapabilityResponse Wire) (herr : repl.err = none) :
    ∃ r repl', harness.invokeCapabilityLogic.process () ctxt req repl = some r ∧
      r.calls = [.finishWith repl'] ∧ r.invoked =
        [⟨req.devid, req.capname, vargs, ctxt.answers.invoke req.devid req.capname vargs⟩] ∧
      repl'.Says (harness.said (ctxt.answers.invoke req.devid req.capname vargs)) := by
  have hhandle : harness.invokeCapabilityLogic.process () ctxt req repl =
      (harness.invokeCapabilityLogic.handleRequest () ctxt req repl).map
        (Handled.caught capabilityResponder) := rfl
  rw [hhandle, DeviceHarness.invokeCapabilityLogic]
  simp only [hargs]
  rcases ctxt.answers.invoke req.devid req.capname vargs with e | ret
  · exact ⟨_, _, rfl, rfl, rfl, rfl⟩
  · rcases hwire : harness.getVariantWireType ret with e | wire
    · simp only [hwire]
      refine ⟨_, _, rfl, rfl, rfl, ?_⟩
      have hsaid : harness.said (.ok ret) =
          .error (foxtrotRpcErrorHandling e.sliceLogicError) := by
        change (harness.getVariantWireType ret).mapError _ = _
        rw [hwire]
        rfl
      rw [hsaid]
      rfl
    · simp only [hwire]
      refine ⟨_, _, rfl, rfl, rfl, ?_⟩
      have hsaid : harness.said (.ok ret) = .ok wire := by
        change (harness.getVariantWireType ret).mapError _ = _
        rw [hwire]
        rfl
      rw [hsaid]
      exact ⟨herr, rfl⟩

end Reply

/-- What is described is a property or a method. -/
theorem Core.Device.exists_of_getCapability {Ty : Type} {getName : Ty → String}
    {dev : Core.Device Ty} {capname : String} {cap : Core.Capability Ty (Core.Invokable Ty)}
    (h : dev.getCapability getName capname = .ok cap) :
    ∃ pm : Core.Invokable Ty, cap = pm.getCapability getName := by
  rw [getCapability] at h
  split at h
  · exact ⟨_, (Except.ok.inj h).symm⟩
  · exact ⟨_, (Except.ok.inj h).symm⟩
  · cases h

/-- A device is consistent if its constructor finds all of a type, and that is not too much. -/
theorem Core.Device.consistent_new {Ty : Type} (getName : Ty → String)
    (reflecttp : Core.ReflectedType Ty) (hlen : reflecttp.entries.length < 2 ^ 16) :
    (Core.Device.new getName reflecttp reflecttp true).Consistent getName := by
  have hholds : (Core.Device.new getName reflecttp reflecttp true).Holds getName reflecttp
      reflecttp.entries := Core.Device.holds_lastLoaded reflecttp reflecttp true []
  refine (hholds.consistent_iff_resolves reflecttp.nodup_entries).mpr fun capname =>
    ⟨rfl, fun k hk => ?_⟩
  exact Nat.lt_trans (List.findIdx?_eq_some_iff_getElem.mp hk).1 hlen

namespace LiveDevices

section Cases

variable {W Ty Val : Type} {L : LiveDevices W Ty Val} {w : W} {env : CallMeets}
  {md : List (String × List UInt8)} {req : CapabilityRequest (CapabilityArgument FtVariant)}
  {devid : UInt32} {capname : String} {pm : Core.Invokable Ty}

private theorem getElem?_served (w : W) (i : ℕ) : (L.served w).devices[i]? =
    L.devices[i]?.map fun dev => (dev, L.reactions w i) := by
  rw [served, List.getElem?_mapIdx]

private theorem served_names_iff :
    (L.served w).Names devid capname pm ↔ L.Names devid capname pm := by
  rw [ServedDevices.Names, Names]
  simp only [getElem?_served, Option.map_eq_some_iff]
  constructor
  · rintro ⟨_, hid, ⟨dev, hdev, rfl⟩, hdescribed, hinvoked⟩
    exact ⟨dev, hid, hdev, hdescribed, hinvoked⟩
  · rintro ⟨dev, hid, hdev, hdescribed, hinvoked⟩
    exact ⟨_, hid, ⟨dev, hdev, rfl⟩, hdescribed, hinvoked⟩

/-- A name leads to one capability. -/
theorem Names.unique {pm' : Core.Invokable Ty} (h : L.Names devid capname pm)
    (h' : L.Names devid capname pm') : pm = pm' := by
  obtain ⟨dev, -, hdev, -, hinvoked⟩ := h
  obtain ⟨dev', -, hdev', -, hinvoked'⟩ := h'
  obtain rfl := Option.some.inj (hdev.symm.trans hdev')
  exact Except.ok.inj (hinvoked.symm.trans hinvoked')

/-- What the handlers find under a name. -/
theorem findCapability_eq_ok_iff (hL : L.Consistent) {cap : Capability Ty} :
    (L.served w).harness.findCapability devid capname = .ok cap ↔
      ∃ pm, L.Names devid capname pm ∧ cap = ⟨(pm.getCapability L.rttr.getName).type,
        (pm.getCapability L.rttr.getName).argtypes⟩ := by
  have hfind : (L.served w).harness.findCapability devid capname =
      match if devid.toNat < 2 ^ 31 then L.devices[devid.toNat]? else none with
      | some dev => ((L.served w).seen dev).getCapability capname
      | none => .error (.outOfRange "vector::_M_range_check") := by
    rw [DeviceHarness.findCapability, DeviceHarness.getDevice, ServedDevices.harness,
      List.getElem?_map, getElem?_served]
    split_ifs
    · cases L.devices[devid.toNat]? <;> rfl
    · rfl
  simp only [hfind, Names]
  split_ifs with hid
  · cases hdev : L.devices[devid.toNat]? with
    | none => simp
    | some dev =>
      have hseen : ((L.served w).seen dev).capability capname =
          (dev.getCapability L.rttr.getName capname).toOption.map fun cap =>
            ⟨cap.type, cap.argtypes⟩ := rfl
      simp only [Device.getCapability, hseen, Option.some.injEq]
      constructor
      · intro hcap
        cases hdescribed : dev.getCapability L.rttr.getName capname with
        | error e =>
          rw [hdescribed] at hcap
          cases hcap
        | ok cap' =>
          obtain ⟨pm, rfl⟩ := Core.Device.exists_of_getCapability hdescribed
          -- what is described is what is invoked, since the device is consistent
          have hinvoked := ((hL dev (List.mem_of_getElem? hdev)).invoked capname pm).mpr hdescribed
          rw [hdescribed] at hcap
          exact ⟨pm, ⟨dev, hid, rfl, hdescribed, hinvoked⟩, (Except.ok.inj hcap).symm⟩
      · rintro ⟨pm, ⟨_, -, rfl, hdescribed, -⟩, rfl⟩
        rw [hdescribed]
        rfl
  · refine iff_of_false (by simp) ?_
    rintro ⟨_, ⟨_, hlt, _⟩, _⟩
    exact hid hlt

variable [DecidableEq Ty]

/-- What the reply of the stub is read off. -/
theorem invokeCapability_eq {r : Handled Unit (CapabilityResponse FtVariant) (Invocation Val) Bool}
    {repl : CapabilityResponse FtVariant}
    (hr : (L.served w).harness.invokeCapabilityWithSession.process () (L.context w env md) req
      ⟨0, 0, "", none, none⟩ = some r) (hcalls : r.calls = [.finishWith repl]) :
    L.invokeCapability w env md req = some ((L.served w).actions r.invoked, repl) := by
  refine Option.bind_eq_some_iff.mpr ⟨r, hr, ?_⟩
  rw [hcalls]

/-- What an invocation that does something has returned. -/
theorem said_of_invoke (hnames : L.Names devid capname pm) {vargs : List Val}
    {act : Core.Action Ty Val} (hact : ((L.served w).invoke devid capname vargs).1 = [act]) :
    (L.served w).harness.said ((L.served w).invoke devid capname vargs).2 =
      L.answer w devid act := by
  obtain ⟨dev, -, hdev, -, hinvoked⟩ := hnames
  have hinvoke : (L.served w).invoke devid capname vargs =
      Core.invoke L.rttr (L.reactions w devid.toNat) pm vargs := by
    rw [ServedDevices.invoke, getElem?_served, hdev]
    change dev.invoke L.rttr _ capname vargs = _
    rw [Core.Device.invoke, hinvoked]
  rw [hinvoke] at hact ⊢
  rw [Core.invoke_result hact]
  rfl

/-- A request that is admitted. -/
theorem settles_of_admitted (hL : L.Consistent) (hnames : L.Names req.devid req.capname pm)
    (hadmitted : env.Admits md req.devid)
    (hcheck : sessionCheck (L.served w).harness (L.context w env md) req.devid req.capname =
      .ok true) :
    ∃ done repl, L.invokeCapability w env md req = some (done, repl) ∧
      L.Settles w env md req done repl := by
  have hprocess : ∀ repl, (L.served w).harness.invokeCapabilityWithSession.process ()
      (L.context w env md) req repl = (L.served w).harness.invokeCapabilityLogic.process ()
        (L.context w env md) req repl := process_invokeCapabilityWithSession hcheck
  obtain ⟨r, hr, hcases⟩ := process_invokeCapabilityLogic (L.served w).harness (L.context w env md)
    req ⟨0, 0, "", none, none⟩
  have hcall {repl : CapabilityResponse FtVariant} (hcalls : r.calls = [.finishWith repl]) :=
    invokeCapability_eq ((hprocess _).trans hr) hcalls
  have hserved : (L.served w).Names req.devid req.capname pm := served_names_iff.mpr hnames
  by_cases hkind : (pm.getCapability L.rttr.getName).type = .stream
  · obtain ⟨refusal, -, hinvoked, repl, hcalls, herr⟩ | ⟨vargs, hargs, -⟩ := hcases
    · refine ⟨_, _, hcall hcalls, .inr ⟨?_, by rw [hinvoked]; rfl, by simp [herr]⟩⟩
      rintro act ⟨⟨pm', hnames', hne, -⟩, -, -⟩
      exact hne (hnames.unique hnames' ▸ hkind)
    -- a stream is not prepared by this handler
    · have hcap : (L.served w).harness.findCapability req.devid req.capname = _ :=
        (findCapability_eq_ok_iff hL).mpr ⟨pm, hnames, rfl⟩
      have hnone := prepare_kind hcap hargs
      cases (if_pos hkind).symm.trans hnone
  · obtain ⟨hlock, act, hreach, hdone⟩ | ⟨hno, r', repl, e, hr', hactions, hcalls, herr⟩ :=
      ServedDevices.invokeCapability_served env.lockDevice req hserved hkind md env.sessions
        ⟨0, 0, "", none, none⟩
    · obtain ⟨refusal, -, hinvoked, -⟩ | ⟨vargs, hargs, -⟩ := hcases
      · have hnil := hdone r hr
        rw [hinvoked] at hnil
        cases hnil
      · obtain ⟨r', repl, hr', hcalls, hinvoked, hsays⟩ := process_of_invocationArgs hargs
          ⟨0, 0, "", none, none⟩ rfl
        obtain rfl := Option.some.inj (hr.symm.trans hr')
        have hact := hdone r hr
        refine ⟨_, _, hcall hcalls, .inl ⟨act, ⟨⟨pm, hnames, hkind, hreach⟩, hadmitted, hlock⟩,
          hact, ?_⟩⟩
        rw [hinvoked, ServedDevices.actions_singleton] at hact
        exact said_of_invoke hnames hact ▸ hsays
    · obtain rfl := Option.some.inj (hr.symm.trans hr')
      refine ⟨_, _, hcall hcalls, .inr ⟨?_, hactions, by simp [herr]⟩⟩
      rintro act ⟨⟨pm', hnames', -, hreach⟩, -, hlocked⟩
      exact hno hlocked act (hnames.unique hnames' ▸ hreach)

/-- **A request is an action, or it is refused.** -/
theorem invokeCapability_settles (hL : L.Consistent) :
    ∃ done repl, L.invokeCapability w env md req = some (done, repl) ∧
      L.Settles w env md req done repl := by
  cases hcap : (L.served w).harness.findCapability req.devid req.capname with
  -- there is no such capability
  | error e =>
    have he : sessionCheck _ (L.context w env md) _ _ = _ :=
      sessionCheck_of_findCapability_error hcap
    refine ⟨_, _, invokeCapability_eq (process_of_check_error he) rfl, .inr ⟨?_, rfl, ?_⟩⟩
    · rintro act ⟨⟨pm, hnames, -⟩, -, -⟩
      cases hcap.symm.trans ((findCapability_eq_ok_iff hL).mpr ⟨pm, hnames, rfl⟩)
    · exact Option.some_ne_none _
  | ok cap =>
    obtain ⟨pm, hnames, rfl⟩ := (findCapability_eq_ok_iff hL).mp hcap
    have hadmits : sessionCheck (L.served w).harness (L.context w env md) req.devid req.capname =
        .ok true ↔ env.Admits md req.devid := sessionCheck_eq_ok_iff hcap
    cases hcheck : sessionCheck (L.served w).harness (L.context w env md) req.devid
        req.capname with
    | error e =>
      refine ⟨_, _, invokeCapability_eq (process_of_check_error hcheck) rfl, .inr ⟨?_, rfl, ?_⟩⟩
      · rintro act ⟨-, hadmitted, -⟩
        cases hcheck.symm.trans (hadmits.mpr hadmitted)
      · exact Option.some_ne_none _
    | ok passed =>
      obtain rfl : passed = true := by
        cases passed with
        | true => rfl
        | false => exact absurd hcheck sessionCheck_ne_false
      exact settles_of_admitted hL hnames (hadmits.mp hcheck) hcheck

end Cases

end LiveDevices

end Foxtrot
