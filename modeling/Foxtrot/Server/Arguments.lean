import Foxtrot.Core.Invocation
import Foxtrot.Server.InvokeCapability
import Foxtrot.Server.StreamIsolation

/-!
# From a request to the device

A request names a capability and brings its arguments, each with a position. The handlers of
`InvokeCapability` and `FetchData` convert the arguments one after the other to the types that the
capability declares, and `Device::Invoke` converts them once more, to the types of what it carries
out, and checks their number.

The positions are not looked at: the place of an argument is its place in the message. An argument
reaches the place of its position if the message has the arguments in order, as all clients send
them. In these terms a request leads to exactly the action that its arguments call for (`Reaches`),
or it is answered with an error and nothing is done to the device (`served`). A property that can be
written is read when there is no argument.
-/

namespace Foxtrot

open Fallible

/-- `capability_argument`. -/
structure CapabilityArgument (WireVal : Type) where
  position : UInt32
  value : WireVal

/-- The devices of a server with the way they react, and the conversions. -/
structure ServedDevices (Ty WireVal Val Wire : Type) where
  devices : List (Core.Device Ty × Core.Reactions Ty Val (Returned Val))
  rttr : Core.Rttr Ty Val
  wireTypeToVariant : WireVal → Ty → Except Thrown Val
  getVariantWireType : Returned Val → Except Thrown Wire

variable {Ty WireVal Val Wire : Type}

namespace ServedDevices

section

variable [DecidableEq Ty]

/-- A device as the handlers see it. -/
def seen (S : ServedDevices Ty WireVal Val Wire) (dev : Core.Device Ty) : Device Ty where
  capability capname :=
    (dev.getCapability S.rttr.getName capname).toOption.map fun cap => ⟨cap.type, cap.argtypes⟩

/-- The harness that the handlers see. -/
def harness (S : ServedDevices Ty WireVal Val Wire) :
    DeviceHarness Ty (CapabilityArgument WireVal) Val Wire where
  devvec := S.devices.map fun d => S.seen d.1
  wireTypeToVariant arg ty := S.wireTypeToVariant arg.value ty
  getVariantWireType := S.getVariantWireType

/-- `Device::Invoke`, of the device with an id. -/
def invoke (S : ServedDevices Ty WireVal Val Wire) (devid : UInt32) (capname : String)
    (args : List Val) : List (Core.Action Ty Val) × Except Thrown (Returned Val) :=
  match S.devices[devid.toNat]? with
  | some d => d.1.invoke S.rttr d.2 capname args
  | none => ([], .error (.outOfRange "vector::_M_range_check"))

/-- What a request meets, if locking a device has these results. -/
def answers (S : ServedDevices Ty WireVal Val Wire)
    (lockDevice : UInt32 → UInt32 → Except Thrown Unit) : Answers Val where
  lockDevice := lockDevice
  invoke devid capname args := (S.invoke devid capname args).2

/-- What was done to the devices in some invocations. -/
def actions (S : ServedDevices Ty WireVal Val Wire) (invoked : List (Invocation Val)) :
    List (Core.Action Ty Val) :=
  invoked.flatMap fun v => (S.invoke v.devid v.capname v.args).1

/-- The action that the arguments of a request call for, in the order of the message. -/
inductive Reaches (S : ServedDevices Ty WireVal Val Wire) :
    Core.Invokable Ty → List (CapabilityArgument WireVal) → Core.Action Ty Val → Prop
  | read {prop : Core.Property Ty} : Reaches S (.property prop) [] (.getValue prop)
  | write {prop : Core.Property Ty} {arg : CapabilityArgument WireVal} {a v : Val}
      (hwritable : prop.readonly = false)
      (hwire : S.wireTypeToVariant arg.value prop.type = .ok a)
      (h : S.rttr.ConvertsTo a prop.type v) :
      Reaches S (.property prop) [arg] (.setValue prop v)
  | call {meth : Core.Method Ty} {args : List (CapabilityArgument WireVal)} {argvec : List Val}
      (h : Aligned (fun arg ty v => ∃ a, S.wireTypeToVariant arg.value ty = .ok a ∧
        S.rttr.ConvertsTo (S.rttr.unwrapped a) ty v) args (meth.parameters.map Prod.snd) argvec) :
      Reaches S (.method meth) args (.invokeVariadic meth argvec)

/-- The action that the arguments call for by their positions: there are as many as the capability
declares, and each has a position of its own. -/
def ReachesByPosition (S : ServedDevices Ty WireVal Val Wire) (pm : Core.Invokable Ty)
    (args : List (CapabilityArgument WireVal)) (act : Core.Action Ty Val) : Prop :=
  args.length = (pm.getCapability S.rttr.getName).argtypes.length ∧
    ∃ args', args'.Perm args ∧ args'.map (·.position.toNat) = List.range args'.length ∧
      S.Reaches pm args' act

/-- A request's device and name lead to `pm`, by reflection and in the registry. -/
def Names (S : ServedDevices Ty WireVal Val Wire) (devid : UInt32) (capname : String)
    (pm : Core.Invokable Ty) : Prop :=
  ∃ d, devid.toNat < 2 ^ 31 ∧ S.devices[devid.toNat]? = some d ∧
    d.1.getCapability S.rttr.getName capname = .ok (pm.getCapability S.rttr.getName) ∧
      d.1.invokable capname = .ok pm

/-- What an RPC makes of a request. Once it is locked, the device gets the action that the
arguments call for (`reaches`). A request that does not lead to an action is answered with an error,
by the call `send` with a reply that has one, and nothing is done to a device. An RPC that dies has
no outcome, and this happens only after the action. -/
def Served {State Reply : Type} (S : ServedDevices Ty WireVal Val Wire)
    (reaches : Core.Action Ty Val → Prop) (lock : Except Thrown Unit)
    (send : Reply → ResponderCall Reply) (err : Reply → Option Errstatus)
    (outcome : Option (Handled State Reply (Invocation Val) Bool)) : Prop :=
  (lock = .ok () ∧ ∃ act, reaches act ∧ ∀ r ∈ outcome, S.actions r.invoked = [act]) ∨
    ((lock = .ok () → ∀ act, ¬ reaches act) ∧
      ∃ r repl e, outcome = some r ∧ S.actions r.invoked = [] ∧ r.calls = [send repl] ∧
        err repl = some e)

end

end ServedDevices

/-! ### The way to the device -/

section Way

variable {Arg : Type} {harness : DeviceHarness Ty Arg Val Wire} {style : CallStyle Ty Arg Val}
  {args : List Arg} {vals : List Val} {types : List Ty}

/-- The loop of a handler converts the arguments that there are. -/
theorem convertArgs_eq_ok_iff {convert : Arg → Ty → Except Refusal Val} {tooMany : Thrown} :
    convertArgs convert tooMany args types = .ok vals ↔
      Aligned (fun arg ty val => convert arg ty = .ok val) args (types.take args.length) vals := by
  induction args generalizing types vals with
  | nil =>
    rw [convertArgs, List.length_nil, List.take_zero, Except.ok.injEq]
    constructor
    · rintro rfl
      exact .nil
    · rintro ⟨⟩
      rfl
  | cons arg args ih =>
    cases types with
    | nil => exact iff_of_false (fun h => nomatch h) fun h => nomatch h
    | cons ty types =>
      rw [convertArgs, bind_eq_ok_iff, List.length_cons, List.take_succ_cons]
      constructor
      · rintro ⟨val, hval, h⟩
        obtain ⟨vals, hvals, h⟩ := bind_eq_ok_iff.mp h
        obtain rfl := Except.ok.inj h
        exact .cons hval (ih.mp hvals)
      · intro h
        cases h with
        | cons hd tl => exact ⟨_, hd, bind_eq_ok_iff.mpr ⟨_, ih.mpr tl, rfl⟩⟩

/-- A request gets to the device when its arguments are converted and the device is locked. -/
theorem prepare_eq_ok_iff {dev : Device Ty} {cap : Capability Ty} {devid : UInt32}
    {capname : String} {lock : Except Thrown Unit} (hdev : harness.getDevice devid = .ok dev)
    (hcap : dev.getCapability capname = .ok cap) (hkind : style.wrongType cap.type = none) :
    harness.prepare style devid capname args lock = .ok vals ↔
      convertArgs style.convert style.tooManyArgs args cap.argtypes = .ok vals ∧ lock = .ok () := by
  rw [DeviceHarness.prepare]
  simp only [hdev, hcap, hkind]
  cases convertArgs style.convert style.tooManyArgs args cap.argtypes with
  | error refusal => simp
  | ok vargs =>
    cases lock with
    | error e => simp
    | ok u => simp

end Way

namespace ServedDevices

section Served

variable [DecidableEq Ty] {S : ServedDevices Ty WireVal Val Wire} {devid : UInt32}
  {capname : String} {pm : Core.Invokable Ty} {args : List (CapabilityArgument WireVal)}
  {act : Core.Action Ty Val}

/-- The two conversions of an argument, one by the handler and one by the device. -/
theorem reaches_iff {style : CallStyle Ty (CapabilityArgument WireVal) Val}
    (hconvert : ∀ arg ty val,
      style.convert arg ty = .ok val ↔ S.wireTypeToVariant arg.value ty = .ok val) :
    S.Reaches pm args act ↔ ∃ vargs,
      convertArgs style.convert style.tooManyArgs args
        (pm.getCapability S.rttr.getName).argtypes = .ok vargs ∧
          Core.Delivers S.rttr pm vargs act := by
  simp only [convertArgs_eq_ok_iff, hconvert]
  constructor
  · intro h
    cases h with
    | read => exact ⟨[], .nil, .read (.inr rfl)⟩
    | @write prop arg a v hwritable hwire h =>
      refine ⟨[a], ?_, .write hwritable h⟩
      simp only [Core.Invokable.getCapability, hwritable]
      exact .cons hwire .nil
    | @call meth args argvec h =>
      obtain ⟨vargs, hwire, hconv⟩ := aligned_comp_iff.mpr h
      refine ⟨vargs, ?_, .call hconv⟩
      rw [hwire.length_left]
      change Aligned _ args ((meth.parameters.map Prod.snd).take _) vargs
      rwa [List.take_length]
  · rintro ⟨vargs, hwire, h⟩
    cases h with
    | @read prop _ h =>
      have hnil : args = [] := by
        rcases h with hro | rfl
        · simp only [Core.Invokable.getCapability, hro, if_true, List.take_nil] at hwire
          exact List.eq_nil_of_length_eq_zero hwire.length_left
        · exact List.eq_nil_of_length_eq_zero (hwire.length_left.trans hwire.length_right.symm)
      rw [hnil]
      exact .read
    | @write prop a v hwritable h =>
      simp only [Core.Invokable.getCapability, hwritable] at hwire
      cases args with
      | nil => cases hwire
      | cons arg args =>
        cases hwire with
        | cons hd tl =>
          cases tl
          exact .write hwritable hd h
    | @call meth vargs argvec h =>
      change Aligned _ args ((meth.parameters.map Prod.snd).take _) vargs at hwire
      -- the conversion takes too few arguments, and the invocation does not
      have hlen : (meth.parameters.map Prod.snd).length ≤ args.length := by
        rw [hwire.length_left, ← hwire.length_right, h.length_left]
      rw [List.take_of_length_le hlen] at hwire
      exact .call (aligned_comp_iff.mp ⟨vargs, hwire, h⟩)

/-- **What a request leads to**, by way of its invocations. -/
theorem served_of_prepare {style : CallStyle Ty (CapabilityArgument WireVal) Val}
    (args : List (CapabilityArgument WireVal)) (lock : Except Thrown Unit) (hconvert : ∀ arg ty val,
      style.convert arg ty = .ok val ↔ S.wireTypeToVariant arg.value ty = .ok val)
    (hkind : style.wrongType (pm.getCapability S.rttr.getName).type = none)
    (hnames : S.Names devid capname pm) :
    (∃ vargs, S.harness.prepare style devid capname args lock = .ok vargs ∧ lock = .ok () ∧
        ∃ act, S.Reaches pm args act ∧ (S.invoke devid capname vargs).1 = [act]) ∨
      ((lock = .ok () → ∀ act, ¬ S.Reaches pm args act) ∧
        ((∃ refusal, S.harness.prepare style devid capname args lock = .error refusal) ∨
          ∃ vargs e, S.harness.prepare style devid capname args lock = .ok vargs ∧
            S.invoke devid capname vargs = ([], .error e))) := by
  obtain ⟨d, hid, hdev, hdescribed, hinvoked⟩ := hnames
  have hprepare : ∀ {vargs}, S.harness.prepare style devid capname args lock = .ok vargs ↔
      convertArgs style.convert style.tooManyArgs args
        (pm.getCapability S.rttr.getName).argtypes = .ok vargs ∧ lock = .ok () := by
    intro vargs
    have hfound : S.harness.getDevice devid = .ok (S.seen d.1) := by
      rw [DeviceHarness.getDevice, if_pos hid, harness, List.getElem?_map, hdev]
      rfl
    have hcap : (S.seen d.1).getCapability capname = .ok
        ⟨(pm.getCapability S.rttr.getName).type, (pm.getCapability S.rttr.getName).argtypes⟩ := by
      have hseen : (S.seen d.1).capability capname = some
          ⟨(pm.getCapability S.rttr.getName).type, (pm.getCapability S.rttr.getName).argtypes⟩ := by
        change Option.map _ (Except.toOption _) = _
        rw [hdescribed]
        rfl
      rw [Device.getCapability, hseen]
    exact prepare_eq_ok_iff hfound hcap hkind
  -- the name leads to one capability, for the description as for the invocation
  have hinvoke : ∀ vargs, S.invoke devid capname vargs = Core.invoke S.rttr d.2 pm vargs := by
    intro vargs
    rw [invoke, hdev]
    change d.1.invoke S.rttr d.2 capname vargs = _
    rw [Core.Device.invoke, hinvoked]
  simp only [reaches_iff hconvert]
  cases hargs : S.harness.prepare style devid capname args lock with
  | error refusal =>
    refine .inr ⟨fun hlock act hact => ?_, .inl ⟨refusal, rfl⟩⟩
    obtain ⟨vargs, hvargs, -⟩ := hact
    cases hargs.symm.trans (hprepare.mpr ⟨hvargs, hlock⟩)
  | ok vargs =>
    obtain ⟨hvargs, hlock⟩ := hprepare.mp hargs
    obtain ⟨act, hact, hdone⟩ | ⟨hno, e, he⟩ :=
      Core.invoke_delivers S.rttr d.2 pm vargs
    · exact .inl ⟨vargs, rfl, hlock, act, ⟨vargs, hvargs, hact⟩, (hinvoke vargs).symm ▸ hdone⟩
    · refine .inr ⟨fun _ act hact => ?_, .inr ⟨vargs, e, rfl, (hinvoke vargs).trans he⟩⟩
      obtain ⟨vargs', hvargs', hact⟩ := hact
      obtain rfl := Except.ok.inj (hvargs.symm.trans hvargs')
      exact hno act hact

/-- One invocation has its own actions. -/
theorem actions_singleton (v : Invocation Val) :
    S.actions [v] = (S.invoke v.devid v.capname v.args).1 :=
  List.flatMap_singleton ..

/-- `InvokeCapability`. -/
theorem invokeCapability_served [Inhabited Wire]
    (lockDevice : UInt32 → UInt32 → Except Thrown Unit)
    (req : CapabilityRequest (CapabilityArgument WireVal))
    (hnames : S.Names req.devid req.capname pm)
    (hkind : (pm.getCapability S.rttr.getName).type ≠ .stream) (md : List (String × List UInt8))
    (sessions : SessionManager) (repl : CapabilityResponse Wire) :
    S.Served (S.Reaches pm req.args) (lockDevice req.devid req.contentionTimeout) .finishWith
      CapabilityResponse.err
      (S.harness.invokeCapabilityLogic.process () ⟨md, sessions, S.answers lockDevice⟩ req
        repl) := by
  have hconvert : ∀ arg ty val, S.harness.invokeStyle.convert arg ty = .ok val ↔
      S.wireTypeToVariant arg.value ty = .ok val := fun _ _ _ => mapError_eq_ok_iff
  have hkind' : S.harness.invokeStyle.wrongType (pm.getCapability S.rttr.getName).type = none :=
    if_neg hkind
  obtain ⟨r, hr, hcases⟩ := process_invokeCapabilityLogic S.harness
    ⟨md, sessions, S.answers lockDevice⟩ req repl
  rw [hr]
  obtain ⟨vargs, hargs, hlock, act, hact, hdone⟩ |
      ⟨hno, ⟨refusal, hargs⟩ | ⟨vargs, e, hargs, he⟩⟩ :=
    served_of_prepare req.args (lockDevice req.devid req.contentionTimeout) hconvert hkind' hnames
  · -- the arguments convert and the device can be locked
    obtain ⟨_, hrefused, -⟩ | ⟨vargs', hargs', hinvoked, -⟩ := hcases
    · cases hrefused.symm.trans hargs
    · obtain rfl := Except.ok.inj (hargs'.symm.trans hargs)
      refine .inl ⟨hlock, act, hact, fun r' hr' => ?_⟩
      obtain rfl := Option.some.inj hr'
      rw [hinvoked, actions_singleton]
      exact hdone
  · obtain ⟨_, -, hinvoked, repl', hcalls, herr⟩ | ⟨vargs', hargs', -⟩ := hcases
    · exact .inr ⟨hno, r, repl', _, rfl, by rw [hinvoked]; rfl, hcalls, herr⟩
    · cases hargs'.symm.trans hargs
  · obtain ⟨_, hrefused, -⟩ | ⟨vargs', hargs', hinvoked, hfailed⟩ := hcases
    · cases hrefused.symm.trans hargs
    · obtain rfl := Except.ok.inj (hargs'.symm.trans hargs)
      -- the conversions succeed, but nothing is done
      obtain ⟨repl', hcalls, herr⟩ := hfailed e (congrArg Prod.snd he)
      refine .inr ⟨hno, r, repl', _, rfl, ?_, hcalls, herr⟩
      rw [hinvoked, actions_singleton]
      exact congrArg Prod.fst he

/-- `FetchData`, of an object that is not sending anything. -/
theorem fetchData_served (lockDevice : UInt32 → UInt32 → Except Thrown Unit)
    (req : ChunkRequest (CapabilityArgument WireVal)) (hnames : S.Names req.devid req.capname pm)
    (hkind : (pm.getCapability S.rttr.getName).type = .stream) {s : FetchDataLogic}
    (hs : s.thischunk = 0) (md : List (String × List UInt8)) (sessions : SessionManager)
    (repl : Datachunk) :
    S.Served (S.Reaches pm req.args) (lockDevice req.devid req.contentionTimeout) .write
      Datachunk.err
      (S.harness.fetchDataLogic.process s ⟨md, sessions, S.answers lockDevice⟩ req repl) := by
  have hconvert : ∀ arg ty val, S.harness.fetchStyle.convert arg ty = .ok val ↔
      S.wireTypeToVariant arg.value ty = .ok val := fun _ _ _ => mapError_eq_ok_iff
  have hkind' : S.harness.fetchStyle.wrongType (pm.getCapability S.rttr.getName).type = none :=
    if_pos hkind
  -- a request that is refused, by the handler or by the device
  have hrefused : ∀ refusal, S.harness.fetched req (S.answers lockDevice) = .error refusal →
      ∃ r repl' e, S.harness.fetchDataLogic.process s ⟨md, sessions, S.answers lockDevice⟩ req
          repl = some r ∧
        S.actions r.invoked =
          S.actions (S.harness.fetchInvocation req (S.answers lockDevice)).toOption.toList ∧
        r.calls = [.write repl'] ∧ repl'.err = some e := by
    intro refusal href
    obtain ⟨r, hr, -, hcalls, hinvoked, -⟩ : ∃ r, S.harness.fetchDataLogic.process s
        ⟨md, sessions, S.answers lockDevice⟩ req repl = some r ∧ _ :=
      process_of_refused hs href repl
    exact ⟨r, _, _, hr, by rw [hinvoked], hcalls, rfl⟩
  obtain ⟨vargs, hargs, hlock, act, hact, hdone⟩ |
      ⟨hno, ⟨refusal, hargs⟩ | ⟨vargs, e, hargs, he⟩⟩ :=
    served_of_prepare req.args (lockDevice req.devid req.contentionTimeout) hconvert hkind' hnames
  · refine .inl ⟨hlock, act, hact, fun r hr => ?_⟩
    have hfetch : S.harness.fetchInvocation req (S.answers lockDevice) =
        .ok ⟨req.devid, req.capname, vargs, (S.invoke req.devid req.capname vargs).2⟩ :=
      congrArg (Except.map _) hargs
    rw [process_invoked hs hr, hfetch]
    exact (actions_singleton _).trans hdone
  · have hfetch : S.harness.fetchInvocation req (S.answers lockDevice) = .error refusal :=
      congrArg (Except.map _) hargs
    have href : S.harness.fetched req (S.answers lockDevice) = .error refusal := by
      rw [DeviceHarness.fetched, hfetch]
      rfl
    obtain ⟨r, repl', e, hr, hactions, hcalls, herr⟩ := hrefused refusal href
    rw [hfetch] at hactions
    exact .inr ⟨hno, r, repl', e, hr, hactions, hcalls, herr⟩
  · have hfetch : S.harness.fetchInvocation req (S.answers lockDevice) =
        .ok ⟨req.devid, req.capname, vargs, (S.invoke req.devid req.capname vargs).2⟩ :=
      congrArg (Except.map _) hargs
    have href : S.harness.fetched req (S.answers lockDevice) = .error (.thrown e) := by
      rw [DeviceHarness.fetched, hfetch, he]
      rfl
    obtain ⟨r, repl', e, hr, hactions, hcalls, herr⟩ := hrefused _ href
    rw [hfetch] at hactions
    refine .inr ⟨hno, r, repl', e, hr, hactions.trans ?_, hcalls, herr⟩
    exact (actions_singleton _).trans (congrArg Prod.fst he)

end Served

/-- **A request leads to the action that its arguments call for**, in the order of the message, or
it is answered with an error and nothing is done to a device: with `InvokeCapability`, which always
has an outcome, and with `FetchData`, when its object is not sending anything. -/
theorem requests_served [DecidableEq Ty] [Inhabited Wire] (S : ServedDevices Ty WireVal Val Wire)
    (pm : Core.Invokable Ty) (lockDevice : UInt32 → UInt32 → Except Thrown Unit)
    (md : List (String × List UInt8)) (sessions : SessionManager) :
    (∀ (req : CapabilityRequest (CapabilityArgument WireVal)) (repl : CapabilityResponse Wire),
      S.Names req.devid req.capname pm → (pm.getCapability S.rttr.getName).type ≠ .stream →
        (S.harness.invokeCapabilityLogic.process () ⟨md, sessions, S.answers lockDevice⟩ req
            repl).isSome ∧
          S.Served (S.Reaches pm req.args) (lockDevice req.devid req.contentionTimeout) .finishWith
            CapabilityResponse.err (S.harness.invokeCapabilityLogic.process ()
              ⟨md, sessions, S.answers lockDevice⟩ req repl)) ∧
    ∀ (req : ChunkRequest (CapabilityArgument WireVal)) (repl : Datachunk) (s : FetchDataLogic),
      S.Names req.devid req.capname pm → (pm.getCapability S.rttr.getName).type = .stream →
        s.thischunk = 0 →
          S.Served (S.Reaches pm req.args) (lockDevice req.devid req.contentionTimeout) .write
            Datachunk.err (S.harness.fetchDataLogic.process s ⟨md, sessions, S.answers lockDevice⟩
              req repl) := by
  constructor
  · intro req repl hnames hkind
    obtain ⟨r, hr, -⟩ := process_invokeCapabilityLogic S.harness
      ⟨md, sessions, S.answers lockDevice⟩ req repl
    exact ⟨by rw [hr]; rfl, invokeCapability_served lockDevice req hnames hkind md sessions repl⟩
  · intro req repl s hnames hkind hs
    exact fetchData_served lockDevice req hnames hkind hs md sessions repl

/-! ### A stage -/

/-- A method of two numbers. -/
private def stageMethod (name : String) (streamdata : Bool) : Core.Method Unit :=
  ⟨0, name, (), [("channel", ()), ("position", ())], streamdata⟩

private def stageType (meth : Core.Method Unit) : Core.ReflectedType Unit :=
  ⟨[], [meth], .nil, List.nodup_singleton _⟩

private def stageDevice (meth : Core.Method Unit) : Core.Device Unit :=
  .new (fun _ => "int") (stageType meth) (stageType meth) true

/-- A server of a device with one method, whose values are numbers. -/
private def stage (meth : Core.Method Unit) : ServedDevices Unit ℕ ℕ Unit where
  devices :=
    [(stageDevice meth,
      { getValue := fun _ => .ok (.other 0)
        setValue := fun _ _ => .ok true
        invokeVariadic := fun _ _ => .ok (some (.other 0))
        voidValue := .other 0 })]
  rttr :=
    { getName := fun _ => "int"
      isValid := fun _ => true
      getType := fun _ => ()
      canConvert := fun _ _ => true
      convert := fun a _ => some a
      isWrapper := fun _ => false
      extractWrappedValue := id }
  wireTypeToVariant n _ := .ok n
  getVariantWireType _ := .ok ()

/-- The method is described and invoked under its name. -/
private theorem stage_names (meth : Core.Method Unit) :
    (stage meth).Names 0 meth.name (.method meth) := by
  have hholds : (stageDevice meth).Holds (fun _ => "int") (stageType meth)
      (stageType meth).entries :=
    Core.Device.holds_lastLoaded (stageType meth) (stageType meth) true []
  have hlen : (stageType meth).entries.length < 2 ^ 16 := by
    change 1 < 2 ^ 16
    decide
  have hconsistent : (stageDevice meth).Consistent fun _ => "int" :=
    (hholds.consistent_iff_resolves (Core.ReflectedType.nodup_entries _)).mpr fun capname =>
      ⟨rfl, fun k hk => Nat.lt_trans (List.findIdx?_eq_some_iff_getElem.mp hk).1 hlen⟩
  have hfind : ((stageType meth).entries.find? fun pm => pm.name = meth.name) =
      some (.method meth) := by
    simp [stageType, Core.ReflectedType.entries, Core.Invokable.name]
  have hdescribed : (stageDevice meth).getCapability (fun _ => "int") meth.name =
      .ok ((Core.Invokable.method meth).getCapability fun _ => "int") :=
    Core.Device.getCapability_eq_ok_iff.mpr hfind
  exact ⟨_, by decide, rfl, hdescribed, (hconsistent.invoked _ _).mpr hdescribed⟩

/-- The values are passed as they are. -/
private theorem eq_of_stage_reaches {meth : Core.Method Unit} {args : List (CapabilityArgument ℕ)}
    {act : Core.Action Unit ℕ} (h : (stage meth).Reaches (.method meth) args act) :
    act = .invokeVariadic meth (args.map CapabilityArgument.value) := by
  cases h with
  | call h =>
    congr 1
    generalize meth.parameters.map Prod.snd = types at h
    induction h with
    | nil => rfl
    | cons hd _ ih =>
      obtain ⟨a, ha, -, -, hv⟩ := hd
      obtain rfl := Except.ok.inj ha
      exact congrArg₂ List.cons hv ih

/-- No session, and a lock that is free. -/
private def freeStage (meth : Core.Method Unit) : CallContext ℕ :=
  ⟨[], ⟨∅, ∅, ∅, ∅, 0, 0⟩, (stage meth).answers fun _ _ => .ok ()⟩

theorem requests_served_stage :
    (stage (stageMethod "MoveTo" false)).Served
      ((stage (stageMethod "MoveTo" false)).Reaches (.method (stageMethod "MoveTo" false))
        [⟨0, 2⟩, ⟨1, 250⟩]) (.ok ()) .finishWith CapabilityResponse.err
      ((stage (stageMethod "MoveTo" false)).harness.invokeCapabilityLogic.process ()
        (freeStage (stageMethod "MoveTo" false)) ⟨0, 0, "MoveTo", [⟨0, 2⟩, ⟨1, 250⟩], 0⟩
        ⟨0, 0, "", none, none⟩) ∧
    (stage (stageMethod "Scan" true)).Served
      ((stage (stageMethod "Scan" true)).Reaches (.method (stageMethod "Scan" true))
        [⟨0, 2⟩, ⟨1, 250⟩]) (.ok ()) .write Datachunk.err
      ((stage (stageMethod "Scan" true)).harness.fetchDataLogic.process .new
        (freeStage (stageMethod "Scan" true)) ⟨0, 0, "Scan", [⟨0, 2⟩, ⟨1, 250⟩], 1000, 0⟩
        ⟨[], 0, 0, "", none, .ucharType⟩) :=
  ⟨((requests_served (stage (stageMethod "MoveTo" false)) (.method (stageMethod "MoveTo" false))
      (fun _ _ => .ok ()) [] _).1 ⟨0, 0, "MoveTo", [⟨0, 2⟩, ⟨1, 250⟩], 0⟩ _
      (stage_names (stageMethod "MoveTo" false)) (by decide)).2,
    (requests_served (stage (stageMethod "Scan" true)) (.method (stageMethod "Scan" true))
      (fun _ _ => .ok ()) [] _).2 ⟨0, 0, "Scan", [⟨0, 2⟩, ⟨1, 250⟩], 1000, 0⟩ _ .new
      (stage_names (stageMethod "Scan" true)) rfl rfl⟩

/-- The arguments stand in the message in the other order, and the device moves channel 250 to the
position 2. -/
theorem not_requests_served_byPosition :
    ¬ ∀ (S : ServedDevices Unit ℕ ℕ Unit) (pm : Core.Invokable Unit)
      (lockDevice : UInt32 → UInt32 → Except Thrown Unit) (md : List (String × List UInt8))
      (sessions : SessionManager) (req : CapabilityRequest (CapabilityArgument ℕ))
      (repl : CapabilityResponse Unit), S.Names req.devid req.capname pm →
        (pm.getCapability S.rttr.getName).type ≠ .stream →
          S.Served (S.ReachesByPosition pm req.args) (lockDevice req.devid req.contentionTimeout)
            .finishWith CapabilityResponse.err (S.harness.invokeCapabilityLogic.process ()
              ⟨md, sessions, S.answers lockDevice⟩ req repl) := by
  intro hall
  have hserved := hall (stage (stageMethod "MoveTo" false)) (.method (stageMethod "MoveTo" false))
    (fun _ _ => .ok ()) [] ⟨∅, ∅, ∅, ∅, 0, 0⟩ ⟨0, 0, "MoveTo", [⟨1, 250⟩, ⟨0, 2⟩], 0⟩
    ⟨0, 0, "", none, none⟩ (stage_names (stageMethod "MoveTo" false)) (by decide)
  have hbyPosition : (stage (stageMethod "MoveTo" false)).ReachesByPosition
      (.method (stageMethod "MoveTo" false)) [⟨1, 250⟩, ⟨0, 2⟩]
      (.invokeVariadic (stageMethod "MoveTo" false) [2, 250]) :=
    ⟨rfl, [⟨0, 2⟩, ⟨1, 250⟩], .swap _ _ _, rfl,
      .call (.cons ⟨2, rfl, rfl, rfl, rfl⟩ (.cons ⟨250, rfl, rfl, rfl, rfl⟩ .nil))⟩
  have hinOrder : (stage (stageMethod "MoveTo" false)).Reaches
      (.method (stageMethod "MoveTo" false)) [⟨1, 250⟩, ⟨0, 2⟩]
      (.invokeVariadic (stageMethod "MoveTo" false) [250, 2]) :=
    .call (.cons ⟨250, rfl, rfl, rfl, rfl⟩ (.cons ⟨2, rfl, rfl, rfl, rfl⟩ .nil))
  obtain ⟨r, hr, -⟩ := process_invokeCapabilityLogic (stage (stageMethod "MoveTo" false)).harness
    (freeStage (stageMethod "MoveTo" false)) ⟨0, 0, "MoveTo", [⟨1, 250⟩, ⟨0, 2⟩], 0⟩
    ⟨0, 0, "", none, none⟩
  obtain ⟨-, act, ⟨-, args', hperm, hpos, hreach⟩, hdone⟩ | ⟨hno, -⟩ := hserved
  · obtain ⟨-, act', hreach', hdone'⟩ | ⟨hno', -⟩ := invokeCapability_served
      (fun _ _ => .ok ()) ⟨0, 0, "MoveTo", [⟨1, 250⟩, ⟨0, 2⟩], 0⟩
      (stage_names (stageMethod "MoveTo" false)) (by decide) [] ⟨∅, ∅, ∅, ∅, 0, 0⟩
      ⟨0, 0, "", none, none⟩
    · obtain rfl := List.singleton_inj.mp ((hdone r hr).symm.trans (hdone' r hr))
      have hvalues := (eq_of_stage_reaches hreach).symm.trans (eq_of_stage_reaches hreach')
      obtain ⟨a, b, rfl⟩ := List.length_eq_two.mp hperm.length_eq
      obtain rfl | rfl : a = ⟨1, 250⟩ ∨ a = ⟨0, 2⟩ := by
        simpa using hperm.subset (List.mem_cons_self ..)
      · cases hpos
      · cases hvalues
    · exact hno' rfl _ hinOrder
  · exact hno rfl _ hbyPosition

end ServedDevices

end Foxtrot
