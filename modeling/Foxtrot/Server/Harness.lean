import Foxtrot.Server.Handler
import Foxtrot.Session.Manager
import Foxtrot.Wire.ByteArray

/-!
# Devices and the way to them

The handlers of `InvokeCapability` and `FetchData` go the same way to a device: find it in the
`DeviceHarness`, find the capability by reflection, refuse the wrong kind of capability, convert
the arguments to the types the capability wants, lock the device, and invoke. They differ in
texts, in which kinds they refuse, and in whether an exception is replied to at once or left to
`HandlerBase::Proceed`; this is a `CallStyle`, and `DeviceHarness.prepare` is the way up to the
invocation.

What lies outside is taken as given: the reflected capabilities of the devices and the
conversions between wire types and variants are part of the harness, and what a device answers
when it is locked and invoked is part of the `CallContext` of a request, which also has the
request's metadata and the session manager as the request finds it.

`byteViewData` gives the bytes of a returned vector with the tag of its element type.
-/

namespace Foxtrot

/-- `CapabilityType`. -/
inductive CapabilityType where
  | valueReadonly
  | valueReadwrite
  | action
  | stream
  | construct
  deriving DecidableEq

/-- `Capability`, as far as the handlers read it. -/
structure Capability (Ty : Type) where
  type : CapabilityType
  argtypes : List Ty

/-- A device: its capabilities by name, as reflection shows them. -/
structure Device (Ty : Type) where
  capability : String → Option (Capability Ty)

/-- What an invocation returns: a vector of numbers, an array of higher rank, or another value. -/
inductive Returned (Value : Type) where
  | vector (tp : ElemType) (vals : List tp.Raw)
  | nested
  | other (val : Value)

/-- The devices of a server, and the conversions of arguments and of returned values. -/
structure DeviceHarness (Ty Arg Value Wire : Type) where
  devvec : List (Device Ty)
  wireTypeToVariant : Arg → Ty → Except Thrown Value
  getVariantWireType : Returned Value → Except Thrown Wire

/-- What a device answers when it is locked and invoked. -/
structure Answers (Value : Type) where
  /-- `lock_device_contentious`, of a device id and a timeout. -/
  lockDevice : UInt32 → UInt32 → Except Thrown Unit
  /-- `Device::Invoke`, of a device id, a capability name and arguments. -/
  invoke : UInt32 → String → List Value → Except Thrown (Returned Value)

/-- What a request meets when it is handled: its metadata, the sessions, and the devices. -/
structure CallContext (Value : Type) where
  clientMetadata : List (String × List UInt8)
  sessions : SessionManager
  answers : Answers Value

/-- An invocation of a device, with its answer. -/
structure Invocation (Value : Type) where
  devid : UInt32
  capname : String
  args : List Value
  answer : Except Thrown (Returned Value)

/-- How a request ends before it is served. -/
inductive Refusal where
  /-- An error reply is sent, and `HandleRequest` returns `true`. -/
  | replied (err : Errstatus)
  /-- An exception leaves `HandleRequest`. -/
  | thrown (e : Thrown)
  deriving DecidableEq

/-- The error the client gets to see. -/
def Refusal.errstatus : Refusal → Errstatus
  | .replied err => err
  | .thrown e => foxtrotRpcErrorHandling e

/-! ### The way to a device -/

variable {Ty Arg Value Wire : Type}

/-- `DeviceHarness::GetDevice`. The id is converted to `int` and then to an index, so the upper
half of the ids is out of range like any other. -/
def DeviceHarness.getDevice (harness : DeviceHarness Ty Arg Value Wire) (devid : UInt32) :
    Except Thrown (Device Ty) :=
  match if devid.toNat < 2 ^ 31 then harness.devvec[devid.toNat]? else none with
  | some dev => .ok dev
  | none => .error (.outOfRange "vector::_M_range_check")

/-- `Device::GetCapability`. -/
def Device.getCapability (dev : Device Ty) (capname : String) : Except Thrown (Capability Ty) :=
  match dev.capability capname with
  | some cap => .ok cap
  | none => .error (.outOfRange "requested capability doesn't seem to exist!")

/-- The loop over the arguments: each is converted to the type that stands at its place. -/
def convertArgs (convert : Arg → Ty → Except Refusal Value) (tooMany : Thrown) :
    List Arg → List Ty → Except Refusal (List Value)
  | [], _ => .ok []
  | _ :: _, [] => .error (.thrown tooMany)
  | arg :: args, ty :: tys => do
    let val ← convert arg ty
    let vals ← convertArgs convert tooMany args tys
    return val :: vals

/-- What two RPCs do differently on the way to a device. -/
structure CallStyle (Ty Arg Value : Type) where
  invalidDevice : String
  /-- The text with which capabilities of a type are refused, before the capability's name. -/
  wrongType : CapabilityType → Option String
  tooManyArgs : Thrown
  convert : Arg → Ty → Except Refusal Value
  lockFailed : Thrown → Refusal

/-- From the request to the invocation: the converted arguments, with the device locked. -/
def DeviceHarness.prepare (harness : DeviceHarness Ty Arg Value Wire)
    (style : CallStyle Ty Arg Value) (devid : UInt32) (capname : String) (args : List Arg)
    (lock : Except Thrown Unit) : Except Refusal (List Value) :=
  match harness.getDevice devid with
  | .error _ => .error (.replied ⟨.outOfRange, style.invalidDevice⟩)
  | .ok dev =>
    match dev.getCapability capname with
    | .error e => .error (.thrown e)
    | .ok cap =>
      match style.wrongType cap.type with
      | some msg => .error (.replied ⟨.ftServerError, msg ++ capname⟩)
      | none =>
        match convertArgs style.convert style.tooManyArgs args cap.argtypes with
        | .error refusal => .error refusal
        | .ok vargs =>
          match lock with
          | .error e => .error (style.lockFailed e)
          | .ok () => .ok vargs

/-! ### Returned vectors -/

/-- `is_sequential_container`. -/
def Returned.isSequentialContainer : Returned Value → Bool
  | .vector _ _ | .nested => true
  | .other _ => false

/-- `byte_view_data`, on a sequential container. Its buffer is never null. -/
def byteViewData : Returned Value → Except Thrown (ByteDataTypes × List UInt8)
  | .vector tp vals =>
    match getByteDataType tp with
    | .error what => .error (.exception what)
    | .ok dt =>
      match variantToBytes vals with
      | .error what => .error (.exception what)
      | .ok dat => .ok (dt, dat)
  | .nested => .error (.exception "unable to deal with arrays of rank > 1")
  | .other _ => .error (.exception "type not a sequential container!")

/-- The bytes of an accepted vector are its bytes in memory. -/
theorem byteViewData_eq_ok_iff {ret : Returned Value} {dt : ByteDataTypes} {dat : List UInt8} :
    byteViewData ret = .ok (dt, dat) ↔ ∃ tp, ∃ vals : List tp.Raw,
      ret = .vector tp vals ∧ bdtMap.lookup tp = some dt ∧ dat = memoryBytes vals := by
  rcases ret with ⟨tp, vals⟩ | _ | val
  · rw [byteViewData, getByteDataType, variantToBytes]
    constructor
    · intro h
      refine ⟨tp, vals, rfl, ?_⟩
      rcases htag : bdtMap.lookup tp with _ | dtp <;> simp only [htag] at h
      · cases h
      · obtain ⟨rfl, rfl⟩ := Prod.mk.inj (Except.ok.inj h)
        exact ⟨rfl, rfl⟩
    · rintro ⟨tp', vals', heq, htag, rfl⟩
      cases heq
      simp only [htag]
  · simp [byteViewData]
  · simp [byteViewData]

end Foxtrot
