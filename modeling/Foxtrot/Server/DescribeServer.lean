import Foxtrot.Server.LiveDevices
import Mathlib.Data.List.Forall2

/-!
# What a server says of its devices

`DescribeServer` (`server/src/ServerDescribeImpl.cpp`) goes through the devices in the order of
their ids and through the names of each, describes what `GetCapability` finds under the name, and
adds it up in the reply. A name that stands for several methods is described as often, each time as
the first of them.

The reply has all devices or an error (`describeServer_reply`): a type that cannot be described is
one for the whole server. Without an error, what is described under a name is what a request with
that name leads to (`DescribedServer.IsDescribed`).
-/

namespace Foxtrot

open Fallible

/-- `return`, of a `devcapability`. -/
inductive CapabilityReturn where
  | rettp (tp : VariantDescriptor)
  | vecrettp (tp : ByteDataTypes)

/-- `devcapability`. -/
structure Devcapability where
  tp : CapabilityType
  capname : String
  ret : CapabilityReturn
  argnames : List String
  argtypes : List VariantDescriptor

/-- `devdescribe`. -/
structure Devdescribe where
  devid : UInt32
  devtype : String
  devcomment : String
  caps : List Devcapability

/-- `servdescribe`, with the entries of `devs_attached`. -/
structure Servdescribe where
  servcomment : String
  devsAttached : List Devdescribe
  err : Option Errstatus

/-- A server, and how its devices and types are described. -/
structure DescribedServer (W Ty Val : Type) where
  live : LiveDevices W Ty Val
  /-- The ids are `int`s. -/
  length_le : live.devices.length ≤ 2 ^ 31
  servcomment : String
  /-- `getDeviceTypeName`, of the device with an id. -/
  deviceTypeName : ℕ → String
  /-- `getDeviceComment`. -/
  deviceComment : ℕ → String
  describeType : Ty → Except Thrown VariantDescriptor
  /-- The first of the template arguments, if the type is a template's instantiation. -/
  templateArgument : Ty → Option Ty
  /-- The tag of a numeric type. -/
  byteDataType : Ty → Option ByteDataTypes

namespace DescribedServer

variable {W Ty Val : Type} (S : DescribedServer W Ty Val)

/-- What a capability returns. -/
def describeReturn (cap : Core.Capability Ty (Core.Invokable Ty)) :
    Except Thrown CapabilityReturn :=
  if cap.type = .stream then
    match S.templateArgument cap.returntype with
    | none => .error (.exception ("stream return type is not a template instantiation. " ++
        "Don't know how to deal with this"))
    | some valueType =>
      match S.byteDataType valueType with
      | none =>
        .error (.outOfRange ("invalid value type for stream: " ++ S.live.rttr.getName valueType))
      | some tp => .ok (.vecrettp tp)
  else
    (S.describeType cap.returntype).map .rettp

/-- `GetDeviceCapability`. -/
def getDeviceCapability (cap : Core.Capability Ty (Core.Invokable Ty)) :
    Except Thrown Devcapability := do
  let ret ← S.describeReturn cap
  let argtypes ← cap.argtypes.mapM S.describeType
  return ⟨cap.type, cap.capabilityName, ret, cap.argnames, argtypes⟩

/-- A name of a device. -/
def describeName (dev : Core.Device Ty) (capname : String) : Except Thrown Devcapability := do
  let cap ← dev.getCapability S.live.rttr.getName capname
  S.getDeviceCapability cap

/-- The body of the loop over the devices. -/
def describeDevice (devid : ℕ) (dev : Core.Device Ty) : Except Thrown Devdescribe := do
  let caps ← dev.getCapabilityNames.mapM (S.describeName dev)
  return ⟨UInt32.ofNat devid, S.deviceTypeName devid, S.deviceComment devid, caps⟩

/-- The loop over the devices: the reply, and whether it has come to its end. -/
def describeDevices (repl : Servdescribe) :
    List (Core.Device Ty × ℕ) → Servdescribe × Except Thrown Unit
  | [] => (repl, .ok ())
  | (dev, devid) :: devs =>
    match S.describeDevice devid dev with
    | .error e => (repl, .error e)
    | .ok desc => describeDevices { repl with devsAttached := repl.devsAttached ++ [desc] } devs

/-- The responder of `DescribeServer`. -/
def servdescribeResponder : Responder Servdescribe where
  setReplErr repl err := { repl with err := some err }
  errcall := .finishWith

/-- `ServerDescribeLogic`. -/
def describeServerLogic (Env Inv : Type) : Logic Unit Env Unit Servdescribe Inv where
  responder := servdescribeResponder
  emptyReply := ⟨"", [], none⟩
  checkMetadata _ _ := .ok true
  handleRequest logic _ _ repl :=
    match S.describeDevices { repl with servcomment := S.servcomment } S.live.devices.zipIdx with
    | (repl, .ok _) => some ⟨logic, repl, [.finishWith repl], [], .ok true⟩
    | (repl, .error e) => some ⟨logic, repl, [], [], .error e⟩

/-- The stub of `DescribeServer`. -/
def describeServer : Option Servdescribe := do
  let r ← (S.describeServerLogic Unit Unit).process () () () ⟨"", [], none⟩
  match r.calls with
  | [.finishWith repl] => some repl
  | _ => none

/-- All devices are described. -/
def describeAll : Except Thrown (List Devdescribe) :=
  S.live.devices.zipIdx.mapM fun d => S.describeDevice d.2 d.1

/-- Whether a description is that of a capability. -/
structure Describes (pm : Core.Invokable Ty) (c : Devcapability) : Prop where
  tp : c.tp = (pm.getCapability S.live.rttr.getName).type
  capname : c.capname = pm.name
  argnames : c.argnames = (pm.getCapability S.live.rttr.getName).argnames
  argtypes : List.Forall₂ (fun ty d => S.describeType ty = .ok d)
    (pm.getCapability S.live.rttr.getName).argtypes c.argtypes
  ret : S.describeReturn (pm.getCapability S.live.rttr.getName) = .ok c.ret

/-- What is described of the device with an id: its capabilities, one for each name, and each is the
one that its name leads to. -/
structure IsDescribed (i : ℕ) (desc : Devdescribe) : Prop where
  devid : desc.devid = UInt32.ofNat i
  devtype : desc.devtype = S.deviceTypeName i
  devcomment : desc.devcomment = S.deviceComment i
  names : ∃ dev, S.live.devices[i]? = some dev ∧
    desc.caps.map Devcapability.capname = dev.getCapabilityNames
  leads : ∀ c ∈ desc.caps, ∃ pm, S.live.Names desc.devid c.capname pm ∧ S.Describes pm c

/-! ### The reply -/

section Reply

variable {S}

/-- Devices that can be described are added in order. -/
private theorem describeDevices_of_ok {devs : List (Core.Device Ty × ℕ)} {descs : List Devdescribe}
    (h : List.Forall₂ (fun d desc => S.describeDevice d.2 d.1 = .ok desc) devs descs)
    (repl : Servdescribe) : S.describeDevices repl devs =
      ({ repl with devsAttached := repl.devsAttached ++ descs }, .ok ()) := by
  induction h generalizing repl with
  | nil => rw [describeDevices, List.append_nil]
  | @cons d desc devs descs hdesc _ ih =>
    obtain ⟨dev, devid⟩ := d
    rw [describeDevices]
    simp only [hdesc, ih, List.append_assoc, List.singleton_append]

/-- The first device that cannot be described throws. -/
private theorem describeDevices_of_error {devs : List (Core.Device Ty × ℕ)} {e : Thrown}
    (h : devs.mapM (fun d => S.describeDevice d.2 d.1) = .error e) (repl : Servdescribe) :
    ∃ repl', S.describeDevices repl devs = (repl', .error e) := by
  induction devs generalizing repl with
  | nil => cases h
  | cons d devs ih =>
    obtain ⟨dev, devid⟩ := d
    rw [List.mapM_cons, bind_eq_error_iff] at h
    rw [describeDevices]
    obtain h | ⟨desc, hdesc, h⟩ := h
    · exact ⟨repl, by simp only [h]⟩
    · obtain h | ⟨descs, -, h⟩ := bind_eq_error_iff.mp h
      · simp only [hdesc]
        exact ih h _
      · cases h

variable (S)

/-- **The reply has all devices, or an error.** -/
theorem describeServer_reply : match S.describeAll with
    | .ok descs => S.describeServer = some ⟨S.servcomment, descs, none⟩
    | .error e => ∃ repl, S.describeServer = some repl ∧
        repl.err = some (foxtrotRpcErrorHandling e) := by
  rw [describeServer]
  cases hall : S.describeAll with
  | ok descs =>
    have hloop := describeDevices_of_ok (mapM_eq_ok_iff.mp hall) ⟨S.servcomment, [], none⟩
    change ((S.describeServerLogic Unit Unit).handleRequest () () () _).map _ >>= _ = _
    rw [describeServerLogic]
    simp only [hloop]
    rfl
  | error e =>
    obtain ⟨repl, hloop⟩ := describeDevices_of_error hall ⟨S.servcomment, [], none⟩
    refine ⟨{ repl with err := some (foxtrotRpcErrorHandling e) }, ?_, rfl⟩
    change ((S.describeServerLogic Unit Unit).handleRequest () () () _).map _ >>= _ = _
    rw [describeServerLogic]
    simp only [hloop]
    rfl

end Reply

/-! ### What is described -/

section Described

variable {S}

private theorem describeName_eq_ok_iff {dev : Core.Device Ty} {capname : String}
    {c : Devcapability} :
    S.describeName dev capname = .ok c ↔ ∃ cap,
      dev.getCapability S.live.rttr.getName capname = .ok cap ∧ S.getDeviceCapability cap = .ok c :=
  bind_eq_ok_iff

/-- A capability is described under its own name. -/
theorem describes_of_getDeviceCapability {pm : Core.Invokable Ty} {c : Devcapability}
    (h : S.getDeviceCapability (pm.getCapability S.live.rttr.getName) = .ok c) :
    S.Describes pm c := by
  obtain ⟨ret, hret, h⟩ := bind_eq_ok_iff.mp h
  obtain ⟨argtypes, hargtypes, h⟩ := bind_eq_ok_iff.mp h
  obtain rfl := Except.ok.inj h
  refine ⟨rfl, ?_, rfl, mapM_eq_ok_iff.mp hargtypes, hret⟩
  cases pm <;> rfl

/-- What is found under a name has the name, and is described under it. -/
theorem capname_of_describeName {dev : Core.Device Ty} {capname : String} {c : Devcapability}
    (h : S.describeName dev capname = .ok c) : c.capname = capname ∧ ∃ pm : Core.Invokable Ty,
      dev.getCapability S.live.rttr.getName capname =
        .ok (pm.getCapability S.live.rttr.getName) ∧ S.Describes pm c := by
  obtain ⟨cap, hcap, h⟩ := describeName_eq_ok_iff.mp h
  obtain ⟨pm, rfl⟩ := Core.Device.exists_of_getCapability hcap
  have hdescribes := describes_of_getDeviceCapability h
  have hname : pm.name = capname := by
    simpa using List.find?_some (Core.Device.getCapability_eq_ok_iff.mp hcap)
  exact ⟨hdescribes.capname.trans hname, pm, hcap, hdescribes⟩

/-- The names of a device are described in their order. -/
theorem capnames_of_describeName {dev : Core.Device Ty} {names : List String}
    {caps : List Devcapability}
    (h : List.Forall₂ (fun capname c => S.describeName dev capname = .ok c) names caps) :
    caps.map Devcapability.capname = names ∧ ∀ c ∈ caps, ∃ pm : Core.Invokable Ty,
      dev.getCapability S.live.rttr.getName c.capname =
        .ok (pm.getCapability S.live.rttr.getName) ∧ S.Describes pm c := by
  induction h with
  | nil => exact ⟨rfl, fun c hc => absurd hc List.not_mem_nil⟩
  | cons hname _ ih =>
    obtain ⟨rfl, hleads⟩ := capname_of_describeName hname
    exact ⟨congrArg _ ih.1, List.forall_mem_cons.mpr ⟨hleads, ih.2⟩⟩

/-- **What is described under a name is what the name leads to.** -/
theorem isDescribed_of_describeDevice (hS : S.live.Consistent) {i : ℕ} {dev : Core.Device Ty}
    (hdev : S.live.devices[i]? = some dev) {desc : Devdescribe}
    (h : S.describeDevice i dev = .ok desc) : S.IsDescribed i desc := by
  obtain ⟨caps, hcaps, h⟩ := bind_eq_ok_iff.mp h
  obtain rfl := Except.ok.inj h
  obtain ⟨hnames, hleads⟩ := capnames_of_describeName (mapM_eq_ok_iff.mp hcaps)
  have hlt : i < 2 ^ 31 :=
    (List.getElem?_eq_some_iff.mp hdev).1.trans_le S.length_le
  have hid : (UInt32.ofNat i).toNat = i := UInt32.toNat_ofNat_of_lt' (hlt.trans (by decide))
  refine ⟨rfl, rfl, rfl, ⟨dev, hdev, hnames⟩, fun c hc => ?_⟩
  obtain ⟨pm, hcap, hdescribes⟩ := hleads c hc
  refine ⟨pm, ⟨dev, ?_, ?_, hcap, ?_⟩, hdescribes⟩
  · rwa [hid]
  · rwa [hid]
  · exact ((hS dev (List.mem_of_getElem? hdev)).invoked _ pm).mpr hcap

/-- The devices are described in the order of their ids. -/
theorem isDescribed_of_describeAll (hS : S.live.Consistent) {descs : List Devdescribe}
    (h : S.describeAll = .ok descs) : List.Forall₂ S.IsDescribed
      (List.range S.live.devices.length) descs := by
  have hall := mapM_eq_ok_iff.mp h
  have hdescribed : List.Forall₂ (fun (d : Core.Device Ty × ℕ) desc => S.IsDescribed d.2 desc)
      S.live.devices.zipIdx descs := by
    have hdevs : ∀ d ∈ S.live.devices.zipIdx, S.live.devices[d.2]? = some d.1 :=
      fun d hd => (List.mk_mem_zipIdx_iff_getElem? ..).mp hd
    refine ((List.forall₂_and_left _ _).mpr ⟨hdevs, hall⟩).imp ?_
    rintro d desc ⟨hd, hdesc⟩
    exact isDescribed_of_describeDevice hS hd hdesc
  have hrange : List.range S.live.devices.length = S.live.devices.zipIdx.map Prod.snd := by
    rw [List.zipIdx_map_snd, List.range_eq_range']
  rw [hrange]
  exact List.forall₂_map_left_iff.mpr hdescribed

/-- A description has the number of its device. -/
theorem IsDescribed.toNat_devid {i : ℕ} {desc : Devdescribe} (h : S.IsDescribed i desc) :
    desc.devid.toNat = i := by
  obtain ⟨dev, hdev, -⟩ := h.names
  have hlt : i < 2 ^ 31 := (List.getElem?_eq_some_iff.mp hdev).1.trans_le S.length_le
  rw [h.devid]
  exact UInt32.toNat_ofNat_of_lt' (hlt.trans (by decide))

end Described

end DescribedServer

end Foxtrot
