import Mathlib.Data.List.TakeWhile
import Foxtrot.Foundation.Recording
import Foxtrot.Python.Arguments
import Foxtrot.Python.TypeConversion
import Foxtrot.Server.DescribeServer

/-!
# The devices in the Python client

`Client` (`python/pyfoxtrot/Client.py`) makes objects of what the server describes: a device is an
attribute of the client, under its comment or else its type, and a capability is an attribute of its
device. `reload_devices` asks the server again, which may be another one by then, and takes the old
attributes away first, also when the new description does not come.

In every run (`device_tree`) an attribute of the client is the last device of this name in the last
description, and its capabilities lead to the properties and methods that the server has under their
names. `client[key]` is different: it finds the place of a key in the first description that any key
was looked up in, and takes the device that is at this place by now. Two capabilities have the same
class for an enumeration exactly if the server describes the same one, across all descriptions.

A device or a capability that is called like a member of its class is not modelled, and neither is
an enumeration that Python does not take.

What a program is told is compared with the last description, and for keys with the first one that a
key was looked up in, both read off what it has seen (`lastTree`, `firstTree`). The invariant
(`TreeInv`) says that the objects are made of the last description (`Device.MadeOf`), which leads to
the properties and methods through the consistency of the server's devices, that the names of the
attributes are those that a reload takes away, and that the cache of the lookups is of the first
description. Classes are only ever added, so capabilities that were handed out earlier keep theirs.
-/

namespace Foxtrot

open Fallible Histories TransitionSystem

/-- What protobuf takes to be the same enumeration. A map has no order. -/
def EnumDescriptor.Same (a b : EnumDescriptor) : Prop :=
  a.enumName = b.enumName ∧ a.enumMap.Perm b.enumMap

instance (a b : EnumDescriptor) : Decidable (a.Same b) :=
  inferInstanceAs (Decidable (_ ∧ _))

/-- The enumeration of a type with the tag `ENUM_TYPE`. -/
def VariantDescriptor.enumDesc : VariantDescriptor → Option EnumDescriptor
  | .enumeration _ desc => some desc
  | _ => none

/-- `rettp`. A stream has none, and reads as a simple value. -/
def Devcapability.rettp (c : Devcapability) : Option VariantDescriptor :=
  match c.ret with
  | .rettp tp => some tp
  | .vecrettp _ => none

/-- The enumerations among the types of a capability. -/
def Devcapability.enums (c : Devcapability) : List EnumDescriptor :=
  (c.rettp.toList ++ c.argtypes).filterMap VariantDescriptor.enumDesc

namespace Python

/-! ### The objects -/

/-- `Capability`, as the client makes it. The class of an enumeration is its place in
`_enum_types`. -/
structure TreeCapability where
  captp : CapabilityType
  capname : String
  argnames : List String
  argtypes : List VariantDescriptor
  rettp : Option VariantDescriptor
  devid : UInt32
  enumReturnType : Option ℕ
  enumArgTypes : List (Option ℕ)

/-- What calls are made of. -/
def TreeCapability.capability (cap : TreeCapability)
    (described : cap.argtypes.length = cap.argnames.length) : Capability where
  captp := cap.captp
  capname := cap.capname
  argnames := cap.argnames
  argtypes := cap.argtypes
  described := described
  msgid := 0
  devid := cap.devid.toBitVec
  chunksize := 1000

/-- `Device`, with its attributes. -/
structure Device where
  devid : UInt32
  devtp : String
  comment : String
  caps : List TreeCapability
  attrs : AList fun _ : String => TreeCapability

/-- The lists that the first lookup makes. -/
structure KeyCache where
  devtypes : List String
  devcomments : List String
  devids : List UInt32

/-- `Client`, as far as its devices go. The classes in `_enum_types` are those of the descriptors
at the same places. -/
structure DeviceTree where
  comment : String
  devices : List Device
  enumDescs : List EnumDescriptor
  attrs : AList fun _ : String => Device
  customAttrSet : List String
  cache : Option KeyCache

/-- A new object. -/
def DeviceTree.new : DeviceTree := ⟨"", [], [], ∅, [], none⟩

/-- A key in brackets. -/
inductive ItemKey where
  | int (n : ℤ)
  | str (s : String)

/-- What a lookup raises. -/
inductive ItemException where
  | valueError
  | indexError
  deriving DecidableEq

/-- What `reload_devices` raises. -/
inductive ReloadException where
  | rpcError
  | reply (e : ReplyException)
  | attributeError

/-! ### Making them -/

/-- `_add_enum_type`. -/
def addEnumType (enumDescs : List EnumDescriptor) (desc : EnumDescriptor) : List EnumDescriptor :=
  if ∃ d ∈ enumDescs, d.Same desc then enumDescs else enumDescs ++ [desc]

/-- `_lookup_enum_type`. -/
def lookupEnumType (enumDescs : List EnumDescriptor) (desc : EnumDescriptor) : Option ℕ :=
  enumDescs.findIdx? fun d => d.Same desc

/-- `setattr`, for each of these under its name. -/
def setattrs {α : Type} (name : α → String) (items : List α) (attrs : AList fun _ : String => α) :
    AList fun _ : String => α :=
  items.foldl (fun attrs a => attrs.insert (name a) a) attrs

/-- `delattr`, for each of these names: what is left, and whether all of them were there. -/
def delattrs {α : Type} : List String → (AList fun _ : String => α) →
    (AList fun _ : String => α) × Bool
  | [], attrs => (attrs, true)
  | name :: names, attrs =>
    if name ∈ attrs then delattrs names (attrs.erase name) else (attrs, false)

/-- The constructor of `Capability`, with what it leaves of the enumerations. -/
def newCapability (c : Devcapability) (devid : UInt32) (enumDescs : List EnumDescriptor) :
    TreeCapability × List EnumDescriptor :=
  let enumDescs := c.enums.foldl addEnumType enumDescs
  let lookup (tp : VariantDescriptor) := tp.enumDesc.bind (lookupEnumType enumDescs)
  (⟨c.tp, c.capname, c.argnames, c.argtypes, c.rettp, devid, c.rettp.bind lookup,
    c.argtypes.map lookup⟩, enumDescs)

/-- The loop over the capabilities in the constructor of `Device`. -/
def newCapabilities (devid : UInt32) :
    List Devcapability → List EnumDescriptor → List TreeCapability × List EnumDescriptor
  | [], enumDescs => ([], enumDescs)
  | c :: cs, enumDescs =>
    let (cap, enumDescs) := newCapability c devid enumDescs
    let (caps, enumDescs) := newCapabilities devid cs enumDescs
    (cap :: caps, enumDescs)

/-- The constructor of `Device`. -/
def newDevice (desc : Devdescribe) (enumDescs : List EnumDescriptor) :
    Device × List EnumDescriptor :=
  let (caps, enumDescs) := newCapabilities desc.devid desc.caps enumDescs
  (⟨desc.devid, desc.devtype, desc.devcomment, caps, setattrs TreeCapability.capname caps ∅⟩,
    enumDescs)

/-- The loop over the devices in `_setup_device_tree`. -/
def newDevices : List Devdescribe → List EnumDescriptor → List Device × List EnumDescriptor
  | [], enumDescs => ([], enumDescs)
  | desc :: descs, enumDescs =>
    let (dev, enumDescs) := newDevice desc enumDescs
    let (devs, enumDescs) := newDevices descs enumDescs
    (dev :: devs, enumDescs)

/-- The attribute that a device is. -/
def attrname (comment devtp : String) : String := if comment ≠ "" then comment else devtp

/-- The attribute. -/
def Device.attrname (dev : Device) : String := Python.attrname dev.comment dev.devtp

/-- The members of `Client`. -/
def clientMembers : List String :=
  ["_channel", "_stub", "_flagstub", "_estub", "_enum_descs", "_enum_types", "_active_session",
    "_custom_attr_set", "_servdescribe", "_comment", "_devices", "_devtypes", "_devcomments",
    "_devids", "_add_enum_type", "_lookup_enum_type", "_setup_device_tree", "reload_devices",
    "save_servdesc", "get_all_flags_dict", "get_all_flags_list", "create_new_flag",
    "drop_server_flag", "broadcast_notification", "flags"]

/-- The members of `Device`. -/
def deviceMembers : List String := ["_devid", "_devtp", "_comment", "_cl", "_caps", "_props"]

/-- A name is that of a member, also of one that every object has. -/
def IsMember (members : List String) (name : String) : Prop :=
  name ∈ members ∨ ['_', '_'] <+: name.toList

instance (members : List String) (name : String) : Decidable (IsMember members name) :=
  inferInstanceAs (Decidable (_ ∨ _))

/-- No name is that of a member, and Python takes the enumerations. -/
def Devdescribe.Plain (takes : EnumDescriptor → Bool) (desc : Devdescribe) : Prop :=
  ¬ IsMember clientMembers (attrname desc.devcomment desc.devtype) ∧
    ∀ c ∈ desc.caps, ¬ IsMember deviceMembers c.capname ∧ ∀ d ∈ c.enums, takes d = true

instance (takes : EnumDescriptor → Bool) (desc : Devdescribe) :
    Decidable (Devdescribe.Plain takes desc) :=
  inferInstanceAs (Decidable (_ ∧ _))

/-- Where `__getitem__` finds a key. -/
def KeyCache.index (cache : KeyCache) : ItemKey → Option ℕ
  | .int n => cache.devids.findIdx? fun devid => (devid.toNat : ℤ) = n
  | .str s =>
    if s ∈ cache.devcomments then cache.devcomments.findIdx? (· = s)
    else cache.devtypes.findIdx? (· = s)

namespace DeviceTree

/-- `_setup_device_tree`, where the entries of the map come in this order. -/
def setupDeviceTree (cl : DeviceTree) (descs : List Devdescribe) : DeviceTree :=
  let (devices, enumDescs) := newDevices descs cl.enumDescs
  { cl with
    devices, enumDescs
    attrs := setattrs Device.attrname devices cl.attrs
    customAttrSet := devices.foldl (fun names dev => names.insert dev.attrname) cl.customAttrSet }

/-- `reload_devices`, where the request brings this reply, if any, and the keys of its map come in
this order. There is no outcome if it is not modelled. -/
def reloadDevices (takes : EnumDescriptor → Bool) (cl : DeviceTree) (reply : Option Servdescribe)
    (keys : List UInt32) : Option (DeviceTree × Except ReloadException (List Devdescribe)) :=
  match delattrs cl.customAttrSet cl.attrs with
  | (attrs, false) => some ({ cl with attrs }, .error .attributeError)
  | (attrs, true) =>
    let cl := { cl with attrs, customAttrSet := [] }
    match reply with
    | none => some (cl, .error .rpcError)
    | some repl =>
      match checkReplErr repl.err with
      | .error e => some (cl, .error (.reply e))
      | .ok _ =>
        let descs := keys.filterMap fun devkey =>
          repl.devsAttached.find? fun desc => desc.devid = devkey
        if keys.Perm (repl.devsAttached.map Devdescribe.devid) ∧
            ∀ desc ∈ descs, Devdescribe.Plain takes desc then
          some (setupDeviceTree { cl with comment := repl.servcomment } descs, .ok descs)
        else none

/-- The lists that `__getitem__` makes if it has not made them before. -/
def keyCache (cl : DeviceTree) : KeyCache :=
  cl.cache.getD ⟨cl.devices.map Device.devtp, cl.devices.map Device.comment,
    cl.devices.map Device.devid⟩

/-- `__getitem__`. -/
def getitem (cl : DeviceTree) (key : ItemKey) : DeviceTree × Except ItemException Device :=
  let cache := cl.keyCache
  ({ cl with cache := some cache },
    match cache.index key with
    | none => .error .valueError
    | some idx =>
      match cl.devices[idx]? with
      | none => .error .indexError
      | some dev => .ok dev)

end DeviceTree

/-! ### Runs -/

/-- What the program does with a client, which is connected to the server `i` when it reloads. -/
inductive TreeLabel (ι : Type) where
  /-- `reload_devices`, also from the constructor: whether the request arrives, and the order of the
  keys in the reply. -/
  | reload (i : ι) (arrives : Bool) (keys : List UInt32)
  /-- `client.name`. -/
  | attr (name : String)
  /-- `client[key]`. -/
  | item (key : ItemKey)

/-- What the program sees of it. -/
inductive TreeSeen (ι : Type) where
  /-- The client has made its devices of these. -/
  | reloaded (i : ι) (descs : List Devdescribe)
  | reloadFailed (i : ι) (e : ReloadException)
  | attr (name : String) (dev : Option Device)
  | item (key : ItemKey) (result : Except ItemException Device)

section System

variable {W Ty Val ι : Type} (servers : ι → DescribedServer W Ty Val)
  (takes : EnumDescriptor → Bool)

/-- A reload, of a client or in the constructor. -/
def reload (s : Option DeviceTree) (i : ι) (arrives : Bool) (keys : List UInt32) :
    Option (DeviceTree × Except ReloadException (List Devdescribe)) :=
  (s.getD .new).reloadDevices takes (if arrives then (servers i).describeServer else none) keys

/-- A step of the program, if it is modelled. There is no client before the constructor has
returned. -/
def treeStep (s : Option DeviceTree) : TreeLabel ι → Option (Option DeviceTree × TreeSeen ι)
  | .reload i arrives keys =>
    match reload servers takes s i arrives keys with
    | none => none
    | some (cl, .ok descs) => some (some cl, .reloaded i descs)
    | some (cl, .error e) => some (s.map fun _ => cl, .reloadFailed i e)
  | .attr name =>
    match s with
    | none => none
    | some cl =>
      if IsMember clientMembers name then none
      else some (some cl, .attr name (cl.attrs.lookup name))
  | .item key =>
    match s with
    | none => none
    | some cl => some (some (cl.getitem key).1, .item key (cl.getitem key).2)

/-- A program with a client. -/
def deviceTrees : TransitionSystem (Option DeviceTree) (TreeLabel ι) where
  init := none
  step s l := (treeStep servers takes s l).map Prod.fst

/-- What is seen of a step. -/
def observeTree (s : Option DeviceTree) (l : TreeLabel ι) : Option (TreeSeen ι) :=
  (treeStep servers takes s l).map Prod.snd

end System

/-! ### What the program is told -/

section Spec

variable {W Ty Val ι : Type}

/-- The last of the devices with a name. -/
def lastNamed (descs : List Devdescribe) (name : String) : Option Devdescribe :=
  (descs.filter fun desc => attrname desc.devcomment desc.devtype = name).getLast?

/-- What a reload makes of the attributes. -/
def TreeSeen.attrEffect : TreeSeen ι → String → Option (Option (ι × Devdescribe))
  | .reloaded i descs, name => some ((lastNamed descs name).map (i, ·))
  | .reloadFailed _ _, _ => some none
  | .attr _ _, _ | .item _ _, _ => none

/-- What a reload makes of the devices. -/
def TreeSeen.devices? : TreeSeen ι → Option (Unit × ι × List Devdescribe)
  | .reloaded i descs => some ((), i, descs)
  | _ => none

/-- What the devices have been made of last. -/
def lastTree (log : List (TreeSeen ι)) : Option (ι × List Devdescribe) :=
  lastWritten TreeSeen.devices? log ()

/-- A key is looked up. -/
def TreeSeen.isItem : TreeSeen ι → Bool
  | .item _ _ => true
  | _ => false

/-- What the devices were made of when a key was looked up first. -/
def firstTree (log : List (TreeSeen ι)) : Option (ι × List Devdescribe) :=
  lastTree (log.takeWhile fun w => !w.isItem)

/-- Where a key is among the devices, a comment before a type. -/
def ItemKey.position (descs : List Devdescribe) : ItemKey → Option ℕ
  | .int n => descs.findIdx? fun desc => (desc.devid.toNat : ℤ) = n
  | .str s => (descs.findIdx? fun desc => desc.devcomment = s).or
      (descs.findIdx? fun desc => desc.devtype = s)

/-- A capability is made of the description of a property or a method, and leads to it. -/
structure TreeCapability.Leads (S : DescribedServer W Ty Val) (cap : TreeCapability)
    (pm : Core.Invokable Ty) : Prop where
  described : cap.argtypes.length = cap.argnames.length
  names : S.live.Names ⟨(cap.capability described).devid⟩ (cap.capability described).capname pm
  captp : cap.captp = (pm.getCapability S.live.rttr.getName).type
  argnames : cap.argnames = (pm.getCapability S.live.rttr.getName).argnames
  argtypes : List.Forall₂ (fun ty d => S.describeType ty = .ok d)
    (pm.getCapability S.live.rttr.getName).argtypes cap.argtypes
  rettp : if cap.captp = .stream then cap.rettp = none
    else ∃ d, cap.rettp = some d ∧
      S.describeType (pm.getCapability S.live.rttr.getName).returntype = .ok d

/-- The object is the one of the device with this id. -/
structure Device.Shows (S : DescribedServer W Ty Val) (dev : Device) (i : ℕ) : Prop where
  devid : dev.devid = UInt32.ofNat i
  devtp : dev.devtp = S.deviceTypeName i
  comment : dev.comment = S.deviceComment i
  names : ∃ d, S.live.devices[i]? = some d ∧ ∀ name, name ∈ dev.attrs ↔ name ∈ d.getCapabilityNames
  leads : ∀ name cap, dev.attrs.lookup name = some cap → cap.capname = name ∧
    cap.devid = dev.devid ∧ ∃ pm, cap.Leads S pm

/-- What a lookup gives, if the devices were made of `descs` and the lists of `first`. -/
def ItemGives (S : DescribedServer W Ty Val) (first descs : List Devdescribe) (key : ItemKey)
    (result : Except ItemException Device) : Prop :=
  match key.position first with
  | none => result = .error .valueError
  | some idx =>
    match descs[idx]? with
    | none => result = .error .indexError
    | some desc => ∃ dev, result = .ok dev ∧ dev.Shows S desc.devid.toNat

/-- **What the program sees** is what the last description says, or, of keys, the first one that a
key was looked up in. -/
def TreeSeen.Conforms (servers : ι → DescribedServer W Ty Val) (earlier : List (TreeSeen ι)) :
    TreeSeen ι → Prop
  | .reloaded i descs =>
    (descs.map Devdescribe.devid).Perm
      ((List.range (servers i).live.devices.length).map UInt32.ofNat) ∧
        ∀ desc ∈ descs, (servers i).IsDescribed desc.devid.toNat desc
  | .reloadFailed i e => e = .rpcError ∨ ∃ thrown reply, (servers i).describeAll = .error thrown ∧
      checkReplErr (some (foxtrotRpcErrorHandling thrown)) = .error reply ∧ e = .reply reply
  | .attr name dev => Option.Rel (fun dev p => dev.Shows (servers p.1) p.2.devid.toNat) dev
      (lastEffect attrEffect earlier name)
  | .item key result => ∃ i descs i₀ first, lastTree earlier = some (i, descs) ∧
      firstTree earlier = some (i₀, first) ∧ ItemGives (servers i) first descs key result

/-- The devices that the program has got. -/
def TreeSeen.device? : TreeSeen ι → Option Device
  | .attr _ dev => dev
  | .item _ (.ok dev) => some dev
  | _ => none

/-- The classes of a capability are those of its enumerations. -/
structure TreeCapability.Classed (cls : EnumDescriptor → Option ℕ) (cap : TreeCapability) :
    Prop where
  isSome : ∀ tp ∈ cap.rettp.toList ++ cap.argtypes, ∀ d, tp.enumDesc = some d → (cls d).isSome
  enumReturnType : cap.enumReturnType = cap.rettp.bind fun tp => tp.enumDesc.bind cls
  enumArgTypes : cap.enumArgTypes = cap.argtypes.map fun tp => tp.enumDesc.bind cls

/-- So they are for all of a device. -/
def Device.Classed (cls : EnumDescriptor → Option ℕ) (dev : Device) : Prop :=
  ∀ cap ∈ dev.caps, cap.Classed cls

/-- A class is that of the same enumerations. -/
def ClassesOf (cls : EnumDescriptor → Option ℕ) : Prop :=
  ∀ d d' k, cls d = some k → (cls d' = some k ↔ d.Same d')

end Spec

/-! ### Attributes

`setattr` under a name that is there replaces what it had, so the last one of a name stays, and the
list of names to be deleted has it once. -/

section Attributes

variable {α : Type} {name : α → String} {items : List α} {attrs : AList fun _ : String => α}
  {k : String}

/-- An attribute is the last item of its name. -/
theorem lookup_setattrs : (setattrs name items attrs).lookup k =
    ((items.filter fun a => name a = k).getLast?).or (attrs.lookup k) := by
  induction items using List.reverseRecOn with
  | nil => rfl
  | append_singleton items a ih =>
    have hlast : setattrs name (items ++ [a]) attrs =
        (setattrs name items attrs).insert (name a) a := by
      rw [setattrs, List.foldl_append]
      rfl
    rw [hlast, List.filter_append]
    by_cases hk : name a = k
    · subst hk
      rw [AList.lookup_insert, List.filter_singleton, decide_eq_true rfl, cond_true,
        List.getLast?_concat, Option.some_or]
    · rw [AList.lookup_insert_ne (Ne.symm hk), ih, List.filter_singleton, decide_eq_false hk,
        cond_false, List.append_nil]

/-- Each item has an attribute with its name, and there are no others. -/
private theorem mem_setattrs_empty : k ∈ setattrs name items ∅ ↔ ∃ a ∈ items, name a = k := by
  rw [← AList.lookup_isSome, lookup_setattrs, AList.lookup_empty, Option.or_none,
    List.getLast?_isSome]
  simp [List.filter_eq_nil_iff]

/-- The names of the attributes are known, each once. -/
structure Lists (names : List String) (attrs : AList fun _ : String => α) : Prop where
  nodup : names.Nodup
  mem_iff : ∀ name, name ∈ names ↔ name ∈ attrs

/-- All attributes go away. -/
theorem delattrs_eq {names : List String} (h : Lists names attrs) :
    delattrs names attrs = (∅, true) := by
  induction names generalizing attrs with
  | nil =>
    have hkeys : attrs.keys = [] :=
      List.eq_nil_iff_forall_not_mem.mpr fun name hname =>
        List.not_mem_nil ((h.mem_iff name).mpr (AList.mem_keys.mpr hname))
    have hentries : attrs.entries = [] := List.map_eq_nil_iff.mp hkeys
    rw [delattrs, AList.ext (hentries.trans AList.empty_entries.symm)]
  | cons name names ih =>
    rw [delattrs, if_pos ((h.mem_iff name).mp List.mem_cons_self)]
    obtain ⟨hnot, hnodup⟩ := List.nodup_cons.mp h.nodup
    refine ih ⟨hnodup, fun k => ?_⟩
    rw [AList.mem_erase, ← h.mem_iff, List.mem_cons]
    constructor
    · intro hk
      exact ⟨fun heq => hnot (heq ▸ hk), .inr hk⟩
    · rintro ⟨hne, hk⟩
      exact hk.resolve_left hne

/-- The names are kept along with the attributes. -/
theorem lists_setattrs (name : α → String) (items : List α) :
    Lists (items.foldl (fun names a => names.insert (name a)) []) (setattrs name items ∅) := by
  have hnames : ∀ names : List String, names.Nodup →
      (items.foldl (fun names a => names.insert (name a)) names).Nodup ∧
        ∀ k, k ∈ items.foldl (fun names a => names.insert (name a)) names ↔
          k ∈ names ∨ ∃ a ∈ items, name a = k := by
    induction items with
    | nil => exact fun names hnames => ⟨hnames, fun k => by simp⟩
    | cons a items ih =>
      intro names hnames
      obtain ⟨hnodup, hmem⟩ := ih _ (hnames.insert (a := name a))
      refine ⟨hnodup, fun k => ?_⟩
      rw [List.foldl_cons, hmem, List.mem_insert_iff, List.exists_mem_cons_iff, or_assoc,
        or_left_comm, eq_comm]
  obtain ⟨hnodup, hmem⟩ := hnames [] List.nodup_nil
  refine ⟨hnodup, fun k => ?_⟩
  rw [hmem, mem_setattrs_empty, or_iff_right List.not_mem_nil]

end Attributes

/-! ### Enumerations

A class is found by the comparison of descriptors, in which the order of a map does not count. -/

section Enums

variable {enumDescs enumDescs' : List EnumDescriptor} {desc d d' : EnumDescriptor} {k : ℕ}

/-- The class of an enumeration is a matter of its items. -/
private theorem lookupEnumType_congr (h : d.Same d') (enumDescs : List EnumDescriptor) :
    lookupEnumType enumDescs d = lookupEnumType enumDescs d' := by
  have hiff : ∀ c : EnumDescriptor, c.Same d ↔ c.Same d' := fun c =>
    ⟨fun hc => ⟨hc.1.trans h.1, hc.2.trans h.2⟩,
      fun hc => ⟨hc.1.trans h.1.symm, hc.2.trans h.2.symm⟩⟩
  simp only [lookupEnumType, hiff]

/-- A class is that of the same enumerations. -/
theorem classesOf_lookupEnumType (enumDescs : List EnumDescriptor) :
    ClassesOf (lookupEnumType enumDescs) := by
  intro d d' k hd
  constructor
  · intro hd'
    obtain ⟨hk, hsame, -⟩ := List.findIdx?_eq_some_iff_getElem.mp hd
    obtain ⟨_, hsame', -⟩ := List.findIdx?_eq_some_iff_getElem.mp hd'
    have h := of_decide_eq_true hsame
    have h' := of_decide_eq_true hsame'
    exact ⟨h.1.symm.trans h'.1, h.2.symm.trans h'.2⟩
  · intro h
    rw [← lookupEnumType_congr h, hd]

/-- Classes stay. -/
theorem lookupEnumType_of_prefix (h : enumDescs <+: enumDescs')
    (hk : lookupEnumType enumDescs d = some k) : lookupEnumType enumDescs' d = some k := by
  obtain ⟨more, rfl⟩ := h
  rw [lookupEnumType, List.findIdx?_append]
  rw [lookupEnumType] at hk
  rw [hk, Option.some_or]

private theorem prefix_addEnumType : enumDescs <+: addEnumType enumDescs desc := by
  rw [addEnumType]
  split_ifs
  · exact List.prefix_rfl
  · exact List.prefix_append _ _

private theorem isSome_lookup_addEnumType :
    (lookupEnumType (addEnumType enumDescs desc) desc).isSome := by
  rw [lookupEnumType, List.findIdx?_isSome, List.any_eq_true, addEnumType]
  split_ifs with h
  · obtain ⟨d, hd, hsame⟩ := h
    exact ⟨d, hd, decide_eq_true hsame⟩
  · refine ⟨desc, List.mem_append_right _ (List.mem_singleton.mpr rfl), ?_⟩
    exact decide_eq_true ⟨rfl, List.Perm.refl _⟩

/-- All of them have a class after they have been added. -/
theorem foldl_addEnumType (descs : List EnumDescriptor) (enumDescs : List EnumDescriptor) :
    enumDescs <+: descs.foldl addEnumType enumDescs ∧
      ∀ d ∈ descs, (lookupEnumType (descs.foldl addEnumType enumDescs) d).isSome := by
  induction descs generalizing enumDescs with
  | nil => exact ⟨List.prefix_rfl, fun d hd => absurd hd List.not_mem_nil⟩
  | cons desc descs ih =>
    obtain ⟨hstart, hsome⟩ := ih (addEnumType enumDescs desc)
    refine ⟨prefix_addEnumType.trans hstart, List.forall_mem_cons.mpr ⟨?_, hsome⟩⟩
    have hdesc : (lookupEnumType (addEnumType enumDescs desc) desc).isSome :=
      isSome_lookup_addEnumType
    obtain ⟨k, hk⟩ := Option.isSome_iff_exists.mp hdesc
    exact Option.isSome_iff_exists.mpr ⟨k, lookupEnumType_of_prefix hstart hk⟩

/-- A capability keeps its classes. -/
theorem TreeCapability.Classed.mono {cap : TreeCapability}
    (hcap : cap.Classed (lookupEnumType enumDescs)) (h : enumDescs <+: enumDescs') :
    cap.Classed (lookupEnumType enumDescs') := by
  have hlookup : ∀ tp ∈ cap.rettp.toList ++ cap.argtypes,
      tp.enumDesc.bind (lookupEnumType enumDescs) =
        tp.enumDesc.bind (lookupEnumType enumDescs') := by
    intro tp htp
    cases hd : tp.enumDesc with
    | none => rfl
    | some d =>
      obtain ⟨k, hk⟩ := Option.isSome_iff_exists.mp (hcap.isSome tp htp d hd)
      rw [Option.bind_some, Option.bind_some, hk, lookupEnumType_of_prefix h hk]
  refine ⟨fun tp htp d hd => ?_, ?_, ?_⟩
  · obtain ⟨k, hk⟩ := Option.isSome_iff_exists.mp (hcap.isSome tp htp d hd)
    exact Option.isSome_iff_exists.mpr ⟨k, lookupEnumType_of_prefix h hk⟩
  · rw [hcap.enumReturnType]
    cases hrettp : cap.rettp with
    | none => rfl
    | some tp =>
      refine hlookup tp ?_
      rw [hrettp]
      exact List.mem_cons_self
  · rw [hcap.enumArgTypes]
    exact List.map_congr_left fun tp htp => hlookup tp (List.mem_append_right _ htp)

/-- A device keeps its classes when more are added. -/
theorem Device.Classed.mono {dev : Device} (hdev : dev.Classed (lookupEnumType enumDescs))
    (h : enumDescs <+: enumDescs') : dev.Classed (lookupEnumType enumDescs') :=
  fun cap hcap => (hdev cap hcap).mono h

end Enums

/-! ### The objects and the description -/

section Making

/-- A capability is made of a description. -/
structure TreeCapability.MadeOf (devid : UInt32) (c : Devcapability) (cap : TreeCapability) :
    Prop where
  captp : cap.captp = c.tp
  capname : cap.capname = c.capname
  argnames : cap.argnames = c.argnames
  argtypes : cap.argtypes = c.argtypes
  rettp : cap.rettp = c.rettp
  devid : cap.devid = devid

/-- So is a device. -/
structure Device.MadeOf (desc : Devdescribe) (dev : Device) : Prop where
  devid : dev.devid = desc.devid
  devtp : dev.devtp = desc.devtype
  comment : dev.comment = desc.devcomment
  caps : List.Forall₂ (TreeCapability.MadeOf desc.devid) desc.caps dev.caps
  attrs : dev.attrs = setattrs TreeCapability.capname dev.caps ∅

variable {enumDescs : List EnumDescriptor}

private theorem newCapability_spec (c : Devcapability) (devid : UInt32)
    (enumDescs : List EnumDescriptor) :
    enumDescs <+: (newCapability c devid enumDescs).2 ∧
      (newCapability c devid enumDescs).1.MadeOf devid c ∧
      (newCapability c devid enumDescs).1.Classed
        (lookupEnumType (newCapability c devid enumDescs).2) := by
  obtain ⟨hstart, hsome⟩ := foldl_addEnumType c.enums enumDescs
  refine ⟨hstart, ⟨rfl, rfl, rfl, rfl, rfl, rfl⟩, ⟨fun tp htp d hd => ?_, rfl, rfl⟩⟩
  exact hsome d (List.mem_filterMap.mpr ⟨tp, htp, hd⟩)

/-- Capabilities are made of their descriptions, in order. -/
private theorem newCapabilities_spec (devid : UInt32) (cs : List Devcapability)
    (enumDescs : List EnumDescriptor) :
    enumDescs <+: (newCapabilities devid cs enumDescs).2 ∧
      List.Forall₂ (TreeCapability.MadeOf devid) cs (newCapabilities devid cs enumDescs).1 ∧
      ∀ cap ∈ (newCapabilities devid cs enumDescs).1,
        cap.Classed (lookupEnumType (newCapabilities devid cs enumDescs).2) := by
  induction cs generalizing enumDescs with
  | nil => exact ⟨List.prefix_rfl, .nil, fun cap hcap => absurd hcap List.not_mem_nil⟩
  | cons c cs ih =>
    obtain ⟨hstart, hmade, hclassed⟩ := newCapability_spec c devid enumDescs
    obtain ⟨hstarts, hmades, hclasseds⟩ := ih (newCapability c devid enumDescs).2
    exact ⟨hstart.trans hstarts, .cons hmade hmades,
      List.forall_mem_cons.mpr ⟨hclassed.mono hstarts, hclasseds⟩⟩

/-- Devices are made of their descriptions, in order. -/
private theorem newDevices_spec (descs : List Devdescribe) (enumDescs : List EnumDescriptor) :
    enumDescs <+: (newDevices descs enumDescs).2 ∧
      List.Forall₂ Device.MadeOf descs (newDevices descs enumDescs).1 ∧
      ∀ dev ∈ (newDevices descs enumDescs).1,
        dev.Classed (lookupEnumType (newDevices descs enumDescs).2) := by
  induction descs generalizing enumDescs with
  | nil => exact ⟨List.prefix_rfl, .nil, fun dev hdev => absurd hdev List.not_mem_nil⟩
  | cons desc descs ih =>
    obtain ⟨hstart, hmade, hclassed⟩ := newCapabilities_spec desc.devid desc.caps enumDescs
    obtain ⟨hstarts, hmades, hclasseds⟩ := ih (newDevice desc enumDescs).2
    refine ⟨hstart.trans hstarts, .cons ⟨rfl, rfl, rfl, hmade, rfl⟩ hmades,
      List.forall_mem_cons.mpr ⟨fun cap hcap => ?_, hclasseds⟩⟩
    exact (hclassed cap hcap).mono hstarts

variable {W Ty Val : Type} {S : DescribedServer W Ty Val} {devid : UInt32} {c : Devcapability}
  {cap : TreeCapability} {desc : Devdescribe} {dev : Device}

/-- A capability that is made of the description of a property or a method leads to it. -/
theorem TreeCapability.MadeOf.leads (h : cap.MadeOf devid c) {pm : Core.Invokable Ty}
    (hnames : S.live.Names devid c.capname pm) (hdescribes : S.Describes pm c) :
    cap.Leads S pm := by
  have hlength : (pm.getCapability S.live.rttr.getName).argtypes.length =
      (pm.getCapability S.live.rttr.getName).argnames.length := by
    cases pm with
    | property prop => cases hprop : prop.readonly <;> simp [Core.Invokable.getCapability, hprop]
    | method meth => simp [Core.Invokable.getCapability]
  have hargtypes : List.Forall₂ (fun ty d => S.describeType ty = .ok d)
      (pm.getCapability S.live.rttr.getName).argtypes cap.argtypes :=
    h.argtypes ▸ hdescribes.argtypes
  have hargnames : cap.argnames = (pm.getCapability S.live.rttr.getName).argnames :=
    h.argnames.trans hdescribes.argnames
  have htp : cap.captp = (pm.getCapability S.live.rttr.getName).type :=
    h.captp.trans hdescribes.tp
  refine ⟨?_, ?_, htp, hargnames, hargtypes, ?_⟩
  · rw [hargnames, ← hlength, hargtypes.length_eq]
  · change S.live.Names cap.devid cap.capname pm
    rwa [h.devid, h.capname]
  · -- the type of a stream is that of its elements
    have hret := hdescribes.ret
    rw [DescribedServer.describeReturn, ← htp] at hret
    rw [h.rettp, Devcapability.rettp]
    split_ifs at hret ⊢ with hstream
    · split at hret
      · cases hret
      · split at hret
        · cases hret
        · rw [← Except.ok.inj hret]
    · cases hd : S.describeType (pm.getCapability S.live.rttr.getName).returntype with
      | error e =>
        rw [hd] at hret
        cases hret
      | ok d =>
        rw [hd] at hret
        rw [← Except.ok.inj hret]
        exact ⟨d, rfl, rfl⟩

/-- **A device that is made of the description of a device is the object of this device.** -/
theorem Device.MadeOf.shows (h : dev.MadeOf desc) {i : ℕ} (hdesc : S.IsDescribed i desc) :
    dev.Shows S i := by
  have hcapnames : desc.caps.map Devcapability.capname = dev.caps.map TreeCapability.capname :=
    map_eq_map_of_forall₂ h.caps fun _ _ hcap => hcap.capname.symm
  obtain ⟨d, hd, hnames⟩ := hdesc.names
  refine ⟨h.devid.trans hdesc.devid, h.devtp.trans hdesc.devtype, h.comment.trans hdesc.devcomment,
    ⟨d, hd, fun name => ?_⟩, fun name cap hcap => ?_⟩
  · rw [h.attrs, mem_setattrs_empty, ← hnames, hcapnames, List.mem_map]
  · rw [h.attrs, lookup_setattrs, AList.lookup_empty, Option.or_none] at hcap
    obtain ⟨hmem, hname⟩ := List.mem_filter.mp (List.mem_of_getLast? hcap)
    obtain ⟨c, hc, hmade⟩ := exists_mem_of_forall₂ h.caps hmem
    obtain ⟨pm, hleads, hdescribes⟩ := hdesc.leads c hc
    exact ⟨of_decide_eq_true hname, hmade.devid.trans h.devid.symm, pm,
      hmade.leads hleads hdescribes⟩

end Making

/-! ### Reloading -/

section Reloading

variable {takes : EnumDescriptor → Bool} {keys : List UInt32}

/-- The entries in the order of the keys. -/
theorem entries_of_keys {devs : List Devdescribe}
    (h : ∀ k ∈ keys, k ∈ devs.map Devdescribe.devid) :
    (keys.filterMap fun k => devs.find? fun desc => desc.devid = k).map Devdescribe.devid = keys ∧
      ∀ desc ∈ keys.filterMap (fun k => devs.find? fun desc => desc.devid = k), desc ∈ devs := by
  induction keys with
  | nil => exact ⟨rfl, fun desc hdesc => absurd hdesc List.not_mem_nil⟩
  | cons k keys ih =>
    obtain ⟨hk, hkeys⟩ := List.forall_mem_cons.mp h
    obtain ⟨hmap, hmem⟩ := ih hkeys
    obtain ⟨desc, hdesc, hid⟩ := List.mem_map.mp hk
    have hsome : (devs.find? fun desc => desc.devid = k).isSome :=
      List.find?_isSome.mpr ⟨desc, hdesc, decide_eq_true hid⟩
    obtain ⟨first, hfirst⟩ := Option.isSome_iff_exists.mp hsome
    rw [List.filterMap_cons]
    simp only [hfirst]
    refine ⟨?_, List.forall_mem_cons.mpr ⟨List.mem_of_find?_eq_some hfirst, hmem⟩⟩
    have hid' : first.devid = k := by simpa using List.find?_some hfirst
    rw [List.map_cons, hmap, hid']

/-- How a reload comes out, if all attributes are known. -/
inductive DeviceTree.Reloads (cl : DeviceTree) (reply : Option Servdescribe) :
    DeviceTree → Except ReloadException (List Devdescribe) → Prop
  | rpcError (hreply : reply = none) :
    cl.Reloads reply { cl with attrs := ∅, customAttrSet := [] } (.error .rpcError)
  | reply (repl : Servdescribe) (e : ReplyException) (hreply : reply = some repl)
      (he : checkReplErr repl.err = .error e) :
    cl.Reloads reply { cl with attrs := ∅, customAttrSet := [] } (.error (.reply e))
  | devices (repl : Servdescribe) (descs : List Devdescribe) (hreply : reply = some repl)
      (herr : repl.err = none)
      (hids : (descs.map Devdescribe.devid).Perm (repl.devsAttached.map Devdescribe.devid))
      (hmem : ∀ desc ∈ descs, desc ∈ repl.devsAttached) :
    cl.Reloads reply (DeviceTree.setupDeviceTree
      { cl with attrs := ∅, customAttrSet := [], comment := repl.servcomment } descs) (.ok descs)

private theorem DeviceTree.reloads_of_reloadDevices {cl cl' : DeviceTree}
    {reply : Option Servdescribe}
    {result : Except ReloadException (List Devdescribe)} (hlists : Lists cl.customAttrSet cl.attrs)
    (h : cl.reloadDevices takes reply keys = some (cl', result)) :
    cl.Reloads reply cl' result := by
  rw [reloadDevices, delattrs_eq hlists] at h
  cases reply with
  | none =>
    obtain ⟨rfl, rfl⟩ := Prod.mk.inj (Option.some.inj h)
    exact .rpcError rfl
  | some repl =>
    cases hcheck : checkReplErr repl.err with
    | error e =>
      simp only [hcheck] at h
      obtain ⟨rfl, rfl⟩ := Prod.mk.inj (Option.some.inj h)
      exact .reply repl e rfl hcheck
    | ok _ =>
      simp only [hcheck] at h
      split_ifs at h with hguard
      obtain ⟨rfl, rfl⟩ := Prod.mk.inj (Option.some.inj h)
      obtain ⟨hmap, hmem⟩ := entries_of_keys fun k hk => hguard.1.mem_iff.mp hk
      exact .devices repl _ rfl (checkReplErr_eq_ok_iff.mp hcheck) (hmap.symm ▸ hguard.1) hmem

variable {W Ty Val : Type} {S : DescribedServer W Ty Val}

/-- What the devices of a reload are made of. -/
theorem isDescribed_of_reply (hS : S.live.Consistent) {repl : Servdescribe}
    {descs : List Devdescribe} (hrepl : S.describeServer = some repl) (herr : repl.err = none)
    (hids : (descs.map Devdescribe.devid).Perm (repl.devsAttached.map Devdescribe.devid))
    (hmem : ∀ desc ∈ descs, desc ∈ repl.devsAttached) :
    (descs.map Devdescribe.devid).Perm
      ((List.range S.live.devices.length).map UInt32.ofNat) ∧
        ∀ desc ∈ descs, S.IsDescribed desc.devid.toNat desc := by
  have hreply := S.describeServer_reply
  cases hall : S.describeAll with
  | error e =>
    rw [hall] at hreply
    obtain ⟨repl', hrepl', herr'⟩ := hreply
    obtain rfl := Option.some.inj (hrepl.symm.trans hrepl')
    rw [herr] at herr'
    cases herr'
  | ok descs' =>
    rw [hall] at hreply
    obtain rfl := Option.some.inj (hrepl.symm.trans hreply)
    have hdescribed := DescribedServer.isDescribed_of_describeAll hS hall
    have hdevids : (List.range S.live.devices.length).map UInt32.ofNat =
        descs'.map Devdescribe.devid :=
      map_eq_map_of_forall₂ hdescribed fun _ _ h => h.devid.symm
    refine ⟨hdevids ▸ hids, fun desc hdesc => ?_⟩
    obtain ⟨i, -, hi⟩ := exists_mem_of_forall₂ hdescribed (hmem desc hdesc)
    rwa [hi.toNat_devid]

/-- Why a reply has an error. -/
theorem describeAll_of_reply {repl : Servdescribe} {e : ReplyException}
    (hrepl : S.describeServer = some repl) (he : checkReplErr repl.err = .error e) :
    ∃ thrown, S.describeAll = .error thrown ∧
      checkReplErr (some (foxtrotRpcErrorHandling thrown)) = .error e := by
  have hreply := S.describeServer_reply
  cases hall : S.describeAll with
  | error thrown =>
    rw [hall] at hreply
    obtain ⟨repl', hrepl', herr'⟩ := hreply
    obtain rfl := Option.some.inj (hrepl.symm.trans hrepl')
    exact ⟨thrown, rfl, herr' ▸ he⟩
  | ok descs =>
    rw [hall] at hreply
    obtain rfl := Option.some.inj (hrepl.symm.trans hreply)
    cases he

end Reloading

/-! ### The invariant -/

section Invariant

variable {W Ty Val ι : Type} {servers : ι → DescribedServer W Ty Val}
  {takes : EnumDescriptor → Bool} {cl : DeviceTree} {log : List (TreeSeen ι)} {w : TreeSeen ι}

/-- The lists that are made of these devices. -/
def KeyCache.of (descs : List Devdescribe) : KeyCache :=
  ⟨descs.map Devdescribe.devtype, descs.map Devdescribe.devcomment, descs.map Devdescribe.devid⟩

/-- What holds of an object, also before its first reload. -/
structure DeviceTree.Kept (cl : DeviceTree) (log : List (TreeSeen ι)) : Prop where
  lists : Lists cl.customAttrSet cl.attrs
  attrs : ∀ name dev, cl.attrs.lookup name = some dev → dev ∈ cl.devices
  uncached : cl.cache = none → ∀ u ∈ log, u.isItem = false
  cached : ∀ cache, cl.cache = some cache → (∃ u ∈ log, u.isItem = true) ∧
    ∃ i first, firstTree log = some (i, first) ∧ cache = KeyCache.of first
  classed : ∀ dev ∈ cl.devices, dev.Classed (lookupEnumType cl.enumDescs)
  given : ∀ u ∈ log, ∀ dev, u.device? = some dev → dev.Classed (lookupEnumType cl.enumDescs)

/-- What holds of a client. -/
structure DeviceTree.Current (servers : ι → DescribedServer W Ty Val) (cl : DeviceTree)
    (log : List (TreeSeen ι)) : Prop extends cl.Kept log where
  devices : ∃ i descs, lastTree log = some (i, descs) ∧
    (∀ desc ∈ descs, (servers i).IsDescribed desc.devid.toNat desc) ∧
      List.Forall₂ Device.MadeOf descs cl.devices
  shown : ∀ name, Option.Rel (fun dev p => dev.Shows (servers p.1) p.2.devid.toNat)
    (cl.attrs.lookup name) (lastEffect TreeSeen.attrEffect log name)

/-- Where the program is, after what it has seen. Without a client, it has only seen the constructor
raise. -/
def TreeInv (servers : ι → DescribedServer W Ty Val) (s : Option DeviceTree)
    (log : List (TreeSeen ι)) : Prop :=
  match s with
  | none => ∀ u ∈ log, ∃ i e, u = .reloadFailed i e
  | some cl => cl.Current servers log

private theorem lastTree_concat_of_none (h : w.devices? = none) :
    lastTree (log ++ [w]) = lastTree log := by
  rw [lastTree, lastWritten_concat_of_none h]
  rfl

private theorem lastTree_concat_reloaded (i : ι) (descs : List Devdescribe) :
    lastTree (log ++ [.reloaded i descs]) = some (i, descs) := by
  have hsome : (TreeSeen.reloaded i descs).devices? = some ((), i, descs) := rfl
  rw [lastTree, lastWritten_concat_of_some hsome, Function.update_self]

/-- Until then, the first description that a key was looked up in is the last one. -/
theorem firstTree_of_not_isItem (h : ∀ u ∈ log, u.isItem = false) :
    firstTree log = lastTree log := by
  rw [firstTree, List.takeWhile_eq_self_iff.mpr fun u hu => by rw [h u hu]; rfl]

private theorem firstTree_concat_of_exists (h : ∃ u ∈ log, u.isItem = true) :
    firstTree (log ++ [w]) = firstTree log := by
  rw [firstTree, firstTree, List.takeWhile_append, if_neg]
  intro hlength
  have hself := List.takeWhile_eq_self_iff.mp
    ((List.takeWhile_prefix _).eq_of_length hlength)
  obtain ⟨u, hu, hitem⟩ := h
  have hnot := hself u hu
  rw [hitem] at hnot
  cases hnot

/-- The first access by key caches the keys of the tree then. -/
private theorem firstTree_concat_item (h : ∀ u ∈ log, u.isItem = false) (hw : w.isItem = true) :
    firstTree (log ++ [w]) = lastTree log := by
  have htake : (log ++ [w]).takeWhile (fun w => !w.isItem) = log := by
    rw [List.takeWhile_append_of_pos fun u hu => by rw [h u hu]; rfl, List.takeWhile_cons, hw]
    exact List.append_nil log
  rw [firstTree, htake]

/-- An observation that is no lookup changes nothing about the lists. -/
theorem DeviceTree.Kept.concat (h : cl.Kept log) (hitem : w.isItem = false)
    (hdev : ∀ dev, w.device? = some dev → dev ∈ cl.devices) : cl.Kept (log ++ [w]) where
  lists := h.lists
  attrs := h.attrs
  uncached hcache u hu := by
    obtain hu | hu := List.mem_append.mp hu
    · exact h.uncached hcache u hu
    · rwa [List.mem_singleton.mp hu]
  cached cache hcache := by
    obtain ⟨⟨u, hu, huitem⟩, i, first, hfirst, hof⟩ := h.cached cache hcache
    refine ⟨⟨u, List.mem_append_left _ hu, huitem⟩, i, first, ?_, hof⟩
    rw [firstTree_concat_of_exists ⟨u, hu, huitem⟩, hfirst]
  classed := h.classed
  given u hu dev hudev := by
    obtain hu | hu := List.mem_append.mp hu
    · exact h.given u hu dev hudev
    · rw [List.mem_singleton.mp hu] at hudev
      exact h.classed dev (hdev dev hudev)

private theorem DeviceTree.kept_new (h : ∀ u ∈ log, ∃ i e, u = .reloadFailed i e) :
    DeviceTree.new.Kept log where
  lists := ⟨List.nodup_nil, fun name => iff_of_false List.not_mem_nil (AList.notMem_empty name)⟩
  attrs name dev hdev := by
    rw [new, AList.lookup_empty] at hdev
    cases hdev
  uncached _ u hu := by
    obtain ⟨i, e, rfl⟩ := h u hu
    rfl
  cached cache hcache := by cases hcache
  classed dev hdev := absurd hdev List.not_mem_nil
  given u hu dev hdev := by
    obtain ⟨i, e, rfl⟩ := h u hu
    cases hdev

/-- The attributes go away first. -/
theorem DeviceTree.Kept.cleared (h : cl.Kept log) :
    ({ cl with attrs := ∅, customAttrSet := [] } : DeviceTree).Kept log where
  lists := ⟨List.nodup_nil, fun name => iff_of_false List.not_mem_nil (AList.notMem_empty name)⟩
  attrs name dev hdev := by
    rw [AList.lookup_empty] at hdev
    cases hdev
  uncached := h.uncached
  cached := h.cached
  classed := h.classed
  given := h.given

/-- A new tree has the classes of the old one. -/
theorem DeviceTree.Kept.setupDeviceTree (h : cl.Kept log) (hattrs : cl.attrs = ∅)
    (hcustom : cl.customAttrSet = []) (descs : List Devdescribe) :
    (cl.setupDeviceTree descs).Kept log := by
  obtain ⟨hstart, hmade, hclassed⟩ := newDevices_spec descs cl.enumDescs
  refine ⟨?_, fun name dev hdev => ?_, h.uncached, h.cached, hclassed, fun u hu dev hdev => ?_⟩
  · rw [DeviceTree.setupDeviceTree, hattrs, hcustom]
    exact lists_setattrs _ _
  · rw [DeviceTree.setupDeviceTree, hattrs] at hdev
    change (setattrs _ _ _).lookup name = some dev at hdev
    rw [lookup_setattrs, AList.lookup_empty, Option.or_none] at hdev
    exact List.mem_of_mem_filter (List.mem_of_getLast? hdev)
  · exact (h.given u hu dev hdev).mono hstart

/-- Where a key was among the devices. -/
theorem KeyCache.index_of (first : List Devdescribe) (key : ItemKey) :
    (KeyCache.of first).index key = key.position first := by
  cases key with
  | int n => exact List.findIdx?_map
  | str s =>
    rw [index, ItemKey.position, of]
    simp only [List.findIdx?_map]
    have hcomments : s ∈ first.map Devdescribe.devcomment ↔
        (first.findIdx? fun desc => desc.devcomment = s).isSome := by
      simp [List.findIdx?_isSome]
    split_ifs with hs
    · obtain ⟨idx, hidx⟩ := Option.isSome_iff_exists.mp (hcomments.mp hs)
      rw [hidx, Option.some_or]
      exact hidx
    · rw [Option.not_isSome_iff_eq_none.mp (hcomments.not.mp hs), Option.none_or]
      rfl

/-! ### One step -/

/-- What is made of a description shows the device of it. -/
private theorem rel_of_madeOf {i : ι} {desc : Option Devdescribe} {dev : Option Device}
    (h : Option.Rel Device.MadeOf desc dev)
    (hdesc : ∀ d, desc = some d → (servers i).IsDescribed d.devid.toNat d) :
    Option.Rel (fun dev (p : ι × Devdescribe) => dev.Shows (servers p.1) p.2.devid.toNat) dev
      (desc.map (i, ·)) := by
  cases h with
  | none => exact .none
  | some hmade => exact .some (hmade.shows (hdesc _ rfl))

/-- **The new tree shows what the server has described.** -/
theorem current_setupDeviceTree (hcl : cl.Kept log) (hattrs : cl.attrs = ∅)
    (hcustom : cl.customAttrSet = []) {i : ι} {descs : List Devdescribe}
    (hdescs : ∀ desc ∈ descs, (servers i).IsDescribed desc.devid.toNat desc) :
    (cl.setupDeviceTree descs).Current servers (log ++ [.reloaded i descs]) := by
  obtain ⟨-, hmade, -⟩ := newDevices_spec descs cl.enumDescs
  refine ⟨(hcl.setupDeviceTree hattrs hcustom descs).concat rfl fun dev hdev => ?_,
    ⟨i, descs, lastTree_concat_reloaded i descs, hdescs, hmade⟩, fun name => ?_⟩
  · cases hdev
  · have heffect : lastEffect TreeSeen.attrEffect (log ++ [.reloaded i descs]) name =
        (lastNamed descs name).map (i, ·) := by
      rw [lastEffect_concat]
      rfl
    have hlookup : (cl.setupDeviceTree descs).attrs.lookup name =
        (((newDevices descs cl.enumDescs).1.filter fun dev => dev.attrname = name).getLast?) := by
      rw [DeviceTree.setupDeviceTree, hattrs]
      change (setattrs _ _ _).lookup name = _
      rw [lookup_setattrs, AList.lookup_empty, Option.or_none]
    rw [heffect, hlookup]
    refine rel_of_madeOf (getLast?_of_forall₂ (List.rel_filter ?_ hmade)) fun desc hdesc => ?_
    · intro desc dev hdev
      simp only [Device.attrname, hdev.comment, hdev.devtp]
    · exact hdescs desc (List.mem_of_mem_filter (List.mem_of_getLast? hdesc))

/-- Without a description the attributes are gone, and the devices stay. -/
theorem current_of_failed (hcl : cl.Current servers log) (i : ι) (e : ReloadException) :
    ({ cl with attrs := ∅, customAttrSet := [] } : DeviceTree).Current servers
      (log ++ [.reloadFailed i e]) := by
  obtain ⟨i', descs, hlast, hdescs, hmade⟩ := hcl.devices
  refine ⟨hcl.toKept.cleared.concat rfl fun dev hdev => ?_, ⟨i', descs, ?_, hdescs, hmade⟩,
    fun name => ?_⟩
  · cases hdev
  · rwa [lastTree_concat_of_none rfl]
  · rw [AList.lookup_empty, lastEffect_concat]
    exact .none

/-- The keys of the cache are those of the first description that a key is looked up in. -/
theorem DeviceTree.Current.keyCache (hcl : cl.Current servers log) {w : TreeSeen ι}
    (hw : w.isItem = true) : ∃ i first, firstTree log = some (i, first) ∧
      firstTree (log ++ [w]) = some (i, first) ∧ cl.keyCache = KeyCache.of first := by
  obtain ⟨i, descs, hlast, hdescs, hmade⟩ := hcl.devices
  rw [DeviceTree.keyCache]
  cases hcache : cl.cache with
  | none =>
    have hnone := hcl.uncached hcache
    refine ⟨i, descs, ?_, ?_, ?_⟩
    · rw [firstTree_of_not_isItem hnone, hlast]
    · rw [firstTree_concat_item hnone hw, hlast]
    · rw [Option.getD_none, KeyCache.of,
        map_eq_map_of_forall₂ hmade fun _ _ h => h.devtp.symm,
        map_eq_map_of_forall₂ hmade fun _ _ h => h.comment.symm,
        map_eq_map_of_forall₂ hmade fun _ _ h => h.devid.symm]
  | some cache =>
    obtain ⟨hexists, i₀, first, hfirst, rfl⟩ := hcl.cached cache hcache
    exact ⟨i₀, first, hfirst, (firstTree_concat_of_exists hexists).trans hfirst, rfl⟩

/-- A lookup gives the device at the place of the key. -/
theorem itemGives_getitem {i : ι} {descs first : List Devdescribe}
    (hdescs : ∀ desc ∈ descs, (servers i).IsDescribed desc.devid.toNat desc)
    (hmade : List.Forall₂ Device.MadeOf descs cl.devices) (hcache : cl.keyCache = KeyCache.of first)
    (key : ItemKey) : ItemGives (servers i) first descs key (cl.getitem key).2 := by
  rw [ItemGives, DeviceTree.getitem, hcache]
  simp only [KeyCache.index_of]
  cases key.position first with
  | none => rfl
  | some idx =>
    -- the devices stand in the order of their descriptions
    have hrel := getElem?_of_forall₂ hmade idx
    cases hdesc : descs[idx]? with
    | none =>
      rw [hdesc] at hrel
      cases hdev : cl.devices[idx]? with
      | none => simp only [hdesc, hdev]
      | some dev =>
        rw [hdev] at hrel
        cases hrel
    | some desc =>
      rw [hdesc] at hrel
      cases hdev : cl.devices[idx]? with
      | none =>
        rw [hdev] at hrel
        cases hrel
      | some dev =>
        rw [hdev] at hrel
        cases hrel with
        | some hdevmade =>
          simp only [hdesc, hdev]
          exact ⟨dev, rfl, hdevmade.shows (hdescs desc (List.mem_of_getElem? hdesc))⟩

/-- What is found by key is a device of the tree. -/
private theorem mem_devices_of_getitem {key : ItemKey} {dev : Device}
    (h : (TreeSeen.item key (cl.getitem key).2 : TreeSeen ι).device? = some dev) :
    dev ∈ cl.devices := by
  have hok : (cl.getitem key).2 = .ok dev := by
    cases hresult : (cl.getitem key).2 with
    | error e =>
      rw [hresult] at h
      cases h
    | ok dev' =>
      rw [hresult] at h
      exact congrArg _ (Option.some.inj h)
  rw [DeviceTree.getitem] at hok
  simp only at hok
  split at hok
  · cases hok
  · split at hok
    · cases hok
    · rename_i hdev
      exact Except.ok.inj hok ▸ List.mem_of_getElem? hdev

/-- An access by key finds the device of the tree, and keeps it. -/
private theorem DeviceTree.Current.getitem (hcl : cl.Current servers log) (key : ItemKey) :
    TreeSeen.Conforms servers log (.item key (cl.getitem key).2) ∧
      (cl.getitem key).1.Current servers (log ++ [.item key (cl.getitem key).2]) := by
  obtain ⟨i, descs, hlast, hdescs, hmade⟩ := hcl.devices
  obtain ⟨i₀, first, hfirst, hfirst', hcache⟩ :=
    hcl.keyCache (w := .item key (cl.getitem key).2) rfl
  refine ⟨⟨i, descs, i₀, first, hlast, ?_, itemGives_getitem hdescs hmade hcache key⟩, ?_⟩
  · exact hfirst
  · have hkept : (cl.getitem key).1.Kept (log ++ [.item key (cl.getitem key).2]) :=
      { lists := hcl.lists
        attrs := hcl.attrs
        uncached := fun h => by cases h
        cached := fun cache h => ⟨⟨_, List.mem_append_right _ (List.mem_singleton.mpr rfl), rfl⟩,
          i₀, first, hfirst', (Option.some.inj h).symm.trans hcache⟩
        classed := hcl.classed
        given := fun u hu dev hdev => by
          obtain hu | hu := List.mem_append.mp hu
          · exact hcl.given u hu dev hdev
          · rw [List.mem_singleton.mp hu] at hdev
            exact hcl.classed dev (mem_devices_of_getitem hdev) }
    refine ⟨hkept, ⟨i, descs, ?_, hdescs, hmade⟩, fun name => ?_⟩
    · rwa [lastTree_concat_of_none rfl]
    · rw [lastEffect_concat]
      exact hcl.shown name

/-- An attribute is one of the devices. -/
theorem DeviceTree.Current.attribute (hcl : cl.Current servers log) (name : String) :
    TreeSeen.Conforms servers log (.attr name (cl.attrs.lookup name)) ∧
      cl.Current servers (log ++ [.attr name (cl.attrs.lookup name)]) := by
  obtain ⟨i, descs, hlast, hdescs, hmade⟩ := hcl.devices
  refine ⟨hcl.shown name, hcl.toKept.concat rfl fun dev hdev => ?_, ⟨i, descs, ?_, hdescs, hmade⟩,
    fun k => ?_⟩
  · exact hcl.attrs name dev hdev
  · rwa [lastTree_concat_of_none rfl]
  · rw [lastEffect_concat]
    exact hcl.shown k

/-- A reload of an object, whether it is a client yet or not. -/
theorem conforms_of_reload (hservers : ∀ i, (servers i).live.Consistent) (hcl : cl.Kept log)
    {i : ι} {arrives : Bool} {cl' : DeviceTree}
    {result : Except ReloadException (List Devdescribe)}
    (h : cl.Reloads (if arrives then (servers i).describeServer else none) cl' result) :
    match result with
    | .ok descs => TreeSeen.Conforms servers log (.reloaded i descs) ∧
        cl'.Current servers (log ++ [.reloaded i descs])
    | .error e => TreeSeen.Conforms servers log (.reloadFailed i e) ∧
        cl' = { cl with attrs := ∅, customAttrSet := [] } := by
  cases h with
  | rpcError hreply => exact ⟨.inl rfl, rfl⟩
  | reply repl e hreply he =>
    cases arrives with
    | false => cases hreply
    | true =>
      obtain ⟨thrown, hall, hcheck⟩ := describeAll_of_reply hreply he
      exact ⟨.inr ⟨thrown, e, hall, hcheck, rfl⟩, rfl⟩
  | devices repl descs hreply herr hids hmem =>
    cases arrives with
    | false => cases hreply
    | true =>
      have hdescs := isDescribed_of_reply (hservers i) hreply herr hids hmem
      refine ⟨hdescs, current_setupDeviceTree ?_ rfl rfl hdescs.2⟩
      exact { hcl.cleared with }

end Invariant

/-! ### Runs of a program -/

section Main

variable {W Ty Val ι : Type} {servers : ι → DescribedServer W Ty Val}
  {takes : EnumDescriptor → Bool} {s s' : Option DeviceTree} {l : TreeLabel ι} {w : TreeSeen ι}
  {log : List (TreeSeen ι)}

/-- **A step** conforms to the servers, and keeps the trees. -/
theorem TreeInv.step (hservers : ∀ i, (servers i).live.Consistent) (hs : TreeInv servers s log)
    (h : treeStep servers takes s l = some (s', w)) :
    TreeSeen.Conforms servers log w ∧ TreeInv servers s' (log ++ [w]) := by
  cases l with
  | reload i arrives keys =>
    rw [treeStep] at h
    cases hreload : reload servers takes s i arrives keys with
    | none =>
      rw [hreload] at h
      cases h
    | some r =>
      obtain ⟨cl', result⟩ := r
      have hkept : (s.getD .new).Kept log := by
        cases s with
        | none => exact DeviceTree.kept_new hs
        | some cl => exact DeviceTree.Current.toKept hs
      have hout := conforms_of_reload hservers hkept
        (DeviceTree.reloads_of_reloadDevices hkept.lists hreload)
      rw [hreload] at h
      cases result with
      | ok descs =>
        obtain ⟨rfl, rfl⟩ := Prod.mk.inj (Option.some.inj h)
        exact hout
      -- a reload that raises leaves the tree of the last one that did not
      | error e =>
        obtain ⟨hconforms, rfl⟩ := hout
        obtain ⟨rfl, rfl⟩ := Prod.mk.inj (Option.some.inj h)
        refine ⟨hconforms, ?_⟩
        cases s with
        | none =>
          intro u hu
          obtain hu | hu := List.mem_append.mp hu
          · exact hs u hu
          · exact ⟨i, e, List.mem_singleton.mp hu⟩
        | some cl => exact current_of_failed hs i e
  | attr name =>
    cases s with
    | none => cases h
    | some cl =>
      rw [treeStep] at h
      split_ifs at h
      obtain ⟨rfl, rfl⟩ := Prod.mk.inj (Option.some.inj h)
      exact DeviceTree.Current.attribute hs name
  | item key =>
    cases s with
    | none => cases h
    | some cl =>
      obtain ⟨rfl, rfl⟩ := Prod.mk.inj (Option.some.inj h)
      exact DeviceTree.Current.getitem hs key

/-- **The client shows the devices of the last description**, and looks up keys in the first one. -/
theorem device_tree (hservers : ∀ i, (servers i).live.Consistent)
    (h : ((deviceTrees servers takes).recorded (observeTree servers takes)).Reachable (s, log)) :
    Throughout (TreeSeen.Conforms servers) log ∧
      ∃ cls, ClassesOf cls ∧ ∀ w ∈ log, ∀ dev, w.device? = some dev → dev.Classed cls := by
  have hinit : TreeInv servers (deviceTrees servers takes).init [] :=
    fun u hu => absurd hu List.not_mem_nil
  have hall : TreeInv servers s log ∧ Throughout (TreeSeen.Conforms servers) log := by
    refine throughout_of_recorded (fun _ _ => True) hinit (fun s l s' log _ _ _ hstep hobs => ?_)
      (fun s l s' log w _ hinv _ hstep hobs => ?_) h
    · obtain ⟨r, hr, -⟩ := Option.map_eq_some_iff.mp hstep
      rw [observeTree, hr] at hobs
      cases hobs
    · obtain ⟨r, hr, rfl⟩ := Option.map_eq_some_iff.mp hstep
      rw [observeTree, hr] at hobs
      obtain rfl := Option.some.inj hobs
      exact TreeInv.step hservers hinv hr
  refine ⟨hall.2, ?_⟩
  cases s with
  | none =>
    refine ⟨fun _ => none, fun d d' k hd => ?_, fun w hw dev hdev => ?_⟩
    · cases hd
    · obtain ⟨i, e, rfl⟩ := hall.1 w hw
      cases hdev
  | some cl => exact ⟨_, classesOf_lookupEnumType cl.enumDescs, hall.1.given⟩

end Main

/-! ### Two shutters -/

/-- The mode of a shutter is an enumeration, and to toggle it returns the new one. -/
private def shutterType : Core.ReflectedType Unit :=
  ⟨[⟨0, "Mode", (), false⟩], [⟨1, "Toggle", (), [], false⟩], List.nodup_singleton _,
    List.nodup_singleton _⟩

private def shutterDevice : Core.Device Unit := .new (fun _ => "Mode") shutterType shutterType true

/-- Two servers with two shutters each. What is left on the one is right on the other. -/
private def shutterServer (b : Bool) : DescribedServer Unit Unit Unit where
  live :=
    { devices := [shutterDevice, shutterDevice]
      rttr :=
        { getName := fun _ => "Mode"
          isValid := fun _ => true
          getType := fun _ => ()
          canConvert := fun _ _ => true
          convert := fun a _ => some a
          isWrapper := fun _ => false
          extractWrappedValue := id }
      wireTypeToVariant := fun _ _ _ => .ok ()
      getVariantWireType := fun _ _ => .error (.exception "no mode")
      reactions := fun _ _ =>
        { getValue := fun _ => .ok (.other ())
          setValue := fun _ _ => .ok true
          invokeVariadic := fun _ _ => .ok none
          voidValue := .other () }
      after := fun _ _ _ => () }
  length_le := by change 2 ≤ 2 ^ 31; decide
  servcomment := "shutters"
  deviceTypeName _ := "shutter"
  deviceComment i := if decide (i = 0) = b then "left" else "right"
  describeType _ := .ok (.enumeration "Mode" ⟨"Mode", [("Closed", 0), ("Open", 1)]⟩)
  templateArgument _ := none
  byteDataType _ := none

/-- A key is looked up before and after a reload from the other server, and an attribute before and
after one that fails. -/
def shutterTrace : List (TreeLabel Bool) :=
  [.reload false true [1, 0], .item (.int 0), .reload true true [0, 1], .item (.int 0),
    .attr "left", .reload true false [], .attr "left"]

/-- A client of the shutters. -/
private def shutterTrees :=
  (deviceTrees shutterServer fun _ => true).recorded (observeTree shutterServer fun _ => true)

theorem device_tree_shutterTrace : ∃ s log, shutterTrees.Reachable (s, log) ∧
    log.map (fun w => w.device?.map Device.devid) =
      [none, some 0, none, some 1, some 0, none, none] ∧
    Throughout (TreeSeen.Conforms shutterServer) log ∧
      ∃ cls, ClassesOf cls ∧ ∀ w ∈ log, ∀ dev, w.device? = some dev → dev.Classed cls := by
  have hrun : ((shutterTrees.run shutterTrees.init shutterTrace).map fun r =>
      r.2.map fun w => w.device?.map Device.devid) =
        some [none, some 0, none, some 1, some 0, none, none] := by decide +kernel
  obtain ⟨⟨s, log⟩, hrun, hids⟩ := Option.map_eq_some_iff.mp hrun
  have hconsistent : ∀ b, (shutterServer b).live.Consistent := by
    intro b dev hdev
    have heq : dev = shutterDevice := by
      obtain heq | hdev := List.mem_cons.mp hdev
      · exact heq
      · exact List.mem_singleton.mp hdev
    rw [heq]
    exact Core.Device.consistent_new _ shutterType (by change 2 < 2 ^ 16; decide)
  have hreach := reachable_of_run hrun
  exact ⟨s, log, hreach, hids, device_tree hconsistent hreach⟩

end Python

end Foxtrot
