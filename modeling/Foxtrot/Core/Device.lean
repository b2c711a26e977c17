import Foxtrot.Core.Capability
import Foxtrot.Foundation.Numbering

/-!
# The capabilities of a device

`Device` (`core/src/Device.cpp`, `core/include/foxtrot/Device.h`) finds a capability in two ways.
It is described (`GetCapability`) by what reflection finds under its name: the first property, or
else the first method. It is invoked (`Invoke`) by way of a registry that `load_capability_map`
fills: every property and method, overloads included, gets a number, and every name the number of
its first entry. The registry's numbers are an `unsigned short`.

What is invoked is what is described, every listed name can be invoked, and numbers tell
capabilities apart (`Consistent`), exactly if the first entry of every name is among the first 65536
that were loaded and is the one that reflection finds (`consistent_iff`). The latter is so as soon
as the registry has been loaded after the construction: the constructor loads it as well, but finds
there the properties and methods of the base class only.
-/

namespace Foxtrot.Core

/-! ### Reflection -/

/-- `rttr::property`, with the number of the wrapper that carries it out. -/
structure Property (Ty : Type) where
  wrapper : ℕ
  name : String
  type : Ty
  readonly : Bool

/-- `rttr::method`. It streams if its metadata have `streamdata`. -/
structure Method (Ty : Type) where
  wrapper : ℕ
  name : String
  returnType : Ty
  parameters : List (String × Ty)
  streamdata : Bool

/-- The `std::variant` of a property and a method. -/
inductive Invokable (Ty : Type) where
  | property (prop : Property Ty)
  | method (meth : Method Ty)

/-- `rttr::type`, of a class: its properties and methods. -/
structure ReflectedType (Ty : Type) where
  properties : List (Property Ty)
  methods : List (Method Ty)
  nodup_properties : properties.Nodup
  nodup_methods : methods.Nodup

variable {Ty : Type}

/-- `get_name`. -/
def Invokable.name : Invokable Ty → String
  | .property prop => prop.name
  | .method meth => meth.name

/-- `get_property`. -/
def ReflectedType.getProperty (reflecttp : ReflectedType Ty) (name : String) :
    Option (Property Ty) :=
  reflecttp.properties.find? fun prop => prop.name = name

/-- `get_method`. -/
def ReflectedType.getMethod (reflecttp : ReflectedType Ty) (name : String) : Option (Method Ty) :=
  reflecttp.methods.find? fun meth => meth.name = name

/-- The properties and then the methods. -/
def ReflectedType.entries (reflecttp : ReflectedType Ty) : List (Invokable Ty) :=
  reflecttp.properties.map .property ++ reflecttp.methods.map .method

/-- `GetCapability`, of a property or a method. The argument of a property that can be written is
named like its type. -/
def Invokable.getCapability (getName : Ty → String) (pm : Invokable Ty) :
    Capability Ty (Invokable Ty) :=
  match pm with
  | .property prop =>
    { type := if prop.readonly then .valueReadonly else .valueReadwrite
      capabilityName := prop.name
      argnames := if prop.readonly then [] else [getName prop.type]
      argtypes := if prop.readonly then [] else [prop.type]
      returntype := prop.type
      invokable := some pm }
  | .method meth =>
    { type := if meth.streamdata then .stream else .action
      capabilityName := meth.name
      argnames := meth.parameters.map Prod.fst
      argtypes := meth.parameters.map Prod.snd
      returntype := meth.returnType
      invokable := some pm }

/-! ### The registry -/

/-- `Device`, with the type of the object. -/
structure Device (Ty : Type) where
  reflecttp : ReflectedType Ty
  capRegistry : AList fun _ : BitVec 16 => Capability Ty (Invokable Ty)
  capStringRegistry : AList fun _ : String => BitVec 16
  registryIsLoaded : Bool

namespace Device

/-- `load_capability_map`, where the type of the object is `reflecttp`. Nothing ever sets
`registryIsLoaded`. -/
def loadFrom (getName : Ty → String) (reflecttp : ReflectedType Ty) (forceReload : Bool)
    (dev : Device Ty) : Device Ty :=
  if !dev.registryIsLoaded || forceReload then
    let loaded := Numbering.fill 16 Capability.capabilityName
      (reflecttp.entries.map (Invokable.getCapability getName))
    { dev with capRegistry := loaded.items, capStringRegistry := loaded.numbers }
  else dev

/-- `load_capability_map`. -/
def loadCapabilityMap (getName : Ty → String) (forceReload : Bool) (dev : Device Ty) : Device Ty :=
  dev.loadFrom getName dev.reflecttp forceReload

/-- The constructor. The type of an object under construction is the base class, `base`. -/
def new (getName : Ty → String) (base reflecttp : ReflectedType Ty) (loadCapabilities : Bool) :
    Device Ty :=
  let dev : Device Ty := ⟨reflecttp, ∅, ∅, false⟩
  if loadCapabilities then dev.loadFrom getName base true else dev

/-- Calls of `load_capability_map`, one after the other. -/
def loads (getName : Ty → String) (calls : List Bool) (dev : Device Ty) : Device Ty :=
  calls.foldl (fun dev forceReload => dev.loadCapabilityMap getName forceReload) dev

/-- `GetCapabilityNames`. -/
def getCapabilityNames (dev : Device Ty) : List String :=
  dev.reflecttp.properties.map Property.name ++ dev.reflecttp.methods.map Method.name

/-- `GetCapability`, of a name. -/
def getCapability (getName : Ty → String) (dev : Device Ty) (capname : String) :
    Except Thrown (Capability Ty (Invokable Ty)) :=
  match dev.reflecttp.getProperty capname, dev.reflecttp.getMethod capname with
  | some prop, _ => .ok ((Invokable.property prop).getCapability getName)
  | none, some meth => .ok ((Invokable.method meth).getCapability getName)
  | none, none => .error (.outOfRange "requested capability doesn't seem to exist!")

/-- What `Invoke` calls for a number of the registry. -/
def invokableAt (dev : Device Ty) (capid : BitVec 16) : Except Thrown (Invokable Ty) :=
  match dev.capRegistry.lookup capid with
  | none => .error (.outOfRange "map::at")
  | some cap =>
    match cap.invokable with
    | none => .error (.exception "invokable in table has no value! This should NEVER happen")
    | some pm => .ok pm

/-- What `Invoke` calls for a name. -/
def invokable (dev : Device Ty) (capname : String) : Except Thrown (Invokable Ty) :=
  match dev.capStringRegistry.lookup capname with
  | none => .error (.outOfRange "map::at")
  | some capid => dev.invokableAt capid

end Device

/-! ### What is described and what is invoked -/

/-- What a name invokes is what it describes, every listed name invokes something, and different
numbers are those of different capabilities. -/
structure Device.Consistent (getName : Ty → String) (dev : Device Ty) : Prop where
  invoked : ∀ capname pm, dev.invokable capname = .ok pm ↔
    dev.getCapability getName capname = .ok (pm.getCapability getName)
  listed : ∀ capname ∈ dev.getCapabilityNames, ∃ pm, dev.invokable capname = .ok pm
  distinct : ∀ capid capid' cap, dev.capRegistry.lookup capid = some cap →
    dev.capRegistry.lookup capid' = some cap → capid = capid'

/-- In `entries` the first of the name is the one that the type has, and among the first 65536. -/
def ReflectedType.Resolves (reflecttp : ReflectedType Ty) (entries : List (Invokable Ty))
    (capname : String) : Prop :=
  (entries.find? fun pm => pm.name = capname) =
      (reflecttp.entries.find? fun pm => pm.name = capname) ∧
    ∀ k ∈ entries.findIdx? fun pm => pm.name = capname, k < 2 ^ 16

/-- What was loaded last: the device's own properties and methods, or, before any call, those that
the constructor finds. -/
def lastLoaded (base reflecttp : ReflectedType Ty) (loadCapabilities : Bool) :
    List Bool → List (Invokable Ty)
  | [] => if loadCapabilities then base.entries else []
  | _ :: _ => reflecttp.entries

/-! ### Entries -/

section Entries

variable {getName : Ty → String} {reflecttp : ReflectedType Ty} {dev : Device Ty}
  {entries : List (Invokable Ty)} {capname : String} {pm : Invokable Ty}

/-- A capability has the name of its property or method. -/
@[simp]
theorem Invokable.capabilityName_getCapability :
    (pm.getCapability getName).capabilityName = pm.name := by
  cases pm <;> rfl

/-- A capability leads back to its property or method. -/
@[simp]
theorem Invokable.invokable_getCapability : (pm.getCapability getName).invokable = some pm := by
  cases pm <;> rfl

/-- Different properties and methods have different capabilities. -/
private theorem Invokable.getCapability_injective :
    Function.Injective (Invokable.getCapability getName) := by
  intro pm pm' h
  have hinv := congrArg Capability.invokable h
  rwa [invokable_getCapability, invokable_getCapability, Option.some.injEq] at hinv

/-- No property or method is listed twice. -/
theorem ReflectedType.nodup_entries (reflecttp : ReflectedType Ty) : reflecttp.entries.Nodup := by
  refine List.Nodup.append ?_ ?_ ?_
  · exact reflecttp.nodup_properties.map fun _ _ h => Invokable.property.inj h
  · exact reflecttp.nodup_methods.map fun _ _ h => Invokable.method.inj h
  · intro pm hprop hmeth
    obtain ⟨prop, -, rfl⟩ := List.mem_map.mp hprop
    obtain ⟨meth, -, h⟩ := List.mem_map.mp hmeth
    cases h

/-- The first entry of a name is a property, or else a method. -/
theorem ReflectedType.find?_entries (reflecttp : ReflectedType Ty) (capname : String) :
    (reflecttp.entries.find? fun pm => pm.name = capname) =
      ((reflecttp.getProperty capname).map .property).or
        ((reflecttp.getMethod capname).map .method) := by
  rw [entries, List.find?_append, List.find?_map, List.find?_map]
  rfl

/-- A name describes its first entry. -/
theorem Device.getCapability_eq_ok_iff :
    dev.getCapability getName capname = .ok (pm.getCapability getName) ↔
      (dev.reflecttp.entries.find? fun pm => pm.name = capname) = some pm := by
  rw [getCapability, ReflectedType.find?_entries]
  cases dev.reflecttp.getProperty capname with
  | some prop => simp [Invokable.getCapability_injective.eq_iff]
  | none =>
    cases dev.reflecttp.getMethod capname with
    | some meth => simp [Invokable.getCapability_injective.eq_iff]
    | none => simp

/-- The names are those of the properties and methods. -/
private theorem Device.mem_getCapabilityNames :
    capname ∈ dev.getCapabilityNames ↔ ∃ pm ∈ dev.reflecttp.entries, pm.name = capname := by
  rw [getCapabilityNames, ReflectedType.entries]
  simp only [List.mem_append, List.mem_map, or_and_right, exists_or]
  constructor
  · rintro (⟨prop, hprop, rfl⟩ | ⟨meth, hmeth, rfl⟩)
    · exact .inl ⟨_, ⟨prop, hprop, rfl⟩, rfl⟩
    · exact .inr ⟨_, ⟨meth, hmeth, rfl⟩, rfl⟩
  · rintro (⟨_, ⟨prop, hprop, rfl⟩, rfl⟩ | ⟨_, ⟨meth, hmeth, rfl⟩, rfl⟩)
    · exact .inl ⟨prop, hprop, rfl⟩
    · exact .inr ⟨meth, hmeth, rfl⟩

end Entries

/-! ### A loaded registry -/

section Registry

variable {getName : Ty → String} {reflecttp : ReflectedType Ty} {dev : Device Ty}
  {entries : List (Invokable Ty)} {capname : String} {pm : Invokable Ty}

/-- The numbering of the entries that are loaded. -/
def numbering (getName : Ty → String) (entries : List (Invokable Ty)) :
    Numbering 16 String (Capability Ty (Invokable Ty)) :=
  Numbering.fill 16 Capability.capabilityName (entries.map (Invokable.getCapability getName))

/-- A device of this type holds these entries in its registry. -/
structure Device.Holds (getName : Ty → String) (reflecttp : ReflectedType Ty)
    (entries : List (Invokable Ty)) (dev : Device Ty) : Prop where
  reflecttp_eq : dev.reflecttp = reflecttp
  capRegistry_eq : dev.capRegistry = (numbering getName entries).items
  capStringRegistry_eq : dev.capStringRegistry = (numbering getName entries).numbers
  notLoaded : dev.registryIsLoaded = false

/-- A call always loads. -/
theorem Device.Holds.loadFrom (h : dev.Holds getName reflecttp entries)
    (loaded : ReflectedType Ty) (forceReload : Bool) :
    (dev.loadFrom getName loaded forceReload).Holds getName reflecttp loaded.entries := by
  rw [Device.loadFrom, h.notLoaded, Bool.not_false, Bool.true_or, if_pos rfl]
  exact ⟨h.reflecttp_eq, rfl, rfl, rfl⟩

/-- The registry holds what has been loaded last. -/
theorem Device.Holds.loads (calls : List Bool) :
    ∀ {entries : List (Invokable Ty)} {dev : Device Ty}, dev.Holds getName reflecttp entries →
      (dev.loads getName calls).Holds getName reflecttp
        (if calls = [] then entries else reflecttp.entries) := by
  induction calls with
  | nil => exact fun h => h
  | cons forceReload calls ih =>
    intro entries dev h
    have hstep : (dev.loadCapabilityMap getName forceReload).Holds getName reflecttp
        reflecttp.entries := by
      rw [loadCapabilityMap, h.reflecttp_eq]
      exact h.loadFrom reflecttp forceReload
    have hrest := ih hstep
    rwa [ite_self] at hrest

/-- What the registry holds after the constructor and any calls. -/
theorem Device.holds_lastLoaded (base reflecttp : ReflectedType Ty) (loadCapabilities : Bool)
    (calls : List Bool) :
    ((new getName base reflecttp loadCapabilities).loads getName calls).Holds getName reflecttp
      (lastLoaded base reflecttp loadCapabilities calls) := by
  have hempty : (⟨reflecttp, ∅, ∅, false⟩ : Device Ty).Holds getName reflecttp [] :=
    ⟨rfl, rfl, rfl, rfl⟩
  have hnew : (new getName base reflecttp loadCapabilities).Holds getName reflecttp
      (if loadCapabilities then base.entries else []) := by
    cases loadCapabilities with
    | true => exact hempty.loadFrom base true
    | false => exact hempty
  cases calls with
  | nil => exact hnew
  | cons forceReload calls => exact hnew.loads (forceReload :: calls)

/-- Under a number is the capability of the entry at its place. -/
theorem Device.Holds.lookup_capRegistry (h : dev.Holds getName reflecttp entries)
    (capid : BitVec 16) :
    dev.capRegistry.lookup capid = entries[capid.toNat]?.map (Invokable.getCapability getName) := by
  rw [h.capRegistry_eq, numbering, Numbering.lookup_items_fill, List.getElem?_map]

/-- A property or method is found under its number. -/
private theorem Device.Holds.invokableAt_eq_ok_iff (h : dev.Holds getName reflecttp entries)
    {capid : BitVec 16} :
    dev.invokableAt capid = .ok pm ↔
      dev.capRegistry.lookup capid = some (pm.getCapability getName) := by
  rw [invokableAt, h.lookup_capRegistry]
  cases entries[capid.toNat]? with
  | none => simp
  | some pm' => simp [Invokable.getCapability_injective.eq_iff]

/-- A name invokes what the numbering leads to. -/
theorem Device.Holds.invokable_eq_ok_iff (h : dev.Holds getName reflecttp entries) :
    dev.invokable capname = .ok pm ↔
      (numbering getName entries).resolve capname = some (pm.getCapability getName) := by
  rw [invokable, Numbering.resolve, ← h.capStringRegistry_eq, ← h.capRegistry_eq]
  cases dev.capStringRegistry.lookup capname with
  | none => simp
  | some capid => exact h.invokableAt_eq_ok_iff

/-- A name leads to an entry, if anywhere. -/
theorem exists_of_resolve {cap : Capability Ty (Invokable Ty)}
    (h : (numbering getName entries).resolve capname = some cap) :
    ∃ pm : Invokable Ty, cap = pm.getCapability getName := by
  rw [Numbering.resolve, Option.bind_eq_some_iff] at h
  obtain ⟨capid, -, h⟩ := h
  rw [numbering, Numbering.lookup_items_fill, List.getElem?_map, Option.map_eq_some_iff] at h
  obtain ⟨pm, -, rfl⟩ := h
  exact ⟨pm, rfl⟩

/-- The numbering leads from a name to the first entry of the type exactly if that is the first one
that was loaded, and has a number of its own. -/
theorem resolve_numbering_iff :
    (numbering getName entries).resolve capname =
        (reflecttp.entries.find? fun pm => pm.name = capname).map
          (Invokable.getCapability getName) ↔
      reflecttp.Resolves entries capname := by
  have hname : ∀ cap ∈ (reflecttp.entries.find? fun pm => pm.name = capname).map
      (Invokable.getCapability getName), cap.capabilityName = capname := by
    intro cap hcap
    obtain ⟨pm, hpm, rfl⟩ := Option.map_eq_some_iff.mp hcap
    simpa using List.find?_some hpm
  rw [numbering, Numbering.resolve_eq_iff hname, List.find?_map, List.findIdx?_map]
  have hcomp : (fun cap : Capability Ty (Invokable Ty) =>
      decide (cap.capabilityName = capname)) ∘ Invokable.getCapability getName =
        fun pm => decide (pm.name = capname) := by
    funext pm
    simp
  rw [hcomp, (Option.map_injective Invokable.getCapability_injective).eq_iff]
  exact Iff.rfl

/-- What has been loaded last has no entry twice. -/
private theorem nodup_lastLoaded (base reflecttp : ReflectedType Ty) (loadCapabilities : Bool)
    (calls : List Bool) : (lastLoaded base reflecttp loadCapabilities calls).Nodup := by
  cases calls with
  | nil =>
    cases loadCapabilities with
    | true => exact base.nodup_entries
    | false => exact .nil
  | cons _ _ => exact reflecttp.nodup_entries

/-- Numbers are those of different capabilities. -/
theorem Device.Holds.distinct (h : dev.Holds getName reflecttp entries) (hnodup : entries.Nodup)
    {capid capid' : BitVec 16} {cap : Capability Ty (Invokable Ty)}
    (hcap : dev.capRegistry.lookup capid = some cap)
    (hcap' : dev.capRegistry.lookup capid' = some cap) : capid = capid' := by
  rw [h.lookup_capRegistry, Option.map_eq_some_iff] at hcap hcap'
  obtain ⟨pm, hpm, rfl⟩ := hcap
  obtain ⟨pm', hpm', heq⟩ := hcap'
  obtain rfl := Invokable.getCapability_injective heq
  obtain ⟨hlt, -⟩ := List.getElem?_eq_some_iff.mp hpm
  exact BitVec.eq_of_toNat_eq ((List.getElem?_inj hlt hnodup).mp (hpm.trans hpm'.symm))

/-- Which registries are consistent with the type of the device. -/
theorem Device.Holds.consistent_iff_resolves (h : dev.Holds getName reflecttp entries)
    (hnodup : entries.Nodup) :
    dev.Consistent getName ↔ ∀ capname, reflecttp.Resolves entries capname := by
  have hdescribed : ∀ {capname pm},
      dev.getCapability getName capname = .ok (pm.getCapability getName) ↔
        (reflecttp.entries.find? fun pm => pm.name = capname) = some pm := by
    intro capname pm
    rw [getCapability_eq_ok_iff, h.reflecttp_eq]
  constructor
  · intro hc capname
    rw [← resolve_numbering_iff]
    cases hfind : reflecttp.entries.find? fun pm => pm.name = capname with
    | some pm =>
      exact h.invokable_eq_ok_iff.mp ((hc.invoked capname pm).mpr (hdescribed.mpr hfind))
    | none =>
      rw [Option.map_none, Option.eq_none_iff_forall_ne_some]
      intro cap hcap
      obtain ⟨pm, rfl⟩ := exists_of_resolve hcap
      have hfound := hdescribed.mp ((hc.invoked capname pm).mp (h.invokable_eq_ok_iff.mpr hcap))
      cases hfind.symm.trans hfound
  · intro hres
    have hinvoked : ∀ capname pm, dev.invokable capname = .ok pm ↔
        (reflecttp.entries.find? fun pm => pm.name = capname) = some pm := by
      intro capname pm
      rw [h.invokable_eq_ok_iff, resolve_numbering_iff.mpr (hres capname)]
      exact (Option.map_injective Invokable.getCapability_injective).eq_iff' rfl
    refine ⟨fun capname pm => (hinvoked capname pm).trans hdescribed.symm, fun capname hname => ?_,
      fun capid capid' cap => h.distinct hnodup⟩
    obtain ⟨pm, hpm, hname⟩ := mem_getCapabilityNames.mp hname
    rw [h.reflecttp_eq] at hpm
    have hsome : (reflecttp.entries.find? fun pm => pm.name = capname).isSome :=
      List.find?_isSome.mpr ⟨pm, hpm, by simpa using hname⟩
    obtain ⟨first, hfirst⟩ := Option.isSome_iff_exists.mp hsome
    exact ⟨first, (hinvoked capname first).mpr hfirst⟩

/-- **The device is consistent**, after its constructor and any calls, exactly if every name
resolves in what was loaded last. -/
theorem consistent_iff (base reflecttp : ReflectedType Ty) (loadCapabilities : Bool)
    (calls : List Bool) :
    ((Device.new getName base reflecttp loadCapabilities).loads getName calls).Consistent getName ↔
      ∀ capname, reflecttp.Resolves (lastLoaded base reflecttp loadCapabilities calls) capname :=
  (Device.holds_lastLoaded base reflecttp loadCapabilities calls).consistent_iff_resolves
    (nodup_lastLoaded base reflecttp loadCapabilities calls)

end Registry

/-- `count` properties, called `name` and a number each, and after them a method called
`method`. -/
private def crowdedType (count : ℕ) (name method : String) : ReflectedType Unit where
  properties := (List.range count).map fun k => ⟨k, name ++ k.repr, (), true⟩
  methods := [⟨0, method, (), [], false⟩]
  nodup_properties := List.nodup_range.map fun _ _ h => (Property.mk.inj h).1
  nodup_methods := List.nodup_singleton _

private theorem numberedLevel_ne (k : ℕ) : "level" ++ k.repr ≠ "Reset" := by
  intro h
  have hhead := congrArg (fun s : String => s.toList.head?) h
  rw [String.toList_append] at hhead
  cases hhead

/-- The number of the method after 65536 properties is that of the first property. -/
theorem not_consistent : ¬ ∀ (base reflecttp : ReflectedType Unit) (loadCapabilities : Bool)
    (calls : List Bool), ((Device.new (fun _ => "") base reflecttp loadCapabilities).loads
      (fun _ => "") calls).Consistent fun _ => "" := by
  intro hall
  have hconsistent :=
    hall (crowdedType 0 "level" "Reset") (crowdedType 65536 "level" "Reset") true [true]
  have hres := ((Device.holds_lastLoaded _ _ _ _).consistent_iff_resolves
    (nodup_lastLoaded _ _ _ _)).mp hconsistent "Reset"
  have hnone : ((crowdedType 65536 "level" "Reset").properties.map
      Invokable.property).findIdx? (fun pm => pm.name = "Reset") = none := by
    rw [List.findIdx?_eq_none_iff]
    intro pm hpm
    simp only [crowdedType, List.map_map, List.mem_map] at hpm
    obtain ⟨k, -, rfl⟩ := hpm
    exact decide_eq_false (numberedLevel_ne k)
  have hidx : (crowdedType 65536 "level" "Reset").entries.findIdx?
      (fun pm => pm.name = "Reset") = some 65536 := by
    rw [ReflectedType.entries, List.findIdx?_append, hnone, Option.none_or, List.length_map,
      crowdedType, List.length_map, List.length_range]
    rfl
  exact absurd (hres.2 65536 hidx) (by decide)

end Foxtrot.Core
