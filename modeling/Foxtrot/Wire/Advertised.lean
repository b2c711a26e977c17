import Foxtrot.Wire.ArrayDecoding
import Foxtrot.Wire.Description
import Foxtrot.Wire.Registry

/-!
# Messages and the advertised types

Clients make their decoders from the descriptions of types. `Matches` says when a message is of
the described shape, and `Advertised` for which values the message is of the shape that is
described for their type.

It is not for a number without a tag, such as a `long long`, which is described and cannot be sent;
a class that is no plain struct, and an enumerator without a `uint32`, which cannot either; and a
container that is not empty, if its elements are `short`, which has the tag of `unsigned short`, or
their type is not found for the description, or they come as references whose own type the code
asks for: structs, which are sent without fields, and unions. A union's value may match the
description of another alternative than its own.

So a value's message is compared with the description of any type (`Fits`). Each message constructor
matches one kind of type or a union with such an alternative (`Among`), and the recursion over the
value goes through one lemma for each of them.
-/

namespace Foxtrot

open Fallible

/-! ### Messages of the described shape -/

/-- The kind of the value in a simple message. -/
def FtSimplevariant.kind (m : FtSimplevariant) : Option SimplevalueTypes :=
  if m.isVoid then some .voidType
  else
    match m.value with
    | .notSet => none
    | .dblval _ => some .floatType
    | .intval _ => some .intType
    | .uintval _ => some .unsignedType
    | .boolval _ => some .boolType
    | .stringval _ => some .stringType
    | .tstampval => some .datetimeType
    | .handleval _ => some .remoteHandleType

/-- The kind and the size of the numbers with the tag. -/
def ByteDataTypes.numbers : ByteDataTypes → Option (SimplevalueTypes × ℕ)
  | .ucharType => some (.unsignedType, 1)
  | .charType => some (.intType, 1)
  | .ushortType => some (.unsignedType, 2)
  | .uintType => some (.unsignedType, 4)
  | .ulongType => some (.unsignedType, 8)
  | .shortType => some (.intType, 2)
  | .iintType => some (.intType, 4)
  | .longType => some (.intType, 8)
  | .bfloatType => some (.floatType, 4)
  | .bdoubleType => some (.floatType, 8)
  | .bcomplexType | .bdatetimeType | .bopaqueType => none

/-- Numbers with the tag are of the described type. -/
def MatchesTag (dtp : ByteDataTypes) : VariantDescriptor → Prop
  | .simplevar _ tp sizeof => ∃ kind, tp = some kind ∧ dtp.numbers = some (kind, sizeof)
  | .union _ _ possibleTypes => ∃ i, MatchesTag dtp (possibleTypes i)
  | _ => False

/-- The message is of the described shape: of the described case of `ft_variant`, and so are its
parts. An array of bytes has no elements that could be of another type if it is empty. -/
def Matches : VariantDescriptor → FtVariant → Prop
  | .union _ _ possibleTypes, m => ∃ i, Matches (possibleTypes i) m
  | .simplevar _ tp _, .simplevar v => ∃ kind, tp = some kind ∧ v.kind = some kind
  | .enumeration _ _, .enumval _ => True
  | .struct _ _ _ names fields, .structval _ value =>
    (∀ i, ∃ m, value.lookup (names i) = some m ∧ Matches (fields i) m) ∧
      ∀ field ∈ value, ∃ i, names i = field.1
  | .tuple _ n tupleMap, .tupleval value =>
    ∃ h : value.length = n, ∀ i, Matches (tupleMap i) (value.get (i.cast h.symm))
  | .homogArray _ _ valueType, .arrayval (.heavy data) => ∀ m ∈ data, Matches valueType m
  | .homogArray _ _ valueType, .arrayval (.encoded arr) =>
    arr.data ≠ [] → MatchesTag arr.dtp valueType
  | _, _ => False

/-! ### Values whose message is of the shape described for a type -/

/-- The type has the property, or an alternative of the union. -/
def Among (P : RType → Prop) : RType → Prop
  | .union _ _ alts => ∃ i, Among P (alts i)
  | tp => P tp

/-- The type is described as simple, of the kind. -/
def HasKind (kind : SimplevalueTypes) (tp : RType) : Prop :=
  ∃ size, describeSimpleType tp = .ok (some kind, size)

/-- The type is described as the one of the numbers with the tag. -/
def HasTag (dtp : ByteDataTypes) (tp : RType) : Prop :=
  ∃ kind size, describeSimpleType tp = .ok (some kind, size) ∧ dtp.numbers = some (kind, size)

def IsEnumeration : RType → Prop
  | .enumeration _ => True
  | _ => False

/-- The type is a tuple whose elements are as given. -/
def IsTuple {n : ℕ} (C : Fin n → RType → Prop) : RType → Prop
  | .tuple _ n' elems => ∃ h : n = n', ∀ i, C i (elems (i.cast h))
  | _ => False

/-- The type is a struct with the given properties, of types as given. -/
def IsStruct (properties : List String) (C : Fin properties.length → RType → Prop) :
    RType → Prop
  | .cls info props => info.isPODStruct = true ∧
      (∀ i, ∃ j, info.properties.get j = properties.get i ∧ C i (props j)) ∧
      info.properties ⊆ properties
  | _ => False

/-- The element type that is described for a container. -/
def describedElement (r : Rttr) (info : ContainerInfo) (elem : RType) : RType :=
  if (r.create (.container info elem)).isSome || info.isTemplateInstantiation then elem else .void

/-- The type is a container for which an element type is described as given. -/
def IsArray (r : Rttr) (C : RType → Prop) : RType → Prop
  | .container info elem => C (describedElement r info elem)
  | _ => False

/-- The kind of simple value that numbers are sent as. -/
def NumberKind.simplevalueType : NumberKind → SimplevalueTypes
  | .unsigned => .unsignedType
  | .signed => .intType
  | .floating => .floatType

/-- The message of the value is of the shape that is described for a type. -/
def Fits (r : Rttr) : (tp : RType) → Bool → tp.Val → RType → Prop
  | .void, _, _ => Among (HasKind .voidType)
  | .bool, _, _ => Among (HasKind .boolType)
  | .string, _, _ => Among (HasKind .stringType)
  | .remote _, _, _ | .optional _, _, _ => Among (HasKind .remoteHandleType)
  | .arith tp, ref, _ =>
    if tp ∈ ElemType.accepted then Among (HasKind tp.kind.simplevalueType)
    else fun tp' => ref = true ∧ Among (HasKind .boolType) tp'
  | .other _, ref, _ => fun tp' => ref = true ∧ Among (HasKind .boolType) tp'
  | .enumeration e, ref, v => fun tp' =>
    (r.toUint32 ⟨.enumeration e, ref, v⟩).isSome ∧ Among IsEnumeration tp'
  | .tuple _ _ elems, _, v => Among (IsTuple fun i => Fits r (elems i) false (v i))
  | .cls info props, ref, v => fun tp' => info.isPODStruct = true ∧
    if ref then Among (IsStruct [] fun i => i.elim0) tp'
    else Among (IsStruct info.properties fun i => Fits r (props i) false (v i)) tp'
  | .union _ _ alts, ref, v => fun tp' => ref = false ∧ Fits r (alts v.1) false v.2 tp'
  | .container _ elem, _, v => fun tp' => elem.rank = 0 ∧
    match elem.getByteDataType with
    | .ok dtp => Among (IsArray r fun tp => v.1 ≠ [] → Among (HasTag dtp) tp) tp'
    | .error _ => Among (IsArray r fun tp => ∀ i, Fits r elem true (v.1.get i) tp) tp'

/-- The result matches the description of a type exactly if the type is as said. -/
def FitsExactly (r : Rttr) (x : Conv FtVariant) (C : RType → Prop) : Prop :=
  ∀ ⦃tp lg d⦄, describeType r tp lg = .ok d → ∀ hm, Yields x hm (Matches d) ↔ C tp

/-! ### Descriptions -/

variable {r : Rttr} {lg : Option Logging} {d : VariantDescriptor}

/-- A simple type is described by its name, its kind and its size. -/
private theorem describeSimple_eq_ok_iff {tp : RType} :
    describeSimple tp = .ok d ↔
      ∃ desc, describeSimpleType tp = .ok desc ∧ d = .simplevar tp.getName desc.1 desc.2 := by
  rw [describeSimple, bind_eq_ok_iff]
  exact exists_congr fun desc => and_congr_right fun _ =>
    ⟨fun h => (Except.ok.inj h).symm, fun h => congrArg Except.ok h.symm⟩

/-- What holds of a description of a union exactly if it holds of one of an alternative. -/
theorem among_iff {Q : VariantDescriptor → Prop} {P : RType → Prop}
    (hunion : ∀ name n possibleTypes, Q (.union name n possibleTypes) ↔ ∃ i, Q (possibleTypes i))
    (hP : ∀ ⦃tp lg d⦄, tp.unioncheck = true → describeType r tp lg = .ok d → (Q d ↔ P tp))
    {tp : RType} (h : describeType r tp lg = .ok d) : Q d ↔ Among P tp := by
  induction tp generalizing d with
  | union name n alts ih =>
    obtain ⟨possibleTypes, htypes, hd⟩ := bind_eq_ok_iff.mp h
    obtain rfl := Except.ok.inj hd
    rw [hunion]
    exact exists_congr fun i => ih i (collect_eq_ok_iff.mp htypes i)
  | _ => exact hP rfl h

/-- What fits a type that is no union fits a union by some alternative. -/
private theorem fitsExactly_among {x : Conv FtVariant} {P : RType → Prop}
    (hP : ∀ ⦃tp lg d⦄, tp.unioncheck = true → describeType r tp lg = .ok d →
      ∀ hm, Yields x hm (Matches d) ↔ P tp) : FitsExactly r x (Among P) :=
  fun _ _ _ h hm => among_iff (Q := fun d => Yields x hm (Matches d))
    (fun _ _ _ => yields_exists_iff) (fun _ _ _ hcheck h => hP hcheck h hm) h

private theorem fitsExactly_throw (e : Failure) {C : RType → Prop} (hC : ∀ tp, ¬ C tp) :
    FitsExactly r (throw e) C :=
  fun tp _ _ _ _ => iff_of_false not_yields_throw (hC tp)

/-- What is not encoded fits nothing, whatever was to be made of it. -/
private theorem fitsExactly_throw_map {α : Type} (e : Failure) (f : α → FtVariant)
    {C : RType → Prop}
    (hC : ∀ tp, ¬ C tp) : FitsExactly r ((throw e : Conv α) >>= fun a => pure (f a)) C :=
  fun tp _ _ _ _ => iff_of_false (fun h => not_yields_throw (yields_map_iff.mp h)) (hC tp)

/-- What fits may be said in another way. -/
theorem FitsExactly.congr {x : Conv FtVariant} {C C' : RType → Prop} (h : FitsExactly r x C)
    (hC : ∀ tp, C tp ↔ C' tp) : FitsExactly r x C' :=
  fun tp _ _ hd hm => (h hd hm).trans (hC tp)

/-- The types that `describe_type` takes for simple ones. -/
def RType.describedSimple : RType → Bool
  | .tuple _ _ _ | .union _ _ _ | .enumeration _ | .container _ _ => false
  | .cls info _ => !info.isPODStruct
  | _ => true

/-- The descriptions of types that are not unions, in the cases of `describe_type`. -/
inductive Described (r : Rttr) : RType → VariantDescriptor → Prop
  | simple {tp : RType} {kind : Option SimplevalueTypes} {size : ℕ}
      (hsimple : tp.describedSimple = true) (h : describeSimpleType tp = .ok (kind, size)) :
      Described r tp (.simplevar tp.getName kind size)
  | enumeration (e : Enumeration) :
      Described r (.enumeration e) (.enumeration e.name (describeEnum r false e none))
  | array {info : ContainerInfo} {elem : RType} {lg : Option Logging} {fixedSize : Option ℕ}
      {valueType : VariantDescriptor}
      (h : describeType r (describedElement r info elem) lg = .ok valueType) :
      Described r (.container info elem) (.homogArray info.name fixedSize valueType)
  | struct {info : ClassInfo} {props : Fin info.properties.length → RType}
      {fields : Fin info.properties.length → VariantDescriptor} (hPOD : info.isPODStruct = true)
      (h : ∀ i, describeType r (props i) none = .ok (fields i)) :
      Described r (.cls info props)
        (.struct info.name info.name info.properties.length info.properties.get fields)
  | tuple {name : String} {n : ℕ} {elems : Fin n → RType} {lg : Option Logging}
      {tupleMap : Fin n → VariantDescriptor}
      (h : ∀ i, describeType r (elems i) lg = .ok (tupleMap i)) :
      Described r (.tuple name n elems) (.tuple name n tupleMap)

private theorem described_of_describeSimple {tp : RType} (hsimple : tp.describedSimple = true)
    (h : describeSimple tp = .ok d) : Described r tp d := by
  obtain ⟨desc, hdesc, rfl⟩ := describeSimple_eq_ok_iff.mp h
  exact .simple hsimple hdesc

private theorem described_of_describeArray {info : ContainerInfo} {elem : RType}
    (h : describeArray r lg info elem (describeType r elem lg) = .ok d) :
    Described r (.container info elem) d := by
  rw [describeArray] at h
  cases hcreate : r.create (.container info elem) with
  | some emptyvar =>
    rw [hcreate] at h
    obtain ⟨-, -, h⟩ := bind_eq_ok_iff.mp h
    obtain ⟨valueType, hvalue, hd⟩ := bind_eq_ok_iff.mp h
    obtain rfl := Except.ok.inj hd
    have helem : describedElement r info elem = elem := by simp [describedElement, hcreate]
    exact .array (helem.symm ▸ hvalue)
  | none =>
    have helem : describedElement r info elem =
        if info.isTemplateInstantiation then elem else .void := by simp [describedElement, hcreate]
    rw [hcreate] at h
    split_ifs at h helem with htemplate
    · obtain ⟨valueType, hvalue, hd⟩ := bind_eq_ok_iff.mp h
      obtain rfl := Except.ok.inj hd
      exact .array (helem.symm ▸ hvalue)
    · obtain ⟨valueType, hvalue, hd⟩ := bind_eq_ok_iff.mp h
      obtain rfl := Except.ok.inj hd
      have hvoid : describeType r .void none = .ok valueType := hvalue
      exact .array (helem.symm ▸ hvoid)

/-- A type that is no union is described by its kind. -/
private theorem described_of_describeType {tp : RType} (hcheck : tp.unioncheck = true)
    (h : describeType r tp lg = .ok d) : Described r tp d := by
  cases tp with
  | union name n alts => exact nomatch hcheck
  | tuple name n elems =>
    obtain ⟨tupleMap, hmap, hd⟩ := bind_eq_ok_iff.mp h
    obtain rfl := Except.ok.inj hd
    exact .tuple (collect_eq_ok_iff.mp hmap)
  | enumeration e =>
    obtain rfl := Except.ok.inj h
    exact .enumeration e
  | container info elem => exact described_of_describeArray h
  | cls info props =>
    rw [describeType] at h
    split_ifs at h with hPOD
    · obtain ⟨fields, hfields, hd⟩ := bind_eq_ok_iff.mp h
      obtain rfl := Except.ok.inj hd
      exact .struct hPOD (collect_eq_ok_iff.mp hfields)
    · exact described_of_describeSimple (by simp [RType.describedSimple, hPOD]) h
  | _ => exact described_of_describeSimple rfl h

/-! ### Simple messages and enumerations -/

/-- A simple message matches the description of a type of its kind. -/
private theorem matches_simplevar_iff {tp : RType} {m : FtSimplevariant} {kind : SimplevalueTypes}
    (hm : m.kind = some kind) (h : Described r tp d) :
    Matches d (.simplevar m) ↔ HasKind kind tp := by
  cases h with
  | simple hsimple hdesc =>
    constructor
    · rintro ⟨kind', rfl, hkind'⟩
      cases hm.symm.trans hkind'
      exact ⟨_, hdesc⟩
    · rintro ⟨size', hsize'⟩
      cases hdesc.symm.trans hsize'
      exact ⟨kind, rfl, hm⟩
  | struct | enumeration | array | tuple => exact iff_of_false id fun ⟨_, h⟩ => nomatch h

/-- An enumerator matches the descriptions of enumerations. -/
private theorem matches_enumval_iff {tp : RType} {m : FtEnum} (h : Described r tp d) :
    Matches d (.enumval m) ↔ IsEnumeration tp := by
  cases h with
  | enumeration e => exact Iff.rfl
  | simple hsimple hdesc =>
    cases tp with
    | enumeration e => exact nomatch hsimple
    | _ => exact Iff.rfl
  | struct | array | tuple => exact Iff.rfl

/-- For a message without a part, it is enough to look at the descriptions that it matches. -/
private theorem fitsExactly_of_returns {x : Conv FtVariant} {P : RType → Prop}
    (hx : ∀ hm, ∃ m hm', Returns x hm m hm' ∧ ∀ tp d, Described r tp d → (Matches d m ↔ P tp)) :
    FitsExactly r x (Among P) := by
  refine fitsExactly_among fun tp lg d hcheck h hm => ?_
  obtain ⟨m, hm', hret, hmatches⟩ := hx hm
  exact (yields_iff_of_returns hret).trans (hmatches tp d (described_of_describeType hcheck h))

private theorem fitsExactly_simple {x : Conv FtVariant} {kind : SimplevalueTypes}
    (hx : ∀ hm, ∃ m hm', Returns x hm (.simplevar m) hm' ∧ m.kind = some kind) :
    FitsExactly r x (Among (HasKind kind)) := by
  refine fitsExactly_of_returns fun hm => ?_
  obtain ⟨m, hm', hret, hkind⟩ := hx hm
  exact ⟨_, hm', hret, fun tp d => matches_simplevar_iff hkind⟩

/-! ### Tuples, structs, arrays -/

/-- A tuple fits the tuples that its elements fit. -/
private theorem fitsExactly_getTupleWireType {n : ℕ} {value : Fin n → Conv FtVariant}
    {C : Fin n → RType → Prop} (hvalue : ∀ i, FitsExactly r (value i) (C i)) :
    FitsExactly r (getTupleWireType value) (Among (IsTuple C)) := by
  refine fitsExactly_among fun tp lg d hcheck h hm => ?_
  rw [getTupleWireType, yields_map_iff]
  cases described_of_describeType hcheck h with
  | @tuple name n' elems lg tupleMap hmap =>
    by_cases hn : n = n'
    · subst hn
      have hmatches : ∀ elements : Fin n → FtVariant,
          Matches (.tuple name n tupleMap) (.tupleval (List.ofFn elements)) ↔
            ∀ i, Matches (tupleMap i) (elements i) := by
        intro elements
        refine ⟨fun h i => ?_, fun h => ⟨List.length_ofFn, fun i => ?_⟩⟩
        · obtain ⟨_, h⟩ := h
          have hi := h i
          rwa [List.get_ofFn] at hi
        · rw [List.get_ofFn]
          exact h i
      rw [yields_congr hmatches, yields_collect_iff fun i s => hvalue i (hmap i) s]
      refine ⟨fun h => ⟨rfl, h⟩, fun h => ?_⟩
      obtain ⟨_, h⟩ := h
      exact h
    · -- a tuple of another length never matches
      refine iff_of_false (not_yields_of_forall_not fun elements h => ?_) fun h => hn h.1
      obtain ⟨hlength, -⟩ := h
      exact hn (List.length_ofFn.symm.trans hlength)
  -- nor does a description that is not one of a tuple
  | simple hsimple hdesc =>
    refine iff_of_false (not_yields_of_forall_not fun _ => id) ?_
    cases tp with
    | tuple name n elems => exact nomatch hsimple
    | _ => exact id
  | struct | array | enumeration =>
    exact iff_of_false (not_yields_of_forall_not fun _ => id) id

/-- A message with a field for each property. -/
theorem matches_structval_iff {name name' structName : String} {properties : List String}
    (hnodup : properties.Nodup) {info : ClassInfo}
    {fields : Fin info.properties.length → VariantDescriptor}
    {simplevars : Fin properties.length → FtVariant} :
    Matches (.struct name structName info.properties.length info.properties.get fields)
        (.structval name' (List.ofFn fun i => (properties.get i, simplevars i))) ↔
      info.properties ⊆ properties ∧
        ∀ i, ∃ j, info.properties.get j = properties.get i ∧ Matches (fields j) (simplevars i) := by
  have hlookup := List.lookup_ofFn (List.nodup_iff_injective_get.mp hnodup) simplevars
  constructor
  · rintro ⟨hfields, hnames⟩
    refine ⟨fun key hkey => ?_, fun i => ?_⟩
    · obtain ⟨j, rfl⟩ := List.mem_iff_get.mp hkey
      obtain ⟨m, hm, -⟩ := hfields j
      have hsome : ((List.ofFn fun i => (properties.get i, simplevars i)).lookup
          (info.properties.get j)).isSome := by rw [hm]; rfl
      obtain ⟨field, hfield, hkey⟩ := List.lookup_isSome_iff.mp hsome
      obtain ⟨i, rfl⟩ := (List.mem_ofFn' _ _).mp hfield
      rw [beq_iff_eq.mp hkey]
      exact List.get_mem properties i
    · obtain ⟨j, hj⟩ := hnames (properties.get i, simplevars i) ((List.mem_ofFn' _ _).mpr ⟨i, rfl⟩)
      obtain ⟨m, hm, hmatches⟩ := hfields j
      rw [hj, hlookup i] at hm
      cases hm
      exact ⟨j, hj, hmatches⟩
  · rintro ⟨hsub, hfields⟩
    refine ⟨fun j => ?_, fun field hfield => ?_⟩
    · -- the names of a struct differ, so a field is found by its name
      obtain ⟨i, hi⟩ := List.mem_iff_get.mp (hsub (List.get_mem info.properties j))
      obtain ⟨j', hj', hmatches⟩ := hfields i
      obtain rfl : j' = j := List.nodup_iff_injective_get.mp info.nodup (hj'.trans hi)
      exact ⟨simplevars i, by rw [← hi, hlookup i], hmatches⟩
    · obtain ⟨i, rfl⟩ := (List.mem_ofFn' _ _).mp hfield
      obtain ⟨j, hj, -⟩ := hfields i
      exact ⟨j, hj⟩

private theorem fitsExactly_struct {name : String} {properties : List String}
    (hnodup : properties.Nodup)
    {value : Fin properties.length → Conv FtVariant} {C : Fin properties.length → RType → Prop}
    (hvalue : ∀ i, FitsExactly r (value i) (C i)) :
    FitsExactly r (do
      let simplevars ← collect value
      return .structval name (List.ofFn fun i => (properties.get i, simplevars i)))
      (Among (IsStruct properties C)) := by
  refine fitsExactly_among fun tp lg d hcheck h hm => ?_
  rw [yields_map_iff]
  cases described_of_describeType hcheck h with
  | @struct info props fields hPOD hfields =>
    -- a field matches the property of its name
    have hpart : ∀ i s, Yields (value i) s (fun m => ∃ j,
        info.properties.get j = properties.get i ∧ Matches (fields j) m) ↔
          ∃ j, info.properties.get j = properties.get i ∧ C i (props j) := by
      intro i s
      rw [yields_exists_iff]
      refine exists_congr fun j => ?_
      rw [yields_and_left_iff, hvalue i (hfields j) s]
    rw [yields_congr fun simplevars => matches_structval_iff hnodup, yields_and_left_iff,
      yields_collect_iff hpart]
    exact ⟨fun ⟨hsub, h⟩ => ⟨hPOD, h, hsub⟩, fun ⟨_, h, hsub⟩ => ⟨hsub, h⟩⟩
  | simple hsimple hdesc =>
    refine iff_of_false (not_yields_of_forall_not fun _ => id) ?_
    cases tp with
    | cls info props =>
      rintro ⟨hPOD, -⟩
      simp [RType.describedSimple, hPOD] at hsimple
    | _ => exact id
  | tuple | array | enumeration =>
    exact iff_of_false (not_yields_of_forall_not fun _ => id) id

/-- A struct without properties fits structs of the same kind. -/
private theorem fitsExactly_emptyStruct (name : String) :
    FitsExactly r (return .structval name []) (Among (IsStruct [] fun i => i.elim0)) :=
  @fitsExactly_struct r name [] List.nodup_nil (fun i => i.elim0) (fun i => i.elim0)
    fun i => i.elim0

/-- The tag of an array matches an element type that has it. -/
private theorem matchesTag_iff {dtp : ByteDataTypes} {tp : RType}
    (h : describeType r tp lg = .ok d) :
    MatchesTag dtp d ↔ Among (HasTag dtp) tp := by
  refine among_iff (fun _ _ _ => Iff.rfl) (fun tp lg d hcheck h => ?_) h
  cases described_of_describeType hcheck h with
  | simple hsimple hdesc =>
    constructor
    · rintro ⟨kind, rfl, hnumbers⟩
      exact ⟨kind, _, hdesc, hnumbers⟩
    · rintro ⟨kind, size, hdesc', hnumbers⟩
      cases hdesc.symm.trans hdesc'
      exact ⟨kind, rfl, hnumbers⟩
  | struct | enumeration | array | tuple => exact iff_of_false id fun ⟨_, _, h, _⟩ => nomatch h

/-- An array message, given what its elements come to for a description of their type. -/
theorem fitsExactly_arrayval {x : Conv (FtHomogArray FtVariant)} {C : RType → Prop}
    (hx : ∀ tp lg valueType, describeType r tp lg = .ok valueType → ∀ name fixedSize hm,
      Yields x hm (fun arr => Matches (.homogArray name fixedSize valueType) (.arrayval arr)) ↔
        C tp) :
    FitsExactly r (do return .arrayval (← x)) (Among (IsArray r C)) := by
  refine fitsExactly_among fun tp lg d hcheck h hm => ?_
  rw [yields_map_iff]
  cases described_of_describeType hcheck h with
  | array hvalue => exact hx _ _ _ hvalue _ _ hm
  | simple hsimple hdesc =>
    refine iff_of_false (not_yields_of_forall_not fun _ => id) ?_
    cases tp with
    | container info elem => exact nomatch hsimple
    | _ => exact id
  | struct | tuple | enumeration =>
    exact iff_of_false (not_yields_of_forall_not fun _ => id) id

/-- An array is sent with a tag or with its elements, by its element type. -/
private theorem fitsExactly_getArrayWireType {elem : RType} {vals : List elem.Val}
    {value : elem.Val → Conv FtVariant} {C : elem.Val → RType → Prop}
    (hvalue : ∀ v, FitsExactly r (value v) (C v)) :
    FitsExactly r (do return .arrayval (← elem.getArrayWireType vals value)) fun tp =>
      elem.rank = 0 ∧
        match elem.getByteDataType with
        | .ok dtp => Among (IsArray r fun tp => vals ≠ [] → Among (HasTag dtp) tp) tp
        | .error _ => Among (IsArray r fun tp => ∀ i, C (vals.get i) tp) tp := by
  rw [RType.getArrayWireType]
  split_ifs with hrank
  · exact fitsExactly_throw_map _ _ fun tp h => absurd hrank (by simp [h.1])
  · -- elements that are not arrays themselves: with a tag, or one by one
    have hzero : elem.rank = 0 := by omega
    cases hbdt : elem.getByteDataType with
    | ok dtp =>
      obtain ⟨encout, hencout, rfl, hdata⟩ := encodedArray_of_getByteDataType hbdt vals
      rw [hencout]
      refine (fitsExactly_arrayval fun tp lg valueType h name fixedSize hm => ?_).congr
        fun tp => (and_iff_right hzero).symm
      exact yields_pure_iff.trans (imp_congr (not_congr hdata) (matchesTag_iff h))
    | error e =>
      obtain ⟨what, hwhat⟩ := encodedArray_of_error hbdt vals
      rw [hwhat]
      refine (fitsExactly_arrayval fun tp lg valueType h name fixedSize hm => ?_).congr
        fun tp => (and_iff_right hzero).symm
      rw [yields_map_iff]
      refine Iff.trans (yields_congr fun data => List.forall_mem_ofFn_iff) ?_
      exact yields_collect_iff (fun i s => hvalue (vals.get i) h s) hm

/-! ### The encoding of a value -/

/-- A reference to a value of a type that the converter does not know is sent as a `bool`. -/
theorem fitsExactly_unmatched (ref : Bool) :
    FitsExactly r ((do
      let stdvariant ← unmatchedStdVariant ref
      return ({ value := stdvariant.simpleValue r, size := stdvariant.sizeof } : FtSimplevariant))
        >>= fun m => return .simplevar m)
      fun tp => ref = true ∧ Among (HasKind .boolType) tp := by
  cases ref with
  | true =>
    exact (fitsExactly_simple fun hm => ⟨_, hm, returns_pure_iff.mpr ⟨rfl, rfl⟩, rfl⟩).congr
      fun tp => (and_iff_right rfl).symm
  | false =>
    refine fun tp lg d h hm => iff_of_false (fun h => ?_) fun h => nomatch h.1
    exact not_yields_throw (yields_map_iff.mp (yields_map_iff.mp h))

private theorem fitsExactly_arith (tp : ElemType) (ref : Bool) (v : tp.Raw) :
    FitsExactly r (getVariantWireType r lg (.arith tp) ref v) (Fits r (.arith tp) ref v) := by
  change FitsExactly r ((do
    let stdvariant ← rttrToStdVariantConverter ref (.arith tp) v
    return ({ value := stdvariant.simpleValue r, size := stdvariant.sizeof } : FtSimplevariant))
      >>= fun m => return .simplevar m) _
  rw [rttrToStdVariantConverter, Fits]
  split_ifs with known
  · refine fitsExactly_simple fun hm => ⟨_, hm, returns_pure_iff.mpr ⟨rfl, rfl⟩, ?_⟩
    cases tp with
    | other name sizeof => exact absurd known ElemType.other_notMem_accepted
    | _ => rfl
  · exact fitsExactly_unmatched ref

/-- An enumerator fits the enumerations, if it can be sent. -/
private theorem fitsExactly_enumeration (e : Enumeration) (ref : Bool) (v : ℤ) :
    FitsExactly r (getVariantWireType r lg (.enumeration e) ref v)
      (Fits r (.enumeration e) ref v) := by
  rw [getVariantWireType, getEnumWireType, Fits]
  cases r.toUint32 ⟨.enumeration e, ref, v⟩ with
  | none =>
    exact fitsExactly_throw_map _ _ fun tp h => nomatch h.1
  | some n =>
    refine FitsExactly.congr (fitsExactly_of_returns fun hm =>
      ⟨_, hm, returns_pure_iff.mpr ⟨rfl, rfl⟩, ?_⟩) fun tp => (and_iff_right rfl).symm
    exact fun tp d h => matches_enumval_iff h

/-- **The message of a value matches the description of a type** exactly if it fits the type. -/
theorem fitsExactly_getVariantWireType (tp : RType) (ref : Bool) (v : tp.Val) :
    FitsExactly r (getVariantWireType r lg tp ref v) (Fits r tp ref v) := by
  induction tp generalizing ref with
  | tuple name n elems ih => exact fitsExactly_getTupleWireType fun i => ih i false (v i)
  | union name n alts ih =>
    rw [getVariantWireType]
    split_ifs with href
    · exact fitsExactly_throw _ fun tp h => Bool.noConfusion (href.symm.trans h.1)
    · exact (ih v.1 false v.2).congr fun tp => (and_iff_right (Bool.eq_false_iff.mpr href)).symm
  | cls info props ih =>
    rw [getVariantWireType]
    split_ifs with hPOD
    · cases ref with
      | true =>
        -- behind a reference no property is found, so an empty struct is sent
        exact (fitsExactly_emptyStruct _).congr fun tp => (and_iff_right hPOD).symm
      | false =>
        exact (fitsExactly_struct info.nodup fun i => ih i false (v i)).congr
          fun tp => (and_iff_right hPOD).symm
    · exact fitsExactly_throw _ fun tp h => hPOD h.1
  | container info elem ih => exact fitsExactly_getArrayWireType fun v => ih true v
  | enumeration e => exact fitsExactly_enumeration e ref v
  | remote tp | optional tp =>
    exact fitsExactly_simple fun hm =>
      ⟨_, _, returns_map_iff.mpr ⟨_, returns_addHandle_iff.mpr ⟨rfl, rfl⟩, rfl⟩, rfl⟩
  | void => exact fitsExactly_simple fun hm => ⟨_, hm, returns_pure_iff.mpr ⟨rfl, rfl⟩, rfl⟩
  | bool | string =>
    exact fitsExactly_simple fun hm => ⟨_, hm, returns_pure_iff.mpr ⟨rfl, rfl⟩, rfl⟩
  | arith tp => exact fitsExactly_arith tp ref v
  | other name => exact fitsExactly_unmatched ref

/-! ### A value and its own type -/

/-- The values whose message is of the shape that is described for their type. -/
def Advertised (r : Rttr) : (tp : RType) → Bool → tp.Val → Prop
  | .void, _, _ | .bool, _, _ | .string, _, _ | .remote _, _, _ | .optional _, _, _ => True
  | .arith tp, _, _ => tp ∈ ElemType.accepted
  | .other _, _, _ => False
  | .enumeration e, ref, v => (r.toUint32 ⟨.enumeration e, ref, v⟩).isSome
  | .tuple _ _ elems, _, v => ∀ i, Advertised r (elems i) false (v i)
  | .cls info props, ref, v => info.isPODStruct = true ∧
    if ref then info.properties = [] else ∀ i, Advertised r (props i) false (v i)
  | .union _ _ alts, ref, v => ref = false ∧ ∃ i, Fits r (alts v.1) false v.2 (alts i)
  | .container info elem, _, v => elem.rank = 0 ∧
    (v.1 = [] ∨ describedElement r info elem = elem ∧ elem ≠ .arith .short ∧
      ∀ i, Advertised r elem true (v.1.get i))

/-- A value fits a union if it fits an alternative. -/
theorem fits_union_iff {tp : RType} {ref : Bool} {v : tp.Val} {name : String} {n : ℕ}
    {alts : Fin n → RType} :
    Fits r tp ref v (.union name n alts) ↔ ∃ i, Fits r tp ref v (alts i) := by
  induction tp generalizing ref with
  | union name n alts ih => exact (and_congr_right fun _ => ih v.1).trans exists_and_left.symm
  | arith tp =>
    simp only [Fits]
    split_ifs
    · exact Iff.rfl
    · exact exists_and_left.symm
  | cls info props =>
    cases ref with
    | true => exact exists_and_left.symm
    | false => exact exists_and_left.symm
  | container info elem =>
    simp only [Fits]
    cases elem.getByteDataType with
    | ok dtp => exact exists_and_left.symm
    | error e => exact exists_and_left.symm
  | enumeration e | other name => exact exists_and_left.symm
  | _ => exact Iff.rfl

private theorem hasKind_simplevalueType {tp : ElemType} (known : tp ∈ ElemType.accepted) :
    HasKind tp.kind.simplevalueType (.arith tp) := by
  cases tp with
  | other name sizeof => exact absurd known ElemType.other_notMem_accepted
  | _ => exact ⟨_, rfl⟩

private theorem not_hasKind_boolType (tp : ElemType) : ¬ HasKind .boolType (.arith tp) := by
  rintro ⟨size, h⟩
  rw [describeSimpleType] at h
  split_ifs at h <;> exact nomatch h

private theorem eq_voidType_of_hasKind_void {kind : SimplevalueTypes} (h : HasKind kind .void) :
    kind = .voidType := by
  obtain ⟨size, h⟩ := h
  cases h
  rfl

/-- The elements of a container whose element type is not described fit nothing. -/
theorem eq_void_of_fits_void {tp : RType} {v : tp.Val} (h : Fits r tp true v .void) :
    tp = .void := by
  cases tp with
  | void => rfl
  | bool | string | remote tp | optional tp => exact nomatch eq_voidType_of_hasKind_void h
  | other name => exact nomatch eq_voidType_of_hasKind_void h.2
  | arith tp =>
    rw [Fits] at h
    split_ifs at h
    · have hkind := eq_voidType_of_hasKind_void h
      cases htp : tp.kind <;> rw [htp] at hkind <;> exact nomatch hkind
    · exact nomatch eq_voidType_of_hasKind_void h.2
  | enumeration e | cls info props => exact h.2.elim
  | tuple name n elems => exact h.elim
  | union name n alts => exact nomatch h.1
  | container info elem =>
    obtain ⟨-, h⟩ := h
    cases hbdt : elem.getByteDataType with
    | ok dtp =>
      rw [hbdt] at h
      exact h.elim
    | error e =>
      rw [hbdt] at h
      exact h.elim

private theorem not_hasTag_void (dtp : ByteDataTypes) : ¬ HasTag dtp .void := by
  rintro ⟨kind, size, hdesc, hnumbers⟩
  cases hdesc
  cases dtp <;> exact nomatch hnumbers

/-- Of the tags only that of `short` is for other numbers. -/
theorem hasTag_iff {elem : RType} {dtp : ByteDataTypes} (h : elem.getByteDataType = .ok dtp) :
    HasTag dtp elem ↔ elem ≠ .arith .short := by
  cases elem with
  | arith tp =>
    cases tp with
    | other name sizeof => exact nomatch h
    | short =>
      cases h
      refine iff_of_false ?_ fun h => h rfl
      rintro ⟨kind, size, hdesc, hnumbers⟩
      cases hdesc
      exact nomatch hnumbers
    | _ =>
      cases h
      exact iff_of_true ⟨_, _, rfl, rfl⟩ (by simp)
  | _ => exact nomatch h

/-- An element type is described as it is, or not found. -/
private theorem describedElement_eq (info : ContainerInfo) (elem : RType) :
    describedElement r info elem = elem ∨ describedElement r info elem = .void := by
  rw [describedElement]
  split_ifs
  · exact .inl rfl
  · exact .inr rfl

/-- The elements of an array fit what is described for them if that is their type, and their own
messages fit it. -/
theorem fits_elements_iff {info : ContainerInfo} {elem : RType} {vals : List elem.Val}
    (helem : ∀ v, Fits r elem true v elem ↔ Advertised r elem true v) :
    (match elem.getByteDataType with
      | .ok dtp => Among (IsArray r fun tp => vals ≠ [] → Among (HasTag dtp) tp)
          (.container info elem)
      | .error _ => Among (IsArray r fun tp => ∀ i, Fits r elem true (vals.get i) tp)
          (.container info elem)) ↔
      vals = [] ∨ describedElement r info elem = elem ∧ elem ≠ .arith .short ∧
        ∀ i, Advertised r elem true (vals.get i) := by
  cases hbdt : elem.getByteDataType with
  | ok dtp =>
    change (vals ≠ [] → Among (HasTag dtp) (describedElement r info elem)) ↔ _
    rw [or_iff_not_imp_left]
    refine imp_congr_right fun hne => ?_
    -- only arithmetic types have a tag
    obtain ⟨tp, rfl⟩ : ∃ tp, elem = .arith tp := by
      cases elem with
      | arith tp => exact ⟨tp, rfl⟩
      | _ => exact nomatch hbdt
    have known : tp ∈ ElemType.accepted := by
      cases tp with
      | other name sizeof => exact nomatch hbdt
      | _ => decide
    obtain hde | hde := describedElement_eq info (.arith tp)
    · rw [hde]
      exact (hasTag_iff hbdt).trans ⟨fun h => ⟨rfl, h, fun _ => known⟩, fun h => h.2.1⟩
    · rw [hde]
      exact iff_of_false (not_hasTag_void dtp) fun h => nomatch h.1
  | error e =>
    change (∀ i, Fits r elem true (vals.get i) (describedElement r info elem)) ↔ _
    by_cases hnil : vals = []
    · subst hnil
      exact iff_of_true (fun i => i.elim0) (.inl rfl)
    rw [or_iff_right hnil]
    have hshort : elem ≠ .arith .short := by
      rintro rfl
      exact nomatch hbdt
    obtain hde | hde := describedElement_eq info elem
    · rw [hde]
      exact ⟨fun h => ⟨rfl, hshort, fun i => (helem _).mp (h i)⟩,
        fun h i => (helem _).mpr (h.2.2 i)⟩
    · rw [hde]
      constructor
      · intro h
        -- the elements are described as `void`, which the first of them must be
        obtain rfl := eq_void_of_fits_void (h ⟨0, List.length_pos_iff.mpr hnil⟩)
        exact ⟨rfl, hshort, fun i => (helem _).mp (h i)⟩
      · rintro ⟨rfl, -, h⟩ i
        exact (helem _).mpr (h i)

/-- A value fits its own type exactly if it is as advertised. -/
private theorem fits_self_iff {tp : RType} {ref : Bool} {v : tp.Val} :
    Fits r tp ref v tp ↔ Advertised r tp ref v := by
  induction tp generalizing ref with
  | void | bool | string | remote tp | optional tp => exact iff_of_true ⟨_, rfl⟩ trivial
  | arith tp =>
    rw [Fits, Advertised]
    split_ifs with known
    · exact iff_of_true (hasKind_simplevalueType known) known
    · exact iff_of_false (fun h => not_hasKind_boolType tp h.2) known
  | other name => exact iff_of_false (fun ⟨_, _, h⟩ => nomatch h) id
  | enumeration e => exact and_iff_left trivial
  | union name n alts => exact and_congr_right fun _ => fits_union_iff
  | tuple name n elems ih =>
    exact ⟨fun ⟨_, h⟩ i => (ih i).mp (h i), fun h => ⟨rfl, fun i => (ih i).mpr (h i)⟩⟩
  | cls info props ih =>
    refine and_congr_right fun hPOD => ?_
    cases ref with
    | true => exact ⟨fun h => List.subset_nil.mp h.2.2, fun h =>
        ⟨hPOD, fun i => i.elim0, List.subset_nil.mpr h⟩⟩
    | false =>
      constructor
      · rintro ⟨-, h, -⟩ i
        obtain ⟨j, hj, hfits⟩ := h i
        -- the names of the properties differ
        obtain rfl := List.nodup_iff_injective_get.mp info.nodup hj
        exact (ih j).mp hfits
      · exact fun h => ⟨hPOD, fun i => ⟨i, rfl, (ih i).mpr (h i)⟩, fun _ => id⟩
  | container info elem ih =>
    exact and_congr_right fun _ => fits_elements_iff fun v => ih

/-- **The advertised type is the encoded type** exactly for the values of `Advertised`. -/
theorem matchesDescription_iff {lg' : Option Logging} {tp : RType} {v : tp.Val}
    (h : describeType r tp lg' = .ok d) (hm : HandleManager) :
    Yields (getVariantWireType r lg tp false v) hm (Matches d) ↔ Advertised r tp false v :=
  (fitsExactly_getVariantWireType tp false v h hm).trans fits_self_iff

theorem ints_matchesDescription :
    Yields (getVariantWireType Rttr.standard none
      (.container ⟨"std::vector<int>", none, true⟩ (.arith .int)) false ⟨[3, -1], nofun⟩) ⟨∅, id⟩
      (Matches (.homogArray "std::vector<int>" none (.simplevar "int" (some .intType) 4))) := by
  have h : describeType Rttr.standard (.container ⟨"std::vector<int>", none, true⟩ (.arith .int))
      (some ⟨⟩) = .ok (.homogArray "std::vector<int>" none (.simplevar "int" (some .intType) 4)) :=
    rfl
  have helem : ElemType.int ∈ ElemType.accepted := by decide
  exact (matchesDescription_iff h ⟨∅, id⟩).mpr ⟨rfl, .inr ⟨rfl, by decide, fun _ => helem⟩⟩

/-- **A `short` array is not what is described**: it is sent as one of `unsigned short`. -/
theorem shorts_not_matchesDescription : ¬ ∀ (r : Rttr) (lg lg' : Option Logging) (tp : RType)
    (v : tp.Val) (d : VariantDescriptor) (hm : HandleManager), describeType r tp lg' = .ok d →
    Yields (getVariantWireType r lg tp false v) hm (Matches d) := by
  intro hall
  have hmatches := hall Rttr.standard none (some ⟨⟩)
    (.container ⟨"std::vector<short>", none, true⟩ (.arith .short)) ⟨[-1], nofun⟩ _ ⟨∅, id⟩ rfl
  obtain ⟨m, hm', hret, hm⟩ := hmatches
  cases hret
  obtain ⟨kind, hkind, htag⟩ := hm (by decide)
  cases hkind
  exact nomatch htag

end Foxtrot
