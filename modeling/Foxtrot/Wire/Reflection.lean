import Foxtrot.Wire.ByteArray

/-!
# Types and values as RTTR shows them

The conversions of `core/src/typeUtil.cpp` ask RTTR what a type is made of and hold every value in
an `rttr::variant`. Here a type is a finite tree (`RType`): a class with the types of its
properties, a registered tuple or union (`ft_tuple_helper.hh`, `ft_union_helper.hh`) with those of
its elements or alternatives, a sequential container with that of its elements. The values of a
type are a family over that tree (`RType.Val`), so a variant cannot hold a value that its type
does not have.

A type that contains itself, which takes a pointer or a container in between, is outside: a
pointer is opaque here, and `describe_type` does not return on a container of such a class.

RTTR itself is not part of the repository. What the conversions take from it beyond the
registered data is a parameter (`Rttr`): default construction, conversion between types, and the
number of an enumeration value. `Rttr.Exact` is what the decoder relies on: a value converts to
its own type, and a number back from the 64-bit type that carried it.
-/

namespace Foxtrot

/-- A registered enumeration: its name and its enumerators. -/
structure Enumeration where
  name : String
  values : List (String × ℤ)
  deriving DecidableEq

/-- What is registered of a class, the types of its properties apart. RTTR keeps one property of
a name. -/
structure ClassInfo where
  name : String
  properties : List String
  methods : ℕ
  constructors : ℕ
  nodup : properties.Nodup
  deriving DecidableEq

/-- A sequential container: its name, its number of elements unless that is dynamic, and whether
it is an instance of a template, as all but the C arrays are. -/
structure ContainerInfo where
  name : String
  fixedSize : Option ℕ
  isTemplateInstantiation : Bool
  deriving DecidableEq

/-- Types whose values stay on the server, where a handle stands for them: `std::any`, pointers,
and RTTR's wrappers such as `std::shared_ptr`. -/
inductive RemoteType where
  | any
  | pointer (name : String)
  | wrapper (name : String)
  deriving DecidableEq

/-- `rttr::type`. A class is a registered one, or one without constructors; `other` is what is
neither a class nor any of the rest, such as `std::nullptr_t`. `optional` is a wrapper by
`ft_optional_helper.hh`. -/
inductive RType where
  | void
  | bool
  | arith (tp : ElemType)
  | string
  | remote (tp : RemoteType)
  | optional (tp : RType)
  | enumeration (e : Enumeration)
  | cls (info : ClassInfo) (props : Fin info.properties.length → RType)
  | tuple (name : String) (n : ℕ) (elems : Fin n → RType)
  | union (name : String) (n : ℕ) (alts : Fin n → RType)
  | container (info : ContainerInfo) (elem : RType)
  | other (name : String)

namespace RType

/-- Equality of types, as RTTR compares them. -/
def beq : RType → RType → Bool
  | .void, .void | .bool, .bool | .string, .string => true
  | .arith tp, .arith tp' => tp = tp'
  | .remote tp, .remote tp' => tp = tp'
  | .optional tp, .optional tp' => tp.beq tp'
  | .enumeration e, .enumeration e' => e = e'
  | .cls info props, .cls info' props' =>
    if h : info = info' then
      (List.finRange _).all fun i => (props i).beq (props' (i.cast (h ▸ rfl)))
    else false
  | .tuple name n elems, .tuple name' n' elems' =>
    if h : n = n' then
      name = name' && (List.finRange n).all fun i => (elems i).beq (elems' (i.cast h))
    else false
  | .union name n alts, .union name' n' alts' =>
    if h : n = n' then
      name = name' && (List.finRange n).all fun i => (alts i).beq (alts' (i.cast h))
    else false
  | .container info elem, .container info' elem' => info = info' && elem.beq elem'
  | .other name, .other name' => name = name'
  | _, _ => false

/-- The comparison of types is equality. -/
theorem beq_iff_eq (a b : RType) : a.beq b = true ↔ a = b := by
  induction a generalizing b with
  | cls info props ih =>
    cases b with
    | cls info' props' =>
      by_cases h : info = info'
      · subst h
        simp [beq, ih, funext_iff]
      · simp [beq, h]
    | _ => simp [beq]
  | tuple name n elems ih | union name n elems ih =>
    cases b with
    | tuple name' n' elems' | union name' n' elems' =>
      by_cases h : n = n'
      · subst h
        simp [beq, ih, funext_iff]
      · simp [beq, h]
    | _ => simp [beq]
  | optional tp ih | container info tp ih => cases b <;> simp [beq, ih]
  | _ => cases b <;> simp [beq]

instance : DecidableEq RType := fun a b => decidable_of_iff _ (beq_iff_eq a b)

end RType

/-- `long long`, which `bdt_map` does not know. -/
def ElemType.longLong : ElemType := .other "long long" 8

/-- `unsigned long long`. -/
def ElemType.unsignedLongLong : ElemType := .other "unsigned long long" 8

/-- `get_name`, on an arithmetic type. -/
def ElemType.getName : ElemType → String
  | .uchar => "unsigned char"
  | .char => "char"
  | .ushort => "unsigned short"
  | .uint => "unsigned int"
  | .ulong => "unsigned long"
  | .short => "short"
  | .int => "int"
  | .long => "long"
  | .float => "float"
  | .double => "double"
  | .other name _ => name

namespace RType

/-- `get_name`. -/
def getName : RType → String
  | .void => "void"
  | .bool => "bool"
  | .arith tp => tp.getName
  | .string => "std::string"
  | .remote .any => "std::any"
  | .remote (.pointer name) | .remote (.wrapper name) => name
  | .optional tp => "std::optional<" ++ tp.getName ++ ">"
  | .enumeration e => e.name
  | .cls info _ => info.name
  | .tuple name _ _ | .union name _ _ | .other name => name
  | .container info _ => info.name

/-- `is_class`. A C array is none. -/
def isClass : RType → Bool
  | .string | .remote .any | .remote (.wrapper _) | .optional _ | .cls _ _ | .tuple _ _ _
  | .union _ _ _ => true
  | .container info _ => info.isTemplateInstantiation
  | _ => false

/-- `get_rank` of a sequential view: the containers inside containers count. -/
def rank : RType → ℕ
  | .container _ elem => elem.rank + 1
  | _ => 0

/-- The values of a type. An enumeration value is its number, a class value the values of its
properties, a union value an alternative with a value of it; what stays on the server is opaque. -/
@[reducible] def Val : RType → Type
  | .void => Unit
  | .bool => Bool
  | .arith tp => tp.Raw
  | .string => List UInt8
  | .remote _ | .other _ => ℕ
  | .optional tp => Option tp.Val
  | .enumeration _ => ℤ
  | .cls _ props => ∀ i, (props i).Val
  | .tuple _ _ elems => ∀ i, (elems i).Val
  | .union _ _ alts => Σ i, (alts i).Val
  | .container info elem => {vals : List elem.Val // ∀ n ∈ info.fixedSize, vals.length = n}

end RType

/-- `is_POD_struct`, on a class: no methods, and a constructor. -/
def ClassInfo.isPODStruct (info : ClassInfo) : Bool :=
  info.methods = 0 && info.constructors ≠ 0

/-- A valid `rttr::variant`. With `ref` it holds a `std::reference_wrapper` of the value, as the
views of containers give out their elements. -/
structure Variant where
  tp : RType
  ref : Bool
  val : tp.Val

/-- The variant that holds the value itself. -/
abbrev Variant.of (tp : RType) (v : tp.Val) : Variant := ⟨tp, false, v⟩

/-- The name of the variant's own type. -/
def Variant.typeName (tp : RType) (ref : Bool) : String :=
  if ref then "std::reference_wrapper<" ++ tp.getName ++ ">" else tp.getName

/-- What the conversions take from RTTR. `create` constructs an object without arguments: it is none
where the registered constructor gives a shared pointer, as that of `register_union` does.
`canConvert` and `convert` are those of a valid variant; `toUint32` is `to_uint32` with its `ok`.
`widen` is the machine's, from `float` to `double`. -/
structure Rttr where
  create : (tp : RType) → Option tp.Val
  canConvert : Variant → RType → Bool
  convert : Variant → (tp : RType) → Option tp.Val
  toUint32 : Variant → Option (BitVec 32)
  widen : BitVec 32 → BitVec 64

/-- The conversion is possible and gives the value. -/
def Rttr.Converts (r : Rttr) (out : Variant) (tp : RType) (v : tp.Val) : Prop :=
  r.canConvert out tp = true ∧ r.convert out tp = some v

/-- A number in the 64-bit type of its kind: `long`, `unsigned long` or `double`. -/
def Rttr.widened (r : Rttr) : (tp : ElemType) → tp.Raw → Variant
  | .char, v | .short, v | .int, v | .long, v => .of (.arith .long) (v.signExtend 64)
  | .float, v => .of (.arith .double) (r.widen v)
  | .double, v => .of (.arith .double) v
  | .uchar, v | .ushort, v | .uint, v | .ulong, v | .other _ _, v =>
    .of (.arith .ulong) (v.setWidth 64)

/-- Conversions are exact when the value is representable: to a value's own type, and from the
64-bit type of its kind back to the type of a number that can be sent. -/
structure Rttr.Exact (r : Rttr) : Prop where
  self : ∀ tp v, r.Converts (.of tp v) tp v
  back : ∀ tp ∈ ElemType.accepted, ∀ v : tp.Raw, r.Converts (r.widened tp v) (.arith tp) v

end Foxtrot
