import Foxtrot.Wire.Messages

/-!
# Values to messages

`get_variant_wire_type` and the functions it is made of, in `core/src/typeUtil.cpp`, as a
recursion over the type of the value. The element of an array that is not sent as bytes comes as
a reference to it and is encoded with `unwrap` set; here `ref` says so. The code then looks at the
type behind the reference to choose a branch, but most branches go on with the reference itself.

Everything is written as in the source, the messages to the logger apart: each is behind a test of
the pointer and changes nothing else.
-/

namespace Foxtrot

open Fallible

/-! ### Simple values -/

/-- Only the ten types are accepted. -/
theorem ElemType.other_notMem_accepted {name : String} {sizeof : ℕ} :
    ElemType.other name sizeof ∉ ElemType.accepted := by
  simp [ElemType.accepted, bdtMap]

/-- `ft_simplevar_std_variant`. The number types of `ft_simplevar_types` are those of `bdt_map`. -/
inductive StdVariant where
  | bool (v : Bool)
  | num (tp : ElemType) (known : tp ∈ ElemType.accepted) (v : tp.Raw)
  | string (v : List UInt8)

/-- What `rttr_to_std_variant_converter` makes of a type it does not know. A reference counts as
done: the first alternative stays, at its default. Otherwise `done`, which nobody has set, decides
between that and an error. -/
def unmatchedStdVariant (ref : Bool) : Conv StdVariant :=
  if ref then return .bool false else throw .undefined

/-- `rttr_to_std_variant_converter`. -/
def rttrToStdVariantConverter (ref : Bool) : (tp : RType) → tp.Val → Conv StdVariant
  | .bool, v => return .bool v
  | .arith tp, v =>
    if known : tp ∈ ElemType.accepted then return .num tp known v else unmatchedStdVariant ref
  | .string, v => return .string v
  | _, _ => unmatchedStdVariant ref

/-- The visitor of `get_simple_variant_wire_type`: the value in the message's widest field of its
kind. -/
def StdVariant.simpleValue (r : Rttr) : StdVariant → SimpleValue
  | .bool v => .boolval v
  | .num .float _ v => .dblval (r.widen v)
  | .num .double _ v => .dblval v
  | .num .char _ v | .num .short _ v | .num .int _ v | .num .long _ v => .intval (v.signExtend 64)
  | .num .uchar _ v | .num .ushort _ v | .num .uint _ v | .num .ulong _ v =>
    .uintval (v.setWidth 64)
  | .num (.other _ _) known _ => absurd known ElemType.other_notMem_accepted
  | .string v => .stringval v

/-- `sizeof(Vtype)`. -/
def StdVariant.sizeof : StdVariant → ℕ
  | .bool _ => 1
  | .num tp _ _ => tp.sizeof
  | .string _ => 32

/-- `get_simple_variant_wire_type`. -/
def getSimpleVariantWireType (r : Rttr) (ref : Bool) :
    (tp : RType) → tp.Val → Conv FtSimplevariant
  | .void, _ => return { isVoid := true }
  | tp, v => do
    let stdvariant ← rttrToStdVariantConverter ref tp v
    return { value := stdvariant.simpleValue r, size := stdvariant.sizeof }

/-! ### Enumerations, structs, tuples -/

/-- `describe_enum`. A reference has no enumerators. -/
def describeEnum (r : Rttr) (ref : Bool) (e : Enumeration) (_ : Option Logging) :
    EnumDescriptor where
  enumName := Variant.typeName (.enumeration e) ref
  enumMap :=
    if ref then []
    else e.values.map fun (name, v) => (name, (r.toUint32 (.of (.enumeration e) v)).getD 0)

/-- `get_enum_wire_type`. -/
def getEnumWireType (r : Rttr) (lg : Option Logging) (ref : Bool) (e : Enumeration) (v : ℤ) :
    Conv FtEnum :=
  match r.toUint32 ⟨.enumeration e, ref, v⟩ with
  | some enumValue => return { desc := describeEnum r ref e lg, enumValue }
  | none => throw (.logicError "failed to convert an enum value")

/-- `get_struct_wire_type`, given the messages for the properties. A reference has none. -/
def getStructWireType {info : ClassInfo} {props : Fin info.properties.length → RType} (ref : Bool)
    (value : (i : Fin info.properties.length) → (props i).Val → Conv FtVariant)
    (v : RType.Val (.cls info props)) : Conv FtVariant :=
  if ref then return .structval (Variant.typeName (.cls info props) ref) []
  else do
    let simplevars ← collect fun i => value i (v i)
    return .structval info.name (List.ofFn fun i => (info.properties.get i, simplevars i))

/-- `get_tuple_wire_type`, given the messages for the elements, of the tuple or of the one
referred to. -/
def getTupleWireType {n : ℕ} (value : Fin n → Conv FtVariant) : Conv FtVariant := do
  let elements ← collect value
  return .tupleval (List.ofFn elements)

/-! ### Arrays -/

/-- The part of `get_array_wire_type` under `try`: the elements as bytes. -/
def RType.encodedArray : (elem : RType) → List elem.Val → Except String EncodedArray
  | .arith _, vals => Foxtrot.getArrayWireType vals
  | _, _ => .error "couldn't get byte data type"

/-- `get_array_wire_type`, given the messages for the elements of a heavy array. -/
def RType.getArrayWireType (elem : RType) (vals : List elem.Val)
    (value : elem.Val → Conv FtVariant) : Conv (FtHomogArray FtVariant) :=
  if 1 < elem.rank + 1 then
    throw (.reflectionError "unable to deal with arrays of greater than rank 1")
  else
    match elem.encodedArray vals with
    | .ok encout => return .encoded encout
    | .error _ => do
      let data ← collect fun i : Fin vals.length => value (vals.get i)
      return .heavy (List.ofFn data)

/-! ### All values -/

/-- `get_variant_wire_type`, on a variant that holds a value of the type, or with `ref` a
reference to one and with `unwrap` set. -/
def getVariantWireType (r : Rttr) (lg : Option Logging) :
    (tp : RType) → Bool → tp.Val → Conv FtVariant
  | .tuple _ _ elems, _, v =>
    getTupleWireType fun i => getVariantWireType r lg (elems i) false (v i)
  | .union _ _ alts, ref, v =>
    if ref then throw (.logicError "invalid method on union type, foxtrot programming error")
    else getVariantWireType r lg (alts v.1) false v.2
  | .void, _, _ => return .simplevar { isVoid := true }
  | .enumeration e, ref, v => do return .enumval (← getEnumWireType r lg ref e v)
  -- the elements of an array are looked at through references
  | .container _ elem, _, v => do
    return .arrayval (← elem.getArrayWireType v.1 fun v => getVariantWireType r lg elem true v)
  | .cls info props, ref, v =>
    if info.isPODStruct then
      getStructWireType ref (fun i v => getVariantWireType r lg (props i) false v) v
    else throw (.logicError ("dont understand how to convert type: " ++ info.name))
  | .remote tp, ref, v => do
    return .simplevar { value := .handleval (← addHandle ⟨.remote tp, ref, v⟩) }
  | .optional tp, ref, v => do
    return .simplevar { value := .handleval (← addHandle ⟨.optional tp, ref, v⟩) }
  | .bool, ref, v => do return .simplevar (← getSimpleVariantWireType r ref .bool v)
  | .arith tp, ref, v => do return .simplevar (← getSimpleVariantWireType r ref (.arith tp) v)
  | .string, ref, v => do return .simplevar (← getSimpleVariantWireType r ref .string v)
  -- nothing is known of the type: the last test, for a simple type, throws
  | .other name, ref, v => do
    return .simplevar (← getSimpleVariantWireType r ref (.other name) v)

end Foxtrot
