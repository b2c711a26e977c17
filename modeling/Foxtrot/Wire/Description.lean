import Foxtrot.Wire.Encoding

/-!
# Descriptions of types

`describe_type` and its helpers in `core/src/typeUtil.cpp`: what the server tells a client about
the types of a capability's arguments and result. The recursion is over the type, and the logger
goes along: `describe_struct` is called without one, and `describe_array` writes to the logger
without asking for it when the container could be created.
-/

namespace Foxtrot

open Fallible

/-- The integral types that `describe_simple_type` knows as signed. -/
def ElemType.describedInt : List ElemType := [.char, .short, .int, .long, .longLong]

/-- Those that it knows as unsigned. -/
def ElemType.describedUnsigned : List ElemType :=
  [.uchar, .ushort, .uint, .ulong, .unsignedLongLong]

/-- `describe_simple_type`. What is not arithmetic and in no branch leaves the type as the
uninitialised variable had it. -/
def describeSimpleType : RType → Except Failure (Option SimplevalueTypes × ℕ)
  | .void => .ok (some .voidType, 0)
  | .string => .ok (some .stringType, 0)
  | .remote _ | .optional _ => .ok (some .remoteHandleType, 0)
  | .bool => .ok (some .boolType, 1)
  | .arith tp =>
    if tp ∈ [ElemType.float, .double] then .ok (some .floatType, tp.sizeof)
    else if tp ∈ ElemType.describedInt then .ok (some .intType, tp.sizeof)
    else if tp ∈ ElemType.describedUnsigned then .ok (some .unsignedType, tp.sizeof)
    else .error (.logicError ("can't deduce appropriate descriptor for type: " ++ tp.getName))
  | _ => .ok (none, 0)

/-- `describe_type`, where the type is taken for a simple one. -/
def describeSimple (tp : RType) : Except Failure VariantDescriptor := do
  let desc ← describeSimpleType tp
  return .simplevar tp.getName desc.1 desc.2

/-- `lg->`, without a test of the pointer. -/
def derefLogger : Option Logging → Except Failure Unit
  | some _ => .ok ()
  | none => .error .nullPointer

/-- `describe_array`, given the description of the element type, which comes from a view of an
empty container or else from the template's arguments. Where neither is to be had it stays
`void`. -/
def describeArray (r : Rttr) (lg : Option Logging) (info : ContainerInfo) (elem : RType)
    (describe : Except Failure VariantDescriptor) : Except Failure VariantDescriptor :=
  match r.create (.container info elem) with
  | some emptyvar => do
    derefLogger lg
    let valueType ← describe
    return .homogArray info.name (info.fixedSize.map fun _ => emptyvar.1.length) valueType
  | none => do
    let valueType ← if info.isTemplateInstantiation then describe else describeSimple .void
    return .homogArray info.name none valueType

/-- `describe_type`. -/
def describeType (r : Rttr) : RType → Option Logging → Except Failure VariantDescriptor
  | .tuple name n elems, lg => do
    return .tuple name n (← collect fun i => describeType r (elems i) lg)
  | .union name n alts, lg => do
    return .union name n (← collect fun i => describeType r (alts i) lg)
  | .enumeration e, _ => .ok (.enumeration e.name (describeEnum r false e none))
  | .container info elem, lg => describeArray r lg info elem (describeType r elem lg)
  | .cls info props, _ =>
    if info.isPODStruct then do
      return .struct info.name info.name info.properties.length info.properties.get
        (← collect fun i => describeType r (props i) none)
    else describeSimple (.cls info props)
  | tp, _ => describeSimple tp

end Foxtrot
