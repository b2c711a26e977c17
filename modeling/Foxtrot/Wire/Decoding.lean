import Foxtrot.Wire.Encoding

/-!
# Messages to values

`wire_type_to_variant` and `wire_type_to_array` in `core/src/typeUtil.cpp`. The message says which
function decodes it, the target type what becomes of it: the recursion is over the target, into
the properties of a class for a struct message and into the elements of a tuple for a tuple
message. `dispatch` is the function that selects among them, given what setting the properties
and creating the tuple come to for the target.

A target that is a registered union switches the check in the decoder of simple values off. The
union that is then made of the result goes out of scope at once, so a value reaches a union only by
the conversion at the end.
-/

namespace Foxtrot

open Fallible

/-- The converted variant, or the error for a conversion that is not possible or fails. -/
def Rttr.convertOr (r : Rttr) (out : Option Variant) (tp : RType) (cannot failed : Failure) :
    Except Failure tp.Val :=
  match out with
  | none => .error cannot
  | some out =>
    if r.canConvert out tp then
      match r.convert out tp with
      | some v => .ok v
      | none => .error failed
    else .error cannot

/-- The name of the variant's type; that of an invalid one is empty. -/
def Variant.name : Option Variant → String
  | some out => Variant.typeName out.tp out.ref
  | none => ""

/-! ### Simple values and enumerations -/

/-- The variant that a simple value stands for. -/
def SimpleValue.toVariant (hm : HandleManager) : SimpleValue → Except Failure (Option Variant)
  | .boolval v => .ok (some (.of .bool v))
  | .intval v => .ok (some (.of (.arith .long) v))
  | .uintval v => .ok (some (.of (.arith .ulong) v))
  | .dblval v => .ok (some (.of (.arith .double) v))
  | .stringval v => .ok (some (.of .string v))
  | .handleval key => do return some (← hm.lookup key)
  | .notSet | .tstampval => .ok none

/-- `wire_type_to_variant`, on `ft_simplevariant`. -/
def simpleToVariant (r : Rttr) (hm : HandleManager) (wiretp : FtSimplevariant) (tp : RType)
    (check : Bool) : Except Failure (Option Variant) := do
  let out ← wiretp.value.toVariant hm
  if check then
    let v ← r.convertOr out tp
      (.runtimeError ("cannot convert wire type received: " ++ Variant.name out ++
        " to target type: " ++ tp.getName))
      (.runtimeError "type conversion is possible, but failed somehow")
    return some (.of tp v)
  else return out

/-- `wire_type_to_variant`, on `ft_enum`. -/
def enumToVariant (r : Rttr) (wiretp : FtEnum) : (tp : RType) → Except Failure tp.Val
  | .enumeration e =>
    r.convertOr (some (.of (.arith .uint) wiretp.enumValue)) (.enumeration e)
      (.runtimeError ("can't convert received type: " ++ ElemType.uint.getName ++
        "to target type: " ++ e.name))
      (.runtimeError "conversion is possible, but failed for some reason")
  | _ => .error (.logicError "target type is not an enumeration!")

/-! ### Arrays -/

/-- `get_byte_data_type`. -/
def RType.getByteDataType : RType → Except Failure ByteDataTypes
  | .arith tp => (Foxtrot.getByteDataType tp).mapError .logicError
  | _ => .error (.logicError "couldn't get byte data type")

/-- `bytes_to_variant`. Nothing sets `done`, which decides from the first type on. -/
def bytesToVariant (_ : List UInt8) (_ : RType) : Except Failure Variant :=
  .error .undefined

/-- The view of the created container at the size of the data: `set_size` on a dynamic one, of
which this keeps what fits, and a check on the others. -/
def setArraySize {info : ContainerInfo} {elem : RType} (size : ℕ)
    (out : RType.Val (.container info elem)) :
    Except Failure (RType.Val (.container info elem)) :=
  match h : info.fixedSize with
  | none => .ok ⟨out.1.take size, by simp [h]⟩
  | some _ =>
    if out.1.length ≠ size then .error (.reflectionError "invalid array size passed")
    else .ok out

/-- The checks of the element type. The error for another tag is raised where it is logged. -/
def checkElementType (elem : RType) (dtp : ByteDataTypes) (lg : Option Logging) :
    Except Failure Unit := do
  if 0 < elem.rank then
    throw (.logicError "can only handle arrays of rank 1 at present!")
  let bdt ← elem.getByteDataType
  if bdt ≠ dtp && lg.isSome then
    throw (.reflectionError "invalid byte data type passed!")

/-- `wire_type_to_array`, on a container that could be created. -/
def fillArray {info : ContainerInfo} {elem : RType} (encarr : EncodedArray) (lg : Option Logging)
    (out : RType.Val (.container info elem)) :
    Except Failure (RType.Val (.container info elem)) := do
  let view ← setArraySize encarr.data.length out
  checkElementType elem encarr.dtp lg
  view.1.forM fun _ => do
    let _ ← bytesToVariant encarr.data elem
  return view

/-- `wire_type_to_array`. -/
def wireTypeToArray (r : Rttr) (lg : Option Logging) (wiretp : FtHomogArray FtVariant)
    (tp : RType) : Except Failure tp.Val :=
  if wiretp.hasArrEncoded then
    .error (.logicError "can't deal with decoded arrays at the moment!")
  else
    match tp with
    | .container info elem =>
      match r.create (.container info elem) with
      -- an encoded array was refused, so this is the default message: no data
      | some out => fillArray wiretp.arrEncoded lg out
      -- the view of an invalid variant is not dynamic, and has size and rank 0
      | none =>
        if wiretp.arrEncoded.data.length ≠ 0 then
          .error (.reflectionError "invalid array size passed")
        else .error (.logicError "can only handle arrays of rank 1 at present!")
    | _ => .error (.logicError "tried to create an array at non target array type")

/-! ### Structs and tuples -/

/-- `at` of a protobuf map. -/
def mapAt (value : List (String × FtVariant)) (key : String) : Except Failure FtVariant :=
  match value.lookup key with
  | some v => .ok v
  | none => .error (.fatal ("key not found: " ++ key))

/-- `wire_type_to_variant`, on `ft_struct`, given how the properties of the target are set. -/
def structToVariant (r : Rttr) (tp : RType)
    (setProperties : List (String × FtVariant) → tp.Val → Except Failure tp.Val)
    (value : List (String × FtVariant)) : Except Failure tp.Val :=
  if !tp.isClass then .error (.runtimeError "target type is not a struct!")
  else
    match r.create tp with
    | some out => setProperties value out
    | none => .error (.runtimeError "failed to construct target struct type!")

/-- The error of `tuple_size` on a type that is not a registered tuple. -/
def tupleSizeError : RType → Failure
  | .cls info _ =>
    if "size" ∈ info.properties then
      .logicError "size property isn't static. Perhaps tuple type isn't registered"
    else .logicError "size property isn't valid. Perhaps tuple type isn't registered"
  | _ => .logicError "size property isn't valid. Perhaps tuple type isn't registered"

/-- `wire_type_to_variant`, on `ft_tuple` and a registered tuple, given the decoders of its
elements. The registered constructor takes exactly these. -/
def tupleToVariant {n : ℕ} {elems : Fin n → RType}
    (decode : (i : Fin n) → FtVariant → Except Failure (elems i).Val) (value : List FtVariant) :
    Except Failure ((i : Fin n) → (elems i).Val) :=
  if h : value.length = n then collect fun i => decode i (value.get (i.cast h.symm))
  else .error (.runtimeError "mismatch of target and wire type value sizes")

/-! ### All messages -/

/-- `unioncheck`: false for a registered union. -/
def RType.unioncheck : RType → Bool
  | .union _ _ _ => false
  | _ => true

/-- The value, if the variant is of the type exactly. -/
def Variant.exactly (tp : RType) : Option Variant → Option tp.Val
  | some ⟨tp', false, v⟩ => if h : tp' = tp then some (h ▸ v) else none
  | _ => none

/-- The end of `wire_type_to_variant`: the decoded variant as it is, or converted. -/
def settle (r : Rttr) (tp : RType) (out : Option Variant) : Except Failure tp.Val :=
  match Variant.exactly tp out with
  | some v => .ok v
  | none =>
    r.convertOr out tp (.runtimeError "won't be able to convert this type!")
      (.runtimeError "type conversion is possible but this one failed!")

/-- `wire_type_to_variant`, given for the target how properties are set and a tuple is made. -/
def dispatch (r : Rttr) (hm : HandleManager) (lg : Option Logging) (tp : RType)
    (setProperties : List (String × FtVariant) → tp.Val → Except Failure tp.Val)
    (createTuple : List FtVariant → Except Failure tp.Val) (wiretp : FtVariant) :
    Except Failure tp.Val := do
  let out : Option Variant ←
    match wiretp with
    | .simplevar v => simpleToVariant r hm v tp tp.unioncheck
    | .enumval v => do pure (some (.of tp (← enumToVariant r v tp)))
    | .arrayval arr => do pure (some (.of tp (← wireTypeToArray r lg arr tp)))
    | .structval _ value => do pure (some (.of tp (← structToVariant r tp setProperties value)))
    | .tupleval value => do pure (some (.of tp (← createTuple value)))
    | .notSet => .error (.logicError "no variant logic has happened!")
  settle r tp out

/-- A value of the target type is taken as it is. -/
private theorem settle_of (r : Rttr) (tp : RType) (v : tp.Val) :
    settle r tp (some (.of tp v)) = .ok v := by
  simp [settle, Variant.exactly]

section Dispatch

variable {r : Rttr} {hm : HandleManager} {lg : Option Logging} {tp : RType}
  {setProperties : List (String × FtVariant) → tp.Val → Except Failure tp.Val}
  {createTuple : List FtVariant → Except Failure tp.Val}

/-- A result of the target type is the result. -/
theorem bind_settle (x : Except Failure tp.Val) :
    (x >>= fun v => pure (some (Variant.of tp v)) >>= settle r tp) = x := by
  cases x with
  | error e => rfl
  | ok v => exact settle_of r tp v

/-- An enumerator is decoded by its number. -/
@[simp]
theorem dispatch_enumval (v : FtEnum) :
    dispatch r hm lg tp setProperties createTuple (.enumval v) = enumToVariant r v tp :=
  bind_settle _

/-- An array is decoded as one. -/
@[simp]
theorem dispatch_arrayval (arr : FtHomogArray FtVariant) :
    dispatch r hm lg tp setProperties createTuple (.arrayval arr) = wireTypeToArray r lg arr tp :=
  bind_settle _

/-- A struct is decoded property by property. -/
@[simp]
theorem dispatch_structval (name : String) (value : List (String × FtVariant)) :
    dispatch r hm lg tp setProperties createTuple (.structval name value) =
      structToVariant r tp setProperties value :=
  bind_settle _

/-- A tuple is decoded element by element. -/
@[simp]
theorem dispatch_tupleval (value : List FtVariant) :
    dispatch r hm lg tp setProperties createTuple (.tupleval value) = createTuple value :=
  bind_settle _

end Dispatch

/-- `wire_type_to_variant`, on a target without properties and elements. -/
def plainToVariant (r : Rttr) (hm : HandleManager) (lg : Option Logging) (tp : RType) :
    FtVariant → Except Failure tp.Val :=
  dispatch r hm lg tp (fun _ out => .ok out) fun _ => .error (tupleSizeError tp)

/-- `wire_type_to_variant`. A registered tuple has one property, its size, which cannot be set. -/
def wireTypeToVariant (r : Rttr) (hm : HandleManager) (lg : Option Logging) :
    (tp : RType) → FtVariant → Except Failure tp.Val
  | .cls info props =>
    dispatch r hm lg (.cls info props)
      (fun value _ => collect fun i => do
        let invar ← mapAt value (info.properties.get i)
        wireTypeToVariant r hm lg (props i) invar)
      fun _ => .error (tupleSizeError (.cls info props))
  | .tuple name n elems =>
    dispatch r hm lg (.tuple name n elems)
      (fun value out => do
        let invar ← mapAt value "size"
        let _ ← plainToVariant r hm lg (.arith .ulong) invar
        return out)
      (tupleToVariant fun i => wireTypeToVariant r hm lg (elems i))
  | tp => plainToVariant r hm lg tp

end Foxtrot
