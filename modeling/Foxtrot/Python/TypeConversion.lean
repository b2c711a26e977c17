import Foxtrot.Server.Handler
import Foxtrot.Wire.Messages

/-!
# Values in the Python client

`python/pyfoxtrot/TypeConversion.py`: from a Python value and the descriptor of a type to a message
(`ft_variant_from_value`), and from a message to a Python value (`value_from_ft_variant`). The one
is a recursion over the descriptor, the other over the message.

A Python value is what the tests of these functions can tell apart (`PyValue`). A value of a
subclass counts as one of its base class; a `bool` is an `int`. Dictionaries are their items. The
protobuf library checks what is assigned to a field, and raises a `ValueError` for a number that is
out of its range.

Every reply goes through `_check_repl_err` (`python/pyfoxtrot/common.py`), which raises if it
carries an error. Which exception it is depends on the type of the error, and one type has no branch
of its own.
-/

namespace Foxtrot.Python

open Fallible

/-! ### Python values -/

/-- A `str`: Unicode text, or code points with lone surrogates among them, which UTF-8 cannot
encode. -/
inductive PyStr where
  | text (s : String)
  | surrogates (codes : List ℕ)
  deriving DecidableEq

/-- A Python value. Of an object of another class only what it iterates over is seen, if it has an
iterator and a length. -/
inductive PyValue where
  | none
  | bool (b : Bool)
  | int (n : ℤ)
  | float (val : BitVec 64)
  | str (s : PyStr)
  | tuple (items : List PyValue)
  | list (items : List PyValue)
  | dict (items : List (PyValue × PyValue))
  | other (items : Option (List PyValue))

/-- An exception, by its class, with its text. -/
inductive PyException where
  | typeError (msg : String)
  | valueError (msg : String)
  | keyError (msg : String)
  | indexError (msg : String)
  | nameError (msg : String)
  | runtimeError (msg : String)
  | unicodeEncodeError
  | notImplementedError (msg : String)
  | structError (msg : String)
  deriving DecidableEq

/-- What passes `isinstance(val, int)`, as a number. -/
def PyValue.asInt : PyValue → Option ℤ
  | .bool b => some b.toNat
  | .int n => some n
  | _ => Option.none

/-- `type(val).__name__`. The name of another class is not known here. -/
def PyValue.typeName : PyValue → String
  | .none => "NoneType"
  | .bool _ => "bool"
  | .int _ => "int"
  | .float _ => "float"
  | .str _ => "str"
  | .tuple _ => "tuple"
  | .list _ => "list"
  | .dict _ => "dict"
  | .other _ => "object"

/-- A string with one character for each code point. -/
def PyStr.characters : PyStr → List PyStr
  | .text s => s.toList.map fun c => .text (String.singleton c)
  | .surrogates codes => codes.map fun n =>
    if n.isValidChar then .text (String.singleton (Char.ofNat n)) else .surrogates [n]

/-- What a value with a length iterates over. -/
def PyValue.iterated : PyValue → Option (List PyValue)
  | .str s => some (s.characters.map .str)
  | .tuple items | .list items => some items
  | .dict items => some (items.map Prod.fst)
  | .other items => items
  | _ => Option.none

/-- The value is the string `name`. -/
def PyValue.isText (name : String) : PyValue → Bool
  | .str (.text s) => s = name
  | _ => false

/-- The value is a `str`. -/
def PyValue.isStr : PyValue → Bool
  | .str _ => true
  | _ => false

/-- The value under a name in a dictionary. -/
def lookupKey (items : List (PyValue × PyValue)) (name : String) : Option PyValue :=
  (items.find? fun item => item.1.isText name).map Prod.snd

/-! ### From values to messages -/

/-- `_ensure_type`, without a condition: the test of the class has found `found`. -/
def ensureType {α : Type} (name : String) (found : Option α) : Except PyException α :=
  match found with
  | some a => .ok a
  | none => .error (.typeError ("method requires " ++ name ++ " value"))

/-- What the protobuf library does with a number out of the range of its field. -/
def outOfRange (n : ℤ) : PyException := .valueError ("Value out of range: " ++ toString n)

/-- The assignment to `intval`. -/
def assignInt64 (n : ℤ) : Except PyException (BitVec 64) :=
  if -2 ^ 63 ≤ n ∧ n < 2 ^ 63 then .ok (BitVec.ofInt 64 n) else .error (outOfRange n)

/-- The assignment to `uintval` or `handleval`. -/
def assignUint64 (n : ℤ) : Except PyException (BitVec 64) :=
  if 0 ≤ n ∧ n < 2 ^ 64 then .ok (BitVec.ofNat 64 n.toNat) else .error (outOfRange n)

/-- `val.encode("UTF-8")`. -/
def PyStr.encode : PyStr → Except PyException (List UInt8)
  | .text s => .ok s.toByteArray.data.toList
  | .surrogates _ => .error .unicodeEncodeError

/-- The value of `ft_simplevariant_from_value`. A number that names no type is in the last
branch. -/
def simpleValueFromValue (val : PyValue) : Option SimplevalueTypes → Except PyException SimpleValue
  | some .floatType => do
    return .dblval (← ensureType "float" (match val with | .float v => some v | _ => Option.none))
  | some .intType => do return .intval (← assignInt64 (← ensureType "int" val.asInt))
  | some .unsignedType => do
    let n ← ensureType "int" val.asInt
    if n < 0 then .error (.valueError "Value failed condition: must be unsigned")
    else do return .uintval (← assignUint64 n)
  | some .boolType => do
    return .boolval (← ensureType "bool" (match val with | .bool b => some b | _ => Option.none))
  | some .stringType => do
    let s ← ensureType "str" (match val with | .str s => some s | _ => Option.none)
    return .stringval (← s.encode)
  | some .remoteHandleType => do
    return .handleval (← assignUint64 (← ensureType "int" val.asInt)).toNat
  | some .voidType => .error (.typeError "cannot assign to void type")
  | some .datetimeType | none =>
    .error (.runtimeError "failed to convert, maybe a problem in descriptor")

/-- `ft_simplevariant_from_value`. -/
def ftSimplevariantFromValue (val : PyValue) (tp : Option SimplevalueTypes) (sizeof : ℕ) :
    Except PyException FtSimplevariant := do
  return { value := ← simpleValueFromValue val tp, size := sizeof }

/-- `ft_enum_from_value`, on a number. -/
def enumFromInt (n : ℤ) (desc : EnumDescriptor) : Except PyException FtEnum :=
  match desc.enumMap.find? fun e => (e.2.toNat : ℤ) = n with
  | some e => .ok ⟨desc, e.2⟩
  | none => .error (.keyError ("couldn't map int " ++ toString n ++ " to valid enum value"))

/-- `ft_enum_from_value`. -/
def ftEnumFromValue (val : PyValue) (desc : EnumDescriptor) : Except PyException FtEnum :=
  match val with
  | .str (.text s) =>
    match desc.enumMap.lookup s with
    | some sanval => .ok ⟨desc, sanval⟩
    | none => .error (.keyError ("couldn't map string " ++ s ++ " to enum value"))
  | .str (.surrogates _) => .error .unicodeEncodeError
  | .bool b => enumFromInt b.toNat desc
  | .int n => enumFromInt n desc
  | val => .error (.runtimeError
      ("type: " ++ val.typeName ++ " is not supported for converting to enum yet"))

/-- The tests of `ft_tuple_from_value`, and the items. -/
def tupleItems (val : PyValue) (n : ℕ) : Except PyException (Fin n → PyValue) :=
  match val.iterated with
  | none => .error (.typeError "value must be an iterable")
  | some items =>
    if h : items.length = n then .ok fun i => items[i.cast h.symm]
    else .error (.valueError ("invalid tuple length " ++ toString items.length ++
      " supplied, requested length is " ++ toString n))

/-- The tests of `ft_struct_from_value` on the value as a whole, and its items. -/
def structItems : PyValue → Except PyException (List (PyValue × PyValue))
  | .dict items =>
    if items.all fun item => item.1.isStr then .ok items
    else .error (.valueError "Value failed condition: all keys must of string type")
  | _ => .error (.typeError "method requires dict value")

/-- `ft_variant_from_value`, with `ft_struct_from_value`, `ft_tuple_from_value` and
`ft_union_from_value`. -/
def ftVariantFromValue : VariantDescriptor → PyValue → Except PyException FtVariant
  | .simplevar _ tp sizeof, val => do
    return .simplevar (← ftSimplevariantFromValue val tp sizeof)
  | .struct _ structName _ names fields, val => do
    let items ← structItems val
    let value ← collect fun i =>
      match lookupKey items (names i) with
      | some val => ftVariantFromValue (fields i) val
      | none => .error (.nameError ("missing key: " ++ names i ++ " in input struct"))
    return .structval structName (List.ofFn fun i => (names i, value i))
  | .enumeration _ desc, val => do return .enumval (← ftEnumFromValue val desc)
  | .union _ _ possibleTypes, val =>
    -- whatever an alternative raises, the next one is tried
    match firstOk fun i => ftVariantFromValue (possibleTypes i) val with
    | some out => .ok out
    | none => .error (.runtimeError "failed to convert union value!")
  | .tuple _ n tupleMap, val => do
    let items ← tupleItems val n
    let value ← collect fun i => ftVariantFromValue (tupleMap i) (items i)
    return .tupleval (List.ofFn value)
  | .homogArray _ _ _, _ => .error (.runtimeError "couldn't determine type from descriptor")

/-! ### From messages to values -/

/-- The `str` that a field holds. -/
def decodeUtf8 (bytes : List UInt8) : PyValue :=
  match String.fromUTF8? ⟨bytes.toArray⟩ with
  | some s => .str (.text s)
  | none => .other none

/-- `value_from_ft_simplevar`. A timestamp is returned as its message. -/
def valueFromFtSimplevar : SimpleValue → PyValue
  | .notSet => .none
  | .dblval v => .float v
  | .intval v => .int v.toInt
  | .uintval v => .int v.toNat
  | .boolval v => .bool v
  | .stringval v => decodeUtf8 v
  | .tstampval => .other none
  | .handleval key => .int key

/-- An item of `struct.unpack`. A `float` of 32 bits is widened. -/
def PyValue.ofScalar (widen : BitVec 32 → BitVec 64) : Scalar → PyValue
  | .int n => .int n
  | .float v => .float (widen v)
  | .double v => .float v

/-- `value_from_ft_array`, on what is sent as bytes. -/
def valueFromEncoded (widen : BitVec 32 → BitVec 64) (arr : EncodedArray) :
    Except PyException PyValue :=
  match valueFromFtArray arr with
  | .ok vals => .ok (.tuple (vals.map (PyValue.ofScalar widen)))
  | .error (.notImplementedError msg) => .error (.notImplementedError msg)
  | .error (.structError msg) => .error (.structError msg)

mutual

/-- `value_from_ft_variant`, with `value_from_ft_struct`, `value_from_ft_enum`,
`value_from_ft_tuple` and `value_from_ft_array`. -/
def valueFromFtVariant (widen : BitVec 32 → BitVec 64) : FtVariant → Except PyException PyValue
  | .notSet => .error (.valueError "couldn't determine variant type")
  | .simplevar v => .ok (valueFromFtSimplevar v.value)
  | .structval _ value => do return .dict (← valuesOfItems widen value)
  | .enumval v => .ok (.int v.enumValue.toNat)
  | .tupleval value => do return .tuple (← valuesOf widen value)
  | .arrayval .decoded => .error (.notImplementedError "don't understand decoded arrays yet")
  | .arrayval (.heavy data) => do return .list (← valuesOf widen data)
  | .arrayval .notSet => valueFromEncoded widen (FtHomogArray.notSet (α := FtVariant)).arrEncoded
  | .arrayval (.encoded arr) => valueFromEncoded widen arr

/-- The comprehension over a list of messages. -/
def valuesOf (widen : BitVec 32 → BitVec 64) : List FtVariant → Except PyException (List PyValue)
  | [] => .ok []
  | v :: vs => do return (← valueFromFtVariant widen v) :: (← valuesOf widen vs)

/-- The comprehension over the items of a map. -/
def valuesOfItems (widen : BitVec 32 → BitVec 64) :
    List (String × FtVariant) → Except PyException (List (PyValue × PyValue))
  | [] => .ok []
  | (k, v) :: items => do
    return (.str (.text k), ← valueFromFtVariant widen v) :: (← valuesOfItems widen items)

end

/-! ### Replies -/

/-- What `_check_repl_err` raises, with its text. -/
inductive ReplyException where
  | runtimeError (msg : String)
  | deviceError (msg : String)
  | protocolError (msg : String)
  | valueError (msg : String)
  | contentionError (msg : String)
  | serverError (msg : String)
  | authenticationError (msg : String)
  deriving DecidableEq

/-- `_check_repl_err`. -/
def checkReplErr : Option Errstatus → Except ReplyException Unit
  | none => .ok ()
  | some ⟨.ftError, msg⟩ => .error (.runtimeError msg)
  | some ⟨.ftDeviceError, msg⟩ => .error (.deviceError msg)
  | some ⟨.ftProtocolError, msg⟩ => .error (.protocolError msg)
  | some ⟨.outOfRange, msg⟩ => .error (.valueError msg)
  | some ⟨.contentionTimeout, msg⟩ => .error (.contentionError msg)
  | some ⟨.ftServerError, msg⟩ => .error (.serverError msg)
  | some ⟨.ftAuthError, msg⟩ => .error (.authenticationError msg)
  | some ⟨.unknownError, _⟩ => .error (.runtimeError "unknown error")

/-- Only a reply without an error raises nothing. -/
theorem checkReplErr_eq_ok_iff {err : Option Errstatus} :
    checkReplErr err = .ok () ↔ err = none := by
  rcases err with _ | ⟨_ | _ | _ | _ | _ | _ | _ | _, msg⟩ <;> simp [checkReplErr]

end Foxtrot.Python
