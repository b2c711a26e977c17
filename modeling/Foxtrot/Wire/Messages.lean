import Foxtrot.Foundation.Fallible
import Foxtrot.Foundation.FiniteMap
import Foxtrot.Wire.Reflection

/-!
# Wire messages

The messages of `core/proto/ft_types.proto` that carry values and descriptions of types, the
errors of the conversions, and the manager of the handles that stand for values which stay on the
server (`HandleManager.cpp`).

A conversion may only read the handles (decoding), or add some (encoding). The manager draws the
key of a new handle at random and does not ask whether it is in use: the handle then stands for the
later variant (`HandleManager.lookup_addAll_of_lookup`).
-/

namespace Foxtrot

/-- `Logging`. A message that is written to it is nothing a conversion reads. -/
structure Logging where

/-! ### Values -/

/-- `value` of `ft_simplevariant`. -/
inductive SimpleValue where
  | notSet
  | dblval (v : BitVec 64)
  | intval (v : BitVec 64)
  | uintval (v : BitVec 64)
  | boolval (v : Bool)
  | stringval (v : List UInt8)
  | tstampval
  | handleval (key : ℕ)
  deriving DecidableEq

/-- `ft_simplevariant`. -/
structure FtSimplevariant where
  value : SimpleValue := .notSet
  size : ℕ := 0
  isVoid : Bool := false
  deriving DecidableEq

/-- `enum_descriptor`. -/
structure EnumDescriptor where
  enumName : String
  enumMap : List (String × BitVec 32)
  deriving DecidableEq

/-- `ft_enum`. -/
structure FtEnum where
  desc : EnumDescriptor
  enumValue : BitVec 32
  deriving DecidableEq

/-- `ft_homog_array`, over the messages in a heavy array. What a decoded array holds is never
read. -/
inductive FtHomogArray (α : Type) where
  | notSet
  | decoded
  | encoded (arr : EncodedArray)
  | heavy (data : List α)

/-- `has_arr_encoded`. -/
def FtHomogArray.hasArrEncoded {α : Type} : FtHomogArray α → Bool
  | .encoded _ => true
  | _ => false

/-- `arr_encoded`: the default message where there is none. -/
def FtHomogArray.arrEncoded {α : Type} : FtHomogArray α → EncodedArray
  | .encoded arr => arr
  | _ => { dtp := .ucharType, data := [] }

/-- `ft_variant`, with `ft_struct` and `ft_tuple`. -/
inductive FtVariant where
  | notSet
  | simplevar (v : FtSimplevariant)
  | structval (structName : String) (value : List (String × FtVariant))
  | enumval (v : FtEnum)
  | tupleval (value : List FtVariant)
  | arrayval (arr : FtHomogArray FtVariant)

/-! ### Descriptions -/

/-- `simplevalue_types`. -/
inductive SimplevalueTypes where
  | floatType
  | intType
  | unsignedType
  | boolType
  | stringType
  | voidType
  | datetimeType
  | remoteHandleType
  deriving DecidableEq

/-- `variant_descriptor`, with the descriptor of its `variant_type`. A simple value's type is
`none` where the code sends what an uninitialised variable held. -/
inductive VariantDescriptor where
  | simplevar (cppTypeName : String) (tp : Option SimplevalueTypes) (sizeof : ℕ)
  | enumeration (cppTypeName : String) (desc : EnumDescriptor)
  | struct (cppTypeName structName : String) (n : ℕ) (names : Fin n → String)
      (fields : Fin n → VariantDescriptor)
  | tuple (cppTypeName : String) (n : ℕ) (tupleMap : Fin n → VariantDescriptor)
  | homogArray (cppTypeName : String) (fixedSize : Option ℕ) (valueType : VariantDescriptor)
  | union (cppTypeName : String) (n : ℕ) (possibleTypes : Fin n → VariantDescriptor)

/-! ### Errors and handles -/

/-- How a conversion fails: an exception with its text, a failed check of the protobuf library,
the logger used through a null pointer, or a branch on a variable that nobody set. -/
inductive Failure where
  | logicError (what : String)
  | runtimeError (what : String)
  | reflectionError (what : String)
  | outOfRange (what : String)
  | fatal (what : String)
  | nullPointer
  | undefined
  deriving DecidableEq

/-- `HandleManager`, with the keys that its random engine is still to draw. -/
structure HandleManager where
  values : AList fun _ : ℕ => Variant
  twister : ℕ → ℕ

namespace HandleManager

/-- `add`: the variant under a new key, and the key. -/
def add (hm : HandleManager) (var : Variant) : ℕ × HandleManager :=
  let newkey := hm.twister 0
  (newkey, { values := hm.values.insert newkey var, twister := fun n => hm.twister (n + 1) })

/-- `lookup`. -/
def lookup (hm : HandleManager) (handle : ℕ) : Except Failure Variant :=
  match hm.values.lookup handle with
  | some var => .ok var
  | none => .error (.outOfRange "unordered_map::at")

/-- The manager after `add` of the variants, one after the other. -/
def addAll (hm : HandleManager) (vars : List Variant) : HandleManager :=
  vars.foldl (fun hm var => (hm.add var).2) hm

@[simp]
theorem addAll_nil (hm : HandleManager) : hm.addAll [] = hm := rfl

/-- Variants are added one after the other. -/
@[simp]
theorem addAll_cons (hm : HandleManager) (var : Variant) (vars : List Variant) :
    hm.addAll (var :: vars) = (hm.add var).2.addAll vars := rfl

/-- Each variant takes a key from the twister. -/
theorem addAll_twister (hm : HandleManager) (vars : List Variant) (k : ℕ) :
    (hm.addAll vars).twister k = hm.twister (vars.length + k) := by
  induction vars generalizing hm with
  | nil => simp
  | cons var vars ih =>
    rw [addAll_cons, ih, List.length_cons, Nat.add_right_comm]
    rfl

/-- The variant is found under the key that was drawn for it. -/
private theorem lookup_add (hm : HandleManager) (var : Variant) :
    (hm.add var).2.values.lookup (hm.twister 0) = some var :=
  AList.lookup_insert hm.values

/-- A key that has not been drawn keeps what is under it. -/
private theorem lookup_addAll_of_forall_ne {hm : HandleManager} {handle : ℕ}
    (h : ∀ k, handle ≠ hm.twister k) (vars : List Variant) :
    (hm.addAll vars).values.lookup handle = hm.values.lookup handle := by
  induction vars generalizing hm with
  | nil => rfl
  | cons var vars ih =>
    have hadd : (hm.add var).2.values.lookup handle = hm.values.lookup handle :=
      AList.lookup_insert_ne (h 0)
    exact (ih fun k => h (k + 1)).trans hadd

/-- With keys that differ, every key stands for the variant it was drawn for. -/
theorem lookup_addAll_of_injective {hm : HandleManager} (hinj : Function.Injective hm.twister)
    {vars : List Variant} {k : ℕ} (hk : k < vars.length) :
    (hm.addAll vars).values.lookup (hm.twister k) = some vars[k] := by
  induction vars generalizing hm k with
  | nil => exact absurd hk (Nat.not_lt_zero k)
  | cons var vars ih =>
    have hrest : Function.Injective (hm.add var).2.twister :=
      fun i j hij => Nat.succ_injective (hinj hij)
    cases k with
    | zero =>
      have hne : ∀ k, hm.twister 0 ≠ (hm.add var).2.twister k :=
        fun k hk => Nat.succ_ne_zero k (hinj hk).symm
      exact (lookup_addAll_of_forall_ne hne vars).trans (hm.lookup_add var)
    | succ k => exact ih hrest (Nat.lt_of_succ_lt_succ hk)

/-- What the handle stands for. Of one that is not in use nothing is asked. -/
def standsFor (hm : HandleManager) (handle : ℕ) : Variant :=
  (hm.values.lookup handle).getD (.of .void ())

end HandleManager

/-- A conversion to a message: it may fail, and it may add handles, which stay if it fails. -/
abbrev Conv := ExceptT Failure (StateM HandleManager)

/-- `HandleManager::instance()->add`. -/
def addHandle (var : Variant) : Conv ℕ := do
  let (newkey, hm) := (← get).add var
  set hm
  return newkey

open Fallible in
/-- A handle is returned by its key. -/
theorem returns_addHandle_iff {var : Variant} {hm hm' : HandleManager} {key : ℕ} :
    Returns (addHandle var) hm key hm' ↔ (hm.add var).1 = key ∧ (hm.add var).2 = hm' := by
  refine ⟨fun h => ?_, fun ⟨hkey, hhm⟩ => hkey ▸ hhm ▸ rfl⟩
  cases (h : (Except.ok (hm.add var).1, (hm.add var).2) = (Except.ok key, hm'))
  exact ⟨rfl, rfl⟩

end Foxtrot
