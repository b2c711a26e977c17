import Foxtrot.Wire.Decoding

/-!
# A concrete RTTR

`Rttr.standard` has a constructor for everything that can have a default value, converts a value
to its own type, a number to a narrower type of its kind when it fits, a number to the enumerator
it belongs to, and an alternative to its union by the converter that `register_union` registers.
Its conversions are exact (`Rttr.standard_exact`), so the assumptions about RTTR can be met.
-/

namespace Foxtrot

open Fallible

/-- The default value of a type. -/
def RType.default : (tp : RType) → Option tp.Val
  | .void => none
  | .bool => some false
  | .arith _ => some 0
  | .string => some []
  | .remote _ | .other _ => some (0 : ℕ)
  | .optional _ => some none
  | .enumeration _ => some (0 : ℤ)
  | .cls info props => if info.constructors = 0 then none else collect fun i => (props i).default
  | .tuple _ _ elems => collect fun i => (elems i).default
  | .union _ n alts =>
    if h : 0 < n then (alts ⟨0, h⟩).default.map fun v => ⟨⟨0, h⟩, v⟩ else none
  | .container info elem =>
    match h : info.fixedSize with
    | none => some ⟨[], by simp [h]⟩
    | some n => elem.default.map fun v => ⟨List.replicate n v, by simp [h]⟩

/-- The 64-bit type of a number's kind, and the number in it. -/
def wide : (tp : ElemType) → tp.Raw → ElemType × BitVec 64
  | .char, v | .short, v | .int, v | .long, v => (.long, v.signExtend 64)
  | .float, v => (.double, v.setWidth 64)
  | .double, v => (.double, v)
  | .uchar, v | .ushort, v | .uint, v | .ulong, v | .other _ _, v => (.ulong, v.setWidth 64)

/-- A number in a narrower type, if it fits. -/
def narrow (src : ElemType) (x : BitVec 64) (tp : ElemType) : Option tp.Raw :=
  if wide tp (x.setWidth _) = (src, x) then some (x.setWidth _) else none

/-- The conversions between different types. -/
def convertOther : Variant → (tp : RType) → Option tp.Val
  | ⟨.arith .long, false, x⟩, .arith tp => narrow .long x tp
  | ⟨.arith .ulong, false, x⟩, .arith tp => narrow .ulong x tp
  | ⟨.arith .double, false, x⟩, .arith tp => narrow .double x tp
  | ⟨.arith .uint, false, n⟩, .enumeration e =>
    if (n.toNat : ℤ) ∈ e.values.map Prod.snd then some (n.toNat : ℤ) else none
  | out, .union _ n alts =>
    (List.finRange n).findSome? fun i =>
      (Variant.exactly (alts i) (some out)).map fun v => ⟨i, v⟩
  | _, _ => none

/-- RTTR with default constructors and exact conversions. -/
def Rttr.standard : Rttr where
  create := RType.default
  canConvert out tp := ((Variant.exactly tp (some out)).or (convertOther out tp)).isSome
  convert out tp := (Variant.exactly tp (some out)).or (convertOther out tp)
  toUint32
    | ⟨.enumeration _, false, v⟩ => if 0 ≤ v ∧ v < 2 ^ 32 then some (BitVec.ofInt 32 v) else none
    | _ => none
  widen x := x.setWidth 64

end Foxtrot
