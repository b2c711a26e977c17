import Mathlib.Data.Int.Init
import Mathlib.Logic.Equiv.Defs
import Foxtrot.Foundation.LittleEndian

/-!
# Packed values

A type is `Packed` if its values are kept in a fixed number of bytes, from which they are read back.
Words are, as little-endian numbers, and so are pairs of packed values, one after the other, without
anything between them. A record is packed like the tuple of its fields (`Packed.ofEquiv`).
-/

/-- Values that are kept in a fixed number of bytes. What is read from another number of bytes is
left open. -/
class Packed (T : Type) where
  size : ℕ
  bytes : T → List UInt8
  value : List UInt8 → T
  length_bytes (t : T) : (bytes t).length = size
  value_bytes (t : T) : value (bytes t) = t

namespace Packed

variable {S T : Type}

/-! ### Words -/

instance : Packed UInt8 where
  size := 1
  bytes n := [n]
  value bs := bs.headD 0
  length_bytes _ := rfl
  value_bytes _ := rfl

instance : Packed UInt16 where
  size := 2
  bytes n := LittleEndian.bytes 2 n.toNat
  value bs := UInt16.ofNat (LittleEndian.value bs)
  length_bytes n := LittleEndian.length_bytes 2 n.toNat
  value_bytes n := by
    rw [LittleEndian.value_bytes n.toNat_lt, UInt16.ofNat_toNat]

instance : Packed UInt32 where
  size := 4
  bytes n := LittleEndian.bytes 4 n.toNat
  value bs := UInt32.ofNat (LittleEndian.value bs)
  length_bytes n := LittleEndian.length_bytes 4 n.toNat
  value_bytes n := by
    rw [LittleEndian.value_bytes n.toNat_lt, UInt32.ofNat_toNat]

/-! ### Records -/

/-- A type is packed like one that is in correspondence with it. -/
@[reducible] def ofEquiv [Packed S] (e : T ≃ S) : Packed T where
  size := size S
  bytes t := bytes (e t)
  value bs := e.symm (value bs)
  length_bytes t := length_bytes (e t)
  value_bytes t := by
    rw [value_bytes, e.symm_apply_apply]

instance : Packed Int32 :=
  ofEquiv ⟨Int32.toUInt32, UInt32.toInt32, fun _ => rfl, fun _ => rfl⟩

instance [Packed S] [Packed T] : Packed (S × T) where
  size := size S + size T
  bytes p := bytes p.1 ++ bytes p.2
  value bs := (value (bs.take (size S)), value (bs.drop (size S)))
  length_bytes p := by
    rw [List.length_append, length_bytes, length_bytes]
  value_bytes p := by
    rw [List.take_left' (length_bytes p.1), List.drop_left' (length_bytes p.1), value_bytes,
      value_bytes]

/-- A pair is packed one part after the other. -/
theorem bytes_mk [Packed S] [Packed T] (s : S) (t : T) : bytes (s, t) = bytes s ++ bytes t := rfl

end Packed
