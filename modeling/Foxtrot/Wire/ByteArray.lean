import Foxtrot.Foundation.LittleEndian
import Foxtrot.Foundation.Pieces

/-!
# Arrays on the wire

The server sends an array of numbers as its bytes in memory, with a tag for the element type
(`variant_to_bytes`, `get_byte_data_type`, both driven by `bdt_map` in `core/src/typeUtil.cpp`).
The C++ client copies the bytes into a vector of the type the tag names (`ft_variant_from_data`);
the Python client makes a `struct` format from the tag and unpacks them (`get_struct_string`).

Server and C++ client run on a little-endian machine with 64-bit `long` and signed `char`. A
value of a type is its bit pattern; what it stands for is a `Scalar`, an integer or
a floating-point number given by its IEEE bits.

Both clients give back the list that was sent for the six types with a tag that both know
(`array_wire`). The Python client refuses the tags of `unsigned long` and `long` on purpose
(`array_wire_refused`); for `char` it decodes, while the C++ client has no case for the tag. A
`short` array is tagged as `unsigned short`.
-/

namespace Foxtrot

/-- The element types of arrays: the keys of `bdt_map`, and all others. -/
inductive ElemType where
  | uchar
  | char
  | ushort
  | uint
  | ulong
  | short
  | int
  | long
  | float
  | double
  | other (name : String) (sizeof : ℕ)
  deriving DecidableEq

/-- `sizeof`. -/
def ElemType.sizeof : ElemType → ℕ
  | .uchar | .char => 1
  | .ushort | .short => 2
  | .uint | .int | .float => 4
  | .ulong | .long | .double => 8
  | .other _ sizeof => sizeof

/-- `byte_data_types`. -/
inductive ByteDataTypes where
  | ucharType
  | charType
  | ushortType
  | uintType
  | ulongType
  | shortType
  | iintType
  | longType
  | bfloatType
  | bdoubleType
  | bcomplexType
  | bdatetimeType
  | bopaqueType
  deriving DecidableEq

/-- A value of an element type, as its bits in memory. -/
abbrev ElemType.Raw (tp : ElemType) := BitVec (8 * tp.sizeof)

/-- What a value stands for. -/
inductive Scalar where
  | int (n : Int)
  | float (bits : BitVec 32)
  | double (bits : BitVec 64)
  deriving DecidableEq

/-! ### The server -/

/-- `bdt_map`. The tag of `short` is that of `unsigned short`. -/
def bdtMap : List (ElemType × ByteDataTypes) :=
  [(.uchar, .ucharType), (.char, .charType), (.ushort, .ushortType), (.uint, .uintType),
   (.ulong, .ulongType), (.short, .ushortType), (.int, .iintType), (.long, .longType),
   (.float, .bfloatType), (.double, .bdoubleType)]

/-- `get_byte_data_type`. -/
def getByteDataType (tp : ElemType) : Except String ByteDataTypes :=
  match bdtMap.lookup tp with
  | some dtp => .ok dtp
  | none => .error "couldn't get byte data type"

/-- The bytes of an array in memory. -/
def memoryBytes {tp : ElemType} (vals : List tp.Raw) : List UInt8 :=
  vals.flatMap fun v => LittleEndian.bytes tp.sizeof v.toNat

/-- `variant_to_bytes`, on a rank 1 array. -/
def variantToBytes {tp : ElemType} (vals : List tp.Raw) : Except String (List UInt8) :=
  match bdtMap.lookup tp with
  | some _ => .ok (memoryBytes vals)
  | none => .error "failed to convert array to bytes"

/-- `ft_homog_array_encoded`. -/
structure EncodedArray where
  dtp : ByteDataTypes
  data : List UInt8
  deriving DecidableEq

/-- The encoded branch of `get_array_wire_type`. -/
def getArrayWireType {tp : ElemType} (vals : List tp.Raw) : Except String EncodedArray := do
  let dtp ← getByteDataType tp
  let data ← variantToBytes vals
  return { dtp, data }

/-! ### The C++ client -/

/-- `ft_vector_variant`: a vector of one of the element types. -/
abbrev VectorVariant := Σ tp : ElemType, List tp.Raw

/-- `copy_to_out_type`: as many elements as the bytes hold, read from memory. -/
def copyToOutType (tp : ElemType) (data : List UInt8) : List tp.Raw :=
  (List.range (data.length / tp.sizeof)).map fun k =>
    BitVec.ofNat _ (LittleEndian.value (Pieces.piece tp.sizeof data k))

/-- The element type that `ft_variant_from_data` reads for a tag. -/
def ElemType.ofTag : ByteDataTypes → Option ElemType
  | .ucharType => some .uchar
  | .ushortType => some .ushort
  | .uintType => some .uint
  | .ulongType => some .ulong
  | .shortType => some .short
  | .iintType => some .int
  | .longType => some .long
  | .bfloatType => some .float
  | .bdoubleType => some .double
  | .charType | .bcomplexType | .bdatetimeType | .bopaqueType => none

/-- `ft_variant_from_data`. A tag without a case leaves the default value, an empty vector of
`unsigned char`. -/
def ftVariantFromData (tp : ByteDataTypes) (data : List UInt8) : VectorVariant :=
  match ElemType.ofTag tp with
  | some t => ⟨t, copyToOutType t data⟩
  | none => ⟨.uchar, []⟩

/-! ### The Python client -/

/-- The format characters of `struct` that `get_struct_string` uses. -/
inductive FormatCode where
  /-- `B`, an unsigned byte. -/
  | ubyte
  /-- `b`, a signed byte. -/
  | sbyte
  /-- `H`, an unsigned 16-bit integer. -/
  | uint16
  /-- `I`, an unsigned 32-bit integer. -/
  | uint32
  /-- `i`, a signed 32-bit integer. -/
  | int32
  /-- `d`, a double-precision number. -/
  | float64
  /-- `f`, a single-precision number. -/
  | float32
  deriving DecidableEq

/-- The size of an item, in the standard sizes that the prefix `<` selects. -/
def FormatCode.size : FormatCode → ℕ
  | .ubyte | .sbyte => 1
  | .uint16 => 2
  | .uint32 | .int32 | .float32 => 4
  | .float64 => 8

/-- A format string `'<%d…'`: a number of items of one kind, little-endian. -/
structure StructString where
  count : ℕ
  code : FormatCode
  deriving DecidableEq

/-- What the Python client raises. -/
inductive PyError where
  | notImplementedError (msg : String)
  | structError (msg : String)
  deriving DecidableEq

/-- `get_struct_string`. -/
def getStructString (dtp : ByteDataTypes) (length : ℕ) : Except PyError StructString :=
  match dtp with
  | .ucharType => .ok ⟨length, .ubyte⟩
  | .charType => .ok ⟨length, .sbyte⟩
  | .ushortType => .ok ⟨length / 2, .uint16⟩
  | .uintType => .ok ⟨length / 4, .uint32⟩
  | .iintType => .ok ⟨length / 4, .int32⟩
  | .bdoubleType => .ok ⟨length / 8, .float64⟩
  | .bfloatType => .ok ⟨length / 4, .float32⟩
  -- the source: all the others are dodgy at the moment
  | _ => .error (.notImplementedError "data type not supported yet")

/-- The item that `struct` makes of its bytes. -/
def FormatCode.item (code : FormatCode) (bs : List UInt8) : Scalar :=
  let n := LittleEndian.value bs
  match code with
  | .ubyte | .uint16 | .uint32 => .int n
  | .sbyte => .int (BitVec.ofNat 8 n).toInt
  | .int32 => .int (BitVec.ofNat 32 n).toInt
  | .float32 => .float (BitVec.ofNat 32 n)
  | .float64 => .double (BitVec.ofNat 64 n)

/-- `struct.unpack`: the buffer must have exactly the size of the format. -/
def structUnpack (fmt : StructString) (data : List UInt8) : Except PyError (List Scalar) :=
  if data.length = fmt.count * fmt.code.size then
    .ok ((List.range fmt.count).map fun k => fmt.code.item (Pieces.piece fmt.code.size data k))
  else .error (.structError "unpack requires a buffer of the size of the format")

/-- `value_from_ft_array`, on an encoded array. -/
def valueFromFtArray (arr : EncodedArray) : Except PyError (List Scalar) := do
  let structstr ← getStructString arr.dtp arr.data.length
  structUnpack structstr arr.data

/-! ### Round trips -/

/-- What a value of an element type stands for, for the types that have a meaning here. -/
def ElemType.scalar : (tp : ElemType) → tp.Raw → Scalar
  | .uchar, v | .ushort, v | .uint, v | .ulong, v => .int v.toNat
  | .char, v | .short, v | .int, v | .long, v => .int v.toInt
  | .float, v => .float v
  | .double, v => .double v
  | .other _ _, v => .int v.toNat

/-- The element types of `bdt_map`. -/
def ElemType.accepted : List ElemType := bdtMap.map Prod.fst

variable {tp : ElemType}

/-- Each value takes the bytes of its type. -/
theorem length_memoryBytes (vals : List tp.Raw) :
    (memoryBytes vals).length = vals.length * tp.sizeof :=
  Pieces.length_flatMap_of_width (fun _ => LittleEndian.length_bytes _ _) vals

/-- Reading an array back at its own type finds the array. -/
theorem copyToOutType_memoryBytes (htp : 0 < tp.sizeof) (vals : List tp.Raw) :
    copyToOutType tp (memoryBytes vals) = vals := by
  have hlen : (memoryBytes vals).length / tp.sizeof = vals.length := by
    rw [length_memoryBytes, Nat.mul_div_cancel _ htp]
  rw [copyToOutType, hlen, memoryBytes,
    Pieces.map_piece_flatMap (fun _ => LittleEndian.length_bytes _ _)
      (fun bs => BitVec.ofNat (8 * tp.sizeof) (LittleEndian.value bs))]
  simp only [LittleEndian.ofNat_value_bytes, List.map_id']

/-- The array that is read from a whole number of elements has the bytes it was read from. -/
theorem memoryBytes_copyToOutType {data : List UInt8} (hdvd : tp.sizeof ∣ data.length) :
    memoryBytes (copyToOutType tp data) = data := by
  have hlen : data.length / tp.sizeof * tp.sizeof = data.length := Nat.div_mul_cancel hdvd
  have hpiece : ∀ k ∈ List.range (data.length / tp.sizeof),
      LittleEndian.bytes tp.sizeof (BitVec.ofNat (8 * tp.sizeof)
        (LittleEndian.value (Pieces.piece tp.sizeof data k))).toNat =
          Pieces.piece tp.sizeof data k := by
    intro k hk
    have hle : (k + 1) * tp.sizeof ≤ data.length := by
      rw [← hlen]
      exact Nat.mul_le_mul_right _ (List.mem_range.mp hk)
    refine LittleEndian.bytes_ofNat_value ?_
    rw [Pieces.piece, List.length_take, List.length_drop]
    rw [Nat.add_mul, Nat.one_mul] at hle
    omega
  rw [memoryBytes, copyToOutType, List.flatMap_map, List.flatMap_congr hpiece]
  exact Pieces.flatMap_piece_eq_self hlen.ge

/-- Unpacking an array with a format whose items are the array's values finds them. -/
theorem structUnpack_memoryBytes {code : FormatCode} (vals : List tp.Raw)
    (hsize : code.size = tp.sizeof)
    (hitem : ∀ v : tp.Raw, code.item (LittleEndian.bytes tp.sizeof v.toNat) = tp.scalar v) :
    structUnpack ⟨vals.length, code⟩ (memoryBytes vals) = .ok (vals.map tp.scalar) := by
  rw [structUnpack, if_pos (by rw [hsize, length_memoryBytes])]
  simp only [hsize]
  rw [memoryBytes, Pieces.map_piece_flatMap (fun _ => LittleEndian.length_bytes _ _) code.item]
  simp only [hitem]

/-- Values of a type with a tag are sent with it, as they lie in memory. -/
theorem getArrayWireType_of_lookup {dtp : ByteDataTypes} (htag : bdtMap.lookup tp = some dtp)
    (vals : List tp.Raw) : getArrayWireType vals = .ok ⟨dtp, memoryBytes vals⟩ := by
  rw [getArrayWireType, getByteDataType, variantToBytes, htag]
  rfl

/-- The C++ client gives back an array whose tag it reads as the array's type. -/
theorem ftVariantFromData_memoryBytes {dtp : ByteDataTypes} (htag : ElemType.ofTag dtp = some tp)
    (hpos : 0 < tp.sizeof) (vals : List tp.Raw) :
    ftVariantFromData dtp (memoryBytes vals) = ⟨tp, vals⟩ := by
  rw [ftVariantFromData, htag]
  simp only [copyToOutType_memoryBytes hpos]

/-- Signed, unsigned or floating-point. -/
inductive NumberKind where
  | unsigned
  | signed
  | floating
  deriving DecidableEq

/-- The kind of numbers of an element type. -/
def ElemType.kind : ElemType → NumberKind
  | .uchar | .ushort | .uint | .ulong | .other _ _ => .unsigned
  | .char | .short | .int | .long => .signed
  | .float | .double => .floating

/-- The kind of numbers of a format character. -/
def FormatCode.kind : FormatCode → NumberKind
  | .ubyte | .uint16 | .uint32 => .unsigned
  | .sbyte | .int32 => .signed
  | .float64 | .float32 => .floating

/-- The Python client decodes the array to these values, at their size and kind. -/
def DecodedByPython (tp : ElemType) (arr : EncodedArray) (vals : List tp.Raw) : Prop :=
  valueFromFtArray arr = .ok (vals.map tp.scalar) ∧
    ∃ fmt, getStructString arr.dtp arr.data.length = .ok fmt ∧
      fmt.code.size = tp.sizeof ∧ fmt.code.kind = tp.kind

/-- The bytes of a value read back as its number. -/
theorem value_bytes_raw (v : tp.Raw) :
    LittleEndian.value (LittleEndian.bytes tp.sizeof v.toNat) = v.toNat := by
  have hv := congrArg BitVec.toNat (LittleEndian.ofNat_value_bytes v)
  refine LittleEndian.value_bytes ?_
  have hpow : (256 : ℕ) ^ tp.sizeof = 2 ^ (8 * tp.sizeof) := by
    rw [pow_mul]
    norm_num
  rw [hpow]
  exact v.isLt

private theorem ofNat_toNat_self {n : ℕ} (v : BitVec n) : BitVec.ofNat n v.toNat = v := by
  rw [BitVec.ofNat_toNat, BitVec.setWidth_eq]

/-- The format character of an element type, where the Python client has one. -/
def FormatCode.ofElem : ElemType → Option FormatCode
  | .uchar => some .ubyte
  | .char => some .sbyte
  | .ushort => some .uint16
  | .uint => some .uint32
  | .int => some .int32
  | .float => some .float32
  | .double => some .float64
  | .ulong | .short | .long | .other _ _ => none

/-- A format character fits its element type: same size, same kind, and its items are the
values. -/
theorem FormatCode.fits {code : FormatCode} (h : FormatCode.ofElem tp = some code) :
    code.size = tp.sizeof ∧ code.kind = tp.kind ∧
      ∀ v : tp.Raw, code.item (LittleEndian.bytes tp.sizeof v.toNat) = tp.scalar v := by
  rcases tp with _ | _ | _ | _ | _ | _ | _ | _ | _ | _ | ⟨name, sizeof⟩ <;> cases h
  all_goals refine ⟨rfl, rfl, fun v => ?_⟩
  all_goals simp only [FormatCode.item, value_bytes_raw, ElemType.scalar]
  · exact congrArg (fun b => Scalar.int (BitVec.toInt b)) (ofNat_toNat_self v)
  · exact congrArg (fun b => Scalar.int (BitVec.toInt b)) (ofNat_toNat_self v)
  · exact congrArg Scalar.float (ofNat_toNat_self v)
  · exact congrArg Scalar.double (ofNat_toNat_self v)

/-- The Python client decodes an array for whose tag it makes a format of the array's type. -/
theorem decodedByPython_memoryBytes {dtp : ByteDataTypes} {code : FormatCode}
    (hcode : FormatCode.ofElem tp = some code)
    (hfmt : ∀ n, getStructString dtp (n * tp.sizeof) = .ok ⟨n, code⟩) (vals : List tp.Raw) :
    DecodedByPython tp ⟨dtp, memoryBytes vals⟩ vals := by
  obtain ⟨hsize, hkind, hitem⟩ := FormatCode.fits hcode
  have hstr : getStructString dtp (memoryBytes vals).length = .ok ⟨vals.length, code⟩ := by
    rw [length_memoryBytes, hfmt]
  refine ⟨?_, ⟨vals.length, code⟩, hstr, hsize, hkind⟩
  rw [valueFromFtArray, hstr]
  exact structUnpack_memoryBytes vals hsize hitem

/-- The formats that `get_struct_string` makes for whole numbers of items. -/
theorem getStructString_mul {dtp : ByteDataTypes} {code : FormatCode}
    (htag : bdtMap.lookup tp = some dtp) (hcode : FormatCode.ofElem tp = some code) (n : ℕ) :
    getStructString dtp (n * tp.sizeof) = .ok ⟨n, code⟩ := by
  rcases tp with _ | _ | _ | _ | _ | _ | _ | _ | _ | _ | ⟨name, sizeof⟩ <;> cases hcode <;>
    cases htag <;> simp [getStructString, ElemType.sizeof]

/-- The element types whose tag both clients read. -/
def ElemType.common : List ElemType := [.uchar, .ushort, .uint, .int, .float, .double]

/-- **Arrays survive the wire.** For the six common types both clients decode what was sent; for
`unsigned long` and `long` the C++ client does, and the Python client refuses the tag; for `char`
the Python client does. -/
theorem array_wire {tp : ElemType} (vals : List tp.Raw) :
    (tp ∈ ElemType.common → ∃ arr, getArrayWireType vals = .ok arr ∧
      ftVariantFromData arr.dtp arr.data = ⟨tp, vals⟩ ∧ DecodedByPython tp arr vals) ∧
    (tp = .ulong ∨ tp = .long → ∃ arr, getArrayWireType vals = .ok arr ∧
      ftVariantFromData arr.dtp arr.data = ⟨tp, vals⟩ ∧
      valueFromFtArray arr = .error (.notImplementedError "data type not supported yet")) ∧
    (tp = .char → ∃ arr, getArrayWireType vals = .ok arr ∧ DecodedByPython tp arr vals) := by
  -- both directions of a common type, from the three tables at that type
  have hboth : ∀ {dtp code}, bdtMap.lookup tp = some dtp → ElemType.ofTag dtp = some tp →
      FormatCode.ofElem tp = some code → 0 < tp.sizeof → ∃ arr, getArrayWireType vals = .ok arr ∧
        ftVariantFromData arr.dtp arr.data = ⟨tp, vals⟩ ∧ DecodedByPython tp arr vals :=
    fun htag hread hcode hpos => ⟨_, getArrayWireType_of_lookup htag vals,
      ftVariantFromData_memoryBytes hread hpos vals,
      decodedByPython_memoryBytes hcode (getStructString_mul htag hcode) vals⟩
  refine ⟨fun htp => ?_, ?_, ?_⟩
  · simp only [ElemType.common, List.mem_cons, List.not_mem_nil, or_false] at htp
    rcases htp with rfl | rfl | rfl | rfl | rfl | rfl
    all_goals exact hboth rfl rfl rfl (by decide)
  · rintro (rfl | rfl)
    all_goals exact ⟨_, getArrayWireType_of_lookup rfl vals,
      ftVariantFromData_memoryBytes rfl (by decide) vals, rfl⟩
  · rintro rfl
    exact ⟨_, getArrayWireType_of_lookup rfl vals,
      decodedByPython_memoryBytes rfl (getStructString_mul rfl rfl) vals⟩

theorem array_wire_minusOne : ∃ arr, getArrayWireType [(-1 : ElemType.int.Raw)] = .ok arr ∧
    ftVariantFromData arr.dtp arr.data = ⟨.int, [-1]⟩ ∧ DecodedByPython .int arr [-1] :=
  (array_wire [(-1 : ElemType.int.Raw)]).1 (by decide)

/-- **An `unsigned long` array does not reach the Python client**, which refuses the tag. -/
theorem array_wire_refused : ¬ ∀ tp ∈ ElemType.accepted, ∀ vals : List tp.Raw,
    ∃ arr, getArrayWireType vals = .ok arr ∧
      ftVariantFromData arr.dtp arr.data = ⟨tp, vals⟩ ∧ DecodedByPython tp arr vals := by
  intro hall
  obtain ⟨arr, henc, -, hdec, -⟩ := hall .ulong (by decide) [1]
  rw [getArrayWireType_of_lookup rfl] at henc
  obtain rfl := Except.ok.inj henc
  exact absurd hdec (by decide)

end Foxtrot
