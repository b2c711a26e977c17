import Mathlib.Data.Fin.VecNotation
import Foxtrot.Python.TypeConversion

/-!
# Values through their descriptors and back

A value that has the shape a descriptor describes (`Fits`) should become a message of the
described case, from which the same value is read back, with the number in place of the name of an
enumerator (`Back`); a value of another shape should raise. `RoundTrips` says both of a descriptor
and a value.

The code has tests of its own for what it takes (`Accepts`): it takes no list for an array, and it
does take a `bool` for a number, a number beyond the size that is described, any iterable with a
length for a tuple, and a dictionary with further keys for a struct. What it has taken comes back,
except for the last two (`Unchanged`). So a value round trips exactly if it fits, is accepted and
comes back unchanged, or neither fits nor is accepted (`roundTrips_iff_fits`).
-/

namespace Foxtrot.Python

open Fallible

/-! ### Shapes -/

/-- A number is in the range of an integral type of this size. -/
def InSigned (sizeof : ℕ) (n : ℤ) : Prop := -2 ^ (8 * sizeof) ≤ 2 * n ∧ 2 * n < 2 ^ (8 * sizeof)

/-- A number is in the range of an unsigned type of this size. -/
def InUnsigned (sizeof : ℕ) (n : ℤ) : Prop := 0 ≤ n ∧ n < 2 ^ (8 * sizeof)

/-- The simple values of a type. -/
def FitsSimple (sizeof : ℕ) : Option SimplevalueTypes → PyValue → Prop
  | some .floatType, .float _ => True
  | some .intType, .int n => InSigned sizeof n
  | some .unsignedType, .int n => InUnsigned sizeof n
  | some .boolType, .bool _ => True
  | some .stringType, .str _ => True
  | some .remoteHandleType, .int n => 0 ≤ n ∧ n < 2 ^ 64
  | _, _ => False

/-- The enumerators, by name or by number. -/
def FitsEnum (desc : EnumDescriptor) : PyValue → Prop
  | .str (.text s) => (desc.enumMap.lookup s).isSome
  | .int n => ∃ e ∈ desc.enumMap, (e.2.toNat : ℤ) = n
  | _ => False

/-- The value has the shape that the descriptor describes. -/
def Fits : VariantDescriptor → PyValue → Prop
  | .simplevar _ tp sizeof, v => FitsSimple sizeof tp v
  | .enumeration _ desc, v => FitsEnum desc v
  | .struct _ _ _ names fields, v => ∃ items, v = .dict items ∧
    (∀ item ∈ items, ∃ i, item.1 = .str (.text (names i))) ∧
      ∀ i, ∃ x, lookupKey items (names i) = some x ∧ Fits (fields i) x
  | .tuple _ n tupleMap, v => ∃ items : Fin n → PyValue, v = .tuple (List.ofFn items) ∧
    ∀ i, Fits (tupleMap i) (items i)
  | .homogArray _ fixedSize valueType, v => ∃ items, v = .list items ∧
    (∀ size ∈ fixedSize, items.length = size) ∧ ∀ x ∈ items, Fits valueType x
  | .union _ _ possibleTypes, v => ∃ i, Fits (possibleTypes i) v

/-! ### The round trip -/

/-- The value is converted. -/
def Converts (d : VariantDescriptor) (v : PyValue) : Prop :=
  ∃ m, ftVariantFromValue d v = .ok m

/-- The `i`-th alternative is the first that converts the value. -/
def FirstConverts {n : ℕ} (possibleTypes : Fin n → VariantDescriptor) (v : PyValue) (i : Fin n) :
    Prop :=
  Converts (possibleTypes i) v ∧ ∀ j < i, ¬ Converts (possibleTypes j) v

/-- The field of a simple value's message for a type. -/
def SimpleCase : Option SimplevalueTypes → SimpleValue → Prop
  | some .floatType, .dblval _ | some .intType, .intval _ | some .unsignedType, .uintval _
  | some .boolType, .boolval _ | some .stringType, .stringval _
  | some .remoteHandleType, .handleval _ => True
  | _, _ => False

/-- The message is of the case that is described, for a union of that of the first alternative that
converts the value. -/
def CaseOf : VariantDescriptor → PyValue → FtVariant → Prop
  | .simplevar _ tp _, _, m => ∃ sv, m = .simplevar sv ∧ SimpleCase tp sv.value
  | .enumeration _ _, _, m => ∃ e, m = .enumval e
  | .struct _ structName _ _ _, _, m => ∃ value, m = .structval structName value
  | .tuple _ _ _, _, m => ∃ value, m = .tupleval value
  | .homogArray _ _ _, _, m => ∃ arr, m = .arrayval arr
  | .union _ _ possibleTypes, v, m =>
    ∃ i, FirstConverts possibleTypes v i ∧ CaseOf (possibleTypes i) v m

/-- Values that are not compared item by item, as `==` compares them: a `bool` as its number. -/
def SameValue (v w : PyValue) : Prop :=
  v = w ∨ ∃ n, v.asInt = some n ∧ w.asInt = some n

/-- All keys are text. -/
def TextKeys (items : List (PyValue × PyValue)) : Prop :=
  ∀ item ∈ items, ∃ s, item.1 = .str (.text s)

/-- The second value equals the first, with the number in place of the name of an enumerator. -/
def Back : VariantDescriptor → PyValue → PyValue → Prop
  | .simplevar _ _ _, v, w => SameValue v w
  | .enumeration _ desc, v, w => SameValue v w ∨
    ∃ s number, v = .str (.text s) ∧ desc.enumMap.lookup s = some number ∧ w = .int number.toNat
  | .struct _ _ _ names fields, v, w => ∃ items items', v = .dict items ∧ w = .dict items' ∧
    (TextKeys items ∧ TextKeys items' ∧
      ∀ name, (lookupKey items name).isSome ↔ (lookupKey items' name).isSome) ∧
    ∀ i, ∃ x y, lookupKey items (names i) = some x ∧ lookupKey items' (names i) = some y ∧
      Back (fields i) x y
  | .tuple _ n tupleMap, v, w => ∃ items items' : Fin n → PyValue,
    v = .tuple (List.ofFn items) ∧ w = .tuple (List.ofFn items') ∧
      ∀ i, Back (tupleMap i) (items i) (items' i)
  | .homogArray _ _ valueType, v, w => ∃ items items', v = .list items ∧ w = .list items' ∧
    List.Forall₂ (Back valueType) items items'
  | .union _ _ possibleTypes, v, w =>
    ∃ i, FirstConverts possibleTypes v i ∧ Back (possibleTypes i) v w

/-- A value of the described shape becomes a message of the described case that gives it back, and
a value of another shape raises. -/
structure RoundTrips (widen : BitVec 32 → BitVec 64) (d : VariantDescriptor) (v : PyValue) :
    Prop where
  fits : Fits d v → ∃ m, ftVariantFromValue d v = .ok m ∧ CaseOf d v m ∧
    ∃ w, valueFromFtVariant widen m = .ok w ∧ Back d v w
  misfits : ¬ Fits d v → ∃ e, ftVariantFromValue d v = .error e

/-! ### What the code takes -/

/-- The tests on simple values. -/
def AcceptsSimple : Option SimplevalueTypes → PyValue → Prop
  | some .floatType, v => ∃ val, v = .float val
  | some .intType, v => ∃ n, v.asInt = some n ∧ -2 ^ 63 ≤ n ∧ n < 2 ^ 63
  | some .unsignedType, v | some .remoteHandleType, v =>
    ∃ n, v.asInt = some n ∧ 0 ≤ n ∧ n < 2 ^ 64
  | some .boolType, v => ∃ b, v = .bool b
  | some .stringType, v => ∃ s, v = .str (.text s)
  | _, _ => False

/-- The tests of the code, kind by kind. -/
def Accepts : VariantDescriptor → PyValue → Prop
  | .simplevar _ tp _, v => AcceptsSimple tp v
  | .enumeration _ desc, v =>
    (∃ s, v = .str (.text s) ∧ (desc.enumMap.lookup s).isSome) ∨
      ∃ e ∈ desc.enumMap, v.asInt = some (e.2.toNat : ℤ)
  | .struct _ _ _ names fields, v => ∃ items, v = .dict items ∧
    (∀ item ∈ items, item.1.isStr = true) ∧
      ∀ i, ∃ x, lookupKey items (names i) = some x ∧ Accepts (fields i) x
  | .tuple _ n tupleMap, v => ∃ items : Fin n → PyValue, v.iterated = some (List.ofFn items) ∧
    ∀ i, Accepts (tupleMap i) (items i)
  | .homogArray _ _ _, _ => False
  | .union _ _ possibleTypes, v => ∃ i, Accepts (possibleTypes i) v

/-- Where a tuple is described there is a tuple, and where a struct is described there are no
further keys, in a union as in the first alternative that accepts the value. -/
def Unchanged : VariantDescriptor → PyValue → Prop
  | .simplevar _ _ _, _ | .enumeration _ _, _ | .homogArray _ _ _, _ => True
  | .struct _ _ _ names fields, v => ∃ items, v = .dict items ∧
    (∀ item ∈ items, ∃ i, item.1 = .str (.text (names i))) ∧
      ∀ i, ∃ x, lookupKey items (names i) = some x ∧ Unchanged (fields i) x
  | .tuple _ n tupleMap, v => ∃ items : Fin n → PyValue, v = .tuple (List.ofFn items) ∧
    ∀ i, Unchanged (tupleMap i) (items i)
  | .union _ _ possibleTypes, v => ∃ i, Accepts (possibleTypes i) v ∧
    (∀ j < i, ¬ Accepts (possibleTypes j) v) ∧ Unchanged (possibleTypes i) v

/-- A descriptor as it arrives: a map has every key once. -/
def Sent : VariantDescriptor → Prop
  | .simplevar _ _ _ | .enumeration _ _ => True
  | .struct _ _ _ names fields => Function.Injective names ∧ ∀ i, Sent (fields i)
  | .tuple _ _ tupleMap => ∀ i, Sent (tupleMap i)
  | .homogArray _ _ valueType => Sent valueType
  | .union _ _ possibleTypes => ∀ i, Sent (possibleTypes i)

/-! ### The tests, function by function -/

section Tests

variable {v : PyValue} {tp : Option SimplevalueTypes} {sizeof n : ℕ}

/-- A number is assigned to a signed field of 64 bits if it fits. -/
private theorem assignInt64_eq_ok_iff {n : ℤ} {x : BitVec 64} :
    assignInt64 n = .ok x ↔ (-2 ^ 63 ≤ n ∧ n < 2 ^ 63) ∧ x = BitVec.ofInt 64 n := by
  rw [assignInt64]
  split_ifs with h
  · rw [Except.ok.injEq, eq_comm, and_iff_right h]
  · exact iff_of_false (fun h' => nomatch h') fun h' => h h'.1

/-- A number is assigned to an unsigned field of 64 bits if it fits. -/
private theorem assignUint64_eq_ok_iff {n : ℤ} {x : BitVec 64} :
    assignUint64 n = .ok x ↔ (0 ≤ n ∧ n < 2 ^ 64) ∧ x = BitVec.ofNat 64 n.toNat := by
  rw [assignUint64]
  split_ifs with h
  · rw [Except.ok.injEq, eq_comm, and_iff_right h]
  · exact iff_of_false (fun h' => nomatch h') fun h' => h h'.1

/-- What is assigned to an unsigned field is the number. -/
theorem toNat_of_assignUint64 {n : ℤ} {x : BitVec 64} (h : assignUint64 n = .ok x) :
    (x.toNat : ℤ) = n := by
  obtain ⟨⟨hnn, hlt⟩, rfl⟩ := assignUint64_eq_ok_iff.mp h
  rw [BitVec.toNat_ofNat, Nat.mod_eq_of_lt (by omega)]
  exact Int.toNat_of_nonneg hnn

/-- A value is returned as it is. -/
theorem pure_eq_ok_iff {α : Type} {a b : α} :
    (pure a : Except PyException α) = .ok b ↔ b = a :=
  ⟨fun h => (Except.ok.inj h).symm, fun h => h ▸ rfl⟩

private theorem ensureType_eq_ok_iff {α : Type} {name : String} {found : Option α} {a : α} :
    ensureType name found = .ok a ↔ found = some a := by
  cases found with
  | none => exact iff_of_false (fun h => nomatch h) fun h => nomatch h
  | some a' => simp [ensureType]

/-- The text of a field is the text that was assigned. -/
theorem decodeUtf8_toByteArray (s : String) :
    decodeUtf8 s.toByteArray.data.toList = .str (.text s) := by
  have hbytes : (⟨s.toByteArray.data.toList.toArray⟩ : ByteArray) = s.toByteArray := by
    rw [Array.toArray_toList]
  rw [decodeUtf8, hbytes, String.fromUTF8?, dif_pos s.isValidUTF8]
  rfl

/-- A number that passes the tests of a signed type. -/
theorem intType_eq_ok_iff {sv : SimpleValue} :
    simpleValueFromValue v (some .intType) = .ok sv ↔
      ∃ n x, v.asInt = some n ∧ assignInt64 n = .ok x ∧ sv = .intval x := by
  rw [simpleValueFromValue, bind_eq_ok_iff]
  refine exists_congr fun n => ?_
  rw [ensureType_eq_ok_iff, bind_eq_ok_iff, ← exists_and_left]
  refine exists_congr fun x => and_congr_right fun _ => and_congr_right fun _ => ?_
  exact pure_eq_ok_iff

/-- A number that passes those of an unsigned type: the sign is tested before the range. -/
theorem unsignedType_eq_ok_iff {sv : SimpleValue} :
    simpleValueFromValue v (some .unsignedType) = .ok sv ↔
      ∃ n x, v.asInt = some n ∧ assignUint64 n = .ok x ∧ sv = .uintval x := by
  rw [simpleValueFromValue, bind_eq_ok_iff]
  refine exists_congr fun n => ?_
  rw [ensureType_eq_ok_iff, exists_and_left]
  refine and_congr_right fun _ => ?_
  split_ifs with hneg
  · refine iff_of_false (fun h => nomatch h) ?_
    rintro ⟨x, hx, -⟩
    have hnn := (assignUint64_eq_ok_iff.mp hx).1.1
    omega
  · rw [bind_eq_ok_iff]
    exact exists_congr fun x => and_congr_right fun _ => pure_eq_ok_iff

private theorem remoteHandleType_eq_ok_iff {sv : SimpleValue} :
    simpleValueFromValue v (some .remoteHandleType) = .ok sv ↔
      ∃ n x, v.asInt = some n ∧ assignUint64 n = .ok x ∧ sv = .handleval x.toNat := by
  rw [simpleValueFromValue, bind_eq_ok_iff]
  refine exists_congr fun n => ?_
  rw [ensureType_eq_ok_iff, bind_eq_ok_iff, ← exists_and_left]
  refine exists_congr fun x => and_congr_right fun _ => and_congr_right fun _ => ?_
  exact pure_eq_ok_iff

/-- A simple value that passes the tests is sent in the field of its type, and comes back. -/
theorem simpleValueFromValue_spec {sv : SimpleValue} (h : simpleValueFromValue v tp = .ok sv) :
    SimpleCase tp sv ∧ SameValue v (valueFromFtSimplevar sv) := by
  rcases tp with _ | tp
  · cases h
  cases tp with
  | floatType =>
    obtain ⟨val, hval, hsv⟩ := bind_eq_ok_iff.mp h
    obtain rfl := pure_eq_ok_iff.mp hsv
    cases v <;> cases ensureType_eq_ok_iff.mp hval
    exact ⟨trivial, .inl rfl⟩
  | intType =>
    obtain ⟨n, x, hn, hx, rfl⟩ := intType_eq_ok_iff.mp h
    obtain ⟨⟨hlo, hhi⟩, rfl⟩ := assignInt64_eq_ok_iff.mp hx
    refine ⟨trivial, .inr ⟨n, hn, ?_⟩⟩
    change some (BitVec.ofInt 64 n).toInt = some n
    rw [BitVec.toInt_ofInt_eq_self (by decide) hlo hhi]
  | unsignedType =>
    obtain ⟨n, x, hn, hx, rfl⟩ := unsignedType_eq_ok_iff.mp h
    exact ⟨trivial, .inr ⟨n, hn, congrArg some (toNat_of_assignUint64 hx)⟩⟩
  | remoteHandleType =>
    obtain ⟨n, x, hn, hx, rfl⟩ := remoteHandleType_eq_ok_iff.mp h
    exact ⟨trivial, .inr ⟨n, hn, congrArg some (toNat_of_assignUint64 hx)⟩⟩
  | boolType =>
    obtain ⟨b, hb, hsv⟩ := bind_eq_ok_iff.mp h
    obtain rfl := pure_eq_ok_iff.mp hsv
    cases v <;> cases ensureType_eq_ok_iff.mp hb
    exact ⟨trivial, .inl rfl⟩
  | stringType =>
    obtain ⟨s, hs, henc⟩ := bind_eq_ok_iff.mp h
    obtain ⟨bytes, hbytes, hsv⟩ := bind_eq_ok_iff.mp henc
    obtain rfl := pure_eq_ok_iff.mp hsv
    cases v <;> cases ensureType_eq_ok_iff.mp hs
    cases s with
    | text s =>
      obtain rfl := Except.ok.inj hbytes
      exact ⟨trivial, .inl (decodeUtf8_toByteArray s).symm⟩
    -- a `str` with surrogates does not encode
    | surrogates codes => cases hbytes
  | voidType | datetimeType => cases h

private theorem exists_field_iff {p : ℤ → Prop} {f : ℤ → BitVec 64} {g : BitVec 64 → SimpleValue} :
    (∃ sv n x, v.asInt = some n ∧ (p n ∧ x = f n) ∧ sv = g x) ↔ ∃ n, v.asInt = some n ∧ p n := by
  constructor
  · rintro ⟨-, n, -, hn, ⟨hp, -⟩, -⟩
    exact ⟨n, hn, hp⟩
  · rintro ⟨n, hn, hp⟩
    exact ⟨_, n, _, hn, ⟨hp, rfl⟩, rfl⟩

/-- The simple values that pass the tests. -/
theorem simpleValue_converts_iff :
    (∃ sv, simpleValueFromValue v tp = .ok sv) ↔ AcceptsSimple tp v := by
  rcases tp with _ | tp
  · exact iff_of_false (fun ⟨_, h⟩ => nomatch h) id
  cases tp with
  | floatType =>
    constructor
    · rintro ⟨sv, h⟩
      obtain ⟨val, hval, -⟩ := bind_eq_ok_iff.mp h
      cases v <;> cases ensureType_eq_ok_iff.mp hval
      exact ⟨_, rfl⟩
    · rintro ⟨val, rfl⟩
      exact ⟨_, rfl⟩
  | intType =>
    simp only [intType_eq_ok_iff, assignInt64_eq_ok_iff, AcceptsSimple]
    exact exists_field_iff
  | unsignedType =>
    simp only [unsignedType_eq_ok_iff, assignUint64_eq_ok_iff, AcceptsSimple]
    exact exists_field_iff
  | remoteHandleType =>
    simp only [remoteHandleType_eq_ok_iff, assignUint64_eq_ok_iff, AcceptsSimple]
    exact exists_field_iff
  | boolType =>
    constructor
    · rintro ⟨sv, h⟩
      obtain ⟨b, hb, -⟩ := bind_eq_ok_iff.mp h
      cases v <;> cases ensureType_eq_ok_iff.mp hb
      exact ⟨_, rfl⟩
    · rintro ⟨b, rfl⟩
      exact ⟨_, rfl⟩
  | stringType =>
    constructor
    · rintro ⟨sv, h⟩
      obtain ⟨s, hs, henc⟩ := bind_eq_ok_iff.mp h
      obtain ⟨bytes, hbytes, -⟩ := bind_eq_ok_iff.mp henc
      cases v <;> cases ensureType_eq_ok_iff.mp hs
      cases s with
      | text s => exact ⟨s, rfl⟩
      | surrogates codes => cases hbytes
    · rintro ⟨s, rfl⟩
      exact ⟨_, rfl⟩
  | voidType | datetimeType => exact iff_of_false (fun ⟨_, h⟩ => nomatch h) id

/-- A number is an enumerator if the enumeration has it. -/
private theorem enumFromInt_eq_ok_iff {n : ℤ} {desc : EnumDescriptor} {e : FtEnum} :
    enumFromInt n desc = .ok e ↔ ∃ entry,
      desc.enumMap.find? (fun e => (e.2.toNat : ℤ) = n) = some entry ∧ e = ⟨desc, entry.2⟩ := by
  rw [enumFromInt]
  split
  · rename_i entry hfind
    constructor
    · exact fun h => ⟨entry, hfind, (Except.ok.inj h).symm⟩
    · rintro ⟨entry', hfind', rfl⟩
      obtain rfl := Option.some.inj (hfind.symm.trans hfind')
      rfl
  · rename_i hfind
    refine iff_of_false (fun h => nomatch h) ?_
    rintro ⟨entry, hfind', -⟩
    cases hfind.symm.trans hfind'

/-- The number of an enumerator is found by its name or by itself, and comes back. -/
theorem ftEnumFromValue_spec {cppTypeName : String} {desc : EnumDescriptor} {e : FtEnum}
    (h : ftEnumFromValue v desc = .ok e) :
    Accepts (.enumeration cppTypeName desc) v ∧
      Back (.enumeration cppTypeName desc) v (.int e.enumValue.toNat) := by
  have hnumber : ∀ {n : ℤ}, v.asInt = some n → enumFromInt n desc = .ok e →
      Accepts (.enumeration cppTypeName desc) v ∧
        Back (.enumeration cppTypeName desc) v (.int e.enumValue.toNat) := by
    intro n hn hok
    obtain ⟨entry, hfind, rfl⟩ := enumFromInt_eq_ok_iff.mp hok
    have heq : (entry.2.toNat : ℤ) = n := by simpa using List.find?_some hfind
    refine ⟨.inr ⟨entry, List.mem_of_find?_eq_some hfind, by rw [hn, heq]⟩, .inl (.inr ⟨n, hn, ?_⟩)⟩
    exact congrArg some heq
  cases v with
  | bool b => exact hnumber rfl h
  | int n => exact hnumber rfl h
  | str s =>
    cases s with
    | surrogates codes => cases h
    | text s =>
      rw [ftEnumFromValue] at h
      split at h
      · rename_i number hlookup
        obtain rfl := Except.ok.inj h
        exact ⟨.inl ⟨s, rfl, by rw [hlookup]; rfl⟩, .inr ⟨s, number, rfl, hlookup, rfl⟩⟩
      · cases h
  | _ => cases h

private theorem enum_converts_iff {cppTypeName : String} {desc : EnumDescriptor} :
    (∃ e, ftEnumFromValue v desc = .ok e) ↔ Accepts (.enumeration cppTypeName desc) v := by
  refine ⟨fun ⟨e, h⟩ => (ftEnumFromValue_spec h).1, ?_⟩
  rintro (⟨s, rfl, hs⟩ | ⟨entry, hentry, hn⟩)
  · obtain ⟨number, hlookup⟩ := Option.isSome_iff_exists.mp hs
    exact ⟨⟨desc, number⟩, by rw [ftEnumFromValue, hlookup]⟩
  · have hsome : (desc.enumMap.find? fun e => (e.2.toNat : ℤ) = entry.2.toNat).isSome := by
      rw [List.find?_isSome]
      exact ⟨entry, hentry, by simp⟩
    obtain ⟨found, hfind⟩ := Option.isSome_iff_exists.mp hsome
    have hok := enumFromInt_eq_ok_iff.mpr ⟨found, hfind, rfl⟩
    cases v with
    | bool b =>
      have hb : (b.toNat : ℤ) = entry.2.toNat := Option.some.inj hn
      exact ⟨_, by rw [ftEnumFromValue, hb, hok]⟩
    | int m =>
      obtain rfl : m = entry.2.toNat := Option.some.inj hn
      exact ⟨_, hok⟩
    | _ => cases hn

/-- The items of an iterable of the length that is asked for. -/
theorem tupleItems_eq_ok_iff {items : Fin n → PyValue} :
    tupleItems v n = .ok items ↔ v.iterated = some (List.ofFn items) := by
  rw [tupleItems]
  cases hiter : v.iterated with
  | none => exact iff_of_false (fun h => nomatch h) fun h => nomatch h
  | some l =>
    simp only [Option.some.injEq]
    split_ifs with hlen
    · rw [Except.ok.injEq]
      constructor
      · rintro rfl
        refine List.ext_getElem (by simp [hlen]) fun i hi hi' => ?_
        simp
      · intro h
        funext i
        have hi := congrArg (fun l' : List PyValue => l'[i.val]?) h
        simpa [hlen] using hi
    · refine iff_of_false (fun h => nomatch h) ?_
      rintro rfl
      exact hlen List.length_ofFn

/-- A struct is made of a dictionary whose keys are texts. -/
private theorem structItems_eq_ok_iff {items : List (PyValue × PyValue)} :
    structItems v = .ok items ↔ v = .dict items ∧ ∀ item ∈ items, item.1.isStr = true := by
  cases v with
  | dict items' =>
    rw [structItems]
    split_ifs with hall
    · rw [Except.ok.injEq, PyValue.dict.injEq]
      refine ⟨?_, And.left⟩
      rintro rfl
      exact ⟨rfl, List.all_eq_true.mp hall⟩
    · refine iff_of_false (fun h => nomatch h) ?_
      rintro ⟨heq, hstr⟩
      cases heq
      exact hall (List.all_eq_true.mpr hstr)
  | _ => exact iff_of_false (fun h => nomatch h) fun h => nomatch h.1

end Tests

/-! ### What is converted -/

section Conversion

variable {v : PyValue} {n : ℕ} {m : FtVariant}

private theorem not_converts_iff {d : VariantDescriptor} :
    ¬ Converts d v ↔ ∃ e, ftVariantFromValue d v = .error e := by
  rw [Converts]
  cases ftVariantFromValue d v with
  | ok m => exact iff_of_false (fun h => h ⟨m, rfl⟩) fun ⟨_, h⟩ => nomatch h
  | error e => exact iff_of_true (fun ⟨_, h⟩ => nomatch h) ⟨e, rfl⟩

/-- Only one alternative is the first. -/
theorem FirstConverts.eq {possibleTypes : Fin n → VariantDescriptor} {i j : Fin n}
    (hi : FirstConverts possibleTypes v i) (hj : FirstConverts possibleTypes v j) : i = j := by
  rcases lt_trichotomy i j with hlt | heq | hlt
  · exact absurd hi.1 (hj.2 i hlt)
  · exact heq
  · exact absurd hj.1 (hi.2 j hlt)

/-- A union is made by the first alternative that converts. -/
theorem union_eq_ok_iff {cppTypeName : String} {possibleTypes : Fin n → VariantDescriptor} :
    ftVariantFromValue (.union cppTypeName n possibleTypes) v = .ok m ↔
      ∃ i, FirstConverts possibleTypes v i ∧ ftVariantFromValue (possibleTypes i) v = .ok m := by
  have hfirst : (firstOk fun i => ftVariantFromValue (possibleTypes i) v) = some m ↔
      ∃ i, FirstConverts possibleTypes v i ∧ ftVariantFromValue (possibleTypes i) v = .ok m := by
    rw [firstOk_eq_some_iff]
    refine exists_congr fun i => ?_
    constructor
    · rintro ⟨hi, hbefore⟩
      exact ⟨⟨⟨m, hi⟩, fun j hj => not_converts_iff.mpr (hbefore j hj)⟩, hi⟩
    · rintro ⟨⟨-, hbefore⟩, hi⟩
      exact ⟨hi, fun j hj => not_converts_iff.mp (hbefore j hj)⟩
  rw [← hfirst, ftVariantFromValue]
  cases firstOk fun i => ftVariantFromValue (possibleTypes i) v with
  | none => exact iff_of_false (fun h => nomatch h) fun h => nomatch h
  | some out => simp

/-- The message of a property, if the dictionary has it. -/
private theorem property_eq_ok_iff {d : VariantDescriptor} {found : Option PyValue}
    {e : PyException} :
    (match found with
      | some val => ftVariantFromValue d val
      | none => .error e) = .ok m ↔ ∃ x, found = some x ∧ ftVariantFromValue d x = .ok m := by
  cases found with
  | none => exact iff_of_false (fun h => nomatch h) fun ⟨_, h, _⟩ => nomatch h
  | some val => simp

/-- A struct is made of the values of its fields. -/
private theorem struct_eq_ok_iff {cppTypeName structName : String} {names : Fin n → String}
    {fields : Fin n → VariantDescriptor} :
    ftVariantFromValue (.struct cppTypeName structName n names fields) v = .ok m ↔
      ∃ (items : List (PyValue × PyValue)) (value : Fin n → FtVariant),
        (v = .dict items ∧ ∀ item ∈ items, item.1.isStr = true) ∧
        (∀ i, ∃ x, lookupKey items (names i) = some x ∧
          ftVariantFromValue (fields i) x = .ok (value i)) ∧
        m = .structval structName (List.ofFn fun i => (names i, value i)) := by
  rw [ftVariantFromValue, bind_eq_ok_iff]
  refine exists_congr fun items => ?_
  rw [structItems_eq_ok_iff, bind_eq_ok_iff, ← exists_and_left]
  refine exists_congr fun value => and_congr_right fun _ => ?_
  rw [collect_eq_ok_iff, pure_eq_ok_iff]
  exact and_congr_left fun _ => forall_congr' fun i => property_eq_ok_iff

/-- A tuple is made of as many items as it has elements. -/
private theorem tuple_eq_ok_iff {cppTypeName : String} {tupleMap : Fin n → VariantDescriptor} :
    ftVariantFromValue (.tuple cppTypeName n tupleMap) v = .ok m ↔
      ∃ (items : Fin n → PyValue) (value : Fin n → FtVariant),
        v.iterated = some (List.ofFn items) ∧
        (∀ i, ftVariantFromValue (tupleMap i) (items i) = .ok (value i)) ∧
        m = .tupleval (List.ofFn value) := by
  rw [ftVariantFromValue, bind_eq_ok_iff]
  refine exists_congr fun items => ?_
  rw [tupleItems_eq_ok_iff, bind_eq_ok_iff, ← exists_and_left]
  refine exists_congr fun value => and_congr_right fun _ => ?_
  rw [collect_eq_ok_iff, pure_eq_ok_iff]

/-- **The code takes what its tests accept.** -/
theorem converts_iff_accepts {d : VariantDescriptor} : Converts d v ↔ Accepts d v := by
  induction d generalizing v with
  | simplevar cppTypeName tp sizeof =>
    rw [Converts, ftVariantFromValue, map_returns_iff, ftSimplevariantFromValue, map_returns_iff]
    exact simpleValue_converts_iff
  | enumeration cppTypeName desc =>
    rw [Converts, ftVariantFromValue, map_returns_iff]
    exact enum_converts_iff
  | struct cppTypeName structName n names fields ih =>
    simp only [Converts, struct_eq_ok_iff]
    constructor
    · rintro ⟨_, items, value, ⟨hv, hstr⟩, hfields, -⟩
      refine ⟨items, hv, hstr, fun i => ?_⟩
      obtain ⟨x, hx, hok⟩ := hfields i
      exact ⟨x, hx, (ih i).mp ⟨_, hok⟩⟩
    · rintro ⟨items, hv, hstr, hfields⟩
      have hok : ∀ i, ∃ y x, lookupKey items (names i) = some x ∧
          ftVariantFromValue (fields i) x = .ok y := fun i => by
        obtain ⟨x, hx, hacc⟩ := hfields i
        obtain ⟨y, hy⟩ := (ih i).mpr hacc
        exact ⟨y, x, hx, hy⟩
      choose value hvalue using hok
      exact ⟨_, items, value, ⟨hv, hstr⟩, hvalue, rfl⟩
  | tuple cppTypeName n tupleMap ih =>
    simp only [Converts, tuple_eq_ok_iff]
    constructor
    · rintro ⟨_, items, value, hv, hitems, -⟩
      exact ⟨items, hv, fun i => (ih i).mp ⟨_, hitems i⟩⟩
    · rintro ⟨items, hv, hitems⟩
      choose value hvalue using fun i => (ih i).mpr (hitems i)
      exact ⟨_, items, value, hv, hvalue, rfl⟩
  | homogArray cppTypeName fixedSize valueType =>
    exact iff_of_false (fun ⟨_, h⟩ => nomatch h) id
  | union cppTypeName n possibleTypes ih =>
    simp only [Converts, union_eq_ok_iff]
    constructor
    · rintro ⟨m, i, -, hok⟩
      exact ⟨i, (ih i).mp ⟨m, hok⟩⟩
    · rintro ⟨i, hacc⟩
      by_contra hnone
      -- a union is tried in order, and throws only if all its alternatives do
      have hall : ∀ i, ∃ e, ftVariantFromValue (possibleTypes i) v = .error e := by
        rw [← firstOk_eq_none_iff]
        by_contra hsome
        obtain ⟨m, hm⟩ := Option.ne_none_iff_exists'.mp hsome
        have hok : ftVariantFromValue (.union cppTypeName n possibleTypes) v = .ok m := by
          rw [ftVariantFromValue, hm]
        exact hnone ⟨m, union_eq_ok_iff.mp hok⟩
      exact not_converts_iff.mpr (hall i) ((ih i).mpr hacc)

end Conversion

/-! ### What comes back -/

section Dictionaries

variable {n : ℕ} {items : List (PyValue × PyValue)} {name : String}

private theorem isText_iff {v : PyValue} : v.isText name = true ↔ v = .str (.text name) := by
  cases v with
  | str s =>
    cases s with
    | text s => simp [PyValue.isText]
    | surrogates codes => exact iff_of_false (fun h => nomatch h) fun h => nomatch h
  | _ => exact iff_of_false (fun h => nomatch h) fun h => nomatch h

/-- A key is found exactly if a dictionary has it. -/
private theorem lookupKey_isSome_iff :
    (lookupKey items name).isSome ↔ ∃ item ∈ items, item.1 = .str (.text name) := by
  rw [lookupKey, Option.isSome_map, List.find?_isSome]
  exact exists_congr fun item => and_congr_right fun _ => isText_iff

/-- Under each name of a struct that was read back is its own value. -/
theorem lookupKey_ofFn {names : Fin n → String} {w : Fin n → PyValue}
    (hnames : Function.Injective names) (i : Fin n) :
    lookupKey (List.ofFn fun i => (.str (.text (names i)), w i)) (names i) = some (w i) := by
  have hsome : (lookupKey (List.ofFn fun i => (.str (.text (names i)), w i)) (names i)).isSome :=
    lookupKey_isSome_iff.mpr ⟨_, List.mem_ofFn.mpr ⟨i, rfl⟩, rfl⟩
  obtain ⟨y, hy⟩ := Option.isSome_iff_exists.mp hsome
  rw [hy]
  obtain ⟨item, hfind, rfl⟩ := Option.map_eq_some_iff.mp hy
  obtain ⟨j, rfl⟩ := List.mem_ofFn.mp (List.mem_of_find?_eq_some hfind)
  have hname : (PyValue.str (.text (names j))).isText (names i) = true := by
    simpa using List.find?_some hfind
  obtain rfl : j = i := hnames (by simpa using isText_iff.mp hname)
  rfl

/-- The keys that come back are those of the dictionary exactly if all of these are described. -/
theorem sameKeys_iff {names : Fin n → String} {w : Fin n → PyValue}
    (hitems : ∀ i, (lookupKey items (names i)).isSome) :
    (TextKeys items ∧ TextKeys (List.ofFn fun i => (.str (.text (names i)), w i)) ∧
      ∀ name, (lookupKey items name).isSome ↔
        (lookupKey (List.ofFn fun i => (.str (.text (names i)), w i)) name).isSome) ↔
      ∀ item ∈ items, ∃ i, item.1 = .str (.text (names i)) := by
  constructor
  · rintro ⟨htext, -, hkeys⟩ item hitem
    obtain ⟨s, hs⟩ := htext item hitem
    obtain ⟨item', hitem', hs'⟩ := lookupKey_isSome_iff.mp
      ((hkeys s).mp (lookupKey_isSome_iff.mpr ⟨item, hitem, hs⟩))
    obtain ⟨i, rfl⟩ := List.mem_ofFn.mp hitem'
    exact ⟨i, hs.trans hs'.symm⟩
  · intro hall
    refine ⟨fun item hitem => ?_, fun item hitem => ?_, fun name => ⟨fun hsome => ?_,
      fun hsome => ?_⟩⟩
    · obtain ⟨i, hi⟩ := hall item hitem
      exact ⟨names i, hi⟩
    · obtain ⟨i, rfl⟩ := List.mem_ofFn.mp hitem
      exact ⟨names i, rfl⟩
    · obtain ⟨item, hitem, hname⟩ := lookupKey_isSome_iff.mp hsome
      obtain ⟨i, hi⟩ := hall item hitem
      exact lookupKey_isSome_iff.mpr ⟨_, List.mem_ofFn.mpr ⟨i, rfl⟩, hi.symm.trans hname⟩
    · obtain ⟨item, hitem, hname⟩ := lookupKey_isSome_iff.mp hsome
      obtain ⟨i, rfl⟩ := List.mem_ofFn.mp hitem
      obtain rfl : names i = name := by simpa using hname
      exact hitems i

private theorem valuesOf_ofFn {widen : BitVec 32 → BitVec 64} :
    ∀ {n : ℕ} {value : Fin n → FtVariant} {w : Fin n → PyValue},
      (∀ i, valueFromFtVariant widen (value i) = .ok (w i)) →
        valuesOf widen (List.ofFn value) = .ok (List.ofFn w)
  | 0, _, _, _ => by rw [List.ofFn_zero, List.ofFn_zero, valuesOf]
  | n + 1, value, w, h => by
    rw [List.ofFn_succ, List.ofFn_succ, valuesOf, h 0, valuesOf_ofFn fun i => h i.succ]
    rfl

private theorem valuesOfItems_ofFn {widen : BitVec 32 → BitVec 64} :
    ∀ {n : ℕ} {names : Fin n → String} {value : Fin n → FtVariant} {w : Fin n → PyValue},
      (∀ i, valueFromFtVariant widen (value i) = .ok (w i)) →
        valuesOfItems widen (List.ofFn fun i => (names i, value i)) =
          .ok (List.ofFn fun i => (.str (.text (names i)), w i))
  | 0, _, _, _, _ => by rw [List.ofFn_zero, List.ofFn_zero, valuesOfItems]
  | n + 1, names, value, w, h => by
    rw [List.ofFn_succ, List.ofFn_succ, valuesOfItems, h 0,
      valuesOfItems_ofFn fun i => h i.succ]
    rfl

end Dictionaries

section Reading

variable {widen : BitVec 32 → BitVec 64} {v : PyValue} {m : FtVariant}

/-- **What was converted is read back**, and equals the value exactly if no tuple was made of
something else and no key of a dictionary was left out. -/
theorem read_back {d : VariantDescriptor} (hd : Sent d) (h : ftVariantFromValue d v = .ok m) :
    CaseOf d v m ∧ ∃ w, valueFromFtVariant widen m = .ok w ∧ (Back d v w ↔ Unchanged d v) := by
  induction d generalizing v m with
  | simplevar cppTypeName tp sizeof =>
    rw [ftVariantFromValue, bind_eq_ok_iff] at h
    obtain ⟨sv, hsv, hm⟩ := h
    obtain rfl := pure_eq_ok_iff.mp hm
    obtain ⟨value, hvalue, hsv⟩ := bind_eq_ok_iff.mp hsv
    obtain rfl := pure_eq_ok_iff.mp hsv
    obtain ⟨hcase, hback⟩ := simpleValueFromValue_spec hvalue
    refine ⟨⟨_, rfl, hcase⟩, _, by rw [valueFromFtVariant], ?_⟩
    exact iff_of_true hback trivial
  | enumeration cppTypeName desc =>
    rw [ftVariantFromValue, bind_eq_ok_iff] at h
    obtain ⟨e, he, hm⟩ := h
    obtain rfl := pure_eq_ok_iff.mp hm
    refine ⟨⟨e, rfl⟩, _, by rw [valueFromFtVariant], ?_⟩
    exact iff_of_true (ftEnumFromValue_spec he).2 trivial
  | struct cppTypeName structName n names fields ih =>
    -- the dictionary that comes back has the fields of the description, in its order
    obtain ⟨items, value, ⟨rfl, hstr⟩, hfields, rfl⟩ := struct_eq_ok_iff.mp h
    obtain ⟨hnames, hsent⟩ := hd
    choose x hx hok using hfields
    choose w hw hback using fun i => (ih i (hsent i) (hok i)).2
    refine ⟨⟨_, rfl⟩, .dict (List.ofFn fun i => (.str (.text (names i)), w i)), ?_, ?_⟩
    · rw [valueFromFtVariant, valuesOfItems_ofFn hw]
      rfl
    have hsome : ∀ i, (lookupKey items (names i)).isSome := fun i => by rw [hx i]; rfl
    constructor
    · rintro ⟨items', items'', heq, heq', hkeys, hitems⟩
      cases heq
      cases heq'
      refine ⟨items, rfl, (sameKeys_iff hsome).mp hkeys, fun i => ?_⟩
      obtain ⟨y, z, hy, hz, hyz⟩ := hitems i
      obtain rfl := Option.some.inj ((hx i).symm.trans hy)
      obtain rfl := Option.some.inj ((lookupKey_ofFn hnames i).symm.trans hz)
      exact ⟨x i, hx i, (hback i).mp hyz⟩
    · rintro ⟨items', heq, hall, hitems⟩
      cases heq
      refine ⟨items, _, rfl, rfl, (sameKeys_iff hsome).mpr hall,
        fun i => ⟨x i, w i, hx i, lookupKey_ofFn hnames i, ?_⟩⟩
      obtain ⟨y, hy, hun⟩ := hitems i
      obtain rfl := Option.some.inj ((hx i).symm.trans hy)
      exact (hback i).mpr hun
  | tuple cppTypeName n tupleMap ih =>
    obtain ⟨items, value, hitems, hok, rfl⟩ := tuple_eq_ok_iff.mp h
    choose w hw hback using fun i => (ih i (hd i) (hok i)).2
    refine ⟨⟨_, rfl⟩, .tuple (List.ofFn w), ?_, ?_⟩
    · rw [valueFromFtVariant, valuesOf_ofFn hw]
      rfl
    constructor
    · rintro ⟨items', items'', rfl, heq, hall⟩
      obtain rfl : items' = items := List.ofFn_injective (Option.some.inj hitems)
      obtain rfl : w = items'' := List.ofFn_injective (by simpa using heq)
      exact ⟨items', rfl, fun i => (hback i).mp (hall i)⟩
    · rintro ⟨items', rfl, hall⟩
      obtain rfl : items' = items := List.ofFn_injective (Option.some.inj hitems)
      exact ⟨items', w, rfl, rfl, fun i => (hback i).mpr (hall i)⟩
  -- there is no conversion to an array
  | homogArray cppTypeName fixedSize valueType => cases h
  | union cppTypeName n possibleTypes ih =>
    -- both sides speak of the first alternative that converts, of which there is only one
    obtain ⟨i, hfirst, hok⟩ := union_eq_ok_iff.mp h
    obtain ⟨hcase, w, hw, hback⟩ := ih i (hd i) hok
    refine ⟨⟨i, hfirst, hcase⟩, w, hw, ?_⟩
    constructor
    · rintro ⟨j, hj, hw'⟩
      obtain rfl := hj.eq hfirst
      exact ⟨j, converts_iff_accepts.mp hj.1,
        fun k hk hacc => hj.2 k hk (converts_iff_accepts.mpr hacc), hback.mp hw'⟩
    · rintro ⟨j, hacc, hbefore, hun⟩
      have hj : FirstConverts possibleTypes v j := ⟨converts_iff_accepts.mpr hacc,
        fun k hk hconv => hbefore k hk (converts_iff_accepts.mp hconv)⟩
      obtain rfl := hj.eq hfirst
      exact ⟨j, hfirst, hback.mpr hun⟩

/-- **A value round trips** exactly if it has the described shape, is accepted and comes back
unchanged, or has another shape and is not accepted. -/
theorem roundTrips_iff_fits {d : VariantDescriptor} (hd : Sent d) :
    RoundTrips widen d v ↔
      (Fits d v ∧ Accepts d v ∧ Unchanged d v) ∨ (¬ Fits d v ∧ ¬ Accepts d v) := by
  constructor
  · intro hround
    by_cases hfits : Fits d v
    · obtain ⟨m, hm, -, w, hw, hback⟩ := hround.fits hfits
      obtain ⟨-, w', hw', hiff⟩ := read_back hd hm
      obtain rfl := Except.ok.inj (hw.symm.trans hw')
      exact .inl ⟨hfits, converts_iff_accepts.mp ⟨m, hm⟩, hiff.mp hback⟩
    · refine .inr ⟨hfits, fun hacc => ?_⟩
      exact not_converts_iff.mpr (hround.misfits hfits) (converts_iff_accepts.mpr hacc)
  · rintro (⟨hfits, hacc, hun⟩ | ⟨hfits, hacc⟩)
    · refine ⟨fun _ => ?_, fun h => absurd hfits h⟩
      obtain ⟨m, hm⟩ := converts_iff_accepts.mpr hacc
      obtain ⟨hcase, w, hw, hiff⟩ := read_back hd hm
      exact ⟨m, hm, hcase, w, hw, hiff.mpr hun⟩
    · refine ⟨fun h => absurd h hfits, fun _ => not_converts_iff.mp fun hconv => ?_⟩
      exact hacc (converts_iff_accepts.mp hconv)

end Reading

/-- An enumerator, or a pair of a number and a text. -/
private def modeOrPair : VariantDescriptor :=
  .union "ft_variant" 2 ![.enumeration "Mode" ⟨"Mode", [("slow", 0), ("fast", 4)]⟩,
    .tuple "std::pair" 2 ![.simplevar "int" (some .intType) 4,
      .simplevar "std::string" (some .stringType) 32]]

theorem roundTrips_pair : RoundTrips (fun b => b.zeroExtend 64) modeOrPair
    (.tuple [.int (-3), .str (.text "mm")]) := by
  have hnumber : (-2 : ℤ) ^ 63 ≤ -3 ∧ (-3 : ℤ) < 2 ^ 63 := by decide
  have hrange : InSigned 4 (-3) := by unfold InSigned; decide
  have hsent : Sent modeOrPair := by
    refine Fin.forall_fin_two.mpr ⟨trivial, Fin.forall_fin_two.mpr ⟨trivial, trivial⟩⟩
  have hfits : Fits modeOrPair (.tuple [.int (-3), .str (.text "mm")]) :=
    ⟨1, ![.int (-3), .str (.text "mm")], rfl, Fin.forall_fin_two.mpr ⟨hrange, trivial⟩⟩
  have hpair : Accepts (.tuple "std::pair" 2 ![.simplevar "int" (some .intType) 4,
      .simplevar "std::string" (some .stringType) 32]) (.tuple [.int (-3), .str (.text "mm")]) :=
    ⟨![.int (-3), .str (.text "mm")], rfl,
      Fin.forall_fin_two.mpr ⟨⟨-3, rfl, hnumber⟩, ⟨"mm", rfl⟩⟩⟩
  refine (roundTrips_iff_fits hsent).mpr (.inl ⟨hfits, ⟨1, hpair⟩, 1, hpair, fun j hj => ?_, ?_⟩)
  · obtain rfl : j = 0 := by omega
    rintro (⟨s, hs, -⟩ | ⟨e, -, he⟩)
    · cases hs
    · cases he
  · exact ⟨![.int (-3), .str (.text "mm")], rfl, Fin.forall_fin_two.mpr ⟨trivial, trivial⟩⟩

/-- A list of numbers is not converted for an array of numbers. -/
theorem not_roundTrips : ¬ ∀ (widen : BitVec 32 → BitVec 64) (d : VariantDescriptor) (v : PyValue),
    Sent d → RoundTrips widen d v := by
  intro hall
  have hround := hall (fun b => b.zeroExtend 64)
    (.homogArray "std::vector<int>" none (.simplevar "int" (some .intType) 4))
    (.list [.int 1, .int 2]) trivial
  have hfits : Fits (.homogArray "std::vector<int>" none (.simplevar "int" (some .intType) 4))
      (.list [.int 1, .int 2]) := by
    refine ⟨_, rfl, fun _ h => (nomatch h), fun x hx => ?_⟩
    obtain rfl | rfl : x = .int 1 ∨ x = .int 2 := by simpa using hx
    · exact ⟨by decide, by decide⟩
    · exact ⟨by decide, by decide⟩
  obtain ⟨m, hm, -⟩ := hround.fits hfits
  cases hm

end Foxtrot.Python
