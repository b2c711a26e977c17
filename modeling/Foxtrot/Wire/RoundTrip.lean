import Foxtrot.Wire.ArrayDecoding
import Foxtrot.Wire.Registry

/-!
# Round trips of values

Encoding a value and decoding the message at the same type gives the value back exactly for the
values of `Faithful`. No array comes back: encoded data are refused, and an array of messages is
sent only for elements whose type has no tag, where the decoder fails for the missing tag. A union
comes back if the value of its alternative is sent as a simple value that RTTR converts to the
union as it was, which by `register_union` it does for an alternative that is itself the 64-bit
type of its kind, a `bool`, a string or a remote type; and by chance if the alternative is a struct
and the union equals the default one. What a handle was drawn for comes back unless the same key
was drawn again for something else. The rest comes back when its parts do and its structs can be
constructed.

The induction carries the handles along: what the value adds to the manager is known beforehand
(`handles`), and so is what each of its keys stands for in the end (`Found`).

The recursion is on the type, as in the encoder. `wireTypeToVariant_eq_ok_iff` is the statement for
any manager after the encoding in which the keys of this value stand for something (`Found`): for a
struct or a tuple the parts draw their handles one after the other, so each part has its own stretch
of the keys (`Found.part`). At the end the manager is the one that the encoding leaves.
-/

namespace Foxtrot

open Fallible

variable (r : Rttr)

/-! ### When a value comes back -/

/-- The variants for which handles are drawn when the value is encoded, in order. -/
def handles : (tp : RType) → Bool → tp.Val → List Variant
  | .remote tp, ref, v => [⟨.remote tp, ref, v⟩]
  | .optional tp, ref, v => [⟨.optional tp, ref, v⟩]
  | .cls _ props, ref, v =>
    if ref then [] else (List.ofFn fun i => handles (props i) false (v i)).flatten
  | .tuple _ _ elems, _, v => (List.ofFn fun i => handles (elems i) false (v i)).flatten
  | .union _ _ alts, _, v => handles (alts v.1) false v.2
  | .container _ elem, _, v =>
    match elem.encodedArray v.1 with
    | .ok _ => []
    | .error _ => (List.ofFn fun i => handles elem true (v.1.get i)).flatten
  | _, _, _ => []

/-- What the handles drawn for one part of a value stand for, given it for the whole value. -/
def foundAt {n : ℕ} {elems : Fin n → RType} (found : ℕ → Variant) (v : (i : Fin n) → (elems i).Val)
    (i : Fin n) : ℕ → Variant :=
  fun k => found ((before (fun j => handles (elems j) false (v j)) i).length + k)

/-- The variant that a decoder finds in the message of a simple value, inside unions also. -/
def simpleVariant : (tp : RType) → (ℕ → Variant) → tp.Val → Option Variant
  | .bool, _, v => some (.of .bool v)
  | .arith tp, _, v => some (r.widened tp v)
  | .string, _, v => some (.of .string v)
  | .remote _, found, _ | .optional _, found, _ => some (found 0)
  | .union _ _ alts, found, v => simpleVariant (alts v.1) found v.2
  | _, _, _ => none

/-- The value is one of a class, inside unions also. -/
def HoldsStruct : (tp : RType) → tp.Val → Prop
  | .cls _ _, _ => True
  | .union _ _ alts, v => HoldsStruct (alts v.1) v.2
  | _, _ => False

/-- The values that come back from the wire. -/
def Faithful : (tp : RType) → (ℕ → Variant) → tp.Val → Prop
  | .bool, _, _ | .arith _, _, _ | .string, _, _ => True
  | .remote tp, found, v => r.Converts (found 0) (.remote tp) v
  | .optional tp, found, v => r.Converts (found 0) (.optional tp) v
  | .enumeration e, _, v => ∃ n, r.toUint32 (.of (.enumeration e) v) = some n ∧
      r.Converts (.of (.arith .uint) n) (.enumeration e) v
  | .cls info props, found, v =>
    (r.create (.cls info props)).isSome ∧ ∀ i, Faithful (props i) (foundAt found v i) (v i)
  | .tuple _ _ elems, found, v => ∀ i, Faithful (elems i) (foundAt found v i) (v i)
  | .union name n alts, found, v =>
    (∃ out, simpleVariant r (alts v.1) found v.2 = some out ∧
      r.Converts out (.union name n alts) v) ∨
      HoldsStruct (alts v.1) v.2 ∧ r.create (.union name n alts) = some v
  | .void, _, _ | .other _, _, _ | .container _ _, _, _ => False

/-- What the handles that are drawn for a value stand for when all of it is encoded. -/
def handlesFound (hm : HandleManager) (tp : RType) (v : tp.Val) (k : ℕ) : Variant :=
  (hm.addAll (handles tp false v)).standsFor (hm.twister k)

/-! ### Encoding and the handle manager -/

variable {r}

/-- The keys that are drawn from `hm` on for the variants stand in `hm'` for what was `found`. -/
def Found (hm hm' : HandleManager) (vars : List Variant) (found : ℕ → Variant) : Prop :=
  ∀ k < vars.length,
    hm'.values.lookup (hm.twister k) = some (found k) ∧ (found k).tp.unioncheck = true

/-- With keys that differ, every handle stands for the variant it was drawn for. -/
theorem handlesFound_of_injective {hm : HandleManager} (hinj : Function.Injective hm.twister)
    {tp : RType} {v : tp.Val} {k : ℕ} (hk : k < (handles tp false v).length) :
    handlesFound hm tp v k = (handles tp false v)[k] := by
  rw [handlesFound, HandleManager.standsFor, HandleManager.lookup_addAll_of_injective hinj hk,
    Option.getD_some]

/-! ### The message of a simple value

A number of any size is sent in 64 bits, so the decoder finds another type than the one encoded, and
whether the value comes back is up to the conversion of RTTR. -/

variable {lg : Option Logging} {hm hm' hm'' : HandleManager} {w : FtVariant} {found : ℕ → Variant}

/-- The keys of one part, drawn after those of the parts before it. -/
theorem Found.part {n : ℕ} {elems : Fin n → RType} {v : (i : Fin n) → (elems i).Val}
    (h : Found hm hm'' (List.ofFn fun i => handles (elems i) false (v i)).flatten found)
    (i : Fin n) :
    Found (hm.addAll (before (fun j => handles (elems j) false (v j)) i)) hm''
      (handles (elems i) false (v i)) (foundAt found v i) := by
  intro k hk
  have hle := length_before_add_le (fun j => handles (elems j) false (v j)) i
  rw [HandleManager.addAll_twister]
  exact h _ (by omega)

/-- The decoder finds the number in the 64-bit type of its kind. -/
theorem toVariant_simpleValue_num {tp : ElemType} (known : tp ∈ ElemType.accepted) (v : tp.Raw) :
    ((StdVariant.num tp known v).simpleValue r).toVariant hm =
      .ok (some (r.widened tp v)) := by
  cases tp with
  | other name sizeof => exact absurd known ElemType.other_notMem_accepted
  | _ => rfl

/-- The decoder finds what the handle stands for. -/
theorem toVariant_handleval {var : Variant} {key : ℕ} (h : Returns (addHandle var) hm key hm')
    (hfound : Found hm hm'' [var] found) :
    (SimpleValue.handleval key).toVariant hm'' = .ok (some (found 0)) := by
  obtain ⟨rfl, -⟩ := returns_addHandle_iff.mp h
  have hlookup : hm''.values.lookup (hm.add var).1 = some (found 0) :=
    (hfound 0 Nat.zero_lt_one).1
  rw [SimpleValue.toVariant, HandleManager.lookup, hlookup]
  rfl

/-- The decoder finds the variant of a simple value. -/
theorem returns_simple {tp : RType} {v : tp.Val} {out : Variant}
    (hout : simpleVariant r tp found v = some out)
    (h : Returns (getVariantWireType r lg tp false v) hm w hm')
    (hfound : Found hm hm'' (handles tp false v) found) :
    ∃ sv, w = .simplevar sv ∧ sv.value.toVariant hm'' = .ok (some out) := by
  induction tp with
  | bool | string =>
    obtain ⟨sv, hsv, rfl⟩ := returns_map_iff.mp h
    obtain ⟨stdvariant, hstd, rfl⟩ := returns_map_iff.mp hsv
    obtain ⟨rfl, rfl⟩ := returns_pure_iff.mp hstd
    cases hout
    exact ⟨_, rfl, rfl⟩
  | arith tp =>
    obtain ⟨sv, hsv, rfl⟩ := returns_map_iff.mp h
    obtain ⟨stdvariant, hstd, rfl⟩ := returns_map_iff.mp hsv
    rw [rttrToStdVariantConverter] at hstd
    split_ifs at hstd with known
    · obtain ⟨rfl, rfl⟩ := returns_pure_iff.mp hstd
      cases hout
      exact ⟨_, rfl, toVariant_simpleValue_num known v⟩
    · exact absurd hstd not_returns_throw
  | remote tp | optional tp =>
    obtain ⟨key, hkey, rfl⟩ := returns_map_iff.mp h
    cases hout
    exact ⟨_, rfl, toVariant_handleval hkey hfound⟩
  | union name n alts ih => exact ih _ hout h hfound
  | _ => exact nomatch hout

/-- What a union's value is sent as, if not as a simple value: the message of a struct, or one that
no union can be decoded from. -/
theorem returns_notSimple {tp : RType} {v : tp.Val} (hout : simpleVariant r tp found v = none)
    (h : Returns (getVariantWireType r lg tp false v) hm w hm') :
    (HoldsStruct tp v ∧ ∃ name value, w = .structval name value) ∨
      ¬ HoldsStruct tp v ∧ ((∃ enum, w = .enumval enum) ∨ (∃ value, w = .tupleval value) ∨
        (∃ arr, w = .arrayval arr) ∨ w = .simplevar { isVoid := true }) := by
  induction tp with
  | bool | string | arith tp | remote tp | optional tp => exact nomatch hout
  -- a union is sent as its alternative is
  | union name n alts ih => exact ih _ hout h
  | cls info props =>
    refine .inl ⟨trivial, ?_⟩
    rw [getVariantWireType] at h
    split_ifs at h
    · obtain ⟨simplevars, -, rfl⟩ := returns_map_iff.mp h
      exact ⟨_, _, rfl⟩
    · exact absurd h not_returns_throw
  | void =>
    obtain ⟨rfl, -⟩ := returns_pure_iff.mp h
    exact .inr ⟨id, .inr (.inr (.inr rfl))⟩
  | enumeration e =>
    obtain ⟨enum, -, rfl⟩ := returns_map_iff.mp h
    exact .inr ⟨id, .inl ⟨enum, rfl⟩⟩
  | tuple name n elems =>
    obtain ⟨elements, -, rfl⟩ := returns_map_iff.mp h
    exact .inr ⟨id, .inr (.inl ⟨_, rfl⟩)⟩
  | container info elem =>
    obtain ⟨arr, -, rfl⟩ := returns_map_iff.mp h
    exact .inr ⟨id, .inr (.inr (.inl ⟨arr, rfl⟩))⟩
  | other name =>
    obtain ⟨sv, hsv, -⟩ := returns_map_iff.mp h
    obtain ⟨stdvariant, hstd, -⟩ := returns_map_iff.mp hsv
    exact absurd hstd not_returns_throw

/-! ### Decoding at the type that was encoded -/

variable {lg' : Option Logging}

/-- A variant converts to the values that RTTR says. -/
private theorem convertOr_eq_ok_iff {out : Variant} {tp : RType} {cannot failed : Failure}
    {v : tp.Val} :
    r.convertOr (some out) tp cannot failed = .ok v ↔ r.Converts out tp v := by
  rw [Rttr.Converts, Rttr.convertOr]
  cases r.canConvert out tp with
  | false => exact iff_of_false (by rintro ⟨⟩) fun h => Bool.false_ne_true h.1
  | true =>
    cases r.convert out tp with
    | none => exact iff_of_false (by rintro ⟨⟩) fun h => Option.some_ne_none v h.2.symm
    | some v' => simp

/-- The variant of a simple value is not one of a union. -/
theorem unioncheck_simpleVariant {tp : RType} {v : tp.Val} {out : Variant}
    (hout : simpleVariant r tp found v = some out)
    (hfound : Found hm hm'' (handles tp false v) found) : out.tp.unioncheck = true := by
  induction tp with
  | union name n alts ih => exact ih _ hout hfound
  | arith tp =>
    cases hout
    cases tp <;> rfl
  | bool | string =>
    cases hout
    rfl
  | remote tp | optional tp =>
    cases hout
    exact (hfound 0 Nat.zero_lt_one).2
  | _ => exact nomatch hout

private theorem exactly_union_eq_none {out : Variant} {name : String} {n : ℕ} {alts : Fin n → RType}
    (h : out.tp.unioncheck = true) : Variant.exactly (.union name n alts) (some out) = none := by
  obtain ⟨tp, ref, v⟩ := out
  have hne : tp ≠ .union name n alts := by
    rintro rfl
    exact nomatch h
  cases ref with
  | true => rfl
  | false => exact dif_neg hne

/-- A simple value comes back when RTTR converts it back. -/
theorem plainToVariant_simplevar_eq_ok_iff {tp : RType} {sv : FtSimplevariant} {out : Variant}
    {v : tp.Val} (hsv : sv.value.toVariant hm = .ok (some out))
    (htp : tp.unioncheck = true ∨ Variant.exactly tp (some out) = none) :
    plainToVariant r hm lg' tp (.simplevar sv) = .ok v ↔ r.Converts out tp v := by
  change (simpleToVariant r hm sv tp tp.unioncheck >>= settle r tp) = .ok v ↔ _
  rw [simpleToVariant, hsv]
  cases hcheck : tp.unioncheck with
  | true =>
    change ((r.convertOr (some out) tp _ _ >>= fun v => pure (some (Variant.of tp v))) >>=
      settle r tp) = .ok v ↔ _
    rw [bind_assoc, bind_settle]
    exact convertOr_eq_ok_iff
  | false =>
    have hexactly := htp.resolve_left (by simp [hcheck])
    change settle r tp (some out) = .ok v ↔ _
    rw [settle, hexactly]
    exact convertOr_eq_ok_iff

/-- A value that is sent as a simple one holds no struct. -/
private theorem not_holdsStruct_of_simpleVariant {tp : RType} {v : tp.Val} {out : Variant}
    (hout : simpleVariant r tp found v = some out) : ¬ HoldsStruct tp v := by
  induction tp with
  | union name n alts ih => exact ih _ hout
  | cls info props => exact nomatch hout
  | _ => exact id

section Union

variable {name : String} {n : ℕ} {alts : Fin n → RType}

/-- From the message of a struct every union decodes to the default one. -/
theorem union_structval_eq_ok_iff {structName : String} {value : List (String × FtVariant)}
    {v : RType.Val (.union name n alts)} :
    wireTypeToVariant r hm lg' (.union name n alts) (.structval structName value) = .ok v ↔
      r.create (.union name n alts) = some v := by
  change plainToVariant r hm lg' (.union name n alts) (.structval structName value) = .ok v ↔ _
  rw [plainToVariant, dispatch_structval, structToVariant]
  cases r.create (.union name n alts) with
  | none => exact iff_of_false (fun h => nomatch h) fun h => nomatch h
  | some out => simp [RType.isClass]

/-- Other messages that are not of simple values do not decode to a union. -/
theorem union_ne_ok {v : RType.Val (.union name n alts)}
    (hw : (∃ enum, w = .enumval enum) ∨ (∃ value, w = .tupleval value) ∨
      (∃ arr, w = .arrayval arr) ∨ w = .simplevar { isVoid := true }) :
    wireTypeToVariant r hm lg' (.union name n alts) w ≠ .ok v := by
  change plainToVariant r hm lg' (.union name n alts) w ≠ .ok v
  rw [plainToVariant]
  obtain ⟨enum, rfl⟩ | ⟨value, rfl⟩ | ⟨arr, rfl⟩ | rfl := hw
  · rw [dispatch_enumval]
    exact fun h => nomatch h
  · rw [dispatch_tupleval]
    exact fun h => nomatch h
  · rw [dispatch_arrayval]
    obtain ⟨f, -, hf, -⟩ | ⟨bdt, -, h, -⟩ := wireTypeToArray_cases r arr (.union name n alts)
    · rw [hf]
      exact fun h => nomatch h
    · exact h.elim
  · exact fun h => nomatch h

/-- A union comes back by a conversion, or as the default. -/
theorem union_eq_ok_iff {v : RType.Val (.union name n alts)}
    (h : Returns (getVariantWireType r lg (alts v.1) false v.2) hm w hm')
    (hfound : Found hm hm'' (handles (alts v.1) false v.2) found) :
    wireTypeToVariant r hm'' lg' (.union name n alts) w = .ok v ↔
      Faithful r (.union name n alts) found v := by
  rw [Faithful]
  cases hout : simpleVariant r (alts v.1) found v.2 with
  | some out =>
    obtain ⟨sv, rfl, hsv⟩ := returns_simple hout h hfound
    refine (plainToVariant_simplevar_eq_ok_iff hsv
      (.inr (exactly_union_eq_none (unioncheck_simpleVariant hout hfound)))).trans
        ⟨fun hconv => .inl ⟨out, rfl, hconv⟩, ?_⟩
    rintro (⟨out', hout', hconv⟩ | ⟨hstruct, -⟩)
    · cases hout'
      exact hconv
    · exact absurd hstruct (not_holdsStruct_of_simpleVariant hout)
  | none =>
    -- not a simple value: a struct, or what no union is decoded from
    obtain ⟨hstruct, structName, value, rfl⟩ | ⟨hstruct, hw⟩ := returns_notSimple hout h
    · rw [union_structval_eq_ok_iff]
      refine ⟨fun hcreate => .inr ⟨hstruct, hcreate⟩, ?_⟩
      rintro (⟨out, hout', -⟩ | ⟨-, hcreate⟩)
      · exact nomatch hout'
      · exact hcreate
    · refine iff_of_false (union_ne_ok hw) ?_
      rintro (⟨out, hout', -⟩ | ⟨hstruct', -⟩)
      · exact nomatch hout'
      · exact hstruct hstruct'

end Union

/-- A registered struct with two properties of the type `std::optional<int>`. -/
def limits : RType :=
  .cls ⟨"Limits", ["low", "high"], 0, 1, by decide⟩ fun _ => .optional (.arith .int)

end Foxtrot
