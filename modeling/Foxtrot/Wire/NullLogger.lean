import Foxtrot.Wire.ArrayDecoding
import Foxtrot.Wire.Description
import Foxtrot.Wire.Registry

/-!
# Conversions without a logger

The logger of a conversion may be a null pointer. Encoding does not depend on it
(`getVariantWireType_logger`). A description uses the pointer, untested, at the first container
that RTTR can construct (`describeType_eq_nullPointer_iff`), and behaves as with a logger otherwise.
An array without encoded data whose target has elements with another tag than the default one is
refused with a logger and decodes to an empty container without (`wireTypeToArray_eq_iff`); the
same holds inside structs and tuples, if everything before that array decodes
(`wireTypeToVariant_eq_iff`).

Three kinds of results are told apart: a value, an error that has to do with the logger (the error
of an array's tag, which only a given logger lets out, and the use of a null pointer), and any other
error. Encoding and decoding are compared with and without a logger by showing that without one no
error of the second kind is raised (`…_ne`), and that the results are the same unless it is raised
with one (`…_eq_or`).

What decodes (`Decodes`) and what meets a wrong tag (`MeetsMismatch`) are predicates on the message
and the target by recursion on the target, in the order in which the code looks at the parts: a
struct or a tuple meets a wrong tag in its first part that does not decode.
-/

namespace Foxtrot

open Fallible

variable (r : Rttr)

/-! ### Encoding -/

private theorem getVariantWireType_logger (lg : Option Logging) (tp : RType) (ref : Bool)
    (v : tp.Val) :
    getVariantWireType r lg tp ref v = getVariantWireType r none tp ref v := by
  induction tp generalizing ref with
  | tuple name n elems ih =>
    simp only [getVariantWireType, ih]
  | union name n alts ih =>
    simp only [getVariantWireType, ih]
  | cls info props ih =>
    simp only [getVariantWireType, ih]
  | container info elem ih =>
    simp only [getVariantWireType, ih]
  | _ => rfl

private theorem not_raises_addHandle {var : Variant} {f : Failure} :
    ¬ Raises (addHandle var) f := by
  rintro ⟨hm, hm', h⟩
  cases (h : (Except.ok (hm.add var).1, (hm.add var).2) = (Except.error f, hm'))

private theorem not_raises_simple (ref : Bool) (tp : RType) (v : tp.Val) :
    ¬ Raises (rttrToStdVariantConverter ref tp v) .nullPointer := by
  have hunmatched : ¬ Raises (unmatchedStdVariant ref) .nullPointer := by
    cases ref with
    | true => exact not_raises_pure
    | false => exact not_raises_throw nofun
  cases tp with
  | arith tp =>
    rw [rttrToStdVariantConverter]
    split_ifs
    · exact not_raises_pure
    · exact hunmatched
  | bool | string => exact not_raises_pure
  | _ => exact hunmatched

/-- An enumerator does not use the logger that is not there. -/
private theorem not_raises_enum (lg : Option Logging) (ref : Bool) (e : Enumeration) (v : ℤ) :
    ¬ Raises (getEnumWireType r lg ref e v) .nullPointer := by
  rw [getEnumWireType]
  split
  · exact not_raises_pure
  · exact not_raises_throw nofun

/-- An array does not use the logger, if its elements do not. -/
private theorem not_raises_array {elem : RType} {vals : List elem.Val}
    {value : elem.Val → Conv FtVariant}
    (hvalue : ∀ v, ¬ Raises (value v) .nullPointer) :
    ¬ Raises (elem.getArrayWireType vals value) .nullPointer := by
  rw [RType.getArrayWireType]
  split_ifs
  · exact not_raises_throw nofun
  · split
    · exact not_raises_pure
    · exact not_raises_map (not_raises_collect fun i => hvalue _) _

/-- Encoding never uses a null pointer. -/
theorem not_raises_nullPointer (lg : Option Logging) (tp : RType) (ref : Bool) (v : tp.Val) :
    ¬ Raises (getVariantWireType r lg tp ref v) .nullPointer := by
  induction tp generalizing ref with
  | tuple name n elems ih =>
    exact not_raises_map (not_raises_collect fun i => ih i false (v i)) _
  | union name n alts ih =>
    rw [getVariantWireType]
    split_ifs
    · exact not_raises_throw nofun
    · exact ih v.1 false v.2
  | cls info props ih =>
    rw [getVariantWireType, getStructWireType]
    split_ifs
    · exact not_raises_pure
    · exact not_raises_map (not_raises_collect fun i => ih i false (v i)) _
    · exact not_raises_throw nofun
  | container info elem ih => exact not_raises_map (not_raises_array (ih true)) _
  | enumeration e => exact not_raises_map (not_raises_enum r lg ref e v) _
  | remote tp | optional tp => exact not_raises_map not_raises_addHandle _
  | void => exact not_raises_pure
  | bool | arith tp | string | other name =>
    exact not_raises_map (not_raises_map (not_raises_simple ref _ v) _) _

/-! ### Describing -/

/-- Without a logger the type is described: every number type is known, and no container can be
constructed. -/
def Describable : RType → Prop
  | .tuple _ _ elems | .union _ _ elems => ∀ i, Describable (elems i)
  | .cls info props => info.isPODStruct → ∀ i, Describable (props i)
  | .container info elem =>
    r.create (.container info elem) = none ∧ (info.isTemplateInstantiation → Describable elem)
  | .arith tp =>
    tp ∈ [ElemType.float, .double] ∨ tp ∈ ElemType.describedInt ∨ tp ∈ ElemType.describedUnsigned
  | _ => True

/-- The description comes to a container that can be constructed: what comes before it is
described. -/
def MeetsContainer : RType → Prop
  | .tuple _ _ elems | .union _ _ elems =>
    ∃ i, MeetsContainer (elems i) ∧ ∀ j < i, Describable r (elems j)
  | .cls info props =>
    info.isPODStruct ∧ ∃ i, MeetsContainer (props i) ∧ ∀ j < i, Describable r (props j)
  | .container info elem =>
    r.create (.container info elem) ≠ none ∨ info.isTemplateInstantiation ∧ MeetsContainer elem
  | _ => False

/-- The kind of a simple type does not use the logger. -/
private theorem describeSimpleType_ne_nullPointer (tp : RType) :
    describeSimpleType tp ≠ .error .nullPointer := by
  cases tp <;> simp only [describeSimpleType, ne_eq, reduceCtorEq, not_false_eq_true]
  split_ifs <;> simp

/-- The description of a simple type does not use the logger. -/
private theorem describeSimple_ne_nullPointer (tp : RType) :
    describeSimple tp ≠ .error .nullPointer :=
  fun h => describeSimpleType_ne_nullPointer tp (map_eq_error_iff.mp h)

/-- A type of numbers is described exactly if it has a kind. -/
private theorem describeSimple_arith_returns_iff {tp : ElemType} :
    (∃ d, describeSimple (.arith tp) = .ok d) ↔ Describable r (.arith tp) := by
  rw [describeSimple, map_returns_iff, describeSimpleType, Describable]
  split_ifs <;> simp_all

/-- Without a logger, exactly the describable types are described. -/
theorem describeType_returns_iff (tp : RType) :
    (∃ d, describeType r tp none = .ok d) ↔ Describable r tp := by
  induction tp with
  | tuple name n elems ih | union name n elems ih =>
    rw [describeType, map_returns_iff, collect_returns_iff, Describable]
    exact forall_congr' ih
  | cls info props ih =>
    rw [describeType, Describable]
    split_ifs with hpod
    · rw [map_returns_iff, collect_returns_iff]
      exact ⟨fun h _ i => (ih i).mp (h i), fun h i => (ih i).mpr (h hpod i)⟩
    · exact ⟨fun _ h => absurd h hpod, fun _ => ⟨_, rfl⟩⟩
  | container info elem ih =>
    rw [describeType, describeArray, Describable]
    cases hc : r.create (.container info elem) with
    | some out => exact ⟨fun ⟨_, h⟩ => (nomatch h), fun ⟨h, _⟩ => (nomatch h)⟩
    | none =>
      simp only [true_and]
      split_ifs with htemplate
      · rw [map_returns_iff]
        exact ⟨fun h _ => ih.mp h, fun h => ih.mpr (h htemplate)⟩
      · exact ⟨fun _ h => absurd h htemplate, fun _ => ⟨_, rfl⟩⟩
  | arith tp => exact describeSimple_arith_returns_iff r
  | _ => exact ⟨fun _ => trivial, fun _ => ⟨_, rfl⟩⟩

/-- Without a logger, a description uses the null pointer when it comes to a container that can be
constructed. -/
theorem describeType_eq_nullPointer_iff (tp : RType) :
    describeType r tp none = .error .nullPointer ↔ MeetsContainer r tp := by
  induction tp with
  | tuple name n elems ih | union name n elems ih =>
    rw [describeType, map_eq_error_iff, collect_eq_error_iff, MeetsContainer]
    simp only [ih, describeType_returns_iff]
  | cls info props ih =>
    rw [describeType, MeetsContainer]
    split_ifs with hpod
    · rw [map_eq_error_iff, collect_eq_error_iff]
      simp only [ih, describeType_returns_iff, hpod, true_and]
    · exact iff_of_false (describeSimple_ne_nullPointer _) fun h => hpod h.1
  | container info elem ih =>
    rw [describeType, describeArray, MeetsContainer]
    cases hc : r.create (.container info elem) with
    | some out => exact iff_of_true rfl (.inl (Option.some_ne_none out))
    | none =>
      simp only [ne_eq, not_true_eq_false, false_or]
      split_ifs with htemplate
      · rw [map_eq_error_iff]
        exact ih.trans (iff_and_self.mpr fun _ => htemplate)
      · exact iff_of_false (fun h => nomatch h) fun h => htemplate h.1
  | enumeration e => exact iff_of_false (fun h => nomatch h) id
  | _ => exact iff_of_false (describeSimple_ne_nullPointer _) id

/-- Unless it uses the null pointer, a description is that with a logger. -/
theorem describeType_eq_or (tp : RType) (lg : Logging) :
    describeType r tp (some lg) = describeType r tp none ∨
      describeType r tp none = .error .nullPointer := by
  induction tp with
  | tuple name n elems ih | union name n elems ih =>
    simp only [describeType]
    by_cases hnull : (collect fun i => describeType r (elems i) none) = .error .nullPointer
    · exact .inr (map_eq_error_iff.mpr hnull)
    · rw [collect_eq_of_ne ih hnull]
      exact .inl rfl
  | cls info props ih => exact .inl rfl
  | container info elem ih =>
    simp only [describeType, describeArray]
    cases hc : r.create (.container info elem) with
    | some out => exact .inr rfl
    | none =>
      by_cases htemplate : info.isTemplateInstantiation
      · simp only [htemplate, if_true, map_eq_error_iff]
        exact ih.imp (fun h => by rw [h]) id
      · simp only [htemplate]
        exact .inl rfl
  | _ => exact .inl rfl

/-! ### Decoding messages -/

variable (hm : HandleManager)

/-- RTTR converts the variant to the type. -/
def Rttr.Convertible (out : Option Variant) (tp : RType) : Prop :=
  ∃ var, out = some var ∧ r.canConvert var tp = true ∧ ∃ v, r.convert var tp = some v

/-- The message decodes with a logger, given when properties are set and when a tuple is made. -/
def DispatchDecodes (tp : RType) (setsProperties : List (String × FtVariant) → Prop)
    (createsTuple : List FtVariant → Prop) : FtVariant → Prop
  | .simplevar v => ∃ out, v.value.toVariant hm = .ok out ∧
      (r.Convertible out tp ∨ tp.unioncheck = false ∧ (Variant.exactly tp out).isSome)
  | .enumval v => (∃ e, tp = .enumeration e) ∧
      r.Convertible (some (.of (.arith .uint) v.enumValue)) tp
  | .arrayval arr => EmptiedWithTag r arr .ucharType tp
  | .structval _ value => tp.isClass ∧ (r.create tp).isSome ∧ setsProperties value
  | .tupleval value => createsTuple value
  | .notSet => False

/-- The message decodes with a logger. -/
def Decodes : RType → FtVariant → Prop
  | .cls info props => DispatchDecodes r hm (.cls info props)
      (fun value => ∀ i, ∃ invar, mapAt value (info.properties.get i) = .ok invar ∧
        Decodes (props i) invar)
      fun _ => False
  | .tuple name n elems => DispatchDecodes r hm (.tuple name n elems)
      (fun value => ∃ invar, mapAt value "size" = .ok invar ∧
        DispatchDecodes r hm (.arith .ulong) (fun _ => True) (fun _ => False) invar)
      fun value => ∃ h : value.length = n, ∀ i, Decodes (elems i) (value.get (i.cast h.symm))
  | tp => DispatchDecodes r hm tp (fun _ => True) fun _ => False

/-- Decoding comes to an array with another tag than the default one, given when setting the
properties and making a tuple come to one. -/
def DispatchMeets (tp : RType) (setsProperties : List (String × FtVariant) → Prop)
    (createsTuple : List FtVariant → Prop) : FtVariant → Prop
  | .arrayval arr => TagMismatch r arr tp
  | .structval _ value => tp.isClass ∧ (r.create tp).isSome ∧ setsProperties value
  | .tupleval value => createsTuple value
  | _ => False

/-- Decoding comes to an array with another tag than the default one: everything before it
decodes. -/
def MeetsMismatch : RType → FtVariant → Prop
  | .cls info props => DispatchMeets r (.cls info props)
      (fun value => ∃ i, (∃ invar, mapAt value (info.properties.get i) = .ok invar ∧
          MeetsMismatch (props i) invar) ∧
        ∀ j < i, ∃ invar, mapAt value (info.properties.get j) = .ok invar ∧
          Decodes r hm (props j) invar)
      fun _ => False
  | .tuple name n elems => DispatchMeets r (.tuple name n elems) (fun _ => False)
      fun value => ∃ h : value.length = n, ∃ i,
        MeetsMismatch (elems i) (value.get (i.cast h.symm)) ∧
          ∀ j < i, Decodes r hm (elems j) (value.get (j.cast h.symm))
  | tp => DispatchMeets r tp (fun _ => False) fun _ => False

variable {r hm}

section Parts

variable {tp : RType} {out : Option Variant} {cannot failed : Failure}

/-- A conversion succeeds exactly if the variant is convertible. -/
private theorem convertOr_returns_iff (out : Option Variant) (tp : RType)
    (cannot failed : Failure) :
    (∃ v, r.convertOr out tp cannot failed = .ok v) ↔ r.Convertible out tp := by
  rw [Rttr.Convertible]
  cases out with
  | none => exact ⟨fun ⟨_, h⟩ => (nomatch h), fun ⟨_, h, _⟩ => (nomatch h)⟩
  | some var =>
    simp only [Rttr.convertOr, Option.some.injEq, exists_eq_left']
    cases hcan : r.canConvert var tp with
    | false => exact ⟨fun ⟨_, h⟩ => (nomatch h), fun ⟨h, _⟩ => (nomatch h)⟩
    | true =>
      cases hv : r.convert var tp with
      | none => exact ⟨fun ⟨_, h⟩ => (nomatch h), fun ⟨_, _, h⟩ => (nomatch h)⟩
      | some v => exact ⟨fun _ => ⟨rfl, v, rfl⟩, fun _ => ⟨v, rfl⟩⟩

private theorem convertOr_runtimeError_ne {f : Failure} (hf : f.OfLogger) (what what' : String) :
    r.convertOr out tp (.runtimeError what) (.runtimeError what') ≠ .error f := by
  intro h
  have hruntime : ∃ what, f = .runtimeError what := by
    unfold Rttr.convertOr at h
    split at h
    · exact ⟨_, (Except.error.inj h).symm⟩
    · split_ifs at h
      · split at h
        · exact nomatch h
        · exact ⟨_, (Except.error.inj h).symm⟩
      · exact ⟨_, (Except.error.inj h).symm⟩
  obtain ⟨what, rfl⟩ := hruntime
  exact absurd hf (by simp [Failure.OfLogger])

private theorem toVariant_ne {f : Failure} (hf : f.OfLogger) (v : SimpleValue) :
    v.toVariant hm ≠ .error f := by
  cases v with
  | handleval key =>
    rw [SimpleValue.toVariant, HandleManager.lookup]
    cases hm.values.lookup key with
    | some var => exact fun h => nomatch h
    | none => rcases hf with rfl | rfl <;> exact fun h => nomatch h
  | _ => exact fun h => nomatch h

/-- A decoded variant is taken as it is, or converted. -/
private theorem settle_returns_iff :
    (∃ v, settle r tp out = .ok v) ↔
      r.Convertible out tp ∨ (Variant.exactly tp out).isSome := by
  rw [settle]
  cases hv : Variant.exactly tp out with
  | none =>
    simp only [Option.isSome_none, Bool.false_eq_true, or_false]
    exact convertOr_returns_iff _ _ _ _
  | some v => exact iff_of_true ⟨v, rfl⟩ (.inr rfl)

/-- To take or convert a variant raises no error of a logger. -/
private theorem settle_ne {f : Failure} (hf : f.OfLogger) : settle r tp out ≠ .error f := by
  rw [settle]
  split
  · rintro ⟨⟩
  · exact convertOr_runtimeError_ne hf _ _

/-- A simple value decodes when it converts to the target, or to a union also when it is one. -/
theorem simple_returns_iff (v : FtSimplevariant) :
    (∃ b, (simpleToVariant r hm v tp tp.unioncheck >>= settle r tp) = .ok b) ↔
      ∃ out, v.value.toVariant hm = .ok out ∧
        (r.Convertible out tp ∨ tp.unioncheck = false ∧ (Variant.exactly tp out).isSome) := by
  rw [simpleToVariant]
  cases hout : v.value.toVariant hm with
  | error f => exact ⟨fun ⟨_, h⟩ => (nomatch h), fun ⟨_, h, _⟩ => (nomatch h)⟩
  | ok out =>
    simp only [Except.ok.injEq, exists_eq_left']
    cases hcheck : tp.unioncheck with
    | false =>
      simp only [true_and]
      exact settle_returns_iff
    | true =>
      simp only [Bool.true_eq_false, false_and, or_false]
      change (∃ b, ((r.convertOr out tp _ _ >>= fun v => pure (some (Variant.of tp v))) >>=
        settle r tp) = .ok b) ↔ _
      rw [bind_assoc, bind_settle]
      exact convertOr_returns_iff _ _ _ _

/-- A simple message raises no error of a logger. -/
private theorem simple_ne {f : Failure} (hf : f.OfLogger) (v : FtSimplevariant) :
    (simpleToVariant r hm v tp tp.unioncheck >>= settle r tp) ≠ .error f := by
  intro h
  obtain h | ⟨out, -, h⟩ := bind_eq_error_iff.mp h
  · obtain h | ⟨out, -, h⟩ := bind_eq_error_iff.mp h
    · exact toVariant_ne hf _ h
    · split_ifs at h
      · obtain h | ⟨_, -, h⟩ := bind_eq_error_iff.mp h
        · exact convertOr_runtimeError_ne hf _ _ h
        · exact nomatch h
      · exact nomatch h
  · exact settle_ne hf h

/-- An enumerator is decoded exactly if its number converts to the enumeration. -/
private theorem enumToVariant_returns_iff (v : FtEnum) :
    (∃ b, enumToVariant r v tp = .ok b) ↔
      (∃ e, tp = .enumeration e) ∧
        r.Convertible (some (.of (.arith .uint) v.enumValue)) tp := by
  cases tp with
  | enumeration e =>
    have htp : ∃ e', RType.enumeration e = .enumeration e' := ⟨e, rfl⟩
    refine Iff.trans ?_ (and_iff_right htp).symm
    unfold enumToVariant
    exact convertOr_returns_iff _ _ _ _
  | _ => exact ⟨fun ⟨_, h⟩ => (nomatch h), fun ⟨⟨_, h⟩, _⟩ => (nomatch h)⟩

private theorem enumToVariant_ne {f : Failure} (hf : f.OfLogger) (v : FtEnum) :
    enumToVariant r v tp ≠ .error f := by
  cases tp with
  | enumeration e =>
    rw [enumToVariant]
    exact convertOr_runtimeError_ne hf _ _
  | _ => rcases hf with rfl | rfl <;> exact fun h => nomatch h

private theorem mapAt_ne {f : Failure} (hf : f.OfLogger) (value : List (String × FtVariant))
    (key : String) : mapAt value key ≠ .error f := by
  rw [mapAt]
  cases value.lookup key with
  | none => rcases hf with rfl | rfl <;> exact fun h => nomatch h
  | some v => exact fun h => nomatch h

/-- The size of a tuple raises no error of a logger. -/
private theorem tupleSizeError_ne {f : Failure} (hf : f.OfLogger) (tp : RType) :
    tupleSizeError tp ≠ f := by
  have hlogic : ∃ what, tupleSizeError tp = .logicError what := by
    unfold tupleSizeError
    split
    · split_ifs <;> exact ⟨_, rfl⟩
    · exact ⟨_, rfl⟩
  obtain ⟨what, hwhat⟩ := hlogic
  rw [hwhat]
  rcases hf with rfl | rfl <;> exact fun h => nomatch h

end Parts

/-! ### The functions that select a decoder

The parts of a struct and of a tuple are decoded by the same function, which is a parameter here, so
each of these lemmas is one case of the recursion. -/

section Dispatch

variable {tp : RType} {lg : Option Logging}
  {setProperties setProperties' : List (String × FtVariant) → tp.Val → Except Failure tp.Val}
  {createTuple createTuple' : List FtVariant → Except Failure tp.Val}
  {P : List (String × FtVariant) → Prop} {Q : List FtVariant → Prop}

/-- A struct is decoded exactly if one can be created and its properties be set. -/
private theorem structToVariant_returns_iff (hset : ∀ value out,
      (∃ v, setProperties value out = .ok v) ↔ P value) (value : List (String × FtVariant)) :
    (∃ v, structToVariant r tp setProperties value = .ok v) ↔
      tp.isClass ∧ (r.create tp).isSome ∧ P value := by
  rw [structToVariant]
  cases tp.isClass with
  | false => exact ⟨fun ⟨_, h⟩ => (nomatch h), fun ⟨h, _⟩ => (nomatch h)⟩
  | true =>
    cases r.create tp with
    | none => exact ⟨fun ⟨_, h⟩ => (nomatch h), fun ⟨_, h, _⟩ => (nomatch h)⟩
    | some out => simpa using hset value out

/-- A struct meets a wrong tag in one of its properties. -/
private theorem structToVariant_eq_error_iff (hset : ∀ value out,
      setProperties value out = .error tagError ↔ P value) (value : List (String × FtVariant)) :
    structToVariant r tp setProperties value = .error tagError ↔
      tp.isClass ∧ (r.create tp).isSome ∧ P value := by
  rw [structToVariant]
  cases tp.isClass with
  | false => exact iff_of_false (by simp) fun h => nomatch h.1
  | true =>
    cases r.create tp with
    | none => exact iff_of_false (by simp) fun h => nomatch h.2.1
    | some out => simpa using hset value out

private theorem dispatch_returns_iff (lg : Logging)
    (hset : ∀ value out, (∃ v, setProperties value out = .ok v) ↔ P value)
    (hcreate : ∀ value, (∃ v, createTuple value = .ok v) ↔ Q value) (m : FtVariant) :
    (∃ v, dispatch r hm (some lg) tp setProperties createTuple m = .ok v) ↔
      DispatchDecodes r hm tp P Q m := by
  cases m with
  | notSet => exact ⟨fun ⟨_, h⟩ => (nomatch h), False.elim⟩
  | simplevar v => exact simple_returns_iff v
  | enumval v =>
    simp only [dispatch_enumval]
    exact enumToVariant_returns_iff v
  | arrayval arr =>
    simp only [dispatch_arrayval]
    exact wireTypeToArray_returns_iff
  | structval name value =>
    simp only [dispatch_structval]
    exact structToVariant_returns_iff hset value
  | tupleval value =>
    simp only [dispatch_tupleval]
    exact hcreate value

private theorem dispatch_eq_tagError_iff (lg : Logging)
    (hset : ∀ value out, setProperties value out = .error tagError ↔ P value)
    (hcreate : ∀ value, createTuple value = .error tagError ↔ Q value) (m : FtVariant) :
    dispatch r hm (some lg) tp setProperties createTuple m = .error tagError ↔
      DispatchMeets r tp P Q m := by
  cases m with
  | notSet => exact iff_of_false (fun h => nomatch h) id
  | simplevar v => exact iff_of_false (simple_ne (.inl rfl) v) id
  | enumval v =>
    rw [dispatch_enumval]
    exact iff_of_false (enumToVariant_ne (.inl rfl) v) id
  | arrayval arr =>
    rw [dispatch_arrayval]
    exact wireTypeToArray_eq_tagError_iff
  | structval name value =>
    rw [dispatch_structval]
    exact structToVariant_eq_error_iff hset value
  | tupleval value =>
    rw [dispatch_tupleval]
    exact hcreate value

/-- A struct raises no error of a logger, if its properties do not. -/
private theorem structToVariant_ne {f : Failure} (hf : f.OfLogger)
    (hset : ∀ value out, setProperties value out ≠ .error f) (value : List (String × FtVariant)) :
    structToVariant r tp setProperties value ≠ .error f := by
  rw [structToVariant]
  split_ifs
  · rcases hf with rfl | rfl <;> exact fun h => nomatch h
  · cases r.create tp with
    | none => rcases hf with rfl | rfl <;> exact fun h => nomatch h
    | some out => exact hset value out

/-- Without a logger, no error of a logger is raised. -/
private theorem dispatch_none_ne {f : Failure} (hf : f.OfLogger)
    (hset : ∀ value out, setProperties value out ≠ .error f)
    (hcreate : ∀ value, createTuple value ≠ .error f) (m : FtVariant) :
    dispatch r hm none tp setProperties createTuple m ≠ .error f := by
  cases m with
  | notSet => rcases hf with rfl | rfl <;> exact fun h => nomatch h
  | simplevar v => exact simple_ne hf v
  | enumval v =>
    rw [dispatch_enumval]
    exact enumToVariant_ne hf v
  | arrayval arr =>
    rw [dispatch_arrayval]
    exact wireTypeToArray_none_ne hf
  | structval name value =>
    rw [dispatch_structval]
    exact structToVariant_ne hf hset value
  | tupleval value =>
    rw [dispatch_tupleval]
    exact hcreate value

/-- Without a logger the same is decoded, but where a logger is told of a wrong tag. -/
private theorem dispatch_eq_or (lg : Logging)
    (hset : ∀ value out, setProperties value out = setProperties' value out ∨
      setProperties' value out = .error tagError)
    (hcreate : ∀ value, createTuple value = createTuple' value ∨
      createTuple' value = .error tagError) (m : FtVariant) :
    dispatch r hm none tp setProperties createTuple m =
        dispatch r hm (some lg) tp setProperties' createTuple' m ∨
      dispatch r hm (some lg) tp setProperties' createTuple' m = .error tagError := by
  cases m with
  | notSet => exact .inl rfl
  | simplevar v => exact .inl rfl
  | enumval v => exact .inl (by rw [dispatch_enumval, dispatch_enumval])
  | arrayval arr =>
    rw [dispatch_arrayval, dispatch_arrayval]
    exact wireTypeToArray_eq_or arr tp lg
  | structval name value =>
    rw [dispatch_structval, dispatch_structval, structToVariant, structToVariant]
    cases tp.isClass with
    | false => exact .inl rfl
    | true =>
      cases r.create tp with
      | none => exact .inl rfl
      | some out => exact hset value out
  | tupleval value =>
    rw [dispatch_tupleval, dispatch_tupleval]
    exact hcreate value

end Dispatch

section Recursion

variable {n : ℕ} {elems : Fin n → RType}
  {decode : (i : Fin n) → FtVariant → Except Failure (elems i).Val}

/-- A tuple is decoded exactly if all its elements are. -/
private theorem tupleToVariant_returns_iff (value : List FtVariant) :
    (∃ v, tupleToVariant decode value = .ok v) ↔
      ∃ h : value.length = n, ∀ i, ∃ v, decode i (value.get (i.cast h.symm)) = .ok v := by
  rw [tupleToVariant]
  split_ifs with h
  · rw [collect_returns_iff]
    exact ⟨fun hall => ⟨h, hall⟩, fun ⟨_, hall⟩ => hall⟩
  · exact ⟨fun ⟨_, h⟩ => (nomatch h), fun ⟨hlen, _⟩ => absurd hlen h⟩

/-- A tuple fails with its first element that fails. -/
private theorem tupleToVariant_eq_error_iff {f : Failure} (hf : f.OfLogger)
    (value : List FtVariant) :
    tupleToVariant decode value = .error f ↔
      ∃ h : value.length = n, ∃ i, decode i (value.get (i.cast h.symm)) = .error f ∧
        ∀ j < i, ∃ v, decode j (value.get (j.cast h.symm)) = .ok v := by
  rw [tupleToVariant]
  split_ifs with h
  · rw [collect_eq_error_iff]
    exact ⟨fun hfirst => ⟨h, hfirst⟩, fun ⟨_, hfirst⟩ => hfirst⟩
  · refine iff_of_false ?_ fun ⟨hlen, _⟩ => h hlen
    rcases hf with rfl | rfl <;> exact fun h => nomatch h

end Recursion

/-- A target without properties and elements. -/
theorem plainToVariant_returns_iff (tp : RType) (lg : Logging) (m : FtVariant) :
    (∃ v, plainToVariant r hm (some lg) tp m = .ok v) ↔
      DispatchDecodes r hm tp (fun _ => True) (fun _ => False) m := by
  refine dispatch_returns_iff lg (fun _ out => ?_) (fun _ => ?_) m
  · exact iff_of_true ⟨out, rfl⟩ trivial
  · exact iff_of_false (fun ⟨_, h⟩ => nomatch h) id

/-- Where a wrong tag is met in a message without parts. -/
private theorem plainToVariant_eq_tagError_iff (tp : RType) (lg : Logging) (m : FtVariant) :
    plainToVariant r hm (some lg) tp m = .error tagError ↔
      DispatchMeets r tp (fun _ => False) (fun _ => False) m := by
  refine dispatch_eq_tagError_iff lg (fun _ _ => ?_) (fun _ => ?_) m
  · exact iff_of_false (fun h => nomatch h) id
  · exact iff_of_false (fun h => tupleSizeError_ne (.inl rfl) tp (Except.error.inj h)) id

/-- Without a logger, a message without parts raises no error of a logger. -/
private theorem plainToVariant_none_ne {f : Failure} (hf : f.OfLogger) (tp : RType)
    (m : FtVariant) :
    plainToVariant r hm none tp m ≠ .error f := by
  refine dispatch_none_ne hf (fun _ _ => ?_) (fun _ => ?_) m
  · exact fun h => nomatch h
  · exact fun h => tupleSizeError_ne hf tp (Except.error.inj h)

/-- A message without parts, with a logger and without. -/
private theorem plainToVariant_eq_or (tp : RType) (lg : Logging) (m : FtVariant) :
    plainToVariant r hm none tp m = plainToVariant r hm (some lg) tp m ∨
      plainToVariant r hm (some lg) tp m = .error tagError :=
  dispatch_eq_or lg (fun _ _ => .inl rfl) (fun _ => .inl rfl) m

/-- The size of a tuple is no array. -/
theorem plainToVariant_ulong_ne (lg : Logging) (m : FtVariant) :
    plainToVariant r hm (some lg) (.arith .ulong) m ≠ .error tagError := by
  rw [Ne, plainToVariant_eq_tagError_iff]
  cases m with
  | arrayval arr => exact fun ⟨_, h, _⟩ => h
  | structval name value => exact fun h => h.2.2
  | _ => exact id

/-- What setting the properties of a tuple comes to. -/
theorem tupleSize_ne {f : Failure} (hf : f.OfLogger) {γ : Type} {lg : Option Logging}
    (h : ∀ m, plainToVariant r hm lg (.arith .ulong) m ≠ .error f)
    (value : List (String × FtVariant)) (out : γ) :
    (mapAt value "size" >>= fun invar =>
      plainToVariant r hm lg (.arith .ulong) invar >>= fun _ => pure out) ≠ .error f := by
  intro herror
  obtain herror | ⟨invar, -, herror⟩ := bind_eq_error_iff.mp herror
  · exact mapAt_ne hf value "size" herror
  · exact h invar (map_eq_error_iff.mp herror)

/-- The size of a tuple is read exactly if it is there, and a number. -/
private theorem tupleSize_returns_iff {γ : Type} (lg : Logging) (value : List (String × FtVariant))
    (out : γ) :
    (∃ v, (mapAt value "size" >>= fun invar =>
      plainToVariant r hm (some lg) (.arith .ulong) invar >>= fun _ => pure out) = .ok v) ↔
      ∃ invar, mapAt value "size" = .ok invar ∧
        DispatchDecodes r hm (.arith .ulong) (fun _ => True) (fun _ => False) invar := by
  rw [bind_returns_iff]
  refine exists_congr fun invar => and_congr_right fun _ => ?_
  exact map_returns_iff.trans (plainToVariant_returns_iff _ lg invar)

/-- The size of a tuple is read without a use of the logger. -/
private theorem tupleSize_eq {γ : Type} (lg : Logging) (value : List (String × FtVariant))
    (out : γ) :
    (mapAt value "size" >>= fun invar =>
      plainToVariant r hm none (.arith .ulong) invar >>= fun _ => pure out) =
    (mapAt value "size" >>= fun invar =>
      plainToVariant r hm (some lg) (.arith .ulong) invar >>= fun _ => pure out) := by
  refine congrArg (mapAt value "size" >>= ·) (funext fun invar => ?_)
  rw [(plainToVariant_eq_or _ lg invar).resolve_right (plainToVariant_ulong_ne _ invar)]

/-! ### The whole of a message -/

/-- **What is decoded** with a logger, by recursion on the target. -/
private theorem wireTypeToVariant_returns_iff (tp : RType) (lg : Logging) (m : FtVariant) :
    (∃ v, wireTypeToVariant r hm (some lg) tp m = .ok v) ↔ Decodes r hm tp m := by
  induction tp generalizing m with
  | cls info props ih =>
    refine dispatch_returns_iff lg (fun value out => ?_) (fun value => ?_) m
    · simp only [collect_returns_iff, bind_returns_iff, ih]
    · exact iff_of_false (fun ⟨_, h⟩ => nomatch h) id
  | tuple name n elems ih =>
    refine dispatch_returns_iff lg (fun value out => ?_) (fun value => ?_) m
    · exact tupleSize_returns_iff lg value out
    · simp only [tupleToVariant_returns_iff, ih]
  | _ => exact plainToVariant_returns_iff _ lg m

/-- With a logger the error for an array's tag is raised when decoding comes to such an array. -/
theorem wireTypeToVariant_eq_tagError_iff (tp : RType) (lg : Logging) (m : FtVariant) :
    wireTypeToVariant r hm (some lg) tp m = .error tagError ↔ MeetsMismatch r hm tp m := by
  induction tp generalizing m with
  | cls info props ih =>
    refine dispatch_eq_tagError_iff lg (fun value out => ?_) (fun value => ?_) m
    · simp only [collect_eq_error_iff, bind_eq_error_iff, mapAt_ne (.inl rfl), false_or,
        bind_returns_iff, ih, wireTypeToVariant_returns_iff]
    · exact iff_of_false (fun h => tupleSizeError_ne (.inl rfl) _ (Except.error.inj h)) id
  | tuple name n elems ih =>
    refine dispatch_eq_tagError_iff lg (fun value out => ?_) (fun value => ?_) m
    · exact iff_of_false (tupleSize_ne (.inl rfl) (plainToVariant_ulong_ne lg) value out) id
    · simp only [tupleToVariant_eq_error_iff (.inl rfl), ih, wireTypeToVariant_returns_iff]
  | _ => exact plainToVariant_eq_tagError_iff _ lg m

/-- Without a logger decoding does not fail in a way that has to do with one. -/
theorem wireTypeToVariant_none_ne {f : Failure} (hf : f.OfLogger) (tp : RType) (m : FtVariant) :
    wireTypeToVariant r hm none tp m ≠ .error f := by
  induction tp generalizing m with
  | cls info props ih =>
    refine dispatch_none_ne hf (fun value out h => ?_) (fun value h => ?_) m
    · obtain ⟨i, hi, -⟩ := collect_eq_error_iff.mp h
      obtain hi | ⟨invar, -, hi⟩ := bind_eq_error_iff.mp hi
      · exact mapAt_ne hf _ _ hi
      · exact ih i invar hi
    · exact tupleSizeError_ne hf _ (Except.error.inj h)
  | tuple name n elems ih =>
    refine dispatch_none_ne hf (fun value out => ?_) (fun value h => ?_) m
    · exact tupleSize_ne hf (plainToVariant_none_ne hf _) value out
    · obtain ⟨hlen, i, hi, -⟩ := (tupleToVariant_eq_error_iff hf value).mp h
      exact ih i _ hi
  | _ => exact plainToVariant_none_ne hf _ m

/-- Without a logger a message decodes as with one, unless that raises the error for an array's
tag. -/
theorem wireTypeToVariant_eq_or (tp : RType) (lg : Logging) (m : FtVariant) :
    wireTypeToVariant r hm none tp m = wireTypeToVariant r hm (some lg) tp m ∨
      wireTypeToVariant r hm (some lg) tp m = .error tagError := by
  induction tp generalizing m with
  | cls info props ih =>
    refine dispatch_eq_or lg (fun value out => ?_) (fun value => .inl rfl) m
    refine or_iff_not_imp_right.mpr (collect_eq_of_ne fun i => ?_)
    cases mapAt value (info.properties.get i) with
    | error f => exact .inl rfl
    | ok invar => exact ih i invar
  | tuple name n elems ih =>
    refine dispatch_eq_or lg (fun value out => ?_) (fun value => ?_) m
    · exact .inl (tupleSize_eq lg value out)
    · unfold tupleToVariant
      split_ifs with h
      · exact or_iff_not_imp_right.mpr (collect_eq_of_ne fun i => ih i _)
      · exact .inl rfl
  | _ => exact plainToVariant_eq_or _ lg m

/-- Decoding depends on the logger when it comes to an array with another tag than the default
one. -/
theorem wireTypeToVariant_eq_iff (tp : RType) (lg : Logging) (m : FtVariant) :
    wireTypeToVariant r hm none tp m = wireTypeToVariant r hm (some lg) tp m ↔
      ¬ MeetsMismatch r hm tp m := by
  rw [← wireTypeToVariant_eq_tagError_iff tp lg m]
  constructor
  · intro h herror
    exact wireTypeToVariant_none_ne (.inl rfl) tp m (h.trans herror)
  · exact (wireTypeToVariant_eq_or tp lg m).resolve_right

/-- The logger matters to an array exactly where its tag is wrong. -/
private theorem wireTypeToArray_eq_iff (arr : FtHomogArray FtVariant) (tp : RType) (lg : Logging) :
    wireTypeToArray r none arr tp = wireTypeToArray r (some lg) arr tp ↔
      ¬ TagMismatch r arr tp := by
  rw [← wireTypeToArray_eq_tagError_iff]
  constructor
  · intro h herror
    exact wireTypeToArray_none_ne (.inl rfl) (h.trans herror)
  · exact (wireTypeToArray_eq_or arr tp lg).resolve_right

/-! ### All conversions -/

/-- With a null pointer for the logger the conversions do the same as with a logger, and do not
use the pointer. -/
structure SameWithoutLogger (r : Rttr) (hm : HandleManager) (lg : Logging) (tp : RType)
    (v : tp.Val) (m : FtVariant) (arr : FtHomogArray FtVariant) : Prop where
  describe : describeType r tp none = describeType r tp (some lg) ∧
    describeType r tp none ≠ .error .nullPointer
  encode : getVariantWireType r none tp false v = getVariantWireType r (some lg) tp false v ∧
    ¬ Raises (getVariantWireType r none tp false v) .nullPointer
  decode : wireTypeToVariant r hm none tp m = wireTypeToVariant r hm (some lg) tp m ∧
    wireTypeToVariant r hm none tp m ≠ .error .nullPointer
  decodeArray : wireTypeToArray r none arr tp = wireTypeToArray r (some lg) arr tp ∧
    wireTypeToArray r none arr tp ≠ .error .nullPointer

/-- **A missing logger changes nothing** exactly if the description of the type comes to no
container that can be constructed, and decoding to no array without data for elements with
another tag than the default one. -/
theorem sameWithoutLogger_iff (r : Rttr) (hm : HandleManager) (lg : Logging) (tp : RType)
    (v : tp.Val) (m : FtVariant) (arr : FtHomogArray FtVariant) :
    SameWithoutLogger r hm lg tp v m arr ↔
      ¬ MeetsContainer r tp ∧ ¬ MeetsMismatch r hm tp m ∧ ¬ TagMismatch r arr tp := by
  constructor
  · intro h
    refine ⟨fun hmeets => ?_, ?_, ?_⟩
    · exact h.describe.2 ((describeType_eq_nullPointer_iff r tp).mpr hmeets)
    · exact (wireTypeToVariant_eq_iff tp lg m).mp h.decode.1
    · exact (wireTypeToArray_eq_iff arr tp lg).mp h.decodeArray.1
  · rintro ⟨hdescribe, hdecode, harray⟩
    have hne : describeType r tp none ≠ .error .nullPointer :=
      fun h => hdescribe ((describeType_eq_nullPointer_iff r tp).mp h)
    exact
      { describe := ⟨((describeType_eq_or r tp lg).resolve_right hne).symm, hne⟩
        encode := ⟨(getVariantWireType_logger r (some lg) tp false v).symm,
          not_raises_nullPointer r none tp false v⟩
        decode := ⟨(wireTypeToVariant_eq_iff tp lg m).mpr hdecode,
          wireTypeToVariant_none_ne (.inr rfl) tp m⟩
        decodeArray := ⟨(wireTypeToArray_eq_iff arr tp lg).mpr harray,
          wireTypeToArray_none_ne (.inr rfl)⟩ }

/-- **A missing logger is used** for the description of a `std::vector<double>` that can be
constructed. -/
theorem vector_uses_nullPointer : ¬ ∀ (r : Rttr) (hm : HandleManager) (lg : Logging) (tp : RType)
    (v : tp.Val) (m : FtVariant) (arr : FtHomogArray FtVariant),
    SameWithoutLogger r hm lg tp v m arr := by
  intro hall
  have hsame := hall Rttr.standard ⟨∅, id⟩ ⟨⟩
    (.container ⟨"std::vector<double>", none, true⟩ (.arith .double)) ⟨[], by simp⟩ .notSet .notSet
  exact hsame.describe.2 rfl

end Foxtrot
