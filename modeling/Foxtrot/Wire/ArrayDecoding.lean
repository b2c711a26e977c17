import Foxtrot.Wire.Decoding

/-!
# What becomes of an array message

The condition at the head of `wire_type_to_array` refuses the arrays that have encoded data, and
what follows reads the encoded data. So an array message decodes to an empty container or not at
all (`wireTypeToArray_cases`): the target must be a container that can be constructed and made
empty, with elements of a type that has a tag. If that is not the default tag, the call fails with
a logger and succeeds without one, since the error is raised inside the block that logs it.

The head condition decides on what is encoded in the message, and everything after it on a message
that is then the default one, with no data and the first tag. So the loops over the elements have
nothing to do, and what is left are the checks: that the container can be constructed, has a size of
its own, and has an element type with a tag.
-/

namespace Foxtrot

open Fallible

variable (r : Rttr)

/-- The error that only a given logger lets out. -/
abbrev tagError : Failure := .reflectionError "invalid byte data type passed!"

/-- The failures that have to do with the logger: that error, and the use of a null pointer. -/
def Failure.OfLogger (f : Failure) : Prop :=
  f = tagError ∨ f = .nullPointer

instance : DecidablePred Failure.OfLogger :=
  fun f => inferInstanceAs (Decidable (f = tagError ∨ f = .nullPointer))

/-- The target is a container that the decoder can construct and make empty. -/
def CanBeEmpty (info : ContainerInfo) (elem : RType) : Prop :=
  ∃ out, r.create (.container info elem) = some out ∧ (info.fixedSize.isSome → out.1 = [])

/-- The array has no encoded data, and its target is a container that can be made empty and whose
elements have the tag. -/
def EmptiedWithTag (arr : FtHomogArray FtVariant) (bdt : ByteDataTypes) : RType → Prop
  | .container info elem => arr.hasArrEncoded = false ∧ CanBeEmpty r info elem ∧
      elem.getByteDataType = .ok bdt
  | _ => False

/-- The same, with another tag than that of the default message. -/
def TagMismatch (arr : FtHomogArray FtVariant) (tp : RType) : Prop :=
  ∃ bdt, EmptiedWithTag r arr bdt tp ∧ bdt ≠ .ucharType

section Array

variable {info : ContainerInfo} {elem : RType}

/-- Without encoded data there is the default, which is empty. -/
private theorem arrEncoded_of_not {arr : FtHomogArray FtVariant} (h : arr.hasArrEncoded = false) :
    arr.arrEncoded = { dtp := .ucharType, data := [] } := by
  cases arr with
  | encoded arr => exact nomatch h
  | _ => rfl

private theorem rank_of_getByteDataType {bdt : ByteDataTypes} (h : elem.getByteDataType = .ok bdt) :
    elem.rank = 0 := by
  cases elem with
  | arith tp => rfl
  | _ => exact nomatch h

/-- Elements of a type with a tag are sent as bytes, with the tag. -/
theorem encodedArray_of_getByteDataType {bdt : ByteDataTypes} (h : elem.getByteDataType = .ok bdt)
    (vals : List elem.Val) : ∃ encout, elem.encodedArray vals = .ok encout ∧ encout.dtp = bdt ∧
      (encout.data = [] ↔ vals = []) := by
  cases elem with
  | arith tp =>
    rw [RType.getByteDataType, getByteDataType] at h
    cases htag : bdtMap.lookup tp with
    | none =>
      rw [htag] at h
      cases h
    | some dtp =>
      rw [htag] at h
      cases h
      have hpos : tp.sizeof ≠ 0 := by
        cases tp with
        | other name sizeof => cases htag
        | _ => decide
      refine ⟨_, getArrayWireType_of_lookup htag vals, rfl, ?_⟩
      rw [← List.length_eq_zero_iff, length_memoryBytes, Nat.mul_eq_zero, or_iff_left hpos,
        List.length_eq_zero_iff]
  | _ => cases h

/-- Elements of a type without a tag are not sent as bytes. -/
theorem encodedArray_of_error {e : Failure} (h : elem.getByteDataType = .error e)
    (vals : List elem.Val) : ∃ what, elem.encodedArray vals = .error what := by
  cases elem with
  | arith tp =>
    rw [RType.getByteDataType, getByteDataType] at h
    cases htag : bdtMap.lookup tp with
    | none =>
      refine ⟨"couldn't get byte data type", ?_⟩
      rw [RType.encodedArray, getArrayWireType, getByteDataType, htag]
      rfl
    | some dtp =>
      rw [htag] at h
      cases h
  | _ => exact ⟨_, rfl⟩

/-- Made as large as no data, the container is empty. -/
theorem setArraySize_zero_eq_ok_iff {out view : RType.Val (.container info elem)} :
    setArraySize 0 out = .ok view ↔ view.1 = [] ∧ (info.fixedSize.isSome → out.1 = []) := by
  rcases info with ⟨name, _ | n, template⟩
  · refine ⟨fun h => ?_, fun h => congrArg Except.ok (Subtype.ext h.1.symm)⟩
    cases h
    exact ⟨rfl, fun h => nomatch h⟩
  · change (if out.1.length ≠ 0 then _ else _) = _ ↔ _
    simp only [ne_eq, ite_not, List.length_eq_zero_iff]
    split_ifs with hout
    · refine ⟨fun h => ?_, fun h => congrArg Except.ok (Subtype.ext (hout.trans h.1.symm))⟩
      cases h
      exact ⟨hout, fun _ => hout⟩
    · exact iff_of_false (fun h => nomatch h) fun h => hout (h.2 rfl)

/-- No elements fit in every container that has no fixed size. -/
private theorem setArraySize_zero_returns {out : RType.Val (.container info elem)}
    (h : info.fixedSize.isSome → out.1 = []) : ∃ view, setArraySize 0 out = .ok view := by
  rcases info with ⟨name, _ | n, template⟩
  · exact ⟨_, rfl⟩
  · exact ⟨out, setArraySize_zero_eq_ok_iff.mpr ⟨h rfl, h⟩⟩

private theorem setArraySize_ne {f : Failure} (hf : f.OfLogger) {size : ℕ}
    (out : RType.Val (.container info elem)) : setArraySize size out ≠ .error f := by
  rw [setArraySize]
  split
  · exact fun h => nomatch h
  · split_ifs
    · rcases hf with rfl | rfl <;> simp
    · exact fun h => nomatch h

private theorem getByteDataType_error {f : Failure} (h : elem.getByteDataType = .error f) :
    ∃ what, f = .logicError what := by
  cases elem with
  | arith tp =>
    rw [RType.getByteDataType] at h
    cases hdtp : getByteDataType tp with
    | ok dtp =>
      rw [hdtp] at h
      exact nomatch h
    | error what =>
      rw [hdtp] at h
      exact ⟨what, (Except.error.inj h).symm⟩
  | _ => exact ⟨_, (Except.error.inj h).symm⟩

/-- An element type without a tag is refused, whatever the logger. -/
theorem checkElementType_eq_of_error {f : Failure} (h : elem.getByteDataType = .error f)
    (dtp : ByteDataTypes) :
    ∃ what, ∀ lg, checkElementType elem dtp lg = .error (.logicError what) := by
  obtain ⟨what, rfl⟩ := getByteDataType_error h
  by_cases hrank : 0 < elem.rank
  · refine ⟨"can only handle arrays of rank 1 at present!", fun lg => ?_⟩
    rw [checkElementType, if_pos hrank]
    rfl
  · refine ⟨what, fun lg => ?_⟩
    rw [checkElementType, if_neg hrank, h]
    rfl

/-- An element type with a tag is refused for another tag in the message, with a logger. -/
theorem checkElementType_eq_of_tag {bdt : ByteDataTypes} (h : elem.getByteDataType = .ok bdt)
    (dtp : ByteDataTypes) (lg : Option Logging) :
    checkElementType elem dtp lg =
      if bdt ≠ dtp && lg.isSome then .error tagError else .ok () := by
  have hrank : ¬ 0 < elem.rank := by
    rw [rank_of_getByteDataType h]
    exact Nat.lt_irrefl 0
  rw [checkElementType, if_neg hrank, h]
  rfl

/-- With no data, nothing is left of filling the array but its checks. -/
theorem fillArray_default (lg : Option Logging) (out : RType.Val (.container info elem)) :
    fillArray { dtp := .ucharType, data := [] } lg out =
      setArraySize 0 out >>= fun view =>
        checkElementType elem .ucharType lg >>= fun _ => .ok view := by
  cases hview : setArraySize 0 out with
  | error e =>
    simp only [fillArray, List.length_nil, hview]
    rfl
  | ok view =>
    have hempty : view.1 = [] := (setArraySize_zero_eq_ok_iff.mp hview).1
    simp only [fillArray, List.length_nil, hview]
    refine congrArg (checkElementType elem .ucharType lg >>= ·) (funext fun _ => ?_)
    simp only [hempty]
    rfl

/-- An array is refused whatever the logger, or its elements' tag and the logger decide. -/
theorem wireTypeToArray_cases (arr : FtHomogArray FtVariant) (tp : RType) :
    (∃ f, ¬ f.OfLogger ∧ (∀ lg, wireTypeToArray r lg arr tp = .error f) ∧
      ∀ bdt, ¬ EmptiedWithTag r arr bdt tp) ∨
    ∃ bdt v, EmptiedWithTag r arr bdt tp ∧ ∀ lg, wireTypeToArray r lg arr tp =
      if bdt ≠ .ucharType && lg.isSome then .error tagError else .ok v := by
  cases harr : arr.hasArrEncoded with
  | true =>
    refine .inl ⟨.logicError "can't deal with decoded arrays at the moment!", by decide,
      fun lg => ?_, fun bdt h => ?_⟩
    · unfold wireTypeToArray
      rw [harr]
      rfl
    · cases tp with
      | container info elem => cases harr.symm.trans h.1
      | _ => exact h
  | false =>
    cases tp with
    | container info elem =>
      simp only [wireTypeToArray, EmptiedWithTag, CanBeEmpty, harr, Bool.false_eq_true, if_false,
        true_and, arrEncoded_of_not harr, fillArray_default]
      cases hout : r.create (.container info elem) with
      | none =>
        refine .inl ⟨_, by decide, fun lg => rfl, fun _ h => ?_⟩
        obtain ⟨⟨out, h, -⟩, -⟩ := h
        cases h
      | some out =>
        -- the message holds no elements, so the array is made with size 0, if its view can be
        cases hview : setArraySize 0 out with
        | error f =>
          refine .inl ⟨f, fun hf => setArraySize_ne hf out hview,
            fun _ => by simp only [hview]; rfl, fun _ h => ?_⟩
          obtain ⟨⟨out', h, hempty⟩, -⟩ := h
          cases h
          obtain ⟨view, hok⟩ := setArraySize_zero_returns hempty
          cases hview.symm.trans hok
        | ok view =>
          have hempty := (setArraySize_zero_eq_ok_iff.mp hview).2
          cases hbdt : elem.getByteDataType with
          | error f =>
            obtain ⟨what, hwhat⟩ := checkElementType_eq_of_error hbdt .ucharType
            refine .inl ⟨.logicError what, by simp [Failure.OfLogger], fun lg => ?_, fun _ h => ?_⟩
            · simp only [hview, hwhat lg]
              rfl
            · cases h.2
          | ok bdt =>
            -- a default message has the tag of bytes: another one throws where there is a logger
            refine .inr ⟨bdt, view, ⟨⟨out, rfl, hempty⟩, rfl⟩, fun lg => ?_⟩
            simp only [hview, checkElementType_eq_of_tag hbdt]
            split_ifs <;> rfl
    | _ =>
      refine .inl ⟨.logicError "tried to create an array at non target array type", by decide,
        fun _ => ?_, fun _ h => h⟩
      simp [wireTypeToArray, harr]

variable {r}

/-- A container's elements have one tag. -/
theorem EmptiedWithTag.unique {arr : FtHomogArray FtVariant} {tp : RType} {bdt bdt' : ByteDataTypes}
    (h : EmptiedWithTag r arr bdt tp) (h' : EmptiedWithTag r arr bdt' tp) : bdt = bdt' := by
  cases tp with
  | container info elem => exact Except.ok.inj (h.2.2.symm.trans h'.2.2)
  | _ => exact h.elim

/-- With a logger, only an empty array with the first tag is decoded. -/
theorem wireTypeToArray_returns_iff {arr : FtHomogArray FtVariant} {tp : RType} {lg : Logging} :
    (∃ v, wireTypeToArray r (some lg) arr tp = .ok v) ↔ EmptiedWithTag r arr .ucharType tp := by
  obtain ⟨f, -, hf, hnot⟩ | ⟨bdt, v, hbdt, hv⟩ := wireTypeToArray_cases r arr tp
  · exact iff_of_false (fun ⟨_, h⟩ => nomatch (hf _).symm.trans h) (hnot _)
  · rw [hv]
    by_cases hu : bdt = .ucharType
    · subst hu
      exact iff_of_true ⟨v, rfl⟩ hbdt
    · refine iff_of_false (fun ⟨_, h⟩ => ?_) fun h => hu (hbdt.unique h)
      simp [hu] at h

/-- With a logger, the tag is compared once the target is known. -/
theorem wireTypeToArray_eq_tagError_iff {arr : FtHomogArray FtVariant} {tp : RType}
    {lg : Logging} :
    wireTypeToArray r (some lg) arr tp = .error tagError ↔ TagMismatch r arr tp := by
  obtain ⟨f, hne, hf, hnot⟩ | ⟨bdt, v, hbdt, hv⟩ := wireTypeToArray_cases r arr tp
  · refine iff_of_false (fun h => hne (.inl ?_)) fun ⟨bdt, h, _⟩ => hnot bdt h
    exact Except.error.inj ((hf _).symm.trans h)
  · rw [hv]
    by_cases hu : bdt = .ucharType
    · subst hu
      exact iff_of_false (fun h => nomatch h) fun ⟨_, h, hne⟩ => hne (h.unique hbdt)
    · refine iff_of_true ?_ ⟨bdt, hbdt, hu⟩
      simp [hu]

/-- Without a logger, no error of a logger is raised. -/
theorem wireTypeToArray_none_ne {f : Failure} (hf : f.OfLogger) {arr : FtHomogArray FtVariant}
    {tp : RType} : wireTypeToArray r none arr tp ≠ .error f := by
  obtain ⟨f', hne, hf', -⟩ | ⟨bdt, v, -, hv⟩ := wireTypeToArray_cases r arr tp
  · rw [hf']
    rintro h
    cases h
    exact hne hf
  · rw [hv]
    simp

/-- Without a logger an array decodes as with one, unless that raises the error for its tag. -/
theorem wireTypeToArray_eq_or (arr : FtHomogArray FtVariant) (tp : RType) (lg : Logging) :
    wireTypeToArray r none arr tp = wireTypeToArray r (some lg) arr tp ∨
      wireTypeToArray r (some lg) arr tp = .error tagError := by
  obtain ⟨f, -, hf, -⟩ | ⟨bdt, v, -, hv⟩ := wireTypeToArray_cases r arr tp
  · exact .inl ((hf none).trans (hf (some lg)).symm)
  · rw [hv, hv]
    by_cases hu : bdt = .ucharType <;> simp [hu]

end Array

end Foxtrot
