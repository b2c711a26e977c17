import Foxtrot.Apt.Parameters

/-!
# The soft limits of the M30X

The soft limits are set as signed numbers and kept as unsigned ones. `M30X::check_soft_limits`
compares what is kept with a signed distance, and a negative limit has become a large positive one
by then. So the limits mean what was set exactly if they are not negative, or the distance is such
that it does not matter (`softLimits_meanWhatWasSet_iff`).

On a controller that keeps its parameters a set is read back as it was stored, so the only question
is how two numbers of 32 bits compare. A signed comparison and an unsigned one agree exactly if the
signs are the same or the order comes out the same all the same (`compares_iff`).
-/

namespace Foxtrot

namespace Apt

namespace M30x

section Functions

variable {σ : Type}

/-- `M30X::set_soft_limits`. The fields are unsigned. -/
def setSoftLimits (cwLimit ccwLimit : Int64) : AptM σ Unit := do
  let limswitchparams ← getLimitswitchparams .genericUsb .channel1
  setLimitswitchparams .genericUsb
    { limswitchparams with
      cwSoft := cwLimit.toUInt64.toUInt32
      ccwSoft := ccwLimit.toUInt64.toUInt32 }

/-- `M30X::check_soft_limits`. The fields are compared as numbers of the type of the distance, the
least of which has no negative. -/
def checkSoftLimits (homeLeft : Bool) (requiredDistance : Int64) : AptM σ Bool := do
  let limswitchparams ← getLimitswitchparams .genericUsb .channel1
  if homeLeft then
    return limswitchparams.cwSoft.toUInt64.toInt64 ≥ requiredDistance
  else if requiredDistance = Int64.minValue then
    throw .undefined
  else
    return limswitchparams.ccwSoft.toUInt64.toInt64 ≤ -requiredDistance

end Functions

/-! ### The meaning of the limits -/

/-- The limit-switch parameters that are stored for a channel name it. -/
def NamesChannels (store : ParameterStore) : Prop :=
  ∀ dest channel, (store.struct .limitswitchparams dest channel).chanIdent = channel

/-- A port with a controller that has these parameters at its other end. -/
def serving (store : ParameterStore) : Port ParameterStore :=
  ⟨ParameterStore.react, store, [], [], []⟩

/-- The parameters after the soft limits have been set. -/
def afterSet (store : ParameterStore) (cw ccw : Int32) : ParameterStore :=
  ((setSoftLimits cw.toInt64 ccw.toInt64).on (serving store)).2.controller

/-- What a check comes to after the soft limits have been set. -/
def checkAfterSet (store : ParameterStore) (cw ccw : Int32) (homeLeft : Bool) (d : Int32) :
    Except Fault Bool :=
  ((setSoftLimits cw.toInt64 ccw.toInt64 >>= fun _ => checkSoftLimits homeLeft d.toInt64).on
    (serving store)).1

/-- **The soft limits mean what was set**, as signed numbers, and no other parameter is set. -/
structure MeanWhatWasSet (store : ParameterStore) (cw ccw d : Int32) : Prop where
  clockwise : checkAfterSet store cw ccw true d = .ok (decide (cw.toInt ≥ d.toInt))
  counterclockwise : checkAfterSet store cw ccw false d = .ok (decide (ccw.toInt ≤ -d.toInt))
  kept : ∀ dest channel,
    { (afterSet store cw ccw).struct .limitswitchparams dest channel with
      cwSoft := (store.struct .limitswitchparams dest channel).cwSoft
      ccwSoft := (store.struct .limitswitchparams dest channel).ccwSoft } =
    store.struct .limitswitchparams dest channel
  elsewhere : ∀ dest channel,
    ¬ (dest = .genericUsb ∧ channel = MotorChannelIdents.channel1.code.toUInt16) →
    (afterSet store cw ccw).struct .limitswitchparams dest channel =
      store.struct .limitswitchparams dest channel

/-- The signs do not matter: each limit is not negative, or compares with the distance like the
unsigned number that it becomes. -/
structure SignsMatterNot (cw ccw d : Int32) : Prop where
  clockwise : 0 ≤ cw.toInt ∨ d.toInt ≤ cw.toInt
  counterclockwise : 0 ≤ ccw.toInt ∨ -d.toInt < ccw.toInt ∨
    ccw = Int32.minValue ∧ d = Int32.minValue

/-! ### Signed and unsigned numbers -/

/-- An unsigned number of 32 bits is kept in 64 bits. -/
private theorem toInt_toInt64_toUInt64 (u : UInt32) : u.toUInt64.toInt64.toInt = u.toNat := by
  have hlt := u.toNat_lt
  have hbits : u.toUInt64.toInt64.toInt = u.toUInt64.toBitVec.toInt := rfl
  have hnat : u.toUInt64.toBitVec.toNat = u.toNat := by simp
  rw [hbits, BitVec.toInt_eq_toNat_cond, hnat, if_pos (by omega)]

/-- Cut to 32 bits, a number keeps its remainder. -/
private theorem toNat_toUInt32_toUInt64 (n : Int64) :
    (n.toUInt64.toUInt32.toNat : ℤ) = n.toInt % 2 ^ 32 := by
  have hbits : n.toInt = n.toUInt64.toBitVec.toInt := rfl
  have hnat : n.toUInt64.toBitVec.toNat = n.toUInt64.toNat := rfl
  have hlow : n.toUInt64.toUInt32.toNat = n.toUInt64.toNat % 2 ^ 32 := by simp
  rw [hbits, BitVec.toInt_eq_toNat_cond, hlow, hnat]
  split_ifs <;> omega

/-- A limit as it is compared. -/
theorem toInt_soft (n : Int32) : n.toInt64.toUInt64.toUInt32.toUInt64.toInt64.toInt =
    if 0 ≤ n.toInt then n.toInt else n.toInt + 2 ^ 32 := by
  have hle := n.le_toInt
  have hlt := n.toInt_lt
  rw [toInt_toInt64_toUInt64, toNat_toUInt32_toUInt64, Int32.toInt_toInt64]
  split_ifs <;> omega

/-- No number of 32 bits is the least of 64 bits. -/
private theorem toInt64_ne_minValue (d : Int32) : d.toInt64 ≠ Int64.minValue := by
  have hle := d.le_toInt
  intro h
  have hmin : d.toInt = -2 ^ 63 := by
    rw [← Int32.toInt_toInt64, h]
    rfl
  omega

/-- In 64 bits, a number of 32 bits has its negative. -/
private theorem toInt_neg_toInt64 (d : Int32) : (-d.toInt64).toInt = -d.toInt := by
  have hle := d.le_toInt
  have hlt := d.toInt_lt
  rw [Int64.toInt_neg, Int32.toInt_toInt64, Int.bmod_eq_of_le] <;> omega

/-- A structure that is set is stored for its channel, and nowhere else. -/
theorem struct_setStruct (store : ParameterStore) (p : StructParameter) (dest : Destination)
    (t : p.Struct) (dest' : Destination) (channel : UInt16) :
    (store.setStruct p dest t).struct p dest' channel =
      if dest' = dest ∧ channel = p.chanIdent t then t else store.struct p dest' channel := by
  rw [ParameterStore.setStruct]
  dsimp only
  rw [Function.update_self]
  by_cases hdest : dest' = dest
  · subst hdest
    by_cases hchannel : channel = p.chanIdent t
    · subst hchannel
      rw [Function.update_self, Function.update_self, if_pos ⟨rfl, rfl⟩]
    · rw [Function.update_self, Function.update_of_ne hchannel, if_neg fun h => hchannel h.2]
  · rw [Function.update_of_ne hdest, if_neg fun h => hdest h.1]

/-! ### Setting and checking -/

section Serving

variable {port : Port ParameterStore} {store : ParameterStore}

/-- The parameters that both functions get. -/
def limits (store : ParameterStore) : Limitswitchparams :=
  store.struct .limitswitchparams .genericUsb MotorChannelIdents.channel1.code.toUInt16

/-- What is set: the parameters with other soft limits. -/
def softLimited (store : ParameterStore) (cwLimit ccwLimit : Int64) : Limitswitchparams :=
  { limits store with
    cwSoft := cwLimit.toUInt64.toUInt32
    ccwSoft := ccwLimit.toUInt64.toUInt32 }

private theorem on_getLimits (h : port.Serves store) :
    ∃ port', (getLimitswitchparams .genericUsb .channel1).on port = (.ok (limits store), port') ∧
      port'.Serves store :=
  h.on_requestResponseStruct .limitswitchparams .genericUsb MotorChannelIdents.channel1.code

/-- The soft limits are set, and the other switches stay. -/
private theorem on_setSoftLimits (h : port.Serves store) (cwLimit ccwLimit : Int64) :
    ∃ port', (setSoftLimits cwLimit ccwLimit).on port = (.ok (), port') ∧
      port'.Serves
        (store.setStruct .limitswitchparams .genericUsb (softLimited store cwLimit ccwLimit)) := by
  obtain ⟨port', hget, hserves⟩ := on_getLimits h
  refine ⟨_, ?_, hserves.written (react_setStruct store .limitswitchparams .genericUsb
    (softLimited store cwLimit ccwLimit))⟩
  exact Stateful.on_bind_of_ok hget _

/-- The check compares with the limit on the side of the move. -/
private theorem on_checkSoftLimits (h : port.Serves store) {requiredDistance : Int64}
    (hne : requiredDistance ≠ Int64.minValue) (homeLeft : Bool) :
    ((checkSoftLimits homeLeft requiredDistance).on port).1 = .ok
      (if homeLeft then decide ((limits store).cwSoft.toUInt64.toInt64 ≥ requiredDistance)
      else decide ((limits store).ccwSoft.toUInt64.toInt64 ≤ -requiredDistance)) := by
  obtain ⟨port', hget, -⟩ := on_getLimits h
  rw [checkSoftLimits, Stateful.on_bind_of_ok hget]
  cases homeLeft with
  | true => rfl
  | false =>
    rw [if_neg Bool.false_ne_true, if_neg hne]
    rfl

end Serving

/-- The comparisons of the unsigned limits are those of the signed ones exactly if the signs do not
matter. -/
theorem compares_iff (cw ccw d : Int32) :
    ((d.toInt ≤ if 0 ≤ cw.toInt then cw.toInt else cw.toInt + 2 ^ 32) ↔ cw.toInt ≥ d.toInt) ∧
      ((if 0 ≤ ccw.toInt then ccw.toInt else ccw.toInt + 2 ^ 32) ≤ -d.toInt ↔
        ccw.toInt ≤ -d.toInt) ↔ SignsMatterNot cw ccw d := by
  have hcw := cw.le_toInt
  have hccw := ccw.le_toInt
  have hd := d.le_toInt
  have hd_lt := d.toInt_lt
  have hmin : ∀ n : Int32, n = Int32.minValue ↔ n.toInt = -2 ^ 31 := fun n => Int32.toInt_inj.symm
  have hsigns : SignsMatterNot cw ccw d ↔ (0 ≤ cw.toInt ∨ d.toInt ≤ cw.toInt) ∧
      (0 ≤ ccw.toInt ∨ -d.toInt < ccw.toInt ∨ ccw = Int32.minValue ∧ d = Int32.minValue) :=
    ⟨fun h => ⟨h.clockwise, h.counterclockwise⟩, fun h => ⟨h.1, h.2⟩⟩
  rw [hsigns, hmin, hmin]
  -- a negative limit becomes one above all distances, and below the negative of the least one only
  -- if it is the least one itself
  refine and_congr ?_ ?_
  · split_ifs <;> omega
  · split_ifs <;> omega

/-- **The soft limits of an M30X**: on a controller that stores and returns the parameters, whatever
the limits and the distance are, the limits mean what was set exactly if their signs do not matter.
-/
theorem softLimits_meanWhatWasSet_iff (store : { store // NamesChannels store })
    (cw ccw d : Int32) : MeanWhatWasSet store.1 cw ccw d ↔ SignsMatterNot cw ccw d := by
  obtain ⟨store, hnames⟩ := store
  have hserving : (serving store).Serves store := ⟨rfl, rfl, rfl⟩
  obtain ⟨port', hset, hserves⟩ := on_setSoftLimits hserving cw.toInt64 ccw.toInt64
  generalize ht : softLimited store cw.toInt64 ccw.toInt64 = t at hserves
  have hchan : StructParameter.chanIdent .limitswitchparams t =
      MotorChannelIdents.channel1.code.toUInt16 := by
    rw [← ht]
    exact hnames _ _
  have hafter : afterSet store cw ccw = store.setStruct .limitswitchparams .genericUsb t := by
    rw [afterSet, hset]
    exact hserves.controller
  have hstruct : ∀ dest channel, (afterSet store cw ccw).struct .limitswitchparams dest channel =
      if dest = .genericUsb ∧ channel = MotorChannelIdents.channel1.code.toUInt16 then t
      else store.struct .limitswitchparams dest channel := by
    intro dest channel
    rw [hafter, struct_setStruct, hchan]
  have hcheck : ∀ homeLeft, checkAfterSet store cw ccw homeLeft d = .ok
      (if homeLeft then decide (t.cwSoft.toUInt64.toInt64 ≥ d.toInt64)
      else decide (t.ccwSoft.toUInt64.toInt64 ≤ -d.toInt64)) := by
    intro homeLeft
    have hlimits : limits (store.setStruct .limitswitchparams .genericUsb t) = t := by
      rw [limits, struct_setStruct, hchan, if_pos ⟨rfl, rfl⟩]
    rw [checkAfterSet, Stateful.on_bind_of_ok hset,
      on_checkSoftLimits hserves (toInt64_ne_minValue d), hlimits]
  -- both checks read back what was stored, and all else is as it was
  have hmeans : MeanWhatWasSet store cw ccw d ↔
      (t.cwSoft.toUInt64.toInt64 ≥ d.toInt64 ↔ cw.toInt ≥ d.toInt) ∧
        (t.ccwSoft.toUInt64.toInt64 ≤ -d.toInt64 ↔ ccw.toInt ≤ -d.toInt) := by
    constructor
    · intro h
      have hcw := h.clockwise
      have hccw := h.counterclockwise
      rw [hcheck] at hcw hccw
      exact ⟨decide_eq_decide.mp (Except.ok.inj hcw), decide_eq_decide.mp (Except.ok.inj hccw)⟩
    · rintro ⟨hcw, hccw⟩
      refine ⟨?_, ?_, ?_, ?_⟩
      · rw [hcheck]
        exact congrArg Except.ok (decide_eq_decide.mpr hcw)
      · rw [hcheck]
        exact congrArg Except.ok (decide_eq_decide.mpr hccw)
      · intro dest channel
        rw [hstruct]
        split_ifs with hhere
        · rw [← ht, hhere.1, hhere.2]
          rfl
        · rfl
      · intro dest channel helsewhere
        rw [hstruct, if_neg helsewhere]
  -- the stored limits have 32 bits without a sign
  have hcwSoft : t.cwSoft = cw.toInt64.toUInt64.toUInt32 := by
    rw [← ht]
    rfl
  have hccwSoft : t.ccwSoft = ccw.toInt64.toUInt64.toUInt32 := by
    rw [← ht]
    rfl
  rw [hmeans, ge_iff_le, Int64.le_iff_toInt_le, Int64.le_iff_toInt_le, hcwSoft, hccwSoft,
    toInt_soft, toInt_soft, toInt_neg_toInt64, Int32.toInt_toInt64]
  exact compares_iff cw ccw d

/-- A controller on which all limits are zero. -/
def limitsZero : { store // NamesChannels store } :=
  ⟨{ allZero with
      struct := fun
        | .limitswitchparams, _, channel => ⟨channel, 0, 0, 0, 0, 0⟩
        | p, dest, channel => allZero.struct p dest channel },
    fun _ _ => rfl⟩

/-- There is enough space in the other direction, and the check says that there is not. -/
theorem not_softLimits_meanWhatWasSet :
    ¬ MeanWhatWasSet limitsZero.1 0 (-200000) 170000 := by
  intro h
  have hccw := h.counterclockwise
  revert hccw
  decide +kernel

end M30x

end Apt

end Foxtrot
