import Foxtrot.ColdVision.Settings
import Foxtrot.Foundation.TransitionSystem

/-!
# Settings of the ColdVision light source that read back

A setting reads back as long as no other one is in its registers. The trigger mode is in two
registers, of which the setter for triggered strobes leaves the one that the getter reads first. The
single channel is written to registers that its getter does not read, except for triggered strobes.
The combined trigger is the polarity of the digital input 0.

`settings_read_back_iff` says in which runs all settings read back.

The registers have an owner, the setting that writes them, so two settings disturb each other only
if one reads or writes what the other owns (`disturbs`). That leaves two pairs: the trigger mode may
disturb the single channel, and the combined trigger and the polarity of the digital input 0 are two
names of one register. For every other pair a setter changes nothing that the getter reads
(`shown_stored_of_ne`).

A run reads back as long as what the registers show is what was given (`readBack_iff`); one more
call keeps that exactly if its own setting is shown, and the one that it may disturb
(`readBack_after_iff`).
-/

namespace Foxtrot

namespace ColdVision

open Register

/-! ### Runs of setters -/

/-- The registers, and the value that was last given to each setter. -/
structure LightState where
  regs : Registers
  given : (k : Setting) → Option k.Value

/-- A call of a setter. -/
abbrev Call := (k : Setting) × k.Value

/-- The state after one more call. A call that throws has not been accepted. -/
def LightState.after (l : Light) (s : LightState) (call : Call) : LightState :=
  match (call.1.set l call.2).on s.regs with
  | (.ok _, regs) => ⟨regs, Function.update s.given call.1 (some call.2)⟩
  | (.error _, regs) => ⟨regs, s.given⟩

/-- The calls on a light source with these registers. -/
def settings (l : Light) (regs : Registers) : TransitionSystem LightState Call where
  init := ⟨regs, fun _ => none⟩
  step s call := some (s.after l call)

/-- **The settings read back**: every getter returns the value that its setter was given last. -/
def LightState.ReadBack (l : Light) (s : LightState) : Prop :=
  ∀ k value, s.given k = some value → (k.get l).on s.regs = (.ok value, s.regs)

/-- The trigger mode is not set to triggered strobes while the strobes are continuous, and the
register in which the single channel is looked for then has the value that was given last. -/
def ModeUndisturbing (regs : Registers) (given : Option Bool) : LedTriggerMode → Prop
  | .cw => ∀ onoff, given = some onoff → (regs "B" ≠ 0 ↔ onoff = true)
  | .continuousStrobe => given ≠ some false
  | .triggeredStrobe => regs "RM" = 0

/-- The register in which the single channel is looked for has the value, or is written. -/
def SingleChannelUndisturbing (regs : Registers) (onoff : Bool) : Prop :=
  if regs "RM" ≠ 0 then onoff = true else regs "PM" = 0 → (regs "B" ≠ 0 ↔ onoff = true)

/-- The call disturbs no setting: the trigger mode and the single channel are set where the
registers allow it, the two settings in the register of the digital input 0 agree, and the set point
of the fan is not below `-1`. -/
def Undisturbing (s : LightState) : Call → Prop
  | ⟨.triggerMode, mode⟩ => ModeUndisturbing s.regs (s.given .singleChannel) mode
  | ⟨.singleChannel, onoff⟩ => SingleChannelUndisturbing s.regs onoff
  | ⟨.plain .combinedTrigger, onoff⟩ => s.given (.plain (.dioActiveHigh 0)) ≠ some (!onoff)
  | ⟨.plain (.dioActiveHigh idx), onoff⟩ =>
    idx = 0 → s.given (.plain .combinedTrigger) ≠ some (!onoff)
  | ⟨.fanSpeedSetPoint, setpoint⟩ => (-1 : Int32) ≤ setpoint
  | _ => True

/-! ### Which registers belong to which setting -/

/-- The setting that a register belongs to. -/
def Register.owner (reg : Register) : Setting :=
  let idx := reg.idx.getD 0
  match reg.name with
  | "D" => .plain .demoMode
  | "J" => if idx = 0 then .plain .combinedTrigger else .plain (.dioActiveHigh idx)
  | "N" => .plain .knobMode
  | "L" => .plain (.onOff idx)
  | "i" => .plain (.powerLimit idx)
  | "rf" => .plain .continuousStrobeFrequency
  | "rp" => .plain (.continuousStrobeOffset idx)
  | "rd" => .plain (.continuousStrobeDutyCycle idx)
  | "rj" => .plain (.continuousStrobePolarity idx)
  | "pd" => .plain (.triggeredStrobeDelay idx)
  | "po" => .plain (.triggeredStrobeOnTime idx)
  | "pj" => .plain (.triggeredStrobeFallingEdge idx)
  | "E" => .plain .equalizer
  | "EI" => .plain .startUpEqualizerDelay
  | "EE" => .plain .equalizerTarget
  | "RM" | "PM" => .triggerMode
  | "B" | "b" | "PB" | "RB" => .singleChannel
  | _ => .fanSpeedSetPoint

namespace Setting

/-- The setting whose registers a setting is in. -/
def canonical (k : Setting) : Setting :=
  if k = .plain (.dioActiveHigh 0) then .plain .combinedTrigger else k

/-- The registers that the setter writes. -/
def writes : Setting → List Register
  | plain p => [p.field.register]
  | singleChannel => [b, rb, pb]
  | triggerMode => [pm, rm]
  | fanSpeedSetPoint => [ge, gs]

/-- The registers that the getter reads. -/
def reads : Setting → List Register
  | plain p => [p.field.register]
  | singleChannel => [rm, pm, .plain "B" wellFormed_cw, pb]
  | triggerMode => [pm, rm]
  | fanSpeedSetPoint => [ge, gs]

/-- Another setting that the setter may disturb. -/
def disturbs : Setting → Option Setting
  | triggerMode => some singleChannel
  | plain .combinedTrigger => some (plain (.dioActiveHigh 0))
  | plain (.dioActiveHigh idx) => if idx = 0 then some (plain .combinedTrigger) else none
  | _ => none

end Setting

section Frame

variable {regs regs' : Registers} {reg reg' : Register} {k k' : Setting}

private theorem owner_field (p : Plain) : p.field.register.owner = (Setting.plain p).canonical := by
  cases p with
  | dioActiveHigh idx =>
    have hcanonical : (Setting.plain (.dioActiveHigh idx)).canonical =
        if idx = 0 then .plain .combinedTrigger else .plain (.dioActiveHigh idx) := by
      simp only [Setting.canonical, Setting.plain.injEq, Plain.dioActiveHigh.injEq]
    rw [hcanonical]
    rfl
  | demoMode | combinedTrigger | knobMode | continuousStrobeFrequency | equalizer
  | startUpEqualizerDelay | equalizerTarget => rfl
  | onOff idx | powerLimit idx | continuousStrobeOffset idx | continuousStrobeDutyCycle idx
  | continuousStrobePolarity idx | triggeredStrobeDelay idx | triggeredStrobeOnTime idx
  | triggeredStrobeFallingEdge idx => rfl

/-- A setting writes registers of its own, or of the setting that it is another name of. -/
private theorem owner_of_writes : ∀ reg ∈ k.writes, reg.owner = k.canonical := by
  cases k with
  | plain p => exact List.forall_mem_singleton.mpr (owner_field p)
  | singleChannel | triggerMode | fanSpeedSetPoint => decide

/-- Only the getter of the single channel looks at a register of another setting. -/
private theorem owner_of_reads : ∀ reg ∈ k.reads,
    reg.owner = k.canonical ∨ k = .singleChannel ∧ reg.owner = .triggerMode := by
  cases k with
  | plain p => exact List.forall_mem_singleton.mpr (.inl (owner_field p))
  | singleChannel | triggerMode | fanSpeedSetPoint => decide

/-- Settings in the same registers are the same, or disturb each other. -/
theorem eq_or_disturbs_of_canonical (h : k.canonical = k'.canonical) :
    k' = k ∨ k.disturbs = some k' := by
  rw [Setting.canonical, Setting.canonical] at h
  by_cases hk : k = .plain (.dioActiveHigh 0)
  · by_cases hk' : k' = .plain (.dioActiveHigh 0)
    · exact .inl (hk'.trans hk.symm)
    · rw [if_pos hk, if_neg hk'] at h
      rw [hk, ← h]
      exact .inr rfl
  · by_cases hk' : k' = .plain (.dioActiveHigh 0)
    · rw [if_neg hk, if_pos hk'] at h
      rw [h, hk']
      exact .inr rfl
    · rw [if_neg hk, if_neg hk'] at h
      exact .inl h.symm

/-- A setter does not write what the getters of settings read that it does not disturb. -/
theorem notMem_reads (hne : k' ≠ k) (hdisturbs : k.disturbs ≠ some k') (h : reg ∈ k.writes) :
    reg ∉ k'.reads := by
  intro hreads
  have howner := owner_of_writes reg h
  obtain hsame | ⟨rfl, hmode⟩ := owner_of_reads reg hreads
  · obtain heq | heq := eq_or_disturbs_of_canonical (howner.symm.trans hsame)
    · exact hne heq
    · exact hdisturbs heq
  · rw [howner, Setting.canonical] at hmode
    by_cases hk : k = .plain (.dioActiveHigh 0)
    · rw [if_pos hk] at hmode
      cases hmode
    · rw [if_neg hk] at hmode
      rw [hmode] at hdisturbs
      exact hdisturbs rfl

/-- The value of a register is a matter of what is stored in it. -/
private theorem value_congr (h : regs reg.text = regs' reg.text) :
    regs.value reg = regs'.value reg :=
  congrArg (fun n : Fin (2 ^ 31) => ((n : ℕ) : ℤ)) h

/-- A register is stored without a change of another one. -/
private theorem store_of_ne (h : reg' ≠ reg) (n : ℕ) :
    (regs.store reg n) reg'.text = regs reg'.text :=
  Function.update_of_ne (fun htext => h (text_inj htext)) _ _

/-- The fan speed is stored without a change of another register. -/
private theorem storeFan_of_ne (hge : reg ≠ ge) (hgs : reg ≠ gs) (setpoint : Int32) :
    (regs.storeFan setpoint) reg.text = regs reg.text := by
  rw [Registers.storeFan]
  by_cases h : setpoint < 0
  · rw [if_pos h]
    exact store_of_ne hge _
  · rw [if_neg h]
    exact (store_of_ne hgs _).trans (store_of_ne hge _)

/-- A setter leaves the other registers. -/
theorem stored_of_notMem (h : reg ∉ k.writes) (value : k.Value) (regs : Registers) :
    (k.stored value regs) reg.text = regs reg.text := by
  have hne : ∀ reg' ∈ k.writes, reg ≠ reg' := fun reg' hreg' heq => h (heq ▸ hreg')
  cases k with
  | plain p => exact store_of_ne (hne _ (.head _)) _
  | singleChannel =>
    exact (store_of_ne (hne pb (.tail _ (.tail _ (.head _)))) _).trans
      ((store_of_ne (hne rb (.tail _ (.head _))) _).trans (store_of_ne (hne b (.head _)) _))
  | triggerMode =>
    have hpm := hne pm (.head _)
    have hrm := hne rm (.tail _ (.head _))
    cases value with
    | cw => exact (store_of_ne hrm _).trans (store_of_ne hpm _)
    | continuousStrobe => exact store_of_ne hrm _
    | triggeredStrobe => exact store_of_ne hpm _
  | fanSpeedSetPoint =>
    exact storeFan_of_ne (hne ge (.head _)) (hne gs (.tail _ (.head _))) value

private theorem mode_congr (hrm : regs.value rm = regs'.value rm)
    (hpm : regs.value pm = regs'.value pm) :
    LedTriggerMode.shown regs = LedTriggerMode.shown regs' := by
  rw [LedTriggerMode.shown, LedTriggerMode.shown, hrm, hpm]

/-- What a getter returns is in the registers that it reads. -/
theorem shown_congr (h : ∀ reg ∈ k.reads, regs reg.text = regs' reg.text) :
    k.shown regs = k.shown regs' := by
  have hvalue : ∀ reg ∈ k.reads, regs.value reg = regs'.value reg :=
    fun reg hreg => value_congr (h reg hreg)
  cases k with
  | plain p => exact congrArg p.field.decode (hvalue _ (.head _))
  | singleChannel =>
    have hrm := hvalue rm (.head _)
    have hmode := mode_congr hrm (hvalue pm (.tail _ (.head _)))
    change singleChannelShown regs = singleChannelShown regs'
    rw [singleChannelShown, singleChannelShown, ← hmode]
    cases LedTriggerMode.shown regs with
    | cw => exact congrArg toBool (hvalue _ (.tail _ (.tail _ (.head _))))
    | continuousStrobe => exact congrArg toBool hrm
    | triggeredStrobe => exact congrArg toBool (hvalue pb (.tail _ (.tail _ (.tail _ (.head _)))))
  | triggerMode => exact mode_congr (hvalue rm (.tail _ (.head _))) (hvalue pm (.head _))
  | fanSpeedSetPoint =>
    change fanShown regs = fanShown regs'
    rw [fanShown, fanShown, hvalue ge (.head _), hvalue gs (.tail _ (.head _))]

/-- A setter does not change what the getters of settings show that it does not disturb. -/
theorem shown_stored_of_ne (hne : k' ≠ k) (hdisturbs : k.disturbs ≠ some k') (value : k.Value) :
    k'.shown (k.stored value regs) = k'.shown regs := by
  refine shown_congr fun reg hreads => stored_of_notMem (fun hwrites => ?_) value regs
  exact notMem_reads hne hdisturbs hwrites hreads

end Frame

/-! ### What is shown after a value has been set

Whether a setter's value is shown at all: a plain number always, a trigger mode unless it is for
triggered strobes while the strobes are continuous, a fan speed unless it is below `-1`. -/

section Own

variable {regs : Registers} {reg reg' : Register} {n : ℕ}

/-- What is stored is the value of the register. -/
private theorem value_store_self (hn : n < 2 ^ 31) : (regs.store reg n).value reg = n := by
  have hself : (regs.store reg n) reg.text = Fin.ofNat (2 ^ 31) n := Function.update_self _ _ _
  rw [Registers.value, hself, Fin.val_ofNat, Nat.mod_eq_of_lt hn]

private theorem value_store_of_ne (h : reg' ≠ reg) (n : ℕ) :
    (regs.store reg n).value reg' = regs.value reg' :=
  value_congr (store_of_ne h n)

/-- A flag is set exactly if its register is not zero. -/
private theorem toBool_value_eq_true_iff {text : String} (h : reg.text = text) :
    toBool (regs.value reg) = true ↔ regs text ≠ 0 := by
  rw [toBool, decide_eq_true_eq, Registers.value, h, ne_eq, Int.natCast_eq_zero,
    Fin.val_eq_zero_iff]

/-- What a plain setting accepts fits in a register. -/
private theorem number_lt {p : Plain} {value : p.Value} (h : p.Accepts value) :
    p.field.number value < 2 ^ 31 := by
  cases p with
  | demoMode | combinedTrigger | dioActiveHigh _ | onOff _ | continuousStrobePolarity _
  | triggeredStrobeFallingEdge _ | equalizer => exact bool_lt value
  | knobMode => exact uint8_lt value
  | powerLimit _ | continuousStrobeOffset _ | continuousStrobeDutyCycle _
  | startUpEqualizerDelay | equalizerTarget => exact uint16_lt value
  | continuousStrobeFrequency | triggeredStrobeDelay _ | triggeredStrobeOnTime _ =>
    exact lt_of_le_of_lt h.2 (by decide)

/-- A number in one register is shown. -/
theorem shown_stored_plain {p : Plain} {value : p.Value} (h : p.Accepts value) :
    (Setting.plain p).shown ((Setting.plain p).stored value regs) = value := by
  have hvalue : (regs.store p.field.register (p.field.number value)).value p.field.register =
      p.field.number value := value_store_self (number_lt h)
  exact (congrArg p.field.decode hvalue).trans (p.field.decode_number value)

private theorem toBool_rm : toBool (regs.value rm) = true ↔ regs "RM" ≠ 0 :=
  toBool_value_eq_true_iff (by decide)

private theorem toBool_pm : toBool (regs.value pm) = true ↔ regs "PM" ≠ 0 :=
  toBool_value_eq_true_iff (by decide)

private theorem toBool_cw :
    toBool (regs.value LedTriggerMode.cw.singleChannel) = true ↔ regs "B" ≠ 0 :=
  toBool_value_eq_true_iff (by decide)

/-- A trigger mode is shown, except for triggered strobes while the strobes are continuous. -/
theorem shown_storeMode_iff (mode : LedTriggerMode) :
    LedTriggerMode.shown (regs.storeMode mode) = mode ↔
      (mode = .triggeredStrobe → regs "RM" = 0) := by
  unfold LedTriggerMode.shown
  cases mode with
  | cw =>
    have hrm : (regs.storeMode .cw).value rm = 0 := value_store_self (by decide)
    have hpm : (regs.storeMode .cw).value pm = 0 :=
      (value_store_of_ne (by decide) 0).trans (value_store_self (by decide))
    rw [hrm, hpm]
    exact iff_of_true rfl fun h => nomatch h
  | continuousStrobe =>
    have hrm : (regs.storeMode .continuousStrobe).value rm = 1 := value_store_self (by decide)
    rw [hrm]
    exact iff_of_true rfl fun h => nomatch h
  | triggeredStrobe =>
    have hrm : (regs.storeMode .triggeredStrobe).value rm = regs.value rm :=
      value_store_of_ne (by decide) 1
    have hpm : (regs.storeMode .triggeredStrobe).value pm = 1 := value_store_self (by decide)
    rw [hrm, hpm]
    -- `RM` is not written, so it hides the new mode if it is set
    by_cases h : toBool (regs.value rm) = true
    · rw [if_pos h]
      exact iff_of_false (fun hmode => nomatch hmode) fun hzero => toBool_rm.mp h (hzero rfl)
    · rw [if_neg h]
      exact iff_of_true rfl fun _ => not_not.mp fun hzero => h (toBool_rm.mpr hzero)

/-- Where a trigger mode has been set and is shown, the single channel is looked for in the register
of that mode. -/
theorem singleChannel_storeMode {mode : LedTriggerMode}
    (h : mode = .triggeredStrobe → regs "RM" = 0) :
    singleChannelShown (regs.storeMode mode) =
      toBool ((regs.storeMode mode).value mode.singleChannel) := by
  rw [singleChannelShown, (shown_storeMode_iff mode).mpr h]

/-- The single channel is shown as it was set, exactly if the trigger mode does not disturb it. -/
private theorem shown_storeSingleChannel_iff (onoff : Bool) :
    singleChannelShown (regs.storeSingleChannel onoff) = onoff ↔
      SingleChannelUndisturbing regs onoff := by
  have hother : ∀ reg, reg ≠ b → reg ≠ rb → reg ≠ pb →
      (regs.storeSingleChannel onoff).value reg = regs.value reg :=
    fun reg hb hrb hpb => (value_store_of_ne hpb _).trans
      ((value_store_of_ne hrb _).trans (value_store_of_ne hb _))
  have hrm := hother rm (by decide) (by decide) (by decide)
  have hmode : LedTriggerMode.shown (regs.storeSingleChannel onoff) = LedTriggerMode.shown regs :=
    mode_congr hrm (hother pm (by decide) (by decide) (by decide))
  rw [singleChannelShown, hmode, LedTriggerMode.shown, SingleChannelUndisturbing]
  -- which register shows the single channel is a matter of the trigger mode
  by_cases h : toBool (regs.value rm) = true
  · rw [if_pos h, if_pos (toBool_rm.mp h)]
    change toBool ((regs.storeSingleChannel onoff).value rm) = onoff ↔ _
    rw [hrm, h]
    exact eq_comm
  · rw [if_neg h, if_neg fun hne => h (toBool_rm.mpr hne)]
    by_cases h' : toBool (regs.value pm) = true
    · have hpb : (regs.storeSingleChannel onoff).value pb = onoff.toNat :=
        value_store_self (bool_lt onoff)
      rw [if_pos h']
      change toBool ((regs.storeSingleChannel onoff).value pb) = onoff ↔ _
      rw [hpb, toBool_toNat]
      exact iff_of_true rfl fun hzero => absurd hzero (toBool_pm.mp h')
    · -- neither strobe is on: `B` is read, but it is `b` that has been written
      have hzero : regs "PM" = 0 := not_not.mp fun hne => h' (toBool_pm.mpr hne)
      rw [if_neg h', forall_prop_of_true hzero, hother _ (by decide) (by decide) (by decide),
        Bool.eq_iff_iff, toBool_cw]

/-- The fan speed is shown as it was set, exactly if it was not below `-1`. -/
private theorem fanShown_storeFan_iff (setpoint : Int32) :
    fanShown (regs.storeFan setpoint) = setpoint ↔ -1 ≤ setpoint := by
  have hone : (-1 : Int32).toInt = -1 := by decide
  rw [Registers.storeFan, Int32.le_iff_toInt_le, hone]
  by_cases h : setpoint < 0
  · have hge : (regs.store ge 0).value ge = 0 := value_store_self (by decide)
    have hneg : setpoint.toInt < 0 := Int32.lt_iff_toInt_lt.mp h
    rw [if_pos h, fanShown, hge]
    change -1 = setpoint ↔ _
    rw [← Int32.toInt_inj, hone]
    omega
  · have hnonneg : 0 ≤ setpoint.toInt :=
      Int.not_lt.mp fun hneg => h (Int32.lt_iff_toInt_lt.mpr hneg)
    have hlt : setpoint.toInt.toNat < 2 ^ 31 := by
      have hint := setpoint.toInt_lt
      omega
    have hge : ((regs.store ge 1).store gs setpoint.toInt.toNat).value ge = 1 :=
      (value_store_of_ne (by decide) _).trans (value_store_self (by decide))
    have hgs : ((regs.store ge 1).store gs setpoint.toInt.toNat).value gs = setpoint.toInt :=
      (value_store_self hlt).trans (Int.toNat_of_nonneg hnonneg)
    rw [if_neg h, fanShown, hge, hgs, Int32.ofInt_toInt]
    exact iff_of_true rfl (by omega)

end Own

/-! ### Runs -/

section Runs

variable {l : Light} {regs : Registers} {s s' : LightState} {call : Call}

/-- What holds in every run: the setters have accepted what they were given, and the single channel
is in the register that is read for triggered strobes. -/
structure LightState.Sound (s : LightState) : Prop where
  accepts : ∀ k value, s.given k = some value → k.Accepts value
  pb : ∀ onoff, s.given .singleChannel = some onoff → s.regs.value pb = Bool.toNat onoff

private theorem after_of_accepts {k : Setting} {value : k.Value} (h : k.Accepts value) :
    s.after l ⟨k, value⟩ = ⟨k.stored value s.regs, Function.update s.given k (some value)⟩ := by
  rw [LightState.after, set_on h]

private theorem after_of_not_accepts {k : Setting} {value : k.Value} (h : ¬ k.Accepts value) :
    s.after l ⟨k, value⟩ = s := by
  obtain ⟨e, he⟩ := set_rejected (l := l) h s.regs
  rw [LightState.after, he]

private theorem step_settings : (settings l regs).step s call = some s' ↔ s' = s.after l call :=
  Option.some_inj.trans eq_comm

/-- What holds of the values given so far, and of one more. -/
theorem forall_given_update {given : (k : Setting) → Option k.Value} {k : Setting} {value : k.Value}
    {Q : (k : Setting) → k.Value → Prop} :
    (∀ k' value', Function.update given k (some value) k' = some value' → Q k' value') ↔
      Q k value ∧ ∀ k', k' ≠ k → ∀ value', given k' = some value' → Q k' value' := by
  rw [Function.forall_update_iff given fun k' o => ∀ value', o = some value' → Q k' value']
  refine and_congr_left fun _ => ⟨fun h => h value rfl, fun h value' heq => ?_⟩
  exact Option.some.inj heq ▸ h

private theorem pb_notMem_writes {k : Setting} (h : k ≠ .singleChannel) : pb ∉ k.writes := by
  intro hmem
  have howner : pb.owner = .singleChannel := by decide
  have hcanonical := howner.symm.trans (owner_of_writes pb hmem)
  rw [Setting.canonical] at hcanonical
  by_cases hk : k = .plain (.dioActiveHigh 0)
  · rw [if_pos hk] at hcanonical
    cases hcanonical
  · rw [if_neg hk] at hcanonical
    exact h hcanonical.symm

/-- A call keeps what is stored in accord with what has been given. -/
private theorem sound_after (hs : s.Sound) (call : Call) : (s.after l call).Sound := by
  obtain ⟨k, value⟩ := call
  by_cases h : k.Accepts value
  · rw [after_of_accepts h]
    refine ⟨(forall_given_update (Q := fun k value => k.Accepts value)).mpr
      ⟨h, fun k' _ => hs.accepts k'⟩, fun onoff hgiven => ?_⟩
    change Function.update s.given k (some value) .singleChannel = some onoff at hgiven
    by_cases hk : k = .singleChannel
    · subst hk
      rw [Function.update_self] at hgiven
      obtain rfl := Option.some.inj hgiven
      exact value_store_self (bool_lt value)
    · rw [Function.update_of_ne (Ne.symm hk)] at hgiven
      have hpb : (k.stored value s.regs).value pb = s.regs.value pb :=
        value_congr (stored_of_notMem (pb_notMem_writes hk) value s.regs)
      exact hpb.trans (hs.pb onoff hgiven)
  · rwa [after_of_not_accepts h]

/-- What is stored is in accord with what has been given, in every run. -/
private theorem sound_of_reachable (h : (settings l regs).Reachable s) : s.Sound := by
  refine h.invariant ⟨fun _ _ hgiven => (nomatch hgiven), fun _ hgiven => (nomatch hgiven)⟩ ?_
  rintro s call s' - ih - hstep
  obtain rfl := step_settings.mp hstep
  exact sound_after ih call

/-- The settings read back exactly if the registers show them. -/
theorem readBack_iff (hs : s.Sound) :
    s.ReadBack l ↔ ∀ k value, s.given k = some value → k.shown s.regs = value := by
  refine forall_congr' fun k => forall_congr' fun value => forall_congr' fun hgiven => ?_
  rw [get_on (hs.accepts k value hgiven)]
  simp

private theorem ne_of_disturbs {k k' : Setting} (h : k.disturbs = some k') : k' ≠ k := by
  rintro rfl
  cases k' with
  | plain p =>
    cases p with
    | dioActiveHigh idx =>
      rw [Setting.disturbs] at h
      split at h <;> cases h
    | _ => cases h
  | singleChannel | triggerMode | fanSpeedSetPoint => cases h

/-- What holds of the setting that is disturbed. -/
theorem forall_disturbed {k k' : Setting} (h : k.disturbs = some k') {Q : Setting → Prop} :
    (∀ k', k.disturbs = some k' → Q k') ↔ Q k' :=
  ⟨fun hQ => hQ k' h, fun hQ _ hk => Option.some.inj (h.symm.trans hk) ▸ hQ⟩

private theorem ne_some_not_iff {given : Option Bool} {onoff : Bool} :
    given ≠ some (!onoff) ↔ ∀ onoff', given = some onoff' → onoff = onoff' := by
  cases given with
  | none => exact iff_of_true (fun h => nomatch h) fun _ h => nomatch h
  | some given => cases given <;> cases onoff <;> decide

/-- A trigger mode disturbs nothing exactly if it is shown, and so is the single channel. -/
theorem modeUndisturbing_iff {given : Option Bool}
    (hpb : ∀ onoff, given = some onoff → regs.value pb = onoff.toNat) (mode : LedTriggerMode) :
    ModeUndisturbing regs given mode ↔ LedTriggerMode.shown (regs.storeMode mode) = mode ∧
      ∀ onoff, given = some onoff → singleChannelShown (regs.storeMode mode) = onoff := by
  rw [shown_storeMode_iff]
  cases mode with
  | cw =>
    have hcw : (regs.storeMode .cw).value LedTriggerMode.cw.singleChannel =
        regs.value LedTriggerMode.cw.singleChannel :=
      (value_store_of_ne (by decide) 0).trans (value_store_of_ne (by decide) 0)
    have hmode : LedTriggerMode.cw = .triggeredStrobe → regs "RM" = 0 := fun h => nomatch h
    rw [and_iff_right hmode, singleChannel_storeMode hmode, hcw]
    refine forall_congr' fun onoff => forall_congr' fun _ => ?_
    rw [← toBool_cw, ← Bool.eq_iff_iff]
  | continuousStrobe =>
    have hrm : (regs.storeMode .continuousStrobe).value rm = 1 := value_store_self (by decide)
    have hmode : LedTriggerMode.continuousStrobe = .triggeredStrobe → regs "RM" = 0 :=
      fun h => nomatch h
    rw [and_iff_right hmode, singleChannel_storeMode hmode, LedTriggerMode.singleChannel, hrm]
    exact @ne_some_not_iff given true
  | triggeredStrobe =>
    refine ⟨fun hzero => ⟨fun _ => hzero, fun onoff hgiven => ?_⟩, fun h => h.1 rfl⟩
    -- the single channel is shown by `PB`, which its setter has written as well
    have hother : (regs.storeMode .triggeredStrobe).value pb = regs.value pb :=
      value_store_of_ne (by decide) 1
    rw [singleChannel_storeMode fun _ => hzero, LedTriggerMode.singleChannel, hother,
      hpb onoff hgiven, toBool_toNat]

/-- A call disturbs no setting exactly if it is shown, and so is the one that it may disturb. -/
theorem undisturbing_iff (hs : s.Sound) {k : Setting} {value : k.Value} (h : k.Accepts value) :
    Undisturbing s ⟨k, value⟩ ↔ k.shown (k.stored value s.regs) = value ∧
      ∀ k', k.disturbs = some k' → ∀ value', s.given k' = some value' →
        k'.shown (k.stored value s.regs) = value' := by
  cases k with
  | plain p =>
    have hown : (Setting.plain p).shown ((Setting.plain p).stored value s.regs) = value :=
      shown_stored_plain h
    rw [and_iff_right hown]
    cases p with
    | combinedTrigger =>
      rw [forall_disturbed rfl]
      -- The other setting in the register shows the same.
      have hother : (Setting.plain (.dioActiveHigh 0)).shown
          ((Setting.plain .combinedTrigger).stored value s.regs) = value := hown
      rw [hother]
      exact ne_some_not_iff
    | dioActiveHigh idx =>
      by_cases hidx : idx = 0
      · subst hidx
        have hother : (Setting.plain .combinedTrigger).shown
            ((Setting.plain (.dioActiveHigh 0)).stored value s.regs) = value := hown
        rw [forall_disturbed rfl, hother]
        exact (forall_prop_of_true rfl).trans ne_some_not_iff
      · refine iff_of_true (fun h => absurd h hidx) fun k' hk' => ?_
        rw [Setting.disturbs, if_neg hidx] at hk'
        cases hk'
    | _ => exact iff_of_true trivial fun k' hk' => nomatch hk'
  | singleChannel =>
    rw [and_iff_left fun k' hk' => nomatch hk']
    exact (shown_storeSingleChannel_iff value).symm
  | triggerMode =>
    rw [forall_disturbed rfl]
    exact modeUndisturbing_iff hs.pb value
  | fanSpeedSetPoint =>
    rw [and_iff_left fun k' hk' => nomatch hk']
    exact (fanShown_storeFan_iff value).symm

/-- A call that is not accepted disturbs nothing. -/
theorem undisturbing_of_not_accepts {k : Setting} {value : k.Value} (h : ¬ k.Accepts value) :
    Undisturbing s ⟨k, value⟩ := by
  cases k with
  | plain p =>
    cases p with
    | combinedTrigger | dioActiveHigh _ => exact absurd trivial h
    | _ => trivial
  | singleChannel | triggerMode | fanSpeedSetPoint => exact absurd trivial h

/-- Settings that read back do so after another call exactly if it disturbs none of them. -/
theorem readBack_after_iff (hs : s.Sound) (hread : s.ReadBack l) (call : Call) :
    (s.after l call).ReadBack l ↔ Undisturbing s call := by
  obtain ⟨k, value⟩ := call
  by_cases h : k.Accepts value
  · have hshown := (readBack_iff hs).mp hread
    rw [readBack_iff (sound_after hs ⟨k, value⟩), after_of_accepts h, undisturbing_iff hs h]
    refine (forall_given_update (Q := fun k' value' =>
      k'.shown (k.stored value s.regs) = value')).trans (and_congr_right fun _ => ?_)
    constructor
    · intro hall k' hdisturbs
      exact hall k' (ne_of_disturbs hdisturbs)
    · intro hdisturbed k' hne value' hgiven
      by_cases hdisturbs : k.disturbs = some k'
      · exact hdisturbed k' hdisturbs value' hgiven
      · rw [shown_stored_of_ne hne hdisturbs]
        exact hshown k' value' hgiven
  · rw [after_of_not_accepts h]
    exact iff_of_true hread (undisturbing_of_not_accepts h)

/-- **The settings read back** in every state of a run exactly if every call of it disturbs none. -/
theorem settings_read_back_iff (l : Light) (regs : Registers) (calls : List Call) :
    (∀ earlier s, earlier <+: calls →
        (settings l regs).run (settings l regs).init earlier = some s → s.ReadBack l) ↔
      (settings l regs).Guarded Undisturbing (settings l regs).init calls := by
  have hstep : ∀ s call, ∃ s', (settings l regs).step s call = some s' :=
    fun s call => ⟨s.after l call, rfl⟩
  obtain ⟨s, hrun⟩ := TransitionSystem.exists_run hstep calls (settings l regs).init
  refine TransitionSystem.forall_prefix_iff_guarded (fun k value hgiven => (nomatch hgiven))
    (fun s call s' hs hread hstep => ?_) hrun
  obtain rfl := step_settings.mp hstep
  exact readBack_after_iff (sound_of_reachable hs) hread call

end Runs

/-- A light source that prints no zeros in front. -/
def plainLight : Light where
  decimal := Nat.toDigits 10
  hexadecimal := Nat.toDigits 16
  readNat_decimal := Decimal.readNat_toDigits
  readNat_hexadecimal := Hexadecimal.readNat_toDigits

/-- Triggered strobes that have been set after continuous ones are not shown. -/
theorem continuous_strobes_stay : ∃ s,
    (settings plainLight fun _ => 0).run (settings plainLight fun _ => 0).init
        [⟨.triggerMode, .continuousStrobe⟩, ⟨.triggerMode, .triggeredStrobe⟩] = some s ∧
      s.given .triggerMode = some .triggeredStrobe ∧
      ((Setting.triggerMode.get plainLight).on s.regs).1 = .ok .continuousStrobe ∧
      ¬ s.ReadBack plainLight := by
  have hmode : ∀ (s : LightState) (mode : LedTriggerMode), s.after plainLight ⟨.triggerMode, mode⟩ =
      ⟨s.regs.storeMode mode, Function.update s.given .triggerMode (some mode)⟩ :=
    fun s mode => after_of_accepts (k := .triggerMode) trivial
  have hget : ∀ regs, (Setting.triggerMode.get plainLight).on regs =
      (.ok (LedTriggerMode.shown regs), regs) := fun regs => getTriggerMode_on
  let s : LightState := ((settings plainLight fun _ => 0).init.after plainLight
    ⟨.triggerMode, .continuousStrobe⟩).after plainLight ⟨.triggerMode, .triggeredStrobe⟩
  have hgiven : s.given .triggerMode = some .triggeredStrobe := by
    change (LightState.after _ _ _).given _ = _
    rw [hmode]
    rfl
  -- `RM` is asked for first, and the second call leaves it
  have hshown : LedTriggerMode.shown s.regs = .continuousStrobe := by
    change LedTriggerMode.shown (LightState.after _ _ _).regs = _
    rw [hmode, hmode]
    decide
  refine ⟨s, rfl, hgiven, ?_, fun hread => ?_⟩
  · rw [hget, hshown]
  · have hread := hread .triggerMode _ hgiven
    rw [hget, hshown] at hread
    cases hread

end ColdVision

end Foxtrot
