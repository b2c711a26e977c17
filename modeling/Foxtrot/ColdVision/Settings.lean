import Foxtrot.ColdVision.Commands

/-!
# Settings of the ColdVision light source

Each setting (`devices/coldvision-ls/coldvision_ls.cpp`) has a setter and a getter. Most of them are
a number in one register (`Plain`). The trigger mode, the single channel and the set point of the
fan are in several.

What a setter stores (`Setting.stored`) and what a getter shows (`Setting.shown`) are functions on
the registers (`set_on`, `get_on`). A value that is not accepted is rejected before anything is
stored (`set_rejected`).

The plain settings differ in the register, the range of the index and the numbers that a value is
written as (`Field`), so there is one lemma for all of their setters and one for all getters. The
others are sequences of commands to several registers, each of which stores its own, and the lemmas
say what all of them have stored together.
-/

namespace Foxtrot

namespace ColdVision

open Text

/-- `LEDTriggerMode`. -/
inductive LedTriggerMode where
  | cw
  | continuousStrobe
  | triggeredStrobe
  deriving DecidableEq

/-! ### Numbers -/

def toBool (n : ℤ) : Bool := n ≠ 0

section Operations

variable (l : Light)

/-- `std::stoi` of an answer. -/
def queryNumber (request : String) : ColdM ℤ := do
  match stoi (← queryCmd l request) with
  | .error e => throw (thrownByNumber "stoi" e)
  | .ok n => return n

/-- `std::stoi` of an answer, with the base 16. -/
def queryHexNumber (request : String) : ColdM ℤ := do
  match stoiHex (← queryCmd l request) with
  | .error e => throw (thrownByNumber "stoi" e)
  | .ok n => return n

/-- The getter of a setting that is a number in one register. -/
def getValue {A : Type} (decode : ℤ → A) (request : String) : ColdM A := do
  return decode (← queryNumber l request)

/-- The same for a register with an index. -/
def getIndexed {A : Type} (decode : ℤ → A) (command : String) (idx : UInt8) : ColdM A :=
  getValue l decode (twoParameterCommandHelper command idx ['?'])

/-- The same for the index of a channel. -/
def getChannel {A : Type} (decode : ℤ → A) (command : String) (idx : UInt8) : ColdM A := do
  checkIdx idx
  getIndexed l decode command idx

/-- The setter of a setting that is a number in one register with an index. -/
def setIndexed (command : String) (idx : UInt8) (value : ℕ) : ColdM Unit := do
  let _ ← cmd l (twoParameterCommandHelper command idx (streamed value false))

/-- The same for the index of a channel. -/
def setChannel (command : String) (idx : UInt8) (value : ℕ) : ColdM Unit := do
  checkIdx idx
  setIndexed l command idx value

/-- The same for a value that is limited. -/
def setLimited (command : String) (idx : UInt8) (value limit : ℕ) (what : String) : ColdM Unit := do
  checkIdx idx
  if limit < value then
    throw (.deviceError what)
  setIndexed l command idx value

/-! ### The setters and getters -/

/-- `get_demoMode`. -/
def getDemoMode : ColdM Bool := getValue l toBool "&D?\r"

/-- `set_demoMode`. -/
def setDemoMode (onoff : Bool) : ColdM Unit := setHelper l "&D" onoff.toNat false

/-- `get_combinedTrigger`. -/
def getCombinedTrigger : ColdM Bool := getValue l toBool "&J0,?\r"

/-- `set_combinedTrigger`. -/
def setCombinedTrigger (onoff : Bool) : ColdM Unit := setHelper l "&J0," onoff.toNat false

/-- `get_knobMode`. -/
def getKnobMode : ColdM UInt8 := getValue l UInt8.ofInt "&N?\r"

/-- `set_knobMode`. -/
def setKnobMode (mode : UInt8) : ColdM Unit := setHelper l "&N" mode.toNat false

/-- `get_DIOActiveHigh`. -/
def getDioActiveHigh (idx : UInt8) : ColdM Bool := getIndexed l toBool "&J" idx

/-- `set_DIOActiveHigh`. -/
def setDioActiveHigh (idx : UInt8) (onoff : Bool) : ColdM Unit := setIndexed l "&J" idx onoff.toNat

/-- `get_onOff`. -/
def getOnOff (idx : UInt8) : ColdM Bool := getIndexed l toBool "&L" idx

/-- `set_onOff`. -/
def setOnOff (idx : UInt8) (onoff : Bool) : ColdM Unit := setIndexed l "&L" idx onoff.toNat

/-- `get_powerLimit`. -/
def getPowerLimit (idx : UInt8) : ColdM UInt16 := getIndexed l UInt16.ofInt "&i" idx

/-- `set_powerLimit`. -/
def setPowerLimit (idx : UInt8) (power : UInt16) : ColdM Unit := setIndexed l "&i" idx power.toNat

/-- `get_triggerMode`. -/
def getTriggerMode : ColdM LedTriggerMode := do
  if toBool (← queryNumber l "&RM?\r") then
    return .continuousStrobe
  if toBool (← queryNumber l "&PM?\r") then
    return .triggeredStrobe
  return .cw

/-- `set_triggerMode`. -/
def setTriggerMode : LedTriggerMode → ColdM Unit
  | .cw => do
    let _ ← cmd l "&PM0\r"
    let _ ← cmd l "&RM0\r"
  | .continuousStrobe => do
    let _ ← cmd l "&RM1\r"
  | .triggeredStrobe => do
    let _ ← cmd l "&PM1\r"

/-- `get_singleChannel`. -/
def getSingleChannel : ColdM Bool := do
  match ← getTriggerMode l with
  | .cw => getValue l toBool "&B?\r"
  | .triggeredStrobe => getValue l toBool "&PB?\r"
  | .continuousStrobe => getValue l toBool "&RM?\r"

/-- `set_singleChannel`. -/
def setSingleChannel (onoff : Bool) : ColdM Unit := do
  setHelper l "&b" onoff.toNat false
  setHelper l "&RB" onoff.toNat false
  setHelper l "&PB" onoff.toNat false

/-- `get_continuousStrobeFrequency`. -/
def getContinuousStrobeFrequency : ColdM UInt32 := getValue l UInt32.ofInt "&rf?\r"

/-- `set_continuousStrobeFrequency`. -/
def setContinuousStrobeFrequency (freq : UInt32) : ColdM Unit := do
  if freq < 6 ∨ 20000 < freq then
    throw (.deviceError "out of bounds frequency specified (6-20000 allowed")
  setHelper l "&rf" freq.toNat false

/-- `get_continuousStrobeOffset`. -/
def getContinuousStrobeOffset (idx : UInt8) : ColdM UInt16 := getChannel l UInt16.ofInt "&rp" idx

/-- `set_continuousStrobeOffset`. -/
def setContinuousStrobeOffset (idx : UInt8) (offset : UInt16) : ColdM Unit :=
  setChannel l "&rp" idx offset.toNat

/-- `get_continuousStrobeDutyCycle`. -/
def getContinuousStrobeDutyCycle (idx : UInt8) : ColdM UInt16 :=
  getChannel l UInt16.ofInt "&rd" idx

/-- `set_continuousStrobeDutyCycle`. -/
def setContinuousStrobeDutyCycle (idx : UInt8) (offset : UInt16) : ColdM Unit :=
  setLimited l "&rd" idx offset.toNat 1000 "invalid duty cycle, must be <= 1000"

/-- `get_continuousStrobePolarity`. -/
def getContinuousStrobePolarity (idx : UInt8) : ColdM Bool := getChannel l toBool "&rj" idx

/-- `set_continuousStrobePolarity`. -/
def setContinuousStrobePolarity (idx : UInt8) (onoff : Bool) : ColdM Unit :=
  setChannel l "&rj" idx onoff.toNat

/-- `get_triggeredStrobeDelay`. -/
def getTriggeredStrobeDelay (idx : UInt8) : ColdM UInt32 := getChannel l UInt32.ofInt "&pd" idx

/-- `set_triggeredStrobeDelay`. -/
def setTriggeredStrobeDelay (idx : UInt8) (delayUs : UInt32) : ColdM Unit :=
  setLimited l "&pd" idx delayUs.toNat 1000000
    "invalid triggered strobe delay, must be <1000000 us"

/-- `get_triggeredStrobeOnTime`. -/
def getTriggeredStrobeOnTime (idx : UInt8) : ColdM UInt32 := getChannel l UInt32.ofInt "&po" idx

/-- `set_triggeredStrobeOnTime`. -/
def setTriggeredStrobeOnTime (idx : UInt8) (ontimeUs : UInt32) : ColdM Unit :=
  setLimited l "&po" idx ontimeUs.toNat 1000000 "invalid strobe on time, must be <1000000 us"

/-- `get_triggeredStrobeFallingEdge`. -/
def getTriggeredStrobeFallingEdge (idx : UInt8) : ColdM Bool := getChannel l toBool "&pj" idx

/-- `set_triggeredStrobeFallingEdge`. -/
def setTriggeredStrobeFallingEdge (idx : UInt8) (onoff : Bool) : ColdM Unit :=
  setChannel l "&pj" idx onoff.toNat

/-- `get_equalizer`. -/
def getEqualizer : ColdM Bool := getValue l toBool "&E?\r"

/-- `set_equalizer`. -/
def setEqualizer (onoff : Bool) : ColdM Unit := setHelper l "&E" onoff.toNat false

/-- `get_startUpEqualizerDelay`. -/
def getStartUpEqualizerDelay : ColdM UInt16 := getValue l UInt16.ofInt "&EI?\r"

/-- `set_startUpEqualizerDelay`. -/
def setStartUpEqualizerDelay (delay : UInt16) : ColdM Unit := setHelper l "&EI" delay.toNat false

/-- `get_equalizerTarget`. -/
def getEqualizerTarget : ColdM UInt16 := do
  return UInt16.ofInt (← queryHexNumber l "&EE?\r")

/-- `set_equalizerTarget`. -/
def setEqualizerTarget (target : UInt16) : ColdM Unit := do
  if 4095 < target then
    throw (.deviceError "invalid light target (allowed 0 - 4095)")
  setHelper l "&EE" target.toNat true

/-- `get_fanSpeedSetPoint`. -/
def getFanSpeedSetPoint : ColdM Int32 := do
  if toBool (← queryNumber l "&ge?\r") then
    getValue l Int32.ofInt "&gs?\r"
  else
    return -1

/-- `set_fanSpeedSetPoint`. -/
def setFanSpeedSetPoint (setpoint : Int32) : ColdM Unit := do
  if setpoint < 0 then
    setHelper l "&ge" 0 false
  else do
    setHelper l "&ge" 1 false
    setHelper l "&gs" setpoint.toInt.toNat false

end Operations

/-! ### The settings -/

/-- A setting that is a number in one register. -/
inductive Plain where
  | demoMode
  | combinedTrigger
  | knobMode
  | dioActiveHigh (idx : UInt8)
  | onOff (idx : UInt8)
  | powerLimit (idx : UInt8)
  | continuousStrobeFrequency
  | continuousStrobeOffset (idx : UInt8)
  | continuousStrobeDutyCycle (idx : UInt8)
  | continuousStrobePolarity (idx : UInt8)
  | triggeredStrobeDelay (idx : UInt8)
  | triggeredStrobeOnTime (idx : UInt8)
  | triggeredStrobeFallingEdge (idx : UInt8)
  | equalizer
  | startUpEqualizerDelay
  | equalizerTarget
  deriving DecidableEq

/-- What can be set. -/
inductive Setting where
  | plain (p : Plain)
  | singleChannel
  | triggerMode
  | fanSpeedSetPoint
  deriving DecidableEq

namespace Plain

/-- The type of the values of a setting. -/
def Value : Plain → Type
  | demoMode | combinedTrigger | dioActiveHigh _ | onOff _ | continuousStrobePolarity _
  | triggeredStrobeFallingEdge _ | equalizer => Bool
  | knobMode => UInt8
  | powerLimit _ | continuousStrobeOffset _ | continuousStrobeDutyCycle _
  | startUpEqualizerDelay | equalizerTarget => UInt16
  | continuousStrobeFrequency | triggeredStrobeDelay _ | triggeredStrobeOnTime _ => UInt32

/-- The getter of a setting. -/
def get (l : Light) : (p : Plain) → ColdM p.Value
  | demoMode => getDemoMode l
  | combinedTrigger => getCombinedTrigger l
  | knobMode => getKnobMode l
  | dioActiveHigh idx => getDioActiveHigh l idx
  | onOff idx => getOnOff l idx
  | powerLimit idx => getPowerLimit l idx
  | continuousStrobeFrequency => getContinuousStrobeFrequency l
  | continuousStrobeOffset idx => getContinuousStrobeOffset l idx
  | continuousStrobeDutyCycle idx => getContinuousStrobeDutyCycle l idx
  | continuousStrobePolarity idx => getContinuousStrobePolarity l idx
  | triggeredStrobeDelay idx => getTriggeredStrobeDelay l idx
  | triggeredStrobeOnTime idx => getTriggeredStrobeOnTime l idx
  | triggeredStrobeFallingEdge idx => getTriggeredStrobeFallingEdge l idx
  | equalizer => getEqualizer l
  | startUpEqualizerDelay => getStartUpEqualizerDelay l
  | equalizerTarget => getEqualizerTarget l

/-- The setter of a setting. -/
def set (l : Light) : (p : Plain) → p.Value → ColdM Unit
  | demoMode => setDemoMode l
  | combinedTrigger => setCombinedTrigger l
  | knobMode => setKnobMode l
  | dioActiveHigh idx => setDioActiveHigh l idx
  | onOff idx => setOnOff l idx
  | powerLimit idx => setPowerLimit l idx
  | continuousStrobeFrequency => setContinuousStrobeFrequency l
  | continuousStrobeOffset idx => setContinuousStrobeOffset l idx
  | continuousStrobeDutyCycle idx => setContinuousStrobeDutyCycle l idx
  | continuousStrobePolarity idx => setContinuousStrobePolarity l idx
  | triggeredStrobeDelay idx => setTriggeredStrobeDelay l idx
  | triggeredStrobeOnTime idx => setTriggeredStrobeOnTime l idx
  | triggeredStrobeFallingEdge idx => setTriggeredStrobeFallingEdge l idx
  | equalizer => setEqualizer l
  | startUpEqualizerDelay => setStartUpEqualizerDelay l
  | equalizerTarget => setEqualizerTarget l

end Plain

namespace Setting

/-- The type of the values of a setting. -/
def Value : Setting → Type
  | plain p => p.Value
  | singleChannel => Bool
  | triggerMode => LedTriggerMode
  | fanSpeedSetPoint => Int32

/-- The getter of a setting. -/
def get (l : Light) : (k : Setting) → ColdM k.Value
  | plain p => p.get l
  | singleChannel => getSingleChannel l
  | triggerMode => getTriggerMode l
  | fanSpeedSetPoint => getFanSpeedSetPoint l

/-- The setter of a setting. -/
def set (l : Light) : (k : Setting) → k.Value → ColdM Unit
  | plain p => p.set l
  | singleChannel => setSingleChannel l
  | triggerMode => setTriggerMode l
  | fanSpeedSetPoint => setFanSpeedSetPoint l

end Setting

/-! ### Numbers in registers -/

/-- A number in a register, and the values that it stands for. -/
structure Field (A : Type) where
  register : Register
  number : A → ℕ
  decode : ℤ → A
  decode_number : ∀ a, decode (number a) = a

/-- A flag is read back from its number. -/
theorem toBool_toNat (onoff : Bool) : toBool onoff.toNat = onoff := by
  cases onoff <;> rfl

private theorem ofInt_toNat8 (x : UInt8) : UInt8.ofInt x.toNat = x := by
  have hmod : ((x.toNat : ℤ) % 2 ^ 8).toNat = x.toNat := by
    have hlt := x.toNat_lt
    omega
  rw [UInt8.ofInt, hmod, UInt8.ofNat_toNat]

private theorem ofInt_toNat16 (x : UInt16) : UInt16.ofInt x.toNat = x := by
  have hmod : ((x.toNat : ℤ) % 2 ^ 16).toNat = x.toNat := by
    have hlt := x.toNat_lt
    omega
  rw [UInt16.ofInt, hmod, UInt16.ofNat_toNat]

private theorem ofInt_toNat32 (x : UInt32) : UInt32.ofInt x.toNat = x := by
  have hmod : ((x.toNat : ℤ) % 2 ^ 32).toNat = x.toNat := by
    have hlt := x.toNat_lt
    omega
  rw [UInt32.ofInt, hmod, UInt32.ofNat_toNat]

namespace Field

def bool (register : Register) : Field Bool := ⟨register, Bool.toNat, toBool, toBool_toNat⟩

def uint8 (register : Register) : Field UInt8 := ⟨register, UInt8.toNat, UInt8.ofInt, ofInt_toNat8⟩

def uint16 (register : Register) : Field UInt16 :=
  ⟨register, UInt16.toNat, UInt16.ofInt, ofInt_toNat16⟩

def uint32 (register : Register) : Field UInt32 :=
  ⟨register, UInt32.toNat, UInt32.ofInt, ofInt_toNat32⟩

end Field

/-- The register of a setting, and the numbers in it. -/
def Plain.field : (p : Plain) → Field p.Value
  | demoMode => .bool (.plain "D" (by decide))
  | combinedTrigger => .bool (.indexed "J" (by decide) 0)
  | knobMode => .uint8 (.plain "N" (by decide))
  | dioActiveHigh idx => .bool (.indexed "J" (by decide) idx)
  | onOff idx => .bool (.indexed "L" (by decide) idx)
  | powerLimit idx => .uint16 (.indexed "i" (by decide) idx)
  | continuousStrobeFrequency => .uint32 (.plain "rf" (by decide))
  | continuousStrobeOffset idx => .uint16 (.indexed "rp" (by decide) idx)
  | continuousStrobeDutyCycle idx => .uint16 (.indexed "rd" (by decide) idx)
  | continuousStrobePolarity idx => .bool (.indexed "rj" (by decide) idx)
  | triggeredStrobeDelay idx => .uint32 (.indexed "pd" (by decide) idx)
  | triggeredStrobeOnTime idx => .uint32 (.indexed "po" (by decide) idx)
  | triggeredStrobeFallingEdge idx => .bool (.indexed "pj" (by decide) idx)
  | equalizer => .bool (.plain "E" (by decide))
  | startUpEqualizerDelay => .uint16 (.plain "EI" (by decide))
  | equalizerTarget => .uint16 (.plain "EE" (by decide))

/-- The index of a channel. -/
def Channel (idx : UInt8) : Prop := 1 ≤ idx ∧ idx ≤ 4

/-- The setter accepts the value. -/
def Plain.Accepts : (p : Plain) → p.Value → Prop
  | continuousStrobeFrequency, freq => 6 ≤ UInt32.toNat freq ∧ UInt32.toNat freq ≤ 20000
  | continuousStrobeOffset idx, _ | continuousStrobePolarity idx, _
  | triggeredStrobeFallingEdge idx, _ => Channel idx
  | continuousStrobeDutyCycle idx, offset => Channel idx ∧ UInt16.toNat offset ≤ 1000
  | triggeredStrobeDelay idx, time | triggeredStrobeOnTime idx, time =>
    Channel idx ∧ UInt32.toNat time ≤ 1000000
  | equalizerTarget, target => UInt16.toNat target ≤ 4095
  | _, _ => True

/-! ### What the getters and setters of one register do -/

section Plain

variable {l : Light} {regs : Registers} {idx : UInt8}

/-- What is in a register. -/
def Registers.value (regs : Registers) (reg : Register) : ℤ := (regs reg.text : ℕ)

/-- The registers after one of them has been set. -/
def Registers.store (regs : Registers) (reg : Register) (n : ℕ) : Registers :=
  Function.update regs reg.text (Fin.ofNat (2 ^ 31) n)

private theorem store_eq (reg : Register) {n : ℕ} (hn : n < 2 ^ 31) :
    regs.store reg n = Function.update regs reg.text ⟨n, hn⟩ :=
  congrArg (Function.update regs reg.text) (Fin.ext (Nat.mod_eq_of_lt hn))

private theorem text_ne (reg : Register) (h : reg.name ≠ "EE") : reg.text ≠ "EE" := by
  intro htext
  have hreg : reg = .plain "EE" (by decide) := text_inj htext
  rw [hreg] at h
  exact h rfl

/-- A query for a register other than `EE` returns its value. -/
private theorem queryNumber_on (reg : Register) (hname : reg.name ≠ "EE") {request : String}
    (hrequest : request.toList = '&' :: (reg.text.toList ++ ['?', '\r'])) :
    (queryNumber l request).on regs = (.ok (regs.value reg), regs) := by
  rw [queryNumber, Stateful.on_bind_of_ok (queryCmd_on reg hrequest),
    stoi_print (text_ne reg hname)]
  rfl

/-- A setting command stores its value. -/
theorem setHelper_store (reg : Register) {command : String} {n : ℕ} {hex : Bool} (hn : n < 2 ^ 31)
    (hhex : hex = true ↔ reg.name = "EE") (hcommand : command.toList = '&' :: reg.text.toList) :
    (setHelper l command n hex).on regs = (.ok (), regs.store reg n) := by
  rw [store_eq reg hn]
  exact setHelper_on reg hn hhex hcommand

section Value

variable {A : Type} (decode : ℤ → A)

/-- A getter of a register other than `EE` returns the decoded value. -/
private theorem getValue_on (reg : Register) (hname : reg.name ≠ "EE") {request : String}
    (hrequest : request.toList = '&' :: (reg.text.toList ++ ['?', '\r'])) :
    (getValue l decode request).on regs = (.ok (decode (regs.value reg)), regs) := by
  rw [getValue, Stateful.on_bind_of_ok (queryNumber_on reg hname hrequest)]
  rfl

variable {name command : String} (h : WellFormed name true) (hname : name ≠ "EE")
  (hcommand : command.toList = '&' :: name.toList) (idx : UInt8)

include hcommand

/-- A request for a register with an index. -/
theorem toList_twoParameter (value : List Char) :
    (twoParameterCommandHelper command idx value).toList =
      '&' :: ((Register.indexed name h idx).text.toList ++ value ++ ['\r']) := by
  rw [toList_text]
  simp only [twoParameterCommandHelper, String.toList_append, String.toList_ofList, hcommand,
    Register.indexed, idxText, List.append_assoc, List.cons_append]
  rfl

include hname

/-- A getter of a channel returns the decoded value of its register. -/
private theorem getIndexed_on : (getIndexed l decode command idx).on regs =
    (.ok (decode (regs.value (.indexed name h idx))), regs) := by
  refine getValue_on decode (.indexed name h idx) hname ?_
  rw [toList_twoParameter h hcommand, List.append_assoc]
  rfl

/-- A setter of a channel stores the number in its register. -/
private theorem setIndexed_on {n : ℕ} (hn : n < 2 ^ 31) :
    (setIndexed l command idx n).on regs = (.ok (), regs.store (.indexed name h idx) n) := by
  rw [store_eq _ hn]
  refine Stateful.on_bind_of_ok (cmd_set (.indexed name h idx) hn ?_
    (toList_twoParameter h hcommand idx _)) _
  exact iff_of_false Bool.false_ne_true hname

end Value

/-! ### Checks

An index or a value out of range is refused before the first command, so what has been rejected has
stored nothing. -/

/-- The setter throws, and stores nothing. -/
def Rejected (m : ColdM Unit) : Prop := ∀ regs, ∃ e, m.on regs = (.error e, regs)

private theorem checkIdx_on (h : Channel idx) : (checkIdx idx).on regs = (.ok (), regs) := by
  have hidx : ¬ (idx < 1 ∨ 4 < idx) := by
    rw [not_or, UInt8.not_lt, UInt8.not_lt]
    exact h
  rw [checkIdx, if_neg hidx]
  rfl

/-- Another index does not, and nothing is sent. -/
private theorem checkIdx_rejected (h : ¬ Channel idx) : Rejected (checkIdx idx) := by
  have hidx : idx < 1 ∨ 4 < idx := by
    rw [Channel, not_and_or, UInt8.not_le, UInt8.not_le] at h
    exact h
  intro regs
  exact ⟨_, by rw [checkIdx, if_pos hidx]; rfl⟩

/-- What is checked first is rejected before anything else. -/
theorem Rejected.bind {m : ColdM Unit} (h : Rejected m) (f : Unit → ColdM Unit) :
    Rejected (m >>= f) := by
  intro regs
  obtain ⟨e, he⟩ := h regs
  exact ⟨e, Stateful.on_bind_of_error he f⟩

/-- A flag fits in a register. -/
theorem bool_lt (onoff : Bool) : onoff.toNat < 2 ^ 31 := by
  cases onoff <;> decide

/-- A number of 8 bits fits in a register. -/
theorem uint8_lt (n : UInt8) : n.toNat < 2 ^ 31 := lt_trans n.toNat_lt (by decide)

/-- A number of 16 bits fits in a register. -/
theorem uint16_lt (n : UInt16) : n.toNat < 2 ^ 31 := lt_trans n.toNat_lt (by decide)

/-- A setter of a channel without a limit stores the number. -/
private theorem setChannel_on {command name : String} (h : WellFormed name true)
    (hname : name ≠ "EE")
    (hcommand : command.toList = '&' :: name.toList) (hidx : Channel idx) {n : ℕ}
    (hn : n < 2 ^ 31) :
    (setChannel l command idx n).on regs = (.ok (), regs.store (.indexed name h idx) n) := by
  rw [setChannel, Stateful.on_bind_of_ok (checkIdx_on hidx)]
  exact setIndexed_on h hname hcommand idx hn

/-- A setter of a channel stores a number up to its limit. -/
private theorem setLimited_on {command name : String} (h : WellFormed name true)
    (hname : name ≠ "EE")
    (hcommand : command.toList = '&' :: name.toList) (hidx : Channel idx) {n limit : ℕ}
    (hlimit : n ≤ limit) (hn : limit < 2 ^ 31) (what : String) :
    (setLimited l command idx n limit what).on regs =
      (.ok (), regs.store (.indexed name h idx) n) := by
  rw [setLimited, Stateful.on_bind_of_ok (checkIdx_on hidx), if_neg (not_lt.mpr hlimit)]
  exact setIndexed_on h hname hcommand idx (lt_of_le_of_lt hlimit hn)

private theorem setLimited_rejected {command : String} {n limit : ℕ} {what : String}
    (h : ¬ (Channel idx ∧ n ≤ limit)) : Rejected (setLimited l command idx n limit what) := by
  by_cases hidx : Channel idx
  · intro regs
    rw [setLimited, Stateful.on_bind_of_ok (checkIdx_on hidx),
      if_pos (not_le.mp fun hn => h ⟨hidx, hn⟩)]
    exact ⟨_, rfl⟩
  · exact (checkIdx_rejected hidx).bind _

/-- A getter of a channel returns the decoded value. -/
private theorem getChannel_on {A : Type} (decode : ℤ → A) {command name : String}
    (h : WellFormed name true) (hname : name ≠ "EE")
    (hcommand : command.toList = '&' :: name.toList) (hidx : Channel idx) :
    (getChannel l decode command idx).on regs =
      (.ok (decode (regs.value (.indexed name h idx))), regs) := by
  rw [getChannel, Stateful.on_bind_of_ok (checkIdx_on hidx)]
  exact getIndexed_on decode h hname hcommand idx

section Frequency

variable {freq : UInt32}

private theorem frequency_on (h : 6 ≤ freq.toNat ∧ freq.toNat ≤ 20000) :
    (setContinuousStrobeFrequency l freq).on regs =
      (.ok (), regs.store (.plain "rf" (by decide)) freq.toNat) := by
  have hfreq : ¬ (freq < 6 ∨ 20000 < freq) := not_or.mpr ⟨not_lt.mpr h.1, not_lt.mpr h.2⟩
  rw [setContinuousStrobeFrequency, if_neg hfreq]
  exact setHelper_store (.plain "rf" _) (lt_of_le_of_lt h.2 (by decide)) (by decide) rfl

private theorem frequency_rejected (h : ¬ (6 ≤ freq.toNat ∧ freq.toNat ≤ 20000)) :
    Rejected (setContinuousStrobeFrequency l freq) := by
  have hfreq : freq < 6 ∨ 20000 < freq := by
    rw [not_and_or, not_le, not_le] at h
    exact h
  intro regs
  rw [setContinuousStrobeFrequency, if_pos hfreq]
  exact ⟨_, rfl⟩

end Frequency

section Target

variable {target : UInt16}

/-- A target of the equaliser in its range is stored, in hexadecimal. -/
private theorem target_on (h : target.toNat ≤ 4095) :
    (setEqualizerTarget l target).on regs =
      (.ok (), regs.store (.plain "EE" (by decide)) target.toNat) := by
  have htarget : ¬ 4095 < target := not_lt.mpr h
  rw [setEqualizerTarget, if_neg htarget]
  exact setHelper_store (.plain "EE" _) (uint16_lt target) (by decide) rfl

private theorem target_rejected (h : ¬ target.toNat ≤ 4095) :
    Rejected (setEqualizerTarget l target) := by
  have htarget : 4095 < target := not_le.mp h
  intro regs
  rw [setEqualizerTarget, if_pos htarget]
  exact ⟨_, rfl⟩

/-- The target of the equaliser is read in hexadecimal. -/
private theorem getEqualizerTarget_on : (getEqualizerTarget l).on regs =
    (.ok (UInt16.ofInt (regs.value (.plain "EE" (by decide)))), regs) := by
  have hquery : (queryHexNumber l "&EE?\r").on regs =
      (.ok (regs.value (.plain "EE" (by decide))), regs) := by
    have htext : (Register.plain "EE" (by decide)).text = "EE" := by decide
    rw [queryHexNumber, Stateful.on_bind_of_ok (queryCmd_on (.plain "EE" (by decide)) rfl), htext,
      stoiHex_print]
    rfl
  rw [getEqualizerTarget, Stateful.on_bind_of_ok hquery]
  rfl

end Target

/-- An accepted value is stored in the register of the setting. -/
theorem plain_set_on {p : Plain} {value : p.Value} (h : p.Accepts value) :
    (p.set l value).on regs = (.ok (), regs.store p.field.register (p.field.number value)) := by
  cases p with
  | demoMode => exact setHelper_store (.plain "D" _) (bool_lt value) (by decide) rfl
  | combinedTrigger => exact setHelper_store (.indexed "J" _ 0) (bool_lt value) (by decide) rfl
  | knobMode => exact setHelper_store (.plain "N" _) (uint8_lt value) (by decide) rfl
  | dioActiveHigh idx => exact setIndexed_on _ (by decide) rfl idx (bool_lt value)
  | onOff idx => exact setIndexed_on _ (by decide) rfl idx (bool_lt value)
  | powerLimit idx => exact setIndexed_on _ (by decide) rfl idx (uint16_lt value)
  | continuousStrobeFrequency => exact frequency_on h
  | continuousStrobeOffset idx => exact setChannel_on _ (by decide) rfl h (uint16_lt value)
  | continuousStrobePolarity idx => exact setChannel_on _ (by decide) rfl h (bool_lt value)
  | triggeredStrobeFallingEdge idx => exact setChannel_on _ (by decide) rfl h (bool_lt value)
  | continuousStrobeDutyCycle idx =>
    exact setLimited_on _ (by decide) rfl h.1 h.2 (by decide) _
  | triggeredStrobeDelay idx =>
    exact setLimited_on _ (by decide) rfl h.1 h.2 (by decide) _
  | triggeredStrobeOnTime idx =>
    exact setLimited_on _ (by decide) rfl h.1 h.2 (by decide) _
  | equalizer => exact setHelper_store (.plain "E" _) (bool_lt value) (by decide) rfl
  | startUpEqualizerDelay => exact setHelper_store (.plain "EI" _) (uint16_lt value) (by decide) rfl
  | equalizerTarget => exact target_on h

/-- A value that is not accepted is rejected before anything is stored. -/
theorem plain_set_rejected {p : Plain} {value : p.Value} (h : ¬ p.Accepts value) :
    Rejected (p.set l value) := by
  cases p with
  | demoMode | combinedTrigger | knobMode | dioActiveHigh idx | onOff idx | powerLimit idx
  | equalizer | startUpEqualizerDelay => exact absurd trivial h
  | continuousStrobeFrequency => exact frequency_rejected h
  | continuousStrobeOffset idx | continuousStrobePolarity idx | triggeredStrobeFallingEdge idx =>
    exact (checkIdx_rejected h).bind _
  | continuousStrobeDutyCycle idx | triggeredStrobeDelay idx | triggeredStrobeOnTime idx =>
    exact setLimited_rejected h
  | equalizerTarget => exact target_rejected h

/-- Where a value has been accepted, the getter returns what is in the register. -/
theorem plain_get_on {p : Plain} {value : p.Value} (h : p.Accepts value) :
    (p.get l).on regs = (.ok (p.field.decode (regs.value p.field.register)), regs) := by
  cases p with
  | demoMode => exact getValue_on toBool (.plain "D" _) (by decide) rfl
  | combinedTrigger => exact getValue_on toBool (.indexed "J" _ 0) (by decide) rfl
  | knobMode => exact getValue_on UInt8.ofInt (.plain "N" _) (by decide) rfl
  | dioActiveHigh idx | onOff idx | powerLimit idx => exact getIndexed_on _ _ (by decide) rfl idx
  | continuousStrobeFrequency => exact getValue_on UInt32.ofInt (.plain "rf" _) (by decide) rfl
  | continuousStrobeOffset idx | continuousStrobePolarity idx | triggeredStrobeFallingEdge idx =>
    exact getChannel_on _ _ (by decide) rfl h
  | continuousStrobeDutyCycle idx | triggeredStrobeDelay idx | triggeredStrobeOnTime idx =>
    exact getChannel_on _ _ (by decide) rfl h.1
  | equalizer => exact getValue_on toBool (.plain "E" _) (by decide) rfl
  | startUpEqualizerDelay => exact getValue_on UInt16.ofInt (.plain "EI" _) (by decide) rfl
  | equalizerTarget => exact getEqualizerTarget_on

end Plain

/-! ### What the getters and setters do -/

namespace Register

def rm : Register := .plain "RM" (by decide)

def pm : Register := .plain "PM" (by decide)

def b : Register := .plain "b" (by decide)

def rb : Register := .plain "RB" (by decide)

def pb : Register := .plain "PB" (by decide)

def ge : Register := .plain "ge" (by decide)

def gs : Register := .plain "gs" (by decide)

end Register

open Register

/-- The trigger mode that the registers show. -/
def LedTriggerMode.shown (regs : Registers) : LedTriggerMode :=
  if toBool (regs.value rm) then .continuousStrobe
  else if toBool (regs.value pm) then .triggeredStrobe
  else .cw

/-- The register of the single channel is well formed. -/
theorem wellFormed_cw : WellFormed "B" false := by decide

/-- The register in which the single channel is looked for. -/
def LedTriggerMode.singleChannel : LedTriggerMode → Register
  | cw => .plain "B" wellFormed_cw
  | triggeredStrobe => pb
  | continuousStrobe => rm

/-- The single channel that the registers show. -/
def singleChannelShown (regs : Registers) : Bool :=
  toBool (regs.value (LedTriggerMode.shown regs).singleChannel)

/-- The set point of the fan that the registers show. -/
def fanShown (regs : Registers) : Int32 :=
  if toBool (regs.value ge) then Int32.ofInt (regs.value gs) else -1

namespace Registers

/-- The registers after a trigger mode has been set. -/
def storeMode (regs : Registers) : LedTriggerMode → Registers
  | .cw => (regs.store pm 0).store rm 0
  | .continuousStrobe => regs.store rm 1
  | .triggeredStrobe => regs.store pm 1

/-- The registers after the single channel has been set. -/
def storeSingleChannel (regs : Registers) (onoff : Bool) : Registers :=
  ((regs.store b onoff.toNat).store rb onoff.toNat).store pb onoff.toNat

/-- The registers after the set point of the fan has been set. -/
def storeFan (regs : Registers) (setpoint : Int32) : Registers :=
  if setpoint < 0 then regs.store ge 0 else (regs.store ge 1).store gs setpoint.toInt.toNat

end Registers

namespace Setting

/-- The value that the registers show. -/
def shown : (k : Setting) → Registers → k.Value
  | plain p, regs => p.field.decode (regs.value p.field.register)
  | singleChannel, regs => singleChannelShown regs
  | triggerMode, regs => LedTriggerMode.shown regs
  | fanSpeedSetPoint, regs => fanShown regs

/-- The registers after a value has been set. -/
def stored : (k : Setting) → k.Value → Registers → Registers
  | plain p, value, regs => regs.store p.field.register (p.field.number value)
  | singleChannel, onoff, regs => regs.storeSingleChannel onoff
  | triggerMode, mode, regs => regs.storeMode mode
  | fanSpeedSetPoint, setpoint, regs => regs.storeFan setpoint

/-- The setter accepts the value. -/
def Accepts : (k : Setting) → k.Value → Prop
  | plain p, value => p.Accepts value
  | _, _ => True

end Setting

section Setting

variable {l : Light} {regs regs' : Registers} {k k' : Setting}

/-- A command that has its value in it. -/
theorem cmd_store (reg : Register) {request : String} {n : ℕ} (hname : reg.name ≠ "EE")
    (hn : n < 2 ^ 31)
    (hrequest : request.toList = '&' :: (reg.text.toList ++ streamed n false ++ ['\r'])) :
    (cmd l request).on regs = (.ok "&a\r", regs.store reg n) := by
  rw [store_eq reg hn]
  exact cmd_set reg hn (iff_of_false Bool.false_ne_true hname) hrequest

/-- The trigger mode is stored in its two registers. -/
private theorem setTriggerMode_on (mode : LedTriggerMode) :
    (setTriggerMode l mode).on regs = (.ok (), regs.storeMode mode) := by
  cases mode with
  | cw =>
    have hpm : (cmd l "&PM0\r").on regs = (.ok "&a\r", regs.store pm 0) :=
      cmd_store pm (by decide) (by decide) rfl
    rw [setTriggerMode, Stateful.on_bind_of_ok hpm]
    exact Stateful.on_bind_of_ok (cmd_store rm (by decide) (by decide) rfl) _
  | continuousStrobe => exact Stateful.on_bind_of_ok (cmd_store rm (by decide) (by decide) rfl) _
  | triggeredStrobe => exact Stateful.on_bind_of_ok (cmd_store pm (by decide) (by decide) rfl) _

/-- The single channel is stored in its registers. -/
private theorem setSingleChannel_on (onoff : Bool) :
    (setSingleChannel l onoff).on regs = (.ok (), regs.storeSingleChannel onoff) := by
  have hlt := bool_lt onoff
  rw [setSingleChannel, Stateful.on_bind_of_ok (setHelper_store b hlt (by decide) rfl),
    Stateful.on_bind_of_ok (setHelper_store rb hlt (by decide) rfl)]
  exact setHelper_store pb hlt (by decide) rfl

/-- The fan speed is stored, or the automatic mode. -/
private theorem setFanSpeedSetPoint_on (setpoint : Int32) :
    (setFanSpeedSetPoint l setpoint).on regs = (.ok (), regs.storeFan setpoint) := by
  rw [setFanSpeedSetPoint, Registers.storeFan]
  by_cases h : setpoint < 0
  · rw [if_pos h, if_pos h]
    exact setHelper_store ge (by decide) (by decide) rfl
  · have hlt : setpoint.toInt.toNat < 2 ^ 31 := by
      have hint := setpoint.toInt_lt
      omega
    rw [if_neg h, if_neg h, Stateful.on_bind_of_ok
      (setHelper_store ge (by decide) (by decide) rfl)]
    exact setHelper_store gs hlt (by decide) rfl

/-- An accepted value is stored. -/
theorem set_on {value : k.Value} (h : k.Accepts value) :
    (k.set l value).on regs = (.ok (), k.stored value regs) := by
  cases k with
  | plain p => exact plain_set_on h
  | singleChannel => exact setSingleChannel_on value
  | triggerMode => exact setTriggerMode_on value
  | fanSpeedSetPoint => exact setFanSpeedSetPoint_on value

/-- A value that is not accepted is rejected before anything is stored. -/
theorem set_rejected {value : k.Value} (h : ¬ k.Accepts value) : Rejected (k.set l value) := by
  cases k with
  | plain p => exact plain_set_rejected h
  | singleChannel | triggerMode | fanSpeedSetPoint => exact absurd trivial h

/-- The trigger mode is read as its registers show it. -/
theorem getTriggerMode_on :
    (getTriggerMode l).on regs = (.ok (LedTriggerMode.shown regs), regs) := by
  rw [getTriggerMode, Stateful.on_bind_of_ok (queryNumber_on rm (by decide) rfl),
    LedTriggerMode.shown]
  by_cases hrm : toBool (regs.value rm) = true
  · rw [if_pos hrm, if_pos hrm]
    rfl
  · rw [if_neg hrm, if_neg hrm]
    rw [Stateful.on_bind_of_ok (queryNumber_on pm (by decide) rfl)]
    by_cases hpm : toBool (regs.value pm) = true
    · rw [if_pos hpm, if_pos hpm]
      rfl
    · rw [if_neg hpm, if_neg hpm]
      rfl

/-- The single channel is read as its registers show it. -/
private theorem getSingleChannel_on :
    (getSingleChannel l).on regs = (.ok (singleChannelShown regs), regs) := by
  rw [getSingleChannel, Stateful.on_bind_of_ok getTriggerMode_on, singleChannelShown]
  cases LedTriggerMode.shown regs with
  | cw => exact getValue_on toBool (.plain "B" (by decide)) (by decide) rfl
  | triggeredStrobe => exact getValue_on toBool pb (by decide) rfl
  | continuousStrobe => exact getValue_on toBool rm (by decide) rfl

/-- The fan speed is read as its registers show it. -/
private theorem getFanSpeedSetPoint_on :
    (getFanSpeedSetPoint l).on regs = (.ok (fanShown regs), regs) := by
  rw [getFanSpeedSetPoint, Stateful.on_bind_of_ok (queryNumber_on ge (by decide) rfl), fanShown]
  by_cases hge : toBool (regs.value ge) = true
  · rw [if_pos hge, if_pos hge]
    exact getValue_on Int32.ofInt gs (by decide) rfl
  · rw [if_neg hge, if_neg hge]
    rfl

/-- Where a value has been accepted, the getter returns what the registers show. -/
theorem get_on {value : k.Value} (h : k.Accepts value) :
    (k.get l).on regs = (.ok (k.shown regs), regs) := by
  cases k with
  | plain p => exact plain_get_on h
  | singleChannel => exact getSingleChannel_on
  | triggerMode => exact getTriggerMode_on
  | fanSpeedSetPoint => exact getFanSpeedSetPoint_on

end Setting

end ColdVision

end Foxtrot
