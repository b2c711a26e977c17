import Foxtrot.Pfeiffer.Device

/-!
# Settings of the TC110 pump controller

A setter of the TC110 (`devices/Pfeiffer/TC110.cpp`) writes its argument as one of the data types of
the protocol, and the getter of the same name reads it with `std::stoul`. `Setting` is a setter with
its arguments. They differ in the parameter, the number that is written, and the data type
(`set_eq`), and in what the getter makes of the number (`get_eq`).

The setters of the type `positive_integer_short` that are given a `short unsigned` do not look at
its size, and send what needs four or five digits like that. All others keep to the width, and every
setting that does reads back (`tc110_iff`).

`set_eq` and `get_eq` bring the seventeen setters and getters into one form, once for all. What is
left is about numbers: a number of at most so many digits is printed with that width, is framed as a
telegram and is stored by the pump, which answers the query with the same data
(`setAndReadBack_of_short`). Settings of other parameters that come later do not matter
(`after_fields`), since the pump keeps each parameter under its number.
-/

namespace Foxtrot

open Fallible Text

namespace Pfeiffer

/-- The values of `TC110_parameter_no` that are set. -/
inductive TC110ParameterNo where
  | heating
  | standby
  | ruTimeCtrl
  | pumpgStatn
  | enableVent
  | cfgSpdSwPt
  | cfgDO2
  | motorPump
  | cfgDO1
  | opModeBKP
  | spdSetMode
  | gasMode
  | ventMode
  | cfgAccA1
  | cfgAccB1
  | cfgAccA2
  | cfgAccB2
  | sealingGas
  | ruTimeSVal
  | pwrSVal
  | ventTime
  deriving DecidableEq

def TC110ParameterNo.code : TC110ParameterNo → ℕ
  | heating => 1
  | standby => 2
  | ruTimeCtrl => 4
  | pumpgStatn => 10
  | enableVent => 12
  | cfgSpdSwPt => 17
  | cfgDO2 => 19
  | motorPump => 23
  | cfgDO1 => 24
  | opModeBKP => 25
  | spdSetMode => 26
  | gasMode => 27
  | ventMode => 30
  | cfgAccA1 => 35
  | cfgAccB1 => 36
  | cfgAccA2 => 37
  | cfgAccB2 => 38
  | sealingGas => 50
  | ruTimeSVal => 700
  | pwrSVal => 708
  | ventTime => 721

/-- A value of `TC110_DOconfigs`, which like the other enumerations has all values of
`short unsigned`. -/
abbrev TC110DOconfigs := UInt16

/-- A value of `TC110_BackingPumpOperatingModes`. -/
abbrev TC110BackingPumpOperatingModes := UInt16

/-- A value of `TC110_GasModes`. -/
abbrev TC110GasModes := UInt16

/-- A value of `TC110_VentModes`. -/
abbrev TC110VentModes := UInt16

/-- A value of `TC110_Accconfigs`. -/
abbrev TC110Accconfigs := UInt16

/-! ### The setters and getters -/

/-- `get_DOparam`. -/
def getDOparam (DOnum : UInt8) : Except Thrown TC110ParameterNo :=
  if DOnum = 1 then .ok .cfgDO1
  else if DOnum = 2 then .ok .cfgDO2
  else .error (.outOfRange "invalid DO number")

/-- `get_Accparam`. -/
def getAccparam (Acclet : Char) (Accnum : UInt8) : Except Thrown TC110ParameterNo :=
  if Acclet = 'A' ∨ Acclet = 'a' then
    if Accnum = 1 then .ok .cfgAccA1
    else if Accnum = 2 then .ok .cfgAccA2
    else .error (.outOfRange "invalid accessory number parameter")
  else if Acclet = 'B' ∨ Acclet = 'b' then
    if Accnum = 1 then .ok .cfgAccB1
    else if Accnum = 2 then .ok .cfgAccB2
    else .error (.outOfRange "invalid accessory number parameter")
  else .error (.outOfRange "invalid Accessory letter parameter")

/-- `_address`. -/
def address : ℕ := 1

/-- `std::stoul` of the data of a parameter. -/
def getNumber (param : TC110ParameterNo) : PfeifferM ℕ := do
  let data ← readCmdHelper address param.code
  Stateful.ofExcept ((stoul data).mapError (thrownByNumber "stoul"))

/-- A getter that returns a `bool`. -/
def getBool (param : TC110ParameterNo) : PfeifferM Bool := return decide (0 < (← getNumber param))

/-- A getter that returns a `short unsigned`, or an enumeration. -/
def getShort (param : TC110ParameterNo) : PfeifferM UInt16 :=
  return UInt16.ofNat (← getNumber param)

/-- A getter that returns an `int`. -/
def getInt (param : TC110ParameterNo) : PfeifferM Int32 := return Int32.ofInt (← getNumber param)

/-- `static_cast<unsigned short>`. -/
def toShort (n : Int32) : ℕ := (n.toInt % 2 ^ 16).toNat

def getHeating : PfeifferM Bool := getBool .heating

def setHeating (onoff : Bool) : PfeifferM Unit :=
  writeCmdHelper address TC110ParameterNo.heating.code onoff.toNat .boolean

def getStandby : PfeifferM Bool := getBool .standby

def setStandby (onoff : Bool) : PfeifferM Unit :=
  writeCmdHelper address TC110ParameterNo.standby.code onoff.toNat .boolean

def getRUTimeCtrl : PfeifferM Bool := getBool .ruTimeCtrl

def setRUTimeCtrl (onoff : Bool) : PfeifferM Unit :=
  writeCmdHelper address TC110ParameterNo.ruTimeCtrl.code onoff.toNat .boolean

def getPumpStationOnOff : PfeifferM Bool := getBool .pumpgStatn

def setPumpStationOnOff (onoff : Bool) : PfeifferM Unit :=
  writeCmdHelper address TC110ParameterNo.pumpgStatn.code onoff.toNat .boolean

def getVentEnable : PfeifferM Bool := getBool .enableVent

def setVentEnable (onoff : Bool) : PfeifferM Unit :=
  writeCmdHelper address TC110ParameterNo.enableVent.code onoff.toNat .boolean

def getSpeedSwitchPointConfig : PfeifferM UInt16 := getShort .cfgSpdSwPt

def setSpeedSwitchPointConfig (switchpt : UInt16) : PfeifferM Unit :=
  writeCmdHelper address TC110ParameterNo.cfgSpdSwPt.code switchpt.toNat .positiveIntegerShort

def getDOConfig (DOnum : UInt8) : PfeifferM TC110DOconfigs := do
  getShort (← Stateful.ofExcept (getDOparam DOnum))

def setDOConfig (DOnum : UInt8) (cfg : TC110DOconfigs) : PfeifferM Unit := do
  let param ← Stateful.ofExcept (getDOparam DOnum)
  writeCmdHelper address param.code cfg.toNat .positiveIntegerShort

def getMotorPump : PfeifferM Bool := getBool .motorPump

def setMotorPump (onoff : Bool) : PfeifferM Unit :=
  writeCmdHelper address TC110ParameterNo.motorPump.code onoff.toNat .boolean

def getBackingPumpMode : PfeifferM TC110BackingPumpOperatingModes := getShort .opModeBKP

def setBackingPumpMode (mode : TC110BackingPumpOperatingModes) : PfeifferM Unit :=
  writeCmdHelper address TC110ParameterNo.opModeBKP.code mode.toNat .positiveIntegerShort

def getRotSpeedSettingMode : PfeifferM Bool := getBool .spdSetMode

def setRotSpeedSettingMode (mode : Bool) : PfeifferM Unit :=
  writeCmdHelper address TC110ParameterNo.spdSetMode.code mode.toNat .positiveIntegerShort

def getGasMode : PfeifferM TC110GasModes := getShort .gasMode

def setGasMode (mode : TC110GasModes) : PfeifferM Unit :=
  writeCmdHelper address TC110ParameterNo.gasMode.code mode.toNat .positiveIntegerShort

def getVentMode : PfeifferM TC110VentModes := getShort .ventMode

def setVentMode (mode : TC110VentModes) : PfeifferM Unit :=
  writeCmdHelper address TC110ParameterNo.ventMode.code mode.toNat .positiveIntegerShort

def getAccConfig (Acclet : Char) (Accnum : UInt8) : PfeifferM TC110Accconfigs := do
  getShort (← Stateful.ofExcept (getAccparam Acclet Accnum))

def setAccConfig (Acclet : Char) (Accnum : UInt8) (config : TC110Accconfigs) : PfeifferM Unit := do
  let param ← Stateful.ofExcept (getAccparam Acclet Accnum)
  writeCmdHelper address param.code config.toNat .positiveIntegerShort

def getSealingGas : PfeifferM Bool := getBool .sealingGas

def setSealingGas (onoff : Bool) : PfeifferM Unit :=
  writeCmdHelper address TC110ParameterNo.sealingGas.code onoff.toNat .boolean

def getRUTimeSVal : PfeifferM Int32 := getInt .ruTimeSVal

def setRUTimeSVal (RUTime : Int32) : PfeifferM Unit :=
  if RUTime < 1 ∨ 120 < RUTime then throw (.outOfRange "supplied an invalid RUTimeSVal")
  else
    writeCmdHelper address TC110ParameterNo.ruTimeSVal.code (toShort RUTime) .positiveIntegerLong

def getPowerPercent : PfeifferM Int32 := getInt .pwrSVal

def setPowerPercent (power : Int32) : PfeifferM Unit :=
  if power < 10 ∨ 100 < power then throw (.outOfRange "supplied invalid power percent")
  else
    writeCmdHelper address TC110ParameterNo.pwrSVal.code (toShort power) .positiveIntegerShort

def getVentTime : PfeifferM Int32 := getInt .ventTime

def setVentTime (vent_time : Int32) : PfeifferM Unit :=
  if vent_time < 0 ∨ 3600 < vent_time then throw (.outOfRange "supplied invalid vent time")
  else
    writeCmdHelper address TC110ParameterNo.ventTime.code (toShort vent_time) .positiveIntegerLong

/-! ### Settings -/

/-- A setter with its arguments. -/
inductive Setting where
  | heating (onoff : Bool)
  | standby (onoff : Bool)
  | ruTimeCtrl (onoff : Bool)
  | pumpStationOnOff (onoff : Bool)
  | ventEnable (onoff : Bool)
  | speedSwitchPointConfig (switchpt : UInt16)
  | doConfig (DOnum : UInt8) (cfg : TC110DOconfigs)
  | motorPump (onoff : Bool)
  | backingPumpMode (mode : TC110BackingPumpOperatingModes)
  | rotSpeedSettingMode (mode : Bool)
  | gasMode (mode : TC110GasModes)
  | ventMode (mode : TC110VentModes)
  | accConfig (Acclet : Char) (Accnum : UInt8) (config : TC110Accconfigs)
  | sealingGas (onoff : Bool)
  | ruTimeSVal (RUTime : Int32)
  | powerPercent (power : Int32)
  | ventTime (vent_time : Int32)
  deriving DecidableEq

namespace Setting

def set : Setting → PfeifferM Unit
  | heating onoff => setHeating onoff
  | standby onoff => setStandby onoff
  | ruTimeCtrl onoff => setRUTimeCtrl onoff
  | pumpStationOnOff onoff => setPumpStationOnOff onoff
  | ventEnable onoff => setVentEnable onoff
  | speedSwitchPointConfig switchpt => setSpeedSwitchPointConfig switchpt
  | doConfig DOnum cfg => setDOConfig DOnum cfg
  | motorPump onoff => setMotorPump onoff
  | backingPumpMode mode => setBackingPumpMode mode
  | rotSpeedSettingMode mode => setRotSpeedSettingMode mode
  | gasMode mode => setGasMode mode
  | ventMode mode => setVentMode mode
  | accConfig Acclet Accnum config => setAccConfig Acclet Accnum config
  | sealingGas onoff => setSealingGas onoff
  | ruTimeSVal RUTime => setRUTimeSVal RUTime
  | powerPercent power => setPowerPercent power
  | ventTime vent_time => setVentTime vent_time

/-- The getter of the same name: the setting with the value that it returns. -/
def get : Setting → PfeifferM Setting
  | heating _ => return heating (← getHeating)
  | standby _ => return standby (← getStandby)
  | ruTimeCtrl _ => return ruTimeCtrl (← getRUTimeCtrl)
  | pumpStationOnOff _ => return pumpStationOnOff (← getPumpStationOnOff)
  | ventEnable _ => return ventEnable (← getVentEnable)
  | speedSwitchPointConfig _ => return speedSwitchPointConfig (← getSpeedSwitchPointConfig)
  | doConfig DOnum _ => return doConfig DOnum (← getDOConfig DOnum)
  | motorPump _ => return motorPump (← getMotorPump)
  | backingPumpMode _ => return backingPumpMode (← getBackingPumpMode)
  | rotSpeedSettingMode _ => return rotSpeedSettingMode (← getRotSpeedSettingMode)
  | gasMode _ => return gasMode (← getGasMode)
  | ventMode _ => return ventMode (← getVentMode)
  | accConfig Acclet Accnum _ => return accConfig Acclet Accnum (← getAccConfig Acclet Accnum)
  | sealingGas _ => return sealingGas (← getSealingGas)
  | ruTimeSVal _ => return ruTimeSVal (← getRUTimeSVal)
  | powerPercent _ => return powerPercent (← getPowerPercent)
  | ventTime _ => return ventTime (← getVentTime)

/-- The data type that the setter names. -/
def dtype : Setting → PfeifferDataTypes
  | heating _ | standby _ | ruTimeCtrl _ | pumpStationOnOff _ | ventEnable _ | motorPump _
  | sealingGas _ => .boolean
  | ruTimeSVal _ | ventTime _ => .positiveIntegerLong
  | speedSwitchPointConfig _ | doConfig _ _ | backingPumpMode _ | rotSpeedSettingMode _ | gasMode _
  | ventMode _ | accConfig _ _ _ | powerPercent _ => .positiveIntegerShort

/-- The parameter that the setter writes, or what it throws. -/
def parameter : Setting → Except Thrown TC110ParameterNo
  | heating _ => .ok .heating
  | standby _ => .ok .standby
  | ruTimeCtrl _ => .ok .ruTimeCtrl
  | pumpStationOnOff _ => .ok .pumpgStatn
  | ventEnable _ => .ok .enableVent
  | speedSwitchPointConfig _ => .ok .cfgSpdSwPt
  | doConfig DOnum _ => getDOparam DOnum
  | motorPump _ => .ok .motorPump
  | backingPumpMode _ => .ok .opModeBKP
  | rotSpeedSettingMode _ => .ok .spdSetMode
  | gasMode _ => .ok .gasMode
  | ventMode _ => .ok .ventMode
  | accConfig Acclet Accnum _ => getAccparam Acclet Accnum
  | sealingGas _ => .ok .sealingGas
  | ruTimeSVal RUTime =>
    if RUTime < 1 ∨ 120 < RUTime then .error (.outOfRange "supplied an invalid RUTimeSVal")
    else .ok .ruTimeSVal
  | powerPercent power =>
    if power < 10 ∨ 100 < power then .error (.outOfRange "supplied invalid power percent")
    else .ok .pwrSVal
  | ventTime vent_time =>
    if vent_time < 0 ∨ 3600 < vent_time then .error (.outOfRange "supplied invalid vent time")
    else .ok .ventTime

/-- The number that the setter writes. -/
def value : Setting → ℕ
  | heating onoff | standby onoff | ruTimeCtrl onoff | pumpStationOnOff onoff | ventEnable onoff
  | motorPump onoff | rotSpeedSettingMode onoff | sealingGas onoff => onoff.toNat
  | speedSwitchPointConfig value | doConfig _ value | backingPumpMode value | gasMode value
  | ventMode value | accConfig _ _ value => value.toNat
  | ruTimeSVal value | powerPercent value | ventTime value => toShort value

/-- What the getter makes of a number. -/
def returned (n : ℕ) : Setting → Setting
  | heating _ => heating (0 < n)
  | standby _ => standby (0 < n)
  | ruTimeCtrl _ => ruTimeCtrl (0 < n)
  | pumpStationOnOff _ => pumpStationOnOff (0 < n)
  | ventEnable _ => ventEnable (0 < n)
  | speedSwitchPointConfig _ => speedSwitchPointConfig (.ofNat n)
  | doConfig DOnum _ => doConfig DOnum (.ofNat n)
  | motorPump _ => motorPump (0 < n)
  | backingPumpMode _ => backingPumpMode (.ofNat n)
  | rotSpeedSettingMode _ => rotSpeedSettingMode (0 < n)
  | gasMode _ => gasMode (.ofNat n)
  | ventMode _ => ventMode (.ofNat n)
  | accConfig Acclet Accnum _ => accConfig Acclet Accnum (.ofNat n)
  | sealingGas _ => sealingGas (0 < n)
  | ruTimeSVal _ => ruTimeSVal (.ofInt n)
  | powerPercent _ => powerPercent (.ofInt n)
  | ventTime _ => ventTime (.ofInt n)

/-- The setter accepts its arguments. -/
def Accepted (s : Setting) : Prop := ∃ param, s.parameter = .ok param

/-- The number has at most three digits where it is written as a `positive_integer_short`. -/
def Short (s : Setting) : Prop := s.dtype = .positiveIntegerShort → s.value < 1000

end Setting

/-- The pump after the setters have been called, one after the other. -/
def Pump.after (pump : Pump) (settings : List Setting) : Pump :=
  settings.foldl (fun pump s => (s.set.on pump).2) pump

/-- **The setting is well formed and reads back**: the setter returns and writes one telegram, with
data of the width of the data type, and the getter returns the argument, also when other parameters
have been set since. -/
structure SetAndReadBack (s : Setting) : Prop where
  wellFormed : ∀ pump : Pump, ∃ parameter data, parameter < 1000 ∧ data.length = s.dtype.width ∧
    (s.set.on pump).2.written =
      telegram (settingFrame parameter data).request :: pump.written
  accepted : ∀ pump : Pump, (s.set.on pump).1 = .ok ()
  readBack : ∀ (pump : Pump) (later : List Setting), (∀ s' ∈ later, s'.parameter ≠ s.parameter) →
    (s.get.on (pump.after (s :: later))).1 = .ok s

/-! ### What setters and getters have in common -/

namespace Setting

variable {s : Setting} {param : TC110ParameterNo} {pump : Pump} {e : Thrown} {n : ℕ}

private theorem code_lt (param : TC110ParameterNo) : param.code < 1000 := by
  cases param <;> decide

/-- Different parameters have different numbers. -/
private theorem code_injective : Function.Injective TC110ParameterNo.code := by
  intro param param' h
  cases param <;> cases param' <;> first | rfl | cases h

/-- A setter looks for its parameter, and writes its number as its data type. -/
theorem set_eq (s : Setting) : s.set = (do
    let param ← Stateful.ofExcept s.parameter
    writeCmdHelper address param.code s.value s.dtype) := by
  cases s with
  | doConfig DOnum cfg => rfl
  | accConfig Acclet Accnum config => rfl
  | ruTimeSVal _ | powerPercent _ | ventTime _ =>
    rw [parameter, Stateful.ofExcept_guard_bind]
    rfl
  | _ => exact (Stateful.ofExcept_ok_bind _ _).symm

private theorem getBool_bind (param : TC110ParameterNo) (f : Bool → Setting) :
    (do return f (← getBool param) : PfeifferM Setting) =
      (do return f (0 < (← getNumber param))) := by
  rw [getBool, bind_assoc]
  simp only [pure_bind]

private theorem getShort_bind (param : TC110ParameterNo) (f : UInt16 → Setting) :
    (do return f (← getShort param) : PfeifferM Setting) =
      (do return f (.ofNat (← getNumber param))) := by
  rw [getShort, bind_assoc]
  simp only [pure_bind]

private theorem getInt_bind (param : TC110ParameterNo) (f : Int32 → Setting) :
    (do return f (← getInt param) : PfeifferM Setting) =
      (do return f (.ofInt (← getNumber param))) := by
  rw [getInt, bind_assoc]
  simp only [pure_bind]

/-- The getter of an accepted setting reads the number of its parameter. -/
theorem get_eq (h : s.parameter = .ok param) :
    s.get = (do return s.returned (← getNumber param)) := by
  cases s with
  | heating _ | standby _ | ruTimeCtrl _ | pumpStationOnOff _ | ventEnable _ | motorPump _
  | rotSpeedSettingMode _ | sealingGas _ =>
    obtain rfl := Except.ok.inj h
    exact getBool_bind _ _
  | speedSwitchPointConfig _ | backingPumpMode _ | gasMode _ | ventMode _ =>
    obtain rfl := Except.ok.inj h
    exact getShort_bind _ _
  | doConfig DOnum cfg =>
    rw [parameter] at h
    rw [get, getDOConfig, h, Stateful.ofExcept_ok_bind]
    exact getShort_bind _ _
  | accConfig Acclet Accnum config =>
    rw [parameter] at h
    rw [get, getAccConfig, h, Stateful.ofExcept_ok_bind]
    exact getShort_bind _ _
  | ruTimeSVal _ | powerPercent _ | ventTime _ =>
    rw [parameter] at h
    split_ifs at h
    obtain rfl := Except.ok.inj h
    exact getInt_bind _ _

/-! ### The number of a setting

Where the width matters: in a `positive_integer_short` a number has three digits, and a setter that
takes a `short unsigned` may be given five. -/

private theorem toShort_lt (n : Int32) : toShort n < 2 ^ 16 := by
  rw [toShort]
  omega

/-- All values have 16 bits. -/
theorem value_lt (s : Setting) : s.value < 2 ^ 16 := by
  cases s with
  | heating onoff | standby onoff | ruTimeCtrl onoff | pumpStationOnOff onoff | ventEnable onoff
  | motorPump onoff | rotSpeedSettingMode onoff | sealingGas onoff =>
    exact (Bool.toNat_lt onoff).trans (by decide)
  | speedSwitchPointConfig value | doConfig _ value | backingPumpMode value | gasMode value
  | ventMode value | accConfig _ _ value => exact value.toNat_lt
  | ruTimeSVal value | powerPercent value | ventTime value => exact toShort_lt value

private theorem exists_data (s : Setting) : ∃ data, strFromDataType s.value s.dtype = .ok data := by
  cases s <;> exact ⟨_, rfl⟩

/-- The data have three digits or six. -/
theorem width_eq (s : Setting) : s.dtype.width = 3 ∨ s.dtype.width = 6 := by
  cases s <;> first | exact .inl rfl | exact .inr rfl

/-- The numbers of the other data types always fit. -/
theorem value_lt_bound_iff (s : Setting) : s.value < s.dtype.bound ↔ s.Short := by
  cases s with
  | heating onoff | standby onoff | ruTimeCtrl onoff | pumpStationOnOff onoff | ventEnable onoff
  | motorPump onoff | sealingGas onoff =>
    exact iff_of_true ((Bool.toNat_lt onoff).trans (by decide : 2 < 10)) nofun
  | ruTimeSVal value | ventTime value =>
    exact iff_of_true ((toShort_lt value).trans (by decide : 2 ^ 16 < 10 ^ 6)) nofun
  | speedSwitchPointConfig _ | doConfig _ _ | backingPumpMode _ | rotSpeedSettingMode _ | gasMode _
  | ventMode _ | accConfig _ _ _ | powerPercent _ => exact ⟨fun h _ => h, fun h => h rfl⟩

private theorem ofNat_value (value : UInt16) : UInt16.ofNat (value.toNat * 1) = value := by
  rw [Nat.mul_one, UInt16.ofNat_toNat]

/-- An `int` in the limits that a setter has is kept by the conversions. -/
theorem ofInt_toShort {n low high : Int32} (h : ¬ (n < low ∨ high < n)) (hlow : 0 ≤ low.toInt)
    (hhigh : high.toInt < 2 ^ 16) : Int32.ofInt ((toShort n * 1 : ℕ) : ℤ) = n := by
  rw [not_or, Int32.lt_iff_toInt_lt, Int32.lt_iff_toInt_lt] at h
  have hint : ((toShort n * 1 : ℕ) : ℤ) = n.toInt := by
    rw [toShort]
    omega
  rw [hint, Int32.ofInt_toInt]

/-- The getter of an accepted setting makes its argument of its number. -/
theorem returned_value (h : s.parameter = .ok param) :
    s.returned (s.value * s.dtype.repeated) = s := by
  cases s with
  | heating onoff | standby onoff | ruTimeCtrl onoff | pumpStationOnOff onoff | ventEnable onoff
  | motorPump onoff | rotSpeedSettingMode onoff | sealingGas onoff => cases onoff <;> rfl
  | speedSwitchPointConfig value => exact congrArg speedSwitchPointConfig (ofNat_value value)
  | backingPumpMode value => exact congrArg backingPumpMode (ofNat_value value)
  | gasMode value => exact congrArg gasMode (ofNat_value value)
  | ventMode value => exact congrArg ventMode (ofNat_value value)
  | doConfig DOnum cfg => exact congrArg (doConfig DOnum) (ofNat_value cfg)
  | accConfig Acclet Accnum config => exact congrArg (accConfig Acclet Accnum) (ofNat_value config)
  | ruTimeSVal RUTime =>
    rw [parameter] at h
    split_ifs at h with hrange
    exact congrArg ruTimeSVal (ofInt_toShort hrange (by decide) (by decide))
  | powerPercent power =>
    rw [parameter] at h
    split_ifs at h with hrange
    exact congrArg powerPercent (ofInt_toShort hrange (by decide) (by decide))
  | ventTime vent_time =>
    rw [parameter] at h
    split_ifs at h with hrange
    exact congrArg ventTime (ofInt_toShort hrange (by decide) (by decide))

/-! ### What a setter does -/

private theorem set_on_of_ok (h : s.parameter = .ok param) (pump : Pump) :
    s.set.on pump = (writeCmdHelper 1 param.code s.value s.dtype).on pump := by
  rw [set_eq, h, Stateful.ofExcept_ok_bind]
  rfl

/-- A setter that does not accept its arguments throws, and sends nothing. -/
theorem set_on_of_error (h : s.parameter = .error e) (pump : Pump) :
    s.set.on pump = (.error e, pump) := by
  rw [set_eq, h, Stateful.ofExcept_error_bind]
  rfl

/-- The state of the pump is that of the telegram. -/
theorem set_state (h : s.parameter = .ok param) {data : String}
    (hdata : strFromDataType s.value s.dtype = .ok data) (pump : Pump) :
    (s.set.on pump).2 = (pump.receive (telegram (settingFrame param.code data).request)).2 := by
  rw [set_on_of_ok h, writeCmdHelper_state hdata]

private theorem fits_data (s : Setting) {data : String}
    (hdata : strFromDataType s.value s.dtype = .ok data)
    (param : TC110ParameterNo) : (settingFrame param.code data).Fits :=
  ⟨(by decide : 1 < 10 ^ 3), code_lt param, length_strFromDataType_lt hdata s.value_lt⟩

/-- The parameters of other settings stay as they are. -/
theorem set_fields_of_ne (h : s.parameter ≠ .ok param) (pump : Pump) :
    (s.set.on pump).2.fields param.code = pump.fields param.code := by
  cases hparameter : s.parameter with
  | error e => rw [set_on_of_error hparameter]
  | ok param' =>
    obtain ⟨data, hdata⟩ := s.exists_data
    have hne : param.code ≠ param'.code := by
      intro hcode
      rw [hparameter, code_injective hcode] at h
      exact h rfl
    have hfield : numberField (telegram (settingFrame param'.code data).request) 5 3 =
        some param'.code := numberField_eq_some (fits_data s hdata param').substr_telegram.1
    rw [set_state hparameter hdata]
    exact receive_fields_of_ne hfield hne

end Setting

/-- Later settings of other parameters leave this one. -/
private theorem after_fields {later : List Setting} {param : TC110ParameterNo}
    (h : ∀ s ∈ later, s.parameter ≠ .ok param) (pump : Pump) :
    (pump.after later).fields param.code = pump.fields param.code := by
  induction later generalizing pump with
  | nil => rfl
  | cons s later ih =>
    obtain ⟨hs, hlater⟩ := List.forall_mem_cons.mp h
    exact (ih hlater (s.set.on pump).2).trans (Setting.set_fields_of_ne hs pump)

/-! ### Well formed settings that read back -/

section ReadBack

variable {s : Setting} {param : TC110ParameterNo} {data : String}

/-- A number of at most the width of its type is printed with that width. -/
theorem isSettingData (hdata : strFromDataType s.value s.dtype = .ok data) (hshort : s.Short) :
    IsSettingData data := by
  have hwidth : data.length = s.dtype.width :=
    (length_strFromDataType_iff hdata).mpr (s.value_lt_bound_iff.mpr hshort)
  exact ⟨allDigits_strFromDataType hdata, hwidth ▸ s.width_eq⟩

/-- The number of a parameter is read as it is stored. -/
private theorem getNumber_on {pump : Pump} {n : ℕ} (hdata : IsSettingData data)
    (hstored : pump.fields param.code = some data) (hnumber : stoul data = .ok n) :
    ∃ pump', (getNumber param).on pump = (.ok n, pump') := by
  have hread := readCmdHelper_on (Setting.code_lt param) hdata hstored
  refine ⟨{ pump with written := (requestFrame param.code).text :: pump.written }, ?_⟩
  rw [getNumber, address, Stateful.on_bind_of_ok hread, hnumber, Stateful.on_ofExcept]
  rfl

/-- **A setting whose number fits is well formed and reads back.** -/
theorem setAndReadBack_of_short (h : s.parameter = .ok param) (hshort : s.Short) :
    SetAndReadBack s := by
  obtain ⟨data, hdata⟩ := s.exists_data
  have hsetting := isSettingData hdata hshort
  have hset : ∀ pump : Pump, s.set.on pump = (.ok (), ⟨Function.update pump.fields param.code
      (some data), (settingFrame param.code data).text :: pump.written⟩) := by
    intro pump
    rw [Setting.set_on_of_ok h, writeCmdHelper_on (Setting.code_lt param) hdata hsetting]
  have hvalue := s.value_lt_bound_iff.mpr hshort
  refine ⟨fun pump => ⟨param.code, data, Setting.code_lt param,
    (length_strFromDataType_iff hdata).mpr hvalue, ?_⟩, fun pump => by rw [hset],
    fun pump later hlater => ?_⟩
  · rw [hset, telegram_request (lastAddsUp_settingFrame (Setting.code_lt param) hsetting)]
  · -- the data that has been stored is what the getter finds
    have hstored : (pump.after (s :: later)).fields param.code = some data := by
      have hcons : pump.after (s :: later) = Pump.after (s.set.on pump).2 later := rfl
      rw [hcons, after_fields (h ▸ hlater), hset]
      exact Function.update_self _ _ _
    obtain ⟨pump', hget⟩ := getNumber_on hsetting hstored (stoul_strFromDataType hdata hvalue)
    rw [Setting.get_eq h, Stateful.on_bind_of_ok hget, Setting.returned_value h]
    rfl

/-- A telegram has the data of its setting. -/
theorem short_of_wellFormed (h : s.parameter = .ok param) (hset : SetAndReadBack s) : s.Short := by
  obtain ⟨data, hdata⟩ := s.exists_data
  obtain ⟨parameter, data', hparameter, hwidth, hwritten⟩ := hset.wellFormed ⟨fun _ => none, []⟩
  rw [Setting.set_state h hdata, receive_written] at hwritten
  obtain ⟨htelegram, -⟩ := List.cons.inj hwritten
  have hfits' : (settingFrame parameter data').Fits := by
    have hlength : data'.length < 10 ^ 2 := by
      obtain hthree | hsix := s.width_eq <;> omega
    exact ⟨(by decide : 1 < 10 ^ 3), hparameter, hlength⟩
  -- both declare the length of their data at the same place
  have hdeclared := (s.fits_data hdata param).substr_telegram.2
  rw [htelegram, hfits'.substr_telegram.2, Option.some_inj] at hdeclared
  have hlength : data'.length = data.length := strFromNumber_inj hdeclared
  exact s.value_lt_bound_iff.mp ((length_strFromDataType_iff hdata).mp (hlength ▸ hwidth))

end ReadBack

/-- **Settings of the TC110**: an accepted setting is well formed and reads back exactly if its
number has at most three digits where it is written as a `positive_integer_short`. -/
theorem tc110_iff {s : Setting} (h : s.Accepted) : SetAndReadBack s ↔ s.Short := by
  obtain ⟨param, hparam⟩ := h
  exact ⟨short_of_wellFormed hparam, setAndReadBack_of_short hparam⟩

theorem speedSwitchPoint_setAndReadBack : SetAndReadBack (.speedSwitchPointConfig 80) :=
  (tc110_iff ⟨.cfgSpdSwPt, rfl⟩).mpr fun _ => by decide

/-- A speed switch point of 1000 is sent with four digits. -/
theorem not_tc110 : ¬ ∀ s : Setting, s.Accepted → SetAndReadBack s := by
  intro h
  have hshort := short_of_wellFormed rfl (h (.speedSwitchPointConfig 1000) ⟨.cfgSpdSwPt, rfl⟩)
  exact absurd (hshort rfl) (by decide)

end Pfeiffer

end Foxtrot
