import Foxtrot.Archon.ConfigStore
import Foxtrot.Archon.Modules
import Mathlib.Data.List.Nodup
import Mathlib.Data.List.TakeWhile

/-!
# The settings of the modules

Each class of modules has its own functions to set and to get the entries of its slot in the
configuration (`devices/archon/archon_module_*.cpp`, `archon_GPIO.cpp`). They are all alike: a
channel is checked, the value is checked and printed, and the entry of the slot is written under a
word and the number of the channel; the getter checks the channel and reads the value back. A
setting is such a pair of functions.

The functions of `ArchonLVX` are those of two banks of biases. `ArchonHVX` and `ArchonXV` inherit
them and rename the banks, but not the entry of the current limit. No bias checks its voltage.

The entries of a module are told apart by word and number (`key_inj`), and those of two modules by
their slots (`slotKey_inj`).
-/

namespace Foxtrot

open Stateful Text

/-! ### Values -/

/-- What the settings use of `double`. A constant is given by its digits and by the number of those
that stand behind the point. -/
structure SettingReals (F : Type) where
  const : ℤ → ℕ → F
  /-- `<`. -/
  lt : F → F → Bool
  /-- From `int`. -/
  ofInt : ℤ → F
  /-- `std::to_string`. -/
  toString : F → String
  /-- A stream with `std::setprecision(3)`. -/
  precise : F → String
  stod : String → Except Thrown F
  printable_toString : ∀ x, Printable (toString x)
  printable_precise : ∀ x, Printable (precise x)

inductive HeaterXSensors where
  | a
  | b
  | c
  deriving DecidableEq

inductive HeaterXHeaters where
  | a
  | b
  deriving DecidableEq

/-- The character of the enumeration. -/
def HeaterXSensors.letter : HeaterXSensors → String
  | a => "A"
  | b => "B"
  | c => "C"

/-- The character of the enumeration. -/
def HeaterXHeaters.letter : HeaterXHeaters → String
  | a => "A"
  | b => "B"

/-- The number that `setHeaterSensor` writes. -/
def HeaterXSensors.toInt : HeaterXSensors → ℤ
  | a => 0
  | b => 1
  | c => 2

/-- What `getHeaterSensor` makes of a number. -/
def HeaterXSensors.ofInt (sens : ℤ) : Except Thrown HeaterXSensors :=
  if sens = 0 then .ok a
  else if sens = 1 then .ok b
  else if sens = 2 then .ok c
  else .error (.deviceError "invalid sensor case!")

/-- `int_to_heater`, with `success`. -/
def intToHeater (i : Int32) : HeaterXHeaters × Bool :=
  if i = 0 then (.a, true)
  else if i = 1 then (.b, true)
  else (.a, false)

/-- How a value is printed and read. -/
inductive SettingKind where
  | int
  | flag
  | text
  /-- `HeaterXSensorTypes`, of which the numbers are those of an `unsigned short`. -/
  | sensorType
  /-- `gpio_source`, which is an `unsigned short` as well. -/
  | source
  | sensor
  | real
  /-- A `double` that is printed with three digits. -/
  | voltage
  /-- A `double` that is read as an `int`. -/
  | limit

/-- The type of the values. -/
def SettingKind.Val (F : Type) : SettingKind → Type
  | int => Int32
  | flag => Bool
  | text => String
  | sensorType | source => UInt16
  | sensor => HeaterXSensors
  | real | voltage | limit => F

section Kinds

variable {F : Type} (r : SettingReals F)

/-- The text that a setter writes. -/
def SettingKind.print : (k : SettingKind) → k.Val F → String
  | int, (n : Int32) => n.toInt.repr
  | flag, (onoff : Bool) => onoff.toNat.repr
  | text, (label : String) => label
  | sensorType, (n : UInt16) | source, (n : UInt16) => n.toNat.repr
  | sensor, (v : HeaterXSensors) => v.toInt.repr
  | real, x | limit, x => r.toString x
  | voltage, x => r.precise x

/-- The value that a getter reads. -/
def SettingKind.read : (k : SettingKind) → String → Except Thrown (k.Val F)
  | int, str => (readInt str).map Int32.ofInt
  | flag, str => (readInt str).map fun n => decide (n ≠ 0)
  | text, str => .ok str
  | sensorType, str => ((stoul str).mapError (thrownByNumber "stoul")).map UInt16.ofNat
  | source, str => (readInt str).map UInt16.ofInt
  | sensor, str => readInt str >>= HeaterXSensors.ofInt
  | real, str | voltage, str => r.stod str
  | limit, str => (readInt str).map r.ofInt

/-- What becomes of a value that is set and got: a `double` is rounded. -/
def SettingKind.settled : (k : SettingKind) → k.Val F → Except Thrown (k.Val F)
  | real, x => r.stod (r.toString x)
  | voltage, x => r.stod (r.precise x)
  | limit, x => (readInt (r.toString x)).map r.ofInt
  | int, v | flag, v | text, v | sensorType, v | source, v | sensor, v => .ok v

end Kinds

/-! ### Settings -/

/-- The channels of a setting. -/
inductive Channels where
  /-- There are none. -/
  | single
  /-- They are numbered from one on; the texts are those of the two exceptions. -/
  | upTo (n : ℕ) (low high : String)
  /-- Four pairs, which are named by their channels. -/
  | pairs
  /-- They are not checked. -/
  | unchecked

/-- The argument for the channel. -/
def Channels.Arg : Channels → Type
  | single => Unit
  | upTo _ _ _ | pairs | unchecked => Int32

/-- The number in the key. -/
def Channels.number : (c : Channels) → c.Arg → Except Thrown (Option ℤ)
  | single, _ => .ok none
  | upTo n low high, (channel : Int32) =>
    if channel.toInt < 1 then .error (.outOfRange low)
    else if channel.toInt > n then .error (.outOfRange high)
    else .ok (some channel.toInt)
  | pairs, (pair : Int32) =>
    if pair = 1 then .ok (some 12)
    else if pair = 2 then .ok (some 34)
    else if pair = 3 then .ok (some 56)
    else if pair = 4 then .ok (some 78)
    else .error (.outOfRange "invalid value for pair in getDirection")
  | unchecked, (ch : Int32) => .ok (some ch.toInt)

/-- A setter and its getter. -/
structure Setting (F : Type) where
  word : String
  channels : Channels
  kind : SettingKind
  /-- The check of the value. -/
  check : kind.Val F → Except Thrown Unit

/-- The key in the entries of a slot. -/
def keyText (word : String) (number : Option ℤ) : String :=
  match number with
  | none => word
  | some i => numbered word i

namespace Setting

variable {F : Type}

/-- A setting without a check of its values. -/
def free (word : String) (channels : Channels) (kind : SettingKind) : Setting F where
  word := word
  channels := channels
  kind := kind
  check _ := .ok ()

variable (r : SettingReals F) (s : Setting F) (m : ArchonModule F) (ch : s.channels.Arg)

/-- The setter. -/
def set (v : s.kind.Val F) : ArchonM Unit := do
  let number ← Stateful.ofExcept (s.channels.number ch)
  Stateful.ofExcept (s.check v)
  m.writeConfigKey (keyText s.word number) (s.kind.print r v)

/-- The getter. -/
def get : ArchonM (s.kind.Val F) := do
  let number ← Stateful.ofExcept (s.channels.number ch)
  let text ← m.readConfigKey (keyText s.word number)
  Stateful.ofExcept (s.kind.read r text)

end Setting

/-- `assert_limits`. -/
def assertLimits {A : Type} (lt : A → A → Bool) (toString : A → String) (low high val : A) :
    Except Thrown Unit :=
  if lt val low then
    .error (.deviceError ("value: " ++ toString val ++ " is below limit: " ++ toString low))
  else if lt high val then
    .error (.deviceError ("value: " ++ toString val ++ "is above limit: " ++ toString high))
  else .ok ()

/-! ### `ArchonHeaterX` -/

namespace ArchonHeaterX

variable {F : Type} (r : SettingReals F) (heater : HeaterXHeaters) (sensor : HeaterXSensors)

/-- A key of a sensor. -/
def ofSensor (rest : String) : String := "SENSOR" ++ sensor.letter ++ rest

/-- A key of a heater. -/
def ofHeater (rest : String) : String := "HEATER" ++ heater.letter ++ rest

/-- `setSensorType`, `getSensorType`. -/
def sensorType : Setting F := .free (ofSensor sensor "TYPE") .single .sensorType

/-- `setSensorCurrent`, `getSensorCurrent`. -/
def sensorCurrent : Setting F := .free (ofSensor sensor "CURRENT") .single .int

/-- A limit of the temperature of a sensor. -/
def sensorLimit (rest : String) : Setting F where
  word := ofSensor sensor rest
  channels := .single
  kind := .real
  check := fun (temp : F) =>
    assertLimits r.lt r.toString (r.const (-150) 0) (r.const 50 0) temp

/-- `setSensorLowerLimit`, `getSensorLowerLimit`. -/
def sensorLowerLimit : Setting F := sensorLimit r sensor "LOWERLIMIT"

/-- `setSensorUpperLimit`, `getSensorUpperLimit`. -/
def sensorUpperLimit : Setting F := sensorLimit r sensor "UPPERLIMIT"

/-- `setSensorLabel`, `getSensorLabel`. -/
def sensorLabel : Setting F := .free (ofSensor sensor "LABEL") .single .text

/-- `setHeaterTarget`, `getHeaterTarget`, of a heater. -/
def heaterTarget : Setting F := .free (ofHeater heater "TARGET") .single .real

/-- `setHeaterSensor`, `getHeaterSensor`. -/
def heaterSensor : Setting F := .free (ofHeater heater "SENSOR") .single .sensor

/-- `setHeaterEnable`, `getHeaterEnable`. -/
def heaterEnable : Setting F := .free (ofHeater heater "ENABLE") .single .flag

/-- `setHeaterLimit`, `getHeaterLimit`. -/
def heaterLimit : Setting F := .free (ofHeater heater "LIMIT") .single .limit

/-- An `int` between two limits. -/
def limited (word : String) (low high : Int32) : Setting F where
  word := word
  channels := .single
  kind := .int
  check := fun (n : Int32) =>
    assertLimits (fun a b : Int32 => decide (a < b)) (fun a => a.toInt.repr) low high n

/-- `setHeaterP`, `getHeaterP`. -/
def heaterP : Setting F := limited (ofHeater heater "P") 0 10000

/-- `setHeaterI`, `getHeaterI`. -/
def heaterI : Setting F := limited (ofHeater heater "I") 0 10000

/-- `setHeaterIL`, `getHeaterIL`. -/
def heaterIL : Setting F := limited (ofHeater heater "IL") 0 10000

/-- `setHeaterD`, `getHeaterD`. -/
def heaterD : Setting F := limited (ofHeater heater "D") 0 10000

/-- `setHeaterUpdateTime`, `getHeaterUpdateTime`. -/
def heaterUpdateTime : Setting F := limited "HEATERUPDATETIME" 1 30000

/-- `setHeaterRamp`, `getHeaterRamp`. -/
def heaterRamp : Setting F := .free (ofHeater heater "RAMP") .single .flag

/-- `setHeaterRampRate`, `getHeaterRampRate`. -/
def heaterRampRate : Setting F := .free (ofHeater heater "RAMPRATE") .single .int

/-- `setHeaterLabel`, `getHeaterLabel`. -/
def heaterLabel : Setting F := .free (ofHeater heater "LABEL") .single .text

/-- `setHeaterTarget(int, double)`, the one that clients call: what is no heater is the first one.
-/
def setHeaterTarget (m : ArchonModule F) (heater : Int32) (target : F) : ArchonM Unit :=
  (heaterTarget (intToHeater heater).1).set r m () target

/-- `getHeaterTarget(int)`. -/
def getHeaterTarget (m : ArchonModule F) (heater : Int32) : ArchonM F :=
  (heaterTarget (intToHeater heater).1).get r m ()

/-- The settings of a sensor. -/
def sensorSettings : List (Setting F) :=
  [sensorType sensor, sensorCurrent sensor, sensorLowerLimit r sensor, sensorUpperLimit r sensor,
    sensorLabel sensor]

/-- The settings of a heater. -/
def heaterSettings : List (Setting F) :=
  [heaterTarget heater, heaterSensor heater, heaterEnable heater, heaterLimit heater,
    heaterP heater, heaterI heater, heaterIL heater, heaterD heater, heaterRamp heater,
    heaterRampRate heater, heaterLabel heater]

def settings : List (Setting F) :=
  heaterUpdateTime :: [HeaterXSensors.a, .b, .c].flatMap (sensorSettings r) ++
    [HeaterXHeaters.a, .b].flatMap heaterSettings

end ArchonHeaterX

/-! ### `archonGPIO` -/

namespace ArchonGPIO

variable {F : Type}

/-- `setDIOPower`, `getDIOPower`. -/
def dioPower : Setting F := .free "DIO_POWER" .single .flag

/-- `setDirection`, `getDirection`. -/
def direction : Setting F := .free "DIO_DIR" .pairs .flag

/-- `setLabel`, `getLabel`. -/
def label : Setting F := .free "DIO_LABEL" .unchecked .text

/-- `setSource`, `getSource`. -/
def source : Setting F := .free "DIO_SOURCE" .unchecked .source

def settings : List (Setting F) := [dioPower, direction, label, source]

end ArchonGPIO

/-! ### Biases -/

/-- The members of `ArchonGenericBias` that its functions use. -/
structure ArchonGenericBias where
  biasnmemonic : String
  numchans : ℕ

namespace ArchonGenericBias

variable {F : Type} (b : ArchonGenericBias)

/-- `check_channel_number`. -/
def channels : Channels :=
  .upTo b.numchans "invalid channel number, <1" "invalid channel number, > num_chans"

/-- `setLabel`, `getLabel`. -/
def label : Setting F := .free (b.biasnmemonic ++ "_LABEL") b.channels .text

/-- `setOrder`, `getOrder`. -/
def order : Setting F where
  word := b.biasnmemonic ++ "_ORDER"
  channels := b.channels
  kind := .int
  check := fun (sequence : Int32) =>
    if sequence < 0 then .error (.outOfRange "invalid sequence number < 1") else .ok ()

/-- `setV`, `getV`. -/
def voltage : Setting F := .free (b.biasnmemonic ++ "_V") b.channels .voltage

/-- `setEnable`, `getEnable`. -/
def enable : Setting F := .free (b.biasnmemonic ++ "_ENABLE") b.channels .flag

def settings : List (Setting F) := [b.label, b.order, b.voltage, b.enable]

end ArchonGenericBias

namespace ArchonLVX

variable {F : Type} (lcbias hcbias : ArchonGenericBias)

/-- `setLimit`, `getLimit`. -/
def limit : Setting F where
  word := "LVHC_IL"
  channels := hcbias.channels
  kind := .int
  check := fun (limit : Int32) =>
    if limit < 0 ∨ limit > 500 then
      .error (.outOfRange "invalid current limit, <0 or > 500")
    else .ok ()

/-- The settings with these banks, which the argument `HC` chooses between. -/
def settings : List (Setting F) :=
  limit hcbias :: lcbias.settings ++ hcbias.settings ++ ArchonGPIO.settings

end ArchonLVX

/-! ### `ArchonAD` and `ArchonDriver` -/

namespace ArchonAD

variable {F : Type} (r : SettingReals F)

/-- `setClamp`, `getClamp`. -/
def clamp : Setting F where
  word := "CLAMP"
  channels := .upTo 4 "invalid AD channel number" "invalid AD channel number"
  kind := .real
  check := fun (val : F) =>
    if r.lt val (r.const (-25) 1) ∨ r.lt (r.const 25 1) val then
      .error (.outOfRange "invalid clamp voltage setting!")
    else .ok ()

/-- `setPreampGain`, `getPreampGain`. -/
def preampGain : Setting F := .free "PREAMPGAIN" .single .flag

def settings : List (Setting F) := [clamp r, preampGain]

end ArchonAD

namespace ArchonDriver

variable {F : Type} (r : SettingReals F)

/-- `checkChannel`. -/
def channels : Channels :=
  .upTo 8 "invalid Driver channel number" "invalid Driver channel number"

/-- A slew rate. -/
def slewRate (word : String) : Setting F where
  word := word
  channels := channels
  kind := .real
  check := fun (val : F) =>
    if r.lt val (r.const 1 3) ∨ r.lt (r.const 1000 0) val then
      .error (.outOfRange "invalid slew rate value")
    else .ok ()

/-- `setFastSlewRate`, `getFastSlewRate`. -/
def fastSlewRate : Setting F := slewRate r "FASTSLEWRATE"

/-- `setSlowSlewRate`, `getSlowSlewRate`. -/
def slowSlewRate : Setting F := slewRate r "SLOWSLEWRATE"

/-- `setLabel`, `getLabel`. -/
def label : Setting F := .free "LABEL" channels .text

/-- `setEnable`, `getEnable`. -/
def enable : Setting F := .free "ENABLE" channels .flag

def settings : List (Setting F) := [fastSlewRate r, slowSlewRate r, label, enable]

end ArchonDriver

/-- The settings of a class. The last three are by the constructors. -/
def ModuleClass.settings {F : Type} (r : SettingReals F) : ModuleClass → List (Setting F)
  | heaterX => ArchonHeaterX.settings r ++ ArchonGPIO.settings
  | ad => ArchonAD.settings r
  | driver => ArchonDriver.settings r
  | lvx => ArchonLVX.settings ⟨"LVLC", 24⟩ ⟨"LVHC", 6⟩
  | hvx => ArchonLVX.settings ⟨"HVLC", 24⟩ ⟨"HVHC", 5⟩
  | xv => ArchonLVX.settings ⟨"XVN", 4⟩ ⟨"XVP", 4⟩

/-! ### Round trips -/

/-- A printed number of 32 bits is read back. -/
theorem readInt_repr {n : ℤ} (hlow : -2 ^ 31 ≤ n) (hhigh : n < 2 ^ 31) :
    readInt n.repr = .ok n := by
  rw [readInt, stoi_eq_ok_iff.mpr ⟨number_repr n, hlow, hhigh⟩]
  rfl

/-- A sensor is read back from its number. -/
theorem HeaterXSensors.ofInt_toInt (sensor : HeaterXSensors) : ofInt sensor.toInt = .ok sensor := by
  cases sensor <;> rfl

/-- A word of a key: printable, without `=`, digits and `-`. -/
def KeyWord (word : String) : Prop :=
  word.toList.all fun c => isprint c && c ≠ '=' && c ≠ '-' && !c.isDigit

instance (word : String) : Decidable (KeyWord word) := inferInstanceAs (Decidable (_ = _))

/-- A word of a key has neither signs nor digits. -/
theorem KeyWord.mem {word : String} (h : KeyWord word) {c : Char} (hc : c ∈ word.toList) :
    isprint c = true ∧ c ≠ '=' ∧ c ≠ '-' ∧ c.isDigit = false := by
  have := List.all_eq_true.mp h c hc
  simpa [and_assoc] using this

/-- A key made of a word and a number is printable and without `=`. -/
theorem plain_keyText {word : String} (h : KeyWord word) (number : Option ℤ) :
    Printable (keyText word number) ∧ '=' ∉ (keyText word number).toList := by
  have hprintable : Printable word := List.all_eq_true.mpr fun c hc => (h.mem hc).1
  have hplain : '=' ∉ word.toList := fun hc => (h.mem hc).2.1 rfl
  cases number with
  | none => exact ⟨hprintable, hplain⟩
  | some i => exact ⟨hprintable.numbered i, not_mem_numbered hplain (by decide) (by decide) i⟩

/-- A key of a slot is printable and without `=`, if its name is. -/
theorem plain_slotKey (slot : ℕ) {name : String} (h : Printable name ∧ '=' ∉ name.toList) :
    Printable (slotKey slot "/" name) ∧ '=' ∉ (slotKey slot "/" name).toList := by
  have hkey : slotKey slot "/" name = numbered "MOD" slot ++ "/" ++ name := rfl
  have hprintable : Printable (numbered "MOD" slot) := Printable.numbered (by decide) slot
  have hplain : '=' ∉ (numbered "MOD" slot).toList :=
    not_mem_numbered (by decide) (by decide) (by decide) slot
  rw [hkey]
  refine ⟨(hprintable.append (by decide)).append h.1, ?_⟩
  rw [String.toList_append, String.toList_append, List.mem_append, List.mem_append, not_or, not_or]
  exact ⟨⟨hplain, by decide⟩, h.2⟩

private theorem family_slotKey (slot : ℕ) (name : String) :
    family (slotKey slot "/" name) = "MOD".toList := by
  have hkey : slotKey slot "/" name = numbered "MOD" slot ++ ("/" ++ name) :=
    String.append_assoc ..
  rw [hkey, family_numbered_append (by decide)]

/-- No entry of a slot is among keys of other families. -/
theorem slotKey_not_mem {keys : List String} (h : ∀ key ∈ keys, family key ≠ "MOD".toList)
    (slot : ℕ) (name : String) : slotKey slot "/" name ∉ keys :=
  fun hmem => h _ hmem (family_slotKey slot name)

/-- No key of a slot is the key of a parameter. -/
theorem not_isParameterKey_slotKey (slot : ℕ) (name : String) :
    ¬ IsParameterKey (slotKey slot "/" name) := by
  have hne := slotKey_not_mem (by decide : ∀ key ∈ ["PARAMETERS"], _) slot name
  refine not_isParameterKey (fun heq => hne (heq ▸ List.mem_singleton_self _)) ?_
  rw [family_slotKey]
  decide

namespace ModuleClass

/-- Without numbers there are the same settings. -/
private def noReals : SettingReals Unit where
  const _ _ := ()
  lt _ _ := false
  ofInt _ := ()
  toString _ := ""
  precise _ := ""
  stod _ := .ok ()
  printable_toString _ := by decide
  printable_precise _ := by decide

variable {F : Type} (r : SettingReals F) (cls : ModuleClass)

/-- Only the checks of the values use the reals. -/
theorem words_eq (r : SettingReals F) (cls : ModuleClass) :
    (cls.settings r).map Setting.word = (cls.settings noReals).map Setting.word := by
  cases cls <;> rfl

/-- The settings have words that can be keys. -/
theorem keyWord_of_mem {s : Setting F} (h : s ∈ cls.settings r) : KeyWord s.word := by
  have hall : ∀ cls : ModuleClass, ∀ word ∈ (cls.settings noReals).map Setting.word,
      KeyWord word := by
    intro cls
    cases cls <;> decide +kernel
  exact hall cls s.word (words_eq r cls ▸ List.mem_map_of_mem h)

end ModuleClass

end Foxtrot
