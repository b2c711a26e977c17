import Foxtrot.Foundation.Stateful
import Foxtrot.Pfeiffer.Checksum

/-!
# Commands of the Pfeiffer devices

A parameter of a Pfeiffer device (`devices/Pfeiffer/Pfeiffer.h`) is read with `read_cmd_helper` and
written with `write_cmd_helper`, which prints a number as the data type of the parameter wants it.
The widths that it prints with are the least ones: a number that needs more digits has them
(`length_strFromDataType_iff`).

`Pump` is a device that keeps to the protocol: it stores the data of each parameter, answers
telegrams with their right checksum, and no others. `writeCmdHelper_on` says what it stores, and
`readCmdHelper_on` that the data is read again.

A telegram is a frame of numbers behind each other, each at its place and with its width. The fields
of a text are cut out by position, so what a device reads of a written frame is the frame as long as
each number fits in its place (`Frame.Fits`). The checksum goes through two conventions, the `char`
sum of the driver and the sum of the protocol, which agree on the digits of a setting
(`lastAddsUp_settingFrame`).
-/

namespace Foxtrot

open Fallible Text

namespace Pfeiffer

/-- `pfeiffer_data_types`. -/
inductive PfeifferDataTypes where
  | boolean
  | positiveIntegerLong
  | positiveFixedCommaNumber
  | symbolChainShort
  | newBoolean
  | positiveIntegerShort
  | symbolChainLong
  deriving DecidableEq

/-- The number of characters that the data of a type has. -/
def PfeifferDataTypes.width : PfeifferDataTypes → ℕ
  | boolean | positiveIntegerLong | positiveFixedCommaNumber | symbolChainShort => 6
  | newBoolean => 1
  | positiveIntegerShort => 3
  | symbolChainLong => 16

/-- `str_from_number`, with a data type. -/
def strFromDataType (number : ℕ) : PfeifferDataTypes → Except Thrown String
  | .boolean => .ok (String.join (List.replicate 6 number.repr))
  | .newBoolean => .ok number.repr
  | .positiveIntegerLong | .positiveFixedCommaNumber | .symbolChainShort =>
    .ok (strFromNumber number 6)
  | .positiveIntegerShort => .ok (strFromNumber number 3)
  -- the case has no `break`, and falls through to the next one
  | .symbolChainLong => .error (.exception "invalid pfieffer data type!")

/-! ### A pump -/

/-- What a telegram of the protocol says. -/
structure Frame where
  address : ℕ
  action : PfeifferAction
  parameter : ℕ
  data : String
  deriving DecidableEq

/-- A telegram up to the checksum. -/
def Frame.request (frame : Frame) : String :=
  strFromNumber frame.address 3 ++ strFromNumber frame.action.code 2 ++
    strFromNumber frame.parameter 3 ++ (strFromNumber frame.data.length 2 ++ frame.data)

/-- A telegram of the protocol. -/
def Frame.text (frame : Frame) : String := frame.request ++ threeDigits frame.request ++ "\r"

/-- The frame of a setting, or of the answer to a request for it. -/
def settingFrame (parameter : ℕ) (data : String) : Frame := ⟨1, .describe, parameter, data⟩

/-- The frame of a request for a setting. -/
def requestFrame (parameter : ℕ) : Frame := ⟨1, .read, parameter, "=?"⟩

/-- A number at its place in a telegram. -/
def numberField (text : String) (pos width : ℕ) : Option ℕ :=
  (substr text pos width).bind fun field => Decimal.readNat field.toList

/-- Reads a telegram of the protocol. -/
def readFrame (text : String) : Option Frame := do
  let address ← numberField text 0 3
  let code ← numberField text 3 2
  let parameter ← numberField text 5 3
  let length ← numberField text 8 2
  let data ← substr text 10 length
  let frame : Frame := ⟨address, if code = 0 then .read else .describe, parameter, data⟩
  if frame.text = text then some frame else none

/-- A pump with the address 1: the data that it stores for each parameter, and the telegrams that
have been written, with the latest in front. -/
@[ext]
structure Pump where
  fields : ℕ → Option String
  written : List String

/-- The answer of a pump to a telegram, and the pump after it. The answer to a parameter that is not
defined is `NO_DEF`. -/
def Pump.receive (pump : Pump) (text : String) : Option String × Pump :=
  let pump := { pump with written := text :: pump.written }
  match readFrame text with
  | none => (none, pump)
  | some frame =>
    if frame.address ≠ 1 then (none, pump)
    else
      match frame.action with
      | .read =>
        let data := (pump.fields frame.parameter).getD "NO_DEF"
        (some (Frame.text { frame with action := .describe, data }), pump)
      | .describe =>
        let fields := Function.update pump.fields frame.parameter (some frame.data)
        (some frame.text, { pump with fields })

abbrev PfeifferM := Stateful Pump Thrown

/-! ### Commands -/

/-- `SerialPort::write` of a telegram, and `read_until_endl` of the answer. -/
def exchange (text : String) : PfeifferM String :=
  ExceptT.mk fun pump =>
    ((pump.receive text).1.elim (.error (.protocolError "serial port read timed out...")) .ok,
      (pump.receive text).2)

/-- `cmd`. -/
def cmd (request : String) : PfeifferM String := exchange (telegram request)

/-- `validate_response_telegram_parameters`. -/
def validateResponseTelegramParameters (address parameter : ℕ) (resp : ℤ × ℤ × String) :
    Except Thrown Unit := do
  if resp.1 ≠ address then
    throw (.deviceError "bad device address in reply!")
  if resp.2.1 ≠ parameter then
    throw (.deviceError "mismatched parameter number in reply!")
  if resp.2.2.length = 6 then
    if resp.2.2 = "NO_DEF" then
      throw (.deviceError "the parameter number does not exist")
    else if resp.2.2 = "_RANGE" then
      throw (.deviceError "the parameter is out of range")
    else if resp.2.2 = "_LOGIC" then
      throw (.deviceError "Logical Access Violation")

/-- A command, its answer, and what the answer says. -/
def interpreted (address parameter : ℕ) (readwrite : PfeifferAction) (data : Option String) :
    PfeifferM (ℤ × ℤ × String) := do
  let request ← Stateful.ofExcept (semanticCommand address parameter readwrite data)
  let interpret ← Stateful.ofExcept (interpretResponseTelegram (← cmd request))
  Stateful.ofExcept (validateResponseTelegramParameters address parameter interpret)
  return interpret

/-- `read_cmd_helper`. -/
def readCmdHelper (addr param : ℕ) : PfeifferM String := do
  return (← interpreted addr param .read none).2.2

/-- `write_cmd_helper`. -/
def writeCmdHelper (addr param value : ℕ) (dtype : PfeifferDataTypes) : PfeifferM Unit := do
  let st ← Stateful.ofExcept (strFromDataType value dtype)
  let _ ← interpreted addr param .describe (some st)

/-! ### The text of a number -/

/-- The numbers that have their digits in the width of the type. -/
def PfeifferDataTypes.bound : PfeifferDataTypes → ℕ
  | boolean | newBoolean => 10
  | positiveIntegerLong | positiveFixedCommaNumber | symbolChainShort => 10 ^ 6
  | positiveIntegerShort => 10 ^ 3
  | symbolChainLong => 0

/-- What a digit is multiplied with where it is printed several times. -/
def PfeifferDataTypes.repeated : PfeifferDataTypes → ℕ
  | boolean => 111111
  | _ => 1

def AllDigits (text : String) : Prop := ∀ c ∈ text.toList, c.isDigit

/-- Digits after digits. -/
theorem AllDigits.append {text text' : String} (h : AllDigits text) (h' : AllDigits text') :
    AllDigits (text ++ text') := by
  intro c hc
  rw [String.toList_append] at hc
  exact (List.mem_append.mp hc).elim (h c) (h' c)

private theorem allDigits_repr (n : ℕ) : AllDigits n.repr := by
  intro c hc
  rw [Nat.toList_repr] at hc
  exact List.all_eq_true.mp (all_isDigit_toDigits n) c hc

private theorem allDigits_strFromNumber (n width : ℕ) : AllDigits (strFromNumber n width) := by
  intro c hc
  rw [strFromNumber, toList_zeroFilled, List.mem_append, List.mem_replicate] at hc
  obtain ⟨-, rfl⟩ | hdigits := hc
  · rfl
  · exact allDigits_repr n c hdigits

/-- A number has its width exactly if it is small enough. -/
private theorem length_strFromNumber_eq_iff {n width : ℕ} (h : 0 < width) :
    (strFromNumber n width).length = width ↔ n < 10 ^ width := by
  refine ⟨fun hlength => ?_, length_strFromNumber h⟩
  have htext := congrArg List.length (toList_zeroFilled n width)
  have hrepr : (n : ℤ).repr = n.repr := rfl
  rw [List.length_append, String.length_toList, String.length_toList, hrepr] at htext
  rw [strFromNumber] at hlength
  rw [← Nat.length_repr_le_iff h]
  omega

/-- A greater number is longer than its width, by what it needs. -/
private theorem length_strFromNumber_le (n width : ℕ) :
    (strFromNumber n width).length ≤ width + n.repr.length := by
  have htext := congrArg List.length (toList_zeroFilled n width)
  have hrepr : (n : ℤ).repr = n.repr := rfl
  rw [List.length_append, List.length_replicate, String.length_toList, String.length_toList, hrepr]
    at htext
  rw [strFromNumber]
  omega

private theorem length_repr_eq_one_iff {n : ℕ} : n.repr.length = 1 ↔ n < 10 := by
  have hle : n.repr.length ≤ 1 ↔ n < 10 ^ 1 := Nat.length_repr_le_iff (by decide)
  have hpos : 0 < n.repr.length := Nat.length_repr_pos
  omega

/-- The six copies of a boolean. -/
theorem join_replicate_six (text : String) : String.join (List.replicate 6 text) =
    "" ++ text ++ text ++ text ++ text ++ text ++ text := rfl

/-- **The widths are least widths**: a number is printed with the width of the data type exactly if
its digits fit into it. -/
theorem length_strFromDataType_iff {number : ℕ} {dtype : PfeifferDataTypes} {data : String}
    (h : strFromDataType number dtype = .ok data) :
    data.length = dtype.width ↔ number < dtype.bound := by
  cases dtype with
  | boolean =>
    obtain rfl := Except.ok.inj h
    have hempty : "".length = 0 := rfl
    have hone := length_repr_eq_one_iff (n := number)
    rw [join_replicate_six]
    simp only [String.length_append, PfeifferDataTypes.width, PfeifferDataTypes.bound]
    omega
  | newBoolean =>
    obtain rfl := Except.ok.inj h
    exact length_repr_eq_one_iff
  | positiveIntegerLong | positiveFixedCommaNumber | symbolChainShort | positiveIntegerShort =>
    obtain rfl := Except.ok.inj h
    exact length_strFromNumber_eq_iff (by decide)
  | symbolChainLong => cases h

/-- The length of what is printed of a `short unsigned` is declared with two digits. -/
theorem length_strFromDataType_lt {number : ℕ} {dtype : PfeifferDataTypes} {data : String}
    (h : strFromDataType number dtype = .ok data) (hnumber : number < 2 ^ 16) :
    data.length < 10 ^ 2 := by
  have hrepr : number.repr.length ≤ 5 := (Nat.length_repr_le_iff (by decide)).mpr (by omega)
  cases dtype with
  | boolean =>
    obtain rfl := Except.ok.inj h
    have hempty : "".length = 0 := rfl
    rw [join_replicate_six]
    simp only [String.length_append]
    omega
  | newBoolean =>
    obtain rfl := Except.ok.inj h
    omega
  | positiveIntegerLong | positiveFixedCommaNumber | symbolChainShort | positiveIntegerShort =>
    obtain rfl := Except.ok.inj h
    exact (length_strFromNumber_le number _).trans_lt (by omega)
  | symbolChainLong => cases h

/-- The data of a setting are digits. -/
theorem allDigits_strFromDataType {number : ℕ} {dtype : PfeifferDataTypes} {data : String}
    (h : strFromDataType number dtype = .ok data) : AllDigits data := by
  cases dtype with
  | boolean =>
    obtain rfl := Except.ok.inj h
    have hempty : AllDigits "" := fun _ hc => (nomatch hc)
    have hdigits := allDigits_repr number
    rw [join_replicate_six]
    exact (((((hempty.append hdigits).append hdigits).append hdigits).append hdigits).append
      hdigits).append hdigits
  | newBoolean =>
    obtain rfl := Except.ok.inj h
    exact allDigits_repr number
  | positiveIntegerLong | positiveFixedCommaNumber | symbolChainShort | positiveIntegerShort =>
    obtain rfl := Except.ok.inj h
    exact allDigits_strFromNumber number _
  | symbolChainLong => cases h

/-- A number that fits is read again, with its copies if there are any. -/
theorem stoul_strFromDataType {number : ℕ} {dtype : PfeifferDataTypes} {data : String}
    (h : strFromDataType number dtype = .ok data) (hlt : number < dtype.bound) :
    stoul data = .ok (number * dtype.repeated) := by
  cases dtype with
  | boolean =>
    have hall : ∀ n < 10, stoul (String.join (List.replicate 6 n.repr)) = .ok (n * 111111) := by
      decide
    obtain rfl := Except.ok.inj h
    exact hall number hlt
  | newBoolean =>
    obtain rfl := Except.ok.inj h
    rw [PfeifferDataTypes.bound] at hlt
    exact (stoul_repr (by omega)).trans (congrArg Except.ok (Nat.mul_one number).symm)
  | positiveIntegerLong | positiveFixedCommaNumber | symbolChainShort | positiveIntegerShort =>
    obtain rfl := Except.ok.inj h
    rw [PfeifferDataTypes.bound] at hlt
    exact (stoul_zeroFilled (by omega) _).trans (congrArg Except.ok (Nat.mul_one number).symm)
  | symbolChainLong => cases h

/-! ### Telegrams with their right checksum -/

private theorem byteSum_append (text text' : String) :
    byteSum (text ++ text') = byteSum text + byteSum text' := by
  rw [byteSum, String.toList_append, List.map_append, List.sum_append]
  rfl

/-- A digit is between 48 and 57. -/
theorem byte_bounds {c : Char} (h : c.isDigit) : 48 ≤ byte c ∧ byte c ≤ 57 := by
  obtain ⟨hlow, hhigh⟩ := toNat_of_isDigit h
  rw [byte]
  omega

/-- Digits have sums between those of zeros and of nines. -/
private theorem byteSum_bounds {text : String} (h : AllDigits text) :
    48 * text.length ≤ byteSum text ∧ byteSum text ≤ 57 * text.length := by
  rw [AllDigits] at h
  rw [byteSum, ← String.length_toList]
  generalize text.toList = cs at h ⊢
  induction cs with
  | nil => simp
  | cons c cs ih =>
    obtain ⟨hc, hcs⟩ := List.forall_mem_cons.mp h
    obtain ⟨hlow, hhigh⟩ := byte_bounds hc
    obtain ⟨ihlow, ihhigh⟩ := ih hcs
    rw [List.map_cons, List.sum_cons, List.length_cons]
    omega

/-- The last character is added to those before it. -/
theorem lastAddsUp_append_singleton {front : String} {c : Char} :
    LastAddsUp (front ++ String.singleton c) ↔ AddUp (byteSum front % 256) (byte c) := by
  simp only [LastAddsUp, String.toList_append, String.toList_singleton, List.getLast?_concat,
    List.dropLast_concat, Option.mem_some_iff, forall_eq']
  rfl

/-- A text that is not empty has a last character. -/
theorem exists_append_singleton {text : String} {n : ℕ} (h : text.length = n + 1) :
    ∃ front c, text = front ++ String.singleton c ∧ front.length = n := by
  have hlist : text.toList.length = n + 1 := h
  have hne : text.toList ≠ [] := by
    intro hnil
    rw [hnil] at hlist
    cases hlist
  refine ⟨String.ofList text.toList.dropLast, text.toList.getLast hne, String.toList_inj.mp ?_, ?_⟩
  · rw [String.toList_append, String.toList_ofList, String.toList_singleton,
      List.dropLast_append_getLast hne]
  · rw [String.length_ofList, List.length_dropLast, hlist]
    rfl

/-- The data of a setting: three digits, or six. -/
structure IsSettingData (data : String) : Prop where
  digits : AllDigits data
  length : data.length = 3 ∨ data.length = 6

/-- A request is added up to its last character. -/
theorem lastAddsUp_request {readwrite : PfeifferAction} {parameter : ℕ} {front : String}
    {c : Char} :
    LastAddsUp (Frame.request ⟨1, readwrite, parameter, front ++ String.singleton c⟩) ↔
      AddUp ((145 + byteSum (strFromNumber readwrite.code 2) +
        byteSum (strFromNumber parameter 3) +
          byteSum (strFromNumber (front ++ String.singleton c).length 2) + byteSum front) % 256)
        (byte c) := by
  have haddress : byteSum (strFromNumber 1 3) = 145 := by decide
  rw [Frame.request, ← String.append_assoc, ← String.append_assoc, lastAddsUp_append_singleton]
  simp only [byteSum_append, Nat.cast_one, haddress]

private theorem byteSum_parameter {parameter : ℕ} (h : parameter < 1000) :
    144 ≤ byteSum (strFromNumber parameter 3) ∧ byteSum (strFromNumber parameter 3) ≤ 171 := by
  have hbounds := byteSum_bounds (allDigits_strFromNumber parameter 3)
  rwa [length_strFromNumber (by decide) h] at hbounds

/-- **The telegrams of settings have the right checksum.** -/
theorem lastAddsUp_settingFrame {parameter : ℕ} {data : String} (hparameter : parameter < 1000)
    (hdata : IsSettingData data) : LastAddsUp (settingFrame parameter data).request := by
  obtain ⟨n, hn⟩ : ∃ n, data.length = n + 1 ∧ (n = 2 ∨ n = 5) :=
    ⟨data.length - 1, by have := hdata.length; omega⟩
  obtain ⟨front, c, rfl, hfront⟩ := exists_append_singleton hn.1
  have hdigits := hdata.digits
  have hfrontDigits : AllDigits front := fun d hd => hdigits d (by simp [hd])
  have hc := byte_bounds (hdigits c (by simp))
  have hsum := byteSum_bounds hfrontDigits
  have hparameterSum := byteSum_parameter hparameter
  have haction : byteSum (strFromNumber PfeifferAction.describe.code 2) = 97 := by decide
  rw [settingFrame, lastAddsUp_request, haction, hn.1]
  unfold AddUp
  obtain rfl | rfl := hn.2
  · have hlength : byteSum (strFromNumber ((2 + 1 : ℕ) : ℤ) 2) = 99 := by decide
    omega
  · have hlength : byteSum (strFromNumber ((5 + 1 : ℕ) : ℤ) 2) = 102 := by decide
    omega

/-- The requests for the data have it too. -/
theorem lastAddsUp_requestFrame {parameter : ℕ} (hparameter : parameter < 1000) :
    LastAddsUp (requestFrame parameter).request := by
  have hdata : "=?" = "=" ++ String.singleton '?' := rfl
  have hparameterSum := byteSum_parameter hparameter
  have haction : byteSum (strFromNumber PfeifferAction.read.code 2) = 96 := by decide
  have hlength : byteSum (strFromNumber ("=" ++ String.singleton '?').length 2) = 98 := by decide
  have hfront : byteSum "=" = 61 := by decide
  have hlast : byte '?' = 63 := by decide
  rw [requestFrame, hdata, lastAddsUp_request, haction, hlength, hfront, hlast]
  unfold AddUp
  omega

/-! ### The pump -/

/-- A request that adds up is written with the checksum of the protocol. -/
theorem telegram_request {frame : Frame} (h : LastAddsUp frame.request) :
    telegram frame.request = frame.text := by
  rw [telegram, (calculateChecksum_eq_iff frame.request).mpr h]
  rfl

/-- The pump reads a field of its width. -/
theorem numberField_eq_some {text : String} {n pos width : ℕ}
    (h : substr text pos width = some (strFromNumber n width)) :
    numberField text pos width = some n := by
  have hdigits := Decimal.readNat_replicate_zero_append (Decimal.readNat_repr n)
    (width - (n : ℤ).repr.length)
  rw [numberField, h, Option.bind_some, strFromNumber, toList_zeroFilled]
  exact hdigits

/-- A filled number determines the number. -/
theorem strFromNumber_inj {m n width width' : ℕ}
    (h : strFromNumber m width = strFromNumber n width') : m = n := by
  have hnumber := number_zeroFilled m width
  rw [← strFromNumber, h, strFromNumber, number_zeroFilled, Option.some_inj] at hnumber
  omega

/-- A frame whose numbers have their places. -/
structure Frame.Fits (frame : Frame) : Prop where
  address_lt : frame.address < 10 ^ 3
  parameter_lt : frame.parameter < 10 ^ 3
  length_lt : frame.data.length < 10 ^ 2

/-- The fields of a telegram, whatever its checksum is. -/
theorem Frame.Fits.substr_request {frame : Frame} (h : frame.Fits) (rest : String) :
    substr (frame.request ++ rest) 0 3 = some (strFromNumber frame.address 3) ∧
      substr (frame.request ++ rest) 3 2 = some (strFromNumber frame.action.code 2) ∧
        substr (frame.request ++ rest) 5 3 = some (strFromNumber frame.parameter 3) ∧
          substr (frame.request ++ rest) 8 2 = some (strFromNumber frame.data.length 2) ∧
            substr (frame.request ++ rest) 10 frame.data.length = some frame.data := by
  have haction : frame.action.code < 10 ^ 2 := by cases frame.action <;> decide
  have htext : frame.request ++ rest = strFromNumber frame.address 3 ++
      strFromNumber frame.action.code 2 ++ strFromNumber frame.parameter 3 ++
        strFromNumber frame.data.length 2 ++ frame.data ++ rest := by
    simp only [Frame.request, String.append_assoc]
  exact substr_fields htext (length_strFromNumber (by decide) h.address_lt)
    (length_strFromNumber (by decide) haction) (length_strFromNumber (by decide) h.parameter_lt)
    (length_strFromNumber (by decide) h.length_lt)

/-- The fields of what is written, which may have another checksum. -/
theorem Frame.Fits.substr_telegram {frame : Frame} (h : frame.Fits) :
    substr (telegram frame.request) 5 3 = some (strFromNumber frame.parameter 3) ∧
      substr (telegram frame.request) 8 2 = some (strFromNumber frame.data.length 2) := by
  obtain ⟨-, -, hparameter, hlength, -⟩ :=
    h.substr_request (calculateChecksum frame.request ++ "\r")
  rw [← String.append_assoc] at hparameter hlength
  exact ⟨hparameter, hlength⟩

/-- **A telegram is read as what it says.** -/
theorem readFrame_text {frame : Frame} (h : frame.Fits) : readFrame frame.text = some frame := by
  have htext : frame.text = frame.request ++ (threeDigits frame.request ++ "\r") :=
    String.append_assoc
  have hfields := h.substr_request (threeDigits frame.request ++ "\r")
  rw [← htext] at hfields
  obtain ⟨haddress, haction, hparameter, hlength, hdata⟩ := hfields
  have hread : (if frame.action.code = 0 then .read else .describe) = frame.action := by
    cases frame.action <;> rfl
  rw [readFrame, numberField_eq_some haddress, numberField_eq_some haction,
    numberField_eq_some hparameter, numberField_eq_some hlength]
  simp only [Option.bind_eq_bind, Option.bind_some, hdata, hread, if_true]

/-- The parameter that is read is at its place. -/
theorem numberField_of_readFrame {text : String} {frame : Frame} (h : readFrame text = some frame) :
    numberField text 5 3 = some frame.parameter := by
  simp only [readFrame, Option.bind_eq_bind, Option.bind_eq_some_iff,
    Option.ite_none_right_eq_some, Option.some_inj] at h
  obtain ⟨_, _, _, _, parameter, hparameter, _, _, _, _, _, rfl⟩ := h
  exact hparameter

section Exchange

variable {parameter : ℕ} {data : String} {pump : Pump}

private theorem fits_settingFrame (hparameter : parameter < 1000) (hdata : IsSettingData data) :
    (settingFrame parameter data).Fits := by
  have hlength : data.length < 10 ^ 2 := by
    obtain h | h := hdata.length <;> omega
  exact ⟨(by decide : 1 < 10 ^ 3), hparameter, hlength⟩

private theorem fits_requestFrame (hparameter : parameter < 1000) : (requestFrame parameter).Fits :=
  ⟨(by decide : 1 < 10 ^ 3), hparameter, (by decide : "=?".length < 10 ^ 2)⟩

/-- The pump stores the data of a setting, and answers with its telegram. -/
theorem receive_setting (hparameter : parameter < 1000) (hdata : IsSettingData data) :
    pump.receive (settingFrame parameter data).text =
      (some (settingFrame parameter data).text,
        ⟨Function.update pump.fields parameter (some data),
          (settingFrame parameter data).text :: pump.written⟩) := by
  unfold Pump.receive
  rw [readFrame_text (fits_settingFrame hparameter hdata)]
  rfl

/-- It answers a request with the data that is stored. -/
theorem receive_request (hparameter : parameter < 1000)
    (hstored : pump.fields parameter = some data) :
    pump.receive (requestFrame parameter).text =
      (some (settingFrame parameter data).text,
        { pump with written := (requestFrame parameter).text :: pump.written }) := by
  have hdata : (pump.fields parameter).getD "NO_DEF" = data := by
    rw [hstored]
    rfl
  unfold Pump.receive
  rw [readFrame_text (fits_requestFrame hparameter), ← hdata]
  rfl

/-- The answer is accepted. -/
theorem interpretResponseTelegram_setting (hparameter : parameter < 1000)
    (hdata : IsSettingData data) :
    interpretResponseTelegram (settingFrame parameter data).text = .ok (1, ↑parameter, data) := by
  have hadds := lastAddsUp_settingFrame hparameter hdata
  have hlength := (fits_settingFrame hparameter hdata).length_lt
  have htelegram : IsTelegram (settingFrame parameter data).text 1 parameter data
      (settingFrame parameter data).request :=
    ⟨by decide, hparameter, Nat.le_of_lt_succ hlength, ⟨.describe, some data, rfl, rfl⟩,
      (telegram_request hadds).symm⟩
  have hnonneg : 0 ≤ (checksum (settingFrame parameter data).request).tmod 256 := hadds.tmod_nonneg
  exact interpretResponseTelegram_of_lt htelegram (by omega)

private theorem validateResponseTelegramParameters_setting (hdata : IsSettingData data) :
    validateResponseTelegramParameters 1 parameter (1, ↑parameter, data) = .ok () := by
  -- the answers that report an error are not digits
  have hletter : ∀ c ∈ data.toList, c ≠ 'O' ∧ c ≠ 'A' := by
    intro c hc
    have hdigit := hdata.digits c hc
    constructor <;> rintro rfl <;> exact absurd hdigit (by decide)
  have hno : data ≠ "NO_DEF" := fun h => (hletter 'O' (by rw [h]; decide)).1 rfl
  have hrange : data ≠ "_RANGE" := fun h => (hletter 'A' (by rw [h]; decide)).2 rfl
  have hlogic : data ≠ "_LOGIC" := fun h => (hletter 'O' (by rw [h]; decide)).1 rfl
  simp only [validateResponseTelegramParameters, Nat.cast_one, ne_eq, not_true_eq_false,
    ↓reduceIte, hno, hrange, hlogic, ite_self]
  rfl

/-! ### Exchanges -/

/-- The pump notes what it receives. -/
theorem receive_written (pump : Pump) (text : String) :
    (pump.receive text).2.written = text :: pump.written := by
  unfold Pump.receive
  cases readFrame text with
  | none => rfl
  | some frame =>
    by_cases haddress : frame.address ≠ 1
    · simp only [if_pos haddress]
    · simp only [if_neg haddress]
      cases frame.action <;> rfl

/-- The data of another parameter stays as it is. -/
theorem receive_fields_of_ne {text : String} {parameter' : ℕ}
    (htext : numberField text 5 3 = some parameter) (hne : parameter' ≠ parameter) :
    (pump.receive text).2.fields parameter' = pump.fields parameter' := by
  unfold Pump.receive
  cases hread : readFrame text with
  | none => rfl
  | some frame =>
    by_cases haddress : frame.address ≠ 1
    · simp only [if_pos haddress]
    · have hparameter := numberField_of_readFrame hread
      rw [htext, Option.some_inj] at hparameter
      simp only [if_neg haddress]
      cases frame.action with
      | read => rfl
      | describe => exact Function.update_of_ne (hparameter ▸ hne) _ _

/-- A command leaves the pump as its telegram does. -/
theorem interpreted_state {address : ℕ} {readwrite : PfeifferAction} {arg : Option String}
    {request : String} (h : semanticCommand address parameter readwrite arg = .ok request) :
    ((interpreted address parameter readwrite arg).on pump).2 =
      (pump.receive (telegram request)).2 := by
  have hrest : ∀ answer : String, Stateful.Maintains (· = (pump.receive (telegram request)).2) (do
      let interpret ← Stateful.ofExcept (interpretResponseTelegram answer)
      Stateful.ofExcept (validateResponseTelegramParameters address parameter interpret)
      return interpret : PfeifferM (ℤ × ℤ × String)) :=
    fun _ => (Stateful.Maintains.ofExcept _).bind fun _ =>
      (Stateful.Maintains.ofExcept _).bind fun _ => Stateful.Maintains.pure _
  have hcmd : (cmd request).on pump =
      ((pump.receive (telegram request)).1.elim
        (.error (.protocolError "serial port read timed out...")) .ok,
          (pump.receive (telegram request)).2) := rfl
  rw [interpreted, h, Stateful.on_bind_of_ok (Stateful.on_ofExcept (.ok request) pump)]
  cases hanswer : (pump.receive (telegram request)).1 with
  | none =>
    rw [hanswer] at hcmd
    rw [Stateful.on_bind_of_error hcmd]
  | some answer =>
    rw [hanswer] at hcmd
    rw [Stateful.on_bind_of_ok hcmd]
    exact hrest answer _ rfl

/-- A command whose answer is right returns what that says. -/
theorem interpreted_on {readwrite : PfeifferAction} {arg : Option String} {frame : Frame}
    {pump' : Pump} (hrequest : semanticCommand 1 parameter readwrite arg = .ok frame.request)
    (hadds : LastAddsUp frame.request) (hparameter : parameter < 1000) (hdata : IsSettingData data)
    (hreceive : pump.receive frame.text = (some (settingFrame parameter data).text, pump')) :
    (interpreted 1 parameter readwrite arg).on pump = (.ok (1, ↑parameter, data), pump') := by
  have hcmd : (cmd frame.request).on pump = (.ok (settingFrame parameter data).text, pump') := by
    have hon : (cmd frame.request).on pump = ((pump.receive (telegram frame.request)).1.elim
        (.error (.protocolError "serial port read timed out...")) .ok,
          (pump.receive (telegram frame.request)).2) := rfl
    rw [hon, telegram_request hadds, hreceive]
    rfl
  have hinterpret := interpretResponseTelegram_setting hparameter hdata
  have hvalidate : validateResponseTelegramParameters 1 parameter (1, ↑parameter, data) = .ok () :=
    validateResponseTelegramParameters_setting hdata
  rw [interpreted, hrequest, Stateful.on_bind_of_ok (Stateful.on_ofExcept (.ok frame.request) pump),
    Stateful.on_bind_of_ok hcmd, hinterpret, Stateful.on_bind_of_ok (Stateful.on_ofExcept _ pump'),
    hvalidate, Stateful.on_bind_of_ok (Stateful.on_ofExcept _ pump')]
  rfl

/-- **A setting is stored.** -/
theorem writeCmdHelper_on {value : ℕ} {dtype : PfeifferDataTypes} (hparameter : parameter < 1000)
    (hst : strFromDataType value dtype = .ok data) (hdata : IsSettingData data) :
    (writeCmdHelper 1 parameter value dtype).on pump =
      (.ok (), ⟨Function.update pump.fields parameter (some data),
        (settingFrame parameter data).text :: pump.written⟩) := by
  have hrequest : semanticCommand 1 parameter .describe (some data) =
      .ok (settingFrame parameter data).request := rfl
  have hreceive : pump.receive (settingFrame parameter data).text = _ :=
    receive_setting hparameter hdata
  have hon := interpreted_on hrequest (lastAddsUp_settingFrame hparameter hdata) hparameter hdata
    hreceive
  rw [writeCmdHelper, hst, Stateful.on_bind_of_ok (Stateful.on_ofExcept (.ok data) pump),
    Stateful.on_bind_of_ok hon]
  rfl

/-- What a setting sends, and what it leaves alone. -/
theorem writeCmdHelper_state {value : ℕ} {dtype : PfeifferDataTypes}
    (hst : strFromDataType value dtype = .ok data) :
    ((writeCmdHelper 1 parameter value dtype).on pump).2 =
      (pump.receive (telegram (settingFrame parameter data).request)).2 := by
  have hrequest : semanticCommand 1 parameter .describe (some data) =
      .ok (settingFrame parameter data).request := rfl
  have hstate : ((interpreted 1 parameter .describe (some data)).on pump).2 = _ :=
    interpreted_state hrequest
  rw [writeCmdHelper, hst, Stateful.on_bind_of_ok (Stateful.on_ofExcept (.ok data) pump), ← hstate,
    Stateful.on_bind_pure]

/-- **A setting is read as it is stored.** -/
theorem readCmdHelper_on (hparameter : parameter < 1000) (hdata : IsSettingData data)
    (hstored : pump.fields parameter = some data) :
    (readCmdHelper 1 parameter).on pump =
      (.ok data, { pump with written := (requestFrame parameter).text :: pump.written }) := by
  have hrequest : semanticCommand 1 parameter .read none =
      .ok (requestFrame parameter).request := by
    have hdata : "02=?" = strFromNumber "=?".length 2 ++ "=?" := by decide
    rw [semanticCommand, hdata]
    rfl
  have hon := interpreted_on hrequest (lastAddsUp_requestFrame hparameter) hparameter hdata
    (receive_request hparameter hstored)
  rw [readCmdHelper, Stateful.on_bind_of_ok hon]
  rfl

end Exchange

end Pfeiffer

end Foxtrot
