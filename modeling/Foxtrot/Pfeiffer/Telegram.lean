import Foxtrot.Foundation.Fallible
import Foxtrot.Foundation.Text
import Foxtrot.Server.Handler
import Mathlib.Data.List.Induction

/-!
# Pfeiffer telegrams

A telegram of the Pfeiffer protocol (`devices/Pfeiffer/Pfeiffer.cpp`) has an address, an action, a
parameter number, the length of its data, the data and a checksum, all as decimal numbers of fixed
width but the data, and ends with a carriage return.

The checksum is added up in signed characters, so it may be negative, and then it is printed with
its sign. From -100 on it has four characters, and the telegram is not accepted. On the other hand
`interpret_response_telegram` compares the checksum and reads what it finds at the place of the
numbers, but it compares neither the length of the data, nor the action, nor what follows the digits
of a number. `pfeifferTelegram_iff` is what is left.

A text is accepted exactly if its length is ten at least, its checksum is that of what is before and
three fields begin with numbers (`readable_iff`). For a telegram that was built from fields the last
four characters are the checksum and the carriage return only if the checksum has three characters;
otherwise the digits without the sign are taken for it, and the sum of what is before never equals
them (`repr_ne_strFromNumber`).
-/

namespace Foxtrot

open Fallible Text

namespace Pfeiffer

/-- `pfeiffer_action`. -/
inductive PfeifferAction where
  | read
  | describe
  deriving DecidableEq

def PfeifferAction.code : PfeifferAction → ℕ
  | read => 0
  | describe => 10

/-- `str_from_number`, with a width. -/
def strFromNumber (number : ℤ) (width : ℕ) : String := zeroFilled number width

/-- The conversion of an integer to a signed character. -/
def toChar (n : ℤ) : ℤ := (n + 128) % 256 - 128

/-- The sum in `calculate_checksum`. What has been added up is converted to a character each time.
-/
def checksum (message : String) : ℤ :=
  message.toList.foldl (fun c₁ c₂ => toChar c₁ + toChar c₂.toNat) 0

/-- `calculate_checksum`. -/
def calculateChecksum (message : String) : String :=
  strFromNumber ((checksum message).tmod 256) 3

/-- What `semantic_command` gives to `cmd`. -/
def semanticCommand (address parameter : ℕ) (readwrite : PfeifferAction) (data : Option String) :
    Except Thrown String :=
  let message := strFromNumber address 3 ++ strFromNumber readwrite.code 2 ++
    strFromNumber parameter 3
  match readwrite with
  | .read => .ok (message ++ "02=?")
  | .describe =>
    match data with
    | none => .error (.exception "must have data present for write action")
    | some data => .ok (message ++ (strFromNumber data.length 2 ++ data))

/-- What `cmd` writes. -/
def telegram (request : String) : String := request ++ calculateChecksum request ++ "\r"

/-- `std::string::substr`. -/
def substrOrThrow (text : String) (pos n : ℕ) : Except Thrown String :=
  (substr text pos n).elim (.error (.outOfRange "basic_string::substr")) .ok

/-- `std::stoi`. -/
def stoiOrThrow (text : String) : Except Thrown ℤ :=
  match stoi text with
  | .ok n => .ok n
  | .error .invalidArgument => .error (.exception "stoi")
  | .error .outOfRange => .error (.outOfRange "stoi")

/-- `interpret_response_telegram`. -/
def interpretResponseTelegram (response : String) : Except Thrown (ℤ × ℤ × String) := do
  let message ← substrOrThrow response 0 (sizeT (response.length - 4))
  let csumstr ← substrOrThrow response (sizeT (response.length - 4)) 3
  if csumstr ≠ calculateChecksum message then
    throw (.deviceError "got invalid checksum")
  else do
    let addr ← stoiOrThrow (← substrOrThrow response 0 3)
    let paramno ← stoiOrThrow (← substrOrThrow response 5 3)
    let dlen ← stoiOrThrow (← substrOrThrow response 8 2)
    let data ← substrOrThrow response 10 (sizeT dlen)
    return (addr, paramno, data)

/-! ### Telegrams -/

/-- An action is called for with data: to read has its own. -/
def PfeifferAction.Carries : PfeifferAction → Option String → String → Prop
  | read, _, data => data = "=?"
  | describe, arg, data => arg = some data

/-- A response that is the telegram of a request. -/
structure IsTelegram (response : String) (address parameter : ℕ) (data request : String) :
    Prop where
  address_lt : address < 1000
  parameter_lt : parameter < 1000
  length_le : data.length ≤ 99
  requested : ∃ (readwrite : PfeifferAction) (arg : Option String), readwrite.Carries arg data ∧
    semanticCommand address parameter readwrite arg = .ok request
  response_eq : response = telegram request

/-- A telegram is accepted with what it has been built from, and another response is rejected. -/
def Faithful (response : String) : Prop :=
  (∀ (address parameter : ℕ) (data request : String),
    IsTelegram response address parameter data request →
      interpretResponseTelegram response = .ok (↑address, ↑parameter, data)) ∧
  ((¬ ∃ address parameter data request, IsTelegram response address parameter data request) →
    ∃ e, interpretResponseTelegram response = .error e)

/-- What `interpret_response_telegram` looks at: a length of ten characters, the checksum, and the
beginnings of the numbers. -/
structure Readable (response : String) : Prop where
  length : 10 ≤ response.length
  checksum : ∃ message csum, substr response 0 (response.length - 4) = some message ∧
    substr response (response.length - 4) 3 = some csum ∧ csum = calculateChecksum message
  number : ∀ field ∈ [(0, 3), (5, 3), (8, 2)],
    ∃ text n, substr response field.1 field.2 = some text ∧ stoi text = .ok n

/-! ### The checksum -/

private theorem toChar_bounds (n : ℤ) : -128 ≤ toChar n ∧ toChar n ≤ 127 := by
  rw [toChar]
  omega

private theorem checksum_append (message : String) (c : Char) :
    checksum (message ++ String.singleton c) = toChar (checksum message) + toChar c.toNat := by
  rw [checksum, checksum, String.toList_append, String.toList_singleton, List.foldl_append]
  rfl

/-- The last step adds two characters. -/
theorem checksum_bounds (message : String) : -256 ≤ checksum message ∧ checksum message ≤ 254 := by
  rw [checksum]
  induction message.toList using List.reverseRecOn with
  | nil => decide
  | append_singleton cs c _ =>
    have hsum := toChar_bounds (cs.foldl (fun c₁ c₂ => toChar c₁ + toChar c₂.toNat) 0)
    have hlast := toChar_bounds c.toNat
    rw [List.foldl_append, List.foldl_cons, List.foldl_nil]
    omega

/-- So the remainder is the sum itself, but for the least one. -/
theorem tmod_checksum (message : String) : -256 < (checksum message).tmod 256 ∧
    ((checksum message).tmod 256 = checksum message ∨ (checksum message).tmod 256 = 0) := by
  obtain ⟨hlow, hhigh⟩ := checksum_bounds message
  obtain hneg | hpos := Int.lt_or_le (checksum message) 0
  · have hneg_tmod : (checksum message).tmod 256 = -(-checksum message).tmod 256 := by
      rw [Int.neg_tmod, Int.neg_neg]
    have hemod : (-checksum message).tmod 256 = -checksum message % 256 :=
      Int.tmod_eq_emod_of_nonneg (by omega)
    omega
  · have heq : (checksum message).tmod 256 = checksum message :=
      Int.tmod_eq_of_lt hpos (by omega)
    omega

/-- The checksum is printed with three characters if it is above -100. -/
theorem length_calculateChecksum {message : String} (h : -100 < (checksum message).tmod 256) :
    (calculateChecksum message).length = 3 := by
  have hbounds := checksum_bounds message
  obtain ⟨-, htmod⟩ := tmod_checksum message
  have hlength : ((checksum message).tmod 256).repr.length ≤ 3 := by
    generalize (checksum message).tmod 256 = c at h htmod
    obtain hneg | hpos := Int.lt_or_le c 0
    · exact Decimal.length_repr_le (k := 2) (by decide) (by omega) (by omega)
    · obtain ⟨n, rfl⟩ := Int.eq_ofNat_of_zero_le hpos
      exact (Nat.length_repr_le_iff (by decide)).mpr (by omega)
  exact length_zeroFilled hlength

/-- A number of three digits is printed with its sign and the digits. -/
theorem strFromNumber_neg {m : ℕ} (hlow : 100 ≤ m) (hhigh : m < 1000) :
    m.repr.length = 3 ∧ strFromNumber (-m) 3 = "-" ++ m.repr := by
  have hle : m.repr.length ≤ 3 := (Nat.length_repr_le_iff (by decide)).mpr hhigh
  have hgt : ¬ m.repr.length ≤ 2 := by
    rw [Nat.length_repr_le_iff (by decide)]
    omega
  have hlength : m.repr.length = 3 := by omega
  have hrepr : (-m : ℤ).repr = "-" ++ m.repr := by
    obtain ⟨k, rfl⟩ := Nat.exists_eq_succ_of_ne_zero (Nat.ne_of_gt (by omega : 0 < m))
    rfl
  refine ⟨hlength, String.toList_inj.mp ?_⟩
  have hfour : ("-" ++ m.repr).length = 4 := by
    rw [String.length_append, hlength]
    rfl
  rw [strFromNumber, toList_zeroFilled, hrepr, hfour]
  rfl

/-- The digits are not the checksum of what has the sign at its end. -/
theorem repr_ne_strFromNumber {m : ℕ} (hlow : 100 ≤ m) (hhigh : m < 256) :
    m.repr ≠ strFromNumber ((toChar (-m) + 45).tmod 256) 3 := by
  intro h
  rw [toChar] at h
  obtain hsmall | hlarge := Nat.lt_or_ge 128 m
  · -- the next checksum is `301 - m`
    have hnext : ((-(m : ℤ) + 128) % 256 - 128 + 45).tmod 256 = ((301 - m : ℕ) : ℤ) := by
      rw [Int.tmod_eq_of_lt (by omega) (by omega)]
      omega
    have hnumber := number_repr_ofNat m
    rw [hnext] at h
    rw [h, strFromNumber, number_zeroFilled] at hnumber
    have heq := Option.some.inj hnumber
    omega
  · -- the next checksum is negative
    obtain ⟨k, hk⟩ : ∃ k : ℕ, ((-(m : ℤ) + 128) % 256 - 128 + 45).tmod 256 = Int.negSucc k := by
      have hneg : ((-(m : ℤ) + 128) % 256 - 128 + 45) = -((m - 45 : ℕ) : ℤ) := by omega
      refine ⟨m - 46, ?_⟩
      rw [hneg, Int.neg_tmod, Int.tmod_eq_of_lt (by omega) (by omega), Int.negSucc_eq]
      omega
    have hmem : '-' ∈ (m : ℤ).repr.toList := by
      have hrepr : (m : ℤ).repr = m.repr := rfl
      rw [hrepr, h, hk, strFromNumber, toList_zeroFilled, Int.repr, String.toList_append]
      exact List.mem_append_right _ (List.mem_append_left _ (by decide))
    have hdigits : ∀ c ∈ m.repr.toList, c.isDigit := by
      rw [Nat.toList_repr]
      exact List.all_eq_true.mp (all_isDigit_toDigits m)
    exact absurd (hdigits '-' hmem) (by decide)

/-- A checksum from -100 on is printed with four characters. -/
theorem calculateChecksum_of_le {message : String} (h : (checksum message).tmod 256 ≤ -100) :
    ∃ digits : String, calculateChecksum message = "-" ++ digits ∧ digits.length = 3 ∧
      digits ≠ calculateChecksum (message ++ "-") := by
  have hbounds := checksum_bounds message
  obtain ⟨hgt, htmod⟩ := tmod_checksum message
  obtain ⟨m, hm⟩ : ∃ m : ℕ, checksum message = -(m : ℤ) :=
    ⟨(-checksum message).toNat, by omega⟩
  have heq : (checksum message).tmod 256 = -(m : ℤ) := by omega
  have hminus : checksum (message ++ "-") = toChar (checksum message) + 45 :=
    checksum_append message '-'
  obtain ⟨hlength, hprint⟩ := strFromNumber_neg (m := m) (by omega) (by omega)
  refine ⟨m.repr, ?_, hlength, ?_⟩
  · rw [calculateChecksum, heq, hprint]
  · rw [calculateChecksum, hminus, hm]
    exact repr_ne_strFromNumber (by omega) (by omega)

/-! ### Reading -/

/-- `substr` returns the part of a text that is long enough. -/
theorem substrOrThrow_eq_ok_iff {text part : String} {pos n : ℕ} :
    substrOrThrow text pos n = .ok part ↔ substr text pos n = some part := by
  rw [substrOrThrow]
  cases substr text pos n with
  | none => exact ⟨nofun, nofun⟩
  | some part' => exact ⟨fun h => congrArg some (Except.ok.inj h), fun h => by cases h; rfl⟩

private theorem stoiOrThrow_eq_ok_iff {text : String} {n : ℤ} :
    stoiOrThrow text = .ok n ↔ stoi text = .ok n := by
  rw [stoiOrThrow]
  cases stoi text with
  | error e => cases e <;> exact ⟨nofun, nofun⟩
  | ok m => exact ⟨fun h => congrArg Except.ok (Except.ok.inj h),
      fun h => congrArg Except.ok (Except.ok.inj h)⟩

/-- A number that has been found in a response. -/
def NumberAt (response : String) (pos width : ℕ) (n : ℤ) : Prop :=
  ∃ text, substr response pos width = some text ∧ stoi text = .ok n

/-- The checksum that has been found is that of what is before. -/
def Checked (response : String) : Prop :=
  ∃ message, substr response 0 (sizeT (response.length - 4)) = some message ∧
    substr response (sizeT (response.length - 4)) 3 = some (calculateChecksum message)

/-- A number is at its place exactly if it can be read there. -/
private theorem numberAt_iff {response : String} {pos width : ℕ} {n : ℤ} :
    NumberAt response pos width n ↔ ∃ text, substrOrThrow response pos width = .ok text ∧
      stoiOrThrow text = .ok n := by
  simp only [NumberAt, substrOrThrow_eq_ok_iff, stoiOrThrow_eq_ok_iff]

/-- **What is accepted.** -/
theorem interpretResponseTelegram_eq_ok_iff {response data : String} {addr paramno : ℤ} :
    interpretResponseTelegram response = .ok (addr, paramno, data) ↔ Checked response ∧
      NumberAt response 0 3 addr ∧ NumberAt response 5 3 paramno ∧
        ∃ dlen, NumberAt response 8 2 dlen ∧ substr response 10 (sizeT dlen) = some data := by
  simp only [numberAt_iff, Checked, ← substrOrThrow_eq_ok_iff]
  constructor
  · intro h
    obtain ⟨message, hmessage, h⟩ := bind_eq_ok_iff.mp h
    obtain ⟨csumstr, hcsum, h⟩ := bind_eq_ok_iff.mp h
    by_cases hne : csumstr ≠ calculateChecksum message
    · rw [if_pos hne] at h
      cases h
    · rw [if_neg hne] at h
      rw [not_not] at hne
      obtain ⟨addrText, haddrText, h⟩ := bind_eq_ok_iff.mp h
      obtain ⟨addr', haddr, h⟩ := bind_eq_ok_iff.mp h
      obtain ⟨paramText, hparamText, h⟩ := bind_eq_ok_iff.mp h
      obtain ⟨paramno', hparam, h⟩ := bind_eq_ok_iff.mp h
      obtain ⟨dlenText, hdlenText, h⟩ := bind_eq_ok_iff.mp h
      obtain ⟨dlen, hdlen, h⟩ := bind_eq_ok_iff.mp h
      obtain ⟨data', hdata, h⟩ := bind_eq_ok_iff.mp h
      obtain ⟨rfl, hrest⟩ := Prod.mk.inj (Except.ok.inj h)
      obtain ⟨rfl, rfl⟩ := Prod.mk.inj hrest
      exact ⟨⟨message, hmessage, hne ▸ hcsum⟩, ⟨addrText, haddrText, haddr⟩,
        ⟨paramText, hparamText, hparam⟩, dlen, ⟨dlenText, hdlenText, hdlen⟩, hdata⟩
  · rintro ⟨⟨message, hmessage, hcsum⟩, ⟨addrText, haddrText, haddr⟩,
      ⟨paramText, hparamText, hparam⟩, dlen, ⟨dlenText, hdlenText, hdlen⟩, hdata⟩
    refine bind_eq_ok_iff.mpr ⟨message, hmessage, bind_eq_ok_iff.mpr ⟨_, hcsum, ?_⟩⟩
    rw [if_neg (not_not.mpr rfl)]
    exact bind_eq_ok_iff.mpr ⟨addrText, haddrText, bind_eq_ok_iff.mpr ⟨addr, haddr,
      bind_eq_ok_iff.mpr ⟨paramText, hparamText, bind_eq_ok_iff.mpr ⟨paramno, hparam,
        bind_eq_ok_iff.mpr ⟨dlenText, hdlenText, bind_eq_ok_iff.mpr ⟨dlen, hdlen,
          bind_eq_ok_iff.mpr ⟨data, hdata, rfl⟩⟩⟩⟩⟩⟩⟩

/-- The last four characters, where there are so many. -/
theorem sizeT_sub_four {response : String} (h : 4 ≤ response.length) :
    sizeT (response.length - 4) = response.length - 4 := by
  rw [sizeT, if_pos (by omega)]
  omega

/-- What is readable is accepted, and nothing else. -/
theorem readable_iff {response : String} :
    Readable response ↔ ∃ telegram, interpretResponseTelegram response = .ok telegram := by
  constructor
  · rintro ⟨hlength, ⟨message, csum, hmessage, hcsum, rfl⟩, hnumber⟩
    rw [← sizeT_sub_four (by omega)] at hmessage hcsum
    obtain ⟨addrText, addr, haddr⟩ := hnumber (0, 3) (by decide)
    obtain ⟨paramText, paramno, hparam⟩ := hnumber (5, 3) (by decide)
    obtain ⟨dlenText, dlen, hdlen⟩ := hnumber (8, 2) (by decide)
    exact ⟨(addr, paramno, _), interpretResponseTelegram_eq_ok_iff.mpr
      ⟨⟨message, hmessage, hcsum⟩, ⟨addrText, haddr⟩, ⟨paramText, hparam⟩, dlen,
        ⟨dlenText, hdlen⟩, substr_eq_some hlength _⟩⟩
  · rintro ⟨⟨addr, paramno, data⟩, h⟩
    obtain ⟨⟨message, hmessage, hcsum⟩, ⟨addrText, haddr⟩, ⟨paramText, hparam⟩, dlen,
      ⟨dlenText, hdlen⟩, hdata⟩ := interpretResponseTelegram_eq_ok_iff.mp h
    have hlength : 10 ≤ response.length := by
      by_contra hshort
      rw [substr, if_pos (by omega)] at hdata
      cases hdata
    rw [sizeT_sub_four (by omega)] at hmessage hcsum
    refine ⟨hlength, ⟨message, _, hmessage, hcsum, rfl⟩, fun field hfield => ?_⟩
    simp only [List.mem_cons, List.not_mem_nil, or_false] at hfield
    obtain rfl | rfl | rfl := hfield
    · exact ⟨addrText, addr, haddr⟩
    · exact ⟨paramText, paramno, hparam⟩
    · exact ⟨dlenText, dlen, hdlen⟩

/-! ### Reading telegrams -/

section Read

variable {response data request : String} {address parameter : ℕ}

/-- The fields of a request. -/
theorem IsTelegram.request_eq (h : IsTelegram response address parameter data request) :
    ∃ readwrite : PfeifferAction, request = strFromNumber address 3 ++
      strFromNumber readwrite.code 2 ++ strFromNumber parameter 3 ++
        strFromNumber data.length 2 ++ data := by
  obtain ⟨readwrite, arg, hcarries, hcommand⟩ := h.requested
  refine ⟨readwrite, ?_⟩
  cases readwrite with
  | read =>
    obtain rfl : data = "=?" := hcarries
    have hread : strFromNumber "=?".length 2 ++ "=?" = "02=?" := by decide
    rw [← Except.ok.inj hcommand, ← hread, ← String.append_assoc]
  | describe =>
    obtain rfl : arg = some data := hcarries
    rw [← Except.ok.inj hcommand, ← String.append_assoc]

/-- A number that is small enough has its width. -/
theorem length_strFromNumber {n width : ℕ} (hwidth : 0 < width) (h : n < 10 ^ width) :
    (strFromNumber n width).length = width :=
  length_zeroFilled ((Nat.length_repr_le_iff hwidth).mpr h)

/-- The fields of a text. -/
theorem substr_fields {text address action parameter length data rest : String}
    (htext : text = address ++ action ++ parameter ++ length ++ data ++ rest)
    (haddress : address.length = 3) (haction : action.length = 2)
    (hparameter : parameter.length = 3) (hlength : length.length = 2) :
    substr text 0 3 = some address ∧ substr text 3 2 = some action ∧
      substr text 5 3 = some parameter ∧ substr text 8 2 = some length ∧
        substr text 10 data.length = some data := by
  have hfirst : text = "" ++ address ++ (action ++ parameter ++ length ++ data ++ rest) := by
    simp only [htext, String.append_assoc, String.empty_append]
  have hsecond : text = address ++ action ++ (parameter ++ length ++ data ++ rest) := by
    simp only [htext, String.append_assoc]
  have hthird : text = address ++ action ++ parameter ++ (length ++ data ++ rest) := by
    simp only [htext, String.append_assoc]
  have hfourth : text = address ++ action ++ parameter ++ length ++ (data ++ rest) := by
    simp only [htext, String.append_assoc]
  refine ⟨?_, ?_, ?_, ?_, ?_⟩
  · rw [hfirst]
    exact substr_append rfl haddress _
  · rw [hsecond]
    exact substr_append haddress haction _
  · rw [hthird]
    exact substr_append (by rw [String.length_append, haddress, haction]) hparameter _
  · rw [hfourth]
    refine substr_append ?_ hlength _
    rw [String.length_append, String.length_append, haddress, haction, hparameter]
  · rw [htext]
    refine substr_append ?_ rfl _
    rw [String.length_append, String.length_append, String.length_append, haddress, haction,
      hparameter, hlength]

/-- **A telegram with a checksum of three characters is read as what it has been built from.** -/
theorem interpretResponseTelegram_of_lt (h : IsTelegram response address parameter data request)
    (hchecksum : -100 < (checksum request).tmod 256) :
    interpretResponseTelegram response = .ok (↑address, ↑parameter, data) := by
  obtain ⟨readwrite, hrequest⟩ := h.request_eq
  have hcsum := length_calculateChecksum hchecksum
  have hdata := h.length_le
  have hresponse : response = request ++ calculateChecksum request ++ "\r" := h.response_eq
  have haddress : (strFromNumber address 3).length = 3 :=
    length_strFromNumber (by decide) h.address_lt
  have haction : (strFromNumber readwrite.code 2).length = 2 := by cases readwrite <;> decide
  have hparameter : (strFromNumber parameter 3).length = 3 :=
    length_strFromNumber (by decide) h.parameter_lt
  have hdlen : (strFromNumber data.length 2).length = 2 :=
    length_strFromNumber (by decide) (by omega)
  have hend : "\r".length = 1 := rfl
  have hlength : response.length = request.length + 4 := by
    rw [hresponse, String.length_append, String.length_append, hcsum, hend]
  -- the checksum and the "\r" take the last four characters
  have hfour : sizeT (response.length - 4) = request.length := by
    rw [sizeT_sub_four (by omega)]
    omega
  have hsplit : response = strFromNumber address 3 ++ strFromNumber readwrite.code 2 ++
      strFromNumber parameter 3 ++ strFromNumber data.length 2 ++ data ++
        (calculateChecksum request ++ "\r") := by
    rw [hresponse, String.append_assoc, ← hrequest]
  obtain ⟨haddressAt, -, hparameterAt, hdlenAt, hdataAt⟩ :=
    substr_fields hsplit haddress haction hparameter hdlen
  have hsize : sizeT data.length = data.length := by
    rw [sizeT, if_pos (by omega)]
    rfl
  have hlt : ∀ n < 1000, n < 2 ^ 31 := by omega
  rw [interpretResponseTelegram_eq_ok_iff]
  refine ⟨⟨request, ?_, ?_⟩, ⟨_, haddressAt, stoi_zeroFilled (hlt _ h.address_lt) 3⟩,
    ⟨_, hparameterAt, stoi_zeroFilled (hlt _ h.parameter_lt) 3⟩, data.length,
    ⟨_, hdlenAt, stoi_zeroFilled (by omega) 2⟩, hsize ▸ hdataAt⟩
  · rw [hfour, hresponse, String.append_assoc, ← String.empty_append (s := request)]
    exact substr_append rfl (by rw [String.empty_append]) _
  · rw [hfour, hresponse]
    exact substr_append rfl hcsum _

/-- **A telegram with a checksum of four characters is rejected.** -/
theorem not_checked_of_le (h : IsTelegram response address parameter data request)
    (hchecksum : (checksum request).tmod 256 ≤ -100) : ¬ Checked response := by
  obtain ⟨digits, hcsum, hdigits, hne⟩ := calculateChecksum_of_le hchecksum
  have hresponse : response = request ++ "-" ++ digits ++ "\r" := by
    rw [h.response_eq, telegram, hcsum]
    simp only [String.append_assoc]
  have hminus : "-".length = 1 := rfl
  have hend : "\r".length = 1 := rfl
  have hlength : response.length = (request ++ "-").length + 4 := by
    rw [hresponse, String.length_append _ "\r", String.length_append _ digits, hdigits, hend]
  have hfour : sizeT (response.length - 4) = (request ++ "-").length := by
    rw [sizeT_sub_four (by omega)]
    omega
  rintro ⟨message, hmessage, hfound⟩
  have hbefore : substr response 0 (request ++ "-").length = some (request ++ "-") := by
    rw [hresponse, String.append_assoc, ← String.empty_append (s := request ++ "-")]
    exact substr_append rfl (by rw [String.empty_append]) _
  have hcsumAt : substr response (request ++ "-").length 3 = some digits := by
    rw [hresponse]
    exact substr_append rfl hdigits _
  rw [hfour, hbefore] at hmessage
  rw [hfour, hcsumAt, ← Option.some.inj hmessage] at hfound
  exact hne (Option.some.inj hfound)

/-- A telegram is interpreted exactly if its checksum has three digits. -/
private theorem interpretResponseTelegram_iff_lt
    (h : IsTelegram response address parameter data request) :
    interpretResponseTelegram response = .ok (↑address, ↑parameter, data) ↔
      -100 < (checksum request).tmod 256 := by
  refine ⟨fun hok => ?_, interpretResponseTelegram_of_lt h⟩
  by_contra hle
  exact not_checked_of_le h (by omega) (interpretResponseTelegram_eq_ok_iff.mp hok).1

end Read

/-- **Pfeiffer telegrams**: a response is treated faithfully exactly if, as a telegram, its checksum
is above -100, and if it is no telegram, `interpret_response_telegram` cannot read it. -/
theorem pfeifferTelegram_iff (response : String) : Faithful response ↔
    (∀ (address parameter : ℕ) (data request : String),
      IsTelegram response address parameter data request → -100 < (checksum request).tmod 256) ∧
    ((¬ ∃ address parameter data request, IsTelegram response address parameter data request) →
      ¬ Readable response) := by
  refine and_congr ?_ (imp_congr_right fun _ => ?_)
  · refine forall₄_congr fun address parameter data request => ?_
    exact forall_congr' interpretResponseTelegram_iff_lt
  · rw [readable_iff]
    cases hresponse : interpretResponseTelegram response with
    | error e => simp
    | ok telegram => simp

/-- A telegram whose declared length leaves out the last of two characters. -/
def shortened : String := telegram "0011030901AB"

/-- It is accepted as one with a single character. -/
theorem not_pfeifferTelegram : ¬ ∀ response, Faithful response := by
  intro h
  obtain ⟨htelegram, hother⟩ := h shortened
  have hok : interpretResponseTelegram shortened = .ok (1, 309, "A") := by decide
  have his : ∃ address parameter data request,
      IsTelegram shortened address parameter data request := by
    by_contra hnot
    obtain ⟨e, herror⟩ := hother hnot
    cases hok.symm.trans herror
  obtain ⟨address, parameter, data, request, his⟩ := his
  have hread := htelegram address parameter data request his
  rw [hok] at hread
  obtain ⟨haddress, hrest⟩ := Prod.mk.inj (Except.ok.inj hread)
  obtain ⟨hparameter, rfl⟩ := Prod.mk.inj hrest
  obtain rfl : address = 1 := by omega
  obtain rfl : parameter = 309 := by omega
  obtain ⟨readwrite, hrequest⟩ := his.request_eq
  have hresponse := his.response_eq
  rw [hrequest] at hresponse
  cases readwrite <;> exact absurd hresponse (by decide)

end Pfeiffer

end Foxtrot
