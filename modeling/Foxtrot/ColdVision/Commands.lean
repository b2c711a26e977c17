import Foxtrot.Foundation.Hexadecimal
import Foxtrot.Foundation.Stateful
import Foxtrot.Server.Handler
import Mathlib.Data.List.DropRight
import Mathlib.Data.Int.Notation

/-!
# Commands of the ColdVision light source

A command (`devices/coldvision-ls/coldvision_ls.cpp`) is `&`, the text of a register, a value and a
carriage return. A query has `?` for the value, and is answered with its echo and the value that
the register has. The value is cut out of the answer at a position that depends on where the query
has its `?` (`queryCmd`).

`Light` is a light source that keeps a value in each register. `cmd_set` says what it stores, and
`queryCmd_on` what it answers.

A register is found in a command by its letters: the text up to the first character that is no
letter is compared, so an index or a value behind it does not matter (`takeWhile_text`). Values are
decimal but for one register, and are parsed from the end of the command. With this a setting
command stores the value that it prints, and a query returns what is stored, behind an echo of the
right length.
-/

namespace Foxtrot

namespace ColdVision

open Text

/-! ### The light source -/

/-- What is stored in each register, by the text in front of the value. -/
abbrev Registers := String → Fin (2 ^ 31)

instance neZero_two_pow : NeZero (2 ^ 31) := ⟨by decide⟩

/-- How the light source prints its values. -/
structure Light where
  decimal : ℕ → List Char
  hexadecimal : ℕ → List Char
  readNat_decimal : ∀ n, Decimal.readNat (decimal n) = some n
  readNat_hexadecimal : ∀ n, Hexadecimal.readNat (hexadecimal n) = some n

/-- The value of a register, in the base of the register. -/
def Light.print (l : Light) (reg : String) (n : ℕ) : List Char :=
  if reg = "EE" then l.hexadecimal n else l.decimal n

/-- The register and the value in a setting command. The decimal digits at its end are the value.
The target of the equalizer is hexadecimal. -/
def parse (body : List Char) : Option (String × ℕ) :=
  if ['E', 'E'] <+: body then
    (Hexadecimal.readNat (body.drop 2)).map (Prod.mk "EE")
  else
    (Decimal.readNat (body.rtakeWhile Char.isDigit)).map
      (Prod.mk (String.ofList (body.rdropWhile Char.isDigit)))

/-- The answer to a command, and the registers after it. -/
def Light.receive (l : Light) (regs : Registers) (request : String) : String × Registers :=
  let body := request.toList.tail.dropLast
  if body.getLast? = some '?' then
    let reg := String.ofList body.dropLast
    ("&" ++ reg ++ String.ofList (l.print reg (regs reg) ++ ['\r']), regs)
  else
    match parse body with
    | none => ("&n\r", regs)
    | some (reg, n) =>
      if h : n < 2 ^ 31 then ("&a\r", Function.update regs reg ⟨n, h⟩) else ("&n\r", regs)

/-! ### Commands -/

abbrev ColdM := Stateful Registers Thrown

/-- `string::substr`. -/
def substrOrThrow (text : String) (pos n : ℕ) : Except Thrown String :=
  (substr text pos n).elim (.error (.outOfRange "basic_string::substr")) .ok

section Commands

variable (l : Light)

/-- `write` of a request, and `read_until_endl` of its answer. -/
def exchange (request : String) : ColdM String :=
  ExceptT.mk fun regs => ((.ok (l.receive regs request).1), (l.receive regs request).2)

/-- `cmd`. -/
def cmd (request : String) : ColdM String := do
  if request.toList.head? ≠ some '&' then
    throw (.exception "commands must start with & character")
  if request.toList.getLast? ≠ some '\r' then
    throw (.exception "commands must end with a carriage return")
  let resp ← exchange l request
  if resp.toList[0]? ≠ some '&' then
    throw (.exception "invalid first character received")
  if resp.toList[1]? = some 'n' then
    throw (.deviceError "invalid response code received from device, check logs...")
  return resp

/-- The part of the answer to a query that is behind its echo. -/
def replystr (request resp : String) : Except Thrown String :=
  match cut '?' request.toList with
  | none => .error (.exception "couldn't find query character in string")
  | some (front, _) =>
    let querycharloc := front.length
    if querycharloc = 1 then
      substrOrThrow resp (request.length - 1) resp.length
    else if querycharloc = request.length - 2 then
      substrOrThrow resp querycharloc resp.length
    else
      .error (.exception "don't know how to deal with this query!")

/-- `query_cmd`. -/
def queryCmd (request : String) : ColdM String := do
  match replystr request (← cmd l request) with
  | .error e => throw e
  | .ok reply => return reply

/-- `check_idx`. -/
def checkIdx (idx : UInt8) : ColdM Unit := do
  if idx < 1 ∨ 4 < idx then
    throw (.deviceError "invalid index for single channel operation (allowed 1-4)")

/-- A value that is not negative, in a stream. -/
def streamed (value : ℕ) (hex : Bool) : List Char := Nat.toDigits (if hex then 16 else 10) value

/-- `set_helper`. -/
def setHelper (command : String) (value : ℕ) (hex : Bool) : ColdM Unit := do
  let _ ← cmd l (command ++ String.ofList (streamed value hex) ++ "\r")

/-- `two_parameter_command_helper`. The second value is a number, or the character `?`. -/
def twoParameterCommandHelper (command : String) (value1 : UInt8) (value2 : List Char) : String :=
  command ++ String.ofList (streamed value1.toNat false) ++ "," ++ String.ofList value2 ++ "\r"

end Commands

/-! ### Registers -/

/-- The letters of a register do not begin like the answer to a rejected command, and like the
hexadecimal register only if it is that one, which has no index. -/
def WellFormed (name : String) (indexed : Bool) : Prop :=
  name.toList.all Char.isAlpha ∧ name.toList.head?.any (· ≠ 'n') ∧
    (['E', 'E'] <+: name.toList → name = "EE" ∧ indexed = false)

instance (name : String) (indexed : Bool) : Decidable (WellFormed name indexed) :=
  inferInstanceAs (Decidable (name.toList.all Char.isAlpha = true ∧
    name.toList.head?.any (· ≠ 'n') = true ∧
    (['E', 'E'] <+: name.toList → name = "EE" ∧ indexed = false)))

/-- A register: its letters, and its index if it has one. -/
@[ext]
structure Register where
  name : String
  idx : Option UInt8
  wellFormed : WellFormed name idx.isSome
  deriving DecidableEq

/-- A register without an index. -/
def Register.plain (name : String) (h : WellFormed name false) : Register := ⟨name, none, h⟩

/-- A register with an index. -/
def Register.indexed (name : String) (h : WellFormed name true) (idx : UInt8) : Register :=
  ⟨name, some idx, h⟩

/-- What follows the letters in a command. -/
def idxText : Option UInt8 → List Char
  | none => []
  | some idx => streamed idx.toNat false ++ [',']

/-- The text of a register in a command. -/
def Register.text (reg : Register) : String := reg.name ++ String.ofList (idxText reg.idx)

section Text

variable {reg reg' : Register} {n : ℕ}

private theorem all_isDigit_streamed (n : ℕ) : (streamed n false).all Char.isDigit :=
  all_isDigit_toDigits n

/-- A number is streamed in one character at least. -/
private theorem streamed_ne_nil (n : ℕ) (hex : Bool) : streamed n hex ≠ [] := Nat.toDigits_ne_nil

/-- The text of a register is its name and its index. -/
theorem toList_text (reg : Register) : reg.text.toList = reg.name.toList ++ idxText reg.idx := by
  rw [Register.text, String.toList_append, String.toList_ofList]

private theorem isAlpha_of_isDigit {c : Char} (h : c.isDigit) : c.isAlpha = false := by
  refine Bool.or_eq_false_iff.mpr ⟨isUpper_of_isDigit h, ?_⟩
  have hle := (toNat_of_isDigit h).2
  rw [Bool.eq_false_iff]
  intro hlower
  have hge : 0x61 ≤ c.toNat := of_decide_eq_true (Bool.and_eq_true_iff.mp hlower).1
  omega

/-- A number begins with no letter. -/
theorem head_streamed (n : ℕ) (rest : List Char) :
    (streamed n false ++ rest).head?.all (!·.isAlpha) := by
  obtain ⟨c, cs, hcs⟩ := List.exists_cons_of_ne_nil (streamed_ne_nil n false)
  have hc : c.isDigit := List.all_eq_true.mp (all_isDigit_streamed n) c (by simp [hcs])
  rw [hcs, List.cons_append, List.head?_cons, Option.all_some, isAlpha_of_isDigit hc]
  rfl

/-- What follows the letters of a register is no letter. -/
theorem head_idxText (reg : Register) (n : ℕ) :
    (idxText reg.idx ++ streamed n false).head?.all (!·.isAlpha) := by
  cases reg.idx with
  | none => exact List.append_nil (streamed n false) ▸ head_streamed n []
  | some idx =>
    rw [idxText, List.append_assoc]
    exact head_streamed _ _

/-- The letters of a register are found in a command. -/
theorem takeWhile_text (reg : Register) (n : ℕ) :
    (reg.text.toList ++ streamed n false).takeWhile Char.isAlpha = reg.name.toList := by
  rw [toList_text, List.append_assoc]
  exact takeWhile_append_of_head reg.wellFormed.1 (head_idxText reg n)

private theorem idxText_inj {idx idx' : Option UInt8} (h : idxText idx = idxText idx') :
    idx = idx' := by
  cases idx with
  | none =>
    cases idx' with
    | none => rfl
    | some idx' => simp [idxText] at h
  | some idx =>
    cases idx' with
    | none => simp [idxText] at h
    | some idx' =>
      have hdigits := List.append_cancel_right h
      have hread := Decimal.readNat_toDigits idx.toNat
      change Decimal.readNat (streamed idx.toNat false) = _ at hread
      rw [hdigits] at hread
      have hnat := (Decimal.readNat_toDigits idx'.toNat).symm.trans hread
      rw [UInt8.toNat_inj.mp (Option.some.inj hnat)]

/-- The texts of different registers are different. -/
theorem text_inj (h : reg.text = reg'.text) : reg = reg' := by
  have hname : reg.name = reg'.name := by
    have hletters := takeWhile_text reg 0
    rw [h, takeWhile_text] at hletters
    exact (String.toList_inj.mp hletters).symm
  refine Register.ext hname (idxText_inj ?_)
  have hlist := congrArg String.toList h
  rw [toList_text, toList_text, hname] at hlist
  exact List.append_cancel_left hlist

/-- A text that begins with the letters of the hexadecimal register has them in front of anything
else. -/
theorem prefix_takeWhile {text : List Char} (h : ['E', 'E'] <+: text) :
    ['E', 'E'] <+: text.takeWhile Char.isAlpha := by
  obtain ⟨rest, rfl⟩ := h
  exact ⟨rest.takeWhile Char.isAlpha, rfl⟩

/-- A register does not end with a digit. -/
theorem getLast_text (reg : Register) : reg.text.toList.getLast?.all (!·.isDigit) := by
  rw [toList_text]
  cases reg.idx with
  | some idx =>
    rw [idxText, ← List.append_assoc, List.getLast?_concat]
    rfl
  | none =>
    rw [idxText, List.append_nil]
    cases hlast : reg.name.toList.getLast? with
    | none => rfl
    | some c =>
      have halpha := List.all_eq_true.mp reg.wellFormed.1 c (List.mem_of_getLast? hlast)
      rw [Option.all_some, Bool.not_eq_true', Bool.eq_false_iff]
      intro hdigit
      rw [isAlpha_of_isDigit hdigit] at halpha
      cases halpha

/-- A decimal value is read from a setting command. -/
theorem parse_decimal (h : reg.name ≠ "EE") :
    parse (reg.text.toList ++ streamed n false) = some (reg.text, n) := by
  -- only the equalizer's delay has digits of its own in front of the value
  have hprefix : ¬ ['E', 'E'] <+: reg.text.toList ++ streamed n false := by
    intro hEE
    have hletters := prefix_takeWhile hEE
    rw [takeWhile_text] at hletters
    exact h (reg.wellFormed.2.2 hletters).1
  have hlast : reg.text.toList.reverse.head?.all (!·.isDigit) := by
    rw [List.head?_reverse]
    exact getLast_text reg
  have hdigits : (streamed n false).reverse.all Char.isDigit := by
    rw [List.all_reverse]
    exact all_isDigit_streamed n
  have htake : (reg.text.toList ++ streamed n false).rtakeWhile Char.isDigit =
      streamed n false := by
    rw [List.rtakeWhile, List.reverse_append, takeWhile_append_of_head hdigits hlast,
      List.reverse_reverse]
  have hdrop : (reg.text.toList ++ streamed n false).rdropWhile Char.isDigit =
      reg.text.toList := by
    have hsplit : (reg.text.toList ++ streamed n false).rdropWhile Char.isDigit ++
        (reg.text.toList ++ streamed n false).rtakeWhile Char.isDigit = _ :=
      List.rdropWhile_append_rtakeWhile
    rw [htake] at hsplit
    exact List.append_cancel_right hsplit
  rw [parse, if_neg hprefix, htake, hdrop, String.ofList_toList]
  exact congrArg (Option.map _) (Decimal.readNat_toDigits n)

/-- The register and the value are read from a setting command, if the value is in the base of the
register. -/
theorem parse_set {hex : Bool} (h : hex = true ↔ reg.name = "EE") :
    parse (reg.text.toList ++ streamed n hex) = some (reg.text, n) := by
  cases hex with
  | false => exact parse_decimal fun hname => Bool.false_ne_true (h.mpr hname)
  | true =>
    have hname := h.mp rfl
    have hidx : reg.idx = none := by
      have hnone := (reg.wellFormed.2.2 ⟨[], by rw [hname]; rfl⟩).2
      rwa [Option.isSome_eq_false_iff, Option.isNone_iff_eq_none] at hnone
    have htext : reg.text = "EE" := by
      rw [Register.text, hname, hidx]
      rfl
    rw [htext]
    exact (if_pos ⟨streamed n true, rfl⟩).trans
      (congrArg (Option.map _) (Hexadecimal.readNat_toDigits n))

/-- The text of a register is one character at least, and not the one of a rejected command. -/
theorem exists_text (reg : Register) : ∃ c cs, reg.text.toList = c :: cs ∧ c ≠ 'n' := by
  have hhead := reg.wellFormed.2.1
  rw [toList_text]
  cases hname : reg.name.toList with
  | nil =>
    rw [hname] at hhead
    cases hhead
  | cons c cs =>
    rw [hname] at hhead
    exact ⟨c, cs ++ idxText reg.idx, rfl, of_decide_eq_true hhead⟩

private theorem question_notMem_streamed (n : ℕ) (hex : Bool) : '?' ∉ streamed n hex := by
  intro hmem
  cases hex with
  | false => exact absurd (List.all_eq_true.mp (all_isDigit_streamed n) '?' hmem) (by decide)
  | true =>
    have hdigit := Hexadecimal.isxdigit_of_readNat (Hexadecimal.readNat_toDigits n) hmem
    exact absurd hdigit (by decide)

/-- No register has a question mark in its text. -/
private theorem question_notMem_text (reg : Register) : '?' ∉ reg.text.toList := by
  rw [toList_text, List.mem_append, not_or]
  refine ⟨fun hmem => absurd (List.all_eq_true.mp reg.wellFormed.1 '?' hmem) (by decide), ?_⟩
  cases reg.idx with
  | none => exact List.not_mem_nil
  | some idx =>
    rw [idxText, List.mem_append, List.mem_singleton, not_or]
    exact ⟨question_notMem_streamed _ _, by decide⟩

end Text

/-! ### One command -/

section Exchanges

variable {l : Light} {regs regs' : Registers} {request resp : String} {body : List Char}

/-- The light source sets a register to the number of a command, and acknowledges it. -/
private theorem receive_set {reg : String} {n : ℕ}
    (hrequest : request.toList = '&' :: (body ++ ['\r']))
    (hbody : body.getLast? ≠ some '?') (hparse : parse body = some (reg, n)) (hn : n < 2 ^ 31) :
    l.receive regs request = ("&a\r", Function.update regs reg ⟨n, hn⟩) := by
  have hmiddle : request.toList.tail.dropLast = body := by
    rw [hrequest, List.tail_cons, List.dropLast_concat]
  simp only [Light.receive, hmiddle, if_neg hbody, hparse, dif_pos hn]

/-- The light source answers a query with the number of the register. -/
private theorem receive_query (reg : String)
    (hrequest : request.toList = '&' :: (reg.toList ++ ['?', '\r'])) :
    l.receive regs request =
      ("&" ++ reg ++ String.ofList (l.print reg (regs reg) ++ ['\r']), regs) := by
  have hmiddle : request.toList.tail.dropLast = reg.toList ++ ['?'] := by
    rw [hrequest, List.tail_cons, List.append_cons, List.dropLast_concat]
  simp only [Light.receive, hmiddle, List.getLast?_concat, if_pos, List.dropLast_concat,
    String.ofList_toList]

/-- A command that is not rejected returns its answer. -/
theorem cmd_on (hrequest : request.toList = '&' :: (body ++ ['\r']))
    (hreceive : l.receive regs request = (resp, regs')) (hfirst : resp.toList[0]? = some '&')
    (hsecond : resp.toList[1]? ≠ some 'n') : (cmd l request).on regs = (.ok resp, regs') := by
  have hhead : request.toList.head? = some '&' := by rw [hrequest, List.head?_cons]
  have hlast : request.toList.getLast? = some '\r' := by
    rw [hrequest, ← List.cons_append, List.getLast?_concat]
  have hexchange : (exchange l request).on regs = (.ok resp, regs') := by
    change (_, _) = _
    rw [hreceive]
  rw [cmd, if_neg (not_not.mpr hhead), if_neg (not_not.mpr hlast)]
  change (exchange l request >>= _).on regs = _
  rw [Stateful.on_bind_of_ok hexchange, if_neg (not_not.mpr hfirst), if_neg hsecond]
  rfl

/-- A setting command stores its value in the register. -/
theorem cmd_set (reg : Register) {n : ℕ} (hn : n < 2 ^ 31) {hex : Bool}
    (hhex : hex = true ↔ reg.name = "EE")
    (hrequest : request.toList = '&' :: (reg.text.toList ++ streamed n hex ++ ['\r'])) :
    (cmd l request).on regs = (.ok "&a\r", Function.update regs reg.text ⟨n, hn⟩) := by
  have hbody : (reg.text.toList ++ streamed n hex).getLast? ≠ some '?' := by
    rw [List.getLast?_append, List.getLast?_eq_getLast_of_ne_nil (streamed_ne_nil n hex)]
    refine fun hlast => question_notMem_streamed n hex ?_
    rw [← Option.some.inj hlast]
    exact List.getLast_mem _
  exact cmd_on hrequest (receive_set hrequest hbody (parse_set hhex) hn) rfl (by decide)

/-- What is behind the echo in an answer. -/
theorem replystr_eq (reg : Register) {value : List Char}
    (hrequest : request.toList = '&' :: (reg.text.toList ++ ['?', '\r']))
    (hresp : resp.toList = ('&' :: reg.text.toList) ++ value) :
    replystr request resp = .ok (String.ofList value) := by
  obtain ⟨c, cs, htext, -⟩ := exists_text reg
  have hfront : '?' ∉ '&' :: reg.text.toList := by
    rw [List.mem_cons, not_or]
    exact ⟨by decide, question_notMem_text reg⟩
  have hcut : cut '?' request.toList = some ('&' :: reg.text.toList, ['\r']) := by
    rw [hrequest]
    exact cut_append hfront ['\r']
  have hone : ('&' :: reg.text.toList).length ≠ 1 := by
    rw [htext, List.length_cons, List.length_cons]
    omega
  -- the two characters that are cut off are the question mark and the return
  have hend : request.length - 2 = ('&' :: reg.text.toList).length := by
    rw [← String.length_toList, hrequest, List.length_cons, List.length_append]
    rfl
  have hlength : resp.length = ('&' :: reg.text.toList).length + value.length := by
    rw [← String.length_toList, hresp, List.length_append]
  have hle : ('&' :: reg.text.toList).length ≤ resp.length :=
    (Nat.le_add_right _ _).trans hlength.ge
  have hrest : (resp.toList.drop ('&' :: reg.text.toList).length).take resp.length = value := by
    rw [hresp, List.drop_left]
    exact List.take_of_length_le ((Nat.le_add_left _ _).trans hlength.ge)
  simp only [replystr, hcut, if_neg hone, hend, if_pos, substrOrThrow, substr_eq_some hle, hrest,
    Option.elim_some]

/-- A query returns what the light source prints for the register. -/
theorem queryCmd_on (reg : Register)
    (hrequest : request.toList = '&' :: (reg.text.toList ++ ['?', '\r'])) :
    (queryCmd l request).on regs =
      (.ok (String.ofList (l.print reg.text (regs reg.text) ++ ['\r'])), regs) := by
  obtain ⟨c, cs, htext, hc⟩ := exists_text reg
  let value := l.print reg.text (regs reg.text) ++ ['\r']
  let answer := "&" ++ reg.text ++ String.ofList value
  have hlist : answer.toList = ('&' :: reg.text.toList) ++ value := by
    have hvalue : (String.ofList value).toList = value := String.toList_ofList
    rw [String.toList_append, String.toList_append, hvalue]
    rfl
  -- the answer is the echo of the register with the value behind it
  have hcmd : (cmd l request).on regs = (.ok answer, regs) := by
    have hend : request.toList = '&' :: ((reg.text.toList ++ ['?']) ++ ['\r']) := by
      rw [hrequest, List.append_assoc]
      rfl
    refine cmd_on hend (receive_query reg.text hrequest) ?_ ?_
    · rw [hlist]
      rfl
    · rw [hlist, htext]
      exact fun h => hc (Option.some.inj h)
  rw [queryCmd, Stateful.on_bind_of_ok hcmd, replystr_eq reg hrequest hlist]
  rfl

/-! ### Values -/

/-- A number that is printed in decimal is read back. -/
theorem stoi_print {reg : String} (h : reg ≠ "EE") (n : Fin (2 ^ 31)) :
    stoi (String.ofList (l.print reg n ++ ['\r'])) = .ok (n : ℤ) := by
  rw [Light.print, if_neg h]
  exact stoi_eq_ok_iff.mpr
    ⟨number_digits_append (l.readNat_decimal n) (by decide), by omega, by omega⟩

/-- The number of `EE` is printed and read back in hexadecimal. -/
theorem stoiHex_print (n : Fin (2 ^ 31)) :
    stoiHex (String.ofList (l.print "EE" n ++ ['\r'])) = .ok (n : ℤ) := by
  rw [Light.print, if_pos rfl, stoiHex, hexNumber_digits_append (l.readNat_hexadecimal n)
    (by decide) (by decide) (by decide)]
  exact if_pos ⟨by omega, by omega⟩

/-- A number is set in the base that its register has. -/
theorem setHelper_on (reg : Register) {command : String} {n : ℕ} {hex : Bool} (hn : n < 2 ^ 31)
    (hhex : hex = true ↔ reg.name = "EE") (hcommand : command.toList = '&' :: reg.text.toList) :
    (setHelper l command n hex).on regs =
      (.ok (), Function.update regs reg.text ⟨n, hn⟩) := by
  refine Stateful.on_bind_of_ok (cmd_set reg hn hhex ?_) _
  rw [String.toList_append, String.toList_append, String.toList_ofList, hcommand]
  rfl

end Exchanges

end ColdVision

end Foxtrot
