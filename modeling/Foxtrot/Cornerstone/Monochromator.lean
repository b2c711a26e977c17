import Foxtrot.Foundation.Stateful
import Foxtrot.Foundation.Text
import Foxtrot.Foundation.TransitionSystem
import Foxtrot.Protocols.SerialPort
import Foxtrot.Server.Handler

/-!
# Errors of the Cornerstone 260 monochromator

The monochromator (`devices/cornerstone_260/cornerstone260.cpp`) does not answer a setting command.
It latches the error of a command that it rejects, shows in its status that there is one, and
forgets it when it has been queried for it. So each operation queries the status after its command
(`err_check`), and throws what is latched.

`setFilter` does not, and `info` returns before it would. Their errors stay latched and are thrown
by the next operation. A query whose answer does not come throws before the status is queried, with
the same effect. A read returns also what has arrived behind its line break: if that is part of an
answer, the echo in front of it is refused (`readecho_on_of_early`). Where none of this happens,
the errors are thrown by the operations that have caused them (`errors_caused`).

The proof has one rule for each way in which operations are put together: a value, a command with
its check, a sequence, and a scope with another wait time, whose destructor sets the old one on both
exits (`Fair.pure`, `Fair.bind`, `Fair.withWait`). A fair operation leaves no error latched, so the
next one begins as this one did, and each of the operations is an instance of these rules
(`fair_run`).
-/

namespace Foxtrot

namespace Cornerstone

open Text

/-! ### The device -/

/-- A line that the device answers with, without the line break that ends it. -/
abbrev Line := { text : String // '\n' ∉ text.toList }

/-- The characters that are sent for a line, or for none. -/
def lineChars (answer : Option Line) : List Char :=
  answer.elim [] fun line => line.1.toList ++ ['\n']

/-- What the device does with a command. -/
inductive Reaction where
  /-- A query is answered with a line. -/
  | accepted (answer : Option Line)
  | rejected (code : ℕ) (answer : Option Line)

/-- The answer to a command, if there is one. -/
def Reaction.answer : Reaction → Option Line
  | accepted answer | rejected _ answer => answer

/-- The error that a command raises, if it does. -/
def Reaction.code : Reaction → Option ℕ
  | accepted _ => none
  | rejected code _ => some code

/-- What is in front of the carriage return, as `cmd` finds it. -/
def beforeReturn (response : String) : Option String := (splitFirst '\r' response).map Prod.fst

/-- How the device reports its latched error. -/
structure Reports where
  /-- The line that answers `STB?`, by whether an error is latched. -/
  statusLine : Bool → Line
  /-- The line that answers `ERROR?`. -/
  errorLine : Option ℕ → Line
  status : ∀ latched, ∃ text n,
    beforeReturn (statusLine latched).1 = some text ∧ stoul text = .ok n ∧
      (n ≠ 0 ↔ latched = true)
  error : ∀ latched, ∃ text, beforeReturn (errorLine latched).1 = some text

/-- The answer to a line, and the error that is latched then. `react` is what the device does with
the commands that are not about its status. -/
def Reports.respond (r : Reports) (react : String → Reaction) (latched : Option ℕ)
    (line : String) : Option Line × Option ℕ :=
  if line = "STB?" then
    (some (r.statusLine latched.isSome), latched)
  else if line = "ERROR?" then
    -- the device forgets the error that it has been asked for
    (some (r.errorLine latched), none)
  else
    ((react line).answer, latched.or (react line).code)

/-- The device, and the serial port that it is on. -/
structure Port where
  /-- What has been sent by the device and has not been read. -/
  incoming : List Char
  /-- The error that is latched. -/
  latched : Option ℕ
  wait : ℕ
  /-- The lines that have been written. -/
  sent : List String
  /-- For each of the next reads, how many characters behind the line break have arrived with it. -/
  behind : List ℕ

/-- The device echoes a line, and answers. -/
def Port.receive (r : Reports) (react : String → Reaction) (p : Port) (line : String) : Port :=
  let (answer, latched) := r.respond react p.latched line
  { p with
    incoming := p.incoming ++ line.toList ++ '\n' :: lineChars answer
    latched
    sent := p.sent ++ [line] }

/-- What the operations are computations on. -/
abbrev MonoM := Stateful Port Thrown

/-- `SerialPort::flush`. -/
def flush : MonoM Unit := ExceptT.mk fun p => (.ok (), { p with incoming := [] })

/-- `SerialPort::read_until_endl`. -/
def readUntilEndl : MonoM String := ExceptT.mk fun p =>
  let (reply, left) := SerialPort.readUntilEndl '\n' (p.behind.headD 0) p.incoming
  (reply.elim (.error (.protocolError "serial port read timed out...")) fun text =>
      .ok (String.ofList text),
    { p with incoming := left, behind := p.behind.tail })

/-- `SerialPort::getWait`. -/
def getWait : MonoM ℕ := ExceptT.mk fun p => (.ok p.wait, p)

/-- `SerialPort::setWait`. -/
def setWait (wait : ℕ) : MonoM Unit := ExceptT.mk fun p => (.ok (), { p with wait })

/-- Runs with another wait time: a scope with a `SerialPortWaitSetter`. -/
def withWait {A : Type} (wait : ℕ) (m : MonoM A) : MonoM A := do
  let storedwait ← getWait
  setWait wait
  Stateful.onExit (fun _ => true) m (setWait storedwait)

section Operations

variable (r : Reports) (react : String → Reaction)

/-- `SerialPort::write`, of a request and a line break. -/
def write (request : String) : MonoM Unit :=
  ExceptT.mk fun p => (.ok (), (getlines (request ++ "\n")).foldl (Port.receive r react) p)

/-- `echo.erase(std::remove(echo.begin(), echo.end(), '\n'))`. The other characters are moved to the
front, and one character is erased behind them: not all that are left over. -/
def removeNewline (echo : List Char) : List Char :=
  let kept := echo.filter (· ≠ '\n')
  (kept ++ echo.drop kept.length).eraseIdx kept.length

/-- `readecho`. -/
def readecho (request : String) : MonoM String := do
  let echo := removeNewline (← readUntilEndl).toList
  if echo.length ≠ request.length then
    throw (.protocolError "invalid size of echo")
  return String.ofList echo

/-- `cmd_no_response`. -/
def cmdNoResponse (request : String) : MonoM Unit := do
  flush
  write r react request
  let _ ← readecho request

/-- `cmd`. -/
def cmd (request : String) : MonoM String := do
  cmdNoResponse r react request
  match beforeReturn (← readUntilEndl) with
  | none => throw (.deviceError "failed to find carriage return in device response")
  | some response => return response

/-- `errstatus`. -/
def errstatus : MonoM Bool := do
  match stoul (← cmd r react "STB?") with
  | .error e => throw (thrownByNumber "stoul" e)
  | .ok status => return status ≠ 0

/-- `cornerstone_error_strings`. -/
def errorStrings : ℕ → Option String
  | 1 => some "Command not understood"
  | 2 => some "Bad parameter used in Command"
  | 3 => some "Destination Position for wavelength motion not allowed"
  | 6 => some "Accessory not present (usually filter wheel)"
  | 7 => some "Accessory already in specified position"
  | 8 => some "Could not home wavelength drive"
  | 9 => some "Label too long"
  | 0 => some "system error (miscellaneous)"
  | _ => none

/-- The text of an error. A number is cut to an `unsigned short`, and to an `unsigned char` where it
is looked up. -/
def errorText (repl : String) : String :=
  match stoul repl with
  | .error _ => "cornerstone260 unknown error, raw: " ++ repl
  | .ok errcode =>
    (errorStrings (errcode % 2 ^ 8)).getD
      s!"cornerstone260 unknown error, code: {errcode % 2 ^ 16}"

/-- `lasterror`. -/
def lasterror : MonoM String := do
  let repl ← cmd r react "ERROR?"
  if repl = "" then
    throw (.exception "no error string stored")
  return errorText repl

/-- `err_check`. -/
def errCheck : MonoM Unit := do
  if ← errstatus r react then
    throw (.deviceError (← lasterror r react))

/-- A setting command, and the check for its error. -/
def checkedCommand (request : String) : MonoM Unit := do
  cmdNoResponse r react request
  errCheck r react

/-- A query, the check for its error, and the value that is read from its answer. -/
def checkedQuery {A : Type} (request : String) (decode : String → Except Thrown A) : MonoM A := do
  let repl ← cmd r react request
  errCheck r react
  match decode repl with
  | .error e => throw e
  | .ok value => return value

/-- The status of the shutter in an answer. The character at the end of a text is not `C` or `O`. -/
def shutterStatus (response : String) : Except Thrown Bool :=
  match response.toList.head? with
  | some 'C' => .ok false
  | some 'O' => .ok true
  | _ => .error (.protocolError "invalid shutter status")

/-- `std::stoi`. -/
def stoiValue (text : String) : Except Thrown ℤ := (stoi text).mapError (thrownByNumber "stoi")

/-- The conversions between `double` and text of the standard library. What is printed is one
line. -/
structure Doubles (F : Type) where
  stod : String → Except NumberError F
  /-- `std::fixed`, with six digits. -/
  fixed : F → String
  /-- With six digits. -/
  general : F → String
  fixed_line : ∀ x, '\n' ∉ (fixed x).toList
  general_line : ∀ x, '\n' ∉ (general x).toList

variable {F : Type} (d : Doubles F)

/-- `getShutterStatus`. -/
def getShutterStatus : MonoM Bool := checkedQuery r react "SHUTTER?" shutterStatus

/-- `setShutterStatus`. -/
def setShutterStatus (status : Bool) : MonoM Unit :=
  checkedCommand r react ("SHUTTER " ++ if status then "O" else "C")

/-- `setWave`. -/
def setWave (wlNm : F) : MonoM Unit :=
  withWait 120000 (checkedCommand r react ("GOWAVE " ++ d.fixed wlNm))

/-- `getWave`. -/
def getWave : MonoM F :=
  checkedQuery r react "WAVE?" fun repl => (d.stod repl).mapError (thrownByNumber "stod")

/-- `setFilter`. There is no check. -/
def setFilter (fnum : ℤ) : MonoM Unit :=
  withWait 120000 (cmdNoResponse r react ("FILTER " ++ fnum.repr))

/-- `getFilter`. -/
def getFilter : MonoM ℤ := checkedQuery r react "FILTER?" stoiValue

/-- `getGrating`. -/
def getGrating : MonoM ℤ := checkedQuery r react "GRAT?" stoiValue

/-- `setGrating`. -/
def setGrating (gr : ℤ) : MonoM Unit :=
  withWait 120000 (checkedCommand r react ("GRAT " ++ gr.repr))

/-- `label.substr(0,9)`. -/
def shortLabel (label : String) : String := String.ofList (label.toList.take 9)

/-- `setGratingCalibration`. -/
def setGratingCalibration (gr lines : ℤ) (factor zero offset : F) (label : String) :
    MonoM Unit := do
  checkedCommand r react ("GRAT" ++ gr.repr ++ "LINES " ++ lines.repr)
  checkedCommand r react ("GRAT" ++ gr.repr ++ "FACTOR " ++ d.general factor)
  checkedCommand r react ("GRAT" ++ gr.repr ++ "OFFSET " ++ d.general offset)
  checkedCommand r react ("GRAT" ++ gr.repr ++ "ZERO " ++ d.general zero)
  checkedCommand r react ("GRAT" ++ gr.repr ++ "LABEL " ++ shortLabel label)

/-- `abort`. -/
def abort : MonoM Unit := checkedCommand r react "ABORT"

/-- `info`. The check after the `return` is not reached. -/
def info : MonoM String := cmd r react "INFO?"

end Operations

/-! ### Runs of operations -/

/-- An operation. -/
inductive Op (F : Type) where
  | getShutterStatus
  | setShutterStatus (status : Bool)
  | setWave (wlNm : F)
  | getWave
  | setFilter (fnum : ℤ)
  | getFilter
  | getGrating
  | setGrating (gr : ℤ)
  | setGratingCalibration (gr lines : ℤ) (factor zero offset : F) (label : String)
  | abort
  | lasterror
  | errstatus
  | info

/-- What an operation returns. -/
inductive Value (F : Type) where
  | done
  | flag (status : Bool)
  | wave (wlNm : F)
  | number (n : ℤ)
  | text (text : String)
  deriving DecidableEq

variable {F : Type}

/-- The function of an operation. -/
def Op.run (r : Reports) (react : String → Reaction) (d : Doubles F) : Op F → MonoM (Value F)
  | getShutterStatus => do return .flag (← Cornerstone.getShutterStatus r react)
  | setShutterStatus status => do Cornerstone.setShutterStatus r react status; return .done
  | setWave wlNm => do Cornerstone.setWave r react d wlNm; return .done
  | getWave => do return .wave (← Cornerstone.getWave r react d)
  | setFilter fnum => do Cornerstone.setFilter r react fnum; return .done
  | getFilter => do return .number (← Cornerstone.getFilter r react)
  | getGrating => do return .number (← Cornerstone.getGrating r react)
  | setGrating gr => do Cornerstone.setGrating r react gr; return .done
  | setGratingCalibration gr lines factor zero offset label => do
    Cornerstone.setGratingCalibration r react d gr lines factor zero offset label
    return .done
  | abort => do Cornerstone.abort r react; return .done
  | lasterror => do return .text (← Cornerstone.lasterror r react)
  | errstatus => do return .flag (← Cornerstone.errstatus r react)
  | info => do return .text (← Cornerstone.info r react)

/-- The query whose answer an operation returns, and how it is read. -/
def Op.query (d : Doubles F) : Op F → Option (String × (String → Except Thrown (Value F)))
  | getShutterStatus => some ("SHUTTER?", fun repl => (shutterStatus repl).map .flag)
  | getWave => some ("WAVE?", fun repl =>
      ((d.stod repl).mapError (thrownByNumber "stod")).map .wave)
  | getFilter => some ("FILTER?", fun repl => (stoiValue repl).map .number)
  | getGrating => some ("GRAT?", fun repl => (stoiValue repl).map .number)
  | info => some ("INFO?", fun repl => .ok (.text repl))
  | _ => none

/-- An operation, what the device does with its commands, and what arrives behind the line breaks
of its reads. -/
structure Turn (F : Type) where
  op : Op F
  react : String → Reaction
  behind : List ℕ

/-- A query that the device accepts is answered in its form. -/
def Turn.answers (d : Doubles F) (t : Turn F) : Bool :=
  match t.op.query d with
  | none => true
  | some (request, decode) =>
    match t.react request with
    | .rejected _ _ => true
    | .accepted answer =>
      ((answer.bind fun line => beforeReturn line.1).map decode).any Except.toBool

/-- An operation that has ended. -/
structure Outcome (F : Type) where
  turn : Turn F
  result : Except Thrown (Value F)
  /-- The lines that it has sent. -/
  sent : List String
  waitBefore : ℕ
  waitAfter : ℕ

/-- The state between two operations. -/
structure MonoState (F : Type) where
  port : Port
  outcomes : List (Outcome F)

/-- The state after an operation. -/
def MonoState.after (r : Reports) (d : Doubles F) (s : MonoState F) (t : Turn F) : MonoState F :=
  let ended := (t.op.run r t.react d).on { s.port with sent := [], behind := t.behind }
  ⟨ended.2, s.outcomes ++ [⟨t, ended.1, ended.2.sent, s.port.wait, ended.2.wait⟩]⟩

/-- Operations one after the other. -/
def operations (r : Reports) (d : Doubles F) : TransitionSystem (MonoState F) (Turn F) where
  init := ⟨⟨[], none, 2000, [], []⟩, []⟩
  step s t := if t.answers d then some (s.after r d t) else none

/-! ### What is asked of an operation -/

/-- The queries for the status and the latched error. -/
def StatusQuery (line : String) : Prop := line = "STB?" ∨ line = "ERROR?"

/-- The device rejects the command. -/
def Rejected (react : String → Reaction) (line : String) : Prop :=
  ¬ StatusQuery line ∧ (react line).code ≠ none

/-- Of these lines, none is rejected. -/
def Passed (react : String → Reaction) (sent : List String) : Prop :=
  ∀ line ∈ sent, ¬ Rejected react line

/-- One of these lines is rejected, and only queries for the status and the error follow it. -/
def Stopped (react : String → Reaction) (sent : List String) : Prop :=
  ∃ before line after, sent = before ++ line :: after ∧ Passed react before ∧
    Rejected react line ∧ ∀ l ∈ after, StatusQuery l

/-- **The errors of an operation are its own**: it throws exactly if one of its commands is
rejected, and sends no setting command after that one. What it returns has been read from the answer
to its accepted query, and the wait time is left as it was. -/
structure Outcome.Caused (d : Doubles F) (o : Outcome F) : Prop where
  throws_iff : (∃ e, o.result = .error e) ↔ ∃ line ∈ o.sent, Rejected o.turn.react line
  stopped : (∃ e, o.result = .error e) → Stopped o.turn.react o.sent
  read : ∀ request decode value, o.turn.op.query d = some (request, decode) →
    o.result = .ok value → ∃ line text, o.turn.react request = .accepted (some line) ∧
      beforeReturn line.1 = some text ∧ decode text = .ok value
  wait : o.waitAfter = o.waitBefore

/-- No part of an answer has arrived when the echo in front of it is read. A read takes nothing from
behind its line break. -/
def Turn.Apart (t : Turn F) : Prop := ∀ n ∈ t.behind, n = 0

/-- The error of the operation, if it has one, is found by its check: the operation has a check, the
check is reached, and the error is not taken for one where there is none. -/
def Caught (r : Reports) (t : Turn F) : Prop :=
  match t.op with
  | .setFilter fnum => ¬ Rejected t.react ("FILTER " ++ fnum.repr)
  | .info => ¬ Rejected t.react "INFO?"
  | .getShutterStatus => Rejected t.react "SHUTTER?" → Answered "SHUTTER?"
  | .getWave => Rejected t.react "WAVE?" → Answered "WAVE?"
  | .getFilter => Rejected t.react "FILTER?" → Answered "FILTER?"
  | .getGrating => Rejected t.react "GRAT?" → Answered "GRAT?"
  | .setGratingCalibration _ _ _ _ _ label => '\n' ∉ (shortLabel label).toList
  | .lasterror => beforeReturn (r.errorLine none).1 ≠ some ""
  | .setShutterStatus _ | .setWave _ | .setGrating _ | .abort | .errstatus => True
where
  /-- The query is answered by a line that `cmd` reads. -/
  Answered (request : String) : Prop :=
    ((t.react request).answer.bind fun line => beforeReturn line.1).isSome = true

/-! ### One command

Between two commands everything that was sent has been read, so the echo of the next one is the
first line to be read, and its answer, if it has one, the second. -/

section Commands

variable {r : Reports} {react : String → Reaction} {p : Port} {request text : String}

/-- No error is latched, and no read takes what is behind its line break. -/
structure Port.Ready (p : Port) : Prop where
  latched : p.latched = none
  apart : ∀ n ∈ p.behind, n = 0

/-- The port after a request, when its echo has been read. -/
def Port.answered (p : Port) (r : Reports) (react : String → Reaction) (request : String) : Port :=
  let (answer, latched) := r.respond react p.latched request
  ⟨lineChars answer, latched, p.wait, p.sent ++ [request], p.behind.tail⟩

/-- The next read takes nothing from behind its line break. -/
private theorem headD_of_apart {ns : List ℕ} (h : ∀ n ∈ ns, n = 0) : ns.headD 0 = 0 := by
  cases ns with
  | nil => rfl
  | cons n ns => exact h n List.mem_cons_self

private theorem apart_tail {ns : List ℕ} (h : ∀ n ∈ ns, n = 0) : ∀ n ∈ ns.tail, n = 0 :=
  fun n hn => h n (List.mem_of_mem_tail hn)

private theorem readUntilEndl_on {reply left : List Char}
    (h : SerialPort.readUntilEndl '\n' (p.behind.headD 0) p.incoming = (some reply, left)) :
    readUntilEndl.on p =
      (.ok (String.ofList reply), { p with incoming := left, behind := p.behind.tail }) := by
  simp only [readUntilEndl, Stateful.on, ExceptT.mk, ExceptT.run, h]
  rfl

/-- The line break is taken out of a line. -/
private theorem removeNewline_line {line : List Char} (h : '\n' ∉ line) :
    removeNewline (line ++ ['\n']) = line := by
  have hkept : (line ++ ['\n']).filter (· ≠ '\n') = line := by
    rw [List.filter_append, List.filter_eq_self.mpr]
    · exact List.append_nil _
    · intro c hc
      exact decide_eq_true fun heq => h (heq ▸ hc)
  rw [removeNewline, hkept, List.drop_left, List.eraseIdx_append_of_length_le le_rfl,
    Nat.sub_self]
  exact List.append_nil _

/-- One character is erased, whatever is behind the line break. -/
theorem length_removeNewline (echo : List Char) (h : '\n' ∈ echo) :
    (removeNewline echo).length + 1 = echo.length := by
  have hkept : (echo.filter (· ≠ '\n')).length < echo.length :=
    List.length_filter_lt_length_iff_exists.mpr ⟨'\n', h, by decide⟩
  rw [removeNewline, List.length_eraseIdx, List.length_append, List.length_drop, if_pos (by omega)]
  omega

private theorem readecho_on (h : '\n' ∉ request.toList) (hapart : ∀ n ∈ p.behind, n = 0)
    {rest : List Char} (hincoming : p.incoming = request.toList ++ '\n' :: rest) :
    (readecho request).on p =
      (.ok request, { p with incoming := rest, behind := p.behind.tail }) := by
  have hread : readUntilEndl.on p = (.ok (String.ofList (request.toList ++ ['\n'])),
      { p with incoming := rest, behind := p.behind.tail }) :=
    readUntilEndl_on (by
      rw [hincoming, headD_of_apart hapart]
      exact SerialPort.readUntilEndl_append h 0 rest)
  have hsize : ¬ request.toList.length ≠ request.length := not_not_intro String.length_toList
  rw [readecho, Stateful.on_bind_of_ok hread, String.toList_ofList, removeNewline_line h]
  dsimp only
  rw [if_neg hsize, String.ofList_toList]
  rfl

/-- **An echo with part of the answer is refused**, be the command accepted or not. -/
theorem readecho_on_of_early (h : '\n' ∉ request.toList) (hbehind : p.behind.headD 0 ≠ 0)
    {rest : List Char} (hrest : rest ≠ [])
    (hincoming : p.incoming = request.toList ++ '\n' :: rest) :
    (readecho request).on p = (.error (.protocolError "invalid size of echo"),
      { p with incoming := rest.drop (p.behind.headD 0), behind := p.behind.tail }) := by
  have hread := readUntilEndl_on (p := p) (by
    rw [hincoming]
    exact SerialPort.readUntilEndl_append h (p.behind.headD 0) rest)
  -- one character is erased, and there are two at least behind the request
  have hsize : (removeNewline
      (request.toList ++ '\n' :: rest.take (p.behind.headD 0))).length ≠ request.length := by
    have hlength := length_removeNewline
      (request.toList ++ '\n' :: rest.take (p.behind.headD 0)) (by simp)
    have hpos : 0 < rest.length := List.length_pos_iff.mpr hrest
    rw [List.length_append, List.length_cons, List.length_take, String.length_toList] at hlength
    omega
  rw [readecho, Stateful.on_bind_of_ok hread, String.toList_ofList]
  dsimp only
  rw [if_pos hsize]
  rfl

/-- The echo is read, and the answer stays in the port. -/
theorem cmdNoResponse_on (h : '\n' ∉ request.toList) (hapart : ∀ n ∈ p.behind, n = 0) :
    (cmdNoResponse r react request).on p = (.ok (), p.answered r react request) := by
  have hflush : flush.on p = (.ok (), { p with incoming := [] }) := rfl
  have hwrite : (write r react request).on { p with incoming := [] } =
      (.ok (), { p with incoming := [] }.receive r react request) := by
    change (Except.ok (), (getlines (request ++ "\n")).foldl (Port.receive r react) _) = _
    rw [getlines_line h]
    rfl
  have hecho := readecho_on (p := { p with incoming := [] }.receive r react request) h hapart rfl
  rw [cmdNoResponse, Stateful.on_bind_of_ok hflush, Stateful.on_bind_of_ok hwrite,
    Stateful.on_bind_of_ok hecho]
  rfl

/-- What is in front of the carriage return, whatever is behind. -/
private theorem beforeReturn_append {line : List Char}
    (h : beforeReturn (String.ofList line) = some text) (rest : List Char) :
    beforeReturn (String.ofList (line ++ rest)) = some text := by
  rw [beforeReturn, splitFirst, String.toList_ofList] at h ⊢
  cases hcut : cut '\r' line with
  | none => rw [hcut] at h; cases h
  | some parts =>
    obtain ⟨rfl, hreturn⟩ := cut_eq_some_iff.mp hcut
    rw [hcut] at h
    rw [List.append_assoc, List.cons_append, cut_append hreturn]
    exact h

/-- The answer is read up to its line break, which is the last that there is to read. -/
theorem cmd_on_of_line (h : '\n' ∉ request.toList) (hapart : ∀ n ∈ p.behind, n = 0) {line : Line}
    (hincoming : (p.answered r react request).incoming = lineChars (some line))
    (hline : beforeReturn line.1 = some text) : (cmd r react request).on p =
      (.ok text, { p.answered r react request with
        incoming := [], behind := (p.answered r react request).behind.tail }) := by
  have hread := readUntilEndl_on (p := p.answered r react request)
    (by rw [hincoming]; exact SerialPort.readUntilEndl_append line.2 _ [])
  rw [List.take_nil, List.drop_nil] at hread
  have htext : beforeReturn (String.ofList (line.1.toList ++ ['\n'])) = some text :=
    beforeReturn_append (by rw [String.ofList_toList]; exact hline) _
  rw [cmd, Stateful.on_bind_of_ok (cmdNoResponse_on h hapart), Stateful.on_bind_of_ok hread, htext]
  rfl

/-- A command that is not about the status is answered as the device reacts to it. -/
private theorem answered_of_command (h : ¬ StatusQuery request) : p.answered r react request =
    ⟨lineChars (react request).answer, p.latched.or (react request).code, p.wait,
      p.sent ++ [request], p.behind.tail⟩ := by
  obtain ⟨hstatus, herror⟩ := not_or.mp h
  rw [Port.answered, Reports.respond, if_neg hstatus, if_neg herror]

/-- Where no error is left over, the error is that of the command. -/
theorem answered_of_latched (hp : p.latched = none) (h : ¬ StatusQuery request) :
    p.answered r react request = ⟨lineChars (react request).answer, (react request).code, p.wait,
      p.sent ++ [request], p.behind.tail⟩ := by
  rw [answered_of_command h, hp, Option.none_or]

/-- The status says whether an error is latched. -/
theorem errstatus_on (hapart : ∀ n ∈ p.behind, n = 0) : (errstatus r react).on p =
    (.ok p.latched.isSome,
      ⟨[], p.latched, p.wait, p.sent ++ ["STB?"], p.behind.tail.tail⟩) := by
  obtain ⟨text, n, htext, hn, hiff⟩ := r.status p.latched.isSome
  have hcmd : (cmd r react "STB?").on p =
      (.ok text, ⟨[], p.latched, p.wait, p.sent ++ ["STB?"], p.behind.tail.tail⟩) :=
    cmd_on_of_line (by decide) hapart (by rfl) htext
  have hflag : decide (n ≠ 0) = p.latched.isSome := by
    rw [Bool.eq_iff_iff, decide_eq_true_iff]
    exact hiff
  rw [errstatus, Stateful.on_bind_of_ok hcmd, hn, ← hflag]
  rfl

/-- The latched error is read, and forgotten by the device. -/
theorem lasterror_on (r : Reports) (react : String → Reaction)
    (hapart : ∀ n ∈ p.behind, n = 0) : ∃ repl,
    beforeReturn (r.errorLine p.latched).1 = some repl ∧
    (lasterror r react).on p =
      (if repl = "" then .error (.exception "no error string stored") else .ok (errorText repl),
        ⟨[], none, p.wait, p.sent ++ ["ERROR?"], p.behind.tail.tail⟩) := by
  obtain ⟨repl, hrepl⟩ := r.error p.latched
  refine ⟨repl, hrepl, ?_⟩
  have hcmd : (cmd r react "ERROR?").on p =
      (.ok repl, ⟨[], none, p.wait, p.sent ++ ["ERROR?"], p.behind.tail.tail⟩) :=
    cmd_on_of_line (by decide) hapart (by rfl) hrepl
  rw [lasterror, Stateful.on_bind_of_ok hcmd]
  by_cases hempty : repl = ""
  · rw [if_pos hempty, if_pos hempty]
    rfl
  · rw [if_neg hempty, if_neg hempty]
    rfl

/-- Where no error is latched, the check passes. -/
private theorem errCheck_on_none (hp : p.Ready) : (errCheck r react).on p =
    (.ok (), ⟨[], none, p.wait, p.sent ++ ["STB?"], p.behind.tail.tail⟩) := by
  rw [errCheck, Stateful.on_bind_of_ok (errstatus_on hp.apart), hp.latched]
  rfl

/-- A latched error is thrown by the check. -/
theorem errCheck_on_some (r : Reports) (react : String → Reaction) (h : p.latched ≠ none)
    (hapart : ∀ n ∈ p.behind, n = 0) : ∃ e, (errCheck r react).on p =
      (.error e, ⟨[], none, p.wait, p.sent ++ ["STB?", "ERROR?"],
        p.behind.tail.tail.tail.tail⟩) := by
  obtain ⟨repl, -, hlast⟩ := lasterror_on (p := ⟨[], p.latched, p.wait, p.sent ++ ["STB?"],
    p.behind.tail.tail⟩) r react (apart_tail (apart_tail hapart))
  have hsent : p.sent ++ ["STB?"] ++ ["ERROR?"] = p.sent ++ ["STB?", "ERROR?"] :=
    List.append_assoc _ _ _
  rw [errCheck, Stateful.on_bind_of_ok (errstatus_on hapart), Option.isSome_iff_ne_none.mpr h,
    if_pos rfl]
  -- the check throws the text of the error, or that there is none
  by_cases hempty : repl = ""
  · rw [if_pos hempty] at hlast
    exact ⟨_, by rw [Stateful.on_bind_of_error hlast, hsent]⟩
  · rw [if_neg hempty] at hlast
    exact ⟨_, by rw [Stateful.on_bind_of_ok hlast, hsent]; rfl⟩

end Commands

/-! ### Operations whose errors are their own -/

section Fair

variable {r : Reports} {react : String → Reaction} {A B : Type} {P : A → Prop} {Q : B → Prop}
  {request : String}

private theorem Passed.append {sent sent' : List String} (h : Passed react sent)
    (h' : Passed react sent') : Passed react (sent ++ sent') :=
  List.forall_mem_append.mpr ⟨h, h'⟩

private theorem Passed.appendStopped {sent sent' : List String} (h : Passed react sent)
    (h' : Stopped react sent') : Stopped react (sent ++ sent') := by
  obtain ⟨before, line, after, rfl, hbefore, hline, hafter⟩ := h'
  exact ⟨sent ++ before, line, after, (List.append_assoc _ _ _).symm, h.append hbefore, hline,
    hafter⟩

private theorem not_rejected_of_statusQuery {line : String} (h : StatusQuery line) :
    ¬ Rejected react line :=
  fun hrejected => hrejected.1 h

/-- Where no error is latched, the operation throws exactly the errors of its own commands, and
leaves none latched. What it returns satisfies `P`. -/
def Fair (react : String → Reaction) (P : A → Prop) (m : MonoM A) : Prop :=
  ∀ p : Port, p.Ready → ∃ sent p', p'.Ready ∧ p'.wait = p.wait ∧ p'.sent = p.sent ++ sent ∧
    ((∃ a, m.on p = (.ok a, p') ∧ P a ∧ Passed react sent) ∨
      ∃ e, m.on p = (.error e, p') ∧ Stopped react sent)

/-- A value is returned without a command. -/
theorem Fair.pure {a : A} (h : P a) : Fair react P (Pure.pure a) := by
  intro p hp
  exact ⟨[], p, hp, rfl, (List.append_nil _).symm, .inl ⟨a, rfl, h, nofun⟩⟩

/-- A sequence of fair operations is fair. -/
theorem Fair.bind {m : MonoM A} {f : A → MonoM B} (hm : Fair react P m)
    (hf : ∀ a, P a → Fair react Q (f a)) : Fair react Q (m >>= f) := by
  intro p hp
  obtain ⟨sent, p', hready, hwait, hsent, ⟨a, hon, ha, hpassed⟩ | ⟨e, hon, hstopped⟩⟩ := hm p hp
  · obtain ⟨sent', p'', hready', hwait', hsent', hend⟩ := hf a ha p' hready
    refine ⟨sent ++ sent', p'', hready', hwait'.trans hwait, ?_, ?_⟩
    · rw [hsent', hsent, List.append_assoc]
    · rw [Stateful.on_bind_of_ok hon]
      obtain ⟨b, hon', hb, hpassed'⟩ | ⟨e, hon', hstopped⟩ := hend
      · exact .inl ⟨b, hon', hb, hpassed.append hpassed'⟩
      · exact .inr ⟨e, hon', hpassed.appendStopped hstopped⟩
  · exact ⟨sent, p', hready, hwait, hsent, .inr ⟨e, Stateful.on_bind_of_error hon _, hstopped⟩⟩

/-- A value made from the result. -/
theorem Fair.map {m : MonoM A} (hm : Fair react P m) {f : A → B} (hf : ∀ a, P a → Q (f a)) :
    Fair react Q (m >>= fun a => Pure.pure (f a)) :=
  hm.bind fun a ha => Fair.pure (hf a ha)

/-- The wait time is set back on both exits. -/
theorem Fair.withWait {m : MonoM A} (hm : Fair react P m) (wait : ℕ) :
    Fair react P (withWait wait m) := by
  intro p hp
  have hget : getWait.on p = (.ok p.wait, p) := rfl
  have hset : ∀ q : Port, (setWait p.wait).on q = (.ok (), { q with wait := p.wait }) :=
    fun _ => rfl
  have hfirst : (setWait wait).on p = (.ok (), { p with wait }) := rfl
  have hon : (Cornerstone.withWait wait m).on p =
      (Stateful.onExit (fun _ => true) m (setWait p.wait)).on { p with wait } := by
    rw [Cornerstone.withWait, Stateful.on_bind_of_ok hget, Stateful.on_bind_of_ok hfirst]
  obtain ⟨sent, p', hready, -, hsent, ⟨a, hm, ha, hpassed⟩ | ⟨e, hm, hstopped⟩⟩ :=
    hm { p with wait } ⟨hp.latched, hp.apart⟩
  · refine ⟨sent, { p' with wait := p.wait }, ⟨hready.latched, hready.apart⟩, rfl, hsent,
      .inl ⟨a, ?_, ha, hpassed⟩⟩
    rw [hon, Stateful.on_onExit_of_ok hm (hset p')]
  · refine ⟨sent, { p' with wait := p.wait }, ⟨hready.latched, hready.apart⟩, rfl, hsent,
      .inr ⟨e, ?_, hstopped⟩⟩
    rw [hon, Stateful.on_onExit_of_error hm (hset p')]
    rfl

/-- After a command, the check throws exactly if the command has been rejected. -/
private theorem fair_errCheck (r : Reports) (p' : Port) (h : ¬ StatusQuery request) {p : Port}
    (hlatched : p'.latched = (react request).code) (hwait : p'.wait = p.wait)
    (hsent : p'.sent = p.sent ++ [request]) (hapart : ∀ n ∈ p'.behind, n = 0) :
    ∃ sent p'', p''.Ready ∧ p''.wait = p.wait ∧ p''.sent = p.sent ++ sent ∧
      (((errCheck r react).on p' = (.ok (), p'') ∧ (react request).code = none ∧
          Passed react sent) ∨
        ∃ e, (errCheck r react).on p' = (.error e, p'') ∧ Stopped react sent) := by
  by_cases hcode : (react request).code = none
  · have hon : (errCheck r react).on p' = _ := errCheck_on_none ⟨hlatched.trans hcode, hapart⟩
    refine ⟨[request, "STB?"], _, ⟨?_, ?_⟩, ?_, ?_, .inl ⟨hon, hcode, ?_⟩⟩
    · rfl
    · exact apart_tail (apart_tail hapart)
    · exact hwait
    · rw [hsent, List.append_assoc]
      rfl
    · refine List.forall_mem_cons.mpr ⟨fun hrejected => hrejected.2 hcode, ?_⟩
      exact List.forall_mem_singleton.mpr (not_rejected_of_statusQuery (.inl rfl))
  · -- the command is the one that is rejected, and the two queries follow it
    obtain ⟨e, he⟩ := errCheck_on_some r react (hlatched ▸ hcode) hapart
    refine ⟨[request, "STB?", "ERROR?"], _, ⟨?_, ?_⟩, ?_, ?_, .inr ⟨e, he, ?_⟩⟩
    · rfl
    · exact apart_tail (apart_tail (apart_tail (apart_tail hapart)))
    · exact hwait
    · rw [hsent, List.append_assoc]
      rfl
    · refine ⟨[], request, ["STB?", "ERROR?"], rfl, nofun, ⟨h, hcode⟩, ?_⟩
      exact List.forall_mem_cons.mpr ⟨.inl rfl, List.forall_mem_singleton.mpr (.inr rfl)⟩

private theorem fair_checkedCommand (hline : '\n' ∉ request.toList) (h : ¬ StatusQuery request) :
    Fair react (fun _ => True) (checkedCommand r react request) := by
  intro p hp
  have hanswered : p.answered r react request = _ := answered_of_latched hp.latched h
  obtain ⟨sent, p'', hready, hwait, hsent, hend⟩ := fair_errCheck (p := p) r
    (p.answered r react request) h (by rw [hanswered]) (by rw [hanswered]) (by rw [hanswered])
    (by rw [hanswered]; exact apart_tail hp.apart)
  refine ⟨sent, p'', hready, hwait, hsent, ?_⟩
  rw [checkedCommand, Stateful.on_bind_of_ok (cmdNoResponse_on hline hp.apart)]
  obtain ⟨hon, -, hpassed⟩ | hthrown := hend
  · exact .inl ⟨(), hon, trivial, hpassed⟩
  · exact .inr hthrown

/-- What a query returns has been read from its answer. -/
def ReadFrom (react : String → Reaction) (request : String) (decode : String → Except Thrown A)
    (value : A) : Prop :=
  ∃ line text, react request = .accepted (some line) ∧ beforeReturn line.1 = some text ∧
    decode text = .ok value

/-- A query with a check is fair, if its answer can be read. -/
private theorem fair_checkedQuery {decode : String → Except Thrown A}
    (hline : '\n' ∉ request.toList)
    (h : ¬ StatusQuery request) {line : Line} {text : String}
    (hanswer : (react request).answer = some line) (htext : beforeReturn line.1 = some text)
    (hdecode : (react request).code = none → ∃ value, decode text = .ok value) :
    Fair react (ReadFrom react request decode) (checkedQuery r react request decode) := by
  intro p hp
  have hanswered : p.answered r react request = _ := answered_of_latched hp.latched h
  have hcmd : (cmd r react request).on p = _ :=
    cmd_on_of_line hline hp.apart (by rw [hanswered, hanswer]) htext
  -- the answer has been read in full when the check begins
  obtain ⟨sent, p'', hready, hwait, hsent, hend⟩ := fair_errCheck (p := p) r
    { p.answered r react request with
      incoming := [], behind := (p.answered r react request).behind.tail } h
    (by rw [hanswered]) (by rw [hanswered]) (by rw [hanswered])
    (by rw [hanswered]; exact apart_tail (apart_tail hp.apart))
  refine ⟨sent, p'', hready, hwait, hsent, ?_⟩
  rw [checkedQuery, Stateful.on_bind_of_ok hcmd]
  obtain ⟨hon, hcode, hpassed⟩ | ⟨e, hon, hstopped⟩ := hend
  · obtain ⟨value, hvalue⟩ := hdecode hcode
    rw [Stateful.on_bind_of_ok hon, hvalue]
    refine .inl ⟨value, rfl, ⟨line, text, ?_, htext, hvalue⟩, hpassed⟩
    cases hreact : react request with
    | accepted answer => rw [hreact] at hanswer; rw [← hanswer]; rfl
    | rejected code answer => rw [hreact] at hcode; cases hcode
  · exact .inr ⟨e, Stateful.on_bind_of_error hon _, hstopped⟩

end Fair

/-! ### Each operation -/

section Operations

variable {r : Reports} {d : Doubles F} {react : String → Reaction} {t : Turn F}

private theorem newline_not_mem_repr (n : ℤ) : '\n' ∉ n.repr.toList := by
  intro h
  obtain h | h := of_mem_repr h
  · cases h
  · cases h

private theorem newline_not_mem_append {text text' : String} (h : '\n' ∉ text.toList)
    (h' : '\n' ∉ text'.toList) : '\n' ∉ (text ++ text').toList := by
  rw [String.toList_append, List.mem_append]
  exact not_or.mpr ⟨h, h'⟩

/-- A text with another first letter is not a query for the status or the error. -/
private theorem not_statusQuery_append {word : String} {c : Char} {cs : List Char}
    (hword : word.toList = c :: cs) (hS : c ≠ 'S') (hE : c ≠ 'E') (rest : String) :
    ¬ StatusQuery (word ++ rest) := by
  have hhead : (word ++ rest).toList.head? = some c := by
    rw [String.toList_append, hword]
    rfl
  rintro (heq | heq)
  · rw [heq] at hhead
    exact hS (Option.some.inj hhead).symm
  · rw [heq] at hhead
    exact hE (Option.some.inj hhead).symm

/-- An accepted query has an answer that can be read, and so has a rejected one if its error is
caught. -/
theorem Turn.exists_answer {request : String} {decode : String → Except Thrown (Value F)}
    (hanswers : t.answers d) (hquery : t.op.query d = some (request, decode))
    (hcaught : Rejected t.react request → Caught.Answered t request) (h : ¬ StatusQuery request) :
    ∃ line text, (t.react request).answer = some line ∧ beforeReturn line.1 = some text ∧
      ((t.react request).code = none → ∃ value, decode text = .ok value) := by
  rw [Turn.answers, hquery] at hanswers
  dsimp only at hanswers
  cases hreact : t.react request with
  | accepted answer =>
    rw [hreact] at hanswers
    dsimp only at hanswers
    cases answer with
    | none => cases hanswers
    | some line =>
      cases htext : beforeReturn line.1 with
      | none => rw [Option.bind_some, htext] at hanswers; cases hanswers
      | some text =>
        rw [Option.bind_some, htext, Option.map_some, Option.any_some] at hanswers
        refine ⟨line, text, rfl, htext, fun _ => ?_⟩
        cases hdecode : decode text with
        | error e => rw [hdecode] at hanswers; cases hanswers
        | ok value => exact ⟨value, rfl⟩
  | rejected code answer =>
    have hanswer := hcaught ⟨h, by rw [hreact]; exact Option.some_ne_none code⟩
    rw [Caught.Answered, hreact] at hanswer
    obtain ⟨text, htext⟩ := Option.isSome_iff_exists.mp hanswer
    obtain ⟨line, hline, htext⟩ := Option.bind_eq_some_iff.mp htext
    exact ⟨line, text, hline, htext, fun hcode => nomatch hcode⟩

/-- What is asked of the result of an operation: it has been read from the answer to its query. -/
def ReadBy (d : Doubles F) (t : Turn F) (value : Value F) : Prop :=
  ∀ request decode, t.op.query d = some (request, decode) → ReadFrom t.react request decode value

private theorem readBy_of_query_none (h : t.op.query d = none) (value : Value F) :
    ReadBy d t value :=
  fun _ _ hquery => nomatch h.symm.trans hquery

/-- A query with a check. -/
private theorem fair_query {A : Type} {request : String} {decode : String → Except Thrown A}
    {f : A → Value F} (hquery : t.op.query d = some (request, fun repl => (decode repl).map f))
    (hline : '\n' ∉ request.toList) (h : ¬ StatusQuery request) (hanswers : t.answers d)
    (hcaught : Rejected t.react request → Caught.Answered t request) :
    Fair t.react (ReadBy d t)
      (checkedQuery r t.react request decode >>= fun a => pure (f a)) := by
  obtain ⟨line, text, hanswer, htext, hdecode⟩ :=
    t.exists_answer hanswers hquery hcaught h
  refine (fair_checkedQuery hline h hanswer htext fun hcode => ?_).map fun a ha => ?_
  · obtain ⟨value, hvalue⟩ := hdecode hcode
    cases hresult : decode text with
    | error e => rw [hresult] at hvalue; cases hvalue
    | ok a => exact ⟨a, rfl⟩
  · rintro request' decode' hquery'
    obtain ⟨rfl, rfl⟩ := Prod.mk.inj (Option.some.inj (hquery.symm.trans hquery'))
    obtain ⟨line', text', hreact, htext', ha⟩ := ha
    exact ⟨line', text', hreact, htext', congrArg (Except.map f) ha⟩

/-- A setting command with a check. -/
private theorem fair_command {m : MonoM Unit} (hquery : t.op.query d = none)
    (hm : Fair t.react (fun _ => True) m) :
    Fair t.react (ReadBy d t) (m >>= fun _ => pure .done) :=
  hm.map fun _ _ => readBy_of_query_none hquery _

/-- `setFilter` is fair, if its command is not rejected. -/
private theorem fair_setFilter {fnum : ℤ} (hcaught : ¬ Rejected react ("FILTER " ++ fnum.repr)) :
    Fair react (fun _ => True) (setFilter r react fnum) := by
  have hcommand : ¬ StatusQuery ("FILTER " ++ fnum.repr) :=
    not_statusQuery_append (c := 'F') rfl (by decide) (by decide) _
  refine Fair.withWait (fun p hp => ?_) 120000
  have hanswered : p.answered r react ("FILTER " ++ fnum.repr) = _ :=
    answered_of_latched hp.latched hcommand
  refine ⟨["FILTER " ++ fnum.repr], _, ⟨?_, ?_⟩, ?_, ?_, .inl ⟨(), cmdNoResponse_on
    (newline_not_mem_append (by decide) (newline_not_mem_repr fnum)) hp.apart, trivial,
    List.forall_mem_singleton.mpr hcaught⟩⟩
  · rw [hanswered]
    exact not_not.mp fun hcode => hcaught ⟨hcommand, hcode⟩
  · rw [hanswered]
    exact apart_tail hp.apart
  · rw [hanswered]
  · rw [hanswered]

/-- `info` is fair, if its query is not rejected. -/
private theorem fair_info (hop : t.op = .info) (hanswers : t.answers d)
    (hcaught : ¬ Rejected t.react "INFO?") :
    Fair t.react (ReadBy d t) (do return .text (← info r t.react)) := by
  have hcommand : ¬ StatusQuery "INFO?" := by
    unfold StatusQuery
    decide
  have hquery : t.op.query d = some ("INFO?", fun repl => .ok (.text repl)) := by
    rw [hop]
    rfl
  obtain ⟨line, text, hanswer, htext, -⟩ :=
    t.exists_answer hanswers hquery (fun h => absurd h hcaught) hcommand
  -- without a check, a rejection would go unnoticed: the condition shuts it out
  have hcode : (t.react "INFO?").code = none := not_not.mp fun hcode => hcaught ⟨hcommand, hcode⟩
  intro p hp
  have hanswered : p.answered r t.react "INFO?" = _ := answered_of_latched hp.latched hcommand
  have hcmd : (cmd r t.react "INFO?").on p = _ :=
    cmd_on_of_line (by decide) hp.apart (by rw [hanswered, hanswer]) htext
  refine ⟨["INFO?"], _, ⟨?_, ?_⟩, ?_, ?_,
    .inl ⟨.text text, Stateful.on_bind_of_ok hcmd _, ?_, List.forall_mem_singleton.mpr hcaught⟩⟩
  · rw [hanswered]
    exact hcode
  · rw [hanswered]
    exact apart_tail (apart_tail hp.apart)
  · rw [hanswered]
  · rw [hanswered]
  · intro request decode hquery'
    obtain ⟨rfl, rfl⟩ := Prod.mk.inj (Option.some.inj (hquery.symm.trans hquery'))
    refine ⟨line, text, ?_, htext, rfl⟩
    cases hreact : t.react "INFO?" with
    | accepted answer => rw [hreact] at hanswer; rw [← hanswer]; rfl
    | rejected code answer => rw [hreact] at hcode; cases hcode

private theorem fair_errstatus : Fair react (fun _ => True) (errstatus r react) := by
  intro p hp
  have hon : (errstatus r react).on p = _ := errstatus_on hp.apart
  refine ⟨["STB?"], _, ⟨?_, ?_⟩, ?_, ?_, .inl ⟨_, hon, trivial, ?_⟩⟩
  · exact hp.latched
  · exact apart_tail (apart_tail hp.apart)
  · rfl
  · rfl
  · exact List.forall_mem_singleton.mpr (not_rejected_of_statusQuery (.inl rfl))

/-- The query for the error is fair, if it is not answered with an empty text. -/
private theorem fair_lasterror (hcaught : beforeReturn (r.errorLine none).1 ≠ some "") :
    Fair react (fun _ => True) (lasterror r react) := by
  intro p hp
  obtain ⟨repl, hrepl, hon⟩ := lasterror_on r react hp.apart
  have hne : repl ≠ "" := by
    rintro rfl
    rw [hp.latched] at hrepl
    exact hcaught hrepl
  rw [if_neg hne] at hon
  refine ⟨["ERROR?"], _, ⟨?_, ?_⟩, ?_, ?_, .inl ⟨_, hon, trivial, ?_⟩⟩
  · rfl
  · exact apart_tail (apart_tail hp.apart)
  · rfl
  · rfl
  · exact List.forall_mem_singleton.mpr (not_rejected_of_statusQuery (.inr rfl))

/-- The commands of a calibration that name its grating. -/
private theorem fair_calibration {gr : ℤ} {what text : String} (hwhat : '\n' ∉ what.toList)
    (htext : '\n' ∉ text.toList) : Fair react (fun _ => True)
      (checkedCommand r react ("GRAT" ++ gr.repr ++ what ++ text)) := by
  refine fair_checkedCommand (newline_not_mem_append (newline_not_mem_append
    (newline_not_mem_append (by decide) (newline_not_mem_repr gr)) hwhat) htext) ?_
  rw [String.append_assoc, String.append_assoc]
  exact not_statusQuery_append (c := 'G') rfl (by decide) (by decide) _

/-- The commands of a calibration are fair, one after the other. -/
private theorem fair_setGratingCalibration {gr lines : ℤ} {factor zero offset : F} {label : String}
    (hcaught : '\n' ∉ (shortLabel label).toList) : Fair react (fun _ => True)
      (setGratingCalibration r react d gr lines factor zero offset label) :=
  (fair_calibration (by decide) (newline_not_mem_repr lines)).bind fun _ _ =>
    (fair_calibration (by decide) (d.general_line factor)).bind fun _ _ =>
      (fair_calibration (by decide) (d.general_line offset)).bind fun _ _ =>
        (fair_calibration (by decide) (d.general_line zero)).bind fun _ _ =>
          fair_calibration (by decide) hcaught

/-- **Each operation** throws exactly the errors of its own commands, if they are caught. -/
theorem fair_run (hanswers : t.answers d) (hcaught : Caught r t) :
    Fair t.react (ReadBy d t) (t.op.run r t.react d) := by
  obtain ⟨op, react⟩ := t
  cases op with
  | getShutterStatus =>
    exact fair_query rfl (by decide) (by unfold StatusQuery; decide) hanswers hcaught
  | setShutterStatus status =>
    refine fair_command rfl (fair_checkedCommand ?_ ?_)
    · cases status <;> decide
    · unfold StatusQuery
      cases status <;> decide
  | setWave wlNm =>
    refine fair_command rfl (Fair.withWait (fair_checkedCommand ?_ ?_) _)
    · exact newline_not_mem_append (by decide) (d.fixed_line wlNm)
    · exact not_statusQuery_append (c := 'G') rfl (by decide) (by decide) _
  | getWave => exact fair_query rfl (by decide) (by unfold StatusQuery; decide) hanswers hcaught
  | setFilter fnum => exact fair_command rfl (fair_setFilter hcaught)
  | getFilter => exact fair_query rfl (by decide) (by unfold StatusQuery; decide) hanswers hcaught
  | getGrating => exact fair_query rfl (by decide) (by unfold StatusQuery; decide) hanswers hcaught
  | setGrating gr =>
    refine fair_command rfl (Fair.withWait (fair_checkedCommand ?_ ?_) _)
    · exact newline_not_mem_append (by decide) (newline_not_mem_repr gr)
    · exact not_statusQuery_append (c := 'G') rfl (by decide) (by decide) _
  -- several commands, each with a check of its own
  | setGratingCalibration gr lines factor zero offset label =>
    exact fair_command rfl (fair_setGratingCalibration hcaught)
  | abort =>
    exact fair_command rfl (fair_checkedCommand (by decide) (by unfold StatusQuery; decide))
  | lasterror => exact (fair_lasterror hcaught).map fun _ _ => readBy_of_query_none rfl _
  | errstatus => exact fair_errstatus.map fun _ _ => readBy_of_query_none rfl _
  | info => exact fair_info rfl hanswers hcaught

end Operations

/-! ### Whole runs -/

variable {r : Reports} {d : Doubles F}

/-- The outcome of an operation that is fair. -/
theorem caused_of_fair {s : MonoState F} {t : Turn F} (hs : s.port.latched = none)
    (hapart : t.Apart) (h : Fair t.react (ReadBy d t) (t.op.run r t.react d)) :
    (s.after r d t).port.latched = none ∧
      ∀ o ∈ (s.after r d t).outcomes, o ∈ s.outcomes ∨ o.Caused d := by
  obtain ⟨sent, p', hready, hwait, hsent, hend⟩ :=
    h { s.port with sent := [], behind := t.behind } ⟨hs, hapart⟩
  rw [List.nil_append] at hsent
  obtain ⟨value, hon, hread, hpassed⟩ | ⟨e, hon, hstopped⟩ := hend
  · have hafter : s.after r d t =
        ⟨p', s.outcomes ++ [⟨t, .ok value, sent, s.port.wait, p'.wait⟩]⟩ := by
      rw [MonoState.after, hon, hsent]
    rw [hafter]
    refine ⟨hready.latched, fun o ho => (List.mem_append.mp ho).imp_right fun ho => ?_⟩
    obtain rfl := List.mem_singleton.mp ho
    refine ⟨?_, fun ⟨e, he⟩ => (nomatch he), ?_, hwait⟩
    · refine iff_of_false (fun ⟨e, he⟩ => nomatch he) ?_
      rintro ⟨line, hline, hrejected⟩
      exact hpassed line hline hrejected
    · rintro request decode value' hquery hvalue
      obtain rfl := Except.ok.inj hvalue
      exact hread request decode hquery
  · have hafter : s.after r d t =
        ⟨p', s.outcomes ++ [⟨t, .error e, sent, s.port.wait, p'.wait⟩]⟩ := by
      rw [MonoState.after, hon, hsent]
    rw [hafter]
    refine ⟨hready.latched, fun o ho => (List.mem_append.mp ho).imp_right fun ho => ?_⟩
    obtain rfl := List.mem_singleton.mp ho
    refine ⟨?_, fun _ => hstopped, fun _ _ _ _ h => (nomatch h), hwait⟩
    -- an error comes of a command that has been rejected, and names it
    refine iff_of_true ⟨e, rfl⟩ ?_
    obtain ⟨before, line, after, rfl, -, hline, -⟩ := hstopped
    exact ⟨line, List.mem_append_right _ List.mem_cons_self, hline⟩

/-- **Errors are thrown by the operations that have caused them**, in every run in which the error
of each operation is caught by its check, and no answer arrives with its echo. -/
theorem errors_caused {s : MonoState F}
    (h : (operations r d).ReachableWhile (fun _ t => t.Apart ∧ Caught r t) s) :
    ∀ o ∈ s.outcomes, o.Caused d := by
  refine (h.invariant (P := fun s => s.port.latched = none ∧ ∀ o ∈ s.outcomes, o.Caused d)
    ⟨rfl, fun _ ho => absurd ho List.not_mem_nil⟩ ?_).2
  rintro s t s' - ⟨hlatched, hcaused⟩ ⟨hapart, hcaught⟩ hstep
  obtain ⟨hanswers, hafter⟩ := Option.ite_none_right_eq_some.mp hstep
  obtain rfl := Option.some.inj hafter
  obtain ⟨hlatched', houtcomes⟩ := caused_of_fair hlatched hapart (fair_run hanswers hcaught)
  exact ⟨hlatched', fun o ho => (houtcomes o ho).elim (hcaused o) id⟩

/-- A device whose only error is a bad parameter. -/
def badParameterReports : Reports where
  statusLine latched := if latched then ⟨"32\r", by decide⟩ else ⟨"0\r", by decide⟩
  errorLine latched := if latched = none then ⟨"0\r", by decide⟩ else ⟨"2\r", by decide⟩
  status latched := by
    cases latched with
    | false => exact ⟨"0", 0, by decide, by decide, by decide⟩
    | true => exact ⟨"32", 32, by decide, by decide, by decide⟩
  error latched := by
    by_cases h : latched = none
    · exact ⟨"0", by rw [if_pos h]; decide⟩
    · exact ⟨"2", by rw [if_neg h]; decide⟩

/-- Numbers without a fractional part. -/
def wholeDoubles : Doubles ℤ where
  stod := stoi
  fixed n := n.repr ++ ".000000"
  general n := n.repr
  fixed_line n := newline_not_mem_append (newline_not_mem_repr n) (by decide)
  general_line := newline_not_mem_repr

/-- The device accepts the first filter and the first two gratings. -/
def threeGratings (line : String) : Reaction :=
  if line = "FILTER 1" ∨ line = "GRAT 1" ∨ line = "GRAT 2" ∨ line = "ABORT" then .accepted none
  else if line = "GRAT?" then .accepted (some ⟨"1\r", by decide⟩)
  else .rejected 2 none

/-- A filter is set, then a grating that is not there, and the grating is queried. -/
theorem errors_caused_setGrating : ∃ s, (operations badParameterReports wholeDoubles).run
    (operations badParameterReports wholeDoubles).init [⟨.setFilter 1, threeGratings, [0]⟩,
      ⟨.setGrating 3, threeGratings, [0, 0, 0]⟩, ⟨.getGrating, threeGratings, []⟩] = some s ∧
    ∀ o ∈ s.outcomes, o.Caused wholeDoubles := by
  obtain ⟨s, hrun⟩ : ∃ s, (operations badParameterReports wholeDoubles).run
      (operations badParameterReports wholeDoubles).init [⟨.setFilter 1, threeGratings, [0]⟩,
        ⟨.setGrating 3, threeGratings, [0, 0, 0]⟩, ⟨.getGrating, threeGratings, []⟩] = some s :=
    ⟨_, rfl⟩
  refine ⟨s, hrun, errors_caused (TransitionSystem.ReachableWhile.init.run ?_ hrun)⟩
  refine ⟨⟨by unfold Turn.Apart; decide, fun h => h.2 (by decide)⟩, fun _ _ =>
    ⟨⟨by unfold Turn.Apart; decide, trivial⟩, fun _ _ => ⟨⟨nofun, fun h => ?_⟩, ?_⟩⟩⟩
  · exact absurd (by decide) h.2
  · exact fun _ _ => trivial

/-- A filter is set that is not there, and nothing is thrown. The error is thrown by the next
operation, whose command is accepted. -/
theorem filter_error_thrown_by_abort : ∃ s,
    (operations badParameterReports wholeDoubles).run
      (operations badParameterReports wholeDoubles).init
      [⟨.setFilter 9, threeGratings, []⟩, ⟨.abort, threeGratings, []⟩] = some s ∧
      s.outcomes.map Outcome.result =
        [.ok .done, .error (.deviceError "Bad parameter used in Command")] ∧
      ¬ ∀ o ∈ s.outcomes, o.Caused wholeDoubles := by
  refine ⟨_, rfl, by decide, fun h => ?_⟩
  have hfirst := h _ (List.mem_append_left _ (List.mem_append_right _ (List.mem_singleton.mpr rfl)))
  have hrejected : Rejected threeGratings "FILTER 9" := by
    unfold Rejected StatusQuery
    decide
  obtain ⟨e, he⟩ := hfirst.throws_iff.mpr ⟨"FILTER 9", by decide, hrejected⟩
  cases he

end Cornerstone

end Foxtrot
