import Foxtrot.Newport.Link
import Foxtrot.Foundation.TransitionSystem

/-!
# Readings of the Newport 2936-R power meter

Each operation (`devices/newport_2936R/newport2936R.cpp`) is a command, and then a query for its
error (`check_and_throw_error`). `command_get` converts the answer that has been read, but returns
an uninitialised variable if that is not a number. `getCorrection` does so always, since the stream
that it reads from is empty. `getDataStoreValue` first writes its query as if it were a setting, and
does not read the answer: from there on, every answer is taken for that to the next query.

Where none of this happens, and the link loses nothing, what is returned is the parse of the meter's
answer to that very query (`readings_real`).

Each operation is a few rounds of one pattern, a command and its check. `Ends` from
`Foxtrot.Newport.Link` says what the meter has received before and after, so the pattern needs to be
proved only once (`ends_checked`, `ends_commandWrite`), and the texts of the commands matter only as
far as they are one command each (`Plain`). The readings of a call are then those of its queries,
one or two (`real_of_query`, `real_of_queries`), and the run lemma adds that between calls nothing
is on the way.
-/

namespace Foxtrot

namespace Newport

open Text

/-! ### Values -/

/-- The conversions between `double` and text of the standard library. -/
structure Doubles (F : Type) where
  stod : String → Except NumberError F
  /-- Three numbers, as `>>` reads them. -/
  triple : String → Except NumberError (F × F × F)
  /-- With six digits. -/
  general : F → String
  plain : ∀ x, ∀ c ∈ (general x).toList, c ≠ '\r' ∧ c ≠ '?'

/-- What is returned. -/
inductive Value (F : Type) where
  | number (n : ℤ)
  | real (x : F)
  | flag (onoff : Bool)
  | enumeration (value : UInt16)
  | text (text : String)
  | triple (x y z : F)
  deriving DecidableEq

/-- The type that an answer is converted to. -/
inductive Kind where
  | int
  | double
  /-- An `int` that is returned as a `bool`. -/
  | bool
  | enumeration
  | text
  /-- A text without its white space. -/
  | stripped
  | triple
  deriving DecidableEq

variable {F : Type}

/-- The conversion of an answer (`return_converter`). -/
def Kind.parse (d : Doubles F) : Kind → String → Except NumberError (Value F)
  | int, str => (stoi str).map .number
  | double, str => (d.stod str).map .real
  | bool, str => (stoi str).map fun n => .flag (n ≠ 0)
  | enumeration, str => (stoi str).map fun n => .enumeration (UInt16.ofInt n)
  | text, str => .ok (.text str)
  | stripped, str => .ok (.text (String.ofList (str.toList.filter fun c => ¬ isspace c)))
  | triple, str => (d.triple str).map fun (x, y, z) => .triple x y z

/-- The function that converts. -/
def Kind.function : Kind → String
  | double | triple => "stod"
  | _ => "stoi"

/-! ### Commands with a check -/

section Operations

variable (m : Meter) (mode : Mode) (silent : Thrown) (d : Doubles F)

/-- `getErrorCode`. -/
def getErrorCode : LinkM ℤ := do
  match stoi (← cmd m mode silent "ERRORS?") with
  | .error e => throw (thrownByNumber "stoi" e)
  | .ok errc => return errc

/-- `check_and_throw_error`. -/
def checkAndThrowError : LinkM Unit := do
  let errc ← getErrorCode m mode silent
  if errc = 0 then return () else throw (.deviceError ("powermeter error: " ++ errc.repr))

/-- `command_write`. -/
def commandWrite (command arg : String) : LinkM Unit := do
  cmdNoResponse m mode (command ++ " " ++ arg ++ "\r")
  checkAndThrowError m mode silent

/-- `command_get`. `garbage` is what the variable `out` holds when it has not been set. -/
def commandGet (kind : Kind) (req : String) (garbage : Value F) : LinkM (Value F) := do
  let str ← cmd m mode silent req
  checkAndThrowError m mode silent
  match kind.parse d str with
  | .ok out => return out
  | .error .invalidArgument => return garbage
  | .error .outOfRange => throw (.outOfRange kind.function)

/-- The getters that return a text. -/
def commandText (stripped : Bool) (req : String) : LinkM (Value F) := do
  let repl ← cmd m mode silent req
  checkAndThrowError m mode silent
  return .text (if stripped then String.ofList (repl.toList.filter fun c => ¬ isspace c) else repl)

end Operations

/-! ### Getters and setters -/

/-- The getters that are a `command_get`. -/
inductive Getter where
  | getLambda | getPower | getRange | getRun | getResponsivity | getArea | getUnits | getMode
  | getTriggerState | getcaltemp | getTemperature | getExternalTriggerMode | getTriggerEndMode
  | getTriggerStartMode | getTriggerEdge | getTriggerTimeout | getTriggerValue | getChannel
  | getAnalogFilter | getOutputImpedance | getOutputRange | getAttenuator | getAutoRange
  | getDigitalFilter | getFilterMode | getBufferBehaviour | getDataStoreCount
  | getDataStoreEnable | getDataStoreUnits | getDataStoreInterval | getDataStoreSize

/-- The type and the request of a getter. -/
def Getter.query : Getter → Kind × String
  | getLambda => (.int, "PM:L?")
  | getPower => (.double, "PM:P?")
  | getRange => (.int, "PM:RAN?")
  | getRun => (.bool, "PM:RUN?")
  | getResponsivity => (.double, "PM:RESP?")
  | getArea => (.double, "PM:DETSIZE?")
  | getUnits => (.enumeration, "PM:UNIT?")
  | getMode => (.enumeration, "PM:MODE?")
  | getTriggerState => (.bool, "PM:TRIG:STATE?")
  | getcaltemp => (.double, "CALTEMP?")
  | getTemperature => (.double, "PM:TEMP?")
  | getExternalTriggerMode => (.int, "PM:TRIG:EXT?")
  | getTriggerEndMode => (.enumeration, "PM:TRIG:STOP?")
  | getTriggerStartMode => (.enumeration, "PM:TRIG:START?")
  | getTriggerEdge => (.int, "PM:TRIG:EDGE?")
  | getTriggerTimeout => (.int, "PM:TRIG:TIME?")
  | getTriggerValue => (.double, "PM:TRIG:VALUE?")
  | getChannel => (.int, "PM:CHAN?")
  | getAnalogFilter => (.enumeration, "PM:ANALOGFILTER?")
  | getOutputImpedance => (.enumeration, "PM:ANALOG:IMP?")
  | getOutputRange => (.enumeration, "PM:ANALOG:OUT?")
  | getAttenuator => (.bool, "PM:ATT?")
  | getAutoRange => (.bool, "PM:AUTO?")
  | getDigitalFilter => (.int, "PM:DIGITALFILTER?")
  | getFilterMode => (.enumeration, "PM:FILTER?")
  | getBufferBehaviour => (.bool, "PM:DS:BUF?")
  | getDataStoreCount => (.int, "PM:DS:C?")
  | getDataStoreEnable => (.bool, "PM:DS:EN?")
  | getDataStoreUnits => (.enumeration, "PM:DS:UNIT?")
  | getDataStoreInterval => (.int, "PM:DS:INT?")
  | getDataStoreSize => (.int, "PM:DS:SIZE?")

/-- The getters of two values. -/
inductive RangeGetter where
  | getLambdaRange | getPowerRange

/-- The type and the requests of a getter of two values. -/
def RangeGetter.query : RangeGetter → Kind × String × String
  | getLambdaRange => (.int, "PM:MIN:L?", "PM:MAX:L?")
  | getPowerRange => (.double, "PM:MIN:P?", "PM:MAX:P?")

/-- The getters of a text. -/
inductive TextGetter where
  | getcaldate | getSerialNumber | getDetectorModel | getAttenuatorSerialNumber

/-- Whether the white space is taken out, and the request. -/
def TextGetter.query : TextGetter → Bool × String
  | getcaldate => (true, "CALDATE?")
  | getSerialNumber => (true, "PM:DETSN?")
  | getDetectorModel => (false, "PM:DETMODEL?")
  | getAttenuatorSerialNumber => (false, "PM:ATTSN?")

/-- The setters that are a `command_write`. -/
inductive Setter (F : Type) where
  | setLambda (l : ℤ)
  | setRange (r : ℤ)
  | setRun (onoff : Bool)
  | setUnits (unit : UInt16)
  | setMode (mode : UInt16)
  | manualTriggerState (state : Bool)
  | setExternalTriggerMode (mode : ℤ)
  | setTriggerEndMode (mode : UInt16)
  | setTriggerStartMode (mode : UInt16)
  | setTriggerEdge (edge : ℤ)
  | setTriggerTimeout (timeMs : ℤ)
  | setTriggerValue (measVal : F)
  | setChannel (chan : ℤ)
  | setAnalogFilter (value : UInt16)
  | setOutputImpedance (imp : UInt16)
  | setOutputRange (range : UInt16)
  | setAutoRange (onoff : Bool)
  | setDigitalFilter (value : ℤ)
  | setFilterMode (mode : UInt16)
  | setBufferBehaviour (mode : Bool)
  | setDataStoreEnable (onoff : Bool)
  | setDataStoreUnits (units : UInt16)
  | setDataStoreInterval (interval : ℤ)
  | setDataStoreSize (size : ℤ)

/-- What `<<` prints of an argument. -/
inductive Arg (F : Type) where
  | int (n : ℤ)
  | bool (b : Bool)
  | enumeration (value : UInt16)
  | double (x : F)

/-- The text of an argument. -/
def Arg.text (d : Doubles F) : Arg F → String
  | int n => n.repr
  | bool b => if b then "1" else "0"
  | enumeration value => value.toNat.repr
  | double x => d.general x

/-- The command and the argument of a setter. -/
def Setter.command : Setter F → String × Arg F
  | setLambda l => ("PM:L", .int l)
  | setRange r => ("PM:RAN", .int r)
  | setRun onoff => ("PM:RUN", .bool onoff)
  | setUnits unit => ("PM:UNIT", .enumeration unit)
  | setMode mode => ("PM:MODE", .enumeration mode)
  | manualTriggerState state => ("PM:TRIG:STATE", .bool state)
  | setExternalTriggerMode mode => ("PM:TRIG:EXT", .int mode)
  | setTriggerEndMode mode => ("PM:TRIG:STOP", .enumeration mode)
  | setTriggerStartMode mode => ("PM:TRIG:START", .enumeration mode)
  | setTriggerEdge edge => ("PM:TRIG:EDGE", .int edge)
  | setTriggerTimeout timeMs => ("PM:TRIG:TIME", .int timeMs)
  | setTriggerValue measVal => ("PM:TRIG:VALUE", .double measVal)
  | setChannel chan => ("PM:CHAN", .int chan)
  | setAnalogFilter value => ("PM:ANALOGFILTER", .enumeration value)
  | setOutputImpedance imp => ("PM:ANALOG:IMP", .enumeration imp)
  | setOutputRange range => ("PM:ANALOG:OUT", .enumeration range)
  | setAutoRange onoff => ("PM:AUTO", .bool onoff)
  | setDigitalFilter value => ("PM:DIGITALFILTER", .int value)
  | setFilterMode mode => ("PM:FILTER", .enumeration mode)
  | setBufferBehaviour mode => ("PM:DS:BUF", .bool mode)
  | setDataStoreEnable onoff => ("PM:DS:EN", .bool onoff)
  | setDataStoreUnits units => ("PM:DS:UNIT", .enumeration units)
  | setDataStoreInterval interval => ("PM:DS:INT", .int interval)
  | setDataStoreSize size => ("PM:DS:SIZE", .int size)

/-- `setRange` takes the ranges from 0 to 7 only. -/
def Setter.valid : Setter F → Bool
  | setRange r => 0 ≤ r && r ≤ 7
  | _ => true

/-- A call of an operation. -/
inductive Call (F : Type) where
  | get (getter : Getter)
  | getRange (getter : RangeGetter)
  | getText (getter : TextGetter)
  | set (setter : Setter F)
  | getErrorCode
  | getErrorString
  | info
  | getCorrection
  | setCorrection (d1 d2 d3 : F)
  | clearDataStore
  | getDataStoreValue (idx : ℤ)

section Operations

variable (m : Meter) (mode : Mode) (silent : Thrown) (d : Doubles F) (garbage : Value F)

/-- `getCorrection`. The stream is empty, so nothing is read from it. -/
def getCorrection : LinkM (Value F) := do
  let _ ← cmd m mode silent "PM:CORR?"
  checkAndThrowError m mode silent
  return garbage

/-- `setCorrection`. -/
def setCorrection (d1 d2 d3 : F) : LinkM Unit :=
  cmdNoResponse m mode ("PM:CORR " ++ d.general d1 ++ " " ++ d.general d2 ++ " " ++ d.general d3)

/-- The query of `getDataStoreValue`. -/
def valueRequest (idx : ℤ) : String := "PM:DS:GET? " ++ idx.repr

/-- `getDataStoreValue`. The query is written twice. -/
def getDataStoreValue (idx : ℤ) : LinkM (Value F) := do
  commandWrite m mode silent "PM:DS:GET?" idx.repr
  commandGet m mode silent d .double (valueRequest idx) garbage

/-- The function of a call, with the values that it returns. -/
def Call.run : Call F → LinkM (List (Value F))
  | get getter => do
    return [← commandGet m mode silent d getter.query.1 getter.query.2 garbage]
  | getRange getter => do
    let min ← commandGet m mode silent d getter.query.1 getter.query.2.1 garbage
    let max ← commandGet m mode silent d getter.query.1 getter.query.2.2 garbage
    return [min, max]
  | getText getter => do return [← commandText m mode silent getter.query.1 getter.query.2]
  | set setter =>
    if setter.valid then do
      commandWrite m mode silent setter.command.1 (setter.command.2.text d)
      return []
    else throw (.outOfRange "invalid range selection, valid from 0 to 7!")
  | getErrorCode => do return [.number (← Newport.getErrorCode m mode silent)]
  | getErrorString => do return [.text (← cmd m mode silent "ERRSTR?")]
  | info => do return [.text (← cmd m mode silent "*IDN?\r")]
  | getCorrection => do return [← Newport.getCorrection m mode silent garbage]
  | setCorrection d1 d2 d3 => do Newport.setCorrection m mode d d1 d2 d3; return []
  | clearDataStore => do cmdNoResponse m mode "PM:DS:CL"; return []
  | getDataStoreValue idx => do
    return [← Newport.getDataStoreValue m mode silent d garbage idx]

end Operations

/-- The queries whose answers a call returns. -/
def Call.queries : Call F → List (Kind × String)
  | get getter => [getter.query]
  | getRange getter =>
    [(getter.query.1, getter.query.2.1), (getter.query.1, getter.query.2.2)]
  | getText getter => [(if getter.query.1 then .stripped else .text, getter.query.2)]
  | getErrorCode => [(.int, "ERRORS?")]
  | getErrorString => [(.text, "ERRSTR?")]
  | info => [(.text, "*IDN?\r")]
  | getCorrection => [(.triple, "PM:CORR?")]
  | getDataStoreValue idx => [(.double, valueRequest idx)]
  | set _ | setCorrection _ _ _ | clearDataStore => []

/-! ### Runs of calls -/

/-- A call, what happens on the link in it, and what its uninitialised variables hold. -/
structure Turn (F : Type) where
  call : Call F
  timings : List Timing
  garbage : Value F

/-- A call that has ended, with what has been read in it. -/
structure Outcome (F : Type) where
  call : Call F
  result : Except Thrown (List (Value F))
  exchanges : List Exchange

/-- The state between two calls. -/
structure MeterState (F : Type) where
  link : Link
  outcomes : List (Outcome F)

/-- The state after a call. -/
def MeterState.after (m : Meter) (mode : Mode) (silent : Thrown) (d : Doubles F)
    (s : MeterState F) (t : Turn F) : MeterState F :=
  let ended := (t.call.run m mode silent d t.garbage).on
    { s.link with timings := t.timings, exchanges := [] }
  ⟨ended.2, s.outcomes ++ [⟨t.call, ended.1, ended.2.exchanges⟩]⟩

/-- Calls one after the other. -/
def calls (m : Meter) (mode : Mode) (silent : Thrown) (d : Doubles F) :
    TransitionSystem (MeterState F) (Turn F) where
  init := ⟨⟨[], [], [], [], [], []⟩, []⟩
  step s t := some (s.after m mode silent d t)

/-! ### What is asked of a call -/

/-- The query of a request: what is in front of the carriage return that is written. -/
def Exchange.query (e : Exchange) : String :=
  String.ofList ((e.request ++ "\r").toList.takeWhile (· ≠ '\r'))

/-- What has been read is the meter's answer to the query of the request, which is the last query
that the meter has received. -/
def Exchange.Own (m : Meter) (mode : Mode) (e : Exchange) : Prop :=
  ∃ earlier later, e.heard = earlier ++ e.query :: later ∧ Unanswered later ∧
    e.reply = m.reply mode (earlier ++ [e.query])

/-- **The readings are real**: what is read, also in the checks for errors, is the answer to the
query that has been sent for it. What is returned are the parses of the answers, and no answer is
read that does not parse. -/
structure Real (m : Meter) (mode : Mode) (d : Doubles F) (call : Call F)
    (result : Except Thrown (List (Value F))) (exchanges : List Exchange) : Prop where
  own : ∀ e ∈ exchanges, e.Own m mode
  parsed : ∀ values, result = .ok values → List.Forall₂
    (fun q v => ∃ e ∈ exchanges, e.request = q.2 ∧ q.1.parse d e.reply = .ok v) call.queries values
  heeded : ∀ values, result = .ok values → ∀ q ∈ call.queries, ∀ e ∈ exchanges,
    e.request = q.2 → ∃ v ∈ values, q.1.parse d e.reply = .ok v

/-- The call has real readings. -/
def Outcome.Real (m : Meter) (mode : Mode) (d : Doubles F) (o : Outcome F) : Prop :=
  Newport.Real m mode d o.call o.result o.exchanges

/-- The answer to the query that has been heard last is read, and the check after it finds no
error. -/
def Meter.Passes (m : Meter) (mode : Mode) (heard : List String) : Prop :=
  m.Readable mode heard ∧ m.Readable mode (heard ++ ["ERRORS?"]) ∧
    stoi (m.reply mode (heard ++ ["ERRORS?"])) = .ok 0

/-- The answers to these queries are numbers, as far as they are converted. -/
def Meter.Numbers (m : Meter) (mode : Mode) (d : Doubles F) :
    List String → List (Kind × String) → Prop
  | _, [] => True
  | heard, (kind, req) :: queries => m.Passes mode (heard ++ [req]) →
    kind.parse d (m.reply mode (heard ++ [req])) ≠ .error .invalidArgument ∧
      ∀ v, kind.parse d (m.reply mode (heard ++ [req])) = .ok v →
        m.Numbers mode d (heard ++ [req] ++ ["ERRORS?"]) queries

/-- What the call returns has been set: it is not `getDataStoreValue`, a `getCorrection` throws, and
what a `command_get` converts is a number. -/
def Call.Sets (m : Meter) (mode : Mode) (d : Doubles F) (heard : List String) : Call F → Prop
  | getDataStoreValue _ => False
  | getCorrection => ¬ m.Passes mode (heard ++ ["PM:CORR?"])
  | get getter => m.Numbers mode d heard (Call.get (F := F) getter).queries
  | getRange getter => m.Numbers mode d heard (Call.getRange (F := F) getter).queries
  | _ => True

/-- The commands that the meter has received when everything has been transmitted. -/
def Link.heard (m : Meter) (p : Link) : List String := (p.transmit m p.outgoing).received

/-- Nothing is lost on the link in the call, and what it returns has been set. -/
def Turn.Good (m : Meter) (mode : Mode) (d : Doubles F) (s : MeterState F) (t : Turn F) : Prop :=
  (∀ timing ∈ t.timings, timing.Good) ∧ t.call.Sets m mode d (s.link.heard m)

/-! ### One command and its check -/

section Commands

variable {m : Meter} {mode : Mode} {silent : Thrown} {d : Doubles F} {garbage : Value F}
  {heard : List String} {request query req : String} {more : List String} {kind : Kind}

private theorem asks_of_unbroken (h : '\r' ∉ req.toList) (hquery : Query req) :
    Asks req req [] where
  text := by
    rw [String.toList_append]
    exact (Occurrences.lines_cons '\r' req.toList []).symm
  asked := hquery
  unbroken := h
  unanswered := nofun

/-- The answer that is read after a query is its own. -/
theorem Asks.own (h : Asks request query more) :
    (⟨request, heard ++ query :: more, m.reply mode (heard ++ [query])⟩ : Exchange).Own m mode := by
  have hpos : ∀ c ∈ query.toList, decide (c ≠ '\r') = true := by
    intro c hc
    rw [decide_eq_true_eq]
    rintro rfl
    exact h.unbroken hc
  have hquery : String.ofList ((request ++ "\r").toList.takeWhile (· ≠ '\r')) = query := by
    rw [h.text, commandLines, List.map_cons, Occurrences.lines_cons,
      List.takeWhile_append_of_pos hpos, List.takeWhile_cons_of_neg (by decide), List.append_nil,
      String.ofList_toList]
  refine ⟨heard, more, ?_, h.unanswered, ?_⟩
  · rw [Exchange.query, hquery]
  · rw [Exchange.query, hquery]

private theorem asks_errors :
    Asks "ERRORS?" "ERRORS?" [] := asks_of_unbroken (by decide) (by decide)

/-- The answer to the query for errors. -/
theorem ends_getErrorCode : Ends mode (getErrorCode m mode silent) heard
    fun r heard' es => heard' = heard ++ ["ERRORS?"] ∧
      (∀ e ∈ es, e = ⟨"ERRORS?", heard', m.reply mode heard'⟩) ∧ ∀ n, r = .ok n →
        m.Readable mode heard' ∧ stoi (m.reply mode heard') = .ok n ∧ es ≠ [] := by
  refine (ends_cmd asks_errors).bind ?_ ?_
  · rintro reply heard' es ⟨rfl, ⟨hreadable, hreply, rfl⟩ | ⟨-, hreply, -⟩⟩
    · cases hreply
      cases hcode : stoi (m.reply mode (heard ++ ["ERRORS?"])) with
      | error e =>
        refine (Ends.throw _).imp ?_
        rintro r heard' es ⟨rfl, rfl, rfl⟩
        exact ⟨rfl, List.forall_mem_singleton.mpr rfl, nofun⟩
      | ok n =>
        refine (Ends.pure n).imp ?_
        rintro r heard' es ⟨rfl, rfl, rfl⟩
        refine ⟨rfl, List.forall_mem_singleton.mpr rfl, fun k hk => ?_⟩
        cases hk
        exact ⟨hreadable, hcode, List.cons_ne_nil _ _⟩
    · cases hreply
  · rintro e heard' es ⟨rfl, ⟨-, hreply, -⟩ | ⟨-, -, rfl⟩⟩
    · cases hreply
    · exact ⟨rfl, nofun, nofun⟩

/-- **The check** reads the answer to its own query. -/
theorem ends_checkAndThrowError : Ends mode (checkAndThrowError m mode silent) heard
    fun r heard' es => heard' = heard ++ ["ERRORS?"] ∧
      (∀ e ∈ es, e = ⟨"ERRORS?", heard', m.reply mode heard'⟩) ∧ (r = .ok () →
        m.Readable mode heard' ∧ stoi (m.reply mode heard') = .ok 0) := by
  refine ends_getErrorCode.bind ?_ ?_
  · rintro n heard' es ⟨rfl, hes, hn⟩
    obtain ⟨hreadable, hcode, -⟩ := hn n rfl
    by_cases hzero : n = 0
    · rw [if_pos hzero]
      refine (Ends.pure ()).imp ?_
      rintro r heard' es' ⟨rfl, rfl, rfl⟩
      rw [List.append_nil]
      exact ⟨rfl, hes, fun _ => ⟨hreadable, hzero ▸ hcode⟩⟩
    · rw [if_neg hzero]
      refine (Ends.throw _).imp ?_
      rintro r heard' es' ⟨rfl, rfl, rfl⟩
      rw [List.append_nil]
      exact ⟨rfl, hes, nofun⟩
  · rintro e heard' es ⟨rfl, hes, -⟩
    exact ⟨rfl, hes, nofun⟩

/-- What is read after a query, as its answer. -/
def Meter.exchange (m : Meter) (mode : Mode) (heard : List String) (req : String) : Exchange :=
  ⟨req, heard ++ [req], m.reply mode (heard ++ [req])⟩

/-- What is read after a request is its own answer. -/
private theorem Meter.own_exchange (h : Asks req req []) :
    (m.exchange mode heard req).Own m mode := h.own

/-- What is read in a query and its check. -/
def Queried (m : Meter) (mode : Mode) (heard : List String) (req : String)
    (es : List Exchange) : Prop :=
  ∀ e ∈ es, e = m.exchange mode heard req ∨ e = m.exchange mode (heard ++ [req]) "ERRORS?"

/-- A query with its check comes to `result` if the check finds no error. -/
def Checked {A : Type} (m : Meter) (mode : Mode) (heard : List String) (req : String)
    (result r : Except Thrown A) (heard' : List String) (es : List Exchange) : Prop :=
  Queried m mode heard req es ∧ ∀ a, r = .ok a → m.Passes mode (heard ++ [req]) ∧
    heard' = heard ++ [req] ++ ["ERRORS?"] ∧ result = .ok a ∧ m.exchange mode heard req ∈ es

/-- **A query with its check.** -/
theorem ends_checked {A : Type} {f : String → LinkM A} (h : Asks req req [])
    {result : Except Thrown A} (hf : ∀ heard',
      Ends mode (f (m.reply mode (heard ++ [req]))) heard'
        fun r heard'' es => r = result ∧ heard'' = heard' ∧ es = []) :
    Ends mode (do
      let str ← cmd m mode silent req
      checkAndThrowError m mode silent
      f str) heard (Checked m mode heard req result) := by
  refine (ends_cmd h).bind ?_ ?_
  · rintro reply heard' es ⟨rfl, ⟨hreadable, hreply, rfl⟩ | ⟨-, hreply, -⟩⟩
    · obtain rfl := Except.ok.inj hreply
      refine ends_checkAndThrowError.bind ?_ ?_
      · rintro ⟨⟩ heard' es ⟨rfl, hes, hpass⟩
        obtain ⟨hreadable', hcode⟩ := hpass rfl
        refine (hf _).imp ?_
        rintro r heard'' es' ⟨rfl, rfl, rfl⟩
        rw [List.append_nil]
        refine ⟨?_, fun a ha => ⟨⟨hreadable, hreadable', hcode⟩, rfl, ha,
          List.mem_append_left _ (List.mem_singleton.mpr rfl)⟩⟩
        rw [Queried, List.forall_mem_append, List.forall_mem_singleton]
        exact ⟨.inl rfl, fun e he => .inr (hes e he)⟩
      · rintro e heard' es ⟨rfl, hes, -⟩
        refine ⟨?_, nofun⟩
        rw [Queried, List.forall_mem_append, List.forall_mem_singleton]
        exact ⟨.inl rfl, fun e he => .inr (hes e he)⟩
    · cases hreply
  · rintro e heard' es ⟨-, ⟨-, hreply, -⟩ | ⟨-, -, rfl⟩⟩
    · cases hreply
    · exact ⟨nofun, nofun⟩

/-- What `command_get` makes of an answer. -/
def converted (d : Doubles F) (garbage : Value F) (kind : Kind) (str : String) :
    Except Thrown (Value F) :=
  match kind.parse d str with
  | .ok out => .ok out
  | .error .invalidArgument => .ok garbage
  | .error .outOfRange => .error (.outOfRange kind.function)

private theorem ends_commandGet (h : Asks req req []) :
    Ends mode (commandGet m mode silent d kind req garbage) heard (Checked m mode heard req
      (converted d garbage kind (m.reply mode (heard ++ [req])))) := by
  refine ends_checked h fun heard' => ?_
  rw [converted]
  cases kind.parse d (m.reply mode (heard ++ [req])) with
  | ok out => exact Ends.pure out
  | error e =>
    cases e with
    | invalidArgument => exact Ends.pure garbage
    | outOfRange => exact Ends.throw _

private theorem ends_commandText (stripped : Bool) (h : Asks req req []) :
    Ends mode (commandText (F := F) m mode silent stripped req) heard (Checked m mode heard req
      (.ok (.text (if stripped then String.ofList
        ((m.reply mode (heard ++ [req])).toList.filter fun c => ¬ isspace c)
        else m.reply mode (heard ++ [req]))))) :=
  ends_checked h fun _ => Ends.pure _

/-- The correction is converted from an empty stream. -/
private theorem ends_getCorrection : Ends mode (getCorrection m mode silent garbage) heard
    (Checked m mode heard "PM:CORR?" (.ok garbage)) :=
  ends_checked (asks_of_unbroken (by decide) (by decide)) fun _ => Ends.pure garbage

/-- A setting command and its check. -/
theorem ends_commandWrite {command arg : String} {commands : List String}
    (h : Tells (command ++ " " ++ arg ++ "\r") commands) :
    Ends mode (commandWrite m mode silent command arg) heard
      fun _ _ es => ∀ e ∈ es, e.Own m mode := by
  refine (ends_cmdNoResponse h).bind ?_ ?_
  · rintro ⟨⟩ heard' es ⟨-, -, rfl⟩
    refine ends_checkAndThrowError.imp ?_
    rintro r heard'' es ⟨rfl, hes, -⟩ e he
    rw [hes e he]
    exact m.own_exchange asks_errors
  · rintro e heard' es ⟨hr, -, -⟩
    cases hr

end Commands

/-! ### The texts of the commands

The meter takes what is in front of a carriage return for a command and answers those with a
question mark. A request that ends with a carriage return of its own is followed by an empty
command. -/

section Texts

variable {d : Doubles F}

/-- A text without a carriage return and a question mark. -/
def Plain (text : String) : Prop := ∀ c ∈ text.toList, c ≠ '\r' ∧ c ≠ '?'

instance (text : String) : Decidable (Plain text) :=
  List.decidableBAll (fun c => c ≠ '\r' ∧ c ≠ '?') text.toList

/-- Plain texts, one after the other, are plain. -/
theorem Plain.append {text text' : String} (h : Plain text) (h' : Plain text') :
    Plain (text ++ text') := by
  rw [Plain, String.toList_append, List.forall_mem_append]
  exact ⟨h, h'⟩

private theorem plain_repr (n : ℤ) : Plain n.repr := by
  intro c hc
  obtain rfl | hdigit := of_mem_repr hc
  · decide
  · constructor <;> rintro rfl <;> cases hdigit

private theorem Arg.plain_text (arg : Arg F) : Plain (arg.text d) := by
  cases arg with
  | int n => exact plain_repr n
  | bool b =>
    rw [Arg.text]
    cases b <;> decide
  | enumeration value => exact plain_repr value.toNat
  | double x => exact d.plain x

private theorem Setter.plain_command (setter : Setter F) : Plain setter.command.1 := by
  cases setter <;>
  · simp only [Setter.command]
    decide

/-- A plain text is a command without an answer. -/
theorem Plain.unanswered {text : String} (h : Plain text) :
    '\r' ∉ text.toList ∧ ¬ Query text :=
  ⟨fun hmem => (h _ hmem).1 rfl, fun hmem => (h _ hmem).2 rfl⟩

/-- A plain request is a command that is not answered. -/
theorem Plain.tells {request : String} (h : Plain request) : Tells request [request] where
  text := by
    rw [String.toList_append]
    exact (Occurrences.lines_cons '\r' request.toList []).symm
  unanswered := List.forall_mem_singleton.mpr h.unanswered

/-- A request that ends with a carriage return is followed by an empty command. -/
theorem Plain.tells_return {request : String} (h : Plain request) :
    Tells (request ++ "\r") [request, ""] where
  text := by
    rw [String.toList_append, String.toList_append, List.append_assoc]
    exact (Occurrences.lines_cons '\r' request.toList [[]]).symm
  unanswered := by
    rw [Unanswered, List.forall_mem_cons, List.forall_mem_singleton]
    exact ⟨h.unanswered, by decide⟩

/-- The queries of the getters ask, and are no error checks. -/
private theorem Getter.asks (getter : Getter) :
    Asks getter.query.2 getter.query.2 [] ∧ getter.query.2 ≠ "ERRORS?" := by
  have h : '\r' ∉ getter.query.2.toList ∧ Query getter.query.2 ∧ getter.query.2 ≠ "ERRORS?" := by
    cases getter <;> decide
  exact ⟨asks_of_unbroken h.1 h.2.1, h.2.2⟩

/-- The queries of the getters of texts ask, and are no error checks. -/
private theorem TextGetter.asks (getter : TextGetter) :
    Asks getter.query.2 getter.query.2 [] ∧ getter.query.2 ≠ "ERRORS?" := by
  have h : '\r' ∉ getter.query.2.toList ∧ Query getter.query.2 ∧ getter.query.2 ≠ "ERRORS?" := by
    cases getter <;> decide
  exact ⟨asks_of_unbroken h.1 h.2.1, h.2.2⟩

/-- The queries of the getters of ranges ask, and differ from each other. -/
private theorem RangeGetter.asks (getter : RangeGetter) :
    (Asks getter.query.2.1 getter.query.2.1 [] ∧ getter.query.2.1 ≠ "ERRORS?") ∧
      (Asks getter.query.2.2 getter.query.2.2 [] ∧ getter.query.2.2 ≠ "ERRORS?") ∧
      getter.query.2.1 ≠ getter.query.2.2 := by
  cases getter
  · exact ⟨⟨asks_of_unbroken (by decide) (by decide), by decide⟩,
      ⟨asks_of_unbroken (by decide) (by decide), by decide⟩, by decide⟩
  · exact ⟨⟨asks_of_unbroken (by decide) (by decide), by decide⟩,
      ⟨asks_of_unbroken (by decide) (by decide), by decide⟩, by decide⟩

end Texts

/-! ### Calls -/

section Calls

variable {m : Meter} {mode : Mode} {silent : Thrown} {d : Doubles F} {garbage : Value F}
  {heard : List String} {req : String} {kind : Kind} {call : Call F}
  {r : Except Thrown (List (Value F))} {es : List Exchange}

/-- What a query has read is its own answer. -/
theorem Queried.own (h : Queried m mode heard req es) (hreq : Asks req req []) :
    ∀ e ∈ es, e.Own m mode := by
  intro e he
  obtain rfl | rfl := h e he
  · exact m.own_exchange hreq
  · exact m.own_exchange asks_errors

/-- What has been read for a request that is not that for errors. -/
theorem Queried.eq_of_request (h : Queried m mode heard req es) {e : Exchange} (he : e ∈ es)
    (hrequest : e.request ≠ "ERRORS?") : e = m.exchange mode heard req := by
  obtain rfl | rfl := h e he
  · rfl
  · exact absurd rfl hrequest

/-- A call that throws has real readings if what it has read is its own. -/
theorem real_of_error {error : Thrown} (hown : ∀ e ∈ es, e.Own m mode) :
    Real m mode d call (.error error) es :=
  ⟨hown, nofun, nofun⟩

/-- A call without a query. -/
theorem real_of_queries_nil (hown : ∀ e ∈ es, e.Own m mode) (hqueries : call.queries = [])
    (hr : ∀ values, r = .ok values → values = []) : Real m mode d call r es := by
  refine ⟨hown, fun values hvalues => ?_, fun values _ q hq => ?_⟩
  · rw [hqueries, hr values hvalues]
    exact .nil
  · rw [hqueries] at hq
    cases hq

/-- A call with one query. -/
theorem real_of_query (hes : Queried m mode heard req es) (hreq : Asks req req [])
    (hne : req ≠ "ERRORS?") (hqueries : call.queries = [(kind, req)])
    (hr : ∀ values, r = .ok values → m.exchange mode heard req ∈ es ∧
      ∃ v, values = [v] ∧ kind.parse d (m.reply mode (heard ++ [req])) = .ok v) :
    Real m mode d call r es := by
  refine ⟨hes.own hreq, fun values hvalues => ?_, fun values hvalues q hq e he hrequest => ?_⟩
  · obtain ⟨hmem, v, rfl, hv⟩ := hr values hvalues
    rw [hqueries]
    exact .cons ⟨_, hmem, rfl, hv⟩ .nil
  · obtain ⟨-, v, rfl, hv⟩ := hr values hvalues
    rw [hqueries, List.mem_singleton] at hq
    subst hq
    obtain rfl := hes.eq_of_request he (hrequest ▸ hne)
    exact ⟨v, List.mem_singleton.mpr rfl, hv⟩

/-- A value that is returned has been parsed, if the conversion does not give up. -/
private theorem converted_eq_ok {v : Value F} {str : String}
    (hnumber : kind.parse d str ≠ .error .invalidArgument)
    (h : converted d garbage kind str = .ok v) : kind.parse d str = .ok v := by
  rw [converted] at h
  cases hparse : kind.parse d str with
  | ok out =>
    rw [hparse] at h
    cases h
    rfl
  | error e =>
    rw [hparse] at h
    cases e with
    | invalidArgument => exact absurd hparse hnumber
    | outOfRange => cases h

/-- A call with two queries. -/
theorem real_of_queries {heard' : List String} {req' : String} {es' : List Exchange}
    (hes : Queried m mode heard req es) (hes' : Queried m mode heard' req' es')
    (hreq : Asks req req [] ∧ req ≠ "ERRORS?") (hreq' : Asks req' req' [] ∧ req' ≠ "ERRORS?")
    (hdistinct : req ≠ req') (hqueries : call.queries = [(kind, req), (kind, req')])
    {v v' : Value F} (hmem : m.exchange mode heard req ∈ es)
    (hmem' : m.exchange mode heard' req' ∈ es')
    (hv : kind.parse d (m.reply mode (heard ++ [req])) = .ok v)
    (hv' : kind.parse d (m.reply mode (heard' ++ [req'])) = .ok v') :
    Real m mode d call (.ok [v, v']) (es ++ es') := by
  refine ⟨List.forall_mem_append.mpr ⟨hes.own hreq.1, hes'.own hreq'.1⟩, fun values hvalues => ?_,
    fun values hvalues q hq e he hrequest => ?_⟩
  · obtain rfl := Except.ok.inj hvalues
    rw [hqueries]
    exact .cons ⟨_, List.mem_append_left _ hmem, rfl, hv⟩
      (.cons ⟨_, List.mem_append_right _ hmem', rfl, hv'⟩ .nil)
  · obtain rfl := Except.ok.inj hvalues
    rw [hqueries, List.mem_cons, List.mem_singleton] at hq
    obtain rfl | rfl := hq
    · obtain he | he := List.mem_append.mp he
      · obtain rfl := hes.eq_of_request he (hrequest ▸ hreq.2)
        exact ⟨v, List.mem_cons_self, hv⟩
      · obtain rfl := hes'.eq_of_request he (hrequest ▸ hreq.2)
        exact absurd hrequest.symm hdistinct
    · obtain he | he := List.mem_append.mp he
      · obtain rfl := hes.eq_of_request he (hrequest ▸ hreq'.2)
        exact absurd hrequest hdistinct
      · obtain rfl := hes'.eq_of_request he (hrequest ▸ hreq'.2)
        exact ⟨v', List.mem_cons_of_mem _ (List.mem_singleton.mpr rfl), hv'⟩

/-- A query without a check, whose answer is returned as it is. -/
theorem ends_text {request query : String} {more : List String} (h : Asks request query more)
    (hqueries : call.queries = [(.text, request)]) :
    Ends mode (do return [.text (← cmd m mode silent request)]) heard
      fun r _ es => Real m mode d call r es := by
  refine (ends_cmd h).bind ?_ ?_
  · rintro reply heard' es ⟨rfl, ⟨-, hreply, rfl⟩ | ⟨-, hreply, -⟩⟩
    · obtain rfl := Except.ok.inj hreply
      refine (Ends.pure _).imp ?_
      rintro r heard'' es' ⟨rfl, rfl, rfl⟩
      rw [List.append_nil]
      refine ⟨List.forall_mem_singleton.mpr h.own, fun values hvalues => ?_,
        fun values hvalues q hq e he _ => ?_⟩
      · obtain rfl := Except.ok.inj hvalues
        rw [hqueries]
        exact .cons ⟨_, List.mem_singleton.mpr rfl, rfl, rfl⟩ .nil
      · obtain rfl := Except.ok.inj hvalues
        rw [hqueries, List.mem_singleton] at hq
        obtain rfl := List.mem_singleton.mp he
        subst hq
        exact ⟨_, List.mem_singleton.mpr rfl, rfl⟩
    · cases hreply
  · rintro e heard' es ⟨-, ⟨-, hreply, -⟩ | ⟨-, -, rfl⟩⟩
    · cases hreply
    · exact real_of_error nofun

/-- A command without a check. -/
theorem ends_unchecked {request : String} (h : Plain request) (hqueries : call.queries = []) :
    Ends mode (do cmdNoResponse m mode request; return []) heard
      fun r _ es => Real m mode d call r es := by
  refine (ends_cmdNoResponse h.tells).bind ?_ ?_
  · rintro ⟨⟩ heard' es ⟨-, -, rfl⟩
    refine (Ends.pure _).imp ?_
    rintro r heard'' es' ⟨rfl, rfl, rfl⟩
    exact real_of_queries_nil nofun hqueries fun values hvalues => (Except.ok.inj hvalues).symm
  · rintro e heard' es ⟨hr, -, -⟩
    cases hr

/-- **Each call** that returns only what it has set has real readings. -/
theorem ends_run (h : call.Sets m mode d heard) : Ends mode (call.run m mode silent d garbage) heard
    fun r _ es => Real m mode d call r es := by
  cases call with
  | get getter =>
    obtain ⟨hasks, hne⟩ := getter.asks
    refine (ends_commandGet hasks).bind ?_ ?_
    · rintro v heard' es ⟨hes, hv⟩
      obtain ⟨hpasses, -, hconverted, hmem⟩ := hv v rfl
      refine (Ends.pure _).imp ?_
      rintro r heard'' es' ⟨rfl, rfl, rfl⟩
      rw [List.append_nil]
      refine real_of_query hes hasks hne rfl fun values hvalues => ?_
      obtain rfl := Except.ok.inj hvalues
      exact ⟨hmem, v, rfl, converted_eq_ok (h hpasses).1 hconverted⟩
    · rintro e heard' es ⟨hes, -⟩
      exact real_of_error (hes.own hasks)
  | getRange getter =>
    -- two queries, and each reading is that of its own query
    obtain ⟨⟨hasks, hne⟩, ⟨hasks', hne'⟩, hdistinct⟩ := getter.asks
    refine (ends_commandGet hasks).bind ?_ ?_
    · rintro v heard' es ⟨hes, hv⟩
      obtain ⟨hpasses, rfl, hconverted, hmem⟩ := hv v rfl
      obtain ⟨hnumber, hrest⟩ := h hpasses
      have hparse := converted_eq_ok hnumber hconverted
      refine (ends_commandGet hasks').bind ?_ ?_
      · rintro v' heard' es' ⟨hes', hv'⟩
        obtain ⟨hpasses', -, hconverted', hmem'⟩ := hv' v' rfl
        have hparse' := converted_eq_ok (hrest v hparse hpasses').1 hconverted'
        refine (Ends.pure _).imp ?_
        rintro r heard'' es'' ⟨rfl, rfl, rfl⟩
        rw [List.append_nil]
        exact real_of_queries hes hes' ⟨hasks, hne⟩ ⟨hasks', hne'⟩ hdistinct rfl hmem hmem' hparse
          hparse'
      · rintro e heard' es' ⟨hes', -⟩
        exact real_of_error (List.forall_mem_append.mpr ⟨hes.own hasks, hes'.own hasks'⟩)
    · rintro e heard' es ⟨hes, -⟩
      exact real_of_error (hes.own hasks)
  | getText getter =>
    obtain ⟨hasks, hne⟩ := getter.asks
    refine (ends_commandText _ hasks).bind ?_ ?_
    · rintro v heard' es ⟨hes, hv⟩
      obtain ⟨-, -, htext, hmem⟩ := hv v rfl
      obtain rfl := Except.ok.inj htext
      refine (Ends.pure _).imp ?_
      rintro r heard'' es' ⟨rfl, rfl, rfl⟩
      rw [List.append_nil]
      refine real_of_query hes hasks hne rfl fun values hvalues => ?_
      obtain rfl := Except.ok.inj hvalues
      refine ⟨hmem, _, rfl, ?_⟩
      cases getter.query.1 <;> rfl
    · rintro e heard' es ⟨hes, -⟩
      exact real_of_error (hes.own hasks)
  | set setter =>
    have hplain : Plain (setter.command.1 ++ " " ++ setter.command.2.text d) :=
      (setter.plain_command.append (by decide)).append setter.command.2.plain_text
    by_cases hvalid : setter.valid
    · rw [Call.run, if_pos hvalid]
      refine (ends_commandWrite hplain.tells_return).bind ?_ fun e _ es hes => real_of_error hes
      rintro ⟨⟩ heard' es hes
      refine (Ends.pure _).imp ?_
      rintro r heard'' es' ⟨rfl, rfl, rfl⟩
      rw [List.append_nil]
      exact real_of_queries_nil hes rfl fun values hvalues => (Except.ok.inj hvalues).symm
    · -- a setter that refuses its argument sends nothing
      rw [Call.run, if_neg hvalid]
      refine (Ends.throw _).imp ?_
      rintro r heard'' es' ⟨rfl, rfl, rfl⟩
      exact real_of_error nofun
  | getErrorCode =>
    refine ends_getErrorCode.bind ?_ ?_
    · rintro n heard' es ⟨rfl, hes, hn⟩
      obtain ⟨-, hcode, hne⟩ := hn n rfl
      refine (Ends.pure _).imp ?_
      rintro r heard'' es' ⟨rfl, rfl, rfl⟩
      rw [List.append_nil]
      have hparse : Kind.int.parse d (m.reply mode (heard ++ ["ERRORS?"])) = .ok (.number n) := by
        rw [Kind.parse, hcode]
        rfl
      refine ⟨fun e he => ?_, fun values hvalues => ?_, fun values hvalues q hq e he _ => ?_⟩
      · rw [hes e he]
        exact asks_errors.own
      · obtain rfl := Except.ok.inj hvalues
        obtain ⟨e, he⟩ := List.exists_mem_of_ne_nil es hne
        obtain rfl := hes e he
        exact .cons ⟨_, he, rfl, hparse⟩ .nil
      · obtain rfl := Except.ok.inj hvalues
        obtain rfl := List.mem_singleton.mp hq
        rw [hes e he]
        exact ⟨_, List.mem_singleton.mpr rfl, hparse⟩
    · rintro e heard' es ⟨rfl, hes, -⟩
      refine real_of_error fun e he => ?_
      rw [hes e he]
      exact asks_errors.own
  | getErrorString => exact ends_text (asks_of_unbroken (by decide) (by decide)) rfl
  | info =>
    have hasks : Asks "*IDN?\r" "*IDN?" [""] := by
      refine ⟨by decide, by decide, by decide, ?_⟩
      rw [Unanswered, List.forall_mem_singleton]
      decide
    exact ends_text hasks rfl
  | getCorrection =>
    refine ends_getCorrection.bind ?_ ?_
    · rintro v heard' es ⟨-, hv⟩
      -- where the reply passes, what is returned has never been set
      exact absurd (hv v rfl).1 h
    · rintro e heard' es ⟨hes, -⟩
      exact real_of_error (hes.own (asks_of_unbroken (by decide) (by decide)))
  | setCorrection d1 d2 d3 =>
    have hspace : Plain " " := by decide
    exact ends_unchecked ((((((show Plain "PM:CORR " by decide).append (d.plain d1)).append
      hspace).append (d.plain d2)).append hspace).append (d.plain d3)) rfl
  | clearDataStore => exact ends_unchecked (by decide) rfl
  | getDataStoreValue idx => exact absurd h not_false

end Calls

/-! ### Whole runs -/

section Runs

variable {m : Meter} {mode : Mode} {silent : Thrown} {d : Doubles F}

/-- With nothing on its way, the meter will have heard what is pending. -/
private theorem heard_of_settled {p : Link} {pending : List String} (hp : Settled mode p pending) :
    p.heard m = p.received ++ pending := by
  rw [Link.heard, hp.outgoing, transmit_commandLines hp.begun fun command hmem =>
    (hp.unanswered command hmem).1]

private theorem settled_init : Settled mode (calls m mode silent d).init.link [] where
  begun := rfl
  usb _ := ⟨rfl, rfl⟩
  incoming := rfl
  outgoing := rfl
  unanswered _ hcommand := absurd hcommand List.not_mem_nil
  timings _ ht := absurd ht List.not_mem_nil

/-- **What the meter returns is real**, in every run in which nothing is lost on the link, and what
is returned has been set. -/
theorem readings_real {s : MeterState F}
    (h : (calls m mode silent d).ReachableWhile (fun s t => t.Good m mode d s) s) :
    ∀ o ∈ s.outcomes, o.Real m mode d := by
  refine (h.invariant (P := fun s => (∃ pending, Settled mode s.link pending) ∧
    ∀ o ∈ s.outcomes, o.Real m mode d)
    ⟨⟨[], settled_init⟩, fun _ ho => absurd ho List.not_mem_nil⟩ ?_).2
  rintro s t s' - ⟨⟨pending, hp⟩, hreal⟩ ⟨htimings, hsets⟩ hstep
  obtain rfl := Option.some.inj hstep
  rw [heard_of_settled hp] at hsets
  have hstart : Settled mode { s.link with timings := t.timings, exchanges := [] } pending :=
    ⟨hp.begun, hp.usb, hp.incoming, hp.outgoing, hp.unanswered, htimings⟩
  obtain ⟨r, p', pending', es, hon, hp', hes, hcall⟩ :=
    (ends_run hsets : Ends mode (t.call.run m mode silent d t.garbage) _ _) _ pending hstart rfl
  have hafter : s.after m mode silent d t = ⟨p', s.outcomes ++ [⟨t.call, r, es⟩]⟩ := by
    rw [MeterState.after, hon, hes]
    rfl
  rw [hafter]
  exact ⟨⟨pending', hp'⟩, List.forall_mem_append.mpr ⟨hreal, List.forall_mem_singleton.mpr hcall⟩⟩

end Runs

/-- A meter that answers 5, and has no error. -/
def meterOfFive : Meter where
  line heard := if heard.getLast? = some "ERRORS?" then ['0'] else ['5']
  transfers heard := [if heard.getLast? = some "ERRORS?" then "0\r\n" else "5\r\n"]
  unbroken heard := by split_ifs <;> decide
  joined_transfers heard := by split_ifs <;> decide
  long _ _ hpiece := nomatch hpiece

/-- Whole numbers. -/
def wholeNumbers : Doubles ℤ where
  stod := stoi
  triple str := (stoi str).map fun n => (n, n, n)
  general n := n.repr
  plain := plain_repr

/-- The wavelength is set, and then queried, on the serial port. -/
theorem readings_real_lambda : ∃ s, (calls meterOfFive .serial .unspecified wholeNumbers).run
    (calls meterOfFive .serial .unspecified wholeNumbers).init
      [⟨.set (.setLambda 5), [], .number 7⟩, ⟨.get .getLambda, [], .number 7⟩] = some s ∧
    ∀ o ∈ s.outcomes, o.Real meterOfFive .serial wholeNumbers := by
  obtain ⟨s, hrun⟩ : ∃ s, (calls meterOfFive .serial .unspecified wholeNumbers).run
      (calls meterOfFive .serial .unspecified wholeNumbers).init
        [⟨.set (.setLambda 5), [], .number 7⟩, ⟨.get .getLambda, [], .number 7⟩] = some s :=
    ⟨_, rfl⟩
  refine ⟨s, hrun, readings_real (TransitionSystem.ReachableWhile.init.run ?_ hrun)⟩
  refine ⟨⟨nofun, trivial⟩, fun _ h => ⟨⟨nofun, ?_⟩, fun _ _ => trivial⟩⟩
  obtain rfl := Option.some.inj h
  exact fun _ => ⟨by decide, fun _ _ => trivial⟩

/-- A value of the data store is queried on the USB port. Its answer is taken for an error. -/
theorem value_taken_for_error : ∃ s, (calls meterOfFive .usb .unspecified wholeNumbers).run
    (calls meterOfFive .usb .unspecified wholeNumbers).init
      [⟨.getDataStoreValue 3, [], .number 7⟩] = some s ∧
    s.outcomes.map Outcome.result = [.error (.deviceError "powermeter error: 5")] ∧
    ¬ ∀ o ∈ s.outcomes, o.Real meterOfFive .usb wholeNumbers := by
  refine ⟨_, rfl, by decide, fun h => ?_⟩
  obtain ⟨earlier, later, -, -, hreply⟩ :=
    (h _ (List.mem_singleton.mpr rfl)).own _ (List.mem_singleton.mpr rfl)
  have hline : meterOfFive.line (earlier ++ ["ERRORS?"]) = ['0'] :=
    if_pos List.getLast?_concat
  have hfive : "5\r\n" = meterOfFive.reply .usb (earlier ++ ["ERRORS?"]) := hreply
  rw [Meter.reply, hline] at hfive
  exact absurd hfive (by decide)

end Newport

end Foxtrot
