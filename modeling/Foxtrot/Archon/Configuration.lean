import Foxtrot.Foundation.FiniteMap
import Foxtrot.Foundation.Stateful
import Foxtrot.Foundation.Text
import Foxtrot.Server.Handler
import Mathlib.Logic.Function.Basic

/-!
# The configuration of an Archon controller

An Archon controller keeps its configuration as numbered lines `KEY=VALUE`. The handler
(`devices/archon/archon.cpp`) numbers the lines itself: it has a map from the keys to their lines,
and a counter of the lines in use. On these stand the functions for keys and values, and on those
the ones for lists, of which the configuration holds the entries and their number: the lines of the
timing script, the timing states, the parameters and constants, and the tap lines.

A rig is a handler with its controller. The controller is modelled by its lines, and by the commands
that it has got. Any command may fail, and then changes nothing in the controller: the failures that
the next commands run into are part of the rig.
-/

namespace Foxtrot

open Stateful Text

/-! ### The controller -/

/-- The commands that deal with the configuration. -/
inductive ArchonCommand where
  | clearconfig
  | wconfig (num : ℕ) (line : String)
  | rconfig (num : ℕ)
  deriving DecidableEq

/-- The number of lines of a controller. -/
def controllerLines : ℕ := 2048

/-- The effect on the lines of the controller. -/
def ArchonCommand.apply (lines : ℕ → String) : ArchonCommand → ℕ → String
  | clearconfig => fun _ => ""
  | wconfig num line => Function.update lines num line
  | rconfig _ => lines

/-- The text of the reply. -/
def ArchonCommand.reply (lines : ℕ → String) : ArchonCommand → String
  | clearconfig | wconfig _ _ => ""
  | rconfig num => lines num

/-- How a command fails: the controller refuses it, or the exchange of command and reply goes wrong.
-/
inductive CommandFault where
  | refused
  | protocol (what : String)
  deriving DecidableEq

/-- What `cmd` throws. -/
def CommandFault.thrown : CommandFault → Thrown
  | refused => .deviceError "archon threw an error message! Check the logs..."
  | protocol what => .protocolError what

/-! ### The handler -/

/-- The members of `archon` that deal with the configuration. -/
structure Archon where
  configlinemap : AList fun _ : String => ℕ
  configLines : ℕ
  statenames : List String
  parammap : AList fun _ : String => ℤ
  constantmap : AList fun _ : String => ℤ
  adTaplinemap : AList fun _ : UInt8 => UInt8
  taplines : ℕ

namespace Archon

/-- Before the first command. -/
def new : Archon where
  configlinemap := ∅
  configLines := 0
  statenames := []
  parammap := ∅
  constantmap := ∅
  adTaplinemap := ∅
  taplines := 0

end Archon

/-- A handler and its controller. -/
structure ArchonRig where
  host : Archon
  lines : ℕ → String
  /-- Whether the next commands fail, and how. Those after the last one here do not. -/
  faults : List (Option CommandFault)
  /-- The commands so far, the latest first, and whether the controller has carried them out. -/
  commands : List (ArchonCommand × Bool)

namespace ArchonRig

/-- How the next command fails, if it does. -/
def nextFault (rig : ArchonRig) : Option CommandFault := rig.faults.head?.join

/-- The controller carries out a command. -/
def accept (rig : ArchonRig) (c : ArchonCommand) : ArchonRig where
  host := rig.host
  lines := c.apply rig.lines
  faults := rig.faults.tail
  commands := (c, true) :: rig.commands

/-- The controller does not carry out a command. -/
def refuse (rig : ArchonRig) (c : ArchonCommand) : ArchonRig where
  host := rig.host
  lines := rig.lines
  faults := rig.faults.tail
  commands := (c, false) :: rig.commands

end ArchonRig

/-- What the functions of the handler are computations on. -/
abbrev ArchonM := Stateful ArchonRig Thrown

namespace Archon

/-- The members. -/
def host : ArchonM Archon := ExceptT.mk fun rig => (.ok rig.host, rig)

/-- Changes the members. -/
def setHost (f : Archon → Archon) : ArchonM Unit :=
  ExceptT.mk fun rig => (.ok (), { rig with host := f rig.host })

/-- `cmd`. What is not printable is taken out of the reply. -/
def cmd (c : ArchonCommand) : ArchonM String :=
  ExceptT.mk fun rig =>
    match rig.nextFault with
    | none => (.ok (printable (c.reply rig.lines)), rig.accept c)
    | some fault => (.error fault.thrown, rig.refuse c)

/-! ### Lines -/

/-- The number of the line to write: a new one for `none`, which stands for a negative number. -/
def lineNumber : Option ℕ → ArchonM ℕ
  | none => do
    let s ← host
    setHost fun s => { s with configLines := s.configLines + 1 }
    return s.configLines
  | some num => do
    let s ← host
    if num > s.configLines then
      throw (.exception ("trying to overwrite a config line " ++ num.repr ++
        " that doesn't exist yet"))
    else
      return num

/-- `writeConfigLine`. -/
def writeConfigLine (line : String) (num : Option ℕ) : ArchonM ℕ := do
  let s ← host
  if s.configLines ≥ 2047 then
    throw (.deviceError "tried to write too many config lines to archon")
  else if line.length ≥ 2047 then
    throw (.deviceError "tried to write a config line to archon that was too long")
  else do
    let num ← lineNumber num
    let _ ← cmd (.wconfig num line)
    return num

/-- `readConfigLine`. -/
def readConfigLine (num : ℕ) (overrideExisting : Bool) : ArchonM String := do
  let s ← host
  if num > s.configLines ∧ !overrideExisting then
    throw (.exception "tried to read an archon config line that we don't think exists...")
  else
    cmd (.rconfig num)

/-! ### Keys and values -/

/-- `readKeyValue`. -/
def readKeyValue (key : String) : ArchonM String := do
  let s ← host
  match s.configlinemap.lookup key with
  | none =>
    throw (.exception ("the key " ++ key ++ " is not registered with this archon handler"))
  | some linenum =>
    let line ← readConfigLine linenum false
    match splitFirst '=' line with
    | none => throw (.deviceError "malformed config line returned from archon")
    | some (_, val) => return val

/-- `writeKeyValue`. -/
def writeKeyValue (key val : String) : ArchonM Unit := do
  let s ← host
  match s.configlinemap.lookup key with
  | none => do
    let linenum ← writeConfigLine (join key val) none
    setHost fun s => { s with configlinemap := s.configlinemap.insert key linenum }
  | some linenum => do
    let _ ← writeConfigLine (join key val) (some linenum)
    return ()

/-- A number of entries that is kept in the configuration, by its key. -/
def getCount (key : String) : ArchonM ℤ := do
  let val ← readKeyValue key
  match stoi val with
  | .error e => throw (thrownByNumber "stoi" e)
  | .ok n => return n

/-- Writes such a number. -/
def setCount (key : String) (n : ℤ) : ArchonM Unit := writeKeyValue key n.repr

/-- `set_timing_lines`. -/
def setTimingLines (n : ℤ) : ArchonM Unit := setCount "LINES" n

/-- `set_states`. -/
def setStates (n : ℤ) : ArchonM Unit := setCount "STATES" n

/-- `get_parameters`. -/
def getParameters : ArchonM ℤ := getCount "PARAMETERS"

/-- `set_parameters`. -/
def setParameters (n : ℤ) : ArchonM Unit := setCount "PARAMETERS" n

/-- `get_constants`. -/
def getConstants : ArchonM ℤ := getCount "CONSTANTS"

/-- `set_constants`. -/
def setConstants (n : ℤ) : ArchonM Unit := setCount "CONSTANTS" n

/-! ### Parameters and constants -/

/-- A list of named values: the word of its keys, the functions for the number of its entries, and
its member of the handler. -/
structure NameTable where
  word : String
  getNumber : ArchonM ℤ
  setNumber : ℤ → ArchonM Unit
  names : Archon → AList fun _ : String => ℤ
  update : (AList (fun _ : String => ℤ) → AList fun _ : String => ℤ) → Archon → Archon

def parameters : NameTable where
  word := "PARAMETER"
  getNumber := getParameters
  setNumber := setParameters
  names := parammap
  update f s := { s with parammap := f s.parammap }

def constants : NameTable where
  word := "CONSTANT"
  getNumber := getConstants
  setNumber := setConstants
  names := constantmap
  update f s := { s with constantmap := f s.constantmap }

/-- The number of a name. A new name gets the next one. -/
def NameTable.confnum (table : NameTable) (name : String) : ArchonM ℤ := do
  let s ← host
  match (table.names s).lookup name with
  | some confnum => return confnum
  | none => do
    let confnum ← table.getNumber
    setHost (table.update fun names => names.insert name confnum)
    table.setNumber (confnum + 1)
    return confnum

/-- `setParam` and `setConstant`, on the text of the value. -/
def NameTable.set (table : NameTable) (name val : String) : ArchonM Unit := do
  let confnum ← table.confnum name
  writeKeyValue (numbered table.word confnum) (join name val)

/-- `setParam`. -/
def setParam (name : String) (val : UInt32) : ArchonM Unit := parameters.set name val.toNat.repr

/-- `setConstant`, on the text that a stream makes of the number. -/
def setConstant (name val : String) : ArchonM Unit := constants.set name val

/-- The value in an entry: the number between the first `=` and a quotation mark. Without a `=`
there is no text between the two. -/
def paramValue (paramline : String) : Except Thrown UInt32 :=
  match splitFirst '=' paramline with
  | none => .error (.exception "basic_string::_M_create")
  | some (_, rest) =>
    match stoul (String.ofList (rest.toList.takeWhile (· ≠ '"'))) with
    | .error e => .error (thrownByNumber "stoul" e)
    | .ok n => .ok (UInt32.ofNat n)

/-- `getParam`. -/
def getParam (name : String) : ArchonM UInt32 := do
  let s ← host
  match s.parammap.lookup name with
  | none => throw (.deviceError "parameter not known to this archon")
  | some confnum => do
    let paramline ← readKeyValue (numbered "PARAMETER" confnum)
    match paramValue paramline with
    | .error e => throw e
    | .ok val => return val

/-! ### Timing -/

/-- `load_timing_script`. -/
def loadTimingScript (script : String) : ArchonM Unit := do
  forM (getlines script).zipIdx fun (line, i) => writeKeyValue (numbered "LINE" i) line
  setTimingLines (getlines script).length

/-- A line of a timing state. -/
def writeStateLine (stateIdx : ℕ) (line : String) : ArchonM Unit :=
  match splitFirst '=' line with
  | none => throw (.exception ("malformed timing state line: " ++ line))
  | some (configkey, val) => writeKeyValue (numbered "STATE" stateIdx ++ "/" ++ configkey) val

/-- `write_timing_state`. -/
def writeTimingState (name state : String) : ArchonM Unit := do
  let s ← host
  forM (getlines state) (writeStateLine (s.statenames.idxOf name))
  if name ∈ s.statenames then
    return ()
  else do
    setStates s.statenames.length
    setHost fun s => { s with statenames := s.statenames ++ [name] }

/-! ### Tap lines -/

/-- `settapline`. -/
def settapline (n : ℤ) (tapline : String) : ArchonM Unit := do
  let s ← host
  if n > s.taplines then
    throw (.deviceError "invalid TAP line number")
  else do
    writeKeyValue (numbered "TAPLINE" n) tapline
    if n = s.taplines then do
      setHost fun s => { s with taplines := s.taplines + 1 }
      writeKeyValue "TAPLINES" (s.taplines + 1).repr
    else
      return ()

/-- The text of a tap line. -/
def tapText (ad : UInt8) (lr : Bool) (gain : String) (offset : UInt16) : String :=
  "AD" ++ ad.toNat.repr ++ (if lr then "R" else "L") ++ "," ++ gain ++ "," ++ offset.toNat.repr

/-- `settap`, on the text that a stream makes of the gain. What is caught is a `std::out_of_range`
of the look-up. `settapline` throws one only where `cmd` gets a reply of two characters, `<` and a
digit that is the order; a reply is taken to have both digits, and a `CommandFault` is none. -/
def settap (ad : UInt8) (lr : Bool) (gain : String) (offset : UInt16) : ArchonM Unit := do
  let s ← host
  match s.adTaplinemap.lookup ad with
  | some tline => settapline tline.toNat (tapText ad lr gain offset)
  | none => do
    setHost fun s => { s with adTaplinemap := s.adTaplinemap.insert ad (UInt8.ofNat s.taplines) }
    settapline s.taplines (tapText ad lr gain offset)

/-! ### The configuration as a whole -/

/-- `clear_config`. -/
def clearConfig : ArchonM Unit := do
  let _ ← cmd .clearconfig
  setHost fun _ => new
  setTimingLines 0
  setStates 0
  setParameters 0
  setConstants 0
  writeKeyValue "TAPLINES" "0"

/-- The loop of `read_parse_existing_config`, from line `i` on: the number of the line where it
ends. -/
def parseLines : ℕ → ℕ → ArchonM ℕ
  | 0, i => return i
  | remaining + 1, i => do
    let confline ← readConfigLine i true
    if confline = "" then
      return i
    else
      match splitFirst '=' confline with
      | none => throw (.deviceError "malformed config line returned from archon")
      | some (key, _) => do
        setHost fun s => { s with configlinemap := s.configlinemap.insertNew key i }
        parseLines remaining (i + 1)

/-- `read_parse_existing_config`. -/
def readParseExistingConfig : ArchonM Unit := do
  writeKeyValue "RAWSTARTPIXEL" "0"
  let i ← parseLines controllerLines 0
  setHost fun s => { s with configLines := i }

end Archon

end Foxtrot
