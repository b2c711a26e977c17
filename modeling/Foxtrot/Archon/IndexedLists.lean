import Foxtrot.Archon.Lines
import Foxtrot.Foundation.Trace

/-!
# The indexed lists of the configuration

Five lists are kept as an entry for each index and the number of the entries: the lines of the
timing script, the timing states, the parameters, the constants and the tap lines.
`ListFamily.InStep` says of each that the number is that of what has been given, that there is an
entry with what was given last below it for each index, and that the handler's map from names to
indices is right.

Each function has its own order of steps for the number, the map and the entries. `KeepsLists` is
what that leaves: a call may fail before its first write or has to go through as a whole, with the
exceptions that the order allows. `write_timing_state` takes the number of the states before the new
one is among them, and leaves the lists out of step whenever it goes through.
-/

namespace Foxtrot

open Stateful Text

/-! ### What is given -/

/-- A call. -/
inductive ListCall where
  | loadTimingScript (script : String)
  | writeTimingState (name state : String)
  | setParam (name : String) (val : UInt32)
  | setConstant (name val : String)
  | settapline (n : ℤ) (tapline : String)
  | settap (ad : UInt8) (lr : Bool) (gain : String) (offset : UInt16)

/-- What has been given by the calls that have succeeded. -/
structure GivenLists where
  script : List String
  /-- The values of the keys of each state. -/
  states : AList fun _ : String => AList fun _ : String => String
  params : AList fun _ : String => String
  constants : AList fun _ : String => String
  taps : AList fun _ : ℤ => String
  /-- The tap line of each channel: the next one when it was first given. -/
  channels : AList fun _ : UInt8 => ℤ

/-- Nothing has been given. -/
def GivenLists.none : GivenLists := ⟨[], ∅, ∅, ∅, ∅, ∅⟩

/-- The values of the keys of a state, once the lines of a text have been given for it. -/
def stateValues (vals : AList fun _ : String => String) (state : String) :
    AList fun _ : String => String :=
  (getlines state).foldl (fun vals line =>
    (splitFirst '=' line).elim vals fun kv => vals.insert kv.1 kv.2) vals

namespace ListCall

/-- The function that is called. -/
def perform : ListCall → ArchonM Unit
  | loadTimingScript script => Archon.loadTimingScript script
  | writeTimingState name state => Archon.writeTimingState name state
  | setParam name val => Archon.setParam name val
  | setConstant name val => Archon.setConstant name val
  | settapline n tapline => Archon.settapline n tapline
  | settap ad lr gain offset => Archon.settap ad lr gain offset

/-- What has been given after a call that has succeeded. -/
def give (call : ListCall) (g : GivenLists) : GivenLists :=
  match call with
  | loadTimingScript script => { g with script := getlines script }
  | writeTimingState name state =>
    { g with states := g.states.insert name (stateValues ((g.states.lookup name).getD ∅) state) }
  | setParam name val => { g with params := g.params.insert name val.toNat.repr }
  | setConstant name val => { g with constants := g.constants.insert name val }
  | settapline n tapline => { g with taps := g.taps.insert n tapline }
  | settap ad lr gain offset =>
    let n := (g.channels.lookup ad).getD g.taps.keys.length
    { g with
      taps := g.taps.insert n (Archon.tapText ad lr gain offset)
      channels := g.channels.insert ad n }

end ListCall

/-! ### Lists in step -/

section InStep

variable (holds : String → String → Prop)

/-- The lines of the timing script. -/
structure ScriptInStep (script : List String) : Prop where
  counted : holds "LINES" script.length.repr
  entries : ∀ (i : ℕ) line, script[i]? = some line → holds (numbered "LINE" i) line

/-- The timing states. -/
structure StatesInStep (names : List String)
    (given : AList fun _ : String => AList fun _ : String => String) : Prop where
  counted : holds "STATES" given.keys.length.repr
  nodup : names.Nodup
  known : ∀ name, name ∈ names ↔ name ∈ given
  below : ∀ name ∈ names, names.idxOf name < given.keys.length
  entries : ∀ i < given.keys.length, ∃ name vals, names[i]? = some name ∧
    given.lookup name = some vals ∧
      ∀ key val, vals.lookup key = some val → holds (numbered "STATE" i ++ "/" ++ key) val

/-- Named values. -/
structure NamesInStep (word : String) (names : AList fun _ : String => ℤ)
    (given : AList fun _ : String => String) : Prop where
  counted : holds (word ++ "S") given.keys.length.repr
  injective : ∀ name name' i, names.lookup name = some i → names.lookup name' = some i →
    name = name'
  known : ∀ name, name ∈ names ↔ name ∈ given
  below : ∀ name i, names.lookup name = some i → 0 ≤ i ∧ i < given.keys.length
  entries : ∀ i < given.keys.length, ∃ name val, names.lookup name = some (i : ℤ) ∧
    given.lookup name = some val ∧ holds (numbered word i) (join name val)

/-- The tap lines, with the handler's number of them and its map of the channels. -/
structure TapsInStep (taplines : ℕ) (ads : AList fun _ : UInt8 => UInt8)
    (taps : AList fun _ : ℤ => String) (channels : AList fun _ : UInt8 => ℤ) : Prop where
  counted : holds "TAPLINES" taps.keys.length.repr
  taplines : taplines = taps.keys.length
  injective : ∀ ad ad' i, ads.lookup ad = some i → ads.lookup ad' = some i → ad = ad'
  known : ∀ ad, (ads.lookup ad).map (fun i => (i.toNat : ℤ)) = channels.lookup ad
  below : ∀ ad i, ads.lookup ad = some i → i.toNat < taps.keys.length
  given : ∀ n, n ∈ taps ↔ 0 ≤ n ∧ n < taps.keys.length
  entries : ∀ n text, taps.lookup n = some text → holds (numbered "TAPLINE" n) text

end InStep

/-- The lists. -/
inductive ListFamily where
  | lines
  | states
  | parameters
  | constants
  | taplines
  deriving DecidableEq

/-- A list is in step with its number and with what has been given. -/
def ListFamily.InStep (f : ListFamily) (holds : String → String → Prop) (s : Archon)
    (g : GivenLists) : Prop :=
  match f with
  | lines => ScriptInStep holds g.script
  | states => StatesInStep holds s.statenames g.states
  | parameters => NamesInStep holds "PARAMETER" s.parammap g.params
  | constants => NamesInStep holds "CONSTANT" s.constantmap g.constants
  | taplines => TapsInStep holds s.taplines s.adTaplinemap g.taps g.channels

/-- The controller has one value for a key. -/
def Stored (lines : ℕ → String) (key val : String) : Prop :=
  ∀ val', (∃ n < controllerLines, lines n = join key val') ↔ val' = val

/-! ### Runs -/

/-- A call, and how its commands fail. -/
structure ListLabel where
  call : ListCall
  faults : List (Option CommandFault)

/-- A rig along a run. -/
structure ListRun where
  rig : ArchonRig
  given : GivenLists
  reply : Except Thrown Unit

/-- What has been given after a call. -/
def ListCall.after (call : ListCall) (g : GivenLists) : Except Thrown Unit → GivenLists
  | .ok _ => call.give g
  | .error _ => g

/-- The runs from a rig on. -/
def listSystem (rig : ArchonRig) : TransitionSystem ListRun ListLabel where
  init := ⟨rig, .none, .ok ()⟩
  step s l :=
    let result := on l.call.perform { s.rig with faults := l.faults }
    some ⟨result.2, l.call.after s.given result.1, result.1⟩

/-- **The lists are in step.** -/
def ListsInStep (s : ListRun) : Prop :=
  ∀ f : ListFamily, f.InStep (Stored s.rig.lines) s.rig.host s.given

/-! ### When they are -/

/-- The entries of a timing script. -/
def scriptEntries (script : List String) : List (String × String) :=
  script.zipIdx.map fun (line, i) => (numbered "LINE" i, line)

/-- The entries of a timing state, if no line is malformed. -/
def stateEntries (i : ℕ) (state : String) : Option (List (String × String)) :=
  ((getlines state).mapM (splitFirst '=')).map fun kvs =>
    kvs.map fun kv => (numbered "STATE" i ++ "/" ++ kv.1, kv.2)

/-- What `load_timing_script` writes. -/
def scriptWrites (script : List String) : List (String × String) :=
  scriptEntries script ++ [("LINES", script.length.repr)]

/-- A script is loaded as a whole, or the lines that are written before the failure are those of the
script before, as far as that goes. -/
def LoadsScript (s : Archon) (old script : List String) (faults : List (Option CommandFault)) :
    Prop :=
  s.CanWrite (scriptWrites script) faults ∨ ∀ (i : ℕ) line line', old[i]? = some line →
    script[i]? = some line' → s.CanWrite ((scriptEntries script).take (i + 1)) faults → line' = line

/-- A new state goes through. -/
def WritesNewState (s : Archon) (state : String) (faults : List (Option CommandFault)) : Prop :=
  ∃ entries, stateEntries s.statenames.length state = some entries ∧
    s.CanWrite (entries ++ [("STATES", s.statenames.length.repr)]) faults

/-- Once the number has been read, a new name is given its number and its entry. -/
def SetsNewName (table : Archon.NameTable) (rig : ArchonRig) (name val : String)
    (faults : List (Option CommandFault)) : Prop :=
  (table.names rig.host).lookup name = none → faults.head?.join = none →
    ∀ n : ℕ, Stored rig.lines (table.word ++ "S") n.repr →
      rig.host.CanWrite [(table.word ++ "S", (n + 1).repr), (numbered table.word n, join name val)]
        faults.tail

/-- The writes of the next tap line. -/
def tapWrites (s : Archon) (tapline : String) : List (String × String) :=
  [(numbered "TAPLINE" s.taplines, tapline), ("TAPLINES", (s.taplines + 1).repr)]

/-- The number of a tap line that is written is not negative, and that of the tap lines is written
with the next one. -/
def SetsTapline (s : Archon) (n : ℤ) (tapline : String) (faults : List (Option CommandFault)) :
    Prop :=
  (n < 0 → ¬ s.CanWrite [(numbered "TAPLINE" n, tapline)] faults) ∧
    (n = s.taplines → s.CanWrite [(numbered "TAPLINE" n, tapline)] faults →
      s.CanWrite (tapWrites s tapline) faults)

/-- The call does not leave a list out of step. -/
def KeepsLists (s : ListRun) (l : ListLabel) : Prop :=
  match l.call with
  | .loadTimingScript script => LoadsScript s.rig.host s.given.script (getlines script) l.faults
  | .writeTimingState name state =>
    name ∉ s.rig.host.statenames → ¬ WritesNewState s.rig.host state l.faults
  | .setParam name val => SetsNewName Archon.parameters s.rig name val.toNat.repr l.faults
  | .setConstant name val => SetsNewName Archon.constants s.rig name val l.faults
  | .settapline n tapline => SetsTapline s.rig.host n tapline l.faults
  | .settap ad lr gain offset => s.rig.host.adTaplinemap.lookup ad = none →
    s.rig.host.taplines < 256 ∧
      s.rig.host.CanWrite (tapWrites s.rig.host (Archon.tapText ad lr gain offset)) l.faults

end Foxtrot
