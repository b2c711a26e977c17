import Foxtrot.Client.SimpleValues
import Foxtrot.Python.TypeConversion
import Foxtrot.Server.FlagService

/-!
# Flags shared by clients of two languages

The clients reach the flags of a server in C++ (`client/src/client.cpp`) and in Python
(`python/pyfoxtrot/server_flags.py`). A call makes at most one request, so the calls of all clients
stand in the order in which their requests are worked on. The transport is taken to deliver.

The C++ client sends the alternative of a variant. The Python client chooses the field by the class
of the value: a `float` first, and a `bool` **before** an `int`, since a `bool` is an `int`. It
refuses other classes, an integer of more than 32 bits, and a text that is not ASCII; a refused
value makes no request.

To its clients the server is then **one map from names to Python values**, in whatever languages the
flags are set and read (`shared_flags`): `flagValues` reads the contents off the calls and their
outcomes. In particular a value comes back with its class and its bits, and a C++ client reads what
a Python client has assigned. The outcome of a default constructed variant, which the C++ client
has for a reply without a value, does not occur.

One call of a client is at most one call of a stub, and the server's map changes with it as the book
of the flags says. The invariant is that the map shows the values (`FlagMap.Shows`): under each name
is the Python value of the flag that is stored. It is kept by a set with the value that the request
carries, whatever language has made it, and by a drop.
-/

namespace Foxtrot

open Histories TransitionSystem

/-- The stubs of the service `flags`. -/
def flagStub (ord : FlagOrder) (kind : FlagRpc) (vars : FlagMap) (req : kind.Req) :
    Option (FlagMap × kind.Reply) :=
  (flagRpcs Unit Empty ord kind).call vars () req

/-! ### The C++ client -/

section Cpp

variable (ord : FlagOrder) (vars : FlagMap) (msgid : UInt32) (flagname : String)

/-- `ft_variant_from_response`, on a `serverflag`. Without a value `out` keeps its default. -/
def ftVariantFromServerflag (repl : Serverflag) : Except Thrown FtStdVariant := do
  Client.checkReplErr repl.err
  return repl.arg.getD (.double 0)

/-- `Client::get_server_flag`, with the value of `_msgid`. -/
def clientGetServerFlag : Option (FlagMap × Except Thrown FtStdVariant) := do
  let (vars, repl) ← flagStub ord .getServerFlag vars ⟨none, msgid, flagname, none⟩
  return (vars, do
    Client.checkReplErr repl.err
    ftVariantFromServerflag repl)

/-- `Client::set_server_flag`. -/
def clientSetServerFlag (val : FtStdVariant) : Option (FlagMap × Except Thrown Unit) := do
  let (vars, repl) ← flagStub ord .setServerFlag vars ⟨none, msgid, flagname, some val⟩
  return (vars, Client.checkReplErr repl.err)

/-- `Client::drop_server_flag`. -/
def clientDropServerFlag : Option (FlagMap × Except Thrown Unit) := do
  let (vars, repl) ← flagStub ord .dropServerFlag vars ⟨none, msgid, flagname, none⟩
  return (vars, Client.checkReplErr repl.err)

/-- `Client::get_flag_names`. -/
def clientGetFlagNames : Option (FlagMap × Except Thrown (List String)) := do
  let (vars, repl) ← flagStub ord .listServerFlags vars ()
  return (vars, do
    Client.checkReplErr repl.err
    return repl.flags.map Serverflag.flagname)

end Cpp

/-! ### The Python client -/

namespace Python

/-- A text of ASCII characters. -/
def IsAscii (s : String) : Prop := ∀ c ∈ s.toList, c.val < 128

instance IsAscii.decidable (s : String) : Decidable (IsAscii s) :=
  inferInstanceAs (Decidable (∀ c ∈ s.toList, c.val < 128))

/-- `val.encode("ASCII")`, assigned to `stringval`. -/
def assignAscii : PyStr → Except PyException String
  | .text s => if IsAscii s then .ok s else .error .unicodeEncodeError
  | .surrogates _ => .error .unicodeEncodeError

/-- The assignment to `intval`, which has 32 bits. -/
def assignSint32 (n : ℤ) : Except PyException Int32 :=
  if -2 ^ 31 ≤ n ∧ n < 2 ^ 31 then .ok (Int32.ofInt n) else .error (outOfRange n)

/-- `ServerFlag.construct_request`. -/
def constructFlagRequest (flagname : String) (val : PyValue) : Except PyException Serverflag :=
  match val with
  | .float v => .ok ⟨none, 0, flagname, some (.double v)⟩
  | .bool b => .ok ⟨none, 0, flagname, some (.bool b)⟩
  | .int n => do return ⟨none, 0, flagname, some (.int (← assignSint32 n))⟩
  | .str s => do return ⟨none, 0, flagname, some (.string (← assignAscii s))⟩
  | val => .error (.typeError
      ("invalid value type <class '" ++ val.typeName ++ "'> for server flag"))

/-- The field of a reply that is set. -/
def flagValue : FtStdVariant → PyValue
  | .double v => .float v
  | .int n => .int n.toInt
  | .bool b => .bool b
  | .string s => .str (.text s)

/-- What a call has come to. -/
inductive Raised where
  /-- Before there was a request. -/
  | constructing (e : PyException)
  /-- By the reply. -/
  | checking (e : ReplyException)

section Calls

variable (ord : FlagOrder) (vars : FlagMap) (flagname : String)

/-- The getter of `ServerFlag.value`. The request carries the value `0`. -/
def getValue : Option (FlagMap × Except Raised PyValue) :=
  match constructFlagRequest flagname (.int 0) with
  | .error e => some (vars, .error (.constructing e))
  | .ok req => do
    let (vars, repl) ← flagStub ord .getServerFlag vars req
    return (vars, do
      (checkReplErr repl.err).mapError .checking
      return (repl.arg.map flagValue).getD .none)

/-- The setter of `ServerFlag.value`. -/
def setValue (val : PyValue) : Option (FlagMap × Except Raised Unit) :=
  match constructFlagRequest flagname val with
  | .error e => some (vars, .error (.constructing e))
  | .ok req => do
    let (vars, repl) ← flagStub ord .setServerFlag vars req
    return (vars, (checkReplErr repl.err).mapError .checking)

/-- `ServerFlag.drop`. -/
def drop : Option (FlagMap × Except Raised Unit) := do
  let (vars, repl) ← flagStub ord .dropServerFlag vars ⟨none, 0, flagname, none⟩
  return (vars, (checkReplErr repl.err).mapError .checking)

/-- The names of the flags that `FlagProxy` iterates over. -/
def flagNames : Option (FlagMap × Except Raised (List String)) := do
  let (vars, repl) ← flagStub ord .listServerFlags vars ()
  return (vars, do
    (checkReplErr repl.err).mapError .checking
    return repl.flags.map Serverflag.flagname)

end Calls

end Python

/-! ### Calls of any client -/

/-- A call of a client. -/
inductive FlagCall where
  | getServerFlag (msgid : UInt32) (flagname : String)
  | setServerFlag (msgid : UInt32) (flagname : String) (val : FtStdVariant)
  | dropServerFlag (msgid : UInt32) (flagname : String)
  | getFlagNames
  /-- In Python from here on. -/
  | value (flagname : String)
  | setValue (flagname : String) (val : Python.PyValue)
  | drop (flagname : String)
  | names

/-- What the client gets. -/
inductive FlagOutcome where
  | variant (r : Except Thrown FtStdVariant)
  | done (r : Except Thrown Unit)
  | listed (r : Except Thrown (List String))
  | pyValue (r : Except Python.Raised Python.PyValue)
  | pyDone (r : Except Python.Raised Unit)
  | pyListed (r : Except Python.Raised (List String))

/-- A call, by the name of its client's method. -/
def FlagCall.perform (ord : FlagOrder) (vars : FlagMap) :
    FlagCall → Option (FlagMap × FlagOutcome)
  | .getServerFlag msgid flagname =>
    (clientGetServerFlag ord vars msgid flagname).map (Prod.map id .variant)
  | .setServerFlag msgid flagname val =>
    (clientSetServerFlag ord vars msgid flagname val).map (Prod.map id .done)
  | .dropServerFlag msgid flagname =>
    (clientDropServerFlag ord vars msgid flagname).map (Prod.map id .done)
  | .getFlagNames => (clientGetFlagNames ord vars).map (Prod.map id .listed)
  | .value flagname => (Python.getValue ord vars flagname).map (Prod.map id .pyValue)
  | .setValue flagname val => (Python.setValue ord vars flagname val).map (Prod.map id .pyDone)
  | .drop flagname => (Python.drop ord vars flagname).map (Prod.map id .pyDone)
  | .names => (Python.flagNames ord vars).map (Prod.map id .pyListed)

/-- The clients of a server, with their calls and what came of them. -/
def sharedFlags (ord : FlagOrder) :
    TransitionSystem (FlagMap × List (FlagCall × FlagOutcome)) FlagCall :=
  TransitionSystem.recorded ⟨∅, fun vars c => (c.perform ord vars).map Prod.fst⟩
    fun vars c => (c.perform ord vars).map fun r => (c, r.2)

/-! ### The map that the clients share -/

open Python (PyValue flagValue)

/-- What a call puts under a name: a value, or nothing. -/
def valueWrite : FlagCall × FlagOutcome → Option (String × Option PyValue)
  | (.setServerFlag _ flagname val, .done (.ok ())) => some (flagname, some (flagValue val))
  | (.dropServerFlag _ flagname, .done (.ok ())) => some (flagname, none)
  | (.setValue flagname val, .pyDone (.ok ())) => some (flagname, some val)
  | (.drop flagname, .pyDone (.ok ())) => some (flagname, none)
  | _ => none

/-- What is under each name after these calls. -/
def flagValues (log : List (FlagCall × FlagOutcome)) (name : String) : Option PyValue :=
  (lastWritten valueWrite log name).join

/-- The values that can be assigned in Python. -/
def Python.Assignable : PyValue → Prop
  | .float _ | .bool _ => True
  | .int n => -2 ^ 31 ≤ n ∧ n < 2 ^ 31
  | .str (.text s) => IsAscii s
  | _ => False

/-- A list of the names under which there is something. -/
def ListsNames (contents : String → Option PyValue) (names : List String) : Prop :=
  names.Nodup ∧ ∀ name, name ∈ names ↔ (contents name).isSome = true

/-- What a call gets from a map with these contents. -/
def GetsFrom (contents : String → Option PyValue) : FlagCall × FlagOutcome → Prop
  | (.getServerFlag _ flagname, o) =>
    match contents flagname with
    | some v => ∃ val, o = .variant (.ok val) ∧ flagValue val = v
    | none => o = .variant (.error (.outOfRange "invalid server flag"))
  | (.setServerFlag _ _ _, o) => o = .done (.ok ())
  | (.dropServerFlag _ flagname, o) =>
    match contents flagname with
    | some _ => o = .done (.ok ())
    | none => o = .done (.error (.outOfRange "no such flag"))
  | (.getFlagNames, o) => ∃ names, o = .listed (.ok names) ∧ ListsNames contents names
  | (.value flagname, o) =>
    match contents flagname with
    | some v => o = .pyValue (.ok v)
    | none => o = .pyValue (.error (.checking (.valueError "invalid server flag")))
  | (.setValue _ val, o) =>
    (Python.Assignable val ∧ o = .pyDone (.ok ())) ∨
      (¬ Python.Assignable val ∧ ∃ e, o = .pyDone (.error (.constructing e)))
  | (.drop flagname, o) =>
    match contents flagname with
    | some _ => o = .pyDone (.ok ())
    | none => o = .pyDone (.error (.checking (.valueError "no such flag")))
  | (.names, o) => ∃ names, o = .pyListed (.ok names) ∧ ListsNames contents names

/-! ### The stubs -/

section Stubs

variable {ord : FlagOrder} {vars : FlagMap} {msgid : UInt32} {flagname : String}

/-- A flag that is set through the stub is under its name. -/
private theorem flagStub_setServerFlag (val : FtStdVariant) :
    flagStub ord .setServerFlag vars ⟨none, msgid, flagname, some val⟩ =
      some (vars.set flagname val, ⟨none, msgid, "", none⟩) :=
  Rpc.call_eq_some (flagRpcs Unit Empty ord .setServerFlag) (process_setServerFlag _) rfl

/-- A flag is returned through the stub, or that there is none. -/
private theorem flagStub_getServerFlag (arg : Option FtStdVariant) :
    flagStub ord .getServerFlag vars ⟨none, msgid, flagname, arg⟩ =
      some (vars, match vars.lookup flagname with
        | some val => ⟨none, msgid, flagname, some val⟩
        | none => ⟨some ⟨.outOfRange, "invalid server flag"⟩, msgid, "", none⟩) :=
  Rpc.call_eq_some (flagRpcs Unit Empty ord .getServerFlag) (process_getServerFlag _) rfl

/-- A flag is dropped through the stub, or there is none. -/
private theorem flagStub_dropServerFlag :
    flagStub ord .dropServerFlag vars ⟨none, msgid, flagname, none⟩ =
      some (match vars.lookup flagname with
        | some _ => (vars.erase flagname, ⟨none, msgid, flagname, none⟩)
        | none => (vars, ⟨some ⟨.outOfRange, "no such flag"⟩, msgid, "", none⟩)) := by
  refine Option.bind_eq_some_iff.mpr ⟨_, process_dropServerFlag _, ?_⟩
  dsimp only
  cases vars.lookup flagname <;> rfl

private theorem flagStub_listServerFlags : flagStub ord .listServerFlags vars () =
    some (vars, ⟨none, 0, (ord.visit vars).map fun item => ⟨none, 0, item.1, some item.2⟩⟩) :=
  Rpc.call_eq_some (flagRpcs Unit Empty ord .listServerFlags) (process_listServerFlags ()) rfl

end Stubs

namespace Python

/-- A value makes a request with the same value, or cannot be assigned. -/
theorem constructFlagRequest_spec (flagname : String) (val : PyValue) :
    (Assignable val ∧ ∃ var, constructFlagRequest flagname val =
        .ok ⟨none, 0, flagname, some var⟩ ∧ flagValue var = val) ∨
      (¬ Assignable val ∧ ∃ e, constructFlagRequest flagname val = .error e) := by
  cases val with
  | float v => exact .inl ⟨trivial, .double v, rfl, rfl⟩
  | bool b => exact .inl ⟨trivial, .bool b, rfl, rfl⟩
  | int n =>
    by_cases hn : -2 ^ 31 ≤ n ∧ n < 2 ^ 31
    · refine .inl ⟨hn, .int (Int32.ofInt n), ?_, ?_⟩
      · rw [constructFlagRequest, assignSint32, if_pos hn]
        rfl
      · rw [flagValue, Int32.toInt_ofInt_of_le hn.1 hn.2]
    · refine .inr ⟨hn, outOfRange n, ?_⟩
      rw [constructFlagRequest, assignSint32, if_neg hn]
      rfl
  | str s =>
    cases s with
    | text s =>
      by_cases hs : IsAscii s
      · refine .inl ⟨hs, .string s, ?_, rfl⟩
        rw [constructFlagRequest, assignAscii, if_pos hs]
        rfl
      · refine .inr ⟨hs, .unicodeEncodeError, ?_⟩
        rw [constructFlagRequest, assignAscii, if_neg hs]
        rfl
    | surrogates codes => exact .inr ⟨id, _, rfl⟩
  | none | tuple | list | dict | other => exact .inr ⟨id, _, rfl⟩

end Python

section Shows

variable {ord : FlagOrder} {vars : FlagMap} {contents : String → Option PyValue}
  {log : List (FlagCall × FlagOutcome)}

/-- The map of the server, as Python values. -/
def FlagMap.Shows (vars : FlagMap) (contents : String → Option PyValue) : Prop :=
  ∀ name, (vars.lookup name).map flagValue = contents name

/-- A flag that is set shows its value. -/
theorem FlagMap.Shows.set (h : vars.Shows contents) (name : String) (val : FtStdVariant) :
    FlagMap.Shows (vars.set name val) (Function.update contents name (some (flagValue val))) := by
  intro name'
  rw [FlagMap.set, AList.lookup_insert_ite, Function.update_apply, ← h name']
  split <;> rfl

/-- A flag that is dropped shows none. -/
theorem FlagMap.Shows.erase (h : vars.Shows contents) (name : String) :
    FlagMap.Shows (vars.erase name) (Function.update contents name none) := by
  intro name'
  rw [AList.lookup_erase_ite, Function.update_apply, ← h name']
  split <;> rfl

/-- The names of the entries are those under which there is something. -/
theorem FlagMap.Shows.listsNames (h : vars.Shows contents) :
    ListsNames contents ((ord.visit vars).map Sigma.fst) := by
  have hkeys : (vars.entries.map Sigma.fst).Nodup := vars.nodupKeys
  have hperm := (ord.visit_perm vars).map Sigma.fst
  refine ⟨hperm.nodup_iff.mpr hkeys, fun name => ?_⟩
  rw [hperm.mem_iff, ← h name, Option.isSome_map, AList.lookup_isSome]
  rfl

/-- A call that writes changes the value under its name. -/
private theorem flagValues_of_write {w : FlagCall × FlagOutcome} {name : String}
    {val : Option PyValue}
    (h : valueWrite w = some (name, val)) :
    flagValues (log ++ [w]) = Function.update (flagValues log) name val := by
  funext name'
  rw [flagValues, lastWritten_concat_of_some h, Function.update_apply, Function.update_apply]
  split <;> rfl

private theorem flagValues_of_no_write {w : FlagCall × FlagOutcome} (h : valueWrite w = none) :
    flagValues (log ++ [w]) = flagValues log := by
  funext name
  rw [flagValues, lastWritten_concat_of_none h]
  rfl

variable (ord) in
/-- **One call**: it is worked on, it gets what the map holds, and the map then holds what the calls
say. -/
theorem FlagMap.Shows.perform (h : vars.Shows (flagValues log)) (c : FlagCall) :
    ∃ vars' o, c.perform ord vars = some (vars', o) ∧ GetsFrom (flagValues log) (c, o) ∧
      FlagMap.Shows vars' (flagValues (log ++ [(c, o)])) := by
  -- a call that writes nothing
  have hquiet {o : FlagOutcome} (hw : valueWrite (c, o) = none) :
      vars.Shows (flagValues (log ++ [(c, o)])) := by
    rwa [flagValues_of_no_write hw]
  cases c with
  | getServerFlag msgid flagname =>
    refine ⟨vars, _, by rw [FlagCall.perform, clientGetServerFlag, flagStub_getServerFlag]; rfl, ?_,
      hquiet rfl⟩
    have hname := h flagname
    cases hval : vars.lookup flagname with
    | none =>
      rw [hval] at hname
      simp only [GetsFrom, ← hname, Option.map_none]
      rfl
    | some val =>
      rw [hval] at hname
      simp only [GetsFrom, ← hname, Option.map_some]
      exact ⟨val, rfl, rfl⟩
  | setServerFlag msgid flagname val =>
    refine ⟨_, .done (.ok ()),
      by rw [FlagCall.perform, clientSetServerFlag, flagStub_setServerFlag]; rfl, rfl, ?_⟩
    rw [flagValues_of_write rfl]
    exact h.set flagname val
  | dropServerFlag msgid flagname =>
    have hname := h flagname
    cases hval : vars.lookup flagname with
    | none =>
      refine ⟨vars, .done (.error (.outOfRange "no such flag")), ?_, ?_, hquiet rfl⟩
      · rw [FlagCall.perform, clientDropServerFlag, flagStub_dropServerFlag, hval]
        rfl
      · rw [hval] at hname
        simp only [GetsFrom, ← hname, Option.map_none]
    | some val =>
      refine ⟨vars.erase flagname, .done (.ok ()), ?_, ?_, ?_⟩
      · rw [FlagCall.perform, clientDropServerFlag, flagStub_dropServerFlag, hval]
        rfl
      · rw [hval] at hname
        simp only [GetsFrom, ← hname, Option.map_some]
      · rw [flagValues_of_write rfl]
        exact h.erase flagname
  | getFlagNames =>
    refine ⟨vars, _, by rw [FlagCall.perform, clientGetFlagNames, flagStub_listServerFlags]; rfl,
      ⟨_, rfl, ?_⟩, hquiet rfl⟩
    rw [List.map_map]
    exact h.listsNames
  | value flagname =>
    -- the request is made with the value `0`, which can be assigned
    have hzero : Python.constructFlagRequest flagname (.int 0) =
        .ok ⟨none, 0, flagname, some (.int 0)⟩ := rfl
    refine ⟨vars, _, by
      rw [FlagCall.perform, Python.getValue, hzero]
      simp only [flagStub_getServerFlag]
      rfl, ?_, hquiet rfl⟩
    have hname := h flagname
    cases hval : vars.lookup flagname with
    | none =>
      rw [hval] at hname
      simp only [GetsFrom, ← hname, Option.map_none]
      rfl
    | some val =>
      rw [hval] at hname
      simp only [GetsFrom, ← hname, Option.map_some]
      rfl
  | setValue flagname val =>
    obtain ⟨hval, var, hreq, hvar⟩ | ⟨hval, e, hreq⟩ :=
      Python.constructFlagRequest_spec flagname val
    · refine ⟨vars.set flagname var, .pyDone (.ok ()), ?_, .inl ⟨hval, rfl⟩, ?_⟩
      · rw [FlagCall.perform, Python.setValue, hreq]
        simp only [flagStub_setServerFlag]
        rfl
      · rw [flagValues_of_write rfl, ← hvar]
        exact h.set flagname var
    · refine ⟨vars, .pyDone (.error (.constructing e)), ?_, .inr ⟨hval, e, rfl⟩, hquiet rfl⟩
      rw [FlagCall.perform, Python.setValue, hreq]
      rfl
  | drop flagname =>
    have hname := h flagname
    cases hval : vars.lookup flagname with
    | none =>
      refine ⟨vars, .pyDone (.error (.checking (.valueError "no such flag"))), ?_, ?_, hquiet rfl⟩
      · rw [FlagCall.perform, Python.drop, flagStub_dropServerFlag, hval]
        rfl
      · rw [hval] at hname
        simp only [GetsFrom, ← hname, Option.map_none]
    | some val =>
      refine ⟨vars.erase flagname, .pyDone (.ok ()), ?_, ?_, ?_⟩
      · rw [FlagCall.perform, Python.drop, flagStub_dropServerFlag, hval]
        rfl
      · rw [hval] at hname
        simp only [GetsFrom, ← hname, Option.map_some]
      · rw [flagValues_of_write rfl]
        exact h.erase flagname
  | names =>
    refine ⟨vars, _, by rw [FlagCall.perform, Python.flagNames, flagStub_listServerFlags]; rfl,
      ⟨_, rfl, ?_⟩, hquiet rfl⟩
    rw [List.map_map]
    exact h.listsNames

end Shows

/-- **The server is one map from names to values for the clients of both languages.** Each call of a
run gets what the map holds that the earlier calls have made, and no call gets stuck. -/
theorem shared_flags {ord : FlagOrder} {vars : FlagMap} {log : List (FlagCall × FlagOutcome)}
    (h : (sharedFlags ord).Reachable (vars, log)) :
    Throughout (fun earlier w => GetsFrom (flagValues earlier) w) log ∧
      ∀ c, ∃ r, (sharedFlags ord).step (vars, log) c = some r := by
  have hall : vars.Shows (flagValues log) ∧
      Throughout (fun earlier w => GetsFrom (flagValues earlier) w) log := by
    refine throughout_of_recorded (fun _ _ => True)
      (I := fun vars log => FlagMap.Shows vars (flagValues log)) (fun _ => rfl) ?_ ?_ h
    · rintro vars c vars' log - hshows - - hnone
      obtain ⟨vars', o, hperform, -⟩ := hshows.perform ord c
      rw [hperform] at hnone
      cases hnone
    · rintro vars c vars' log w - hshows - hstep hw
      obtain ⟨vars'', o, hperform, hgets, hshows'⟩ := hshows.perform ord c
      simp only [hperform] at hstep hw
      obtain rfl := Option.some.inj hstep
      obtain rfl := Option.some.inj hw
      exact ⟨hgets, hshows'⟩
  refine ⟨hall.2, fun c => ?_⟩
  obtain ⟨vars', o, hperform, -⟩ := hall.1.perform ord c
  have hstep : (c.perform ord vars).map Prod.fst = some vars' := by
    rw [hperform]
    rfl
  exact ⟨(vars', _), recorded_step_eq_some_iff.mpr ⟨hstep, rfl⟩⟩

/-- A `bool` is assigned in Python and read in C++, a number is too large, and a flag is not
there. -/
def sharedFlagsTrace : List FlagCall :=
  [.setValue "ready" (.bool true), .getServerFlag 0 "ready", .setValue "ready" (.int (2 ^ 31)),
    .value "absent"]

theorem shared_flags_sharedFlagsTrace : ∃ vars log,
    (sharedFlags .entries).Reachable (vars, log) ∧ log.length = 4 ∧
      Throughout (fun earlier w => GetsFrom (flagValues earlier) w) log ∧
      ∀ c, ∃ r, (sharedFlags .entries).step (vars, log) c = some r := by
  have hrun : (((sharedFlags .entries).run (sharedFlags .entries).init
      sharedFlagsTrace).map fun r => r.2.length) = some 4 := by decide
  obtain ⟨⟨vars, log⟩, hrun, hlength⟩ := Option.map_eq_some_iff.mp hrun
  have hreach := reachable_of_run hrun
  exact ⟨vars, log, hreach, hlength, shared_flags hreach⟩

end Foxtrot
