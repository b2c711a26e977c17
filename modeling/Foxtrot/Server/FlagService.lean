import Foxtrot.Server.UnaryRpcs

/-!
# The flag service

The four RPCs of the server flags (`server/src/ServerFlagsImpl.cpp`), with the logic objects of
`GetServerFlag` and `ListServerFlags` beside those of `SetServerFlag` and `DropServerFlag`. They
share one `FlagMap`, and any client may use all of them. The server is one with a single worker
(`exptserve` runs four unless told otherwise): each request is worked on without interruption.

What the service is for: a map from names to values. `flagsAfter` reads the contents of that map off
the exchanges alone, without the state of the server: under a name is what an accepted
`SetServerFlag` has set last, unless an accepted `DropServerFlag` came after it. **Every reply is
the one of this map** (`flags_answered`), whatever the clients do, in whatever order their requests
are worked on, with failed events and the empty requests they bring among them.

`ListServerFlags` visits a hashed map, so the order of its entries is a parameter.

A handler of one of the RPCs works on a request in one step here, which is what a single worker
does. Each logic object is described by the reply to any request and the map after it (`process_…`),
from which the book of the exchanges changes as the map does (`FlagMap.Holds.set`,
`FlagMap.Holds.erase`), and the run is an induction on the exchanges.
-/

namespace Foxtrot

open Histories TransitionSystem

/-- `FlagMap::get`, which looks for the flag and then looks it up again, without the lock that `set`
and `drop` take. With one worker both are look-ups of the same map. -/
def FlagMap.get (vars : FlagMap) (flagname : String) : Except Thrown FtStdVariant :=
  if flagname ∈ vars then
    (vars.lookup flagname).elim (.error (.outOfRange "_Map_base::at")) .ok
  else .error (.outOfRange "invalid server flag")

/-- A flag that is found is also there when it is looked up again. -/
theorem FlagMap.get_eq (vars : FlagMap) (flagname : String) : vars.get flagname =
    (vars.lookup flagname).elim (.error (.outOfRange "invalid server flag")) .ok := by
  rw [FlagMap.get, if_congr AList.lookup_isSome.symm rfl rfl]
  cases vars.lookup flagname <;> rfl

/-- `server_flag_visitor`. -/
def serverFlagVisitor (flg : Serverflag) (val : FtStdVariant) : Serverflag :=
  { flg with arg := some val }

/-- `serverflaglist`. -/
structure Serverflaglist where
  err : Option Errstatus
  msgid : UInt32
  flags : List Serverflag
  deriving DecidableEq

/-- The responder of `ListServerFlags`. -/
def serverflaglistResponder : Responder Serverflaglist where
  setReplErr repl err := { repl with err := some err }
  errcall := .finishWith

/-- The iteration order of `_vars`. -/
abbrev FlagOrder := AList.VisitOrder String FtStdVariant

/-- The body of the loop of `ListServerFlags`. -/
def addFlag (repl : Serverflaglist) (item : (_ : String) × FtStdVariant) : Serverflaglist :=
  let newflag := { Serverflag.empty with flagname := item.1 }
  { repl with flags := repl.flags ++ [serverFlagVisitor newflag item.2] }

section Logics

variable (Env Inv : Type)

/-- `GetServerFlagsLogic`. -/
def getServerFlagsLogic : Logic FlagMap Env Serverflag Serverflag Inv where
  responder := serverflagResponder
  emptyReply := .empty
  checkMetadata _ _ := .ok true
  handleRequest vars _ req repl :=
    let repl := { repl with msgid := req.msgid }
    match vars.get req.flagname with
    | .error e => some (.failed serverflagResponder vars repl [] (foxtrotRpcErrorHandling e))
    | .ok val =>
      let repl := serverFlagVisitor { repl with flagname := req.flagname } val
      some ⟨vars, repl, [.finishWith repl], [], .ok true⟩

/-- `ListServerFlagsLogic`. The id of the message is not set. -/
def listServerFlagsLogic (ord : FlagOrder) : Logic FlagMap Env Unit Serverflaglist Inv where
  responder := serverflaglistResponder
  emptyReply := ⟨none, 0, []⟩
  checkMetadata _ _ := .ok true
  handleRequest vars _ _ repl :=
    let repl := (ord.visit vars).foldl addFlag repl
    some ⟨vars, repl, [.finishWith repl], [], .ok true⟩

end Logics

/-! ### The service -/

/-- The RPCs of the service `flags`. -/
inductive FlagRpc where
  | setServerFlag
  | getServerFlag
  | listServerFlags
  | dropServerFlag
  deriving DecidableEq

/-- The message with a request. -/
abbrev FlagRpc.Req : FlagRpc → Type
  | .setServerFlag | .getServerFlag | .dropServerFlag => Serverflag
  | .listServerFlags => Unit

/-- The message with a reply. -/
abbrev FlagRpc.Reply : FlagRpc → Type
  | .setServerFlag | .getServerFlag | .dropServerFlag => Serverflag
  | .listServerFlags => Serverflaglist

/-- The logic objects that `setup_common` registers. -/
def flagRpcs (Env Inv : Type) (ord : FlagOrder) :
    ∀ kind : FlagRpc, Rpc FlagMap Env kind.Req kind.Reply Inv
  | .setServerFlag => { setServerFlagsLogic Env Inv with emptyRequest := .empty }
  | .getServerFlag => { getServerFlagsLogic Env Inv with emptyRequest := .empty }
  | .listServerFlags => { listServerFlagsLogic Env Inv ord with emptyRequest := () }
  | .dropServerFlag => { dropServerFlagLogic Env Inv with emptyRequest := .empty }

/-- A request with what was sent for it. -/
abbrev FlagExchange (Env : Type) := Exchange Env FlagRpc.Req FlagRpc.Reply

/-- The flag service, with its exchanges. -/
def flagService (Env Inv : Type) (ord : FlagOrder) :
    TransitionSystem (RpcServer FlagMap Inv FlagRpc.Req FlagRpc.Reply × List (FlagExchange Env))
      (QueueEvent Env FlagRpc.Req) :=
  recordedServer (flagRpcs Env Inv ord) ∅
    [.setServerFlag, .getServerFlag, .listServerFlags, .dropServerFlag]

/-! ### The map that the clients see -/

/-- A reply without an error was sent. -/
def accepted (calls : List (ResponderCall Serverflag)) : Bool :=
  calls.any fun call =>
    match call with
    | .finishWith repl => repl.err.isNone
    | .write _ | .finish => false

/-- What an exchange puts under a name: a value, or nothing. -/
def flagWrite {Env : Type} : FlagExchange Env → Option (String × Option FtStdVariant)
  | ⟨.setServerFlag, req, _, calls⟩ =>
    if accepted calls then some (req.flagname, req.arg) else none
  | ⟨.dropServerFlag, req, _, calls⟩ =>
    if accepted calls then some (req.flagname, none) else none
  | ⟨.getServerFlag, _, _, _⟩ | ⟨.listServerFlags, _, _, _⟩ => none

/-- What is under each name after these exchanges. -/
def flagsAfter {Env : Type} (log : List (FlagExchange Env)) (name : String) :
    Option FtStdVariant :=
  (lastWritten flagWrite log name).join

/-- The exchange of a map with these contents. -/
def AnswersAs {Env : Type} (contents : String → Option FtStdVariant) : FlagExchange Env → Prop
  | ⟨.setServerFlag, req, _, calls⟩ =>
    calls = [.finishWith (match req.arg with
      | some _ => ⟨none, req.msgid, "", none⟩
      | none => ⟨some ⟨.ftError, "invalid flag value type!"⟩, req.msgid, "", none⟩)]
  | ⟨.getServerFlag, req, _, calls⟩ =>
    calls = [.finishWith (match contents req.flagname with
      | some val => ⟨none, req.msgid, req.flagname, some val⟩
      | none => ⟨some ⟨.outOfRange, "invalid server flag"⟩, req.msgid, "", none⟩)]
  | ⟨.dropServerFlag, req, _, calls⟩ =>
    calls = [.finishWith (match contents req.flagname with
      | some _ => ⟨none, req.msgid, req.flagname, none⟩
      | none => ⟨some ⟨.outOfRange, "no such flag"⟩, req.msgid, "", none⟩)]
  | ⟨.listServerFlags, _, _, calls⟩ => ∃ flags : List Serverflag,
    calls = [.finishWith ⟨none, 0, flags⟩] ∧ (flags.map Serverflag.flagname).Nodup ∧
      ∀ name val, ⟨none, 0, name, some val⟩ ∈ flags ↔ contents name = some val

section Answers

variable {Env Inv : Type} {ord : FlagOrder} {vars : FlagMap} {env : Env}

/-- The map has the contents. -/
def FlagMap.Holds (vars : FlagMap) (contents : String → Option FtStdVariant) : Prop :=
  ∀ name, vars.lookup name = contents name

/-! ### What the logic objects do -/

/-- A flag is set to the argument of its request. -/
theorem process_setServerFlag (req : Serverflag) :
    (setServerFlagsLogic Env Inv).process vars env req .empty = some (match req.arg with
      | some val =>
        let repl := ⟨none, req.msgid, "", none⟩
        ⟨vars.set req.flagname val, repl, [.finishWith repl], [], true⟩
      | none =>
        let repl := ⟨some ⟨.ftError, "invalid flag value type!"⟩, req.msgid, "", none⟩
        ⟨vars, repl, [.finishWith repl], [], true⟩) := by
  unfold Logic.process setServerFlagsLogic
  cases harg : req.arg <;> simp only [harg] <;> rfl

/-- A flag is returned, or that there is none. -/
theorem process_getServerFlag (req : Serverflag) :
    (getServerFlagsLogic Env Inv).process vars env req .empty = some (
      let repl := match vars.lookup req.flagname with
        | some val => ⟨none, req.msgid, req.flagname, some val⟩
        | none => ⟨some ⟨.outOfRange, "invalid server flag"⟩, req.msgid, "", none⟩
      ⟨vars, repl, [.finishWith repl], [], true⟩) := by
  unfold Logic.process getServerFlagsLogic
  cases hval : vars.lookup req.flagname <;> simp only [FlagMap.get_eq, hval] <;> rfl

/-- A flag is dropped, or there is none. -/
theorem process_dropServerFlag (req : Serverflag) :
    (dropServerFlagLogic Env Inv).process vars env req .empty = some (
      match vars.lookup req.flagname with
      | some _ =>
        let repl := ⟨none, req.msgid, req.flagname, none⟩
        ⟨vars.erase req.flagname, repl, [.finishWith repl], [], true⟩
      | none =>
        let repl := ⟨some ⟨.outOfRange, "no such flag"⟩, req.msgid, "", none⟩
        ⟨vars, repl, [.finishWith repl], [], true⟩) := by
  unfold Logic.process dropServerFlagLogic
  cases hval : vars.lookup req.flagname with
  | none =>
    have hdrop : vars.drop req.flagname = .error (.outOfRange "no such flag") :=
      if_neg (AList.lookup_eq_none.mp hval)
    simp only [hdrop]
    rfl
  | some val =>
    have hdrop : vars.drop req.flagname = .ok (vars.erase req.flagname) :=
      if_pos (AList.mem_of_lookup hval)
    simp only [hdrop]
    rfl

private theorem foldl_addFlag (items : List ((_ : String) × FtStdVariant)) (repl : Serverflaglist) :
    items.foldl addFlag repl = { repl with
      flags := repl.flags ++ items.map fun item => ⟨none, 0, item.1, some item.2⟩ } := by
  induction items generalizing repl with
  | nil => simp
  | cons item items ih =>
    rw [List.foldl_cons, ih]
    simp [addFlag, serverFlagVisitor, Serverflag.empty]

/-- All flags are listed. -/
theorem process_listServerFlags (req : Unit) :
    (listServerFlagsLogic Env Inv ord).process vars env req ⟨none, 0, []⟩ = some (
      let repl := ⟨none, 0, (ord.visit vars).map fun item => ⟨none, 0, item.1, some item.2⟩⟩
      ⟨vars, repl, [.finishWith repl], [], true⟩) := by
  have hfold := foldl_addFlag (ord.visit vars) ⟨none, 0, []⟩
  rw [List.nil_append] at hfold
  rw [← hfold]
  rfl

private theorem finishAtOnce_flagRpcs : FinishAtOnce (flagRpcs Env Inv ord) := by
  rintro (_ | _ | _ | _) vars env req r hr
  · obtain rfl := Option.some.inj ((process_setServerFlag req).symm.trans hr)
    dsimp only
    split <;> rfl
  · obtain rfl := Option.some.inj ((process_getServerFlag req).symm.trans hr)
    rfl
  · obtain rfl := Option.some.inj ((process_listServerFlags req).symm.trans hr)
    rfl
  · obtain rfl := Option.some.inj ((process_dropServerFlag req).symm.trans hr)
    dsimp only
    split <;> rfl

/-! ### The contents and the exchanges -/

variable {log : List (FlagExchange Env)} {w : FlagExchange Env} {name : String}

/-- A request that writes changes what is under its name. -/
private theorem flagsAfter_of_write {val : Option FtStdVariant}
    (h : flagWrite w = some (name, val)) :
    flagsAfter (log ++ [w]) = Function.update (flagsAfter log) name val := by
  funext name'
  rw [flagsAfter, lastWritten_concat_of_some h, Function.update_apply, Function.update_apply]
  split <;> rfl

private theorem flagsAfter_of_no_write (h : flagWrite w = none) :
    flagsAfter (log ++ [w]) = flagsAfter log := by
  funext name
  rw [flagsAfter, lastWritten_concat_of_none h]
  rfl

/-- A flag that is set holds its value. -/
theorem FlagMap.Holds.set {contents : String → Option FtStdVariant} (h : vars.Holds contents)
    (val : FtStdVariant) :
    FlagMap.Holds (vars.set name val) (Function.update contents name (some val)) := by
  intro name'
  rw [FlagMap.set, AList.lookup_insert_ite, Function.update_apply, h name']

/-- A flag that is dropped holds none. -/
theorem FlagMap.Holds.erase {contents : String → Option FtStdVariant} (h : vars.Holds contents) :
    FlagMap.Holds (vars.erase name) (Function.update contents name none) := by
  intro name'
  rw [AList.lookup_erase_ite, Function.update_apply, h name']

/-- The list has one entry for each flag. -/
theorem FlagMap.Holds.answers_list {contents : String → Option FtStdVariant}
    (h : vars.Holds contents) :
    AnswersAs contents ⟨.listServerFlags, (), env, [.finishWith
      ⟨none, 0, (ord.visit vars).map fun item => ⟨none, 0, item.1, some item.2⟩⟩]⟩ := by
  refine ⟨_, rfl, ?_, fun name val => ?_⟩
  · have hkeys : (vars.entries.map Sigma.fst).Nodup := vars.nodupKeys
    have hperm := (ord.visit_perm vars).map Sigma.fst
    rw [List.map_map]
    exact hperm.nodup_iff.mpr hkeys
  · rw [← h name, ← AList.mk_mem_entries_iff, ← (ord.visit_perm vars).mem_iff, List.mem_map]
    constructor
    · rintro ⟨⟨name', val'⟩, hmem, heq⟩
      obtain ⟨rfl, hval⟩ : name' = name ∧ val' = val := by simpa using heq
      exact hval ▸ hmem
    · exact fun hmem => ⟨⟨name, val⟩, hmem, rfl⟩

/-- One request: the reply is the one of the map, and the contents stay those that the exchanges
say. -/
theorem FlagMap.Holds.serve (h : vars.Holds (flagsAfter log)) {kind : FlagRpc} {req : kind.Req}
    {r : Handled FlagMap kind.Reply Inv Bool}
    (hr : (flagRpcs Env Inv ord kind).process vars env req (flagRpcs Env Inv ord kind).emptyReply =
      some r) :
    AnswersAs (flagsAfter log) ⟨kind, req, env, r.calls⟩ ∧
      FlagMap.Holds r.logic (flagsAfter (log ++ [⟨kind, req, env, r.calls⟩])) := by
  cases kind with
  | setServerFlag =>
    have hprocess := (process_setServerFlag req).symm.trans hr
    cases harg : req.arg with
    | none =>
      rw [harg] at hprocess
      obtain rfl := Option.some.inj hprocess
      rw [flagsAfter_of_no_write rfl]
      exact ⟨by simp only [AnswersAs, harg], h⟩
    | some val =>
      rw [harg] at hprocess
      obtain rfl := Option.some.inj hprocess
      -- only a set with a value and a drop of a flag that is there write
      have hwrite : flagWrite ⟨.setServerFlag, req, env,
          [.finishWith ⟨none, req.msgid, "", none⟩]⟩ = some (req.flagname, some val) := by
        rw [← harg]
        rfl
      rw [flagsAfter_of_write hwrite]
      exact ⟨by simp only [AnswersAs, harg], h.set val⟩
  | getServerFlag =>
    obtain rfl := Option.some.inj ((process_getServerFlag req).symm.trans hr)
    rw [flagsAfter_of_no_write rfl]
    exact ⟨by simp only [AnswersAs, h req.flagname], h⟩
  | listServerFlags =>
    obtain rfl := Option.some.inj ((process_listServerFlags req).symm.trans hr)
    rw [flagsAfter_of_no_write rfl]
    exact ⟨h.answers_list, h⟩
  | dropServerFlag =>
    have hprocess := (process_dropServerFlag req).symm.trans hr
    cases hval : vars.lookup req.flagname with
    | none =>
      rw [hval] at hprocess
      obtain rfl := Option.some.inj hprocess
      rw [flagsAfter_of_no_write rfl]
      exact ⟨by simp only [AnswersAs, ← h req.flagname, hval], h⟩
    | some val =>
      rw [hval] at hprocess
      obtain rfl := Option.some.inj hprocess
      have hwrite : flagWrite ⟨.dropServerFlag, req, env,
          [.finishWith ⟨none, req.msgid, req.flagname, none⟩]⟩ = some (req.flagname, none) := rfl
      rw [flagsAfter_of_write hwrite]
      exact ⟨by simp only [AnswersAs, ← h req.flagname, hval], h.erase⟩

end Answers

/-- **The flag service is a map from names to values.** In every run, each exchange is that of the
map whose contents the earlier exchanges say, and the flags of the server are its contents. -/
theorem flags_answered {Env Inv : Type} {ord : FlagOrder}
    {s : RpcServer FlagMap Inv FlagRpc.Req FlagRpc.Reply} {log : List (FlagExchange Env)}
    (h : (flagService Env Inv ord).Reachable (s, log)) :
    s.logic.Holds (flagsAfter log) ∧
      Throughout (fun earlier w => AnswersAs (flagsAfter earlier) w) log :=
  throughout_exchanges (I := fun vars log => FlagMap.Holds vars (flagsAfter log))
    finishAtOnce_flagRpcs (fun _ => rfl) (fun _ _ _ _ _ _ hI hr => hI.serve hr) h

/-- A request about a flag arrives at a handler. -/
def flagEvent (handler : ℕ) (req : Serverflag) : QueueEvent Unit FlagRpc.Req where
  handler := handler
  ok := true
  req
    | .setServerFlag | .getServerFlag | .dropServerFlag => req
    | .listServerFlags => ()
  env := ()

/-- A flag is set, read, dropped, and asked for again by a handler that came up in between. -/
def flagTrace : List (QueueEvent Unit FlagRpc.Req) :=
  [flagEvent 0 ⟨none, 1, "limit", some (.int 5)⟩, flagEvent 1 ⟨none, 2, "limit", none⟩,
    flagEvent 3 ⟨none, 3, "limit", none⟩, flagEvent 5 ⟨none, 4, "limit", none⟩]

theorem flags_answered_flagTrace : ∃ s log, (flagService Unit Unit .entries).Reachable (s, log) ∧
    log.length = 4 ∧ FlagMap.Holds s.logic (flagsAfter log) ∧
      Throughout (fun earlier w => AnswersAs (flagsAfter earlier) w) log := by
  have hrun : (((flagService Unit Unit .entries).run (flagService Unit Unit .entries).init
      flagTrace).map fun r => r.2.length) = some 4 := by decide
  obtain ⟨⟨s, log⟩, hrun, hlength⟩ := Option.map_eq_some_iff.mp hrun
  have hreach := reachable_of_run hrun
  exact ⟨s, log, hreach, hlength, flags_answered hreach⟩

end Foxtrot
