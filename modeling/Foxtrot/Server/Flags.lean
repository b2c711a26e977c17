import Foxtrot.Foundation.FiniteMap
import Foxtrot.Server.Handler

/-!
# Server flags

The named values that clients share (`FlagMap`), and the RPCs that change them, `SetServerFlag` and
`DropServerFlag` (`server/src/ServerFlagsImpl.cpp`). Their logic objects have the flag store as
their state. Both are registered as they are, **without a session check**: `check_metadata` is the
default that accepts every request.

A request without a value, and dropping a flag that is not there, are the two requests that are
refused; they leave the store as it was (`setServerFlags_process`, `dropServerFlag_process`).
-/

namespace Foxtrot

/-- `ft_std_variant`. -/
inductive FtStdVariant where
  /-- A `double`, as its bits. -/
  | double (bits : BitVec 64)
  | int (val : Int32)
  | bool (val : Bool)
  | string (val : String)
  deriving DecidableEq

/-- `serverflag`, as a request and as a reply. -/
structure Serverflag where
  err : Option Errstatus
  msgid : UInt32
  flagname : String
  arg : Option FtStdVariant
  deriving DecidableEq

/-- `FlagMap`. -/
abbrev FlagMap := AList fun _ : String => FtStdVariant

/-- `FlagMap::set`. -/
def FlagMap.set (vars : FlagMap) (flagname : String) (val : FtStdVariant) : FlagMap :=
  vars.insert flagname val

/-- `FlagMap::drop`. -/
def FlagMap.drop (vars : FlagMap) (flagname : String) : Except Thrown FlagMap :=
  if flagname ∈ vars then .ok (vars.erase flagname) else .error (.outOfRange "no such flag")

/-- The responder of the flag RPCs. -/
def serverflagResponder : Responder Serverflag where
  setReplErr repl err := { repl with err := some err }
  errcall := .finishWith

/-- A `serverflag` with nothing set. -/
def Serverflag.empty : Serverflag := ⟨none, 0, "", none⟩

section Logics

variable (Env Inv : Type)

/-- `SetServerFlagsLogic`. -/
def setServerFlagsLogic : Logic FlagMap Env Serverflag Serverflag Inv where
  responder := serverflagResponder
  emptyReply := .empty
  checkMetadata _ _ := .ok true
  handleRequest vars _ req repl :=
    let repl := { repl with msgid := req.msgid }
    match req.arg with
    | none => some (.failed serverflagResponder vars repl []
        (foxtrotRpcErrorHandling (.exception "invalid flag value type!")))
    | some var => some ⟨vars.set req.flagname var, repl, [.finishWith repl], [], .ok true⟩

/-- `DropServerFlagLogic`. -/
def dropServerFlagLogic : Logic FlagMap Env Serverflag Serverflag Inv where
  responder := serverflagResponder
  emptyReply := .empty
  checkMetadata _ _ := .ok true
  handleRequest vars _ req repl :=
    let repl := { repl with msgid := req.msgid }
    match vars.drop req.flagname with
    | .error e => some (.failed serverflagResponder vars repl [] (foxtrotRpcErrorHandling e))
    | .ok vars =>
      let repl := { repl with flagname := req.flagname }
      some ⟨vars, repl, [.finishWith repl], [], .ok true⟩

end Logics

section Specs

variable (Env Inv : Type) (vars : FlagMap) (env : Env) (req : Serverflag)

/-- `SetServerFlag` refuses a request without a value, and obeys any other. -/
theorem setServerFlags_process : ∃ r,
    (setServerFlagsLogic Env Inv).process vars env req .empty = some r ∧ r.invoked = [] ∧
      r.result = true ∧
      ((req.arg = none ∧ r.logic = vars ∧ ∃ err,
          r.calls = [.finishWith ⟨some err, req.msgid, "", none⟩]) ∨
        (∃ val, req.arg = some val ∧ r.logic = vars.set req.flagname val ∧
          r.calls = [.finishWith ⟨none, req.msgid, "", none⟩])) := by
  rw [Logic.process, setServerFlagsLogic]
  rcases harg : req.arg with _ | val <;> simp only [harg]
  · exact ⟨_, rfl, rfl, rfl, .inl ⟨trivial, rfl, _, rfl⟩⟩
  · exact ⟨_, rfl, rfl, rfl, .inr ⟨val, rfl, rfl, rfl⟩⟩

/-- `DropServerFlag` refuses to drop a flag that is not there, and drops any other. -/
theorem dropServerFlag_process : ∃ r,
    (dropServerFlagLogic Env Inv).process vars env req .empty = some r ∧ r.invoked = [] ∧
      r.result = true ∧
      ((req.flagname ∉ vars ∧ r.logic = vars ∧ ∃ err,
          r.calls = [.finishWith ⟨some err, req.msgid, "", none⟩]) ∨
        (req.flagname ∈ vars ∧ r.logic = vars.erase req.flagname ∧
          r.calls = [.finishWith ⟨none, req.msgid, req.flagname, none⟩])) := by
  rw [Logic.process, dropServerFlagLogic]
  by_cases hmem : req.flagname ∈ vars
  · have hdrop : vars.drop req.flagname = .ok (vars.erase req.flagname) := by
      rw [FlagMap.drop, if_pos hmem]
    simp only [hdrop]
    exact ⟨_, rfl, rfl, rfl, .inr ⟨hmem, rfl, rfl⟩⟩
  · have hdrop : vars.drop req.flagname = .error (.outOfRange "no such flag") := by
      rw [FlagMap.drop, if_neg hmem]
    simp only [hdrop]
    exact ⟨_, rfl, rfl, rfl, .inl ⟨hmem, rfl, _, rfl⟩⟩

end Specs

end Foxtrot
