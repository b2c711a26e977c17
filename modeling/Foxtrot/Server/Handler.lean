import Foxtrot.Foundation.Text
import Foxtrot.Foundation.TransitionSystem

/-!
# Request handlers

`HandlerBase` (`server/include/exptserve/HandlerBase.h`) drives one request: the completion queue
calls `Proceed` when the request has arrived, and again each time a call on its responder has
completed. The work is done by a *logic* object with `check_metadata` and `HandleRequest`; an
exception that leaves one of them becomes an error reply (`foxtrot_rpc_error_handling`). **All
handlers of an RPC share one logic object.**

`Logic` is such an object for one RPC: what it does to its state, to the reply under
construction, on the responder and to the devices. `Logic.process` is the branch of `Proceed`
that works on a request. A `Service` is the logic object with the handlers that have a request;
the handler that waits for the next one has no state of its own, so it is not listed.

`Proceed` does not look at whether the completed call succeeded (`HandleRpcs` logs the flag and
goes on), so the handler of a client that went away is driven like any other.
-/

namespace Foxtrot

/-! ### Errors -/

/-- `error_types`. -/
inductive ErrorTypes where
  | ftError
  | ftDeviceError
  | ftProtocolError
  | outOfRange
  | unknownError
  | contentionTimeout
  | ftServerError
  | ftAuthError
  deriving DecidableEq

/-- `errstatus`. -/
structure Errstatus where
  tp : ErrorTypes
  msg : String
  deriving DecidableEq

/-- A thrown exception, by the clause of `foxtrot_rpc_error_handling` that catches it. -/
inductive Thrown where
  | deviceError (what : String)
  | protocolError (what : String)
  | contentionError (what : String)
  | serverError (what : String)
  | outOfRange (what : String)
  /-- Another `std::exception`. -/
  | exception (what : String)
  /-- Not a `std::exception`. -/
  | unspecified
  deriving DecidableEq

/-- `foxtrot_rpc_error_handling`: the error that the reply carries. -/
def foxtrotRpcErrorHandling : Thrown → Errstatus
  | .deviceError what => ⟨.ftDeviceError, what⟩
  | .protocolError what => ⟨.ftProtocolError, what⟩
  | .contentionError what => ⟨.contentionTimeout, what⟩
  | .serverError what => ⟨.ftServerError, what⟩
  | .outOfRange what => ⟨.outOfRange, what⟩
  | .exception what => ⟨.ftError, what⟩
  | .unspecified => ⟨.unknownError, "unknown error"⟩

/-- `catch (std::runtime_error& err) { throw err; }`: the exception is sliced. -/
def Thrown.sliceRuntimeError : Thrown → Thrown
  | .deviceError what | .protocolError what | .contentionError what | .serverError what =>
    .exception what
  | e => e

/-- `catch (std::logic_error& err) { throw err; }`: the exception is sliced. -/
def Thrown.sliceLogicError : Thrown → Thrown
  | .outOfRange what => .exception what
  | e => e

/-- What `std::stoi`, `std::stoul` and `std::stod` throw. -/
def thrownByNumber (function : String) : Text.NumberError → Thrown
  | .invalidArgument => .exception function
  | .outOfRange => .outOfRange function

/-! ### Logic objects -/

/-- A call on a responder that starts an operation of the completion queue. -/
inductive ResponderCall (Reply : Type) where
  /-- `ServerAsyncWriter::Write`. -/
  | write (repl : Reply)
  /-- `ServerAsyncWriter::Finish`. -/
  | finish
  /-- `ServerAsyncResponseWriter::Finish`. -/
  | finishWith (repl : Reply)
  deriving DecidableEq

/-- How an RPC replies with an error: where the error stands in the reply (`set_repl_err`), and
the call that sends the reply (`responder_error_call`). -/
structure Responder (Reply : Type) where
  setReplErr : Reply → Errstatus → Reply
  errcall : Reply → ResponderCall Reply

/-- What a function that handles a request did: the state of the logic object, the reply, the
calls on the responder and the device invocations it made, and what it returned. -/
structure Handled (State Reply Inv Result : Type) where
  logic : State
  repl : Reply
  calls : List (ResponderCall Reply)
  invoked : List Inv
  result : Result

/-- A logic object. `handleRequest` has no outcome when the process dies in it. -/
structure Logic (State Env Req Reply Inv : Type) where
  responder : Responder Reply
  /-- A handler's reply before it has handled anything. -/
  emptyReply : Reply
  checkMetadata : Env → Req → Except Thrown Bool
  handleRequest : State → Env → Req → Reply → Option (Handled State Reply Inv (Except Thrown Bool))

variable {State Env Req Reply Inv : Type}

/-- An error reply is sent, and the function returns `true`. -/
def Handled.failed (responder : Responder Reply) (logic : State) (repl : Reply)
    (invoked : List Inv) (err : Errstatus) : Handled State Reply Inv (Except Thrown Bool) :=
  let repl := responder.setReplErr repl err
  ⟨logic, repl, [responder.errcall repl], invoked, .ok true⟩

/-- The handler of exceptions in `Proceed`: the request is finished with an error reply. -/
def Handled.caught (responder : Responder Reply)
    (h : Handled State Reply Inv (Except Thrown Bool)) : Handled State Reply Inv Bool :=
  match h.result with
  | .ok finished => { h with result := finished }
  | .error e =>
    let repl := responder.setReplErr h.repl (foxtrotRpcErrorHandling e)
    { h with repl, calls := h.calls ++ [responder.errcall repl], result := true }

/-- `HandlerBase::Proceed` on a request: the result is whether the request is finished. -/
def Logic.process (L : Logic State Env Req Reply Inv) (logic : State) (env : Env) (req : Req)
    (repl : Reply) : Option (Handled State Reply Inv Bool) :=
  match L.checkMetadata env req with
  | .ok true => (L.handleRequest logic env req repl).map (Handled.caught L.responder)
  | .ok false => some ⟨logic, repl, [], [], true⟩
  | .error e => some (Handled.caught L.responder ⟨logic, repl, [], [], .error e⟩)

/-! ### Services -/

/-- The status of a handler that has a request. -/
inductive HandlerStatus where
  | process
  | finish
  | deleted
  deriving DecidableEq

/-- A handler with its request, and what it has done so far on its responder and to the devices.
`env` records what the request met when it arrived. -/
structure HandlerBase (Env Req Reply Inv : Type) where
  req : Req
  env : Env
  repl : Reply
  status : HandlerStatus
  calls : List (ResponderCall Reply)
  invoked : List Inv

/-- The logic object of an RPC, and the handlers in the order in which their requests arrived. -/
structure Service (State Env Req Reply Inv : Type) where
  logic : State
  handlers : List (HandlerBase Env Req Reply Inv)

/-- An event of the completion queue. -/
inductive ServiceLabel (Env Req : Type) where
  /-- A request arrives at the handler that waits for it. -/
  | arrive (req : Req) (env : Env)
  /-- A call of a handler has completed, successfully or not. -/
  | proceed (i : ℕ) (ok : Bool) (env : Env)

/-- The handler after `Proceed`. -/
def HandlerBase.update (h : HandlerBase Env Req Reply Inv) (r : Handled State Reply Inv Bool) :
    HandlerBase Env Req Reply Inv :=
  { h with
    repl := r.repl
    status := if r.result then .finish else .process
    calls := h.calls ++ r.calls
    invoked := h.invoked ++ r.invoked }

/-- A handler that a request has just arrived at. -/
def Logic.newHandler (L : Logic State Env Req Reply Inv) (req : Req) (env : Env) :
    HandlerBase Env Req Reply Inv :=
  ⟨req, env, L.emptyReply, .process, [], []⟩

/-- One event of the completion queue. -/
def Logic.step (L : Logic State Env Req Reply Inv) (s : Service State Env Req Reply Inv) :
    ServiceLabel Env Req → Option (Service State Env Req Reply Inv)
  | .arrive req env => do
    let r ← L.process s.logic env req L.emptyReply
    return ⟨r.logic, s.handlers ++ [(L.newHandler req env).update r]⟩
  -- the flag of the completed call is not looked at
  | .proceed i _ env => do
    let h ← s.handlers[i]?
    match h.status with
    | .process =>
      let r ← L.process s.logic env h.req h.repl
      return ⟨r.logic, s.handlers.set i (h.update r)⟩
    | .finish => return { s with handlers := s.handlers.set i { h with status := .deleted } }
    | .deleted => none

/-- The service of a logic object made in this state. -/
def Logic.service (L : Logic State Env Req Reply Inv) (logic : State) :
    TransitionSystem (Service State Env Req Reply Inv) (ServiceLabel Env Req) where
  init := ⟨logic, []⟩
  step := L.step

/-! ### Steps -/

section Steps

variable {L : Logic State Env Req Reply Inv} {s s' : Service State Env Req Reply Inv}

/-- A request arrives at a new handler, which works on it. -/
theorem Logic.step_arrive {req : Req} {env : Env} : L.step s (.arrive req env) = some s' ↔
    ∃ r, L.process s.logic env req L.emptyReply = some r ∧
      s' = ⟨r.logic, s.handlers ++ [(L.newHandler req env).update r]⟩ := by
  refine Option.bind_eq_some_iff.trans (exists_congr fun r => and_congr_right fun _ => ?_)
  exact Option.some_inj.trans eq_comm

/-- A completed call makes its handler work on, or deletes it. -/
theorem Logic.step_proceed {i : ℕ} {ok : Bool} {env : Env}
    (hstep : L.step s (.proceed i ok env) = some s') : ∃ h, s.handlers[i]? = some h ∧
      ((h.status = .process ∧ ∃ r, L.process s.logic env h.req h.repl = some r ∧
          s' = ⟨r.logic, s.handlers.set i (h.update r)⟩) ∨
        (h.status = .finish ∧
          s' = { s with handlers := s.handlers.set i { h with status := .deleted } })) := by
  obtain ⟨h, hi, hstep⟩ := Option.bind_eq_some_iff.mp hstep
  refine ⟨h, hi, ?_⟩
  rcases hstatus : h.status with _ | _ | _ <;> simp only [hstatus] at hstep
  · obtain ⟨r, hr, hs'⟩ := Option.bind_eq_some_iff.mp hstep
    exact .inl ⟨rfl, r, hr, (Option.some.inj hs').symm⟩
  · exact .inr ⟨rfl, (Option.some.inj hstep).symm⟩
  · cases hstep

/-- A handler in `PROCESS` works on. -/
theorem Logic.step_proceed_of_process {i : ℕ} (ok : Bool) {env : Env}
    {h : HandlerBase Env Req Reply Inv} {r : Handled State Reply Inv Bool}
    (hi : s.handlers[i]? = some h) (hstatus : h.status = .process)
    (hr : L.process s.logic env h.req h.repl = some r) :
    L.step s (.proceed i ok env) = some ⟨r.logic, s.handlers.set i (h.update r)⟩ := by
  simp [Logic.step, hi, hstatus, hr]

end Steps

end Foxtrot
