import Foxtrot.Server.Flags

/-!
# Failed events of the completion queue

`ServerImplLegacy::HandleRpcs` takes the events of all handlers of all RPCs from one queue, logs a
warning if an event has failed, and calls `Proceed` all the same. An event fails when no request
came (the queue is shut down) or when an operation was not delivered (the client is gone).

`RpcServer` is the whole of the handlers, those that wait for their request among them, with the
state they share: the members of the logic objects, the server flags, the sessions. So a failed
event does what a successful one does. It **only releases its handler** if the status of the handler
is `FINISH`, and not otherwise (`failureReleases_iff_failsInFinish`): a handler that waits for a
request spawns its successor, which asks for another request, and runs its logic object on the
empty request, and a stream in the middle writes its next chunk.
-/

namespace Foxtrot

/-- An RPC of the server: its logic object, and a request with nothing set. -/
structure Rpc (State Env Req Reply Inv : Type) extends Logic State Env Req Reply Inv where
  emptyRequest : Req

variable {κ State Env Inv : Type} {Req Reply : κ → Type}

/-- A handler of one of the RPCs. -/
structure RpcHandler (Req Reply : κ → Type) where
  kind : κ
  status : HandlerStatus
  /-- `_newrequest`: the handler waits for its request. -/
  newrequest : Bool
  req : Req kind
  repl : Reply kind
  calls : List (ResponderCall (Reply kind))

/-- The handlers of a server, what they share, and what they have done to the devices. -/
structure RpcServer (State Inv : Type) (Req Reply : κ → Type) where
  logic : State
  handlers : List (RpcHandler Req Reply)
  invoked : List Inv

/-- An event of the completion queue. -/
structure QueueEvent (Env : Type) (Req : κ → Type) where
  /-- The tag. -/
  handler : ℕ
  ok : Bool
  /-- The request that comes with the event, if the handler waits for one. -/
  req : ∀ kind, Req kind
  env : Env

section Queue

variable (rpcs : ∀ kind : κ, Rpc State Env (Req kind) (Reply kind) Inv)

/-- A handler that has just been made: it waits for its request. -/
def newRpcHandler (kind : κ) : RpcHandler Req Reply :=
  ⟨kind, .process, true, (rpcs kind).emptyRequest, (rpcs kind).emptyReply, []⟩

/-- The handler with the request of an event, if it waits for one. A failed event brings none. -/
def RpcHandler.receive (h : RpcHandler Req Reply) (e : QueueEvent Env Req) :
    RpcHandler Req Reply :=
  if h.newrequest then { h with
    req := if e.ok then e.req h.kind else (rpcs h.kind).emptyRequest
    newrequest := false }
  else h

/-- The handler after `Proceed` has worked on its request. -/
def RpcHandler.update (h : RpcHandler Req Reply) (r : Handled State (Reply h.kind) Inv Bool) :
    RpcHandler Req Reply :=
  { h with
    repl := r.repl
    status := if r.result then .finish else .process
    calls := h.calls ++ r.calls }

/-- `HandleRpcs` takes an event. -/
def RpcServer.step (s : RpcServer State Inv Req Reply) (e : QueueEvent Env Req) :
    Option (RpcServer State Inv Req Reply) := do
  let h ← s.handlers[e.handler]?
  match h.status with
  | .process =>
    let handlers := if h.newrequest then s.handlers ++ [newRpcHandler rpcs h.kind] else s.handlers
    let h := h.receive rpcs e
    let r ← (rpcs h.kind).process s.logic e.env h.req h.repl
    return ⟨r.logic, handlers.set e.handler (h.update r), s.invoked ++ r.invoked⟩
  | .finish =>
    return { s with handlers := s.handlers.set e.handler { h with status := .deleted } }
  | .deleted => none

/-- A server with one handler for each RPC. -/
def rpcServer (logic : State) (kinds : List κ) :
    TransitionSystem (RpcServer State Inv Req Reply) (QueueEvent Env Req) where
  init := ⟨logic, kinds.map (newRpcHandler rpcs), []⟩
  step := RpcServer.step rpcs

end Queue

/-- Nothing happens but that one handler, which was there, is released: the shared state and the
devices are left alone, no operation is started, and no handler is added. -/
structure RpcServer.OnlyReleases (s : RpcServer State Inv Req Reply) (i : ℕ)
    (s' : RpcServer State Inv Req Reply) : Prop where
  logic : s'.logic = s.logic
  invoked : s'.invoked = s.invoked
  handlers : ∃ h, s.handlers[i]? = some h ∧ h.status ≠ .deleted ∧
    s'.handlers = s.handlers.set i { h with status := .deleted }

/-- A failed event of a handler that is there only releases it. -/
def FailureReleases (rpcs : ∀ kind : κ, Rpc State Env (Req kind) (Reply kind) Inv)
    (s : RpcServer State Inv Req Reply) (e : QueueEvent Env Req) : Prop :=
  e.ok = false → (∃ h, s.handlers[e.handler]? = some h ∧ h.status ≠ .deleted) →
    ∃ s', s.step rpcs e = some s' ∧ s.OnlyReleases e.handler s'

/-- A failed event does not come for a handler that is in `PROCESS`. -/
def FailsInFinish (s : RpcServer State Inv Req Reply) (e : QueueEvent Env Req) : Prop :=
  e.ok = false → ∀ h, s.handlers[e.handler]? = some h → h.status ≠ .process

section Failure

variable {rpcs : ∀ kind : κ, Rpc State Env (Req kind) (Reply kind) Inv}
  {s s' : RpcServer State Inv Req Reply} {e : QueueEvent Env Req} {h : RpcHandler Req Reply}

/-- In `FINISH`, an event releases the handler whether it has failed or not. -/
theorem RpcServer.step_of_finish (hi : s.handlers[e.handler]? = some h)
    (hstatus : h.status = .finish) : s.step rpcs e =
      some { s with handlers := s.handlers.set e.handler { h with status := .deleted } } := by
  rw [RpcServer.step, hi]
  simp only [Option.bind_eq_bind, Option.bind_some, hstatus]
  rfl

/-- In `PROCESS`, the logic object runs, and the handler stays. -/
theorem RpcServer.step_of_process (hi : s.handlers[e.handler]? = some h)
    (hstatus : h.status = .process) (hstep : s.step rpcs e = some s') :
    (∃ r, (rpcs (h.receive rpcs e).kind).process s.logic e.env (h.receive rpcs e).req
        (h.receive rpcs e).repl = some r ∧ s'.logic = r.logic ∧
        s'.invoked = s.invoked ++ r.invoked) ∧
      (h.newrequest = true → s'.handlers.length = s.handlers.length + 1) ∧
      ∃ h', s'.handlers[e.handler]? = some h' ∧ h'.status ≠ .deleted := by
  rw [RpcServer.step, hi] at hstep
  simp only [Option.bind_eq_bind, Option.bind_some, hstatus] at hstep
  obtain ⟨r, hr, hstep⟩ := Option.bind_eq_some_iff.mp hstep
  obtain rfl := Option.some.inj hstep
  have hlt : e.handler < s.handlers.length := (List.getElem?_eq_some_iff.mp hi).1
  refine ⟨⟨r, hr, rfl, rfl⟩, fun hnew => ?_, (h.receive rpcs e).update r, ?_, ?_⟩
  · simp [hnew]
  · refine List.getElem?_set_self (lt_of_lt_of_le hlt ?_)
    split <;> simp
  · change (if r.result = true then HandlerStatus.finish else .process) ≠ .deleted
    split <;> exact nofun

/-- A failed event only releases its handler unless the handler is in `PROCESS`. -/
theorem failureReleases_iff : FailureReleases rpcs s e ↔ FailsInFinish s e := by
  constructor
  · intro hrel hok h hi hprocess
    obtain ⟨s', hstep, hreleases⟩ := hrel hok ⟨h, hi, by simp [hprocess]⟩
    obtain ⟨-, -, h', hi', hstatus⟩ := RpcServer.step_of_process hi hprocess hstep
    obtain ⟨h₀, hi₀, -, hhandlers⟩ := hreleases.handlers
    have hlt : e.handler < s.handlers.length := (List.getElem?_eq_some_iff.mp hi₀).1
    rw [hhandlers, List.getElem?_set_self hlt] at hi'
    obtain rfl := Option.some.inj hi'
    exact hstatus rfl
  · rintro hfin hok ⟨h, hi, hlive⟩
    cases hstatus : h.status with
    | process => exact absurd hstatus (hfin hok h hi)
    | finish => exact ⟨_, RpcServer.step_of_finish hi hstatus, rfl, rfl, h, hi, hlive, rfl⟩
    | deleted => exact absurd hstatus hlive

/-- **Failed events only release their handlers**, in a run from any state, exactly if none of them
comes for a handler in `PROCESS`. -/
theorem failureReleases_iff_failsInFinish (logic : State) (kinds : List κ)
    (es : List (QueueEvent Env Req)) (s : RpcServer State Inv Req Reply) :
    (rpcServer rpcs logic kinds).Guarded (FailureReleases rpcs) s es ↔
      (rpcServer rpcs logic kinds).Guarded FailsInFinish s es := by
  induction es generalizing s with
  | nil => exact Iff.rfl
  | cons e es ih =>
    refine and_congr failureReleases_iff (forall_congr' fun s' => forall_congr' fun _ => ?_)
    exact ih s'

end Failure

/-- `SetServerFlag` as the only RPC of a server. -/
def setServerFlagRpc (_ : Unit) : Rpc FlagMap Unit Serverflag Serverflag Unit :=
  { setServerFlagsLogic Unit Unit with emptyRequest := .empty }

/-- **A failed event is served like a request**: when the queue is shut down, the handler that waits
for a request asks for another one, and replies to the empty request. -/
theorem failed_event_arms_request : ¬ ∀ (es : List (QueueEvent Unit fun _ : Unit => Serverflag)),
    (rpcServer setServerFlagRpc ∅ [()]).Guarded (FailureReleases setServerFlagRpc)
      (rpcServer setServerFlagRpc ∅ [()]).init es := by
  intro hall
  obtain ⟨hreleases, -⟩ := hall [⟨0, false, fun _ => .empty, ()⟩]
  have hwaits : FailsInFinish (rpcServer setServerFlagRpc ∅ [()]).init
      (⟨0, false, fun _ => .empty, ()⟩ : QueueEvent Unit fun _ : Unit => Serverflag) :=
    failureReleases_iff.mp hreleases
  exact hwaits rfl (newRpcHandler setServerFlagRpc ()) rfl rfl

end Foxtrot
