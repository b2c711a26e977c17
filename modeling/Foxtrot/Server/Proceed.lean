import Foxtrot.Server.FetchData
import Foxtrot.Server.Flags
import Foxtrot.Server.InvokeCapability
import Mathlib.Algebra.BigOperators.Group.Finset.Basic
import Mathlib.Logic.Function.Basic

/-!
# The threads in a handler

`HandlerBase::Proceed` is called when a handler is made and then by the thread that takes the
event of the operation the handler has started. The event can be there, and be taken by another
thread, **as soon as the operation is started**, while `Proceed` is still running. `Proceed` looks
at `_status` before it takes the mutex of the handler and once more with the mutex; the mutex is
released before it returns. With the status `FINISH` it deletes the handler, without the mutex.

`Handling` is one handler with the calls of `Proceed` in it, one for each thread of `ι` at most.
What the logic object does in a call is a `Behaviour`: it starts one operation and goes on or is
done, or it fails and an error reply is sent (`foxtrot_server_specific_error` or
`foxtrot_rpc_error_handling`), or `check_metadata` refuses the request and nothing is sent. The
logic objects behave so (`fetchDataLogic_behaves` and the like).
-/

namespace Foxtrot

/-- The two kinds of responders. -/
inductive ResponderKind where
  /-- `ServerAsyncResponseWriter`. -/
  | unary
  /-- `ServerAsyncWriter`. -/
  | stream
  deriving DecidableEq

/-- An operation that a handler starts with its own tag. -/
inductive HandlerOp where
  /-- `requestfunptr`: the handler asks for a request. -/
  | request
  | write
  | finish
  deriving DecidableEq

/-- What the logic object does in one call of `Proceed`. -/
inductive Behaviour where
  /-- A chunk is written, and the request is not finished. -/
  | goesOn
  /-- The request is finished. -/
  | completes
  /-- The request ends with an error. -/
  | fails
  /-- `check_metadata` returns `false`. -/
  | rejects
  deriving DecidableEq

/-- The operation by which an error is sent (`responder_error_call`). -/
def ResponderKind.errcall : ResponderKind → HandlerOp
  | .unary => .finish
  | .stream => .write

/-- The operations that are started, and whether the status becomes `FINISH`. -/
def Behaviour.outcome (kind : ResponderKind) : Behaviour → List HandlerOp × Bool
  | .goesOn => ([.write], false)
  | .completes => ([.finish], true)
  | .fails => ([kind.errcall], true)
  | .rejects => ([], true)

/-- `status`; `IN_FLIGHT` is not used. -/
inductive ProceedStatus where
  | create
  | process
  | finish
  deriving DecidableEq

/-- Where a call of `Proceed` stands. -/
inductive ProceedPc where
  /-- The thread is not in the handler. -/
  | idle
  /-- Called, about to look at `_status`. -/
  | called
  /-- About to take the mutex. -/
  | entering
  /-- With the mutex, about to look at `_status` again. -/
  | locked
  /-- In the logic object. -/
  | working
  /-- The logic object has returned, `_status` is about to be set. -/
  | worked (finished : Bool)
  /-- About to release the mutex and return. -/
  | leaving
  /-- About to delete the handler. -/
  | deleting
  deriving DecidableEq

/-- A handler with the calls of `Proceed` in it. -/
structure Handling (ι : Type) where
  kind : ResponderKind
  pc : ι → ProceedPc
  status : ProceedStatus
  /-- `_newrequest`. -/
  newrequest : Bool
  /-- The operations started so far. -/
  ops : List HandlerOp
  /-- How many operations have been started whose event has not been taken. -/
  outstanding : ℕ
  /-- How many handlers have been spawned. -/
  spawned : ℕ
  /-- How often the handler has been deleted. -/
  deleted : ℕ

/-- A step of a thread. -/
inductive ProceedLabel (ι : Type) where
  /-- An event of the handler is taken, and `Proceed` is called. -/
  | take (t : ι)
  /-- `_status` is looked at without the mutex. -/
  | read (t : ι)
  /-- The mutex is taken. -/
  | lock (t : ι)
  /-- `_status` is looked at with the mutex. -/
  | look (t : ι)
  | work (t : ι) (b : Behaviour)
  /-- `_status` is set. -/
  | set (t : ι)
  | leave (t : ι)
  | delete (t : ι)

/-- The thread of a step. -/
def ProceedLabel.thread {ι : Type} : ProceedLabel ι → ι
  | .take t | .read t | .lock t | .look t | .work t _ | .set t | .leave t | .delete t => t

/-- The call has the mutex. -/
def ProceedPc.holds : ProceedPc → Bool
  | .locked | .working | .worked _ | .leaving => true
  | .idle | .called | .entering | .deleting => false

namespace Handling

variable {ι : Type} [DecidableEq ι]

/-- A call goes on. -/
def setPc (s : Handling ι) (t : ι) (pc : ProceedPc) : Handling ι :=
  { s with pc := Function.update s.pc t pc }

/-- Operations are started. -/
def start (s : Handling ι) (ops : List HandlerOp) : Handling ι :=
  { s with ops := s.ops ++ ops, outstanding := s.outstanding + ops.length }

/-- One step of a thread. -/
def step [Fintype ι] (s : Handling ι) : ProceedLabel ι → Option (Handling ι)
  | .take t =>
    if s.pc t = .idle ∧ 0 < s.outstanding then
      some ({ s with outstanding := s.outstanding - 1 }.setPc t .called)
    else none
  | .read t =>
    match s.pc t with
    | .called => some (s.setPc t (if s.status = .finish then .deleting else .entering))
    | _ => none
  | .lock t =>
    if s.pc t = .entering ∧ ∀ t', (s.pc t').holds = false then some (s.setPc t .locked) else none
  | .look t =>
    match s.pc t with
    | .locked =>
      match s.status with
      | .create => some (({ s with status := .process }.start [.request]).setPc t .leaving)
      | .process =>
        some ({ s with
          newrequest := false
          spawned := if s.newrequest then s.spawned + 1 else s.spawned }.setPc t .working)
      | .finish => some (s.setPc t .leaving)
    | _ => none
  | .work t b =>
    -- the responder of a unary call has no `Write`
    if s.pc t = .working ∧ (b = .goesOn → s.kind = .stream) then
      some ((s.start (b.outcome s.kind).1).setPc t (.worked (b.outcome s.kind).2))
    else none
  | .set t =>
    match s.pc t with
    | .worked finished =>
      some ({ s with status := if finished then .finish else .process }.setPc t .leaving)
    | _ => none
  | .leave t =>
    match s.pc t with
    | .leaving => some (s.setPc t .idle)
    | _ => none
  | .delete t =>
    match s.pc t with
    | .deleting => some ({ s with deleted := s.deleted + 1 }.setPc t .idle)
    | _ => none

end Handling

/-- A handler that is being made by a thread: its constructor calls `Proceed`. -/
def proceedSystem (ι : Type) [DecidableEq ι] [Fintype ι] (kind : ResponderKind) (creator : ι) :
    TransitionSystem (Handling ι) (ProceedLabel ι) where
  init := ⟨kind, Function.update (fun _ => .idle) creator .called, .create, true, [], 0, 0, 0⟩
  step := Handling.step

/-! ### The logic objects -/

/-- The operation that a call on a responder starts. -/
def ResponderCall.op {Reply : Type} : ResponderCall Reply → HandlerOp
  | .write _ => .write
  | .finish | .finishWith _ => .finish

/-- Whatever the logic object does in `Proceed` is one of the behaviours. -/
def Logic.Behaves {State Env Req Reply Inv : Type} (L : Logic State Env Req Reply Inv)
    (kind : ResponderKind) : Prop :=
  ∀ logic env req repl r, L.process logic env req repl = some r →
    ∃ b : Behaviour, (b = .goesOn → kind = .stream) ∧
      (r.calls.map ResponderCall.op, r.result) = b.outcome kind

section Behaves

variable {State Env Req Reply Inv Ty Arg Value Wire : Type}

/-- A logic object behaves if its `HandleRequest` does, up to exceptions, and replies with errors
as its responder does. -/
theorem Logic.behaves_of_handleRequest {L : Logic State Env Req Reply Inv} {kind : ResponderKind}
    (herr : ∀ repl, (L.responder.errcall repl).op = kind.errcall)
    (h : ∀ logic env req repl r, L.handleRequest logic env req repl = some r →
      (∃ e, r.result = .error e ∧ r.calls = []) ∨
        ∃ finished, r.result = .ok finished ∧ ∃ b : Behaviour, (b = .goesOn → kind = .stream) ∧
          (r.calls.map ResponderCall.op, finished) = b.outcome kind) : L.Behaves kind := by
  intro logic env req repl r hr
  rw [Logic.process] at hr
  split at hr
  · obtain ⟨r', hr', rfl⟩ := Option.map_eq_some_iff.mp hr
    obtain ⟨e, hres, hcalls⟩ | ⟨finished, hres, b, hb, hout⟩ := h logic env req repl r' hr'
    · refine ⟨.fails, by rintro ⟨⟩, ?_⟩
      simp [Handled.caught, hres, hcalls, herr, Behaviour.outcome]
    · refine ⟨b, hb, ?_⟩
      simpa [Handled.caught, hres] using hout
  · obtain rfl := Option.some.inj hr
    exact ⟨.rejects, by rintro ⟨⟩, rfl⟩
  · obtain rfl := Option.some.inj hr
    refine ⟨.fails, by rintro ⟨⟩, ?_⟩
    simp [Handled.caught, herr, Behaviour.outcome]

/-- `FetchData` behaves like a stream. -/
theorem fetchDataLogic_behaves (harness : DeviceHarness Ty Arg Value Wire) :
    harness.fetchDataLogic.Behaves .stream := by
  refine Logic.behaves_of_handleRequest (fun _ => rfl) fun s ctxt req repl r h => ?_
  have hsend : ∀ (s : FetchDataLogic) (repl : Datachunk) (invoked : List (Invocation Value)),
      ∃ finished, (s.sendChunk repl invoked).result = .ok finished ∧
        ∃ b : Behaviour, (b = .goesOn → ResponderKind.stream = .stream) ∧
          ((s.sendChunk repl invoked).calls.map ResponderCall.op, finished) =
            b.outcome .stream := by
    intro s repl invoked
    rw [FetchDataLogic.sendChunk]
    split
    · exact ⟨false, rfl, .goesOn, fun _ => rfl, rfl⟩
    · split
      · exact ⟨false, rfl, .goesOn, fun _ => rfl, rfl⟩
      · exact ⟨true, rfl, .completes, fun _ => rfl, rfl⟩
  change s.handleRequest harness ctxt.answers req repl = some r at h
  rw [FetchDataLogic.handleRequest] at h
  split at h
  · split at h
    · cases h
    · obtain rfl := Option.some.inj h
      exact .inr ⟨true, rfl, .fails, fun _ => rfl, rfl⟩
    · obtain rfl := Option.some.inj h
      exact .inl ⟨_, rfl, rfl⟩
    · obtain rfl := Option.some.inj h
      exact .inr (hsend _ _ _)
  · obtain rfl := Option.some.inj h
    exact .inr (hsend _ _ _)

/-- `InvokeCapability` behaves like a unary RPC, with its session as well. -/
theorem invokeCapabilityWithSession_behaves [Inhabited Wire]
    (harness : DeviceHarness Ty Arg Value Wire) :
    harness.invokeCapabilityWithSession.Behaves .unary := by
  refine Logic.behaves_of_handleRequest (fun _ => rfl) fun s ctxt req repl r h => ?_
  change harness.invokeCapabilityLogic.handleRequest s ctxt req repl = some r at h
  simp only [DeviceHarness.invokeCapabilityLogic] at h
  split at h
  · obtain rfl := Option.some.inj h
    exact .inr ⟨true, rfl, .fails, by rintro ⟨⟩, rfl⟩
  · obtain rfl := Option.some.inj h
    exact .inl ⟨_, rfl, rfl⟩
  · split at h
    · obtain rfl := Option.some.inj h
      exact .inr ⟨true, rfl, .fails, by rintro ⟨⟩, rfl⟩
    · split at h
      · obtain rfl := Option.some.inj h
        exact .inr ⟨true, rfl, .fails, by rintro ⟨⟩, rfl⟩
      · obtain rfl := Option.some.inj h
        exact .inr ⟨true, rfl, .completes, by rintro ⟨⟩, rfl⟩

/-- `SetServerFlag` behaves like a unary RPC. -/
theorem setServerFlagsLogic_behaves : (setServerFlagsLogic Env Inv).Behaves .unary := by
  refine Logic.behaves_of_handleRequest (fun _ => rfl) fun vars env req repl r h => ?_
  simp only [setServerFlagsLogic] at h
  split at h
  · obtain rfl := Option.some.inj h
    exact .inr ⟨true, rfl, .fails, by rintro ⟨⟩, rfl⟩
  · obtain rfl := Option.some.inj h
    exact .inr ⟨true, rfl, .completes, by rintro ⟨⟩, rfl⟩

/-- `DropServerFlag` behaves like a unary RPC. -/
theorem dropServerFlagLogic_behaves : (dropServerFlagLogic Env Inv).Behaves .unary := by
  refine Logic.behaves_of_handleRequest (fun _ => rfl) fun vars env req repl r h => ?_
  simp only [dropServerFlagLogic] at h
  split at h
  · obtain rfl := Option.some.inj h
    exact .inr ⟨true, rfl, .fails, by rintro ⟨⟩, rfl⟩
  · obtain rfl := Option.some.inj h
    exact .inr ⟨true, rfl, .completes, by rintro ⟨⟩, rfl⟩

end Behaves

end Foxtrot
