import Foxtrot.Foundation.Recording
import Foxtrot.Server.CompletionQueue

/-!
# The exchanges of a server

Most RPCs of the server are unary: the logic object works on a request once, and replies. A server
of such RPCs is known to its clients by its *exchanges*, requests with what was sent for them. They
stand in the order in which the logic objects ran, which need not be the order in which the requests
arrived, and there are exchanges for the empty requests of failed events too.

`recordedServer` is the server with its exchanges. A handler that is in `PROCESS` is then always a
new one (`RpcServer.Waiting`), so every event either is an exchange, of a logic object that starts
with an empty reply, or leaves what is shared alone (`RpcServer.Waiting.step`). What each exchange
says in the light of those before it follows from what the logic objects do
(`throughout_exchanges`).
-/

namespace Foxtrot

open Histories TransitionSystem

variable {κ State Env Inv : Type} {Req Reply : κ → Type}

/-- A request that a logic object has worked on, what it met, and what was sent for it. -/
structure Exchange (Env : Type) (Req Reply : κ → Type) where
  kind : κ
  req : Req kind
  env : Env
  calls : List (ResponderCall (Reply kind))

section Exchanges

variable (rpcs : ∀ kind : κ, Rpc State Env (Req kind) (Reply kind) Inv)

/-- The exchange that an event is, if it makes a logic object work. -/
def RpcServer.exchange (s : RpcServer State Inv Req Reply) (e : QueueEvent Env Req) :
    Option (Exchange Env Req Reply) := do
  let h ← s.handlers[e.handler]?
  match h.status with
  | .process =>
    let h := h.receive rpcs e
    let r ← (rpcs h.kind).process s.logic e.env h.req h.repl
    return ⟨h.kind, h.req, e.env, r.calls⟩
  | .finish | .deleted => none

/-- The server with its exchanges. -/
def recordedServer (logic : State) (kinds : List κ) :
    TransitionSystem (RpcServer State Inv Req Reply × List (Exchange Env Req Reply))
      (QueueEvent Env Req) :=
  (rpcServer rpcs logic kinds).recorded (RpcServer.exchange rpcs)

/-- The logic objects are done with a request when they have worked on it once. -/
def FinishAtOnce : Prop :=
  ∀ kind logic env req r, (rpcs kind).process logic env req (rpcs kind).emptyReply = some r →
    r.result = true

/-- All handlers in `PROCESS` are new. -/
def RpcServer.Waiting (s : RpcServer State Inv Req Reply) : Prop :=
  ∀ h ∈ s.handlers, h.status = .process → ∃ kind, h = newRpcHandler rpcs kind

end Exchanges

section Steps

variable {rpcs : ∀ kind : κ, Rpc State Env (Req kind) (Reply kind) Inv}
  {s s' : RpcServer State Inv Req Reply} {e : QueueEvent Env Req}

/-- What an event does to the shared state. -/
inductive RpcServer.Effect (rpcs : ∀ kind : κ, Rpc State Env (Req kind) (Reply kind) Inv)
    (s : RpcServer State Inv Req Reply) (e : QueueEvent Env Req)
    (s' : RpcServer State Inv Req Reply) : Prop
  /-- It is no exchange, and nothing changes. -/
  | quiet (hnone : s.exchange rpcs e = none) (hlogic : s'.logic = s.logic)
  /-- A logic object works on a request. -/
  | exchange (kind : κ) (req : Req kind) (r : Handled State (Reply kind) Inv Bool)
      (hprocess : (rpcs kind).process s.logic e.env req (rpcs kind).emptyReply = some r)
      (hsome : s.exchange rpcs e = some ⟨kind, req, e.env, r.calls⟩) (hlogic : s'.logic = r.logic)

/-- An event is an exchange or changes nothing, and no handler is left in the middle of its
work. -/
theorem RpcServer.Waiting.step (hunary : FinishAtOnce rpcs) (hs : s.Waiting rpcs)
    (hstep : s.step rpcs e = some s') : s'.Waiting rpcs ∧ s.Effect rpcs e s' := by
  obtain ⟨h, hi, hstep⟩ := Option.bind_eq_some_iff.mp hstep
  have hmem : h ∈ s.handlers := List.mem_of_getElem? hi
  cases hstatus : h.status with
  | process =>
    obtain ⟨kind, rfl⟩ := hs h hmem hstatus
    obtain ⟨r, hr, hstep⟩ := Option.bind_eq_some_iff.mp hstep
    obtain rfl := Option.some.inj hstep
    have hr' : (rpcs kind).process s.logic e.env
        (if e.ok then e.req kind else (rpcs kind).emptyRequest) (rpcs kind).emptyReply = some r :=
      hr
    refine ⟨fun h' hh' hprocess => ?_, .exchange kind _ r hr' ?_ rfl⟩
    · rcases List.mem_or_eq_of_mem_set hh' with hold | rfl
      · rcases List.mem_append.mp hold with hold | hnew
        · exact hs h' hold hprocess
        · exact ⟨kind, List.mem_singleton.mp hnew⟩
      · -- the handler of the exchange is done at once
        have hdone : r.result = true := hunary kind _ _ _ r hr'
        have hfinish : (((newRpcHandler rpcs kind).receive rpcs e).update r).status = .finish :=
          if_pos hdone
        rw [hfinish] at hprocess
        cases hprocess
    · refine Option.bind_eq_some_iff.mpr ⟨_, hi, ?_⟩
      exact Option.bind_eq_some_iff.mpr ⟨r, hr, rfl⟩
  | finish =>
    simp only [hstatus] at hstep
    obtain rfl := Option.some.inj hstep
    refine ⟨fun h' hh' hprocess => ?_, .quiet ?_ rfl⟩
    · rcases List.mem_or_eq_of_mem_set hh' with hold | rfl
      · exact hs h' hold hprocess
      · cases hprocess
    · rw [RpcServer.exchange, hi]
      simp only [Option.bind_eq_bind, Option.bind_some, hstatus]
  | deleted =>
    simp only [hstatus] at hstep
    cases hstep

variable {logic : State} {kinds : List κ}

/-- In the beginning each handler waits. -/
theorem waiting_init : (rpcServer rpcs logic kinds).init.Waiting rpcs := by
  rintro h hh -
  obtain ⟨kind, -, rfl⟩ := List.mem_map.mp hh
  exact ⟨kind, rfl⟩

/-- Handlers that work are new ones, in every run. -/
private theorem waiting_of_reachable (hunary : FinishAtOnce rpcs)
    (h : (rpcServer rpcs logic kinds).Reachable s) : s.Waiting rpcs :=
  ReachableWhile.invariant waiting_init
    (fun _ _ _ _ hs _ hstep => (RpcServer.Waiting.step hunary hs hstep).1) h

/-- **Each exchange is as those before it say**, if an invariant between the shared state and the
exchanges says so of each request, and is kept by what the logic objects do. -/
theorem throughout_exchanges (hunary : FinishAtOnce rpcs)
    {I : State → List (Exchange Env Req Reply) → Prop}
    {P : List (Exchange Env Req Reply) → Exchange Env Req Reply → Prop} (hinit : I logic [])
    (hserve : ∀ shared log kind env req r, I shared log →
      (rpcs kind).process shared env req (rpcs kind).emptyReply = some r →
      P log ⟨kind, req, env, r.calls⟩ ∧ I r.logic (log ++ [⟨kind, req, env, r.calls⟩]))
    {log : List (Exchange Env Req Reply)}
    (h : (recordedServer rpcs logic kinds).Reachable (s, log)) :
    I s.logic log ∧ Throughout P log := by
  refine throughout_of_recorded (M := rpcServer rpcs logic kinds) (fun _ _ => True)
    (I := fun s log => I s.logic log) hinit ?_ ?_ h
  · intro s e s' log hreach hI _ hstep hnone
    rcases (RpcServer.Waiting.step hunary (waiting_of_reachable hunary hreach) hstep).2 with
      ⟨-, hlogic⟩ | ⟨kind, req, r, -, hsome, -⟩
    · rwa [hlogic]
    · rw [hsome] at hnone
      cases hnone
  · intro s e s' log w hreach hI _ hstep hw
    rcases (RpcServer.Waiting.step hunary (waiting_of_reachable hunary hreach) hstep).2 with
      ⟨hnone, -⟩ | ⟨kind, req, r, hr, hsome, hlogic⟩
    · rw [hnone] at hw
      cases hw
    · obtain rfl := Option.some.inj (hsome.symm.trans hw)
      rw [hlogic]
      exact hserve s.logic log kind e.env req r hI hr

end Steps

/-! ### Calls of a client -/

section Call

variable {State Env Req Reply Inv : Type}

/-- A call of a stub: the request is worked on, and the reply comes back. -/
def Rpc.call (rpc : Rpc State Env Req Reply Inv) (logic : State) (env : Env) (req : Req) :
    Option (State × Reply) := do
  let r ← rpc.process logic env req rpc.emptyReply
  match r.calls with
  | [.finishWith repl] => some (r.logic, repl)
  | _ => none

variable {logic logic' : State} {env : Env} {req : Req} {repl : Reply}

/-- A call returns what was finished with. -/
theorem Rpc.call_eq_some (rpc : Rpc State Env Req Reply Inv) {r : Handled State Reply Inv Bool}
    (h : rpc.process logic env req rpc.emptyReply = some r)
    (hcalls : r.calls = [.finishWith repl]) : rpc.call logic env req = some (r.logic, repl) := by
  rw [Rpc.call, h, Option.bind_eq_bind, Option.bind_some, hcalls]

/-- A call that comes back has been worked on, and its reply was all that was sent. -/
theorem Rpc.process_of_call {rpc : Rpc State Env Req Reply Inv}
    (h : rpc.call logic env req = some (logic', repl)) :
    ∃ r, rpc.process logic env req rpc.emptyReply = some r ∧ r.logic = logic' ∧
      r.calls = [.finishWith repl] := by
  obtain ⟨r, hr, hcalls⟩ := Option.bind_eq_some_iff.mp h
  split at hcalls
  next repl' heq =>
    obtain ⟨rfl, rfl⟩ := Prod.mk.inj (Option.some.inj hcalls)
    exact ⟨r, hr, rfl, heq⟩
  · cases hcalls

end Call

end Foxtrot
