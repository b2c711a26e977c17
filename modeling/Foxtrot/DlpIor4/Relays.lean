import Foxtrot.Foundation.Histories
import Foxtrot.Foundation.TransitionSystem
import Foxtrot.Server.Handler
import Mathlib.Algebra.Group.Int.Defs
import Mathlib.Data.Int.Notation

/-!
# The relays of the DLP-IOR4

The board (`devices/DLP-IOR4/DLP_IOR4.cpp`) switches a relay on one character and cannot be asked
for its state, so the object keeps the states of the relays. It is given them at construction, when
it commands none of them, and `setRelay` does not record what it commands. So the states that the
object knows are those of the board exactly if it knows none at construction and no relay is
switched (`relays_kept_iff`).

What the board has been commanded is read off the characters that were written to its port
(`commanded`), and compared with what `getRelay` returns from the object's own record. No call
changes that record (`relaystatus_run`), so it stays what the constructor was given, and the two
agree for as long as it says nothing and nothing is commanded.
-/

namespace Foxtrot

namespace DlpIor4

open Histories

/-- `DLP_init_relay_state`. -/
inductive DlpInitRelayState where
  | on
  | off
  | doNotChange
  deriving DecidableEq

/-- `detail::DLP_all_off_state`. -/
def dlpAllOffState : Fin 4 → DlpInitRelayState := fun _ => .off

/-- A call on the serial port that has had its effect. -/
inductive PortCall where
  | init
  | flush
  | write (data : String)
  deriving DecidableEq

/-- The object, and what has been done on its serial port. -/
structure Board where
  relaystatus : Fin 4 → DlpInitRelayState
  port : List PortCall

/-- The constructor, where it returns. -/
def construct (states : Fin 4 → DlpInitRelayState) : Board where
  relaystatus := states
  port := [.init, .flush]

/-- `_relaystatus.at(n)`. An `int` below zero becomes a `std::size_t`. -/
def Board.at (b : Board) (n : ℤ) : Except Thrown DlpInitRelayState :=
  if h : 0 ≤ n ∧ n < 4 then
    .ok (b.relaystatus ⟨n.toNat, by omega⟩)
  else
    .error (.outOfRange
      s!"array::at: __n (which is {(n % 2 ^ 64).toNat}) >= _Nm (which is 4)")

/-- `getRelay`. -/
def Board.getRelay (b : Board) (n : ℤ) : Except Thrown Bool := do
  if (← b.at n) = .doNotChange then
    throw (.deviceError "relay is in an unknown state!")
  return (← b.at n) = .on

/-- The character that switches a relay. -/
def setchar (n : ℤ) (onoff : Bool) : Option String :=
  match n with
  | 0 => some (if onoff then "1" else "Q")
  | 1 => some (if onoff then "2" else "W")
  | 2 => some (if onoff then "3" else "E")
  | 3 => some (if onoff then "4" else "R")
  | _ => none

/-- `setRelay`. The port writes the character, or it fails (`ec`) and writes nothing. -/
def Board.setRelay (b : Board) (n : ℤ) (onoff : Bool) (ec : Option String) :
    Except Thrown Unit × Board :=
  match setchar n onoff with
  | none => (.error (.outOfRange "invalid relay number specified"), b)
  | some data =>
    match ec with
    | some what => (.error (.protocolError ("error writing to serial port: " ++ what)), b)
    | none => (.ok (), { b with port := b.port ++ [.write data] })

/-! ### Runs of calls -/

/-- A call on the object. -/
inductive Call where
  | getRelay (n : ℤ)
  | setRelay (n : ℤ) (onoff : Bool) (ec : Option String)

/-- What a call comes to: the state of a relay, or nothing. -/
def Call.run (b : Board) : Call → Except Thrown (Option Bool) × Board
  | getRelay n => ((b.getRelay n).map some, b)
  | setRelay n onoff ec => (b.setRelay n onoff ec).map (·.map fun _ => none) id

/-- A call that has ended. -/
structure Outcome where
  call : Call
  result : Except Thrown (Option Bool)
  before : List PortCall
  after : List PortCall

/-- The object, and the calls on it so far. -/
structure RelayState where
  board : Board
  outcomes : List Outcome

/-- The state after one more call. -/
def RelayState.after (s : RelayState) (call : Call) : RelayState :=
  let ended := call.run s.board
  ⟨ended.2, s.outcomes ++ [⟨call, ended.1, s.board.port, ended.2.port⟩]⟩

/-- The calls on an object that has been constructed with these states. -/
def relays (states : Fin 4 → DlpInitRelayState) : TransitionSystem RelayState Call where
  init := ⟨construct states, []⟩
  step s call := some (s.after call)

/-! ### What the board has been commanded -/

/-- What a character commands. -/
def relayCommand : PortCall → Option (Fin 4 × Bool)
  | .write "1" => some (0, true)
  | .write "Q" => some (0, false)
  | .write "2" => some (1, true)
  | .write "W" => some (1, false)
  | .write "3" => some (2, true)
  | .write "E" => some (2, false)
  | .write "4" => some (3, true)
  | .write "R" => some (3, false)
  | _ => none

/-- The state that each relay has been commanded to last. -/
def commanded (port : List PortCall) : Fin 4 → Option Bool := lastWritten relayCommand port

/-- The state of a relay, where it is known. -/
def DlpInitRelayState.known : DlpInitRelayState → Option Bool
  | on => some true
  | off => some false
  | doNotChange => none

/-- The call does not name a relay. -/
def Call.Outside : Call → Prop
  | getRelay n | setRelay n _ _ => ¬ (0 ≤ n ∧ n < 4)

/-- A call agrees with the commands: the state of a relay is the one it has been commanded to. -/
structure Outcome.Agrees (o : Outcome) : Prop where
  state : ∀ n : Fin 4, o.call = .getRelay n → ∀ onoff, commanded o.before n = some onoff →
    o.result = .ok (some onoff)
  unknown : ∀ n : Fin 4, o.call = .getRelay n → commanded o.before n = none →
    ∃ e, o.result = .error e
  outside : o.call.Outside → (∃ e, o.result = .error e) ∧ o.after = o.before

/-- **The states of the relays are kept**: they are those of the board after construction, after
every call, and in what the calls have returned. -/
structure RelayState.Kept (states : Fin 4 → DlpInitRelayState) (s : RelayState) : Prop where
  constructed : ∀ n, states n ≠ .doNotChange →
    commanded (construct states).port n = (states n).known
  known : ∀ n, (s.board.relaystatus n).known = commanded s.board.port n
  outcomes : ∀ o ∈ s.outcomes, o.Agrees

/-- The call switches a relay. -/
def Call.Switches (call : Call) : Prop :=
  ∃ n onoff, call = .setRelay n onoff none ∧ 0 ≤ n ∧ n < 4

/-! ### One call -/

section Board

variable {b : Board} {n : ℤ} {onoff : Bool}

private theorem at_of_outside (h : ¬ (0 ≤ n ∧ n < 4)) : ∃ e, b.at n = .error e :=
  ⟨_, dif_neg h⟩

private theorem at_relay (n : Fin 4) : b.at n = .ok (b.relaystatus n) := by
  have h : 0 ≤ (n : ℤ) ∧ (n : ℤ) < 4 := by omega
  rw [Board.at, dif_pos h]
  rfl

/-- `getRelay` returns the state that the object knows. -/
theorem getRelay_relay (n : Fin 4) : (∀ onoff, (b.relaystatus n).known = some onoff →
      b.getRelay n = .ok onoff) ∧
    ((b.relaystatus n).known = none → ∃ e, b.getRelay n = .error e) := by
  have hget : b.getRelay n = (do
      if b.relaystatus n = .doNotChange then
        throw (.deviceError "relay is in an unknown state!")
      return b.relaystatus n = .on) := by
    rw [Board.getRelay, at_relay]
    rfl
  rw [hget]
  cases b.relaystatus n with
  | on | off => exact ⟨fun _ h => congrArg Except.ok (Option.some.inj h), fun h => nomatch h⟩
  | doNotChange => exact ⟨fun _ h => (nomatch h), fun _ => ⟨_, rfl⟩⟩

private theorem getRelay_of_outside (h : ¬ (0 ≤ n ∧ n < 4)) : ∃ e, b.getRelay n = .error e := by
  obtain ⟨e, he⟩ := at_of_outside (b := b) h
  exact ⟨e, by rw [Board.getRelay, he]; rfl⟩

/-- There is a character for each relay and each state of it, and the board understands it. -/
theorem relayCommand_setchar (n : Fin 4) (onoff : Bool) :
    ∃ data, setchar n onoff = some data ∧ relayCommand (.write data) = some (n, onoff) := by
  revert n onoff
  decide

private theorem setchar_of_outside (h : ¬ (0 ≤ n ∧ n < 4)) : setchar n onoff = none := by
  unfold setchar
  split <;> first | rfl | omega

end Board

section Call

variable {states : Fin 4 → DlpInitRelayState} {s : RelayState} {call : Call}

/-- A call leaves the states that the object knows. -/
theorem relaystatus_run (b : Board) (call : Call) :
    (call.run b).2.relaystatus = b.relaystatus := by
  cases call with
  | getRelay n => rfl
  | setRelay n onoff ec =>
    change (b.setRelay n onoff ec).2.relaystatus = b.relaystatus
    unfold Board.setRelay
    split
    · rfl
    · split <;> rfl

/-- A call that switches a relay writes a command for it. -/
theorem port_of_switches (b : Board) (h : call.Switches) : ∃ (n : Fin 4) (onoff : Bool),
    commanded (call.run b).2.port = Function.update (commanded b.port) n (some onoff) := by
  obtain ⟨n, onoff, rfl, hn⟩ := h
  obtain ⟨n, rfl⟩ : ∃ m : Fin 4, (m : ℤ) = n :=
    ⟨⟨n.toNat, by omega⟩, Int.toNat_of_nonneg hn.1⟩
  obtain ⟨data, hchar, hcommand⟩ := relayCommand_setchar n onoff
  refine ⟨n, onoff, ?_⟩
  change commanded (b.setRelay n onoff none).2.port = _
  rw [Board.setRelay, hchar]
  exact lastWritten_concat_of_some hcommand

/-- Another call writes nothing. -/
theorem port_of_not_switches (b : Board) (h : ¬ call.Switches) : (call.run b).2.port = b.port := by
  cases call with
  | getRelay n => rfl
  | setRelay n onoff ec =>
    change (b.setRelay n onoff ec).2.port = b.port
    unfold Board.setRelay
    cases hchar : setchar n onoff with
    | none => rfl
    | some data =>
      cases ec with
      | some what => rfl
      | none =>
        refine absurd ⟨n, onoff, rfl, ?_⟩ h
        by_contra hn
        rw [setchar_of_outside hn] at hchar
        cases hchar

/-- A call that names no relay fails, and writes nothing. -/
theorem run_of_outside (b : Board) (h : call.Outside) :
    (∃ e, (call.run b).1 = .error e) ∧ (call.run b).2.port = b.port := by
  cases call with
  | getRelay n =>
    obtain ⟨e, he⟩ := getRelay_of_outside (b := b) h
    exact ⟨⟨e, congrArg (Except.map some) he⟩, rfl⟩
  | setRelay n onoff ec =>
    have hrun : (Call.setRelay n onoff ec).run b =
        (.error (.outOfRange "invalid relay number specified"), b) := by
      rw [Call.run, Board.setRelay, setchar_of_outside h]
      rfl
    rw [hrun]
    exact ⟨⟨_, rfl⟩, rfl⟩

end Call

/-! ### Whole runs -/

section Runs

variable {states : Fin 4 → DlpInitRelayState} {s s' : RelayState} {call : Call}

private theorem step_relays : (relays states).step s call = some s' ↔ s' = s.after call :=
  Option.some_inj.trans eq_comm

/-- The states that the object knows are those given to the constructor. -/
theorem relaystatus_of_reachable (hs : (relays states).Reachable s) :
    s.board.relaystatus = states := by
  refine hs.invariant (P := fun s => s.board.relaystatus = states) rfl ?_
  rintro s call s' - ih - hstep
  obtain rfl := step_relays.mp hstep
  exact (relaystatus_run s.board call).trans ih

/-- While the states are kept, a call that switches no relay agrees with the commands. -/
theorem agrees_of_known (hknown : ∀ n, (s.board.relaystatus n).known = commanded s.board.port n)
    (hcall : ¬ call.Switches) : Outcome.Agrees
      ⟨call, (call.run s.board).1, s.board.port, (call.run s.board).2.port⟩ where
  state n hn onoff hcommanded := by
    obtain rfl : call = .getRelay n := hn
    have hget := (getRelay_relay n).1 onoff ((hknown n).trans hcommanded)
    exact congrArg (Except.map some) hget
  unknown n hn hcommanded := by
    obtain rfl : call = .getRelay n := hn
    obtain ⟨e, he⟩ := (getRelay_relay n).2 ((hknown n).trans hcommanded)
    exact ⟨e, congrArg (Except.map some) he⟩
  outside hout := ⟨(run_of_outside s.board hout).1, port_of_not_switches s.board hcall⟩

/-- Where no state is known at construction, the states are kept by a call exactly if they have
been, and it switches no relay. -/
theorem kept_after_iff (hstates : ∀ n, states n = .doNotChange)
    (hs : (relays states).Reachable s) :
    (s.after call).Kept states ↔ s.Kept states ∧ ¬ call.Switches := by
  have hstatus := relaystatus_of_reachable hs
  have hafter : (s.after call).board.relaystatus = states :=
    (relaystatus_run s.board call).trans hstatus
  constructor
  · intro h
    -- a relay that is switched is not in the states, which nothing updates
    have hcall : ¬ call.Switches := by
      intro hswitches
      obtain ⟨n, onoff, hport⟩ := port_of_switches s.board hswitches
      have hknown := h.known n
      rw [hafter, hstates n] at hknown
      have hcommanded := hknown.trans (congrFun hport n)
      rw [Function.update_self] at hcommanded
      cases hcommanded
    refine ⟨⟨h.constructed, fun n => ?_, fun o ho => ?_⟩, hcall⟩
    · have hknown := h.known n
      rw [hafter] at hknown
      rw [hstatus, hknown]
      exact congrArg (commanded · n) (port_of_not_switches s.board hcall)
    · exact h.outcomes o (List.mem_append_left _ ho)
  · rintro ⟨h, hcall⟩
    refine ⟨h.constructed, fun n => ?_, fun o ho => ?_⟩
    · have hport : (s.after call).board.port = s.board.port := port_of_not_switches s.board hcall
      rw [hafter, hport, ← h.known n, hstatus]
    · obtain ho | ho := List.mem_append.mp ho
      · exact h.outcomes o ho
      · obtain rfl := List.mem_singleton.mp ho
        exact agrees_of_known h.known hcall

/-- The constructor commands no relay, so it has done its part only where no state is given. -/
theorem constructed_iff : (∀ n, states n ≠ .doNotChange →
    commanded (construct states).port n = (states n).known) ↔ ∀ n, states n = .doNotChange := by
  have hnone : ∀ n, commanded (construct states).port n = none := fun _ => rfl
  constructor
  · intro h n
    by_contra hn
    have hknown := h n hn
    rw [hnone] at hknown
    cases hn' : states n with
    | on | off => rw [hn'] at hknown; cases hknown
    | doNotChange => exact hn hn'
  · exact fun h n hn => absurd (h n) hn

/-- **The states of the relays are kept** exactly if no state is given at construction, and no relay
is switched. -/
theorem relays_kept_iff {calls : List Call}
    (hrun : (relays states).run (relays states).init calls = some s) :
    s.Kept states ↔ (∀ n, states n = .doNotChange) ∧ ∀ call ∈ calls, ¬ call.Switches := by
  by_cases hstates : ∀ n, states n = .doNotChange
  · have hinit : (relays states).init.Kept states := by
      refine ⟨constructed_iff.mpr hstates, fun n => ?_, fun o ho => nomatch ho⟩
      exact congrArg DlpInitRelayState.known (hstates n)
    rw [and_iff_right hstates, ← TransitionSystem.guarded_iff_forall_mem hrun]
    refine TransitionSystem.run_iff_guarded hinit (fun s call s' hs hstep => ?_) hrun
    obtain rfl := step_relays.mp hstep
    exact kept_after_iff hstates hs
  · exact iff_of_false (fun h => hstates (constructed_iff.mp h.constructed))
      fun h => hstates h.1

end Runs

/-- An object that knows no state and is only asked for it says that it does not know. -/
theorem relays_kept_iff_asked : RelayState.Kept (fun _ => .doNotChange)
    (((relays fun _ => .doNotChange).run (relays fun _ => .doNotChange).init
      [.getRelay 1, .setRelay 4 true none]).get rfl) :=
  (relays_kept_iff (Option.some_get rfl).symm).mpr ⟨fun _ => rfl, by
    rintro call hcall ⟨n, onoff, rfl, hn⟩
    obtain h | h := List.mem_cons.mp hcall
    · cases h
    · cases List.mem_singleton.mp h
      omega⟩

/-- With the states that the constructor takes by default, a relay that has been switched on is
reported as off. -/
theorem relay_reported_off : ∃ s, (relays dlpAllOffState).run (relays dlpAllOffState).init
    [.setRelay 0 true none, .getRelay 0] = some s ∧ commanded s.board.port 0 = some true ∧
      s.outcomes.getLast?.map Outcome.result = some (.ok (some false)) ∧
      ¬ s.Kept dlpAllOffState := by
  refine ⟨_, rfl, rfl, rfl, fun h => ?_⟩
  exact absurd (constructed_iff.mp h.constructed 0) (by decide)

end DlpIor4

end Foxtrot
