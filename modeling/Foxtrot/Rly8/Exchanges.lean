import Foxtrot.Foundation.Stateful
import Foxtrot.Foundation.TransitionSystem
import Foxtrot.Rly8.Frames

/-!
# Exchanges with the RLY-8

A command of the RLY-8 (`devices/RLY-8/RLY_8.cpp`) writes a request and reads six bytes at least,
which is the length of the shortest answer. Reading ends with the piece that brings them, and if
this is not the last piece of the answer, then the command gets a frame that is cut short, and the
next command gets the rest of it in front of its own answer. So the exchanges of a run are exact
exactly if in each of them the piece that brings the sixth byte is the last one
(`exchanges_exact_iff`).

The port is described by the pieces that will be received and what is left of them after a read;
what is left is in front of the next answer. A read of six bytes at least takes pieces until it has
them (`takeAtLeast_of_last`, `last_of_takeAtLeast`). So the state between two commands is exact if
nothing is left, and one more command keeps it so exactly if the piece with its sixth byte is the
last one.
-/

namespace Foxtrot

namespace Rly8

/-- The serial port during a command. -/
structure RlyPort where
  /-- What has not been read, in the pieces in which it is received. -/
  pieces : List (List UInt8)
  /-- The same, when the board has answered the next request. -/
  answered : List (List UInt8)
  requests : List (List UInt8)
  /-- What has been read for a request. -/
  replies : List (List UInt8)

/-- What the commands are computations on. -/
abbrev RlyM := Stateful RlyPort Fault

/-- `SerialPort::write`. The board answers. -/
def write (request : List UInt8) : RlyM Unit :=
  ExceptT.mk fun port => (.ok (), { port with
    pieces := port.answered
    answered := []
    requests := port.requests ++ [request] })

/-- The pieces that `SerialPort::read_all` takes to have so many bytes, if they are received. -/
def takeAtLeast (readAtLeast : ℕ) (got : List UInt8) :
    List (List UInt8) → Option (List UInt8 × List (List UInt8))
  | [] => if readAtLeast ≤ got.length then some (got, []) else none
  | piece :: pieces =>
    if readAtLeast ≤ got.length then
      some (got, piece :: pieces)
    else
      takeAtLeast readAtLeast (got ++ piece) pieces

/-- `SerialPort::read_all`. -/
def readAll (readAtLeast : ℕ) : RlyM (List UInt8) :=
  ExceptT.mk fun port =>
    match takeAtLeast readAtLeast [] port.pieces with
    | some (got, pieces) =>
      (.ok got, { port with pieces, replies := port.replies ++ [got] })
    | none =>
      (.error (.thrown (.protocolError "failed to transfer required bytes in time allowed")),
        { port with pieces := [] })

/-- `cmd`. -/
def cmd (request : List UInt8) : RlyM (List UInt8) := do
  write request
  readAll 6

/-- What a function that does not use the port comes to. -/
def lift {A : Type} (x : Except Fault A) : RlyM A := ExceptT.mk fun port => (x, port)

/-- A request, its answer, and the payload of this. -/
def exchange (addr : UInt8) (command : Rly8Commands) (data : List UInt8) : RlyM (List UInt8) := do
  let thisreq ← lift (assembleCmd addr command data)
  let ret ← cmd thisreq
  lift (extractResponse addr ret command)

/-- `getVersion`. -/
def getVersion (addr : UInt8) : RlyM (List UInt8) := exchange addr .queryVersion []

/-- `getRelayState`. -/
def getRelayState (addr : UInt8) : RlyM UInt8 := do
  match ← exchange addr .queryRelayState [] with
  | [state] => return state
  | _ => throw (.thrown (.outOfRange "expected data of length 1 return"))

/-- `setRelay`. -/
def setRelay (addr : UInt8) (channel : UInt8) (onoff : Bool) : RlyM Unit :=
  if channel < 1 ∨ channel > 8 then
    throw (.thrown (.outOfRange "invalid relay number, must be between 1 and 8"))
  else do
    match ← exchange addr .setRelay [channel, onoff.toUInt8] with
    | [outcome] =>
      if outcome ≠ 0 then
        throw (.thrown (.deviceError "failed to set relay for some reason!"))
      else
        return ()
    | _ => throw (.thrown (.outOfRange "expected data of length 1 return!"))

/-- `getRelay`. Beyond its eight bits, a `std::bitset` has no others. -/
def getRelay (addr : UInt8) (channel : UInt8) : RlyM Bool := do
  let state ← getRelayState addr
  if 1 ≤ channel ∧ channel ≤ 8 then
    return state.toNat.testBit (channel.toNat - 1)
  else
    throw .outOfBounds

/-! ### Runs of commands -/

/-- The commands. -/
inductive Call where
  | getVersion
  | getRelayState
  | setRelay (channel : UInt8) (onoff : Bool)
  | getRelay (channel : UInt8)
  deriving DecidableEq

/-- What a command returns. -/
inductive Value where
  | version (text : List UInt8)
  | state (relays : UInt8)
  | done
  | relay (onoff : Bool)
  deriving DecidableEq

/-- The function of a command. -/
def Call.run (addr : UInt8) : Call → RlyM Value
  | getVersion => .version <$> Rly8.getVersion addr
  | getRelayState => .state <$> Rly8.getRelayState addr
  | setRelay channel onoff => (fun _ => .done) <$> Rly8.setRelay addr channel onoff
  | getRelay channel => .relay <$> Rly8.getRelay addr channel

/-- A command with a request. -/
def Call.Asks : Call → Prop
  | setRelay channel _ => ¬ (channel < 1 ∨ channel > 8)
  | _ => True

/-- A well-formed frame from the board. -/
structure Answer (addr : UInt8) where
  frame : List UInt8
  payload : List UInt8
  isFrame : IsFrame addr frame payload

/-- A command, the answer of the board to its request, and the pieces in which this is received,
with what is left from before. -/
structure Turn (addr : UInt8) where
  call : Call
  answer : Answer addr
  pieces : List (List UInt8)

/-- What has come of a command. -/
structure Outcome (addr : UInt8) where
  call : Call
  answer : Answer addr
  /-- What has been read. -/
  replies : List (List UInt8)
  result : Except Fault Value

/-- The state between two commands. -/
structure RlyState (addr : UInt8) where
  unread : List UInt8
  outcomes : List (Outcome addr)

/-- The state after a command. -/
def RlyState.after {addr : UInt8} (s : RlyState addr) (t : Turn addr) : RlyState addr :=
  let ended := (t.call.run addr).on ⟨[s.unread], t.pieces, [], []⟩
  ⟨ended.2.pieces.flatten, s.outcomes ++ [⟨t.call, t.answer, ended.2.replies, ended.1⟩]⟩

/-- The commands of a run, one after the other. All pieces arrive before the timeout. -/
def exchanges (addr : UInt8) : TransitionSystem (RlyState addr) (Turn addr) where
  init := ⟨[], []⟩
  step s t :=
    if t.pieces.flatten = s.unread ++ t.answer.frame ∧ [] ∉ t.pieces then some (s.after t) else none

/-- **An outcome is exact**: a command with a request has got the frame that answers it, and the
state of a relay is the one that the board has reported. -/
structure Outcome.Exact {addr : UInt8} (o : Outcome addr) : Prop where
  own : o.call.Asks → o.replies = [o.answer.frame]
  relay : ∀ channel : UInt8, 1 ≤ channel → channel ≤ 8 → o.call = .getRelay channel →
    ∀ state, o.answer.payload = [state] →
      o.result = .ok (.relay (state.toNat.testBit (channel.toNat - 1)))

/-- **The exchanges are exact**: the outcomes are, and nothing is left for the next command. -/
structure RlyState.Exact {addr : UInt8} (s : RlyState addr) : Prop where
  outcomes : ∀ o ∈ s.outcomes, o.Exact
  unread : s.unread = []

/-- The piece that brings the sixth byte is the last one. -/
def LastBringsSixth (pieces : List (List UInt8)) : Prop :=
  ∃ before last, pieces = before ++ [last] ∧ before.flatten.length < 6

/-! ### Reading -/

section Reading

variable {readAtLeast : ℕ} {got got' : List UInt8} {pieces rest : List (List UInt8)}

private theorem takeAtLeast_of_le (h : readAtLeast ≤ got.length) :
    takeAtLeast readAtLeast got pieces = some (got, pieces) := by
  cases pieces <;> exact if_pos h

/-- Otherwise the next piece is taken, all of it. -/
private theorem takeAtLeast_cons_of_lt {piece : List UInt8} (h : got.length < readAtLeast) :
    takeAtLeast readAtLeast got (piece :: pieces) =
      takeAtLeast readAtLeast (got ++ piece) pieces :=
  if_neg (not_le.mpr h)

/-- What is read and what is left is what is received. -/
theorem exists_takeAtLeast (h : readAtLeast ≤ (got ++ pieces.flatten).length) :
    ∃ got' rest, takeAtLeast readAtLeast got pieces = some (got', rest) ∧
      got' ++ rest.flatten = got ++ pieces.flatten ∧ rest <:+ pieces := by
  induction pieces generalizing got with
  | nil =>
    rw [List.flatten_nil, List.append_nil] at h
    exact ⟨got, [], takeAtLeast_of_le h, rfl, List.suffix_rfl⟩
  | cons piece pieces ih =>
    by_cases hle : readAtLeast ≤ got.length
    · exact ⟨got, _, takeAtLeast_of_le hle, rfl, List.suffix_rfl⟩
    · rw [List.flatten_cons, ← List.append_assoc] at h ⊢
      rw [takeAtLeast_cons_of_lt (not_le.mp hle)]
      obtain ⟨got', rest, htake, heq, hsuffix⟩ := ih h
      exact ⟨got', rest, htake, heq, hsuffix.trans (List.suffix_cons piece pieces)⟩

/-- Everything is read if the last piece is the one that suffices. -/
theorem takeAtLeast_of_last {before : List (List UInt8)} {last : List UInt8}
    (hbefore : (got ++ before.flatten).length < readAtLeast)
    (hlast : readAtLeast ≤ (got ++ (before ++ [last]).flatten).length) :
    takeAtLeast readAtLeast got (before ++ [last]) =
      some (got ++ (before ++ [last]).flatten, []) := by
  induction before generalizing got with
  | nil =>
    rw [List.flatten_nil, List.append_nil] at hbefore
    rw [List.nil_append, List.flatten_singleton] at hlast ⊢
    rw [takeAtLeast_cons_of_lt hbefore, takeAtLeast_of_le hlast]
  | cons piece before ih =>
    rw [List.cons_append, List.flatten_cons, ← List.append_assoc] at *
    rw [takeAtLeast_cons_of_lt (by
      rw [List.length_append, List.length_append] at hbefore
      omega)]
    exact ih hbefore hlast

/-- Nothing is left only then. -/
theorem last_of_takeAtLeast (hgot : got.length < readAtLeast)
    (h : takeAtLeast readAtLeast got pieces = some (got', [])) :
    ∃ before last, pieces = before ++ [last] ∧
      (got ++ before.flatten).length < readAtLeast := by
  induction pieces generalizing got with
  | nil =>
    rw [takeAtLeast, if_neg (not_le.mpr hgot)] at h
    cases h
  | cons piece pieces ih =>
    rw [takeAtLeast_cons_of_lt hgot] at h
    by_cases hlt : (got ++ piece).length < readAtLeast
    · obtain ⟨before, last, rfl, hbefore⟩ := ih hlt h
      refine ⟨piece :: before, last, rfl, ?_⟩
      rwa [List.flatten_cons, ← List.append_assoc]
    · rw [takeAtLeast_of_le (not_lt.mp hlt)] at h
      obtain ⟨-, rfl⟩ := Prod.mk.inj (Option.some.inj h)
      exact ⟨[], piece, rfl, by rwa [List.flatten_nil, List.append_nil]⟩

end Reading

/-! ### What a command does with the port -/

section Commands

variable {addr : UInt8} {A B : Type} {port port' : RlyPort} {got : List UInt8}

/-- The computation leaves the port as it is. -/
def LeavesPort (m : RlyM A) : Prop := ∀ port, (m.on port).2 = port

private theorem leavesPort_pure (a : A) : LeavesPort (pure a : RlyM A) := fun _ => rfl

private theorem leavesPort_throw (e : Fault) : LeavesPort (throw e : RlyM A) := fun _ => rfl

/-- What follows leaves the port as the first part does. -/
theorem on_bind_snd {m : RlyM A} {f : A → RlyM B} (hf : ∀ a, LeavesPort (f a)) :
    ((m >>= f).on port).2 = (m.on port).2 := by
  obtain ⟨a, port', hon⟩ | ⟨e, port', hon⟩ := m.on_cases port
  · rw [Stateful.on_bind_of_ok hon, hf a, hon]
  · rw [Stateful.on_bind_of_error hon, hon]

/-- The reply to the request is decoded. -/
theorem on_exchange {command : Rly8Commands} {data request : List UInt8}
    (hrequest : assembleCmd addr command data = .ok request)
    (hcmd : (cmd request).on port = (.ok got, port')) :
    (exchange addr command data).on port = (extractResponse addr got command, port') := by
  have hassembled : (lift (assembleCmd addr command data)).on port = (.ok request, port) := by
    rw [hrequest]
    rfl
  rw [exchange, Stateful.on_bind_of_ok hassembled, Stateful.on_bind_of_ok hcmd]
  rfl

/-- The request of a command. -/
def Call.request : Call → Rly8Commands × List UInt8
  | getVersion => (.queryVersion, [])
  | getRelayState | getRelay _ => (.queryRelayState, [])
  | setRelay channel onoff => (.setRelay, [channel, onoff.toUInt8])

/-- A command with a request does with the port what its exchange does. -/
theorem on_run_snd {call : Call} (h : call.Asks) (port : RlyPort) :
    ((call.run addr).on port).2 =
      ((exchange addr call.request.1 call.request.2).on port).2 := by
  -- what is made of the payload does not touch the port
  have hstate : ∀ port, ((getRelayState addr).on port).2 =
      ((exchange addr .queryRelayState []).on port).2 := by
    intro port
    refine on_bind_snd fun payload => ?_
    rcases payload with _ | ⟨state, _ | ⟨_, _⟩⟩
    · exact leavesPort_throw _
    · exact leavesPort_pure _
    · exact leavesPort_throw _
  cases call with
  | getVersion =>
    rw [Call.run, map_eq_pure_bind]
    exact on_bind_snd fun _ => leavesPort_pure _
  | getRelayState =>
    rw [Call.run, map_eq_pure_bind]
    exact (on_bind_snd fun _ => leavesPort_pure _).trans (hstate port)
  | setRelay channel onoff =>
    rw [Call.run, map_eq_pure_bind, setRelay, if_neg h]
    refine (on_bind_snd fun _ => leavesPort_pure _).trans (on_bind_snd fun payload => ?_)
    rcases payload with _ | ⟨outcome, _ | ⟨_, _⟩⟩
    · exact leavesPort_throw _
    · intro port
      by_cases houtcome : outcome ≠ 0 <;> simp [houtcome]
    · exact leavesPort_throw _
  | getRelay channel =>
    rw [Call.run, map_eq_pure_bind, getRelay]
    refine (on_bind_snd fun _ => leavesPort_pure _).trans
      ((on_bind_snd fun state => ?_).trans (hstate port))
    intro port
    by_cases hchannel : 1 ≤ channel ∧ channel ≤ 8 <;> simp [hchannel]

/-- A relay is found in the state that is the payload of the reply. -/
theorem on_getRelay {channel state : UInt8} (hlow : 1 ≤ channel) (hhigh : channel ≤ 8)
    (h : (exchange addr .queryRelayState []).on port = (.ok [state], port')) :
    ((Call.getRelay channel).run addr).on port =
      (.ok (.relay (state.toNat.testBit (channel.toNat - 1))), port') := by
  have hstate : (getRelayState addr).on port = (.ok state, port') := by
    rw [getRelayState, Stateful.on_bind_of_ok h]
    rfl
  have hrelay : (getRelay addr channel).on port =
      (.ok (state.toNat.testBit (channel.toNat - 1)), port') := by
    rw [getRelay, Stateful.on_bind_of_ok hstate, if_pos ⟨hlow, hhigh⟩]
    rfl
  rw [Call.run, map_eq_pure_bind, Stateful.on_bind_of_ok hrelay]
  rfl

end Commands

/-! ### What a command comes to -/

section Steps

variable {addr : UInt8} {s s' : RlyState addr} {t : Turn addr}

private theorem Answer.length_frame (a : Answer addr) : 6 ≤ a.frame.length := by
  have hlength := (isFrame_iff.mp a.isFrame).2.2.1
  omega

/-- A frame with a short payload is decoded. -/
theorem Answer.extractResponse_eq (a : Answer addr) (h : a.payload.length < 128)
    (command : Rly8Commands) : extractResponse addr a.frame command = .ok a.payload := by
  obtain ⟨-, -, hlength, heq⟩ := isFrame_iff.mp a.isFrame
  have hannounced : a.payload.length = announced a.frame := by
    rw [heq, List.length_take, List.length_drop, hlength]
    omega
  have hagree : LengthsAgree addr a.frame :=
    ⟨fun _ => by omega, fun _ _ => iff_of_true hlength (hannounced ▸ h)⟩
  exact (((exact_iff addr a.frame command).mpr hagree).returns a.payload).mpr a.isFrame

/-- What has been received during a command. -/
theorem of_step (h : (exchanges addr).step s t = some s') :
    t.pieces.flatten = s.unread ++ t.answer.frame ∧ [] ∉ t.pieces ∧ s' = s.after t := by
  by_cases hpieces : t.pieces.flatten = s.unread ++ t.answer.frame ∧ [] ∉ t.pieces
  · exact ⟨hpieces.1, hpieces.2, (Option.some.inj ((if_pos hpieces).symm.trans h)).symm⟩
  · cases (if_neg hpieces).symm.trans h

/-- A command with a request reads until it has six bytes. -/
theorem step_of_asks (hasks : t.call.Asks) (h : (exchanges addr).step s t = some s') :
    ∃ got rest result, takeAtLeast 6 [] t.pieces = some (got, rest) ∧
      got ++ rest.flatten = s.unread ++ t.answer.frame ∧ rest <:+ t.pieces ∧
      s' = ⟨rest.flatten, s.outcomes ++ [⟨t.call, t.answer, [got], result⟩]⟩ ∧
      (got = t.answer.frame → ∀ channel : UInt8, 1 ≤ channel → channel ≤ 8 →
        t.call = .getRelay channel → ∀ state, t.answer.payload = [state] →
          result = .ok (.relay (state.toNat.testBit (channel.toNat - 1)))) := by
  obtain ⟨hpieces, -, rfl⟩ := of_step h
  -- an answer has six bytes at least, so the read ends
  have hsix : 6 ≤ ([] ++ t.pieces.flatten).length := by
    have hlength := t.answer.length_frame
    rw [List.nil_append, hpieces, List.length_append]
    omega
  obtain ⟨got, rest, htake, heq, hsuffix⟩ := exists_takeAtLeast hsix
  have hshort : t.call.request.2.length ≤ 255 := by
    cases t.call <;> simp [Call.request]
  obtain ⟨request, hrequest, -⟩ := assembleCmd_eq_ok addr t.call.request.1 hshort
  let port : RlyPort := ⟨[s.unread], t.pieces, [], []⟩
  have hcmd : (cmd request).on port = (.ok got, ⟨rest, [], [request], [got]⟩) := by
    have hwrite : (write request).on port = (.ok (), ⟨t.pieces, [], [request], []⟩) := rfl
    rw [cmd, Stateful.on_bind_of_ok hwrite]
    change (match takeAtLeast 6 [] t.pieces with
      | some (got, pieces) => _
      | none => _) = _
    rw [htake]
    rfl
  have hexchange := on_exchange hrequest hcmd
  have hport : ((t.call.run addr).on port).2 = ⟨rest, [], [request], [got]⟩ := by
    rw [on_run_snd hasks, hexchange]
  refine ⟨got, rest, ((t.call.run addr).on port).1, htake, by rwa [hpieces] at heq, hsuffix, ?_, ?_⟩
  · rw [RlyState.after, hport]
  · rintro rfl channel hlow hhigh hcall state hpayload
    have hshort : t.answer.payload.length < 128 := by
      rw [hpayload, List.length_singleton]
      decide
    rw [t.answer.extractResponse_eq hshort, hpayload, hcall] at hexchange
    rw [hcall, on_getRelay hlow hhigh hexchange]

/-- A command without one leaves everything as it is. -/
theorem step_of_not_asks (hasks : ¬ t.call.Asks) (h : (exchanges addr).step s t = some s') :
    ∃ result, s' = ⟨s.unread, s.outcomes ++ [⟨t.call, t.answer, [], result⟩]⟩ := by
  obtain ⟨-, -, rfl⟩ := of_step h
  obtain ⟨channel, onoff, hcall⟩ : ∃ channel onoff, t.call = .setRelay channel onoff := by
    cases hcall : t.call with
    | setRelay channel onoff => exact ⟨channel, onoff, rfl⟩
    | _ => exact absurd (hcall ▸ trivial) hasks
  rw [hcall] at hasks
  have hrun : ((Call.setRelay channel onoff).run addr).on ⟨[s.unread], t.pieces, [], []⟩ =
      (.error (.thrown (.outOfRange "invalid relay number, must be between 1 and 8")),
        ⟨[s.unread], t.pieces, [], []⟩) := by
    rw [Call.run, setRelay, if_pos (not_not.mp hasks)]
    rfl
  refine ⟨((t.call.run addr).on ⟨[s.unread], t.pieces, [], []⟩).1, ?_⟩
  rw [RlyState.after, hcall, hrun, List.flatten_singleton]

/-- A command is exact exactly if all before it were, and it reads all of its answer. -/
theorem exact_step_iff (h : (exchanges addr).step s t = some s') :
    s'.Exact ↔ s.Exact ∧ (t.call.Asks → LastBringsSixth t.pieces) := by
  by_cases hasks : t.call.Asks
  · obtain ⟨got, rest, result, htake, heq, hsuffix, rfl, hrelay⟩ := step_of_asks hasks h
    obtain ⟨hpieces, hne, -⟩ := of_step h
    constructor
    · intro hexact
      have hall := hexact.outcomes
      rw [List.forall_mem_append, List.forall_mem_singleton] at hall
      have hown := List.singleton_inj.mp (hall.2.own hasks)
      have hleft : rest.flatten = [] := hexact.unread
      -- no piece is empty, so nothing unread means no piece is left
      have hrest : rest = [] := by
        cases rest with
        | nil => rfl
        | cons piece rest =>
          have hpiece : piece = [] := List.flatten_eq_nil_iff.mp hleft piece List.mem_cons_self
          exact absurd (hpiece ▸ hsuffix.subset List.mem_cons_self) hne
      rw [hleft, hown, List.append_nil, List.self_eq_append_left] at heq
      obtain ⟨before, last, hlast, hbefore⟩ := last_of_takeAtLeast (by decide) (hrest ▸ htake)
      exact ⟨⟨hall.1, heq⟩, fun _ => ⟨before, last, hlast, hbefore⟩⟩
    · rintro ⟨hexact, hlast⟩
      obtain ⟨before, last, hsplit, hbefore⟩ := hlast hasks
      have hflatten : t.pieces.flatten = t.answer.frame := by
        rw [hpieces, hexact.unread, List.nil_append]
      have henough : 6 ≤ ([] ++ (before ++ [last]).flatten).length := by
        rw [← hsplit, hflatten]
        exact t.answer.length_frame
      have hread := takeAtLeast_of_last hbefore henough
      rw [← hsplit, htake, hflatten] at hread
      obtain ⟨rfl, rfl⟩ := Prod.mk.inj (Option.some.inj hread)
      refine ⟨?_, rfl⟩
      rw [List.forall_mem_append, List.forall_mem_singleton]
      exact ⟨hexact.outcomes, fun _ => rfl, hrelay rfl⟩
  · -- a call that asks nothing reads nothing
    obtain ⟨result, rfl⟩ := step_of_not_asks hasks h
    have hnew : (⟨t.call, t.answer, [], result⟩ : Outcome addr).Exact := by
      refine ⟨fun h => absurd h hasks, fun channel _ _ hcall => ?_⟩
      rw [show t.call = .getRelay channel from hcall] at hasks
      exact absurd trivial hasks
    constructor
    · intro hexact
      have hall := hexact.outcomes
      rw [List.forall_mem_append] at hall
      exact ⟨⟨hall.1, hexact.unread⟩, fun h => absurd h hasks⟩
    · rintro ⟨hexact, -⟩
      refine ⟨?_, hexact.unread⟩
      rw [List.forall_mem_append, List.forall_mem_singleton]
      exact ⟨hexact.outcomes, hnew⟩

end Steps

/-- A run of commands. -/
structure RlyRun (addr : UInt8) where
  turns : List (Turn addr)
  final : RlyState addr
  run_eq : (exchanges addr).run (exchanges addr).init turns = some final

/-- **Exchanges with the RLY-8**: those of a run are exact exactly if in each of them, the piece
that brings the sixth byte is the last one. -/
theorem exchanges_exact_iff {addr : UInt8} (run : RlyRun addr) :
    run.final.Exact ↔ ∀ t ∈ run.turns, t.call.Asks → LastBringsSixth t.pieces := by
  have hinit : (exchanges addr).init.Exact := ⟨fun _ h => (nomatch h), rfl⟩
  exact (TransitionSystem.run_iff_guarded hinit (fun _ _ _ _ hstep => exact_step_iff hstep)
    run.run_eq).trans (TransitionSystem.guarded_iff_forall_mem run.run_eq)

/-- An answer with the state of the relays. -/
def stateAnswer : Answer 0x01 where
  frame := [0x55, 0xAA, 0x01, 0x01, 0x01, 0x05, 0x07]
  payload := [0x05]
  isFrame := ⟨by decide, 0x01, by decide⟩

/-- It is received in two pieces. -/
def cutTurn : Turn 0x01 where
  call := .getRelay 1
  answer := stateAnswer
  pieces := [[0x55, 0xAA, 0x01, 0x01, 0x01, 0x05], [0x07]]

def cutRun : RlyRun 0x01 where
  turns := [cutTurn]
  final := ⟨[0x07], [⟨cutTurn.call, stateAnswer, [[0x55, 0xAA, 0x01, 0x01, 0x01, 0x05]],
    .error (.thrown (.deviceError "received checksum was: 5, but expected: 2"))⟩]⟩
  run_eq := by rfl

/-- The last byte is left for the next command. -/
theorem not_exchanges_exact : ¬ cutRun.final.Exact := by
  rw [exchanges_exact_iff]
  intro h
  obtain ⟨before, last, hsplit, hbefore⟩ := h cutTurn List.mem_cons_self trivial
  have hinit : before = [[0x55, 0xAA, 0x01, 0x01, 0x01, 0x05]] := by
    have hdrop := congrArg List.dropLast hsplit
    rwa [List.dropLast_concat, eq_comm] at hdrop
  rw [hinit] at hbefore
  exact absurd hbefore (by decide)

end Rly8

end Foxtrot
