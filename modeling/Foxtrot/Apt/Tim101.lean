import Foxtrot.Apt.Completion
import Foxtrot.Apt.Parameters

/-!
# The TIM101

`TIM101::absolute_move` first asks where its four channels are, and does not move a channel that is
at the target. The cases of its switch run into each other: it does not move either if one of the
channels behind is at the target (`absoluteMove_movesUnlessThere_iff`).

The statement is about the commands that the call writes. The frame that enables the channel comes
first, whether or not the channel is moved then; the command for a move is six bytes of header and
six of data, which say the channel and the target.
-/

namespace Foxtrot

namespace Apt

namespace Tim101

section Functions

variable {σ : Type}

/-! ### The status -/

/-- The loop of `TIM101::get_status_update`, with at most so many rounds: what the `try` block comes
to, and what it does if that is a `DeviceError`. `none` is a status that nothing has been copied to.
-/
def statusLoop : ℕ → UInt16 → AptM σ (Option MotorStatus)
  | 0, _ => throw .unfinished
  | rounds + 1, receivedOpcode =>
    if receivedOpcode ≠ Bsc203Opcodes.pzmotGetStatusupdate.code then do
      let received ← (receiveSync .genericUsb).attempt
      match received with
      | .error (.thrown (.deviceError _)) => statusLoop rounds receivedOpcode
      | .error e => throw e
      | .ok (ret, opcode) =>
        if opcode ≠ Bsc203Opcodes.pzmotGetStatusupdate.code then
          -- `receive_message_sync` has thrown "received unexpected opcode"
          statusLoop rounds opcode
        else
          match ret.data with
          -- "expected struct data in response but didn't get any!"
          | none => statusLoop rounds opcode
          | some data =>
            if data.length ≠ Packed.size MotorStatus then
              throwing (.exception "mismatch between received data size and struct size!")
            else do
              stopUpdateMessages .genericUsb
              flush
              return some (Packed.value data)
    else
      return none

/-- `TIM101::get_status_update`. Each round of the loop but the last reads a message. -/
def getStatusUpdate : AptM σ (Option MotorStatus) := do
  startUpdateMessages .genericUsb
  flush
  let port ← get
  statusLoop (port.incoming.length + 1) 0

/-! ### Moving to a position -/

/-- The position of a channel. -/
def position (motorinit : MotorStatus) : MotorChannelIdents → UInt32
  | .channel1 => motorinit.channel1.position
  | .channel2 => motorinit.channel2.position
  | .channel3 => motorinit.channel3.position
  | .channel4 => motorinit.channel4.position

/-- The `switch` of `TIM101::absolute_move`: whether it returns. A case whose test fails runs into
the next one. -/
def switchReturns (motorinit : MotorStatus) (distance : UInt32) : MotorChannelIdents → Bool
  | .channel1 => motorinit.channel1.position = distance || motorinit.channel2.position = distance ||
      motorinit.channel3.position = distance || motorinit.channel4.position = distance
  | .channel2 => motorinit.channel2.position = distance ||
      motorinit.channel3.position = distance || motorinit.channel4.position = distance
  | .channel3 => motorinit.channel3.position = distance || motorinit.channel4.position = distance
  | .channel4 => motorinit.channel4.position = distance

/-- `TIM101::absolute_move`. -/
def absoluteMove (chan : MotorChannelIdents) (distance : Int32) : AptM σ Unit := do
  setChannelenable .genericUsb chan true
  let motorinit ← getStatusUpdate
  match motorinit with
  -- the positions that are compared have not been set
  | none => throw .undefined
  | some motorinit =>
    if switchReturns motorinit distance.toUInt32 chan then
      return
    else do
      transmitMessageData .pzmotMoveAbsolute (getMoveRequestHeaderData distance chan) .genericUsb
      startUpdateMessages .genericUsb
      let port ← get
      awaitCode .pzmotMoveCompleted port.polls.length
      stopUpdateMessages .genericUsb
      flush
      let _ ← getStatusUpdate

end Functions

/-! ### Moving unless there -/

/-- The frame that enables a channel. -/
def enableFrame (chan : MotorChannelIdents) : List UInt8 :=
  transmitHeader .modSetChanenablestate chan.code 0x01 .genericUsb .host

/-- The frame that commands a move: its data are the channel and the target. -/
def moveFrame (chan : MotorChannelIdents) (distance : Int32) : List UInt8 :=
  transmitData .pzmotMoveAbsolute (Packed.bytes (chan.code.toUInt16, distance)) .genericUsb .host

/-- **A channel is moved unless it is at the target**: the call returns without a command exactly if
the channel is there, and otherwise commands the move once. -/
structure MovesUnlessThere (motorinit : MotorStatus) (chan : MotorChannelIdents) (distance : Int32)
    (result : Except Fault Unit) (log : List PortUse) : Prop where
  skips : (result = .ok () ∧ commands .genericUsb log = [enableFrame chan]) ↔
    position motorinit chan = distance.toUInt32
  moves : position motorinit chan ≠ distance.toUInt32 →
    commands .genericUsb log = [enableFrame chan, moveFrame chan distance]

/-- A channel that comes later in the switch. -/
def Later (chan other : MotorChannelIdents) : Prop := chan.code < other.code

/-- A message in front of the status that is read over. -/
def ReadOver : Arrival → Prop
  | .error e => ∃ what, e = .deviceError what
  | .ok m => m.source ≠ Destination.genericUsb.code ∨
      m.opcode ≠ Bsc203Opcodes.pzmotGetStatusupdate.code

/-- A status update. -/
def statusMessage (motorinit : MotorStatus) : Message :=
  ⟨Destination.genericUsb.code, Bsc203Opcodes.pzmotGetStatusupdate.code, 56, 0,
    some (Packed.bytes motorinit)⟩

private theorem exists_channel_iff {P : MotorChannelIdents → Prop} :
    (∃ chan, P chan) ↔ P .channel1 ∨ P .channel2 ∨ P .channel3 ∨ P .channel4 := by
  constructor
  · rintro ⟨chan, h⟩
    cases chan <;> simp [h]
  · rintro (h | h | h | h) <;> exact ⟨_, h⟩

/-- The switch returns if the channel, or one that comes later, is at the target. -/
theorem switchReturns_iff (motorinit : MotorStatus) (distance : UInt32)
    (chan : MotorChannelIdents) : switchReturns motorinit distance chan = true ↔
      position motorinit chan = distance ∨
        ∃ other, Later chan other ∧ position motorinit other = distance := by
  rw [exists_channel_iff]
  cases chan <;> simp [switchReturns, position, Later, MotorChannelIdents.code, or_assoc]

section Functions

variable {σ : Type} {port : Port σ} {rest : List Arrival}

/-! ### Getting the status

Messages in front of the status are read over, one round of the loop for each. -/

/-- A message that is read over takes a round of the loop. -/
theorem ReadOver.on_statusLoop {a : Arrival} (ha : ReadOver a) (port : Port σ)
    (rest : List Arrival) {op : UInt16} (hop : op ≠ Bsc203Opcodes.pzmotGetStatusupdate.code)
    (rounds : ℕ) :
    ∃ (op' : UInt16) (uses : List PortUse), op' ≠ Bsc203Opcodes.pzmotGetStatusupdate.code ∧
      (uses = [.receive] ∨ uses = [.receive, .flush]) ∧
      (statusLoop (rounds + 1) op).on (port.awaiting (a :: rest)) =
        (statusLoop rounds op').on ((port.noted uses).awaiting rest) := by
  cases a with
  | error e =>
    obtain ⟨what, rfl⟩ := ha
    refine ⟨op, [.receive], hop, .inl rfl, ?_⟩
    rw [statusLoop, if_pos hop]
    rfl
  | ok m =>
    by_cases hsource : m.source = Destination.genericUsb.code
    · have hopcode : m.opcode ≠ Bsc203Opcodes.pzmotGetStatusupdate.code :=
        ha.resolve_left (not_not.mpr hsource)
      have hreceived : (receiveSync .genericUsb).attempt.on (port.awaiting (.ok m :: rest)) =
          (.ok (.ok (m.reply, m.opcode)), (port.noted [.receive]).awaiting rest) := by
        rw [Stateful.on_attempt, on_receiveSync_ok port hsource]
      refine ⟨m.opcode, [.receive], hopcode, .inl rfl, ?_⟩
      rw [statusLoop, if_pos hop, Stateful.on_bind_of_ok hreceived]
      dsimp only
      rw [if_pos hopcode]
    · have hreceived : (receiveSync .genericUsb).attempt.on (port.awaiting (.ok m :: rest)) =
          (.ok (.error (.thrown (.deviceError "received unexpected source"))),
            ((port.noted [.receive]).noted [.flush]).awaiting rest) := by
        rw [Stateful.on_attempt, on_receiveSync_unexpected port hsource]
      refine ⟨op, [.receive, .flush], hop, .inr rfl, ?_⟩
      rw [statusLoop, if_pos hop, Stateful.on_bind_of_ok hreceived, Port.noted_noted]
      rfl

/-- The loop ends at the status update. -/
theorem on_statusLoop (port : Port σ) (motorinit : MotorStatus) (rest : List Arrival)
    {skipped : List Arrival}
    (hskipped : ∀ a ∈ skipped, ReadOver a) {rounds : ℕ} (hrounds : skipped.length < rounds)
    {op : UInt16} (hop : op ≠ Bsc203Opcodes.pzmotGetStatusupdate.code) :
    ∃ port', (statusLoop rounds op).on
        (port.awaiting (skipped ++ .ok (statusMessage motorinit) :: rest)) =
      (.ok (some motorinit), port') := by
  induction skipped generalizing rounds op port with
  | nil =>
    obtain ⟨rounds, rfl⟩ := Nat.exists_eq_add_one_of_ne_zero hrounds.ne'
    have hreceived : (receiveSync .genericUsb).attempt.on
        (port.awaiting (.ok (statusMessage motorinit) :: rest)) =
          (.ok (.ok ((statusMessage motorinit).reply, (statusMessage motorinit).opcode)),
            (port.noted [.receive]).awaiting rest) := by
      rw [Stateful.on_attempt, on_receiveSync_ok port rfl]
    have hlength : (Packed.bytes motorinit).length = Packed.size MotorStatus :=
      Packed.length_bytes motorinit
    refine ⟨(((port.noted [.receive]).awaiting rest).written (updatesOff .genericUsb)).noted
      [.flush], ?_⟩
    rw [List.nil_append, statusLoop, if_pos hop, Stateful.on_bind_of_ok hreceived]
    simp only [statusMessage, ne_eq, not_true_eq_false, if_false, hlength, Packed.value_bytes]
    rfl
  | cons a skipped ih =>
    -- one round for what is read over, and the rounds that are left suffice for the others
    obtain ⟨rounds, rfl⟩ := Nat.exists_eq_add_one_of_ne_zero (Nat.ne_zero_of_lt hrounds)
    obtain ⟨op', uses, hop', -, hstep⟩ := (hskipped a List.mem_cons_self).on_statusLoop port
      (skipped ++ .ok (statusMessage motorinit) :: rest) hop rounds
    rw [List.cons_append, hstep]
    exact ih _ (fun a ha => hskipped a (List.mem_cons_of_mem _ ha))
      (Nat.lt_of_succ_lt_succ hrounds) hop'

/-- The status is got from a controller that sends nothing else in front of it. -/
theorem on_getStatusUpdate (motorinit : MotorStatus) {skipped : List Arrival}
    (hskipped : ∀ a ∈ skipped, ReadOver a)
    (hincoming : port.incoming = skipped ++ .ok (statusMessage motorinit) :: rest)
    (hsilent : ∀ s bytes, (port.react s bytes).2 = []) :
    ∃ port', getStatusUpdate.on port = (.ok (some motorinit), port') := by
  have hport : (port.written (updatesOn .genericUsb)).noted [.flush] =
      ((port.written (updatesOn .genericUsb)).noted [.flush]).awaiting
        (skipped ++ .ok (statusMessage motorinit) :: rest) := by
    rw [Port.awaiting, Port.noted, Port.written, hsilent, List.append_nil, hincoming]
  have hrounds : skipped.length <
      (skipped ++ .ok (statusMessage motorinit) :: rest : List Arrival).length + 1 := by
    rw [List.length_append]
    exact Nat.lt_succ_of_le (Nat.le_add_right _ _)
  have hzero : (0 : UInt16) ≠ Bsc203Opcodes.pzmotGetStatusupdate.code := by decide
  obtain ⟨port', hon⟩ := on_statusLoop ((port.written (updatesOn .genericUsb)).noted [.flush])
    motorinit rest hskipped hrounds hzero
  refine ⟨port', ?_⟩
  rw [getStatusUpdate, startUpdateMessages, transmitMessage,
    Stateful.on_bind_of_ok (on_write port _), Stateful.on_bind_of_ok (on_flush _)]
  change (statusLoop (((port.written (updatesOn .genericUsb)).noted [.flush]).incoming.length + 1)
    0).on ((port.written (updatesOn .genericUsb)).noted [.flush]) = _
  rw [hport]
  exact hon

end Functions

section Moves

variable {σ : Type} {dest : Destination}

/-! ### Commands -/

private theorem quiet_statusLoop (rounds : ℕ) (op : UInt16) :
    Quiet .genericUsb (statusLoop rounds op : AptM σ (Option MotorStatus)) := by
  induction rounds generalizing op with
  | zero => exact Quiet.throw _
  | succ rounds ih =>
    rw [statusLoop]
    refine Quiet.ite ((quiet_receiveSync _).attempt.bind fun received => ?_) (Quiet.pure _)
    rcases received with (e | _ | _) | ⟨ret, opcode⟩
    · cases e with
      | deviceError what => exact ih op
      | _ => exact Quiet.throw _
    · exact Quiet.throw _
    · exact Quiet.throw _
    · refine Quiet.ite (ih opcode) ?_
      cases ret.data with
      | none => exact ih opcode
      | some data =>
        exact Quiet.ite (Quiet.throw _)
          (quiet_stopUpdateMessages.bind fun _ => quiet_flush.bind fun _ => Quiet.pure _)

private theorem quiet_getStatusUpdate :
    Quiet .genericUsb (getStatusUpdate : AptM σ (Option MotorStatus)) :=
  quiet_startUpdateMessages.bind fun _ => quiet_flush.bind fun _ => quiet_get.bind fun _ =>
    quiet_statusLoop _ _

/-- The data of the command are the channel and the target. -/
theorem getMoveRequestHeaderData_eq (distance : Int32) (chan : MotorChannelIdents) :
    getMoveRequestHeaderData distance chan = Packed.bytes (chan.code.toUInt16, distance) := by
  have hchan : Packed.bytes chan.code.toUInt16 = [chan.code, 0] := by
    cases chan <;> rfl
  have hlength : (Packed.bytes distance).length = 4 := Packed.length_bytes distance
  rw [getMoveRequestHeaderData, Packed.bytes_mk, hchan, List.take_of_length_le hlength.le]

private theorem commands_enableFrame (chan : MotorChannelIdents) (port : Port σ) :
    commands .genericUsb (port.written (enableFrame chan)).log =
      commands .genericUsb port.log ++ [enableFrame chan] := by
  refine commands_written ?_ ?_ port <;> cases chan <;> decide

private theorem commands_moveFrame (chan : MotorChannelIdents) (distance : Int32) (port : Port σ) :
    commands .genericUsb (port.written (moveFrame chan distance)).log =
      commands .genericUsb port.log ++ [moveFrame chan distance] := by
  have hlength : (moveFrame chan distance).length = 12 := by
    rw [moveFrame, transmitData_eq, List.length_append, Packed.length_bytes]
    rfl
  have hne : ∀ bytes : List UInt8, bytes.length = 6 → moveFrame chan distance ≠ bytes := by
    rintro bytes hbytes rfl
    omega
  exact commands_written (hne _ rfl) (hne _ rfl) port

/-- What follows the command gives no other one. -/
theorem quiet_awaitMove : Quiet .genericUsb (do
    startUpdateMessages .genericUsb
    let port ← get
    awaitCode .pzmotMoveCompleted port.polls.length
    stopUpdateMessages .genericUsb
    flush
    let _ ← getStatusUpdate : AptM σ Unit) :=
  quiet_startUpdateMessages.bind fun _ => quiet_get.bind fun _ =>
    (quiet_awaitCode _ _ _).bind fun _ => quiet_stopUpdateMessages.bind fun _ =>
      quiet_flush.bind fun _ => quiet_getStatusUpdate.bind fun _ => Quiet.pure _

section AbsoluteMove

variable {port port' : Port σ} {chan : MotorChannelIdents} {distance : Int32}
  {motorinit : MotorStatus}

/-- Until the status is there, the channel has been enabled. -/
theorem commands_of_status
    (hstatus : getStatusUpdate.on (port.written (enableFrame chan)) =
      (.ok (some motorinit), port')) :
    commands .genericUsb port'.log = commands .genericUsb port.log ++ [enableFrame chan] := by
  have hquiet := quiet_getStatusUpdate.commands_eq (port.written (enableFrame chan))
  rwa [hstatus, commands_enableFrame] at hquiet

/-- If the switch returns, then the call does. -/
theorem absoluteMove_of_returns (h : switchReturns motorinit distance.toUInt32 chan = true)
    (hstatus : getStatusUpdate.on (port.written (enableFrame chan)) =
      (.ok (some motorinit), port')) :
    ((absoluteMove chan distance).on port).1 = .ok () ∧
      commands .genericUsb ((absoluteMove chan distance).on port).2.log =
        commands .genericUsb port.log ++ [enableFrame chan] := by
  have henable : (setChannelenable .genericUsb chan true).on port =
      (.ok (), port.written (enableFrame chan)) := rfl
  rw [absoluteMove, Stateful.on_bind_of_ok henable, Stateful.on_bind_of_ok hstatus]
  dsimp only
  rw [if_pos h]
  exact ⟨rfl, commands_of_status hstatus⟩

/-- Otherwise the move is commanded. -/
theorem absoluteMove_of_not_returns (h : switchReturns motorinit distance.toUInt32 chan ≠ true)
    (hstatus : getStatusUpdate.on (port.written (enableFrame chan)) =
      (.ok (some motorinit), port')) :
    commands .genericUsb ((absoluteMove chan distance).on port).2.log =
      commands .genericUsb port.log ++ [enableFrame chan, moveFrame chan distance] := by
  have henable : (setChannelenable .genericUsb chan true).on port =
      (.ok (), port.written (enableFrame chan)) := rfl
  have hmove : (transmitMessageData .pzmotMoveAbsolute (getMoveRequestHeaderData distance chan)
      .genericUsb).on port' = (.ok (), port'.written (moveFrame chan distance)) := by
    rw [getMoveRequestHeaderData_eq]
    rfl
  rw [absoluteMove, Stateful.on_bind_of_ok henable, Stateful.on_bind_of_ok hstatus]
  dsimp only
  rw [if_neg h, Stateful.on_bind_of_ok hmove, quiet_awaitMove.commands_eq, commands_moveFrame,
    commands_of_status hstatus, List.append_assoc]
  rfl

end AbsoluteMove

end Moves

/-- **The moves of a TIM101**: for every channel and target, whatever the positions are and whatever
is read over in front of them, the channel is moved unless it is at the target, exactly if it is
there or none of the channels that come later is. -/
theorem absoluteMove_movesUnlessThere_iff (chan : MotorChannelIdents) (distance : Int32)
    (motorinit : MotorStatus) (skipped : List { a // ReadOver a }) (rest : List Arrival)
    (polls : List (List UInt8)) :
    MovesUnlessThere motorinit chan distance
        ((absoluteMove chan distance).on { Port.receiving
          (skipped.map (·.1) ++ .ok (statusMessage motorinit) :: rest) with polls := polls }).1
        ((absoluteMove chan distance).on { Port.receiving
          (skipped.map (·.1) ++ .ok (statusMessage motorinit) :: rest) with
            polls := polls }).2.log ↔
      position motorinit chan = distance.toUInt32 ∨
        ∀ other, Later chan other → position motorinit other ≠ distance.toUInt32 := by
  have hskipped : ∀ a ∈ skipped.map (·.1), ReadOver a := by
    intro a ha
    obtain ⟨r, -, rfl⟩ := List.mem_map.mp ha
    exact r.2
  generalize hport : { Port.receiving
    (skipped.map (·.1) ++ .ok (statusMessage motorinit) :: rest) with polls := polls } = port
  have hlog : commands .genericUsb port.log = [] := by
    rw [← hport]
    rfl
  obtain ⟨port', hstatus⟩ : ∃ port', getStatusUpdate.on (port.written (enableFrame chan)) =
      (.ok (some motorinit), port') := by
    have hincoming : (port.written (enableFrame chan)).incoming =
        skipped.map (·.1) ++ .ok (statusMessage motorinit) :: rest := by
      rw [← hport]
      exact List.append_nil _
    refine on_getStatusUpdate motorinit hskipped hincoming ?_
    rw [← hport]
    exact fun _ _ => rfl
  have hreturns := switchReturns_iff motorinit distance.toUInt32 chan
  -- where the switch returns it may be for another channel, and where it does not none is there
  by_cases h : switchReturns motorinit distance.toUInt32 chan = true
  · obtain ⟨hok, hcommands⟩ := absoluteMove_of_returns h hstatus
    rw [hlog, List.nil_append] at hcommands
    have hthere : (∀ other, Later chan other → position motorinit other ≠ distance.toUInt32) →
        position motorinit chan = distance.toUInt32 := by
      intro hothers
      obtain hchan | ⟨other, hlater, hother⟩ := hreturns.mp h
      · exact hchan
      · exact absurd hother (hothers other hlater)
    rw [or_iff_left_of_imp hthere]
    constructor
    · exact fun hmoves => hmoves.skips.mp ⟨hok, hcommands⟩
    · exact fun hchan => ⟨iff_of_true ⟨hok, hcommands⟩ hchan, fun hne => absurd hchan hne⟩
  · have hcommands := absoluteMove_of_not_returns h hstatus
    rw [hlog, List.nil_append] at hcommands
    have hne : position motorinit chan ≠ distance.toUInt32 :=
      fun hchan => h (hreturns.mpr (.inl hchan))
    have hothers : ∀ other, Later chan other → position motorinit other ≠ distance.toUInt32 :=
      fun other hlater hother => h (hreturns.mpr (.inr ⟨other, hlater, hother⟩))
    refine iff_of_true ⟨iff_of_false ?_ hne, fun _ => hcommands⟩ (.inr hothers)
    rintro ⟨-, hnone⟩
    cases hcommands.symm.trans hnone

/-- The second channel is at the target of the first. -/
def secondAtTarget : MotorStatus := ⟨⟨1, 0, 0, 0⟩, ⟨2, 5, 0, 0⟩, ⟨4, 0, 0, 0⟩, ⟨8, 0, 0, 0⟩⟩

/-- The first channel is not moved. -/
theorem not_absoluteMove_movesUnlessThere :
    ¬ MovesUnlessThere secondAtTarget .channel1 5
      ((absoluteMove .channel1 5).on (Port.receiving [.ok (statusMessage secondAtTarget)])).1
      ((absoluteMove .channel1 5).on
        (Port.receiving [.ok (statusMessage secondAtTarget)])).2.log := by
  intro h
  have hcommands := h.moves (by decide)
  revert hcommands
  decide +kernel

end Tim101

end Apt

end Foxtrot
