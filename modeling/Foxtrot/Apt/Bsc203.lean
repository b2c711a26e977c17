import Foxtrot.Apt.Completion

/-!
# The BSC203

`BSC203::get_status_update` reads messages until a status update comes, but the variables that it
tests are those of the first message: the ones in the loop are declared anew. So it returns a status
only if that comes first (`getStatusUpdate_returnsStatus_iff`).

`BSC203::set_channelenable` overrides the function of `APT`, and calls itself where it should call
that. The moves begin with it, so none of them ever commands the motor (`moves_never_commandOnce`).

For the status the first message decides: in the loop the variables are declared anew and the outer
ones keep what the first message has set, so a loop that is entered never leaves by its condition
(`exists_does_statusRetries`). For the moves the override calls itself before anything is
transmitted, at every depth of calls (`on_setChannelenable`), which is stated with the depth as
fuel.
-/

namespace Foxtrot

namespace Apt

namespace Bsc203

section Functions

variable {σ : Type}

/-! ### The status -/

/-- The loop of `BSC203::get_status_update`, with at most so many rounds. The message that it
receives hides the first one in its body only, so that `recvOpcode` does not change. -/
def statusRetries (dest : Destination) (recvOpcode : UInt16) : ℕ → ℕ → AptM σ Unit
  | 0, _ => throw .unfinished
  | rounds + 1, retries =>
    if recvOpcode ≠ Bsc203Opcodes.motGetStatusupdate.code then do
      let _ ← receiveMessageSyncCheckAny dest
      if retries > 10 then
        throwing (.deviceError "did 10 retries and no motor status update message!")
      else
        statusRetries dest recvOpcode rounds (retries + 1)
    else
      return

/-- `BSC203::get_status_update` within its scope guard. -/
def statusUpdate (dest : Destination) : AptM σ ChannelStatus := do
  let (ret, recvOpcode) ← receiveMessageSyncCheckAny dest
  statusRetries dest recvOpcode 12 0
  match ret.data with
  | none => throwing (.deviceError "expected data array but none returned!")
  | some data => MonadExcept.ofExcept (copyDataToStatus data)

/-- `BSC203::get_status_update`. -/
def getStatusUpdate (dest : Destination) : AptM σ ChannelStatus :=
  withUpdateMessages dest (statusUpdate dest)

/-! ### The moves -/

/-- `BSC203::set_channelenable`. What it calls by its own name is itself. -/
def setChannelenable (dest : Destination) (channel : MotorChannelIdents) (onoff : Bool) :
    (depth : ℕ) → AptM σ Unit
  | 0 => throw .unfinished
  | depth + 1 => do
    setChannelenable dest channel onoff depth
    transmitMessage .motReqStatusupdate 0x01 0 dest

/-- What the moves do after their command: they wait for the completion message. -/
def awaitMove (dest : Destination) : AptM σ Unit := do
  startUpdateMessages dest
  let port ← get
  awaitCode .motMoveCompleted port.polls.length
  stopUpdateMessages dest
  flush
  let _ ← getStatusUpdate dest

/-- `BSC203::relative_move`. -/
def relativeMove (depth : ℕ) (dest : Destination) (chan : MotorChannelIdents) (distance : Int32) :
    AptM σ Unit := do
  setChannelenable dest .channel1 true depth
  transmitMessageData .motMoveRelative (getMoveRequestHeaderData distance chan) dest
  awaitMove dest

/-- `BSC203::absolute_move`. -/
def absoluteMove (depth : ℕ) (dest : Destination) (chan : MotorChannelIdents) (distance : UInt32) :
    AptM σ Unit := do
  setChannelenable dest .channel1 true depth
  let motorinit ← getStatusUpdate dest
  if motorinit.position = distance then
    return
  else
    transmitMessageData .motMoveAbsolute (getMoveRequestHeaderData distance chan) dest
    awaitMove dest

/-- `BSC203::jog_move`. -/
def jogMove (depth : ℕ) (dest : Destination) (channel : MotorChannelIdents) (direction : UInt8) :
    AptM σ Unit := do
  setChannelenable dest .channel1 true depth
  transmitMessage .motMoveJog channel.code direction dest
  awaitMove dest

end Functions

/-! ### The status that is returned -/

/-- A status update. -/
def IsStatus (dest : Destination) (m : Message) : Prop :=
  m.source = dest.code ∧ m.opcode = Bsc203Opcodes.motGetStatusupdate.code

/-- A message that is not a status update. -/
def IsOther (dest : Destination) (m : Message) : Prop :=
  m.source = dest.code ∧ m.opcode ≠ Bsc203Opcodes.motGetStatusupdate.code

/-- The first status update among the thirteen messages that are read at most has the status. -/
def FirstStatus (dest : Destination) (incoming : List Arrival) (stat : ChannelStatus) : Prop :=
  ∃ (others : List Message) (m : Message) (rest : List Arrival) (data : List UInt8),
    incoming = others.map .ok ++ .ok m :: rest ∧ others.length < 13 ∧
    (∀ other ∈ others, IsOther dest other) ∧ IsStatus dest m ∧ m.reply.data = some data ∧
      data.length = Packed.size ChannelStatus ∧ Packed.value data = stat

/-- **The status is returned**, or an exception is thrown after a bounded number of messages. -/
structure ReturnsStatus (dest : Destination) (incoming : List Arrival)
    (result : Except Fault ChannelStatus) (log : List PortUse) : Prop where
  returns : ∀ stat, result = .ok stat ↔ FirstStatus dest incoming stat
  throws : (∃ stat, result = .ok stat) ∨ ∃ e, result = .error (.thrown e)
  bounded : log.count .receive ≤ 13

/-- The first message decides: if it is a status update with data, then they have the size of a
status, and if it is another message, then no status follows. -/
structure FirstDecides (dest : Destination) (incoming : List Arrival) : Prop where
  sized : ∀ m rest, incoming = .ok m :: rest → IsStatus dest m →
    ∀ data, m.reply.data = some data → data.length = Packed.size ChannelStatus
  noLater : ∀ m rest, incoming = .ok m :: rest → IsOther dest m →
    ∀ stat, ¬ FirstStatus dest incoming stat

section Status

variable {σ : Type} {dest : Destination} {port : Port σ} {incoming rest : List Arrival}
  {m : Message}

/-- With another message first, the loop does not end but by an exception. -/
theorem exists_does_statusRetries {recvOpcode : UInt16}
    (hother : recvOpcode ≠ Bsc203Opcodes.motGetStatusupdate.code) {rounds retries : ℕ}
    (hrounds : 12 ≤ rounds + retries) (hretries : retries ≤ 11) :
    ∃ e uses, Does (statusRetries dest recvOpcode rounds retries) (port.awaiting incoming)
      (.error (.thrown e)) uses ∧ uses.count .receive ≤ rounds := by
  induction rounds generalizing retries port incoming with
  | zero => omega
  | succ rounds ih =>
    rw [statusRetries, if_pos hother]
    obtain ⟨m, rest, rfl, -, hon⟩ | ⟨-, e, uses, rest, huses, hon⟩ :=
      receiveSync_cases port dest incoming
    · by_cases hlast : retries > 10
      · refine ⟨.deviceError "did 10 retries and no motor status update message!", [.receive], ?_,
          by simp⟩
        rw [Does, Stateful.on_bind_of_ok hon, if_pos hlast]
        exact ⟨rfl, rfl⟩
      · obtain ⟨e, uses, hdoes, hcount⟩ : ∃ e uses,
            Does (statusRetries dest recvOpcode rounds (retries + 1))
              ((port.noted [.receive]).awaiting rest) (.error (.thrown e)) uses ∧
            uses.count .receive ≤ rounds := ih (by omega) (by omega)
        refine ⟨e, .receive :: uses, ?_, List.count_cons_self.trans_le (Nat.succ_le_succ hcount)⟩
        rw [Does, Stateful.on_bind_of_ok hon, if_neg hlast, hdoes.1, hdoes.2]
        exact ⟨rfl, List.append_assoc port.log _ _⟩
    · refine ⟨e, uses, ?_, ?_⟩
      · rw [Does, Stateful.on_bind_of_error hon]
        exact ⟨rfl, rfl⟩
      · rcases huses with rfl | rfl <;> simp

/-- A status update that comes first is copied. -/
theorem does_statusUpdate_status (hm : IsStatus dest m) :
    Does (statusUpdate dest) (port.awaiting (.ok m :: rest))
      (match m.reply.data with
        | none => .error (.thrown (.deviceError "expected data array but none returned!"))
        | some data => copyDataToStatus data) [.receive] := by
  have hdone : (statusRetries dest m.opcode 12 0 : AptM σ Unit) = pure () := by
    rw [statusRetries, if_neg (not_not.mpr hm.2)]
  rw [Does, statusUpdate, Stateful.on_bind_of_ok (on_receiveSync_ok port hm.1)]
  simp only [hdone, pure_bind]
  cases m.reply.data with
  | none => exact ⟨rfl, rfl⟩
  | some data =>
    dsimp only
    cases (copyDataToStatus data : Except Fault ChannelStatus) <;> exact ⟨rfl, rfl⟩

/-- Without a status update that comes first, an exception is thrown. -/
theorem exists_does_statusUpdate (h : ∀ m rest, incoming = .ok m :: rest → ¬ IsStatus dest m) :
    ∃ e uses, Does (statusUpdate dest) (port.awaiting incoming) (.error (.thrown e)) uses ∧
      uses.count .receive ≤ 13 := by
  obtain ⟨m, rest, rfl, hsource, hon⟩ | ⟨-, e, uses, rest, huses, hon⟩ :=
    receiveSync_cases port dest incoming
  · have hother : m.opcode ≠ Bsc203Opcodes.motGetStatusupdate.code :=
      fun hopcode => h m rest rfl ⟨hsource, hopcode⟩
    obtain ⟨e, uses, hdoes, hcount⟩ : ∃ e uses, Does (statusRetries dest m.opcode 12 0)
        ((port.noted [.receive]).awaiting rest) (.error (.thrown e)) uses ∧
        uses.count .receive ≤ 12 := exists_does_statusRetries hother (by omega) (by omega)
    refine ⟨e, .receive :: uses, ?_, List.count_cons_self.trans_le (Nat.succ_le_succ hcount)⟩
    rw [Does, statusUpdate, Stateful.on_bind_of_ok hon]
    dsimp only
    rw [Stateful.on_bind_of_error (Prod.ext hdoes.1 rfl), hdoes.2]
    exact ⟨rfl, List.append_assoc port.log _ _⟩
  · refine ⟨e, uses, ?_, ?_⟩
    · rw [Does, statusUpdate, Stateful.on_bind_of_error hon]
      exact ⟨rfl, rfl⟩
    · rcases huses with rfl | rfl <;> simp

/-- A status update that comes first is the first one. -/
theorem firstStatus_iff (hm : IsStatus dest m) (stat : ChannelStatus) :
    FirstStatus dest (.ok m :: rest) stat ↔ ∃ data, m.reply.data = some data ∧
      data.length = Packed.size ChannelStatus ∧ Packed.value data = stat := by
  constructor
  · rintro ⟨others, m', rest', data, hincoming, -, hothers, -, hdata⟩
    cases others with
    | nil =>
      obtain ⟨hm', -⟩ := List.cons.inj hincoming
      rw [Except.ok.inj hm']
      exact ⟨data, hdata⟩
    | cons other others =>
      obtain ⟨hother, -⟩ := List.cons.inj hincoming
      rw [Except.ok.inj hother] at hm
      exact absurd hm.2 (hothers other List.mem_cons_self).2
  · rintro ⟨data, hdata⟩
    exact ⟨[], m, rest, data, rfl, by decide, by simp, hm, hdata⟩

/-- A status update that does not come first comes behind another message. -/
theorem exists_other_of_firstStatus {stat : ChannelStatus}
    (h : ∀ m rest, incoming = .ok m :: rest → ¬ IsStatus dest m)
    (hstat : FirstStatus dest incoming stat) :
    ∃ m rest, incoming = .ok m :: rest ∧ IsOther dest m := by
  obtain ⟨others, m, rest, data, rfl, -, hothers, hm, -⟩ := hstat
  cases others with
  | nil => exact absurd hm (h m rest rfl)
  | cons other others => exact ⟨other, _, rfl, hothers other List.mem_cons_self⟩

/-- What is read is read within the guard. -/
theorem getStatusUpdate_on {r : Except Fault ChannelStatus} {uses : List PortUse}
    (h : Does (statusUpdate dest)
      (((Port.receiving incoming).noted [.write (updatesOn dest)]).awaiting incoming) r uses) :
    ((getStatusUpdate dest).on (Port.receiving incoming)).1 = r ∧
      ((getStatusUpdate dest).on (Port.receiving incoming)).2.log.count .receive =
        uses.count .receive := by
  have hbody : Does (statusUpdate dest)
      ((Port.receiving incoming).written (updatesOn dest)) r uses := by
    rw [Port.written_receiving]
    exact h
  have hdoes : Does (getStatusUpdate dest) (Port.receiving incoming) r _ :=
    Does.withUpdateMessages hbody
  refine ⟨hdoes.1, ?_⟩
  rw [hdoes.2]
  cases leaves r <;> simp [Port.receiving]

end Status

/-- **The status update of a BSC203**: whatever is received, the status is returned or an exception
is thrown after thirteen messages at most, exactly if the first message decides. -/
theorem getStatusUpdate_returnsStatus_iff (dest : Destination) (incoming : List Arrival) :
    ReturnsStatus dest incoming ((getStatusUpdate dest).on (Port.receiving incoming)).1
        ((getStatusUpdate dest).on (Port.receiving incoming)).2.log ↔
      FirstDecides dest incoming := by
  -- the first message decides: nothing that comes later is returned
  by_cases hfirst : ∃ m rest, incoming = .ok m :: rest ∧ IsStatus dest m
  · obtain ⟨m, rest, rfl, hm⟩ := hfirst
    obtain ⟨hr, hcount⟩ := getStatusUpdate_on (does_statusUpdate_status hm)
    have hbounded : ((getStatusUpdate dest).on
        (Port.receiving (.ok m :: rest))).2.log.count .receive ≤ 13 := by
      rw [hcount]
      simp
    have hnoLater : ∀ m' rest', Except.ok m :: rest = .ok m' :: rest' → IsOther dest m' →
        ∀ stat, ¬ FirstStatus dest (.ok m :: rest) stat := by
      rintro _ _ ⟨⟩ hother
      exact absurd hm.2 hother.2
    cases hdata : m.reply.data with
    | none =>
      rw [hdata] at hr
      refine iff_of_true ⟨fun stat => ?_, .inr ⟨_, hr⟩, hbounded⟩ ⟨?_, hnoLater⟩
      · rw [hr, firstStatus_iff hm, hdata]
        simp
      · rintro _ _ ⟨⟩ - data hdata'
        cases hdata.symm.trans hdata'
    | some data =>
      rw [hdata] at hr
      dsimp only at hr
      -- the data is copied as it is, so its size decides
      by_cases hlength : data.length = Packed.size ChannelStatus
      · rw [copyDataToStatus, if_pos hlength] at hr
        refine iff_of_true ⟨fun stat => ?_, .inl ⟨_, hr⟩, hbounded⟩ ⟨?_, hnoLater⟩
        · rw [hr, firstStatus_iff hm, hdata]
          simp [hlength]
        · rintro _ _ ⟨⟩ - data' hdata'
          rw [← Option.some.inj (hdata.symm.trans hdata')]
          exact hlength
      · rw [copyDataToStatus, if_neg hlength] at hr
        refine iff_of_false (fun h => ?_) fun h => hlength (h.sized m rest rfl hm data hdata)
        obtain ⟨stat, hok⟩ | ⟨e, hthrows⟩ := h.throws
        · cases hr.symm.trans hok
        · cases hr.symm.trans hthrows
  · have hnone : ∀ m rest, incoming = .ok m :: rest → ¬ IsStatus dest m :=
      fun m rest hincoming hm => hfirst ⟨m, rest, hincoming, hm⟩
    obtain ⟨e, uses, hdoes, huses⟩ := exists_does_statusUpdate hnone
    obtain ⟨hr, hcount⟩ := getStatusUpdate_on hdoes
    -- the update throws, so there must be no status in the messages behind
    have hnever : (∀ stat, ¬ FirstStatus dest incoming stat) ↔ FirstDecides dest incoming := by
      constructor
      · intro hstat
        exact ⟨fun m rest hincoming hm => absurd hm (hnone m rest hincoming),
          fun m rest hincoming hm => hstat⟩
      · intro h stat hstat
        obtain ⟨m, rest, hincoming, hm⟩ := exists_other_of_firstStatus hnone hstat
        exact h.noLater m rest hincoming hm stat hstat
    rw [← hnever]
    constructor
    · intro h stat hstat
      cases hr.symm.trans ((h.returns stat).mpr hstat)
    · intro hstat
      refine ⟨fun stat => ⟨fun hok => ?_, fun h => absurd h (hstat stat)⟩, .inr ⟨e, hr⟩, ?_⟩
      · cases hr.symm.trans hok
      · rw [hcount]
        exact huses

/-- A move has been completed, and then there is a status update. -/
def completedThenStatus : List Arrival :=
  [.ok ⟨Destination.bay1.code, 0x0464, ⟨14, 0, some (List.replicate 14 0)⟩⟩,
    .ok ⟨Destination.bay1.code, 0x0481, ⟨14, 0, some (List.replicate 14 0)⟩⟩]

/-- The status update that comes second is not returned. -/
theorem not_getStatusUpdate_returnsStatus :
    ¬ ReturnsStatus .bay1 completedThenStatus
      ((getStatusUpdate .bay1).on (Port.receiving completedThenStatus)).1
      ((getStatusUpdate .bay1).on (Port.receiving completedThenStatus)).2.log := by
  intro h
  have hfirst : FirstStatus .bay1 completedThenStatus ⟨0, 0, 0, 0⟩ :=
    ⟨[_], _, [], _, rfl, by decide, by simp [IsOther]; decide, ⟨rfl, rfl⟩, rfl, rfl, rfl⟩
  have hok := (h.returns ⟨0, 0, 0, 0⟩).mpr hfirst
  revert hok
  decide +kernel

/-! ### The moves -/

/-- A call of one of the moves. -/
inductive Move where
  | relative (distance : Int32)
  | absolute (target : UInt32)
  | jog (direction : UInt8)

namespace Move

variable {σ : Type}

/-- The call. -/
def perform (depth : ℕ) (dest : Destination) (chan : MotorChannelIdents) : Move → AptM σ Unit
  | relative distance => relativeMove depth dest chan distance
  | absolute target => absoluteMove depth dest chan target
  | jog direction => jogMove depth dest chan direction

/-- The frame that commands the move: its data are the channel and the distance or the target. -/
def frame (dest : Destination) (chan : MotorChannelIdents) : Move → List UInt8
  | relative distance =>
    transmitData .motMoveRelative (Packed.bytes (chan.code.toUInt16, distance)) dest .host
  | absolute target =>
    transmitData .motMoveAbsolute (Packed.bytes (chan.code.toUInt16, target)) dest .host
  | jog direction => transmitHeader .motMoveJog chan.code direction dest .host

/-- The status reports the target as the current position. -/
def AtTarget (dest : Destination) (incoming : List Arrival) : Move → Prop
  | absolute target => ∃ stat, FirstStatus dest incoming stat ∧ stat.position = target
  | relative _ | jog _ => False

/-- **The move commands the motor once**: it enables the channel, requests a status, and sends the
frame of the move, which it omits exactly if the motor is at the target. -/
def CommandsOnce (dest : Destination) (chan : MotorChannelIdents) (incoming : List Arrival)
    (polls : List (List UInt8)) (move : Move) : Prop :=
  ∃ depth log, log = ((move.perform depth dest chan).on
      { Port.receiving incoming with polls := polls }).2.log ∧
    (¬ move.AtTarget dest incoming → commands dest log =
      [transmitHeader .modSetChanenablestate chan.code 0x01 dest .host,
        transmitHeader .motReqStatusupdate 0x01 0 dest .host, move.frame dest chan]) ∧
    (move.AtTarget dest incoming → commands dest log =
      [transmitHeader .modSetChanenablestate chan.code 0x01 dest .host,
        transmitHeader .motReqStatusupdate 0x01 0 dest .host])

end Move

section Moves

variable {σ : Type}

/-- The channel is never enabled, and nothing is transmitted. -/
theorem on_setChannelenable (dest : Destination) (channel : MotorChannelIdents) (onoff : Bool)
    (depth : ℕ) (port : Port σ) :
    (setChannelenable dest channel onoff depth).on port = (.error .unfinished, port) := by
  induction depth with
  | zero => rfl
  | succ depth ih =>
    rw [setChannelenable]
    exact Stateful.on_bind_of_error ih _

/-- None of the moves gets any further. -/
theorem Move.on_perform (depth : ℕ) (dest : Destination) (chan : MotorChannelIdents) (move : Move)
    (port : Port σ) : (move.perform depth dest chan).on port = (.error .unfinished, port) := by
  have henable := on_setChannelenable dest .channel1 true depth port
  cases move <;> exact Stateful.on_bind_of_error henable _

end Moves

/-- **The moves of a BSC203 never command the motor**: for every destination, channel and distance,
and whatever is received, enabling the channel does not end, and the motor is not commanded. -/
theorem moves_never_commandOnce (dest : Destination) (chan : MotorChannelIdents)
    (incoming : List Arrival) (polls : List (List UInt8)) (move : Move) :
    ¬ move.CommandsOnce dest chan incoming polls := by
  rintro ⟨depth, log, hlog, hcommands, hskipped⟩
  rw [Move.on_perform] at hlog
  have hnone : commands dest log = [] := by
    rw [hlog]
    rfl
  by_cases htarget : move.AtTarget dest incoming
  · cases hnone.symm.trans (hskipped htarget)
  · cases hnone.symm.trans (hcommands htarget)

/-- A relative move is not commanded. -/
theorem not_relativeMove_commandsOnce :
    ¬ (Move.relative 1000).CommandsOnce .bay1 .channel1
      [.ok ⟨Destination.bay1.code, 0x0481, ⟨14, 0, some (List.replicate 14 0)⟩⟩]
      [[0x64, 0x04, 0x01, 0x00, 0x01, 0x21]] := by
  rintro ⟨depth, log, hlog, hcommands, -⟩
  rw [Move.on_perform] at hlog
  have hnone : commands .bay1 log = [] := by
    rw [hlog]
    rfl
  cases hnone.symm.trans (hcommands not_false)

end Bsc203

end Apt

end Foxtrot
