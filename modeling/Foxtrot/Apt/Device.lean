import Mathlib.Data.Int.Basic
import Foxtrot.Apt.Framing
import Foxtrot.Apt.Structures

/-!
# APT devices

The functions of `APT` work on a serial port, at the other end of which is a controller (`Port`).
What they do is modelled message by message: a transmission writes its bytes, to which the
controller may react with messages, and receiving takes the next message of the controller. A call
of `receive_sync_common` comes to a message, or throws where the header has no destination or the
bytes do not arrive in time (`Apt.receiveSyncCommon`, on the bytes); what follows in `incoming` is
what the next call comes to. Where nothing more arrives, the call times out.

Writing and flushing succeed; sleeping and logging are left out. A computation that does what has no
defined behaviour ends in `Fault.undefined`, and one that does not end, whatever bound is put on it,
in `Fault.unfinished`.
-/

namespace Foxtrot

namespace Apt

/-- `motor_channel_idents`. -/
inductive MotorChannelIdents where
  | channel1
  | channel2
  | channel3
  | channel4
  deriving DecidableEq

def MotorChannelIdents.code : MotorChannelIdents → UInt8
  | channel1 => 0x01
  | channel2 => 0x02
  | channel3 => 0x04
  | channel4 => 0x08

/-! ### The port -/

/-- A message as it is received: the source and the identifier of the header, and the reply. -/
structure Message where
  source : UInt8
  opcode : UInt16
  reply : AptReply
  deriving DecidableEq

/-- What a call of `receive_sync_common` comes to, up to the check of the source. -/
abbrev Arrival := Except Thrown Message

/-- What is done with a port. -/
inductive PortUse where
  | write (bytes : List UInt8)
  | receive
  | poll
  | flush
  deriving DecidableEq

/-- A serial port with a controller in state `σ` at its other end. -/
structure Port (σ : Type) where
  /-- What the controller does about the bytes of a transmission. -/
  react : σ → List UInt8 → σ × List Arrival
  controller : σ
  /-- The messages that are received next. -/
  incoming : List Arrival
  /-- The bytes that successive reads of what is available find. -/
  polls : List (List UInt8)
  log : List PortUse

/-- How a computation fails. -/
inductive Fault where
  | thrown (e : Thrown)
  /-- The behaviour is undefined. -/
  | undefined
  /-- The computation does not end. -/
  | unfinished
  deriving DecidableEq

/-- An exception unwinds the stack. -/
def Fault.unwinds : Fault → Bool
  | thrown _ => true
  | undefined | unfinished => false

/-- A function of a device. -/
abbrev AptM (σ : Type) := Stateful (Port σ) Fault

namespace Port

variable {σ : Type}

/-- A port that has not been used, at which just these messages are received. -/
def receiving (incoming : List Arrival) : Port Unit :=
  ⟨fun _ _ => ((), []), (), incoming, [], []⟩

/-- The port with more notes in its log. -/
def noted (uses : List PortUse) (port : Port σ) : Port σ := { port with log := port.log ++ uses }

/-- The port after the bytes have been written. -/
def written (bytes : List UInt8) (port : Port σ) : Port σ :=
  { port with
    controller := (port.react port.controller bytes).1
    incoming := port.incoming ++ (port.react port.controller bytes).2
    log := port.log ++ [.write bytes] }

/-- The port with other messages to come. -/
def awaiting (incoming : List Arrival) (port : Port σ) : Port σ :=
  { port with incoming := incoming }

/-- Nothing is sent back at a port where just given messages are received. -/
theorem written_receiving (bytes : List UInt8) (incoming : List Arrival) :
    (receiving incoming).written bytes = (receiving incoming).noted [.write bytes] := by
  have hincoming : incoming ++ [] = incoming := List.append_nil incoming
  simp only [receiving, written, noted, hincoming]

/-- Uses are noted one after the other. -/
theorem noted_noted (uses uses' : List PortUse) (port : Port σ) :
    (port.noted uses).noted uses' = port.noted (uses ++ uses') := by
  rw [noted, noted, noted, List.append_assoc]

end Port

/-- The bytes that are written, transmission by transmission. -/
def transmissions : List PortUse → List (List UInt8) :=
  List.filterMap fun
    | .write bytes => some bytes
    | _ => none

/-- What is transmitted, use by use. -/
theorem transmissions_append (uses uses' : List PortUse) :
    transmissions (uses ++ uses') = transmissions uses ++ transmissions uses' :=
  List.filterMap_append

/-- A write is a transmission. -/
theorem transmissions_write (bytes : List UInt8) (uses : List PortUse) :
    transmissions (.write bytes :: uses) = bytes :: transmissions uses := rfl

/-- To receive transmits nothing. -/
theorem transmissions_receives (n : ℕ) : transmissions (List.replicate n .receive) = [] := by
  simp [transmissions]

section Functions

variable {σ : Type}

/-- `throw`. -/
def throwing {A : Type} (e : Thrown) : AptM σ A := throw (.thrown e)

/-- `_serport->write`. -/
def write (bytes : List UInt8) : AptM σ Unit := ExceptT.mk fun port => (.ok (), port.written bytes)

/-- `_serport->flush`. -/
def flush : AptM σ Unit := ExceptT.mk fun port => (.ok (), port.noted [.flush])

/-- The next message. -/
def arrival : AptM σ Message :=
  ExceptT.mk fun port =>
    match port.incoming with
    | [] => (.error (.thrown (.protocolError "serial port read timed out...")),
        port.noted [.receive])
    | .error e :: rest => (.error (.thrown e), (port.noted [.receive]).awaiting rest)
    | .ok message :: rest => (.ok message, (port.noted [.receive]).awaiting rest)

/-- `read` of the `bytes_available`. -/
def readAvailable : AptM σ (List UInt8) :=
  ExceptT.mk fun port =>
    (.ok (port.polls.headD []), { port.noted [.poll] with polls := port.polls.tail })

/-- `receive_sync_common`. -/
def receiveSync (expectedSource : Destination) : AptM σ (AptReply × UInt16) := do
  let message ← arrival
  if message.source ≠ expectedSource.code then
    flush
    throwing (.deviceError "received unexpected source")
  else
    return (message.reply, message.opcode)

/-- `receive_message_sync_check` of several opcodes. That another opcode is received is only
logged. -/
abbrev receiveMessageSyncCheckAny (expectedSource : Destination) : AptM σ (AptReply × UInt16) :=
  receiveSync expectedSource

/-- `_copy_data_to_status`, and `std::copy` into a status in general. Data of another length leave a
part of the status unset, or are written past its end. -/
def copyDataToStatus {S : Type} [Packed S] (data : List UInt8) : Except Fault S :=
  if data.length = Packed.size S then .ok (Packed.value data) else .error .undefined

/-! ### Transmitting -/

/-- `transmit_message` of a header. -/
def transmitMessage (opcode : Bsc203Opcodes) (p1 p2 : UInt8) (dest : Destination) : AptM σ Unit :=
  write (transmitHeader opcode p1 p2 dest .host)

/-- `transmit_message` of a header with a channel. -/
def transmitMessageTo (opcode : Bsc203Opcodes) (dest : Destination) (chan : MotorChannelIdents) :
    AptM σ Unit :=
  transmitMessage opcode chan.code 0 dest

/-- `transmit_message` of a header and data. -/
def transmitMessageData (opcode : Bsc203Opcodes) (data : List UInt8) (dest : Destination) :
    AptM σ Unit :=
  write (transmitData opcode data dest .host)

/-- What switches update messages on. -/
def updatesOn (dest : Destination) : List UInt8 :=
  transmitHeader .hwStartUpdatemsgs 0x0A 0x0 dest .host

/-- What switches update messages off. -/
def updatesOff (dest : Destination) : List UInt8 :=
  transmitHeader .hwStopUpdatemsgs 0x0 0x0 dest .host

/-- What has been transmitted, but for the switches of the update messages. -/
def commands (dest : Destination) (log : List PortUse) : List (List UInt8) :=
  (transmissions log).filter fun bytes => bytes ≠ updatesOn dest ∧ bytes ≠ updatesOff dest

/-- `start_update_messages`. -/
def startUpdateMessages (dest : Destination) : AptM σ Unit :=
  transmitMessage .hwStartUpdatemsgs 0x0A 0x0 dest

/-- `stop_update_messages`. -/
def stopUpdateMessages (dest : Destination) : AptM σ Unit :=
  transmitMessage .hwStopUpdatemsgs 0x0 0x0 dest

/-- `AptUpdateMessageScopeGuard` around the rest of a function. -/
def withUpdateMessages {A : Type} (dest : Destination) (body : AptM σ A) : AptM σ A := do
  startUpdateMessages dest
  Stateful.onExit Fault.unwinds body (stopUpdateMessages dest)

/-- `get_move_request_header_data`: the channel, and the four bytes of a distance. -/
def getMoveRequestHeaderData {T : Type} [Packed T] (distance : T) (chan : MotorChannelIdents) :
    List UInt8 :=
  [chan.code, 0] ++ (Packed.bytes distance).take 4

/-- `stop_move`. -/
def stopMove (dest : Destination) (channel : MotorChannelIdents) (immediate : Bool) :
    AptM σ Unit :=
  transmitMessage .motMoveStop channel.code (if immediate then 0x01 else 0x02) dest

end Functions

/-! ### What the functions do -/

section Specifications

variable {σ A : Type} (port : Port σ) {expected dest : Destination} {rest : List Arrival}

/-- A write is answered by the device. -/
@[simp]
theorem on_write (bytes : List UInt8) : (write bytes).on port = (.ok (), port.written bytes) := rfl

/-- A flush is noted. -/
@[simp]
theorem on_flush : flush.on port = (.ok (), port.noted [.flush]) := rfl

private theorem on_receiveSync_nil : (receiveSync expected).on (port.awaiting []) =
    (.error (.thrown (.protocolError "serial port read timed out...")),
      (port.noted [.receive]).awaiting []) := rfl

private theorem on_receiveSync_error (e : Thrown) :
    (receiveSync expected).on (port.awaiting (.error e :: rest)) =
      (.error (.thrown e), (port.noted [.receive]).awaiting rest) := rfl

/-- A message from another source is rejected. -/
theorem on_receiveSync_unexpected {message : Message} (h : message.source ≠ expected.code) :
    (receiveSync expected).on (port.awaiting (.ok message :: rest)) =
      (.error (.thrown (.deviceError "received unexpected source")),
        ((port.noted [.receive]).noted [.flush]).awaiting rest) := by
  have harrival : arrival.on (port.awaiting (.ok message :: rest)) =
      (.ok message, (port.noted [.receive]).awaiting rest) := rfl
  rw [receiveSync, Stateful.on_bind_of_ok harrival, if_pos h]
  rfl

/-- A message from the expected source is received. -/
theorem on_receiveSync_ok {message : Message} (h : message.source = expected.code) :
    (receiveSync expected).on (port.awaiting (.ok message :: rest)) =
      (.ok (message.reply, message.opcode), (port.noted [.receive]).awaiting rest) := by
  have harrival : arrival.on (port.awaiting (.ok message :: rest)) =
      (.ok message, (port.noted [.receive]).awaiting rest) := rfl
  rw [receiveSync, Stateful.on_bind_of_ok harrival, if_neg (not_not.mpr h)]
  rfl

/-- A message from the source is received, or the call throws. -/
theorem receiveSync_cases (expected : Destination) (incoming : List Arrival) :
    (∃ m rest, incoming = .ok m :: rest ∧ m.source = expected.code ∧
      (receiveSync expected).on (port.awaiting incoming) =
        (.ok (m.reply, m.opcode), (port.noted [.receive]).awaiting rest)) ∨
    ((∀ m rest, incoming = .ok m :: rest → m.source ≠ expected.code) ∧
      ∃ e uses rest, (uses = [.receive] ∨ uses = [.receive, .flush]) ∧
        (receiveSync expected).on (port.awaiting incoming) =
          (.error (.thrown e), (port.noted uses).awaiting rest)) := by
  rcases incoming with _ | ⟨e | m, rest⟩
  · refine .inr ⟨by simp, _, _, [], .inl rfl, on_receiveSync_nil port⟩
  · exact .inr ⟨by simp, e, _, rest, .inl rfl, on_receiveSync_error port e⟩
  · by_cases hsource : m.source = expected.code
    · exact .inl ⟨m, rest, rfl, hsource, on_receiveSync_ok port hsource⟩
    · refine .inr ⟨?_, .deviceError "received unexpected source", _, rest, .inr rfl, ?_⟩
      · rintro _ _ ⟨⟩
        exact hsource
      · rw [on_receiveSync_unexpected port hsource, Port.noted_noted]
        rfl

/-- The commands are those of the uses, one after the other. -/
private theorem commands_append (dest : Destination) (uses uses' : List PortUse) :
    commands dest (uses ++ uses') = commands dest uses ++ commands dest uses' := by
  rw [commands, transmissions_append, List.filter_append]
  rfl

/-- On the port, the computation comes to the result, and this is what it does with the port. -/
def Does (m : AptM σ A) (port : Port σ) (result : Except Fault A) (uses : List PortUse) : Prop :=
  (m.on port).1 = result ∧ (m.on port).2.log = port.log ++ uses

variable {body : AptM σ A} {port port' : Port σ}

/-- After a body that succeeds, the updates are switched off. -/
private theorem on_withUpdateMessages_of_ok {a : A}
    (h : body.on (port.written (updatesOn dest)) = (.ok a, port')) :
    (withUpdateMessages dest body).on port =
      (.ok a, port'.written (updatesOff dest)) :=
  Stateful.on_onExit_of_ok h rfl

/-- After an error that unwinds, the updates are switched off as well. -/
private theorem on_withUpdateMessages_of_error {e : Fault}
    (h : body.on (port.written (updatesOn dest)) = (.error e, port')) :
    (withUpdateMessages dest body).on port =
      (.error e, if e.unwinds then port'.written (updatesOff dest) else port') :=
  Stateful.on_onExit_of_error h rfl

/-- How a function is left: by returning, or by an exception. -/
def leaves : Except Fault A → Bool
  | .ok _ => true
  | .error e => e.unwinds

/-- **Update messages are on while the body runs**, and off when the function is left. -/
theorem Does.withUpdateMessages {r : Except Fault A} {uses : List PortUse}
    (h : Does body (port.written (updatesOn dest)) r uses) :
    Does (withUpdateMessages dest body) port r
      (.write (updatesOn dest) :: uses ++
        if leaves r then [.write (updatesOff dest)] else []) := by
  obtain ⟨hr, hlog⟩ := h
  have hstart : ∀ more : List PortUse,
      (port.written (updatesOn dest)).log ++ more =
        port.log ++ .write (updatesOn dest) :: more :=
    fun more => List.append_assoc port.log _ more
  rw [hstart] at hlog
  cases r with
  | ok a =>
    rw [Does, on_withUpdateMessages_of_ok (Prod.ext hr rfl)]
    refine ⟨rfl, ?_⟩
    rw [Port.written, hlog, leaves, if_pos rfl, List.append_assoc, List.cons_append]
  | error e =>
    rw [Does, on_withUpdateMessages_of_error (Prod.ext hr rfl)]
    refine ⟨rfl, ?_⟩
    rw [leaves]
    cases e.unwinds with
    | true =>
      rw [if_pos rfl, if_pos rfl, Port.written, hlog, List.append_assoc, List.cons_append]
    | false =>
      rw [if_neg Bool.false_ne_true, if_neg Bool.false_ne_true, hlog, List.append_nil]

/-! ### Computations without commands -/

/-- The computation gives no command, however it ends. -/
def Quiet (dest : Destination) (m : AptM σ A) : Prop :=
  ∀ given, Stateful.Maintains (fun port => commands dest port.log = given) m

/-- What it gives as commands is as before. -/
theorem Quiet.commands_eq {m : AptM σ A} (h : Quiet dest m) (port : Port σ) :
    commands dest (m.on port).2.log = commands dest port.log := h _ port rfl

private theorem quiet_of_log {m : AptM σ A}
    (h : ∀ port, ∃ uses, (m.on port).2.log = port.log ++ uses ∧ commands dest uses = []) :
    Quiet dest m := by
  rintro given port rfl
  obtain ⟨uses, hlog, huses⟩ := h port
  rw [hlog, commands_append, huses, List.append_nil]

/-- A value is quiet. -/
theorem Quiet.pure (a : A) : Quiet dest (Pure.pure a : AptM σ A) :=
  fun _ => Stateful.Maintains.pure a

/-- An error is quiet. -/
theorem Quiet.throw (e : Fault) : Quiet dest (MonadExcept.throw e : AptM σ A) :=
  fun _ => Stateful.Maintains.throw e

/-- A sequence is quiet if its parts are. -/
theorem Quiet.bind {B : Type} {m : AptM σ A} {f : A → AptM σ B} (hm : Quiet dest m)
    (hf : ∀ a, Quiet dest (f a)) : Quiet dest (m >>= f) :=
  fun given => (hm given).bind fun a => hf a given

/-- To catch an error is quiet. -/
theorem Quiet.attempt {m : AptM σ A} (hm : Quiet dest m) : Quiet dest m.attempt :=
  fun given => (hm given).attempt

/-- A choice is quiet if both branches are. -/
theorem Quiet.ite {p : Prop} [Decidable p] {m m' : AptM σ A} (h : Quiet dest m)
    (h' : Quiet dest m') : Quiet dest (if p then m else m') :=
  fun given => .ite (fun _ => h given) fun _ => h' given

theorem quiet_get : Quiet dest (get : AptM σ (Port σ)) := fun _ _ h => h

/-- A flush is no command. -/
theorem quiet_flush : Quiet dest (flush : AptM σ Unit) :=
  quiet_of_log fun _ => ⟨_, rfl, rfl⟩

/-- To read is no command. -/
theorem quiet_readAvailable : Quiet dest (readAvailable : AptM σ (List UInt8)) :=
  quiet_of_log fun _ => ⟨_, rfl, rfl⟩

/-- To receive is no command. -/
theorem quiet_receiveSync (expected : Destination) :
    Quiet dest (receiveSync expected : AptM σ (AptReply × UInt16)) := by
  refine quiet_of_log fun port => ?_
  obtain ⟨m, rest, -, -, hon⟩ | ⟨-, e, uses, rest, huses, hon⟩ :=
    receiveSync_cases port expected port.incoming
  · exact ⟨[.receive], congrArg (fun r => r.2.log) hon, rfl⟩
  · refine ⟨uses, congrArg (fun r => r.2.log) hon, ?_⟩
    rcases huses with rfl | rfl <;> rfl

/-- To ask for updates is no command to the motor. -/
theorem quiet_startUpdateMessages : Quiet dest (startUpdateMessages dest : AptM σ Unit) := by
  refine quiet_of_log fun _ => ⟨[.write (updatesOn dest)], rfl, ?_⟩
  simp [commands, transmissions]

/-- Nor is to stop them. -/
theorem quiet_stopUpdateMessages : Quiet dest (stopUpdateMessages dest : AptM σ Unit) := by
  refine quiet_of_log fun _ => ⟨[.write (updatesOff dest)], rfl, ?_⟩
  simp [commands, transmissions]

/-- A command is one more. -/
theorem commands_written {bytes : List UInt8} (hon : bytes ≠ updatesOn dest)
    (hoff : bytes ≠ updatesOff dest) (port : Port σ) :
    commands dest (port.written bytes).log = commands dest port.log ++ [bytes] := by
  have hone : commands dest [.write bytes] = [bytes] := by
    simp [commands, transmissions, hon, hoff]
  rw [Port.written, commands_append, hone]

end Specifications

/-! ### Messages and bytes -/

section Bytes

variable {σ : Type} {header : Vector UInt8 6} {bytes : List UInt8} {data : Option (List UInt8)}

/-- The message with this header and these data. -/
def Message.ofHeader (header : Vector UInt8 6) (data : Option (List UInt8)) : Message :=
  ⟨headerSource header, recvOpcode header, ⟨headerP1 header, headerP2 header, data⟩⟩

/-- **A message is received like its bytes**: what `receive_sync_common` makes of the bytes of a
header with a destination, and of data as it announces them, is what is made of the message. -/
theorem receiveSync_agrees (port : Port σ) (expected : Destination) (rest : List Arrival)
    (received : List UInt8) (hdest : headerDest header ≠ 0)
    (hdata : Framing.Frames (readData header) bytes data) :
    ((receiveSync expected).on
        (port.awaiting (.ok (Message.ofHeader header data) :: rest))).1 =
      (Stateful.on (receiveSyncCommon expected) (header.toList ++ bytes ++ received)).1.mapError
        Fault.thrown := by
  by_cases hsource : headerSource header = expected.code
  · rw [on_receiveSync_ok port hsource, frames_receiveSyncCommon hdest hsource hdata]
    rfl
  · have hzeros : ¬ header.all (· = 0) := by
      rw [Vector.all_eq_true]
      exact fun hall => hdest (of_decide_eq_true (hall 4 (by decide)))
    have hreceived : (Stateful.on (receiveSyncCommon expected)
        (header.toList ++ bytes ++ received)).1 =
          .error (.deviceError "received unexpected source") := by
      rw [List.append_assoc, receiveSyncCommon,
        Stateful.on_bind_of_ok (SerialPort.frames_readDefinite header _), checkHeader,
        if_neg hdest, if_neg hzeros, if_pos hsource]
      rfl
    rw [on_receiveSync_unexpected port hsource, hreceived]
    rfl

end Bytes

/-! ### Traits -/

/-- `APTDeviceTraits`. -/
structure AptDeviceTraits where
  statusRequestCode : Bsc203Opcodes
  statusGetCode : Bsc203Opcodes
  completeSuccessCode : Bsc203Opcodes
  motorStatusMessages : List Bsc203Opcodes
  nIgnoreFailedMotorMsgs : ℤ

/-- `APTDeviceTraits()`. -/
def AptDeviceTraits.default : AptDeviceTraits where
  statusRequestCode := .motReqStatusupdate
  statusGetCode := .motGetStatusupdate
  completeSuccessCode := .motMoveCompleted
  motorStatusMessages := [.motMoveCompleted, .motMoveHomed, .motMoveStopped, .motGetStatusupdate]
  nIgnoreFailedMotorMsgs := 10

/-- `M30X_traits`. -/
def m30xTraits : AptDeviceTraits :=
  { AptDeviceTraits.default with
    statusRequestCode := .motReqDcstatusupdate
    statusGetCode := .motGetDcstatusupdate
    motorStatusMessages :=
      [.motMoveCompleted, .motMoveHomed, .motMoveStopped, .motGetDcstatusupdate]
    nIgnoreFailedMotorMsgs := 10 }

end Apt

end Foxtrot
