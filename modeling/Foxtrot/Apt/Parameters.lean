import Foxtrot.Apt.Replies
import Foxtrot.Foundation.TransitionSystem

/-!
# The parameters of the channels

`APT` sets and gets parameters of the channels of a controller. A controller keeps each parameter
for each destination and each channel identifier (`ParameterStore`), and does with it what the bytes
of the requests say (`ParameterStore.react`). So whether a channel is given back what it was given
depends on the identifiers in the requests. All of them name the channel that the caller asks for,
except that of `get_position_counter`, which names channel zero (`parameters_perChannel_iff`).

A device that stores parameters is at the other end of the port (`Port.Serves`): it reads a request
off the bytes, and its reply is what is received next. So each call is one exchange, described by
the store before and after it (`Port.Serves.on_perform`), and a run keeps the store in accord with
what has been set. The position counter is the only parameter whose request names another channel
than the caller's.
-/

namespace Foxtrot

namespace Apt

/-! ### The functions -/

section Functions

variable {σ : Type}

/-- `get_position_counter`. -/
def getPositionCounter (dest : Destination) (_channel : MotorChannelIdents) : AptM σ Int32 := do
  let repl ← requestResponseStruct PoscounterThrowaway .motReqPoscounter .motGetPoscounter dest 0 0
    none
  return repl.positionCounterValue

/-- `set_position_counter`. -/
def setPositionCounter (dest : Destination) (channel : MotorChannelIdents) (val : Int32) :
    AptM σ Unit :=
  transmitMessageData .motSetPoscounter
    (copyStructToArray (⟨channel.code.toUInt16, val⟩ : PoscounterThrowaway)) dest

/-- `get_homeparams`. -/
def getHomeparams (dest : Destination) (channel : MotorChannelIdents) : AptM σ Homeparams :=
  requestResponseStruct Homeparams .motReqHomeparams .motGetHomeparams dest channel.code 0 none

/-- `set_homeparams`. -/
def setHomeparams (dest : Destination) (params : Homeparams) : AptM σ Unit :=
  transmitMessageData .motSetHomeparams (copyStructToArray params) dest

/-- `get_limitswitchparams`. -/
def getLimitswitchparams (dest : Destination) (channel : MotorChannelIdents) :
    AptM σ Limitswitchparams :=
  requestResponseStruct Limitswitchparams .motReqLimswitchparams .motGetLimswitchparams dest
    channel.code 0 none

/-- `set_limitswitchparams`. -/
def setLimitswitchparams (dest : Destination) (params : Limitswitchparams) : AptM σ Unit :=
  transmitMessageData .motSetLimswitchparams (copyStructToArray params) dest

/-- `get_velocity_params`. -/
def getVelocityParams (dest : Destination) (channel : MotorChannelIdents) :
    AptM σ VelocityParams :=
  requestResponseStruct VelocityParams .motReqVelparams .motGetVelparams dest channel.code 0x0 none

/-- `set_velocity_params`. -/
def setVelocityParams (dest : Destination) (velpar : VelocityParams) : AptM σ Unit :=
  transmitMessageData .motSetVelparams (copyStructToArray velpar) dest

/-- `get_channelenable`. -/
def getChannelenable (dest : Destination) (channel : MotorChannelIdents) : AptM σ Bool := do
  transmitMessageTo .modReqChanenablestate dest channel
  let ret ← receiveMessageSyncCheck .modGetChanenablestate dest true
  return ret.p2 = 0x01

/-- `set_channelenable`. -/
def setChannelenable (dest : Destination) (channel : MotorChannelIdents) (onoff : Bool) :
    AptM σ Unit :=
  transmitMessage .modSetChanenablestate channel.code (if onoff then 0x01 else 0x02) dest

end Functions

/-! ### A controller -/

/-- A parameter that is kept as a structure. -/
inductive StructParameter where
  | positionCounter
  | homeparams
  | limitswitchparams
  | velocityParams
  deriving DecidableEq

namespace StructParameter

def all : List StructParameter := [positionCounter, homeparams, limitswitchparams, velocityParams]

/-- The structure. -/
abbrev Struct : StructParameter → Type
  | positionCounter => PoscounterThrowaway
  | homeparams => Homeparams
  | limitswitchparams => Limitswitchparams
  | velocityParams => VelocityParams

instance : (p : StructParameter) → Packed p.Struct
  | positionCounter => inferInstanceAs (Packed PoscounterThrowaway)
  | homeparams => inferInstanceAs (Packed Homeparams)
  | limitswitchparams => inferInstanceAs (Packed Limitswitchparams)
  | velocityParams => inferInstanceAs (Packed VelocityParams)

/-- The channel that the structure names. -/
def chanIdent : (p : StructParameter) → p.Struct → UInt16
  | positionCounter => PoscounterThrowaway.chanIdent
  | homeparams => Homeparams.chanIdent
  | limitswitchparams => Limitswitchparams.chanIdent
  | velocityParams => VelocityParams.chanIdent

def setOpcode : StructParameter → Bsc203Opcodes
  | positionCounter => .motSetPoscounter
  | homeparams => .motSetHomeparams
  | limitswitchparams => .motSetLimswitchparams
  | velocityParams => .motSetVelparams

def reqOpcode : StructParameter → Bsc203Opcodes
  | positionCounter => .motReqPoscounter
  | homeparams => .motReqHomeparams
  | limitswitchparams => .motReqLimswitchparams
  | velocityParams => .motReqVelparams

def getOpcode : StructParameter → Bsc203Opcodes
  | positionCounter => .motGetPoscounter
  | homeparams => .motGetHomeparams
  | limitswitchparams => .motGetLimswitchparams
  | velocityParams => .motGetVelparams

end StructParameter

/-- The parameters, for each destination and each channel identifier. -/
structure ParameterStore where
  struct : (p : StructParameter) → Destination → UInt16 → p.Struct
  channelenable : Destination → UInt16 → Bool

/-- A request as a controller reads it. -/
structure Request where
  opcode : UInt16
  p1 : UInt8
  p2 : UInt8
  dest : Destination
  data : Option (List UInt8)

/-- The destination of a code. -/
def destinationOfCode (code : UInt8) : Option Destination :=
  [Destination.host, .rack, .genericUsb, .bay1, .bay2, .bay3].find? (·.code = code)

/-- A request is read off its bytes. -/
def Request.ofBytes : List UInt8 → Option Request
  | lo :: hi :: p1 :: p2 :: dest :: src :: data =>
    (destinationOfCode (dest &&& 0x7F)).map fun destination =>
      ⟨recvOpcode #v[lo, hi, p1, p2, dest, src], p1, p2, destination,
        if dest &&& 0x80 = 0x80 then some data else none⟩
  | _ => none

namespace ParameterStore

/-- The structure is stored for the channel that it names. -/
def setStruct (store : ParameterStore) (p : StructParameter) (dest : Destination) (t : p.Struct) :
    ParameterStore :=
  { store with
    struct := Function.update store.struct p
      (Function.update (store.struct p) dest
        (Function.update (store.struct p dest) (p.chanIdent t) t)) }

def setChannelenable (store : ParameterStore) (dest : Destination) (channel : UInt16)
    (onoff : Bool) : ParameterStore :=
  { store with
    channelenable := Function.update store.channelenable dest
      (Function.update (store.channelenable dest) channel onoff) }

/-- The reply with a structure. -/
def structReply (store : ParameterStore) (p : StructParameter) (dest : Destination)
    (channel : UInt16) : Message :=
  ⟨dest.code, p.getOpcode.code, UInt8.ofNat (Packed.size p.Struct), 0,
    some (Packed.bytes (store.struct p dest channel))⟩

/-- The reply with the state of a channel. -/
def channelenableReply (store : ParameterStore) (dest : Destination) (channel : UInt8) : Message :=
  ⟨dest.code, Bsc203Opcodes.modGetChanenablestate.code, channel,
    if store.channelenable dest channel.toUInt16 then 0x01 else 0x02, none⟩

/-- What the controller does about a request. -/
def answer (store : ParameterStore) (request : Request) : ParameterStore × List Arrival :=
  if request.opcode = Bsc203Opcodes.modSetChanenablestate.code then
    (store.setChannelenable request.dest request.p1.toUInt16 (request.p2 = 0x01), [])
  else if request.opcode = Bsc203Opcodes.modReqChanenablestate.code then
    (store, [.ok (store.channelenableReply request.dest request.p1)])
  else
    match StructParameter.all.find? (·.setOpcode.code = request.opcode), request.data with
    | some p, some data => (store.setStruct p request.dest (Packed.value data), [])
    | _, _ =>
      match StructParameter.all.find? (·.reqOpcode.code = request.opcode) with
      | some p => (store, [.ok (store.structReply p request.dest request.p1.toUInt16)])
      | none => (store, [])

/-- What the controller does about the bytes of a transmission. -/
def react (store : ParameterStore) (bytes : List UInt8) : ParameterStore × List Arrival :=
  match Request.ofBytes bytes with
  | some request => store.answer request
  | none => (store, [])

end ParameterStore

/-! ### What the controller reads -/

private theorem destinationOfCode_code (dest : Destination) :
    destinationOfCode (dest.code &&& 0x7F) = some dest := by
  cases dest <;> rfl

/-- The highest bit does not matter to the destination. -/
private theorem destinationOfCode_code_or (dest : Destination) :
    destinationOfCode ((dest.code ||| 0x80) &&& 0x7F) = some dest := by
  cases dest <;> rfl

/-- The device reads a request without data. -/
theorem ofBytes_transmitHeader (opcode : Bsc203Opcodes) (p1 p2 : UInt8) (dest src : Destination) :
    Request.ofBytes (transmitHeader opcode p1 p2 dest src) =
      some ⟨opcode.code, p1, p2, dest, none⟩ := by
  have hread : Request.ofBytes (headerOf opcode p1 p2 dest.code src.code).toList =
      (destinationOfCode (dest.code &&& 0x7F)).map fun destination =>
        ⟨recvOpcode (headerOf opcode p1 p2 dest.code src.code), p1, p2, destination,
          if dest.code &&& 0x80 = 0x80 then some [] else none⟩ := rfl
  rw [transmitHeader_eq, hread, destinationOfCode_code, recvOpcode_headerOf, if_neg dest.code_and]
  rfl

/-- The device reads a request with data. -/
theorem ofBytes_transmitData (opcode : Bsc203Opcodes) (data : List UInt8)
    (dest src : Destination) :
    Request.ofBytes (transmitData opcode data dest src) =
      some ⟨opcode.code, UInt8.ofNat data.length, UInt8.ofNat (data.length / 256), dest,
        some data⟩ := by
  have hread : ∀ p1 p2 : UInt8,
      Request.ofBytes ((headerOf opcode p1 p2 (dest.code ||| 0x80) src.code).toList ++ data) =
      (destinationOfCode ((dest.code ||| 0x80) &&& 0x7F)).map fun destination =>
        ⟨recvOpcode (headerOf opcode p1 p2 (dest.code ||| 0x80) src.code), p1, p2, destination,
          if (dest.code ||| 0x80) &&& 0x80 = 0x80 then some data else none⟩ := fun _ _ => rfl
  rw [transmitData_eq, hread, destinationOfCode_code_or, recvOpcode_headerOf,
    if_pos dest.code_or_and]
  rfl

section Answers

variable (store : ParameterStore) (p : StructParameter) (dest : Destination)

/-- The device keeps the structure that is set. -/
theorem react_setStruct (t : p.Struct) :
    store.react (transmitData p.setOpcode (copyStructToArray t) dest .host) =
      (store.setStruct p dest t, []) := by
  have hanswer : ∀ (data : List UInt8) (p1 p2 : UInt8),
      store.answer ⟨p.setOpcode.code, p1, p2, dest, some data⟩ =
        (store.setStruct p dest (Packed.value data), []) := by
    intro data p1 p2
    cases p <;> rfl
  have hvalue : (Packed.value (copyStructToArray t) : p.Struct) = t := Packed.value_bytes t
  rw [ParameterStore.react, ofBytes_transmitData]
  exact (hanswer _ _ _).trans (by rw [hvalue])

/-- The device answers with the structure that it has. -/
private theorem react_reqStruct (channel p2 : UInt8) :
    store.react (transmitHeader p.reqOpcode channel p2 dest .host) =
      (store, [.ok (store.structReply p dest channel.toUInt16)]) := by
  rw [ParameterStore.react, ofBytes_transmitHeader]
  cases p <;> rfl

/-- The device keeps whether the channel is enabled. -/
private theorem react_setChannelenable (channel p2 : UInt8) :
    store.react (transmitHeader .modSetChanenablestate channel p2 dest .host) =
      (store.setChannelenable dest channel.toUInt16 (p2 = 0x01), []) := by
  rw [ParameterStore.react, ofBytes_transmitHeader]
  rfl

/-- The device answers whether the channel is enabled. -/
private theorem react_reqChannelenable (channel p2 : UInt8) :
    store.react (transmitHeader .modReqChanenablestate channel p2 dest .host) =
      (store, [.ok (store.channelenableReply dest channel)]) := by
  rw [ParameterStore.react, ofBytes_transmitHeader]
  rfl

end Answers

/-! ### Requests on a controller -/

/-- At the other end of the port is a controller with these parameters, and nothing is left over. -/
structure Port.Serves (port : Port ParameterStore) (store : ParameterStore) : Prop where
  react : port.react = ParameterStore.react
  controller : port.controller = store
  incoming : port.incoming = []

section Requests

variable {port : Port ParameterStore} {store store' : ParameterStore} {bytes : List UInt8}
  {dest : Destination} {m : Message}

/-- A write leads to the store that it makes. -/
theorem Port.Serves.written (h : port.Serves store) (hreact : store.react bytes = (store', [])) :
    (port.written bytes).Serves store' := by
  have hboth : port.react port.controller bytes = (store', []) := by
    rw [h.react, h.controller, hreact]
  refine ⟨h.react, ?_, ?_⟩
  · rw [Port.written, hboth]
  · rw [Port.written, hboth, h.incoming]
    rfl

/-- The reply to a request is what is received next, and the parameters are as before. -/
theorem Port.Serves.written_reply (h : port.Serves store)
    (hreact : store.react bytes = (store, [.ok m])) :
    (port.written bytes).incoming = [.ok m] ∧
      (((port.written bytes).noted [.receive]).awaiting []).Serves store := by
  have hboth : port.react port.controller bytes = (store, [.ok m]) := by
    rw [h.react, h.controller, hreact]
  refine ⟨?_, h.react, congrArg Prod.fst hboth, rfl⟩
  rw [Port.written, hboth, h.incoming]
  rfl

/-- A structure is returned as the store has it. -/
theorem Port.Serves.on_requestResponseStruct (h : port.Serves store) (p : StructParameter)
    (dest : Destination) (channel : UInt8) :
    ∃ port', (requestResponseStruct p.Struct p.reqOpcode p.getOpcode dest channel 0 none).on port =
      (.ok (store.struct p dest channel.toUInt16), port') ∧ port'.Serves store := by
  have hm : (store.structReply p dest channel.toUInt16).Expected p.getOpcode dest := ⟨rfl, rfl⟩
  obtain ⟨hincoming, hserves⟩ := h.written_reply (react_reqStruct store p dest channel 0)
  exact ⟨_, Apt.on_requestResponseStruct port hm rfl hincoming, hserves⟩

/-- The state of a channel is returned as the store has it. -/
private theorem Port.Serves.on_getChannelenable (h : port.Serves store) (dest : Destination)
    (channel : MotorChannelIdents) :
    ∃ port', (getChannelenable dest channel).on port =
      (.ok (store.channelenable dest channel.code.toUInt16), port') ∧ port'.Serves store := by
  have hm : (store.channelenableReply dest channel.code).Expected .modGetChanenablestate dest :=
    ⟨rfl, rfl⟩
  obtain ⟨hincoming, hserves⟩ := h.written_reply (react_reqChannelenable store dest channel.code 0)
  refine ⟨_, ?_, hserves⟩
  rw [getChannelenable, transmitMessageTo, transmitMessage,
    Stateful.on_bind_of_ok (on_write port _),
    Stateful.on_bind_of_ok (on_receiveMessageSyncCheck _ hm hincoming)]
  cases hstate : store.channelenable dest channel.code.toUInt16 with
  | true => simp [ParameterStore.channelenableReply, hstate]
  | false => simp [ParameterStore.channelenableReply, hstate]

end Requests

/-! ### Calls -/

/-- A call of one of the functions. -/
inductive ParameterCall where
  | setPositionCounter (dest : Destination) (channel : MotorChannelIdents) (val : Int32)
  | setHomeparams (dest : Destination) (params : Homeparams)
  | setLimitswitchparams (dest : Destination) (params : Limitswitchparams)
  | setVelocityParams (dest : Destination) (velpar : VelocityParams)
  | setChannelenable (dest : Destination) (channel : MotorChannelIdents) (onoff : Bool)
  | getPositionCounter (dest : Destination) (channel : MotorChannelIdents)
  | getHomeparams (dest : Destination) (channel : MotorChannelIdents)
  | getLimitswitchparams (dest : Destination) (channel : MotorChannelIdents)
  | getVelocityParams (dest : Destination) (channel : MotorChannelIdents)
  | getChannelenable (dest : Destination) (channel : MotorChannelIdents)

/-- What a call returns. -/
inductive ParameterAnswer where
  | done
  | positionCounter (val : Int32)
  | homeparams (params : Homeparams)
  | limitswitchparams (params : Limitswitchparams)
  | velocityParams (velpar : VelocityParams)
  | channelenable (onoff : Bool)
  deriving DecidableEq

namespace ParameterCall

/-- The call. -/
def perform {σ : Type} : ParameterCall → AptM σ ParameterAnswer
  | setPositionCounter dest channel val => do
    Apt.setPositionCounter dest channel val
    return .done
  | setHomeparams dest params => do
    Apt.setHomeparams dest params
    return .done
  | setLimitswitchparams dest params => do
    Apt.setLimitswitchparams dest params
    return .done
  | setVelocityParams dest velpar => do
    Apt.setVelocityParams dest velpar
    return .done
  | setChannelenable dest channel onoff => do
    Apt.setChannelenable dest channel onoff
    return .done
  | getPositionCounter dest channel => do
    let val ← Apt.getPositionCounter dest channel
    return .positionCounter val
  | getHomeparams dest channel => do
    let params ← Apt.getHomeparams dest channel
    return .homeparams params
  | getLimitswitchparams dest channel => do
    let params ← Apt.getLimitswitchparams dest channel
    return .limitswitchparams params
  | getVelocityParams dest channel => do
    let velpar ← Apt.getVelocityParams dest channel
    return .velocityParams velpar
  | getChannelenable dest channel => do
    let onoff ← Apt.getChannelenable dest channel
    return .channelenable onoff

/-- The parameters after the call: a set call sets that of its channel, and no other. -/
def after (store : ParameterStore) : ParameterCall → ParameterStore
  | setPositionCounter dest channel val =>
    store.setStruct .positionCounter dest ⟨channel.code.toUInt16, val⟩
  | setHomeparams dest params => store.setStruct .homeparams dest params
  | setLimitswitchparams dest params => store.setStruct .limitswitchparams dest params
  | setVelocityParams dest velpar => store.setStruct .velocityParams dest velpar
  | setChannelenable dest channel onoff =>
    store.setChannelenable dest channel.code.toUInt16 onoff
  | _ => store

/-- What the call has to return: a get call, the parameter of its channel. -/
def stored (store : ParameterStore) : ParameterCall → ParameterAnswer
  | getPositionCounter dest channel =>
    .positionCounter (store.struct .positionCounter dest channel.code.toUInt16).positionCounterValue
  | getHomeparams dest channel =>
    .homeparams (store.struct .homeparams dest channel.code.toUInt16)
  | getLimitswitchparams dest channel =>
    .limitswitchparams (store.struct .limitswitchparams dest channel.code.toUInt16)
  | getVelocityParams dest channel =>
    .velocityParams (store.struct .velocityParams dest channel.code.toUInt16)
  | getChannelenable dest channel =>
    .channelenable (store.channelenable dest channel.code.toUInt16)
  | _ => .done

/-- Where the position counter of a channel is got, channel zero has the same. -/
def LikeChannelZero (store : ParameterStore) : ParameterCall → Prop
  | getPositionCounter dest channel =>
    (store.struct .positionCounter dest 0).positionCounterValue =
      (store.struct .positionCounter dest channel.code.toUInt16).positionCounterValue
  | _ => True

end ParameterCall

/-- **What one call does**: on a controller it returns, and sets what it has to; and it returns what
it has to exactly if it is not the position counter of channel zero that it gets instead. -/
theorem Port.Serves.on_perform {port : Port ParameterStore} {store : ParameterStore}
    (h : port.Serves store) (call : ParameterCall) :
    ∃ answer port', call.perform.on port = (.ok answer, port') ∧ port'.Serves (call.after store) ∧
      (answer = call.stored store ↔ call.LikeChannelZero store) := by
  have hset : ∀ (p : StructParameter) (dest : Destination) (t : p.Struct),
      (port.written (transmitData p.setOpcode (copyStructToArray t) dest .host)).Serves
        (store.setStruct p dest t) := fun p dest t => h.written (react_setStruct store p dest t)
  cases call with
  | setPositionCounter dest channel val =>
    exact ⟨_, _, rfl, hset .positionCounter dest ⟨channel.code.toUInt16, val⟩,
      iff_of_true rfl trivial⟩
  | setHomeparams dest params =>
    exact ⟨_, _, rfl, hset .homeparams dest params, iff_of_true rfl trivial⟩
  | setLimitswitchparams dest params =>
    exact ⟨_, _, rfl, hset .limitswitchparams dest params, iff_of_true rfl trivial⟩
  | setVelocityParams dest velpar =>
    exact ⟨_, _, rfl, hset .velocityParams dest velpar, iff_of_true rfl trivial⟩
  | setChannelenable dest channel onoff =>
    have hreact := react_setChannelenable store dest channel.code (if onoff then 0x01 else 0x02)
    have honoff : decide ((if onoff then 0x01 else 0x02 : UInt8) = 0x01) = onoff := by
      cases onoff <;> rfl
    rw [honoff] at hreact
    exact ⟨_, _, rfl, h.written hreact, iff_of_true rfl trivial⟩
  | getPositionCounter dest channel =>
    -- this getter asks for channel 0, whichever it is called for
    obtain ⟨port', hon, hserves⟩ := h.on_requestResponseStruct .positionCounter dest 0
    have hget : (Apt.getPositionCounter dest channel).on port =
        (.ok (store.struct .positionCounter dest 0).positionCounterValue, port') :=
      Stateful.on_bind_of_ok hon _
    exact ⟨_, port', Stateful.on_bind_of_ok hget _, hserves,
      ParameterAnswer.positionCounter.inj, congrArg ParameterAnswer.positionCounter⟩
  | getHomeparams dest channel =>
    obtain ⟨port', hon, hserves⟩ := h.on_requestResponseStruct .homeparams dest channel.code
    exact ⟨_, port', Stateful.on_bind_of_ok hon _, hserves, iff_of_true rfl trivial⟩
  | getLimitswitchparams dest channel =>
    obtain ⟨port', hon, hserves⟩ := h.on_requestResponseStruct .limitswitchparams dest channel.code
    exact ⟨_, port', Stateful.on_bind_of_ok hon _, hserves, iff_of_true rfl trivial⟩
  | getVelocityParams dest channel =>
    obtain ⟨port', hon, hserves⟩ := h.on_requestResponseStruct .velocityParams dest channel.code
    exact ⟨_, port', Stateful.on_bind_of_ok hon _, hserves, iff_of_true rfl trivial⟩
  | getChannelenable dest channel =>
    obtain ⟨port', hon, hserves⟩ := h.on_getChannelenable dest channel
    exact ⟨_, port', Stateful.on_bind_of_ok hon _, hserves, iff_of_true rfl trivial⟩

/-! ### Runs -/

/-- The port, and the calls so far with what they came to, the newest first. -/
structure ParameterHistory where
  port : Port ParameterStore
  hist : List (ParameterCall × Except Fault ParameterAnswer)

/-- The parameters after calls: for each channel what was set last, or else the initial one. -/
def storedAfter (initial : ParameterStore)
    (hist : List (ParameterCall × Except Fault ParameterAnswer)) : ParameterStore :=
  hist.foldr (fun e store => e.1.after store) initial

/-- **Parameters are per channel**: each call has returned what is stored for its channel. -/
def PerChannel (initial : ParameterStore) :
    List (ParameterCall × Except Fault ParameterAnswer) → Prop
  | [] => True
  | (call, answer) :: hist =>
    answer = .ok (call.stored (storedAfter initial hist)) ∧ PerChannel initial hist

/-- Calls one after the other, on a controller with these parameters. -/
def parameterCalls (initial : ParameterStore) :
    TransitionSystem ParameterHistory ParameterCall where
  init := ⟨⟨ParameterStore.react, initial, [], [], []⟩, []⟩
  step s call :=
    some ⟨(call.perform.on s.port).2, (call, (call.perform.on s.port).1) :: s.hist⟩

/-- The controller keeps what has been set. -/
theorem serves_of_reachable {initial : ParameterStore} {s : ParameterHistory}
    (hs : (parameterCalls initial).Reachable s) : s.port.Serves (storedAfter initial s.hist) := by
  refine hs.invariant (P := fun s => s.port.Serves (storedAfter initial s.hist))
    ⟨rfl, rfl, rfl⟩ ?_
  rintro s call s' - hserves - hstep
  obtain rfl := Option.some.inj hstep
  obtain ⟨answer, port', hon, hserves', -⟩ := hserves.on_perform call
  rw [hon]
  exact hserves'

/-- **The parameters of the channels**: in every run of calls, each returns what was set last for
its destination and channel, exactly if no position counter is got that is not like that of channel
zero. -/
theorem parameters_perChannel_iff (initial : ParameterStore) (calls : List ParameterCall) :
    ∃ s, (parameterCalls initial).run (parameterCalls initial).init calls = some s ∧
      (PerChannel initial s.hist ↔
        (parameterCalls initial).Guarded
          (fun s call => call.LikeChannelZero (storedAfter initial s.hist))
          (parameterCalls initial).init calls) := by
  obtain ⟨s, hrun⟩ := TransitionSystem.exists_run (M := parameterCalls initial)
    (fun s call => ⟨_, rfl⟩) calls (parameterCalls initial).init
  have hinit : PerChannel initial (parameterCalls initial).init.hist := trivial
  refine ⟨s, hrun, TransitionSystem.run_iff_guarded (P := fun s => PerChannel initial s.hist)
    hinit ?_ hrun⟩
  rintro s call s' hs hstep
  obtain rfl := Option.some.inj hstep
  obtain ⟨answer, port', hon, -, hstored⟩ := (serves_of_reachable hs).on_perform call
  rw [hon, ← hstored, and_comm]
  exact and_congr_left' ⟨Except.ok.inj, congrArg Except.ok⟩

/-- All parameters are zero. -/
def allZero : ParameterStore where
  struct
    | .positionCounter, _, _ => ⟨0, 0⟩
    | .homeparams, _, _ => ⟨0, 0, 0, 0, 0⟩
    | .limitswitchparams, _, _ => ⟨0, 0, 0, 0, 0, 0⟩
    | .velocityParams, _, _ => ⟨0, 0, 0, 0⟩
  channelenable _ _ := false

/-- The position counter of channel one is set to five, and got as zero. -/
theorem not_parameters_perChannel : ¬ ∃ s,
    (parameterCalls allZero).run (parameterCalls allZero).init
        [.setPositionCounter .bay1 .channel1 5, .getPositionCounter .bay1 .channel1] = some s ∧
      PerChannel allZero s.hist := by
  rintro ⟨s, hrun, hright⟩
  obtain rfl := Option.some.inj hrun
  have hanswer := hright.1
  revert hanswer
  decide +kernel

end Apt

end Foxtrot
