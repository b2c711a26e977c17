import Foxtrot.Apt.Parameters

/-!
# The encoders of the BSC203

`BSC203` puts the bytes of its parameters together by hand, where `APT` copies the packed structure.
Both give the same bytes but for the channel: the encoders write its lower byte, and a zero. So they
agree with `copy_struct_to_array`, and a controller gives back what has been set, exactly if the
channel fits in a byte (`encoder_agrees_iff`).
-/

namespace Foxtrot

namespace Apt

namespace Bsc203

/-! ### The encoders -/

/-- A byte of a field: the field is read through a pointer to its bytes. -/
def byte {T : Type} [Packed T] (field : T) (i : ℕ) : UInt8 := (Packed.bytes field).getD i 0

/-- `get_powerparams_data`. -/
def getPowerparamsData (powerstr : Powerparams) : List UInt8 :=
  [powerstr.chanIndent.toUInt8, 0, byte powerstr.restFactor 0, byte powerstr.restFactor 1,
    byte powerstr.moveFactor 0, byte powerstr.moveFactor 1]

/-- `get_homeparams_data`. -/
def getHomeparamsData (homeparams : Homeparams) : List UInt8 :=
  [homeparams.chanIdent.toUInt8, 0, byte homeparams.homeDir 0, byte homeparams.homeDir 1,
    byte homeparams.limitSwitch 0, byte homeparams.limitSwitch 1, byte homeparams.homeVelocity 0,
    byte homeparams.homeVelocity 1, byte homeparams.homeVelocity 2, byte homeparams.homeVelocity 3,
    byte homeparams.offsetDistance 0, byte homeparams.offsetDistance 1,
    byte homeparams.offsetDistance 2, byte homeparams.offsetDistance 3]

/-- `get_velocityparams_data`. -/
def getVelocityparamsData (velpar : VelocityParams) : List UInt8 :=
  [velpar.chanIdent.toUInt8, 0, byte velpar.minvel 0, byte velpar.minvel 1, byte velpar.minvel 2,
    byte velpar.minvel 3, byte velpar.acceleration 0, byte velpar.acceleration 1,
    byte velpar.acceleration 2, byte velpar.acceleration 3, byte velpar.maxvel 0,
    byte velpar.maxvel 1, byte velpar.maxvel 2, byte velpar.maxvel 3]

/-- `get_jog_set_request_data`. -/
def getJogSetRequestData (jogstructp : JogparamsBsc) : List UInt8 :=
  [jogstructp.chanIndent.toUInt8, 0, byte jogstructp.jogMode 0, byte jogstructp.jogMode 1,
    byte jogstructp.jogStepSize 0, byte jogstructp.jogStepSize 1, byte jogstructp.jogStepSize 2,
    byte jogstructp.jogStepSize 3, byte jogstructp.jogMinVel 0, byte jogstructp.jogMinVel 1,
    byte jogstructp.jogMinVel 2, byte jogstructp.jogMinVel 3, byte jogstructp.jogAccn 0,
    byte jogstructp.jogAccn 1, byte jogstructp.jogAccn 2, byte jogstructp.jogAccn 3,
    byte jogstructp.jogMaxVel 0, byte jogstructp.jogMaxVel 1, byte jogstructp.jogMaxVel 2,
    byte jogstructp.jogMaxVel 3, byte jogstructp.jogStopMode 0, byte jogstructp.jogStopMode 1]

/-- `get_limitswitch_params`. -/
def getLimitswitchParams (limitstr : Limitswitchparams) : List UInt8 :=
  [limitstr.chanIdent.toUInt8, 0, byte limitstr.cwHard 0, byte limitstr.cwHard 1,
    byte limitstr.ccwHard 0, byte limitstr.ccwHard 1, byte limitstr.cwSoft 0,
    byte limitstr.cwSoft 1, byte limitstr.cwSoft 2, byte limitstr.cwSoft 3,
    byte limitstr.ccwSoft 0, byte limitstr.ccwSoft 1, byte limitstr.ccwSoft 2,
    byte limitstr.ccwSoft 3, byte limitstr.limitMode 0, byte limitstr.limitMode 1]

/-- `get_PMDjoystick_params`. -/
def getPmdJoystickParams (pmdJoystickstr : PmdJoystickparams) : List UInt8 :=
  [pmdJoystickstr.chanIndent.toUInt8, 0, byte pmdJoystickstr.lowMaxVel 0,
    byte pmdJoystickstr.lowMaxVel 1, byte pmdJoystickstr.lowMaxVel 2,
    byte pmdJoystickstr.lowMaxVel 3, byte pmdJoystickstr.highMaxVel 0,
    byte pmdJoystickstr.highMaxVel 1, byte pmdJoystickstr.highMaxVel 2,
    byte pmdJoystickstr.highMaxVel 3, byte pmdJoystickstr.highLowAccn 0,
    byte pmdJoystickstr.highLowAccn 1, byte pmdJoystickstr.highLowAccn 2,
    byte pmdJoystickstr.highLowAccn 3, byte pmdJoystickstr.highHighAccn 0,
    byte pmdJoystickstr.highHighAccn 1, byte pmdJoystickstr.highHighAccn 2,
    byte pmdJoystickstr.highHighAccn 3, byte pmdJoystickstr.dirSense 0,
    byte pmdJoystickstr.dirSense 1]

section Functions

variable {σ : Type}

/-! ### Setting and getting -/

/-- `set_power_parameters`. -/
def setPowerParameters (dest : Destination) (powerstr : Powerparams) : AptM σ Unit :=
  transmitMessageData .motSetPowerparams (getPowerparamsData powerstr) dest

/-- `BSC203::set_homeparams`. -/
def setHomeparams (dest : Destination) (homestr : Homeparams) : AptM σ Unit :=
  transmitMessageData .motSetHomeparams (getHomeparamsData homestr) dest

/-- `set_limit_switch_params`. -/
def setLimitSwitchParams (dest : Destination) (limitstr : Limitswitchparams) : AptM σ Unit :=
  transmitMessageData .motSetLimswitchparams (getLimitswitchParams limitstr) dest

/-- `set_jog_params`. -/
def setJogParams (dest : Destination) (jogstruct : JogparamsBsc) : AptM σ Unit :=
  transmitMessageData .motSetJogparams (getJogSetRequestData jogstruct) dest

/-- `set_PMD_params`. -/
def setPmdParams (dest : Destination) (pmdJoystickstr : PmdJoystickparams) : AptM σ Unit :=
  transmitMessageData .motSetPmdjoystickparams (getPmdJoystickParams pmdJoystickstr) dest

/-- `BSC203::get_power_parameters`. -/
def getPowerParameters (dest : Destination) : AptM σ Powerparams :=
  requestResponseStruct Powerparams .motReqPowerparams .motGetPowerparams dest 0x01 0x0 none

/-- `BSC203::get_homeparams`. -/
def getHomeparams (dest : Destination) : AptM σ Homeparams :=
  requestResponseStruct Homeparams .motReqHomeparams .motGetHomeparams dest 0x01 0x0 none

/-- `BSC203::get_jog_params`. -/
def getJogParams (dest : Destination) : AptM σ JogparamsBsc :=
  requestResponseStruct JogparamsBsc .motReqJogparams .motGetJogparams dest 0x01 0x0 none

end Functions

/-! ### The structures -/

/-- A structure that is encoded by hand. -/
inductive EncodedStruct where
  | powerparams
  | homeparams
  | velocityParams
  | jogparams
  | limitswitchparams
  | pmdJoystickparams
  deriving DecidableEq

namespace EncodedStruct

/-- The structure. -/
abbrev Struct : EncodedStruct → Type
  | powerparams => Powerparams
  | homeparams => Homeparams
  | velocityParams => VelocityParams
  | jogparams => JogparamsBsc
  | limitswitchparams => Limitswitchparams
  | pmdJoystickparams => PmdJoystickparams

instance : (p : EncodedStruct) → Packed p.Struct
  | powerparams => (inferInstance : Packed Powerparams)
  | homeparams => (inferInstance : Packed Homeparams)
  | velocityParams => (inferInstance : Packed VelocityParams)
  | jogparams => (inferInstance : Packed JogparamsBsc)
  | limitswitchparams => (inferInstance : Packed Limitswitchparams)
  | pmdJoystickparams => (inferInstance : Packed PmdJoystickparams)

/-- The channel that the structure names. -/
def chanIdent : (p : EncodedStruct) → p.Struct → UInt16
  | powerparams => Powerparams.chanIndent
  | homeparams => Homeparams.chanIdent
  | velocityParams => VelocityParams.chanIdent
  | jogparams => JogparamsBsc.chanIndent
  | limitswitchparams => Limitswitchparams.chanIdent
  | pmdJoystickparams => PmdJoystickparams.chanIndent

/-- Its encoder. -/
def encoder : (p : EncodedStruct) → p.Struct → List UInt8
  | powerparams => getPowerparamsData
  | homeparams => getHomeparamsData
  | velocityParams => getVelocityparamsData
  | jogparams => getJogSetRequestData
  | limitswitchparams => getLimitswitchParams
  | pmdJoystickparams => getPmdJoystickParams

/-- The identifier of the message that sets it. -/
def setOpcode : EncodedStruct → Bsc203Opcodes
  | powerparams => .motSetPowerparams
  | homeparams => .motSetHomeparams
  | velocityParams => .motSetVelparams
  | jogparams => .motSetJogparams
  | limitswitchparams => .motSetLimswitchparams
  | pmdJoystickparams => .motSetPmdjoystickparams

/-- It is set. The encoder of the velocity has no caller: its bytes are transmitted like those of
the others. -/
def set {σ : Type} (dest : Destination) : (p : EncodedStruct) → p.Struct → AptM σ Unit
  | powerparams => setPowerParameters dest
  | homeparams => Bsc203.setHomeparams dest
  | velocityParams => fun velpar =>
    transmitMessageData .motSetVelparams (getVelocityparamsData velpar) dest
  | jogparams => setJogParams dest
  | limitswitchparams => setLimitSwitchParams dest
  | pmdJoystickparams => setPmdParams dest

/-- The functions that get it, of `BSC203` and of `APT`. There is none for the joystick. -/
def gets {σ : Type} (dest : Destination) (channel : MotorChannelIdents) :
    (p : EncodedStruct) → List (AptM σ p.Struct)
  | powerparams => [getPowerParameters dest]
  | homeparams => [Bsc203.getHomeparams dest, Apt.getHomeparams dest channel]
  | velocityParams => [getVelocityParams dest channel]
  | jogparams => [getJogParams dest]
  | limitswitchparams => [getLimitswitchparams dest channel]
  | pmdJoystickparams => []

/-- A setter transmits what its encoder makes. -/
theorem set_eq {σ : Type} (dest : Destination) (p : EncodedStruct) (t : p.Struct) :
    (p.set dest t : AptM σ Unit) = transmitMessageData p.setOpcode (p.encoder t) dest := by
  cases p <;> rfl

/-- The identifiers of the messages that request a structure and that bring it follow that of the
message that sets it. -/
theorem eq_request_of_mem_gets {σ : Type} {dest : Destination} {channel : MotorChannelIdents}
    {p : EncodedStruct} {get : AptM σ p.Struct} (h : get ∈ p.gets dest channel) :
    ∃ opcodeSend opcodeRecv p1,
      get = requestResponseStruct p.Struct opcodeSend opcodeRecv dest p1 0 none ∧
        opcodeSend.code = p.setOpcode.code + 1 ∧ opcodeRecv.code = opcodeSend.code + 1 := by
  cases p with
  | powerparams =>
    obtain rfl := List.mem_singleton.mp h
    exact ⟨.motReqPowerparams, .motGetPowerparams, _, rfl, rfl, rfl⟩
  | homeparams =>
    obtain rfl | h := List.mem_cons.mp h
    · exact ⟨.motReqHomeparams, .motGetHomeparams, _, rfl, rfl, rfl⟩
    · obtain rfl := List.mem_singleton.mp h
      exact ⟨.motReqHomeparams, .motGetHomeparams, _, rfl, rfl, rfl⟩
  | velocityParams =>
    obtain rfl := List.mem_singleton.mp h
    exact ⟨.motReqVelparams, .motGetVelparams, _, rfl, rfl, rfl⟩
  | jogparams =>
    obtain rfl := List.mem_singleton.mp h
    exact ⟨.motReqJogparams, .motGetJogparams, _, rfl, rfl, rfl⟩
  | limitswitchparams =>
    obtain rfl := List.mem_singleton.mp h
    exact ⟨.motReqLimswitchparams, .motGetLimswitchparams, _, rfl, rfl, rfl⟩
  | pmdJoystickparams => exact absurd h List.not_mem_nil

end EncodedStruct

/-! ### A controller that returns the stored bytes -/

/-- The bytes that have been set, for each destination and each identifier of a message. -/
abbrev StoredBytes := Destination × UInt16 → List UInt8

/-- What such a controller does about the bytes of a transmission: the data of a message are stored,
and a request is answered with what is stored under the identifier in front of its own. -/
def StoredBytes.react (stored : StoredBytes) (bytes : List UInt8) : StoredBytes × List Arrival :=
  match Request.ofBytes bytes with
  | some ⟨opcode, _, _, dest, some data⟩ => (Function.update stored (dest, opcode) data, [])
  | some ⟨opcode, _, _, dest, none⟩ =>
    (stored, [.ok ⟨dest.code, opcode + 1, UInt8.ofNat (stored (dest, opcode - 1)).length,
      UInt8.ofNat ((stored (dest, opcode - 1)).length / 256), some (stored (dest, opcode - 1))⟩])
  | none => (stored, [])

/-- A port with such a controller at its other end. -/
def storing (stored : StoredBytes) : Port StoredBytes := ⟨StoredBytes.react, stored, [], [], []⟩

/-- **The encoder agrees with the packed structure**, and a controller that returns the stored bytes
gives it back. -/
structure Agrees (p : EncodedStruct) (t : p.Struct) : Prop where
  encoded : p.encoder t = copyStructToArray t
  gotBack : ∀ dest channel stored, ∀ get ∈ p.gets dest channel,
    ((p.set dest t >>= fun _ => get).on (storing stored)).1 = .ok t

/-- Data that are set are got back, as the structure that they are. -/
theorem on_set_get {T : Type} [Packed T] {opcodeSet opcodeSend opcodeRecv : Bsc203Opcodes}
    (hsend : opcodeSend.code = opcodeSet.code + 1) (hrecv : opcodeRecv.code = opcodeSend.code + 1)
    (dest : Destination) (p1 : UInt8) (t : T) (stored : StoredBytes) :
    ((transmitMessageData opcodeSet (copyStructToArray t) dest >>= fun _ =>
      requestResponseStruct T opcodeSend opcodeRecv dest p1 0 none).on (storing stored)).1 =
        .ok t := by
  have hset : stored.react (transmitData opcodeSet (copyStructToArray t) dest .host) =
      (Function.update stored (dest, opcodeSet.code) (copyStructToArray t), []) := by
    rw [StoredBytes.react, ofBytes_transmitData]
  -- the request names the identifier behind that of the bytes
  have hprevious : opcodeSend.code - 1 = opcodeSet.code := by
    rw [hsend, UInt16.add_sub_cancel]
  obtain ⟨m, hm, hdata, hrequest⟩ : ∃ m : Message, m.Expected opcodeRecv dest ∧
      m.reply.data = some (Packed.bytes t) ∧
      StoredBytes.react (Function.update stored (dest, opcodeSet.code) (copyStructToArray t))
        (transmitHeader opcodeSend p1 0 dest .host) =
          (Function.update stored (dest, opcodeSet.code) (copyStructToArray t), [.ok m]) := by
    refine ⟨⟨dest.code, opcodeRecv.code, UInt8.ofNat (copyStructToArray t).length,
      UInt8.ofNat ((copyStructToArray t).length / 256), some (copyStructToArray t)⟩, ⟨rfl, rfl⟩,
      rfl, ?_⟩
    rw [StoredBytes.react, ofBytes_transmitHeader]
    simp only [hprevious, Function.update_self, hrecv]
  generalize hport : (storing stored).written
    (transmitData opcodeSet (copyStructToArray t) dest .host) = port
  have hincoming : (port.written (transmitHeader opcodeSend p1 0 dest .host)).incoming =
      [.ok m] := by
    rw [← hport, Port.written, Port.written]
    simp only [storing, hset, hrequest]
    rfl
  rw [transmitMessageData, Stateful.on_bind_of_ok (on_write _ _), hport,
    on_requestResponseStruct _ hm hdata hincoming]

/-- Beside the channel, the encoder gives the bytes of the structure. -/
theorem encoder_eq (p : EncodedStruct) (t : p.Struct) :
    p.encoder t = [(p.chanIdent t).toUInt8, 0] ++ (copyStructToArray t).drop 2 := by
  cases p <;> rfl

private theorem copyStructToArray_eq (p : EncodedStruct) (t : p.Struct) :
    copyStructToArray t = Packed.bytes (p.chanIdent t) ++ (copyStructToArray t).drop 2 := by
  cases p <;> rfl

/-- A channel is its lower byte and a zero if it fits in a byte. -/
theorem toUInt8_eq_bytes_iff (chan : UInt16) :
    [chan.toUInt8, 0] = Packed.bytes chan ↔ chan.toNat < 256 := by
  have hbytes : Packed.bytes chan = [UInt8.ofNat chan.toNat, UInt8.ofNat (chan.toNat / 256)] :=
    LittleEndian.bytes_two chan.toNat
  have hlt := chan.toNat_lt
  rw [hbytes, List.cons.injEq, List.cons.injEq, ← UInt8.toNat_inj, ← UInt8.toNat_inj,
    UInt8.toNat_ofNat', UInt8.toNat_ofNat', UInt16.toNat_toUInt8]
  simp
  omega

/-- **The encoders of the BSC203**: for each of the structures and all values of its fields, the
encoder agrees with the packed structure, exactly if the channel fits in a byte. -/
theorem encoder_agrees_iff (p : EncodedStruct) (t : p.Struct) :
    Agrees p t ↔ (p.chanIdent t).toNat < 256 := by
  have hencoded : p.encoder t = copyStructToArray t ↔ (p.chanIdent t).toNat < 256 := by
    calc p.encoder t = copyStructToArray t
        ↔ [(p.chanIdent t).toUInt8, 0] ++ (copyStructToArray t).drop 2 =
          Packed.bytes (p.chanIdent t) ++ (copyStructToArray t).drop 2 := by
          rw [← encoder_eq, ← copyStructToArray_eq]
      _ ↔ [(p.chanIdent t).toUInt8, 0] = Packed.bytes (p.chanIdent t) :=
          List.append_left_inj _
      _ ↔ (p.chanIdent t).toNat < 256 := toUInt8_eq_bytes_iff _
  refine ⟨fun h => hencoded.mp h.encoded, fun hchan => ⟨hencoded.mpr hchan, ?_⟩⟩
  intro dest channel stored get hget
  obtain ⟨opcodeSend, opcodeRecv, p1, rfl, hsend, hrecv⟩ :=
    EncodedStruct.eq_request_of_mem_gets hget
  rw [EncodedStruct.set_eq, hencoded.mpr hchan]
  exact on_set_get hsend hrecv dest p1 t stored

/-- The channel has a higher byte. -/
theorem not_encoder_agrees : ¬ Agrees .powerparams (⟨0x0101, 1, 2⟩ : Powerparams) := by
  intro h
  have hencoded := h.encoded
  revert hencoded
  decide +kernel

end Bsc203

end Apt

end Foxtrot
