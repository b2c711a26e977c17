import Foxtrot.Foundation.Packed

/-!
# The structures of APT controllers

The data of messages are packed structures (`APT_defs.hh`, `BSC203.h`, `TIM101.h`), little-endian
and without padding. Each is packed like the tuple of its fields, in the order of the source.

`Packed` is the class of types with a size and a conversion to and from as many bytes. A structure
has its instance through that of the tuple, so `Packed.bytes` of it is what `copy_struct_to_array`
copies, byte by byte, and a structure that is read from its own bytes is the same one
(`Packed.value_bytes`).
-/

namespace Foxtrot

namespace Apt

/-- `poscounter_throwaway`. -/
structure PoscounterThrowaway where
  chanIdent : UInt16
  positionCounterValue : Int32
  deriving DecidableEq

instance : Packed PoscounterThrowaway :=
  Packed.ofEquiv (S := UInt16 × Int32)
    ⟨fun p => (p.chanIdent, p.positionCounterValue), fun q => ⟨q.1, q.2⟩, fun _ => rfl,
      fun _ => rfl⟩

/-- `channel_status`. -/
structure ChannelStatus where
  chanIdent : UInt16
  position : UInt32
  enccount : UInt32
  statusbits : UInt32
  deriving DecidableEq

instance : Packed ChannelStatus :=
  Packed.ofEquiv (S := UInt16 × UInt32 × UInt32 × UInt32)
    ⟨fun s => (s.chanIdent, s.position, s.enccount, s.statusbits),
      fun q => ⟨q.1, q.2.1, q.2.2.1, q.2.2.2⟩, fun _ => rfl, fun _ => rfl⟩

/-- `dcstatus`. -/
structure Dcstatus where
  chanIdent : UInt16
  position : UInt32
  velocity : UInt16
  motorcurrent : UInt16
  statusbits : UInt32
  deriving DecidableEq

instance : Packed Dcstatus :=
  Packed.ofEquiv (S := UInt16 × UInt32 × UInt16 × UInt16 × UInt32)
    ⟨fun s => (s.chanIdent, s.position, s.velocity, s.motorcurrent, s.statusbits),
      fun q => ⟨q.1, q.2.1, q.2.2.1, q.2.2.2.1, q.2.2.2.2⟩, fun _ => rfl, fun _ => rfl⟩

/-- `velocity_params`. -/
structure VelocityParams where
  chanIdent : UInt16
  minvel : UInt32
  acceleration : UInt32
  maxvel : UInt32
  deriving DecidableEq

instance : Packed VelocityParams :=
  Packed.ofEquiv (S := UInt16 × UInt32 × UInt32 × UInt32)
    ⟨fun p => (p.chanIdent, p.minvel, p.acceleration, p.maxvel),
      fun q => ⟨q.1, q.2.1, q.2.2.1, q.2.2.2⟩, fun _ => rfl, fun _ => rfl⟩

/-- `homeparams`. -/
structure Homeparams where
  chanIdent : UInt16
  homeDir : UInt16
  limitSwitch : UInt16
  homeVelocity : UInt32
  offsetDistance : UInt32
  deriving DecidableEq

instance : Packed Homeparams :=
  Packed.ofEquiv (S := UInt16 × UInt16 × UInt16 × UInt32 × UInt32)
    ⟨fun p => (p.chanIdent, p.homeDir, p.limitSwitch, p.homeVelocity, p.offsetDistance),
      fun q => ⟨q.1, q.2.1, q.2.2.1, q.2.2.2.1, q.2.2.2.2⟩, fun _ => rfl, fun _ => rfl⟩

/-- `limitswitchparams`. -/
structure Limitswitchparams where
  chanIdent : UInt16
  cwHard : UInt16
  ccwHard : UInt16
  cwSoft : UInt32
  ccwSoft : UInt32
  limitMode : UInt16
  deriving DecidableEq

instance : Packed Limitswitchparams :=
  Packed.ofEquiv (S := UInt16 × UInt16 × UInt16 × UInt32 × UInt32 × UInt16)
    ⟨fun p => (p.chanIdent, p.cwHard, p.ccwHard, p.cwSoft, p.ccwSoft, p.limitMode),
      fun q => ⟨q.1, q.2.1, q.2.2.1, q.2.2.2.1, q.2.2.2.2.1, q.2.2.2.2.2⟩, fun _ => rfl,
      fun _ => rfl⟩

/-- `jogparamsBSC`. -/
structure JogparamsBsc where
  chanIndent : UInt16
  jogMode : UInt16
  jogStepSize : UInt32
  jogMinVel : UInt32
  jogAccn : UInt32
  jogMaxVel : UInt32
  jogStopMode : UInt16
  deriving DecidableEq

instance : Packed JogparamsBsc :=
  Packed.ofEquiv (S := UInt16 × UInt16 × UInt32 × UInt32 × UInt32 × UInt32 × UInt16)
    ⟨fun p => (p.chanIndent, p.jogMode, p.jogStepSize, p.jogMinVel, p.jogAccn, p.jogMaxVel,
        p.jogStopMode),
      fun q => ⟨q.1, q.2.1, q.2.2.1, q.2.2.2.1, q.2.2.2.2.1, q.2.2.2.2.2.1, q.2.2.2.2.2.2⟩,
      fun _ => rfl, fun _ => rfl⟩

/-- `powerparams`. -/
structure Powerparams where
  chanIndent : UInt16
  restFactor : UInt16
  moveFactor : UInt16
  deriving DecidableEq

instance : Packed Powerparams :=
  Packed.ofEquiv (S := UInt16 × UInt16 × UInt16)
    ⟨fun p => (p.chanIndent, p.restFactor, p.moveFactor), fun q => ⟨q.1, q.2.1, q.2.2⟩,
      fun _ => rfl, fun _ => rfl⟩

/-- `PMDjoystickparams`. -/
structure PmdJoystickparams where
  chanIndent : UInt16
  lowMaxVel : UInt32
  highMaxVel : UInt32
  highLowAccn : UInt32
  highHighAccn : UInt32
  dirSense : UInt16
  deriving DecidableEq

instance : Packed PmdJoystickparams :=
  Packed.ofEquiv (S := UInt16 × UInt32 × UInt32 × UInt32 × UInt32 × UInt16)
    ⟨fun p => (p.chanIndent, p.lowMaxVel, p.highMaxVel, p.highLowAccn, p.highHighAccn,
        p.dirSense),
      fun q => ⟨q.1, q.2.1, q.2.2.1, q.2.2.2.1, q.2.2.2.2.1, q.2.2.2.2.2⟩, fun _ => rfl,
      fun _ => rfl⟩

/-- `motor_status`. -/
structure MotorStatus where
  channel1 : ChannelStatus
  channel2 : ChannelStatus
  channel3 : ChannelStatus
  channel4 : ChannelStatus
  deriving DecidableEq

instance : Packed MotorStatus :=
  Packed.ofEquiv (S := ChannelStatus × ChannelStatus × ChannelStatus × ChannelStatus)
    ⟨fun s => (s.channel1, s.channel2, s.channel3, s.channel4),
      fun q => ⟨q.1, q.2.1, q.2.2.1, q.2.2.2⟩, fun _ => rfl, fun _ => rfl⟩

/-- `copy_struct_to_array`. -/
def copyStructToArray {T : Type} [Packed T] (strct : T) : List UInt8 := Packed.bytes strct

/-- Both statuses have the same size. -/
theorem size_status : Packed.size ChannelStatus = 14 ∧ Packed.size Dcstatus = 14 := ⟨rfl, rfl⟩

end Apt

end Foxtrot
