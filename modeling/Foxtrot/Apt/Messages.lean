import Foxtrot.Foundation.Framing
import Foxtrot.Foundation.LittleEndian
import Foxtrot.Server.Handler

/-!
# Messages of APT controllers

Thorlabs' controllers exchange messages over a serial port (`devices/Thorlabs_APT`). A message is a
header of six bytes: the identifier, two parameters, the destination and the source. If the topmost
bit of the destination is set, then the parameters are the length of the data that follow.

A transmission is modelled by the bytes that it writes. Receiving (`receive_sync_common`) works on
the bytes that have arrived; to wait in vain for more is to run into the timeout. `char` is signed:
what it computes from the bytes of a header is computed with their signs.

The order of the checks is that of the code: a null destination, six zeros, another source than the
one expected. Each of them flushes the port and throws; the second is never met, since six zeros
have a null destination. The numbers in a header are put together from `char`s with `|`, so a lower
byte of `0x80` or more covers the upper one (`toNat_dlen`).
-/

namespace Foxtrot

/-! ### Identifiers -/

/-- `destination`. -/
inductive Destination where
  | host
  | rack
  | genericUsb
  | bay1
  | bay2
  | bay3
  deriving DecidableEq

def Destination.code : Destination → UInt8
  | host => 0x01
  | rack => 0x11
  | genericUsb => 0x50
  | bay1 => 0x21
  | bay2 => 0x22
  | bay3 => 0x23

/-- `bsc203_opcodes`. The enumerators of an identifier with two names are two constructors. -/
inductive Bsc203Opcodes where
  | modIdentify
  | modSetChanenablestate
  | modReqChanenablestate
  | modGetChanenablestate
  | modStartUpdatemsgs
  | modStopUpdatemsgs
  | modReqHwinfo
  | modGetHwinfo
  | hwNoFlashProgramming
  | rackReqBayused
  | rackGetBayused
  | rackReqStatusbits
  | rackGetStatusbits
  | rackSetDigoutputs
  | rackReqDigoutputs
  | rackGetDigoutputs
  | motSetPoscounter
  | motReqPoscounter
  | motGetPoscounter
  | motSetEnccounter
  | motReqEnccounter
  | motGetEnccounter
  | motSetVelparams
  | motReqVelparams
  | motGetVelparams
  | motSetJogparams
  | motReqJogparams
  | motGetJogparams
  | motReqAdcinputs
  | motGetAdcinputs
  | motSetPowerparams
  | motReqPowerparams
  | motGetPowerparams
  | motSetGenmoveparams
  | motReqGenmoveparams
  | motGetGenmoveparams
  | motSetMoverelparams
  | motReqMoverelparams
  | motGetMoverelparams
  | motSetMoveabsparams
  | motReqMoveabsparams
  | motGetMoveabsparams
  | motSetHomeparams
  | motReqHomeparams
  | motGetHomeparams
  | motSetLimswitchparams
  | motReqLimswitchparams
  | motGetLimswitchparams
  | motMoveHome
  | motMoveHomed
  | motMoveRelative
  | motMoveCompleted
  | pzmotMoveCompleted
  | motMoveAbsolute
  | pzmotMoveAbsolute
  | motMoveJog
  | pzmotMoveJog
  | motMoveVelocity
  | motMoveStop
  | motMoveStopped
  | motSetBowindex
  | motReqBowindex
  | motGetBowindex
  | motSetDcpidparams
  | motReqDcpidparams
  | motGetDcpidparams
  | motGetStatusupdate
  | motReqStatusupdate
  | motReqDcstatusupdate
  | motGetDcstatusupdate
  | motAckStatusupdate
  | motReqStatusbits
  | motGetStatusbits
  | pzmotSetParams
  | pzmotReqParams
  | pzmotGetParams
  | hwStartUpdatemsgs
  | hwStopUpdatemsgs
  | pzmotGetStatusupdate
  | modSetDigoutputs
  | modReqDigoutputs
  | modGetDigoutputs
  | motSetPmdjoystickparams
  | motSuspendEndofmovemsgs
  | motResumeEndofmovemsgs
  | hwRichresponse
  | hwResponse
  deriving DecidableEq

def Bsc203Opcodes.code : Bsc203Opcodes → UInt16
  | modIdentify => 0x0223
  | modSetChanenablestate => 0x0210
  | modReqChanenablestate => 0x0211
  | modGetChanenablestate => 0x0212
  | modStartUpdatemsgs => 0x0011
  | modStopUpdatemsgs => 0x0012
  | modReqHwinfo => 0x0005
  | modGetHwinfo => 0x0006
  | hwNoFlashProgramming => 0x0018
  | rackReqBayused => 0x0060
  | rackGetBayused => 0x0061
  | rackReqStatusbits => 0x0226
  | rackGetStatusbits => 0x0227
  | rackSetDigoutputs => 0x0228
  | rackReqDigoutputs => 0x0229
  | rackGetDigoutputs => 0x0230
  | motSetPoscounter => 0x0410
  | motReqPoscounter => 0x0411
  | motGetPoscounter => 0x0412
  | motSetEnccounter => 0x0409
  | motReqEnccounter => 0x040A
  | motGetEnccounter => 0x040B
  | motSetVelparams => 0x0413
  | motReqVelparams => 0x0414
  | motGetVelparams => 0x0415
  | motSetJogparams => 0x0416
  | motReqJogparams => 0x0417
  | motGetJogparams => 0x0418
  | motReqAdcinputs => 0x042B
  | motGetAdcinputs => 0x042C
  | motSetPowerparams => 0x0426
  | motReqPowerparams => 0x0427
  | motGetPowerparams => 0x0428
  | motSetGenmoveparams => 0x043A
  | motReqGenmoveparams => 0x043B
  | motGetGenmoveparams => 0x043C
  | motSetMoverelparams => 0x0445
  | motReqMoverelparams => 0x0446
  | motGetMoverelparams => 0x0447
  | motSetMoveabsparams => 0x0450
  | motReqMoveabsparams => 0x0451
  | motGetMoveabsparams => 0x0452
  | motSetHomeparams => 0x0440
  | motReqHomeparams => 0x0441
  | motGetHomeparams => 0x0442
  | motSetLimswitchparams => 0x0423
  | motReqLimswitchparams => 0x0424
  | motGetLimswitchparams => 0x0425
  | motMoveHome => 0x0443
  | motMoveHomed => 0x0444
  | motMoveRelative => 0x0448
  | motMoveCompleted => 0x0464
  | pzmotMoveCompleted => 0x08D6
  | motMoveAbsolute => 0x0453
  | pzmotMoveAbsolute => 0x08D4
  | motMoveJog => 0x046A
  | pzmotMoveJog => 0x08D9
  | motMoveVelocity => 0x0457
  | motMoveStop => 0x0465
  | motMoveStopped => 0x0466
  | motSetBowindex => 0x04F4
  | motReqBowindex => 0x04F5
  | motGetBowindex => 0x04F6
  | motSetDcpidparams => 0x04A0
  | motReqDcpidparams => 0x04A1
  | motGetDcpidparams => 0x04A2
  | motGetStatusupdate => 0x0481
  | motReqStatusupdate => 0x0480
  | motReqDcstatusupdate => 0x0490
  | motGetDcstatusupdate => 0x0491
  | motAckStatusupdate => 0x0492
  | motReqStatusbits => 0x0429
  | motGetStatusbits => 0x042A
  | pzmotSetParams => 0x08C0
  | pzmotReqParams => 0x08C1
  | pzmotGetParams => 0x08C2
  | hwStartUpdatemsgs => 0x0011
  | hwStopUpdatemsgs => 0x0012
  | pzmotGetStatusupdate => 0x08E1
  | modSetDigoutputs => 0x0213
  | modReqDigoutputs => 0x0214
  | modGetDigoutputs => 0x0215
  | motSetPmdjoystickparams => 0x04E6
  | motSuspendEndofmovemsgs => 0x046B
  | motResumeEndofmovemsgs => 0x046C
  | hwRichresponse => 0x0081
  | hwResponse => 0x0080

/-! ### The serial port -/

/-- What reads from a serial port: it works on the bytes that have arrived. -/
abbrev SerialM := Framing.Receiver UInt8 Thrown

namespace SerialPort

/-- `read_definite`. A read that times out has taken the bytes that were there. -/
def readDefinite (len : ℕ) : SerialM (Vector UInt8 len) :=
  ExceptT.mk fun received =>
    if h : len ≤ received.length then
      (.ok ⟨(received.take len).toArray, by simpa using h⟩, received.drop len)
    else
      (.error (.protocolError "serial port read timed out..."), [])

/-- `flush`. -/
def flush : SerialM Unit := ExceptT.mk fun _ => (.ok (), [])

end SerialPort

/-! ### Transmitting -/

namespace Apt

/-- `transmit_message` of a header. -/
def transmitHeader (opcode : Bsc203Opcodes) (p1 p2 : UInt8) (dest src : Destination) : List UInt8 :=
  LittleEndian.bytes 2 opcode.code.toNat ++ [p1, p2, dest.code, src.code]

/-- `transmit_message` of a header and data. -/
def transmitData (opcode : Bsc203Opcodes) (data : List UInt8) (dest src : Destination) :
    List UInt8 :=
  LittleEndian.bytes 2 opcode.code.toNat ++ LittleEndian.bytes 2 data.length ++
    [dest.code ||| 0x80, src.code] ++ data

/-! ### Receiving -/

/-- `apt_reply`. -/
structure AptReply where
  p1 : UInt8
  p2 : UInt8
  data : Option (List UInt8)
  deriving DecidableEq

/-- A `char` as an `unsigned short`. -/
def charToUshort (c : UInt8) : UInt16 := c.toInt8.toInt16.toUInt16

/-- A `char` as an `unsigned`. -/
def charToUnsigned (c : UInt8) : UInt32 := c.toInt8.toInt32.toUInt32

/-! The bytes of a header that are looked at one by one. -/

abbrev headerP1 (header : Vector UInt8 6) : UInt8 := header[2]

abbrev headerP2 (header : Vector UInt8 6) : UInt8 := header[3]

abbrev headerDest (header : Vector UInt8 6) : UInt8 := header[4]

abbrev headerSource (header : Vector UInt8 6) : UInt8 := header[5]

/-- `recv_opcode`. -/
def recvOpcode (header : Vector UInt8 6) : UInt16 :=
  (charToUnsigned header[1] <<< 8 ||| charToUnsigned header[0] &&& 0xFF).toUInt16

/-- `dlen`. -/
def dlen (header : Vector UInt8 6) : UInt16 :=
  ((charToUshort header[3]).toUInt32 <<< 8 ||| (charToUshort header[2]).toUInt32).toUInt16

/-! ### Numbers of a header -/

/-- A signed character is sign-extended to 16 bits. -/
private theorem toNat_charToUshort (c : UInt8) :
    (charToUshort c).toNat = if c.toNat < 128 then c.toNat else 0xFF00 + c.toNat := by
  have hall : ∀ c : Fin 256, (charToUshort (UInt8.ofNat c)).toNat =
      if c.val < 128 then c.val else 0xFF00 + c.val := by decide +kernel
  have hc := hall ⟨c.toNat, c.toNat_lt⟩
  rwa [UInt8.ofNat_toNat] at hc

/-- A signed character is sign-extended to 32 bits. -/
theorem toNat_charToUnsigned (c : UInt8) : (charToUnsigned c).toNat =
    if c.toNat < 128 then c.toNat else 0xFFFFFF00 + c.toNat := by
  have hall : ∀ c : Fin 256, (charToUnsigned (UInt8.ofNat c)).toNat =
      if c.val < 128 then c.val else 0xFFFFFF00 + c.val := by decide +kernel
  have hc := hall ⟨c.toNat, c.toNat_lt⟩
  rwa [UInt8.ofNat_toNat] at hc

/-- A byte in front of a byte. -/
theorem or_byte (hi : ℕ) {lo : ℕ} (hlo : lo < 256) : 256 * hi ||| lo = 256 * hi + lo :=
  (Nat.two_pow_add_eq_or_of_lt (i := 8) hlo hi).symm

/-- The sign of the lower byte covers the upper one. -/
theorem toNat_dlen (header : Vector UInt8 6) : (dlen header).toNat =
    if header[2].toNat < 128 then 256 * header[3].toNat + header[2].toNat
    else 0xFF00 + header[2].toNat := by
  have hhi := toNat_charToUshort header[3]
  have hlo := toNat_charToUshort header[2]
  have hhi_lt := header[3].toNat_lt
  have hlo_lt := header[2].toNat_lt
  have hshift : (charToUshort header[3]).toNat * 2 ^ 8 % 2 ^ 32 % 2 ^ 16 =
      256 * header[3].toNat := by
    split_ifs at hhi <;> omega
  have hlow : (charToUshort header[2]).toNat % 2 ^ 16 = (charToUshort header[2]).toNat := by
    split_ifs at hlo <;> omega
  have hdlen : (dlen header).toNat =
      256 * header[3].toNat ||| (charToUshort header[2]).toNat := by
    have height : UInt32.toNat 8 % 32 = 8 := rfl
    simp only [dlen, UInt32.toNat_toUInt16, UInt32.toNat_or, UInt32.toNat_shiftLeft,
      UInt16.toNat_toUInt32]
    rw [height, Nat.shiftLeft_eq, Nat.or_mod_two_pow, hshift, hlow]
  rw [hdlen, hlo]
  split_ifs with hsign
  · exact or_byte _ hlo_lt
  · have hfill : 256 * header[3].toNat ||| 256 * 255 = 256 * 255 := by
      have hall : ∀ c : Fin 256, 256 * c.val ||| 256 * 255 = 256 * 255 := by decide +kernel
      exact hall ⟨header[3].toNat, hhi_lt⟩
    calc 256 * header[3].toNat ||| 0xFF00 + header[2].toNat
        = 256 * header[3].toNat ||| (256 * 255 ||| header[2].toNat) := by rw [or_byte _ hlo_lt]
      _ = 256 * 255 ||| header[2].toNat := by rw [← Nat.or_assoc, hfill]
      _ = 0xFF00 + header[2].toNat := or_byte _ hlo_lt

/-- The opcode is in the first two bytes, the lower one first. -/
theorem toNat_recvOpcode (header : Vector UInt8 6) : (recvOpcode header).toNat =
    256 * header[1].toNat + header[0].toNat := by
  have hhi := toNat_charToUnsigned header[1]
  have hlo := toNat_charToUnsigned header[0]
  have hhi_lt := header[1].toNat_lt
  have hlo_lt := header[0].toNat_lt
  have hshift : (charToUnsigned header[1]).toNat * 2 ^ 8 % 2 ^ 32 % 2 ^ 16 =
      256 * header[1].toNat := by
    split_ifs at hhi <;> omega
  have hlow : (charToUnsigned header[0]).toNat % 2 ^ 8 % 2 ^ 16 = header[0].toNat := by
    split_ifs at hlo <;> omega
  have height : UInt32.toNat 8 % 32 = 8 := rfl
  have hmask : UInt32.toNat 255 = 2 ^ 8 - 1 := rfl
  simp only [recvOpcode, UInt32.toNat_toUInt16, UInt32.toNat_or, UInt32.toNat_shiftLeft,
    UInt32.toNat_and]
  rw [height, hmask, Nat.shiftLeft_eq, Nat.or_mod_two_pow, Nat.and_two_pow_sub_one_eq_mod, hshift,
    hlow, or_byte _ hlo_lt]

/-! ### The checks and the data -/

/-- The checks of the header. -/
def checkHeader (expectedSource : Destination) (header : Vector UInt8 6) : SerialM Unit :=
  if header[4] = 0 then do
    SerialPort.flush
    throw (.deviceError "received null destination")
  else if header.all (· = 0) then do
    SerialPort.flush
    throw (.deviceError "received all zeros")
  else if header[5] ≠ expectedSource.code then do
    SerialPort.flush
    throw (.deviceError "received unexpected source")
  else
    pure ()

/-- The data packet, if there is one. -/
def readData (header : Vector UInt8 6) : SerialM (Option (List UInt8)) :=
  if header[4] &&& 0x80 = 0x80 then do
    let data ← SerialPort.readDefinite (dlen header).toNat
    return some data.toList
  else
    return none

/-- `receive_sync_common`. -/
def receiveSyncCommon (expectedSource : Destination) : SerialM (AptReply × UInt16) := do
  let header ← SerialPort.readDefinite 6
  checkHeader expectedSource header
  let data ← readData header
  return (⟨header[2], header[3], data⟩, recvOpcode header)

end Apt

end Foxtrot
