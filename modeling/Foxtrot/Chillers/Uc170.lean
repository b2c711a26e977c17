import Foxtrot.Chillers.PacedPort

/-!
# The UC170 chiller

A command of the UC170 (`devices/ssc_chiller/ssc_uc160.cpp`) is one byte, and two more to set the
set point. `cmd` takes the length of the request from the lower five bits of this byte, and with it
whether data are to be set or read: the bit that says so is written (`prepare_command`), but its
test comes out as zero for every byte. So `cmd` waits for two bytes of data after the set point has
been set, and refuses the request that reads it. The data are put together from signed bytes.

So of the three exchanges of a temperature only the reading of the actual temperature is right, for
the counts whose bytes are both below 128 (`exchange_right_iff`).

How a request is treated is decided by its first byte and its length alone (`treated_iff`), for any
request. For the exchanges of a temperature this is evaluated at their first bytes. What the getter
makes of two data bytes is a matter of signs: a low byte from 128 on covers the high one, and a high
one from 128 on the upper half of the number (`tempdata_eq_iff`).
-/

namespace Foxtrot

namespace Chillers

namespace Uc170

/-- `UC170_command_sigils`. -/
inductive CommandSigils where
  | setPointTemp
  | actTemp
  | checkFaults
  | percentPower
  | resetAlarmsRestart

/-- The number of a command. -/
def CommandSigils.sigil : CommandSigils → UInt8
  | setPointTemp => 0b1
  | actTemp => 0b1001
  | checkFaults => 0b1000
  | percentPower => 0b11110
  | resetAlarmsRestart => 0b11111

/-- `prepare_command`. -/
def prepareCommand (param : CommandSigils) (set : Bool) : List UInt8 :=
  [0xc0 ||| (if set then 0b100000 else 0) ||| param.sigil]

section Cmd

variable (c : Circumstances) (request : List UInt8)

/-- `validate_and_dispatch`. -/
def validateAndDispatch (reqlen : ℕ) : ChillerM Unit :=
  if request.length ≠ reqlen then
    throw (.exception "command needs 4 bytes!")
  else
    write c request

/-- `validate_response_echo`. -/
def validateResponseEcho (nDataBytes : ℕ) : ChillerM (List UInt8) := do
  calcMinimumTransferTime c
  let rawresp ← readDefinite c (nDataBytes + 1)
  if rawresp.head? ≠ request.head? then
    throw (.exception "invalid echo byte received")
  return rawresp.tail

/-- `(request[0] && (0b10000)) >> 4`. The operands of `&&` are taken as truth values. -/
def setBit (byte : UInt8) : ℕ := (decide (byte ≠ 0) && decide ((0b10000 : ℕ) ≠ 0)).toNat >>> 4

/-- A request and its answer, by the length of the one and the number of data bytes in the other. -/
def exchange (reqlen nDataBytes : ℕ) : ChillerM (List UInt8) := do
  validateAndDispatch c request reqlen
  validateResponseEcho c request nDataBytes

/-- The `switch` of `cmd`, for the first byte of the request. -/
def dispatch (byte : UInt8) : ChillerM (List UInt8) :=
  let cmdbits := byte &&& 0b11111
  if cmdbits = CommandSigils.setPointTemp.sigil then
    if setBit byte ≠ 0 then exchange c request 3 0 else exchange c request 3 2
  else if cmdbits = CommandSigils.actTemp.sigil then
    exchange c request 1 2
  else if cmdbits = CommandSigils.checkFaults.sigil then
    exchange c request 1 1
  else if cmdbits = CommandSigils.percentPower.sigil then
    exchange c request 1 3
  else if cmdbits = CommandSigils.resetAlarmsRestart.sigil then
    exchange c request 1 0
  else
    throw (.exception "invalid command byte sent to cmd(), see logs")

/-- The wait at the beginning of `cmd`, which is made when it is too late. -/
def checkTime : ChillerM Unit := do
  match ← lastCommandSent with
  | none => return ()
  | some last =>
    let now ← clockNow
    if last + milliseconds 500 < now then
      sleepUntil c (last + milliseconds 500)

/-- `cmd`. The time is recorded at its end. -/
def cmd : ChillerM (List UInt8) := do
  pass c.untilLook
  checkTime c
  match request.head? with
  | none => throw (.exception "can't use an empty request!")
  | some byte =>
    let resp ← dispatch c request byte
    recordCommandSent c
    return resp

end Cmd

/-- `resp[0] | (resp[1] << 8)`, from signed bytes to an `unsigned`. -/
def tempdata (resp : List UInt8) : BitVec 32 :=
  (resp.getD 0 0).toBitVec.signExtend 32 ||| (resp.getD 1 0).toBitVec.signExtend 32 <<< 8

/-- The conversions between a `float` and a count of tenths. -/
structure Tenths (F : Type) where
  /-- `value / 0.1`, as an `unsigned short`. -/
  count : F → BitVec 16
  /-- `0.1 * tempdata`. -/
  temperature : BitVec 32 → F

variable {F : Type} (d : Tenths F) (c : Circumstances)

/-- `get_ActualTemp`. -/
def getActualTemp : ChillerM F := do
  let resp ← cmd c (prepareCommand .actTemp false)
  return d.temperature (tempdata resp)

/-- `tempint && 0xFF`: whether both are not zero. -/
def templowbyte (tempint : BitVec 16) : UInt8 :=
  if tempint ≠ 0 ∧ (0xFF : ℕ) ≠ 0 then 1 else 0

/-- `(tempint >> 8) & 0xFF`. -/
def temphighbyte (tempint : BitVec 16) : UInt8 := ⟨((tempint >>> 8) &&& 0xFF#16).setWidth 8⟩

/-- The request that `set_SetPointTemp` makes of a count. -/
def setRequest (tempint : BitVec 16) : List UInt8 :=
  prepareCommand .setPointTemp true ++ [templowbyte tempint, temphighbyte tempint]

/-- `set_SetPointTemp`. -/
def setSetPointTemp (value : F) : ChillerM Unit := do
  let _ ← cmd c (setRequest (d.count value))

/-- `get_SetPointTemp`. -/
def getSetPointTemp : ChillerM F := do
  let resp ← cmd c (prepareCommand .setPointTemp false)
  return d.temperature (tempdata resp)

/-! ### Exchanges of a temperature -/

/-- The serial port does what it is asked for. -/
def Works (c : Circumstances) : Prop := c.writeError = none ∧ c.optionError = none

/-- `cmd` accepts a request, which reaches the port, and awaits the echo byte and so many bytes of
data. -/
def Treated (request : List UInt8) (nDataBytes : ℕ) : Prop :=
  ∀ c, Works c → ∀ p, ((cmd c request).on p).2.writes.map Write.data =
      p.writes.map Write.data ++ [request] ∧
    ((cmd c request).on p).2.awaited = p.awaited ++ [nDataBytes + 1]

/-- The low and the high byte of a count. -/
def lowByte (count : BitVec 16) : UInt8 := ⟨count.setWidth 8⟩

@[inherit_doc lowByte]
def highByte (count : BitVec 16) : UInt8 := ⟨(count >>> 8).setWidth 8⟩

/-- A getter returns the temperature of a count, whatever `float` is, if the chiller answers its
request with the echo and the bytes of the count. -/
def Reads (request : List UInt8)
    (getter : ∀ {F : Type}, Tenths F → Circumstances → ChillerM F) (count : BitVec 16) : Prop :=
  ∀ (F : Type) (d : Tenths F) c, Works c → c.incoming = request ++ [lowByte count, highByte count] →
    ∀ p, ((getter d c).on p).1 = .ok (d.temperature (count.setWidth 32))

/-- A temperature that is exchanged with the chiller, as a count of tenths of a degree. -/
inductive Exchange where
  | setSetPoint (count : BitVec 16)
  | getSetPoint (count : BitVec 16)
  | getActual (count : BitVec 16)

/-- **An exchange is right**: the request is accepted, the data that it is to be answered with are
awaited, and the count is carried. -/
def Exchange.Right : Exchange → Prop
  | setSetPoint count => Treated (setRequest count) 0 ∧
      setRequest count = prepareCommand .setPointTemp true ++ [lowByte count, highByte count]
  | getSetPoint count => Treated (prepareCommand .setPointTemp false) 2 ∧
      Reads (prepareCommand .setPointTemp false) getSetPointTemp count
  | getActual count => Treated (prepareCommand .actTemp false) 2 ∧
      Reads (prepareCommand .actTemp false) getActualTemp count

/-- The actual temperature is read, and neither byte of its count is negative as a `char`. -/
def Exchange.Unsigned : Exchange → Prop
  | setSetPoint _ | getSetPoint _ => False
  | getActual count => lowByte count < 128 ∧ highByte count < 128

/-! ### One command -/

section Command

variable {c : Circumstances} {p : PortState} {request rest : List UInt8} {byte : UInt8}
  {reqlen nDataBytes : ℕ}

/-- Whether or not the call waits, it has written nothing yet. -/
theorem checkTime_on (c : Circumstances) (p : PortState) : ∃ now, p.now + c.untilLook ≤ now ∧
    (do pass c.untilLook; checkTime c).on p = (.ok (), { p with now }) := by
  rw [on_pass, checkTime, on_lastCommandSent]
  cases p.lastCommandSent with
  | none => exact ⟨_, le_rfl, rfl⟩
  | some last =>
    dsimp only
    rw [on_clockNow, Stateful.on_ite]
    split_ifs
    · exact ⟨_, (le_max_left _ _).trans (Nat.le_add_right _ _), rfl⟩
    · exact ⟨_, le_rfl, rfl⟩

/-- A request of another length is not written. -/
theorem exchange_on_of_ne (h : request.length ≠ reqlen) :
    (exchange c request reqlen nDataBytes).on p =
      (.error (.exception "command needs 4 bytes!"), p) := by
  have hthrow : (validateAndDispatch c request reqlen).on p =
      (.error (.exception "command needs 4 bytes!"), p) := by
    rw [validateAndDispatch, if_pos h]
    rfl
  rw [exchange, Stateful.on_bind_of_error hthrow]

/-- A request of the right length is written, and its answer awaited. -/
theorem exchange_on_of_works (p : PortState) (nDataBytes : ℕ) (hworks : Works c)
    (h : request.length = reqlen) (hne : request ≠ []) : ∃ result,
    (exchange c request reqlen nDataBytes).on p =
      (result, { p with
        now := p.now + c.untilWritten
        writes := p.writes ++ [⟨p.now + c.untilWritten, request⟩]
        awaited := p.awaited ++ [nDataBytes + 1] }) ∧
      ∀ data, c.incoming = request.head?.toList ++ data → data.length = nDataBytes →
        result = .ok data := by
  obtain ⟨hwrite, hoption⟩ := hworks
  have hwritten : (validateAndDispatch c request reqlen).on p = (.ok (), { p with
      now := p.now + c.untilWritten
      writes := p.writes ++ [⟨p.now + c.untilWritten, request⟩] }) := by
    rw [validateAndDispatch, if_neg (not_not_intro h), write_on, hwrite,
      reached_of_none hwrite hne]
  rw [exchange, Stateful.on_bind_of_ok hwritten, validateResponseEcho, calcMinimumTransferTime,
    hoption]
  obtain ⟨byte, rest, rfl⟩ := List.exists_cons_of_ne_nil hne
  -- the echo is one byte in front of the data
  by_cases hlen : nDataBytes + 1 ≤ c.incoming.length
  · rw [Stateful.on_bind_of_ok (Stateful.on_pure () _),
      Stateful.on_bind_of_ok (readDefinite_on_of_le hlen)]
    by_cases hecho : (c.incoming.take (nDataBytes + 1)).head? ≠ (byte :: rest).head?
    · rw [if_pos hecho]
      refine ⟨_, rfl, fun data hdata _ => absurd ?_ hecho⟩
      rw [hdata]
      rfl
    · rw [if_neg hecho]
      refine ⟨_, rfl, fun data hdata hcount => ?_⟩
      have htake : c.incoming.take (nDataBytes + 1) = byte :: data := by
        rw [hdata]
        exact List.take_of_length_le (Nat.succ_le_succ (Nat.le_of_eq hcount))
      rw [htake]
      rfl
  · rw [Stateful.on_bind_of_ok (Stateful.on_pure () _),
      Stateful.on_bind_of_error (readDefinite_on_of_lt (not_le.mp hlen))]
    refine ⟨_, rfl, fun data hdata hcount => ?_⟩
    rw [hdata, List.length_append, hcount] at hlen
    exact absurd (Nat.le_of_eq (Nat.add_comm _ _)) hlen

/-- `cmd` is the exchange that its first byte selects, and a record of the time. -/
theorem cmd_on (hdispatch : dispatch c (byte :: rest) byte =
    exchange c (byte :: rest) reqlen nDataBytes) (p : PortState) : ∃ now,
    (cmd c (byte :: rest)).on p =
      (do let resp ← exchange c (byte :: rest) reqlen nDataBytes
          recordCommandSent c
          return resp : ChillerM (List UInt8)).on { p with now } := by
  obtain ⟨now, -, hnow⟩ := checkTime_on c p
  refine ⟨now, ?_⟩
  have hcmd : cmd c (byte :: rest) = (do pass c.untilLook; checkTime c) >>= fun _ => (do
      let resp ← dispatch c (byte :: rest) byte
      recordCommandSent c
      return resp) := by
    rw [bind_assoc]
    rfl
  rw [hcmd, Stateful.on_bind_of_ok hnow, hdispatch]

/-- The record of the time leaves what has been written and awaited. -/
theorem on_record (m : ChillerM (List UInt8)) (p : PortState) :
    ((m >>= fun resp => recordCommandSent c >>= fun _ => pure resp).on p).1 = (m.on p).1 ∧
    ((m >>= fun resp => recordCommandSent c >>= fun _ => pure resp).on p).2.writes =
      (m.on p).2.writes ∧
    ((m >>= fun resp => recordCommandSent c >>= fun _ => pure resp).on p).2.awaited =
      (m.on p).2.awaited := by
  obtain ⟨resp, p', hon⟩ | ⟨e, p', hon⟩ := m.on_cases p
  · rw [Stateful.on_bind_of_ok hon, hon]
    exact ⟨rfl, rfl, rfl⟩
  · rw [Stateful.on_bind_of_error hon, hon]
    exact ⟨rfl, rfl, rfl⟩

/-- A port that works, and receives nothing. -/
def silent : Circumstances := ⟨0, 0, 0, 0, none, none, none, []⟩

/-- How a request is treated is decided by its first byte and its length. -/
theorem treated_iff (byte : UInt8) (rest : List UInt8) (hdispatch : ∀ c,
      dispatch c (byte :: rest) byte = exchange c (byte :: rest) reqlen nDataBytes) {m : ℕ} :
    Treated (byte :: rest) m ↔ (byte :: rest).length = reqlen ∧ nDataBytes = m := by
  by_cases hlen : (byte :: rest).length = reqlen
  · rw [and_iff_right hlen]
    constructor
    · intro h
      obtain ⟨-, hawaited⟩ := h silent ⟨rfl, rfl⟩ .new
      obtain ⟨now, hcmd⟩ := cmd_on (hdispatch silent) .new
      obtain ⟨result, hexchange, -⟩ := exchange_on_of_works
        { PortState.new with now } nDataBytes (show Works silent from ⟨rfl, rfl⟩) hlen
        (List.cons_ne_nil _ _)
      rw [hcmd, (on_record _ _).2.2, hexchange] at hawaited
      exact Nat.succ.inj (List.singleton_inj.mp hawaited)
    · rintro rfl c hworks p
      obtain ⟨now, hcmd⟩ := cmd_on (hdispatch c) p
      obtain ⟨result, hexchange, -⟩ := exchange_on_of_works { p with now }
        nDataBytes hworks hlen (List.cons_ne_nil _ _)
      rw [hcmd, (on_record _ _).2.1, (on_record _ _).2.2, hexchange]
      exact ⟨List.map_append, rfl⟩
  · refine iff_of_false (fun h => ?_) fun h => hlen h.1
    obtain ⟨hwrites, -⟩ := h silent ⟨rfl, rfl⟩ .new
    obtain ⟨now, hcmd⟩ := cmd_on (hdispatch silent) .new
    rw [hcmd, (on_record _ _).2.1, exchange_on_of_ne hlen] at hwrites
    cases hwrites

end Command

/-! ### The three exchanges -/

section Exchanges

variable {count : BitVec 16} {c : Circumstances}

/-- Whatever the first byte is, the bit for setting is not seen. -/
theorem setBit_eq_zero (byte : UInt8) : setBit byte = 0 := by
  unfold setBit
  cases decide (byte ≠ 0) <;> rfl

/-- The set point is set and read by requests of three bytes, with two bytes of data. -/
theorem dispatch_setPoint (request : List UInt8) {byte : UInt8} (h : byte &&& 0b11111 = 0b1) :
    dispatch c request byte = exchange c request 3 2 := by
  have hsigil : byte &&& 0b11111 = CommandSigils.setPointTemp.sigil := h
  rw [dispatch, if_pos hsigil, if_neg (not_not_intro (setBit_eq_zero byte))]

/-- The actual temperature has a reply of its own length. -/
private theorem dispatch_actTemp (request : List UInt8) :
    dispatch c request 0xc9 = exchange c request 1 2 := by
  rw [dispatch, if_neg (by decide), if_pos (by decide)]

/-- The bytes of a count, extended with their signs, are put together to the count exactly if they
have none. -/
theorem signExtend_or_signExtend_eq_iff :
    (count.setWidth 8).signExtend 32 ||| (((count >>> 8).setWidth 8).signExtend 32 <<< 8) =
      count.setWidth 32 ↔
      (count.setWidth 8).msb = false ∧ ((count >>> 8).setWidth 8).msb = false := by
  constructor
  · intro h
    -- the last bit of both operands is the sign
    have hlast : ∀ x : BitVec 8, (x.signExtend 32).getLsbD 31 = x.msb := fun x =>
      BitVec.getLsbD_signExtend x
    have hshift : ∀ x : BitVec 8, (x.signExtend 32 <<< 8).getLsbD 31 = x.msb := fun x => by
      rw [BitVec.getLsbD_shiftLeft]
      exact BitVec.getLsbD_signExtend x
    have hbit := congrArg (BitVec.getLsbD · 31) h
    rw [BitVec.getLsbD_or, hlast, hshift, BitVec.getLsbD_setWidth,
      BitVec.getLsbD_of_ge count 31 (by decide), Bool.and_false, Bool.or_eq_false_iff] at hbit
    exact hbit
  · rintro ⟨hlow, hhigh⟩
    rw [BitVec.signExtend_eq_setWidth_of_msb_false hlow,
      BitVec.signExtend_eq_setWidth_of_msb_false hhigh]
    refine BitVec.eq_of_getLsbD_eq fun i hi => ?_
    simp only [BitVec.getLsbD_or, BitVec.getLsbD_setWidth, BitVec.getLsbD_shiftLeft,
      BitVec.getLsbD_ushiftRight]
    by_cases h8 : i < 8
    · simp [h8, hi]
    · have hsum : 8 + (i - 8) = i := by omega
      have hsmall : i - 8 < 32 := by omega
      rw [hsum]
      by_cases h16 : i < 16
      · have hbyte : i - 8 < 8 := by omega
        simp [h8, hi, hbyte, hsmall]
      · simp [h8, BitVec.getLsbD_of_ge count i (by omega)]

private theorem lt_128_iff {b : UInt8} : b < 128 ↔ b.toBitVec.msb = false := by
  rw [BitVec.msb_eq_false_iff_two_mul_lt, UInt8.lt_iff_toNat_lt, UInt8.toNat_toBitVec]
  change b.toNat < 128 ↔ 2 * b.toNat < 2 ^ 8
  omega

/-- Two bytes are put together to the count exactly if neither is negative as a `char`. -/
theorem tempdata_eq_iff : tempdata [lowByte count, highByte count] = count.setWidth 32 ↔
    lowByte count < 128 ∧ highByte count < 128 := by
  rw [lt_128_iff, lt_128_iff]
  exact signExtend_or_signExtend_eq_iff

/-- The actual temperature is what the two bytes are put together to. -/
theorem getActualTemp_on {F : Type} (d : Tenths F) (hworks : Works c)
    (hincoming : c.incoming = prepareCommand .actTemp false ++ [lowByte count, highByte count])
    (p : PortState) : ((getActualTemp d c).on p).1 =
      .ok (d.temperature (tempdata [lowByte count, highByte count])) := by
  have hrequest : prepareCommand .actTemp false = [0xc9] := by decide
  rw [hrequest] at hincoming
  have hlen : [(0xc9 : UInt8)].length = 1 := rfl
  obtain ⟨now, hcmd⟩ := cmd_on (dispatch_actTemp [0xc9]) p
  obtain ⟨result, hexchange, hresult⟩ := exchange_on_of_works { p with now } 2 hworks hlen
    (List.cons_ne_nil _ _)
  have hon : ((cmd c [0xc9]).on p).1 = .ok [lowByte count, highByte count] := by
    rw [hcmd, (on_record _ _).1, hexchange]
    exact hresult _ hincoming rfl
  rw [getActualTemp, hrequest, Stateful.on_bind_pure, hon]
  rfl

/-- **Exchanges of a temperature**: setting the set point and reading it is never right, and
reading the actual temperature is for the counts whose bytes are below 128. -/
theorem exchange_right_iff (e : Exchange) : e.Right ↔ e.Unsigned := by
  cases e with
  | setSetPoint count =>
    refine iff_of_false (fun h => ?_) id
    have hdispatch : ∀ c, dispatch c (setRequest count) 0xe1 = exchange c (setRequest count) 3 2 :=
      fun _ => dispatch_setPoint _ (by decide)
    have htreated :=
      (treated_iff 0xe1 [templowbyte count, temphighbyte count] hdispatch).mp h.1
    exact absurd htreated.2 (by decide)
  | getSetPoint count =>
    refine iff_of_false (fun h => ?_) id
    have hdispatch : ∀ c, dispatch c [0xc1] 0xc1 = exchange c [0xc1] 3 2 :=
      fun _ => dispatch_setPoint _ (by decide)
    have htreated := (treated_iff 0xc1 [] hdispatch).mp h.1
    exact absurd htreated.1 (by decide)
  | getActual count =>
    have htreated : Treated (prepareCommand .actTemp false) 2 :=
      (treated_iff 0xc9 [] fun _ => dispatch_actTemp _).mpr ⟨rfl, rfl⟩
    rw [Exchange.Right, and_iff_right htreated, Exchange.Unsigned, ← tempdata_eq_iff]
    constructor
    · intro h
      -- the conversion that keeps the number itself
      let answering : Circumstances := { silent with
        incoming := prepareCommand .actTemp false ++ [lowByte count, highByte count] }
      have hread := h (BitVec 32) ⟨fun _ => 0, id⟩ answering ⟨rfl, rfl⟩ rfl .new
      rw [getActualTemp_on _ ⟨rfl, rfl⟩ rfl] at hread
      exact Except.ok.inj hread
    · intro h F d c hworks hincoming p
      rw [getActualTemp_on d hworks hincoming, h]

/-- A set point of 25.5 degrees is sent as 0.1, and two bytes of data are awaited that the chiller
does not send. -/
theorem setPoint_not_sent : setRequest 255 = [0xe1, 1, 0] ∧
    ¬ (Exchange.setSetPoint 255).Right ∧ ¬ (Exchange.getSetPoint 255).Right ∧
    ¬ (Exchange.getActual 255).Right := by
  refine ⟨by decide, ?_, ?_, ?_⟩
  · exact fun h => (exchange_right_iff _).mp h
  · exact fun h => (exchange_right_iff _).mp h
  · intro h
    exact absurd ((exchange_right_iff _).mp h).1 (by decide)

end Exchanges

end Uc170

end Chillers

end Foxtrot
