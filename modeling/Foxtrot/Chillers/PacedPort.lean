import Foxtrot.Foundation.Stateful
import Foxtrot.Protocols.SerialPort

/-!
# A serial port and a clock

The drivers of the chillers (`devices/ssc_chiller`) look at a clock before they write, and keep the
time of their last command. The state of their calls is the port and the clock. What a call finds,
the time that passes in it included, is given from outside (`Circumstances`): each of the functions
of the serial port may fail. Times are in nanoseconds, as those of `std::chrono::steady_clock` are.
-/

namespace Foxtrot

namespace Chillers

/-- What a call finds on its way. -/
structure Circumstances where
  /-- The time until the call looks at the clock. -/
  untilLook : ℕ
  /-- The time that a thread sleeps longer than it has to. -/
  overslept : ℕ
  /-- The time until what is written reaches the port. -/
  untilWritten : ℕ
  /-- The time until the call reads the clock again. -/
  untilRecorded : ℕ
  /-- The error of `tcflush`. -/
  flushError : Option String
  /-- The error of `get_option`. -/
  optionError : Option String
  /-- The number of bytes that are transferred before the error of a write, and the error. -/
  writeError : Option (ℕ × String)
  /-- The bytes that are received. -/
  incoming : List UInt8

/-- A write that has reached the port. -/
structure Write where
  time : ℕ
  data : List UInt8
  deriving DecidableEq

/-- The port, the clock, and what a driver keeps. -/
structure PortState where
  now : ℕ
  lastCommandSent : Option ℕ
  writes : List Write
  /-- The numbers of bytes that have been waited for. -/
  awaited : List ℕ
  deriving DecidableEq

/-- Nothing has been written. -/
def PortState.new : PortState := ⟨0, none, [], []⟩

/-- What the calls are computations on. -/
abbrev ChillerM := Stateful PortState Thrown

/-- `std::chrono::milliseconds`. -/
def milliseconds (n : ℕ) : ℕ := n * 10 ^ 6

/-- Time passes. -/
def pass (t : ℕ) : ChillerM Unit := ExceptT.mk fun p => (.ok (), { p with now := p.now + t })

/-- `TClock::now`. -/
def clockNow : ChillerM ℕ := ExceptT.mk fun p => (.ok p.now, p)

/-- `std::this_thread::sleep_until`. -/
def sleepUntil (c : Circumstances) (t : ℕ) : ChillerM Unit :=
  ExceptT.mk fun p => (.ok (), { p with now := max p.now t + c.overslept })

/-- `last_command_sent`. -/
def lastCommandSent : ChillerM (Option ℕ) := ExceptT.mk fun p => (.ok p.lastCommandSent, p)

/-- `last_command_sent = TClock::now()`. -/
def recordCommandSent (c : Circumstances) : ChillerM Unit :=
  ExceptT.mk fun p =>
    let now := p.now + c.untilRecorded
    (.ok (), { p with now, lastCommandSent := some now })

/-- `SerialPort::flush`. -/
def flush (c : Circumstances) : ChillerM Unit :=
  match c.flushError with
  | some what => throw (.protocolError ("failed to flush serial port: " ++ what))
  | none => return ()

/-- `SerialPort::calc_minimum_transfer_time`, for what it throws. -/
def calcMinimumTransferTime (c : Circumstances) : ChillerM Unit :=
  match c.optionError with
  | some what => throw (.exception what)
  | none => return ()

/-- The write that reaches the port: where it fails, so many bytes of it. -/
def reached (c : Circumstances) (time : ℕ) (data : List UInt8) : List Write :=
  let transferred := match c.writeError with
    | none => data
    | some (transferred, _) => data.take transferred
  if transferred = [] then [] else [⟨time, transferred⟩]

/-- `SerialPort::write`. -/
def write (c : Circumstances) (data : List UInt8) : ChillerM Unit :=
  ExceptT.mk fun p =>
    let now := p.now + c.untilWritten
    (match c.writeError with
      | none => .ok ()
      | some (_, what) => .error (.protocolError ("error writing to serial port: " ++ what)),
      { p with now, writes := p.writes ++ reached c now data })

/-- `SerialPort::read_definite`. -/
def readDefinite (c : Circumstances) (len : ℕ) : ChillerM (List UInt8) :=
  ExceptT.mk fun p =>
    (if len ≤ c.incoming.length then
      .ok (c.incoming.take len)
    else
      .error (.protocolError "serial port read timed out..."),
      { p with awaited := p.awaited ++ [len] })

/-- `SerialPort::read_until_endl`. All that is received in the call is read. -/
def readUntilEndl (c : Circumstances) (endlchar : UInt8) : ChillerM (List UInt8) :=
  match (SerialPort.readUntilEndl endlchar c.incoming.length c.incoming).1 with
  | some resp => return resp
  | none => throw (.protocolError "serial port read timed out...")

/-! ### What the functions do -/

section On

variable {α : Type} {c : Circumstances} {p : PortState} {data : List UInt8} {len : ℕ}

/-- Time passes. -/
theorem on_pass (t : ℕ) (f : Unit → ChillerM α) :
    (pass t >>= f).on p = (f ()).on { p with now := p.now + t } := rfl

/-- The clock is read. -/
theorem on_clockNow (f : ℕ → ChillerM α) : (clockNow >>= f).on p = (f p.now).on p := rfl

/-- The time of the last command is read. -/
theorem on_lastCommandSent (f : Option ℕ → ChillerM α) :
    (lastCommandSent >>= f).on p = (f p.lastCommandSent).on p := rfl

/-- What has reached the port of a write has reached it also if the write fails. -/
theorem write_on (c : Circumstances) (p : PortState) (data : List UInt8) :
    (write c data).on p = (match c.writeError with
      | none => .ok ()
      | some (_, what) => .error (.protocolError ("error writing to serial port: " ++ what)),
      { p with
        now := p.now + c.untilWritten
        writes := p.writes ++ reached c (p.now + c.untilWritten) data }) := rfl

/-- Without an error all that is written reaches the port. -/
theorem reached_of_none (h : c.writeError = none) (hdata : data ≠ []) (time : ℕ) :
    reached c time data = [⟨time, data⟩] := by
  unfold reached
  rw [h]
  exact if_neg hdata

/-- As many bytes are read as are asked for, if they arrive. -/
theorem readDefinite_on_of_le (h : len ≤ c.incoming.length) : (readDefinite c len).on p =
    (.ok (c.incoming.take len), { p with awaited := p.awaited ++ [len] }) :=
  congrArg (·, { p with awaited := p.awaited ++ [len] }) (if_pos h)

/-- The read times out if too few arrive. -/
theorem readDefinite_on_of_lt (h : c.incoming.length < len) : (readDefinite c len).on p =
    (.error (.protocolError "serial port read timed out..."),
      { p with awaited := p.awaited ++ [len] }) :=
  congrArg (·, { p with awaited := p.awaited ++ [len] }) (if_neg (not_le.mpr h))

end On

end Chillers

end Foxtrot
