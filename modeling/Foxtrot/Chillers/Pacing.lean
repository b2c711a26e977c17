import Foxtrot.Chillers.Uc170
import Foxtrot.Foundation.TransitionSystem
import Mathlib.Data.List.Chain

/-!
# Pacing of the commands of the chillers

Both drivers of the chillers (`devices/ssc_chiller`) keep the time of their last command, so that
they can wait before the next one is written: half a second for the UC170, and a fifth of a second
for the TCube Edge. The one for the UC170 waits when this time is over already, and not while it is
not, and records the time of a command only when it has succeeded. The one for the TCube Edge waits
as long as it has to, and records the time as soon as a write has returned.

So the writes of the UC170 are apart if their callers keep them apart, and those of the TCube Edge
if no write fails of which a part has reached the port (`commands_paced`).

Each call of a run has circumstances of its own: what the clock shows in it, and what the port makes
of its write and its read. For each driver one lemma says what a call adds to the written record and
when (`cmd_state`), whether it returns or throws, and the run lemma appends it to the record
(`Spaced.append`). For the TCube Edge the time that it keeps bounds the last write (`Recorded`).
-/

namespace Foxtrot

namespace Chillers

/-! ### The TCube Edge -/

namespace TCubeEdge

section Cmd

variable (c : Circumstances) (request : List UInt8)

/-- The loop at the beginning of `cmd_no_response`. When `sleep_until` returns, the time has come,
so it is run through once at most. -/
def checkTime : ChillerM Unit := do
  match ← lastCommandSent with
  | none => return ()
  | some last =>
    let now ← clockNow
    if last + milliseconds 200 > now then
      sleepUntil c (last + milliseconds 200)

/-- `actreq`: what follows the first line end is cut off, and a missing one is added. -/
def actreq : List UInt8 :=
  match request.idxOf? 0x0d with
  | none => request ++ [0x0d]
  | some endlpos => if endlpos ≠ request.length - 1 then request.take (endlpos + 1) else request

/-- `cmd_no_response`. -/
def cmdNoResponse : ChillerM Unit := do
  pass c.untilLook
  checkTime c
  flush c
  if request = [] then
    throw (.exception "can't use an empty request, this is a programming error")
  calcMinimumTransferTime c
  write c (actreq request)
  recordCommandSent c

/-- `cmd`. -/
def cmd : ChillerM (List UInt8) := do
  cmdNoResponse c request
  let resp ← readUntilEndl c 0x0d
  return resp.takeWhile (· ≠ 0x0d)

end Cmd

end TCubeEdge

/-! ### Runs of commands -/

/-- A call of `cmd`, or of `cmd_no_response` where the driver has one. -/
structure Turn where
  request : List UInt8
  answered : Bool
  circumstances : Circumstances

/-- The calls on a UC170, at any times. All have an answer. -/
def Uc170.commands : TransitionSystem PortState Turn where
  init := .new
  step p t := some ((Uc170.cmd t.circumstances t.request).on p).2

/-- The calls on a TCube Edge, at any times. -/
def TCubeEdge.commands : TransitionSystem PortState Turn where
  init := .new
  step p t :=
    some (if t.answered then
      ((TCubeEdge.cmd t.circumstances t.request).on p).2
    else
      ((TCubeEdge.cmdNoResponse t.circumstances t.request).on p).2)

/-- **Writes are spaced**: each is at least so long after the one before it. -/
def Spaced (gap : ℕ) (writes : List Write) : Prop :=
  writes.IsChain fun w w' => w.time + gap ≤ w'.time

/-- The length that `cmd` asks of a request with this first byte. -/
def Uc170.reqlen (byte : UInt8) : Option ℕ :=
  let cmdbits := byte &&& 0b11111
  if cmdbits = CommandSigils.setPointTemp.sigil then
    some 3
  else if cmdbits = CommandSigils.actTemp.sigil then
    some 1
  else if cmdbits = CommandSigils.checkFaults.sigil then
    some 1
  else if cmdbits = CommandSigils.percentPower.sigil then
    some 1
  else if cmdbits = CommandSigils.resetAlarmsRestart.sigil then
    some 1
  else
    none

/-- The request is one that `cmd` writes. -/
def Uc170.Accepted (request : List UInt8) : Prop :=
  ∃ byte ∈ request.head?, Uc170.reqlen byte = some request.length

/-- If the call writes, then it looks at the clock when half a second has passed since the last
write that has reached the port. -/
def Uc170.Late (p : PortState) (t : Turn) : Prop :=
  Uc170.Accepted t.request → reached t.circumstances 0 t.request ≠ [] →
    ∀ w ∈ p.writes.getLast?, w.time + milliseconds 500 ≤ p.now + t.circumstances.untilLook

/-- If the call gets to the write and this fails, then nothing of it has reached the port. -/
def TCubeEdge.Whole (t : Turn) : Prop :=
  t.circumstances.flushError = none → t.request ≠ [] → t.circumstances.optionError = none →
    t.circumstances.writeError ≠ none →
      reached t.circumstances 0 (TCubeEdge.actreq t.request) = []

/-! ### What a call writes -/

section Spaced

variable {gap : ℕ} {writes : List Write} {c : Circumstances} {data : List UInt8} {time : ℕ}

/-- What reaches the port does so when it is written. -/
private theorem mem_reached {w : Write} (h : w ∈ reached c time data) : w.time = time := by
  unfold reached at h
  dsimp only at h
  split_ifs at h
  · cases h
  · rw [List.mem_singleton.mp h]

/-- Whether anything reaches the port is not a matter of the time. -/
private theorem reached_eq_nil_iff (time' : ℕ) :
    reached c time data = [] ↔ reached c time' data = [] := by
  unfold reached
  dsimp only
  split_ifs
  · exact Iff.rfl
  · exact Iff.rfl

/-- One more write keeps the writes apart if it is late enough. -/
theorem Spaced.append (h : Spaced gap writes) (hlate : reached c time data ≠ [] →
    ∀ w ∈ writes.getLast?, w.time + gap ≤ time) : Spaced gap (writes ++ reached c time data) := by
  by_cases hnil : reached c time data = []
  · rw [hnil, List.append_nil]
    exact h
  · refine List.isChain_append.mpr ⟨h, ?_, fun w hw w' hw' => ?_⟩
    · unfold reached
      dsimp only
      split_ifs
      · exact List.isChain_nil
      · exact List.isChain_singleton _
    · rw [mem_reached (List.mem_of_mem_head? hw')]
      exact hlate hnil w hw

end Spaced

/-! ### The UC170 -/

namespace Uc170

variable {c : Circumstances} {p : PortState} {request : List UInt8} {byte : UInt8}

/-- The first byte selects an exchange, or is rejected. -/
theorem dispatch_cases (c : Circumstances) (request : List UInt8) (byte : UInt8) :
    (∃ len nDataBytes, reqlen byte = some len ∧
        dispatch c request byte = exchange c request len nDataBytes) ∨
      dispatch c request byte =
        throw (.exception "invalid command byte sent to cmd(), see logs") := by
  rw [dispatch, reqlen, setBit_eq_zero, if_neg (not_not_intro rfl)]
  split_ifs
  · exact .inl ⟨3, 2, rfl, rfl⟩
  · exact .inl ⟨1, 2, rfl, rfl⟩
  · exact .inl ⟨1, 1, rfl, rfl⟩
  · exact .inl ⟨1, 3, rfl, rfl⟩
  · exact .inl ⟨1, 0, rfl, rfl⟩
  · exact .inr rfl

/-- What an exchange has written, however it ends. -/
theorem exchange_state (c : Circumstances) (p : PortState) (request : List UInt8)
    (len nDataBytes : ℕ) : ((exchange c request len nDataBytes).on p).2 = p ∨
      request.length = len ∧ ∃ awaited, ((exchange c request len nDataBytes).on p).2 = { p with
        now := p.now + c.untilWritten
        writes := p.writes ++ reached c (p.now + c.untilWritten) request
        awaited } := by
  by_cases hlen : request.length = len
  · refine .inr ⟨hlen, ?_⟩
    have hwritten : (validateAndDispatch c request len).on p = (write c request).on p := by
      rw [validateAndDispatch, if_neg (not_not_intro hlen)]
    have hwrite := write_on c p request
    rw [exchange]
    cases herror : c.writeError with
    | some error =>
      rw [herror] at hwrite
      rw [Stateful.on_bind_of_error (hwritten.trans hwrite)]
      exact ⟨_, rfl⟩
    | none =>
      rw [herror] at hwrite
      rw [Stateful.on_bind_of_ok (hwritten.trans hwrite), validateResponseEcho,
        calcMinimumTransferTime]
      cases c.optionError with
      | some what => exact ⟨_, rfl⟩
      | none =>
        rw [Stateful.on_bind_of_ok (Stateful.on_pure () _)]
        -- the read leaves the clock and the writes
        by_cases hread : nDataBytes + 1 ≤ c.incoming.length
        · rw [Stateful.on_bind_of_ok (readDefinite_on_of_le hread)]
          refine ⟨p.awaited ++ [nDataBytes + 1], ?_⟩
          split_ifs
          · rfl
          · rfl
        · rw [Stateful.on_bind_of_error (readDefinite_on_of_lt (not_le.mp hread))]
          exact ⟨_, rfl⟩
  · exact .inl (by rw [exchange_on_of_ne hlen])

/-- A call looks at the clock, then at the request. -/
theorem cmd_eq (c : Circumstances) (request : List UInt8) :
    cmd c request = (do pass c.untilLook; checkTime c) >>= fun _ =>
      match request.head? with
      | none => throw (.exception "can't use an empty request!")
      | some byte => do
        let resp ← dispatch c request byte
        recordCommandSent c
        return resp := by
  rw [bind_assoc]
  rfl

/-- What a call has written, however it ends. It has looked at the clock before. -/
theorem cmd_state (c : Circumstances) (request : List UInt8) (p : PortState) :
    ((cmd c request).on p).2.writes = p.writes ∨ Accepted request ∧ ∃ time,
      p.now + c.untilLook ≤ time ∧
        ((cmd c request).on p).2.writes = p.writes ++ reached c time request := by
  obtain ⟨now, hlook, hnow⟩ := checkTime_on c p
  rw [cmd_eq, Stateful.on_bind_of_ok hnow]
  cases hhead : request.head? with
  | none => exact .inl rfl
  | some byte =>
    rw [(on_record _ _).2.1]
    obtain ⟨len, nDataBytes, hlen, hdispatch⟩ | hdispatch := dispatch_cases c request byte
    · rw [hdispatch]
      obtain hsame | ⟨hrequest, awaited, hwritten⟩ :=
        exchange_state c { p with now } request len nDataBytes
      · rw [hsame]
        exact .inl rfl
      · rw [hwritten]
        refine .inr ⟨⟨byte, hhead, by rw [hlen, hrequest]⟩, _, ?_, rfl⟩
        exact hlook.trans (Nat.le_add_right _ _)
    · rw [hdispatch]
      exact .inl rfl

/-- Late calls keep the writes half a second apart. -/
theorem spaced_of_late {p : PortState} (h : commands.ReachableWhile Late p) :
    Spaced (milliseconds 500) p.writes := by
  refine h.invariant (P := fun p => Spaced (milliseconds 500) p.writes)
    (show Spaced (milliseconds 500) [] from List.isChain_nil) ?_
  rintro p t p' - hspaced hlate hstep
  obtain rfl := Option.some.inj hstep
  obtain hsame | ⟨haccepted, time, htime, hwrites⟩ := cmd_state t.circumstances t.request p
  · rw [hsame]
    exact hspaced
  · rw [hwrites]
    refine hspaced.append fun hreached w hw => le_trans ?_ htime
    exact hlate haccepted (fun hnil => hreached ((reached_eq_nil_iff 0).mpr hnil)) w hw

end Uc170

/-! ### The TCube Edge keeps its writes apart -/

namespace TCubeEdge

variable {c : Circumstances} {p : PortState} {request : List UInt8}

/-- After the wait, a fifth of a second has passed since the time that is kept. -/
theorem checkTime_on (c : Circumstances) (p : PortState) : ∃ now,
    (∀ last ∈ p.lastCommandSent, last + milliseconds 200 ≤ now) ∧
      (do pass c.untilLook; checkTime c).on p = (.ok (), { p with now }) := by
  rw [on_pass, checkTime, on_lastCommandSent]
  cases p.lastCommandSent with
  | none => exact ⟨p.now + c.untilLook, fun _ h => absurd h (Option.not_mem_none _), rfl⟩
  | some last =>
    dsimp only
    rw [on_clockNow, Stateful.on_ite]
    split_ifs with hwait
    · refine ⟨max (p.now + c.untilLook) (last + milliseconds 200) + c.overslept, ?_, rfl⟩
      rintro _ ⟨⟩
      exact (le_max_right _ _).trans (Nat.le_add_right _ _)
    · refine ⟨p.now + c.untilLook, ?_, rfl⟩
      rintro _ ⟨⟩
      exact not_lt.mp hwait

/-- What a call has written, and the time that it has kept, however it ends. -/
theorem cmdNoResponse_state (c : Circumstances) (request : List UInt8) (p : PortState) :
    (((cmdNoResponse c request).on p).2.writes = p.writes ∧
      ((cmdNoResponse c request).on p).2.lastCommandSent = p.lastCommandSent) ∨
    (c.flushError = none ∧ request ≠ [] ∧ c.optionError = none) ∧ ∃ time,
      (∀ last ∈ p.lastCommandSent, last + milliseconds 200 ≤ time) ∧
      ((cmdNoResponse c request).on p).2.writes = p.writes ++ reached c time (actreq request) ∧
      ((c.writeError = none ∧
          ∃ t ∈ ((cmdNoResponse c request).on p).2.lastCommandSent, time ≤ t) ∨
        c.writeError ≠ none ∧
          ((cmdNoResponse c request).on p).2.lastCommandSent = p.lastCommandSent) := by
  obtain ⟨now, hlook, hnow⟩ := checkTime_on c p
  have hcmd : cmdNoResponse c request = (do pass c.untilLook; checkTime c) >>= fun _ => (do
      flush c
      if request = [] then
        throw (.exception "can't use an empty request, this is a programming error")
      calcMinimumTransferTime c
      write c (actreq request)
      recordCommandSent c) := by
    rw [bind_assoc]
    rfl
  -- whatever throws before the write leaves the commands as they were
  rw [hcmd, Stateful.on_bind_of_ok hnow, flush]
  cases hflush : c.flushError with
  | some what => exact .inl ⟨rfl, rfl⟩
  | none =>
    rw [Stateful.on_bind_of_ok (Stateful.on_pure () _)]
    by_cases hrequest : request = []
    · rw [if_pos hrequest]
      exact .inl ⟨rfl, rfl⟩
    · rw [if_neg hrequest, calcMinimumTransferTime]
      cases hoption : c.optionError with
      | some what => exact .inl ⟨rfl, rfl⟩
      | none =>
        refine .inr ⟨⟨rfl, hrequest, rfl⟩, now + c.untilWritten, ?_, ?_⟩
        · exact fun last hlast => (hlook last hlast).trans (Nat.le_add_right _ _)
        · have hwrite := write_on c { p with now } (actreq request)
          cases herror : c.writeError with
          | some error =>
            rw [herror] at hwrite
            -- a write that throws is not recorded
            have hfails := Stateful.on_bind_of_error hwrite fun _ => recordCommandSent c
            refine ⟨?_, .inr ⟨Option.some_ne_none _, ?_⟩⟩
            · exact congrArg (·.2.writes) hfails
            · exact congrArg (·.2.lastCommandSent) hfails
          | none =>
            rw [herror] at hwrite
            have hreturns := Stateful.on_bind_of_ok hwrite fun _ => recordCommandSent c
            refine ⟨?_, .inl ⟨rfl, now + c.untilWritten + c.untilRecorded, ?_, ?_⟩⟩
            · exact congrArg (·.2.writes) hreturns
            · exact congrArg (·.2.lastCommandSent) hreturns
            · exact Nat.le_add_right _ _

/-- The answer is read when everything has been written. -/
theorem cmd_state (c : Circumstances) (request : List UInt8) (p : PortState) :
    ((cmd c request).on p).2 = ((cmdNoResponse c request).on p).2 := by
  rw [cmd]
  obtain ⟨a, p', hon⟩ | ⟨e, p', hon⟩ := (cmdNoResponse c request).on_cases p
  · rw [Stateful.on_bind_of_ok hon, hon, readUntilEndl]
    cases (SerialPort.readUntilEndl 0x0d c.incoming.length c.incoming).1 <;> rfl
  · rw [Stateful.on_bind_of_error hon, hon]

/-- The writes are apart, and the time that is kept is not before the last of them. -/
structure Recorded (p : PortState) : Prop where
  spaced : Spaced (milliseconds 200) p.writes
  last : ∀ w ∈ p.writes.getLast?, ∃ t ∈ p.lastCommandSent, w.time ≤ t

/-- Where failing writes leave nothing on the port, the writes are a fifth of a second apart. -/
theorem recorded_of_whole {p : PortState}
    (h : commands.ReachableWhile (fun _ t => Whole t) p) : Recorded p := by
  have hinit : Recorded commands.init :=
    ⟨show Spaced (milliseconds 200) [] from List.isChain_nil, fun _ hw => nomatch hw⟩
  refine h.invariant hinit ?_
  rintro p t p' - ⟨hspaced, hlast⟩ hwhole hstep
  have hafter : p' = ((cmdNoResponse t.circumstances t.request).on p).2 := by
    rw [← Option.some.inj hstep]
    split_ifs
    · exact cmd_state t.circumstances t.request p
    · rfl
  subst hafter
  obtain ⟨hwrites, hkept⟩ | ⟨⟨hflush, hrequest, hoption⟩, time, htime, hwrites, hend⟩ :=
    cmdNoResponse_state t.circumstances t.request p
  · refine ⟨by rw [hwrites]; exact hspaced, ?_⟩
    rw [hwrites, hkept]
    exact hlast
  · refine ⟨?_, ?_⟩
    · rw [hwrites]
      refine hspaced.append fun _ w hw => ?_
      obtain ⟨t, ht, hle⟩ := hlast w hw
      exact (Nat.add_le_add_right hle _).trans (htime t ht)
    · rw [hwrites]
      obtain ⟨-, kept, hkept, hle⟩ | ⟨herror, hkept⟩ := hend
      · intro w hw
        -- nothing has reached the port, or the last write is of this command
        by_cases hnil : reached t.circumstances time (actreq t.request) = []
        · rw [hnil, List.append_nil] at hw
          obtain ⟨t', ht', hle'⟩ := hlast w hw
          refine ⟨kept, hkept, hle'.trans (le_trans ?_ hle)⟩
          exact (Nat.le_add_right _ _).trans (htime t' ht')
        · rw [List.getLast?_append_of_ne_nil _ hnil] at hw
          exact ⟨kept, hkept, (mem_reached (List.mem_of_getLast? hw)).trans_le hle⟩
      · have hnil : reached t.circumstances time (actreq t.request) = [] :=
          (reached_eq_nil_iff time).mp (hwhole hflush hrequest hoption herror)
        rw [hnil, List.append_nil, hkept]
        exact hlast

end TCubeEdge

/-- **The commands of both chillers are paced**, in every run in which the calls on a UC170 are late
enough, and in every run in which no write to a TCube Edge fails half-way. -/
theorem commands_paced (p p' : PortState) :
    (Uc170.commands.ReachableWhile Uc170.Late p → Spaced (milliseconds 500) p.writes) ∧
      (TCubeEdge.commands.ReachableWhile (fun _ t => TCubeEdge.Whole t) p' →
        Spaced (milliseconds 200) p'.writes) :=
  ⟨Uc170.spaced_of_late, fun h => (TCubeEdge.recorded_of_whole h).spaced⟩

/-- The chiller echoes a command to reset its alarms. The call is made after a while, and nothing
takes time in it. -/
def echoed (untilLook : ℕ) : Circumstances := ⟨untilLook, 0, 0, 0, none, none, none, [0xdf]⟩

/-- Two commands to a UC170, made half a second apart, and two to a TCube Edge, made at once. -/
theorem commands_paced_twice : Spaced (milliseconds 500)
      ((Uc170.commands.run Uc170.commands.init [⟨[0xdf], true, echoed 0⟩,
        ⟨[0xdf], true, echoed (milliseconds 500)⟩]).get rfl).writes ∧
    Spaced (milliseconds 200) ((TCubeEdge.commands.run TCubeEdge.commands.init
      [⟨[82, 85, 78], false, echoed 0⟩, ⟨[82, 85, 78], false, echoed 0⟩]).get rfl).writes := by
  refine ⟨(commands_paced _ Uc170.commands.init).1 ?_,
    (commands_paced TCubeEdge.commands.init _).2 ?_⟩
  · refine TransitionSystem.ReachableWhile.init.run ?_ (Option.some_get _).symm
    refine ⟨fun _ _ _ h => (nomatch h), ?_⟩
    rintro _ ⟨⟩
    refine ⟨?_, fun _ _ => trivial⟩
    rintro - - _ ⟨⟩
    decide
  · refine TransitionSystem.ReachableWhile.init.run ?_ (Option.some_get _).symm
    exact ⟨fun _ _ _ h => absurd rfl h,
      fun _ _ => ⟨fun _ _ _ h => absurd rfl h, fun _ _ => trivial⟩⟩

/-- Two commands to a UC170 in a row are written without a wait. -/
theorem two_writes_at_once : ∃ p, Uc170.commands.run Uc170.commands.init
    [⟨[0xdf], true, echoed 0⟩, ⟨[0xdf], true, echoed 0⟩] = some p ∧
      p.writes = [⟨0, [0xdf]⟩, ⟨0, [0xdf]⟩] ∧ ¬ Spaced (milliseconds 500) p.writes := by
  refine ⟨_, rfl, by decide, fun h => ?_⟩
  exact absurd (List.isChain_cons_cons.mp h).1 (by decide)

end Chillers

end Foxtrot
