import Foxtrot.Apt.Device

/-!
# Blocking moves of APT stages

While a stage moves, `wait_blocking_move` reads what its controller sends. It ends with the
completion message, and it gives up at a status update that looks like a crash, except that some are
excused: a number of them while the stage is homing, and one that shows a limit switch, if the move
started on one (`BlockingMove.Tolerated`). Too many while homing and the stage is stopped
(`BlockingMove.Crashes`).

The data of a status update are copied into a status without a look at their length. The wait does
what it should exactly if the status updates that it gets to have data as long as a status
(`waitBlockingMove_endsRightly_iff`).

The loop keeps two counts, and stops with an error when one of them runs out. They are related to
the messages read so far, in terms of which the statement is made: a run of status updates lets the
loop go on exactly if all of them are tolerated (`foldlM_step_eq_some_iff`), and then the message
that ends it is one of the completion, another one, or a status update that is not tolerated
(`Ending`). What the wait does to the port is the switch of the status updates at both ends, and an
emergency stop between them where a crash is suspected.
-/

namespace Foxtrot

namespace Apt

/-! ### Statuses -/

/-- `allstatus`. -/
inductive Allstatus where
  | channelStatus (stat : ChannelStatus)
  | dcstatus (stat : Dcstatus)
  deriving DecidableEq

namespace Allstatus

def statusbits : Allstatus → UInt32
  | channelStatus stat => stat.statusbits
  | dcstatus stat => stat.statusbits

/-- `extract_status_bit`. -/
def bit (stat : Allstatus) (n : ℕ) : Bool := stat.statusbits.toNat.testBit n

/-- A limit switch is engaged. -/
def limited (stat : Allstatus) : Bool := stat.bit 0 || stat.bit 1 || stat.bit 2 || stat.bit 3

/-- The motor is moving. -/
def moving (stat : Allstatus) : Bool := stat.bit 4 || stat.bit 5 || stat.bit 6 || stat.bit 7

/-- `status_bit_indices::is_homing`. -/
def isHoming (stat : Allstatus) : Bool := stat.bit 9

end Allstatus

/-- `check_status_bits`. -/
def checkStatusBits (stat : Allstatus) (checkLimitswitch requireMoving : Bool) : Bool :=
  if checkLimitswitch && stat.limited then false
  else if requireMoving && !stat.moving then false
  else true

/-- `extract_status_from_data` of `*repl.data`. -/
def extractStatusFromData (traits : AptDeviceTraits) : Option (List UInt8) → Except Fault Allstatus
  | none => .error .undefined
  | some data =>
    match traits.statusRequestCode with
    | .motReqDcstatusupdate => (copyDataToStatus data).map .dcstatus
    | .motReqStatusupdate => (copyDataToStatus data).map .channelStatus
    | _ => .error (.thrown
        (.exception "APT Traits class does not have valid status request code"))

/-! ### The wait -/

/-- The device and the arguments of `wait_blocking_move` that its loop does not change. -/
structure BlockingMove where
  traits : AptDeviceTraits
  statusupdateopcode : Bsc203Opcodes
  completionexpectedopcode : Bsc203Opcodes
  dest : Destination
  chan : MotorChannelIdents

/-- The variables of the loop. -/
structure Waiting where
  failStatusRetries : ℤ
  initLimitState : Bool
  deriving DecidableEq

namespace BlockingMove

variable {σ : Type}

/-- The error of a crash. -/
def crashSuspected : Thrown :=
  .deviceError ("motor status check failed. Motor crash suspected. Emergency stop issued. " ++
    "If this is not a crash, maybe retry number needs adjusting!")

/-- What `wait_blocking_move` does when it suspects a crash. -/
def emergencyStop (move : BlockingMove) : AptM σ Unit := do
  stopMove move.dest move.chan true
  throwing crashSuspected

/-- What `wait_blocking_move` does about a status that nothing excuses. -/
def failCheck : AptM σ Unit := do
  flush
  throwing (.exception "motor status check failed! (Maybe a limit switch has been engaged)")

/-- The loop of `wait_blocking_move`. -/
def loop (move : BlockingMove) : ℕ → Waiting → AptM σ Unit
  | 0, _ => throw .unfinished
  | fuel + 1, waiting => do
    let (repl, opcode) ← receiveMessageSyncCheckAny move.dest
    if opcode = move.statusupdateopcode.code then
      let stat ← MonadExcept.ofExcept (extractStatusFromData move.traits repl.data)
      if checkStatusBits stat true true then
        move.loop fuel waiting
      else if stat.isHoming then
        if waiting.failStatusRetries ≥ move.traits.nIgnoreFailedMotorMsgs then
          move.emergencyStop
        else
          move.loop fuel { waiting with failStatusRetries := waiting.failStatusRetries + 1 }
      else if stat.limited && waiting.initLimitState then
        move.loop fuel { waiting with initLimitState := false }
      else
        failCheck
    else if opcode ≠ move.completionexpectedopcode.code then
      throwing (.exception "got unexpected type of completion message!")
    else
      flush

/-- `wait_blocking_move`. Each round of the loop reads a message, so it takes no more rounds than
there are messages, and one for the timeout. -/
def waitBlockingMove (move : BlockingMove) (initLimitState : Bool) : AptM σ Unit :=
  withUpdateMessages move.dest do
    let port ← get
    move.loop (port.incoming.length + 1) ⟨0, initLimitState⟩

/-! ### Which status updates are excused -/

/-- What a status says about a move. -/
inductive Verdict where
  | passes
  | homing
  | limited
  | fails
  deriving DecidableEq

end BlockingMove

/-- Whether the status passes the test, and if not, by which rule it might be excused. -/
def Allstatus.verdict (stat : Allstatus) : BlockingMove.Verdict :=
  if checkStatusBits stat true true then .passes
  else if stat.isHoming then .homing
  else if stat.limited then .limited
  else .fails

namespace BlockingMove

/-- A status update of the device. -/
def IsUpdate (move : BlockingMove) (message : Message) : Prop :=
  message.source = move.dest.code ∧ message.opcode = move.statusupdateopcode.code

/-- The completion message that is expected. -/
def IsCompletion (move : BlockingMove) (message : Message) : Prop :=
  message.source = move.dest.code ∧ message.opcode ≠ move.statusupdateopcode.code ∧
    message.opcode = move.completionexpectedopcode.code

/-- What the message says about the move, if it has a status. -/
def verdict (move : BlockingMove) (message : Message) : Option Verdict :=
  match extractStatusFromData move.traits message.reply.data with
  | .ok stat => some stat.verdict
  | .error _ => none

/-- The failing status updates while homing. -/
def homings (move : BlockingMove) (updates : List Message) : ℕ :=
  updates.countP (move.verdict · = some .homing)

/-- The status updates that show a limit switch, and fail by it. -/
def limits (move : BlockingMove) (updates : List Message) : ℕ :=
  updates.countP (move.verdict · = some .limited)

/-- Status updates all of which pass the test or are excused. -/
structure Tolerated (move : BlockingMove) (initLimitState : Bool) (updates : List Message) :
    Prop where
  isUpdate : ∀ m ∈ updates, move.IsUpdate m
  verdict : ∀ m ∈ updates, ∃ v, move.verdict m = some v ∧ v ≠ .fails
  homings : move.homings updates ≤ move.traits.nIgnoreFailedMotorMsgs.toNat
  limits : move.limits updates ≤ initLimitState.toNat

/-- A failing status update while homing comes after as many as are excused. -/
def Crashes (move : BlockingMove) (initLimitState : Bool) (incoming : List Arrival) : Prop :=
  ∃ updates m rest, incoming = updates.map .ok ++ .ok m :: rest ∧
    move.Tolerated initLimitState updates ∧ move.IsUpdate m ∧ move.verdict m = some .homing ∧
      move.traits.nIgnoreFailedMotorMsgs.toNat < move.homings (updates ++ [m])

/-! ### The loop -/

instance (move : BlockingMove) (message : Message) : Decidable (move.IsUpdate message) :=
  inferInstanceAs (Decidable (_ ∧ _))

/-- The variables of the loop after a status update that does not end it. -/
def next (move : BlockingMove) (waiting : Waiting) : Verdict → Option Waiting
  | .passes => some waiting
  | .homing =>
    if waiting.failStatusRetries ≥ move.traits.nIgnoreFailedMotorMsgs then none
    else some { waiting with failStatusRetries := waiting.failStatusRetries + 1 }
  | .limited =>
    if waiting.initLimitState then some { waiting with initLimitState := false } else none
  | .fails => none

/-- The variables of the loop after a message that does not end it. -/
def step (move : BlockingMove) (waiting : Waiting) (message : Message) : Option Waiting :=
  if move.IsUpdate message then (move.verdict message).bind (move.next waiting) else none

/-- A message has a verdict exactly if its status can be read. -/
private theorem verdict_eq_some_iff {move : BlockingMove} {message : Message} {v : Verdict} :
    move.verdict message = some v ↔
      ∃ stat, extractStatusFromData move.traits message.reply.data = .ok stat ∧
        stat.verdict = v := by
  rw [verdict]
  cases extractStatusFromData move.traits message.reply.data <;> simp

section Loop

variable {move : BlockingMove} {waiting waiting' : Waiting} {port : Port σ} {m : Message}
  {rest : List Arrival} {stat : Allstatus} (fuel : ℕ)

/-- A status update, by its verdict. -/
theorem on_loop_status (hm : move.IsUpdate m)
    (hstat : extractStatusFromData move.traits m.reply.data = .ok stat) :
    (move.loop (fuel + 1) waiting).on (port.awaiting (.ok m :: rest)) =
      (match stat.verdict with
        | .passes => move.loop fuel waiting
        | .homing =>
          if waiting.failStatusRetries ≥ move.traits.nIgnoreFailedMotorMsgs then
            move.emergencyStop
          else move.loop fuel { waiting with failStatusRetries := waiting.failStatusRetries + 1 }
        | .limited =>
          if waiting.initLimitState then move.loop fuel { waiting with initLimitState := false }
          else failCheck
        | .fails => failCheck : AptM σ Unit).on ((port.noted [.receive]).awaiting rest) := by
  have hof : ∀ f : Allstatus → AptM σ Unit,
      (MonadExcept.ofExcept (extractStatusFromData move.traits m.reply.data) >>= f) = f stat := by
    intro f
    rw [hstat]
    rfl
  rw [loop, Stateful.on_bind_of_ok (on_receiveSync_ok port hm.1)]
  simp only [if_pos hm.2, hof, Allstatus.verdict]
  by_cases hcheck : checkStatusBits stat true true = true
  · simp [hcheck]
  · by_cases hhoming : stat.isHoming = true
    · simp [hcheck, hhoming]
    · by_cases hlimited : stat.limited = true
      · simp [hcheck, hhoming, hlimited]
      · simp [hcheck, hhoming, hlimited]

/-- A message that does not end the loop. -/
theorem on_loop_of_step (h : move.step waiting m = some waiting') :
    (move.loop (fuel + 1) waiting).on (port.awaiting (.ok m :: rest)) =
      (move.loop fuel waiting').on ((port.noted [.receive]).awaiting rest) := by
  rw [step] at h
  split_ifs at h with hm
  obtain ⟨v, hv, hnext⟩ := Option.bind_eq_some_iff.mp h
  obtain ⟨stat, hstat, rfl⟩ := verdict_eq_some_iff.mp hv
  rw [on_loop_status fuel hm hstat]
  -- the verdicts that let the loop go on, each with what it does to the variables
  cases hverdict : stat.verdict with
  | passes =>
    rw [hverdict] at hnext
    obtain rfl := Option.some.inj hnext
    rfl
  | homing =>
    rw [hverdict, next] at hnext
    split_ifs at hnext with hretries
    obtain rfl := Option.some.inj hnext
    rw [if_neg hretries]
  | limited =>
    rw [hverdict, next] at hnext
    split_ifs at hnext with hlimited
    obtain rfl := Option.some.inj hnext
    rw [if_pos hlimited]
  | fails =>
    rw [hverdict] at hnext
    cases hnext

/-- The loop reads tolerated updates one after the other. -/
private theorem on_loop_of_foldlM {updates : List Message}
    (h : updates.foldlM move.step waiting = some waiting') :
    (move.loop (updates.length + fuel) waiting).on (port.awaiting (updates.map .ok ++ rest)) =
      (move.loop fuel waiting').on
        ((port.noted (List.replicate updates.length .receive)).awaiting rest) := by
  induction updates generalizing waiting port with
  | nil =>
    obtain rfl := Option.some.inj h
    rw [List.length_nil, Nat.zero_add, List.replicate_zero, Port.noted, List.append_nil]
    rfl
  | cons m updates ih =>
    rw [List.foldlM_cons] at h
    obtain ⟨waiting₁, hstep, hrest⟩ := Option.bind_eq_some_iff.mp h
    rw [List.length_cons, Nat.add_right_comm, List.map_cons, List.cons_append,
      on_loop_of_step _ hstep, ih hrest, Port.noted_noted, List.replicate_succ,
      List.singleton_append]

end Loop

/-! ### Counting what is excused

By induction on the messages, for any counts at the start. -/

section Counting

variable {move : BlockingMove} {updates : List Message} {waiting waiting' : Waiting}

/-- The updates while homing, counted from the first one. -/
private theorem homings_cons (m : Message) : move.homings (m :: updates) =
    move.homings updates + if move.verdict m = some .homing then 1 else 0 := by
  simp [homings, List.countP_cons]

/-- The updates at a limit, counted from the first one. -/
private theorem limits_cons (m : Message) : move.limits (m :: updates) =
    move.limits updates + if move.verdict m = some .limited then 1 else 0 := by
  simp [limits, List.countP_cons]

/-- The loop goes on through status updates exactly if each is one and each passes or is excused,
and it has counted them. -/
theorem foldlM_step_eq_some_iff : updates.foldlM move.step waiting = some waiting' ↔
    (∀ m ∈ updates, move.IsUpdate m) ∧
      (∀ m ∈ updates, ∃ v, move.verdict m = some v ∧ v ≠ .fails) ∧
      (move.homings updates = 0 ∨
        waiting.failStatusRetries + move.homings updates ≤ move.traits.nIgnoreFailedMotorMsgs) ∧
      move.limits updates ≤ waiting.initLimitState.toNat ∧
      waiting' = ⟨waiting.failStatusRetries + move.homings updates,
        waiting.initLimitState && move.limits updates = 0⟩ := by
  induction updates generalizing waiting with
  | nil => simp [homings, limits, eq_comm]
  | cons m updates ih =>
    rw [List.foldlM_cons, List.forall_mem_cons, List.forall_mem_cons, homings_cons, limits_cons]
    by_cases hm : move.IsUpdate m
    · cases hv : move.verdict m with
      | none => simp [step, hm, hv]
      | some v =>
        cases v with
        | passes => simp [step, hm, hv, next, ih]
        | fails => simp [step, hm, hv, next]
        | homing =>
          -- the counter is compared before it is raised
          by_cases hretries : waiting.failStatusRetries ≥ move.traits.nIgnoreFailedMotorMsgs
          · simp [step, hm, hv, next, hretries]
            omega
          · have hassoc : waiting.failStatusRetries + 1 + move.homings updates =
                waiting.failStatusRetries + (move.homings updates + 1) := by omega
            have hcount : (move.homings updates = 0 ∨ waiting.failStatusRetries +
                (move.homings updates + 1) ≤ move.traits.nIgnoreFailedMotorMsgs) ↔
                waiting.failStatusRetries + (move.homings updates + 1) ≤
                  move.traits.nIgnoreFailedMotorMsgs := by omega
            simp [step, hm, hv, next, hretries, ih, hassoc, hcount]
        | limited =>
          cases hlimit : waiting.initLimitState with
          | false => simp [step, hm, hv, next, hlimit]
          | true => simp [step, hm, hv, next, hlimit, ih]
    · simp [step, hm]

/-- Updates are tolerated exactly if the loop gets past them all. -/
private theorem tolerated_iff {initLimitState : Bool} : move.Tolerated initLimitState updates ↔
    ∃ waiting, updates.foldlM move.step ⟨0, initLimitState⟩ = some waiting := by
  simp only [foldlM_step_eq_some_iff]
  constructor
  · intro h
    have hhomings := h.homings
    exact ⟨_, h.isUpdate, h.verdict, by omega, h.limits, rfl⟩
  · rintro ⟨waiting, hupdate, hverdict, hhomings, hlimits, -⟩
    exact ⟨hupdate, hverdict, by omega, hlimits⟩

end Counting

/-! ### The end of the loop -/

/-- What stops the move at once. -/
def stop (move : BlockingMove) : List UInt8 :=
  transmitHeader .motMoveStop move.chan.code 0x01 move.dest .host

/-- How the loop ends, by the message that ends it. -/
inductive Ending (move : BlockingMove) (waiting : Waiting) :
    List Arrival → Except Fault Unit → List PortUse → Prop
  | completes {m : Message} (rest : List Arrival) (h : move.IsCompletion m) :
    Ending move waiting (.ok m :: rest) (.ok ()) [.receive, .flush]
  | crashes {m : Message} (rest : List Arrival) (hm : move.IsUpdate m)
      (hverdict : move.verdict m = some .homing)
      (hretries : waiting.failStatusRetries ≥ move.traits.nIgnoreFailedMotorMsgs) :
    Ending move waiting (.ok m :: rest) (.error (.thrown crashSuspected))
      [.receive, .write move.stop]
  | unreadable {m : Message} (rest : List Arrival) (hm : move.IsUpdate m)
      (h : extractStatusFromData move.traits m.reply.data = .error .undefined) :
    Ending move waiting (.ok m :: rest) (.error .undefined) [.receive]
  | throws (rest : List Arrival) (e : Thrown) (uses : List PortUse) (h : transmissions uses = []) :
    Ending move waiting rest (.error (.thrown e)) uses

end BlockingMove

/-- A status is read, or the behaviour is undefined, or the traits are not those of a device. -/
theorem extractStatusFromData_cases (traits : AptDeviceTraits) (data : Option (List UInt8)) :
    (∃ stat, extractStatusFromData traits data = .ok stat) ∨
      extractStatusFromData traits data = .error .undefined ∨
      ∃ e, extractStatusFromData traits data = .error (.thrown e) := by
  rw [extractStatusFromData.eq_def]
  cases data with
  | none => exact .inr (.inl rfl)
  | some data =>
    have hcopy : ∀ (S : Type) [Packed S] (f : S → Allstatus),
        (∃ stat, (copyDataToStatus data).map f = .ok stat) ∨
          (copyDataToStatus data).map f = .error .undefined := by
      intro S _ f
      rw [copyDataToStatus]
      split_ifs
      · exact .inl ⟨_, rfl⟩
      · exact .inr rfl
    dsimp only
    split
    · exact (hcopy Dcstatus _).imp_right .inl
    · exact (hcopy ChannelStatus _).imp_right .inl
    · exact .inr (.inr ⟨_, rfl⟩)

namespace BlockingMove

section Ending

variable {move : BlockingMove} {waiting : Waiting} {port : Port σ} {m : Message}
  {rest : List Arrival} {stat : Allstatus} (fuel : ℕ)

/-- The loop ends with the completion, and flushes the port. -/
private theorem does_completion (h : move.IsCompletion m) :
    Does (move.loop (fuel + 1) waiting) (port.awaiting (.ok m :: rest)) (.ok ())
      [.receive, .flush] := by
  rw [Does, loop, Stateful.on_bind_of_ok (on_receiveSync_ok port h.1)]
  dsimp only
  rw [if_neg h.2.1, if_neg (not_not.mpr h.2.2)]
  exact ⟨rfl, List.append_assoc port.log _ _⟩

/-- A status update without a status. -/
theorem does_noStatus {f : Fault} (hm : move.IsUpdate m)
    (hstat : extractStatusFromData move.traits m.reply.data = .error f) :
    Does (move.loop (fuel + 1) waiting) (port.awaiting (.ok m :: rest)) (.error f) [.receive] := by
  rw [Does, loop, Stateful.on_bind_of_ok (on_receiveSync_ok port hm.1)]
  dsimp only
  rw [if_pos hm.2, hstat]
  exact ⟨rfl, rfl⟩

/-- The loop stops the motor when it suspects a crash. -/
private theorem does_crash (hm : move.IsUpdate m) (hverdict : move.verdict m = some .homing)
    (hretries : waiting.failStatusRetries ≥ move.traits.nIgnoreFailedMotorMsgs) :
    Does (move.loop (fuel + 1) waiting) (port.awaiting (.ok m :: rest))
      (.error (.thrown crashSuspected)) [.receive, .write move.stop] := by
  obtain ⟨stat, hstat, hv⟩ := verdict_eq_some_iff.mp hverdict
  rw [Does, on_loop_status fuel hm hstat, hv]
  dsimp only
  rw [if_pos hretries]
  exact ⟨rfl, List.append_assoc port.log _ _⟩

/-- A status that nothing excuses. -/
theorem does_failCheck
    (h : (move.loop (fuel + 1) waiting).on (port.awaiting (.ok m :: rest)) =
      (failCheck : AptM σ Unit).on ((port.noted [.receive]).awaiting rest)) :
    Does (move.loop (fuel + 1) waiting) (port.awaiting (.ok m :: rest)) (.error (.thrown
      (.exception "motor status check failed! (Maybe a limit switch has been engaged)")))
      [.receive, .flush] := by
  rw [Does, h]
  exact ⟨rfl, List.append_assoc port.log _ _⟩

/-- A status update that does not let the loop go on. -/
theorem exists_ending_update (hm : move.IsUpdate m)
    (hstat : extractStatusFromData move.traits m.reply.data = .ok stat)
    (hnext : move.next waiting stat.verdict = none) :
    ∃ r uses, Ending move waiting (.ok m :: rest) r uses ∧
      Does (move.loop (fuel + 1) waiting) (port.awaiting (.ok m :: rest)) r uses := by
  have hon : (move.loop (fuel + 1) waiting).on (port.awaiting (.ok m :: rest)) = _ :=
    on_loop_status fuel hm hstat
  cases hverdict : stat.verdict with
  | passes =>
    rw [hverdict] at hnext
    cases hnext
  | homing =>
    have hv : move.verdict m = some .homing := verdict_eq_some_iff.mpr ⟨stat, hstat, hverdict⟩
    rw [hverdict, next] at hnext
    -- the counter is at its limit: a crash is suspected, and the motor is stopped
    split_ifs at hnext with hretries
    exact ⟨_, _, .crashes rest hm hv hretries, does_crash fuel hm hv hretries⟩
  | limited =>
    rw [hverdict, next] at hnext
    split_ifs at hnext with hlimited
    rw [hverdict] at hon
    simp only [if_neg hlimited] at hon
    exact ⟨_, _, .throws _ _ _ rfl, does_failCheck fuel hon⟩
  | fails =>
    rw [hverdict] at hon
    exact ⟨_, _, .throws _ _ _ rfl, does_failCheck fuel hon⟩

/-- The loop ends with a message that does not let it go on. -/
theorem exists_ending (h : ∀ m rest', rest = .ok m :: rest' → move.step waiting m = none) :
    ∃ r uses, Ending move waiting rest r uses ∧
      Does (move.loop (fuel + 1) waiting) (port.awaiting rest) r uses := by
  obtain ⟨m, rest, rfl, hsource, hon⟩ | ⟨-, e, uses, rest, huses, hon⟩ :=
    receiveSync_cases port move.dest rest
  · have hstep := h m rest rfl
    by_cases hopcode : m.opcode = move.statusupdateopcode.code
    · have hm : move.IsUpdate m := ⟨hsource, hopcode⟩
      rw [step, if_pos hm] at hstep
      -- a status that cannot be read, or one that the loop does not go on after
      obtain ⟨stat, hstat⟩ | hstat | ⟨e, hstat⟩ :=
        extractStatusFromData_cases move.traits m.reply.data
      · rw [verdict_eq_some_iff.mpr ⟨stat, hstat, rfl⟩, Option.bind_some] at hstep
        exact exists_ending_update fuel hm hstat hstep
      · exact ⟨_, _, .unreadable rest hm hstat, does_noStatus fuel hm hstat⟩
      · exact ⟨_, _, .throws _ e [.receive] rfl, does_noStatus fuel hm hstat⟩
    · by_cases hcompletion : m.opcode = move.completionexpectedopcode.code
      · have hm : move.IsCompletion m := ⟨hsource, hopcode, hcompletion⟩
        exact ⟨_, _, .completes rest hm, does_completion fuel hm⟩
      · refine ⟨_, _, .throws _
          (.exception "got unexpected type of completion message!") [.receive] rfl, ?_⟩
        rw [Does, loop, Stateful.on_bind_of_ok hon]
        dsimp only
        rw [if_neg hopcode, if_pos hcompletion]
        exact ⟨rfl, rfl⟩
  · have hnone : transmissions uses = [] := by
      rcases huses with rfl | rfl <;> rfl
    refine ⟨_, _, .throws _ e uses hnone, ?_⟩
    rw [Does, loop, Stateful.on_bind_of_error hon]
    exact ⟨rfl, rfl⟩

end Ending

/-! ### The wait as a whole -/

/-- The data of the message are as long as a status. -/
def HasStatus (move : BlockingMove) (m : Message) : Prop :=
  ∃ data, m.reply.data = some data ∧
    (move.traits.statusRequestCode = .motReqDcstatusupdate ∨
      move.traits.statusRequestCode = .motReqStatusupdate → data.length = 14)

/-- Every status update that the wait gets to has the data of a status. -/
def Sized (move : BlockingMove) (initLimitState : Bool) (incoming : List Arrival) : Prop :=
  ∀ updates m rest, incoming = updates.map .ok ++ .ok m :: rest →
    move.Tolerated initLimitState updates → move.IsUpdate m → move.HasStatus m

/-- **The wait ends for the right reason**, `result`, after what is in the log. -/
structure EndsRightly (move : BlockingMove) (initLimitState : Bool) (incoming : List Arrival)
    (result : Except Fault Unit) (log : List PortUse) : Prop where
  /-- It returns with the completion message, if the status updates before it are tolerated. -/
  returns : result = .ok () ↔ ∃ updates m rest, incoming = updates.map .ok ++ .ok m :: rest ∧
    move.Tolerated initLimitState updates ∧ move.IsCompletion m
  /-- It stops a move that has crashed, once, and then throws. -/
  crash : move.Crashes initLimitState incoming → (∃ e, result = .error (.thrown e)) ∧
    transmissions log = [updatesOn move.dest, move.stop, updatesOff move.dest]
  /-- It stops no other move. -/
  noStop : ¬ move.Crashes initLimitState incoming →
    transmissions log = [updatesOn move.dest, updatesOff move.dest]
  /-- Update messages are on from the beginning to the end. -/
  updates : ∃ uses, log = .write (updatesOn move.dest) :: uses ++ [.write (updatesOff move.dest)]
  /-- Its behaviour is defined: it returns or throws. -/
  defined : result = .ok () ∨ ∃ e, result = .error (.thrown e)

section Wait

variable {move : BlockingMove} {initLimitState : Bool} {updates : List Message}
  {waiting : Waiting} {rest incoming : List Arrival} {r : Except Fault Unit} {uses : List PortUse}

/-- A status is there exactly if reading it is defined. -/
private theorem hasStatus_iff {m : Message} : move.HasStatus m ↔
    extractStatusFromData move.traits m.reply.data ≠ .error .undefined := by
  rw [HasStatus, extractStatusFromData.eq_def]
  cases m.reply.data with
  | none => simp
  | some data =>
    have hcopy : ∀ (S : Type) [Packed S] (f : S → Allstatus),
        (copyDataToStatus data).map f ≠ .error .undefined ↔ data.length = Packed.size S := by
      intro S _ f
      rw [copyDataToStatus]
      split_ifs with hlength
      · simp [hlength, Except.map]
      · simp [hlength, Except.map]
    have hsome : (∃ d, some data = some d ∧ (move.traits.statusRequestCode = .motReqDcstatusupdate ∨
        move.traits.statusRequestCode = .motReqStatusupdate → d.length = 14)) ↔
        (move.traits.statusRequestCode = .motReqDcstatusupdate ∨
          move.traits.statusRequestCode = .motReqStatusupdate → data.length = 14) := by
      simp
    rw [hsome]
    dsimp only
    split
    · next hcode => rw [hcopy, hcode, size_status.2]; simp
    · next hcode => rw [hcopy, hcode, size_status.1]; simp
    · next hdc hnormal =>
      have hneither : ¬ (move.traits.statusRequestCode = .motReqDcstatusupdate ∨
          move.traits.statusRequestCode = .motReqStatusupdate) := not_or.mpr ⟨hdc, hnormal⟩
      simp [hneither]

/-- What the wait reads is tolerated up to a message that does not let the loop go on. -/
theorem exists_tolerated (move : BlockingMove) (waiting : Waiting) (incoming : List Arrival) :
    ∃ (updates : List Message) (waiting' : Waiting) (rest : List Arrival),
      incoming = updates.map .ok ++ rest ∧ updates.foldlM move.step waiting = some waiting' ∧
        ∀ m rest', rest = .ok m :: rest' → move.step waiting' m = none := by
  induction incoming generalizing waiting with
  | nil => exact ⟨[], waiting, [], rfl, rfl, by simp⟩
  | cons arrival incoming ih =>
    cases arrival with
    | error e => exact ⟨[], waiting, _, rfl, rfl, by simp⟩
    | ok m =>
      cases hstep : move.step waiting m with
      | none =>
        refine ⟨[], waiting, _, rfl, rfl, ?_⟩
        rintro _ _ ⟨⟩
        exact hstep
      | some waiting₁ =>
        obtain ⟨updates, waiting', rest, rfl, hfold, hend⟩ := ih waiting₁
        refine ⟨m :: updates, waiting', rest, rfl, ?_, hend⟩
        rw [List.foldlM_cons, hstep]
        exact hfold

/-- The port as the wait has left it when it comes to the end. -/
def reached (move : BlockingMove) (updates : List Message) (rest : List Arrival) : Port Unit :=
  (((Port.receiving (updates.map .ok ++ rest)).noted [.write (updatesOn move.dest)]).noted
    (List.replicate updates.length .receive)).awaiting rest

/-- The wait does what the end of its loop does, after what it has tolerated. -/
theorem does_waitBlockingMove
    (hfold : updates.foldlM move.step ⟨0, initLimitState⟩ = some waiting)
    (h : Does (move.loop (rest.length + 1) waiting) (move.reached updates rest) r uses) :
    Does (move.waitBlockingMove initLimitState) (Port.receiving (updates.map .ok ++ rest)) r
      (.write (updatesOn move.dest) :: (List.replicate updates.length .receive ++ uses) ++
        if leaves r then [.write (updatesOff move.dest)] else []) := by
  refine Does.withUpdateMessages ?_
  have hlength : (updates.map Except.ok ++ rest).length + 1 =
      updates.length + (rest.length + 1) := by
    rw [List.length_append, List.length_map, Nat.add_assoc]
  have hon : (do
      let port ← get
      move.loop (port.incoming.length + 1) ⟨0, initLimitState⟩ : AptM Unit Unit).on
        ((Port.receiving (updates.map .ok ++ rest)).noted [.write (updatesOn move.dest)]) =
      (move.loop (rest.length + 1) waiting).on (move.reached updates rest) := by
    rw [reached, ← on_loop_of_foldlM _ hfold, ← hlength]
    rfl
  rw [Port.written_receiving, Does, hon, h.1, h.2]
  refine ⟨rfl, ?_⟩
  rw [← List.append_assoc]
  rfl

/-- What is transmitted between the two switches is what the end of the loop transmits. -/
theorem transmissions_wait (n : ℕ) (on off : List UInt8) :
    transmissions ((Port.receiving incoming).log ++
      (.write on :: (List.replicate n .receive ++ uses) ++ [.write off])) =
        on :: transmissions uses ++ [off] := by
  rw [transmissions_append, transmissions_append, transmissions_write, transmissions_append,
    transmissions_receives]
  rfl

private theorem wait_completion {m : Message} (htolerated : move.Tolerated initLimitState updates)
    (hm : move.IsCompletion m) :
    ((move.waitBlockingMove initLimitState).on
      (Port.receiving (updates.map .ok ++ .ok m :: rest))).1 = .ok () := by
  obtain ⟨waiting, hfold⟩ := tolerated_iff.mp htolerated
  exact (does_waitBlockingMove hfold (does_completion _ hm)).1

/-- To read a status from too few bytes is undefined. -/
private theorem wait_unreadable {m : Message} (htolerated : move.Tolerated initLimitState updates)
    (hm : move.IsUpdate m) (hstatus : ¬ move.HasStatus m) :
    ((move.waitBlockingMove initLimitState).on
      (Port.receiving (updates.map .ok ++ .ok m :: rest))).1 = .error .undefined := by
  obtain ⟨waiting, hfold⟩ := tolerated_iff.mp htolerated
  have hstat := not_not.mp (mt hasStatus_iff.mpr hstatus)
  exact (does_waitBlockingMove hfold (does_noStatus _ hm hstat)).1

/-- A failing status update while homing is one too many if the variables of the loop say so. -/
theorem retries_iff {m : Message} (hverdict : move.verdict m = some .homing)
    (hfold : updates.foldlM move.step ⟨0, initLimitState⟩ = some waiting) :
    waiting.failStatusRetries ≥ move.traits.nIgnoreFailedMotorMsgs ↔
      move.traits.nIgnoreFailedMotorMsgs.toNat < move.homings (updates ++ [m]) := by
  obtain ⟨-, -, -, -, rfl⟩ := foldlM_step_eq_some_iff.mp hfold
  have hhomings : move.homings (updates ++ [m]) = move.homings updates + 1 := by
    simp [homings, List.countP_append, hverdict]
  rw [hhomings]
  dsimp only
  omega

/-- **A suspected crash stops the motor**, with the updates switched off on the way out. -/
private theorem wait_crash {m : Message} (htolerated : move.Tolerated initLimitState updates)
    (hm : move.IsUpdate m) (hverdict : move.verdict m = some .homing)
    (hhomings : move.traits.nIgnoreFailedMotorMsgs.toNat < move.homings (updates ++ [m])) :
    ((move.waitBlockingMove initLimitState).on
        (Port.receiving (updates.map .ok ++ .ok m :: rest))).1 =
          .error (.thrown crashSuspected) ∧
      transmissions ((move.waitBlockingMove initLimitState).on
        (Port.receiving (updates.map .ok ++ .ok m :: rest))).2.log =
          [updatesOn move.dest, move.stop, updatesOff move.dest] := by
  obtain ⟨waiting, hfold⟩ := tolerated_iff.mp htolerated
  have hdoes : Does (move.waitBlockingMove initLimitState)
      (Port.receiving (updates.map .ok ++ .ok m :: rest)) (.error (.thrown crashSuspected)) _ :=
    does_waitBlockingMove hfold
      (does_crash _ hm hverdict ((retries_iff hverdict hfold).mpr hhomings))
  refine ⟨hdoes.1, ?_⟩
  rw [hdoes.2]
  exact transmissions_wait _ _ _

/-- With the data of a status in each status update that it gets to, the wait ends for the right
reason. -/
theorem endsRightly_of_sized (h : move.Sized initLimitState incoming) :
    move.EndsRightly initLimitState incoming
      ((move.waitBlockingMove initLimitState).on (Port.receiving incoming)).1
      ((move.waitBlockingMove initLimitState).on (Port.receiving incoming)).2.log := by
  obtain ⟨updates, waiting, rest, rfl, hfold, hend⟩ :=
    exists_tolerated move ⟨0, initLimitState⟩ incoming
  have htolerated : move.Tolerated initLimitState updates := tolerated_iff.mpr ⟨waiting, hfold⟩
  obtain ⟨r, uses, hending, hdoes⟩ : ∃ r uses, Ending move waiting rest r uses ∧
    Does (move.loop (rest.length + 1) waiting) (move.reached updates rest) r uses :=
      exists_ending rest.length hend
  obtain ⟨hr, hlog⟩ := does_waitBlockingMove hfold hdoes
  -- the guard runs: there is no status of another size to copy
  have hleaves : leaves r = true := by
    cases hending with
    | completes | crashes | throws => rfl
    | unreadable rest hm hstat =>
      exact absurd hstat (hasStatus_iff.mp (h updates _ rest rfl htolerated hm))
  rw [hleaves, if_pos rfl] at hlog
  rw [hr, hlog]
  constructor
  case returns =>
    constructor
    · rintro rfl
      cases hending with
      | completes rest hm => exact ⟨updates, _, rest, rfl, htolerated, hm⟩
    · rintro ⟨updates', m, rest', heq, htolerated', hm⟩
      rw [← hr, heq]
      exact wait_completion htolerated' hm
  case crash =>
    rintro ⟨updates', m, rest', heq, htolerated', hm, hverdict, hhomings⟩
    rw [← hr, ← hlog, heq]
    exact (wait_crash htolerated' hm hverdict hhomings).imp_left fun hthrows => ⟨_, hthrows⟩
  case noStop =>
    intro hcrash
    -- the only ending that transmits is the one that suspects a crash
    have huses : transmissions uses = [] := by
      cases hending with
      | completes | unreadable => rfl
      | throws _ _ _ huses => exact huses
      | crashes rest hm hverdict hretries =>
        exact absurd ⟨updates, _, rest, rfl, htolerated, hm, hverdict,
          (retries_iff hverdict hfold).mp hretries⟩ hcrash
    rw [transmissions_wait, huses]
    rfl
  case updates => exact ⟨_, rfl⟩
  case defined =>
    cases hending with
    | completes => exact .inl rfl
    | crashes | throws => exact .inr ⟨_, rfl⟩
    | unreadable => cases hleaves

end Wait

end BlockingMove

/-- **Blocking moves**: whatever is received, the wait ends for the right reason exactly if every
status update that it gets to has the data of a status. -/
theorem waitBlockingMove_endsRightly_iff (move : BlockingMove) (initLimitState : Bool)
    (incoming : List Arrival) :
    move.EndsRightly initLimitState incoming
        ((move.waitBlockingMove initLimitState).on (Port.receiving incoming)).1
        ((move.waitBlockingMove initLimitState).on (Port.receiving incoming)).2.log ↔
      move.Sized initLimitState incoming := by
  refine ⟨?_, BlockingMove.endsRightly_of_sized⟩
  rintro hends updates m rest rfl htolerated hm
  by_contra hstatus
  have hundefined : ((move.waitBlockingMove initLimitState).on
      (Port.receiving (updates.map .ok ++ .ok m :: rest))).1 = .error .undefined :=
    BlockingMove.wait_unreadable htolerated hm hstatus
  obtain hok | ⟨e, hthrows⟩ := hends.defined
  · cases hundefined.symm.trans hok
  · cases hundefined.symm.trans hthrows

/-- A status update that is a header only. -/
def emptyUpdate : Message := ⟨Destination.rack.code, 0x0481, ⟨0, 0, none⟩⟩

/-- The data that are not there are read. -/
theorem not_waitBlockingMove_endsRightly :
    ¬ BlockingMove.EndsRightly
      ⟨.default, .motGetStatusupdate, .motMoveCompleted, .rack, .channel1⟩ false
      [.ok emptyUpdate]
      ((BlockingMove.waitBlockingMove
        ⟨.default, .motGetStatusupdate, .motMoveCompleted, .rack, .channel1⟩ false).on
          (Port.receiving [.ok emptyUpdate])).1
      ((BlockingMove.waitBlockingMove
        ⟨.default, .motGetStatusupdate, .motMoveCompleted, .rack, .channel1⟩ false).on
          (Port.receiving [.ok emptyUpdate])).2.log := by
  intro hends
  obtain hok | ⟨e, hthrows⟩ := hends.defined
  · revert hok
    decide +kernel
  · cases hthrows

end Apt

end Foxtrot
