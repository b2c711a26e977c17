import Foxtrot.Apt.Tim101

/-!
# The status of a TIM101

`TIM101::get_status_update` switches update messages on, and switches them off again just before it
returns a status. Whatever else ends it leaves them on: a status update without data, which ends the
loop, and any exception but the one that is caught. So it is as it should be exactly if the first
message that is not read over has a status (`getStatusUpdate_clean_iff`).

The loop reads a message in each round, and goes on over the ones that are not a status update or
that were not received. Where it ends is decided by the first arrival that it does not read over
(`exists_ends`): by induction on the arrivals before it, each of which takes one round, whether it
is a message of another kind or a `DeviceError`. Only at a status with data does the loop write
again, to switch the updates off (`Ends`).
-/

namespace Foxtrot

namespace Apt

namespace Tim101

/-- A status update with the data of a status. -/
def HasStatus (m : Message) (status : MotorStatus) : Prop :=
  m.source = Destination.genericUsb.code ∧ m.opcode = Bsc203Opcodes.pzmotGetStatusupdate.code ∧
    ∃ data, m.reply.data = some data ∧ data.length = Packed.size MotorStatus ∧
      Packed.value data = status

/-- The last switch of the update messages has switched them off. -/
def SwitchedOff (dest : Destination) (log : List PortUse) : Prop :=
  ((transmissions log).filter fun bytes =>
    bytes = updatesOn dest ∨ bytes = updatesOff dest).getLast? = some (updatesOff dest)

/-- **The status has been received, or the call fails cleanly**: what is returned is the status of a
message that was received during the call, and the update messages are off. -/
structure Clean (incoming : List Arrival) (result : Except Fault (Option MotorStatus))
    (log : List PortUse) : Prop where
  received : ∀ returned, result = .ok returned → ∃ before m after status,
    incoming = before ++ .ok m :: after ∧ before.length < log.count .receive ∧
      HasStatus m status ∧ returned = some status
  switchedOff : SwitchedOff .genericUsb log

/-- The first message that is not read over has a status. -/
def StatusComes (incoming : List Arrival) : Prop :=
  ∃ skipped m rest status, incoming = skipped ++ .ok m :: rest ∧ (∀ a ∈ skipped, ReadOver a) ∧
    HasStatus m status

variable {σ : Type} {incoming rest : List Arrival} {a : Arrival} {op : UInt16} {rounds : ℕ}

private theorem statusComes_cons_of_readOver (ha : ReadOver a) :
    StatusComes (a :: rest) ↔ StatusComes rest := by
  constructor
  · rintro ⟨_ | ⟨_, skipped⟩, m, rest', status, heq, hskipped, hm⟩
    · obtain ⟨rfl, -⟩ := List.cons.inj heq
      exact absurd hm.2.1 (ha.resolve_left (not_not.mpr hm.1))
    · obtain ⟨-, rfl⟩ := List.cons.inj heq
      exact ⟨skipped, m, rest', status, rfl, fun a' ha' => hskipped a' (List.mem_cons_of_mem _ ha'),
        hm⟩
  · rintro ⟨skipped, m, rest', status, rfl, hskipped, hm⟩
    refine ⟨a :: skipped, m, rest', status, rfl, ?_, hm⟩
    rw [List.forall_mem_cons]
    exact ⟨ha, hskipped⟩

private theorem statusComes_cons_of_not_readOver (ha : ¬ ReadOver a) (rest : List Arrival) :
    StatusComes (a :: rest) ↔ ∃ m status, a = .ok m ∧ HasStatus m status := by
  constructor
  · rintro ⟨_ | ⟨_, skipped⟩, m, rest', status, heq, hskipped, hm⟩
    · obtain ⟨rfl, -⟩ := List.cons.inj heq
      exact ⟨m, status, rfl, hm⟩
    · obtain ⟨rfl, -⟩ := List.cons.inj heq
      exact absurd (hskipped _ List.mem_cons_self) ha
  · rintro ⟨m, status, rfl, hm⟩
    exact ⟨[], m, rest, status, rfl, by simp, hm⟩

/-- What the loop does with the port: it writes once it has a status, and not before. -/
structure Ends (incoming : List Arrival) (result : Except Fault (Option MotorStatus))
    (uses : List PortUse) : Prop where
  comes : StatusComes incoming → ∃ before m after status reads,
    incoming = before ++ .ok m :: after ∧ HasStatus m status ∧ result = .ok (some status) ∧
      uses = reads ++ [.write (updatesOff .genericUsb), .flush] ∧
      transmissions reads = [] ∧ before.length < reads.count .receive
  not_comes : ¬ StatusComes incoming → transmissions uses = []

/-- Without a status, nothing is written. -/
theorem Ends.of_not {result : Except Fault (Option MotorStatus)} {uses : List PortUse}
    (h : ¬ StatusComes incoming) (huses : transmissions uses = []) : Ends incoming result uses :=
  ⟨fun hcomes => absurd hcomes h, fun _ => huses⟩

/-- An arrival that is not read over ends the loop. -/
theorem exists_ends_of_not_readOver (ha : ¬ ReadOver a) (port : Port σ) (rest : List Arrival)
    (hop : op ≠ Bsc203Opcodes.pzmotGetStatusupdate.code) :
    ∃ result uses, Does (statusLoop (rounds + 2) op) (port.awaiting (a :: rest)) result uses ∧
      Ends (a :: rest) result uses := by
  have hcomes := statusComes_cons_of_not_readOver ha rest
  cases a with
  | error e =>
    -- an exception that is not caught
    refine ⟨.error (.thrown e), [.receive], ?_, .of_not (by simp [hcomes]) rfl⟩
    rw [Does, statusLoop, if_pos hop]
    cases e with
    | deviceError what => exact absurd ⟨what, rfl⟩ ha
    | _ => exact ⟨rfl, rfl⟩
  | ok m =>
    rw [ReadOver, not_or, not_not, not_not] at ha
    obtain ⟨hsource, hopcode⟩ := ha
    have hreceived : (receiveSync .genericUsb).attempt.on (port.awaiting (.ok m :: rest)) =
        (.ok (.ok (m.reply, m.opcode)), (port.noted [.receive]).awaiting rest) := by
      rw [Stateful.on_attempt, on_receiveSync_ok port hsource]
    rw [statusLoop, if_pos hop]
    simp only [Does, Stateful.on_bind_of_ok hreceived]
    rw [if_neg (not_not.mpr hopcode)]
    cases hdata : m.reply.data with
    | none =>
      -- the opcode ends the loop, though nothing has been copied
      refine ⟨.ok none, [.receive], ?_, .of_not ?_ rfl⟩
      · dsimp only
        rw [statusLoop, if_neg (not_not.mpr hopcode)]
        exact ⟨rfl, rfl⟩
      · rw [hcomes]
        rintro ⟨_, _, ⟨⟩, -, -, data, hsome, -⟩
        rw [hdata] at hsome
        cases hsome
    | some data =>
      by_cases hlength : data.length = Packed.size MotorStatus
      · refine ⟨.ok (some (Packed.value data)),
          [.receive] ++ [.write (updatesOff .genericUsb), .flush], ?_, ?_⟩
        · dsimp only
          rw [if_neg (not_not.mpr hlength), stopUpdateMessages, transmitMessage,
            Stateful.on_bind_of_ok (on_write _ _), Stateful.on_bind_of_ok (on_flush _)]
          exact ⟨rfl, by simp [Port.written, Port.noted, Port.awaiting, updatesOff]⟩
        · have hm : HasStatus m (Packed.value data) := ⟨hsource, hopcode, data, hdata, hlength, rfl⟩
          refine ⟨fun _ => ⟨[], m, rest, _, [.receive], rfl, hm, rfl, rfl, rfl, by simp⟩, ?_⟩
          exact fun hnot => absurd (hcomes.mpr ⟨m, _, rfl, hm⟩) hnot
      · refine ⟨.error (.thrown
            (.exception "mismatch between received data size and struct size!")),
          [.receive], ?_, .of_not ?_ rfl⟩
        · dsimp only
          rw [if_pos hlength]
          exact ⟨rfl, rfl⟩
        · rw [hcomes]
          rintro ⟨_, _, ⟨⟩, -, -, data', hsome, hlength', -⟩
          rw [hdata] at hsome
          obtain rfl := Option.some.inj hsome
          exact hlength hlength'

/-- The loop ends, after rounds for what is read over. -/
theorem exists_ends (port : Port σ) (hop : op ≠ Bsc203Opcodes.pzmotGetStatusupdate.code)
    (hrounds : incoming.length < rounds) :
    ∃ result uses, Does (statusLoop rounds op) (port.awaiting incoming) result uses ∧
      Ends incoming result uses := by
  obtain ⟨rounds, rfl⟩ := Nat.exists_eq_add_one_of_ne_zero (Nat.ne_zero_of_lt hrounds)
  induction incoming generalizing rounds op port with
  | nil =>
    refine ⟨.error (.thrown (.protocolError "serial port read timed out...")), [.receive], ?_,
      .of_not ?_ rfl⟩
    · rw [Does, statusLoop, if_pos hop]
      exact ⟨rfl, rfl⟩
    · rintro ⟨skipped, m, rest, status, hnil, -⟩
      simp at hnil
  | cons a rest ih =>
    obtain ⟨rounds, rfl⟩ := Nat.exists_eq_add_one_of_ne_zero
      (Nat.ne_zero_of_lt (Nat.lt_of_succ_lt_succ hrounds))
    by_cases ha : ReadOver a
    · obtain ⟨op', uses, hop', huses, hstep⟩ := ha.on_statusLoop port rest hop (rounds + 1)
      obtain ⟨result, uses', hdoes, hends⟩ :=
        ih (port.noted uses) hop' rounds (Nat.lt_of_succ_lt_succ hrounds)
      -- a message that is read over costs one round and writes nothing
      have hreads : transmissions uses = [] ∧ 0 < uses.count .receive := by
        rcases huses with rfl | rfl <;> exact ⟨rfl, by decide⟩
      refine ⟨result, uses ++ uses', ?_, ?_, fun hnot => ?_⟩
      · rw [Does, hstep]
        exact ⟨hdoes.1, hdoes.2.trans (List.append_assoc _ _ _)⟩
      · rw [statusComes_cons_of_readOver ha]
        intro hcomes
        obtain ⟨before, m, after, status, reads, rfl, hm, hresult, rfl, hnone, hlt⟩ :=
          hends.comes hcomes
        refine ⟨a :: before, m, after, status, uses ++ reads, rfl, hm, hresult,
          (List.append_assoc _ _ _).symm, ?_, ?_⟩
        · rw [transmissions_append, hreads.1, hnone, List.append_nil]
        · rw [List.length_cons, List.count_append]
          omega
      · rw [statusComes_cons_of_readOver ha] at hnot
        rw [transmissions_append, hreads.1, hends.not_comes hnot, List.append_nil]
    · exact exists_ends_of_not_readOver ha port rest hop

/-- **The status of a TIM101**: whatever is received, the call returns a status that has been
received, or fails, with update messages switched off, exactly if the first message that is not read
over has a status. -/
theorem getStatusUpdate_clean_iff (incoming : List Arrival) :
    Clean incoming (getStatusUpdate.on (Port.receiving incoming)).1
        (getStatusUpdate.on (Port.receiving incoming)).2.log ↔ StatusComes incoming := by
  have hzero : (0 : UInt16) ≠ Bsc203Opcodes.pzmotGetStatusupdate.code := by decide
  let port := (Port.receiving incoming).noted [.write (updatesOn .genericUsb), .flush]
  obtain ⟨result, uses, ⟨hresult, hlog⟩, hends⟩ :=
    exists_ends port hzero incoming.length.lt_succ_self
  have hstart : getStatusUpdate.on (Port.receiving incoming) =
      (statusLoop (incoming.length + 1) 0).on (port.awaiting incoming) := by
    rw [getStatusUpdate, startUpdateMessages, transmitMessage,
      Stateful.on_bind_of_ok (on_write _ _), Stateful.on_bind_of_ok (on_flush _),
      ← updatesOn, Port.written_receiving]
    rfl
  -- the last transmission is the one that switches off exactly if the loop has ended by a status
  have hswitched : SwitchedOff .genericUsb (port.log ++ uses) ↔ StatusComes incoming := by
    have hon : updatesOn .genericUsb ≠ updatesOff .genericUsb := by decide
    have hbefore : transmissions port.log = [updatesOn .genericUsb] := rfl
    rw [SwitchedOff, transmissions_append, hbefore]
    by_cases hcomes : StatusComes incoming
    · obtain ⟨-, -, -, -, reads, -, -, -, rfl, hreads, -⟩ := hends.comes hcomes
      rw [transmissions_append, hreads]
      exact iff_of_true (by simp [transmissions]) hcomes
    · rw [hends.not_comes hcomes]
      exact iff_of_false (by simp [hon]) hcomes
  rw [hstart, hresult, hlog]
  constructor
  · exact fun hclean => hswitched.mp hclean.switchedOff
  · intro hcomes
    refine ⟨fun returned hreturned => ?_, hswitched.mpr hcomes⟩
    obtain ⟨before, m, after, status, reads, heq, hm, hok, rfl, -, hlt⟩ := hends.comes hcomes
    rw [hok] at hreturned
    refine ⟨before, m, after, status, heq, ?_, hm, (Except.ok.inj hreturned).symm⟩
    rw [List.count_append, List.count_append]
    omega

/-- A status update without data. -/
def emptyStatus : Message :=
  ⟨Destination.genericUsb.code, Bsc203Opcodes.pzmotGetStatusupdate.code, 0, 0, none⟩

/-- A status is returned that nothing has been copied to. -/
theorem not_getStatusUpdate_clean : ¬ Clean [.ok emptyStatus]
    (getStatusUpdate.on (Port.receiving [.ok emptyStatus])).1
    (getStatusUpdate.on (Port.receiving [.ok emptyStatus])).2.log := by
  have hnot : ¬ ReadOver (.ok emptyStatus) := by
    rintro (h | h) <;> exact h rfl
  rw [getStatusUpdate_clean_iff, statusComes_cons_of_not_readOver hnot]
  rintro ⟨_, _, ⟨⟩, -, -, data, hdata, -⟩
  cases hdata

end Tim101

end Apt

end Foxtrot
