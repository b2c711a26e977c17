import Foxtrot.Apt.Device

/-!
# Replies of APT controllers

A request is answered by the message with the identifier that is expected. A controller may send a
motor status on its own in between; one of those before the reply is discarded. Which messages are
motor statuses depends on the device: its traits list them. `receive_message_sync_check` does not
ask the traits, but a list of its own, so the replies are matched to the requests exactly where both
lists agree on the message in front of the reply (`replies_matched_iff`).

`receiveMessageSyncCheck_cases` says what the function does by **its own** list, and `matched_iff`
compares two lists: as long as they agree on the message in front of the one that delivers, what
answers by one of them answers by the other. A message that does not deliver, because it has another
identifier or its data are not a structure of that size, makes the call throw in either case.
-/

namespace Foxtrot

namespace Apt

/-- `motor_status_messages`, the constant of `APT.cpp`. -/
def motorStatusMessages : List Bsc203Opcodes :=
  [.motMoveCompleted, .motMoveHomed, .motMoveStopped, .motGetStatusupdate]

section Functions

variable {σ : Type}

/-- `receive_message_sync_check`, up to what is done about another identifier. -/
def receiveExpecting (expectedOpcode : Bsc203Opcodes) (expectedSource : Destination)
    (otherwise : UInt16 → AptM σ AptReply) : AptM σ AptReply := do
  let (out, recvdOpcode) ← receiveSync expectedSource
  if recvdOpcode ≠ expectedOpcode.code then
    otherwise recvdOpcode
  else
    return out

/-- The error of a message with another identifier. -/
def unexpectedOpcode {A : Type} : AptM σ A :=
  throwing (.deviceError "unexpected opcode received in message!")

/-- `receive_message_sync_check`. It calls itself without `discard_motor_status`. -/
def receiveMessageSyncCheck (expectedOpcode : Bsc203Opcodes) (expectedSource : Destination)
    (discardMotorStatus : Bool) : AptM σ AptReply :=
  receiveExpecting expectedOpcode expectedSource fun recvdOpcode =>
    if discardMotorStatus ∧ recvdOpcode ∈ motorStatusMessages.map Bsc203Opcodes.code then
      receiveExpecting expectedOpcode expectedSource fun _ => unexpectedOpcode
    else
      unexpectedOpcode

/-- `_response_struct_common`. -/
def responseStructCommon (T : Type) [Packed T] (opcodeRecv : Bsc203Opcodes) (dest : Destination)
    (expdSrc : Option Destination) : AptM σ T := do
  let ret ← receiveMessageSyncCheck opcodeRecv (expdSrc.getD dest) true
  match ret.data with
  | none => throwing (.deviceError "expected struct data in response but didn't get any!")
  | some data =>
    if data.length ≠ Packed.size T then
      throwing (.exception "mismatch between received data size and struct size!")
    else
      return Packed.value data

/-- `request_response_struct` with the parameters of a header. -/
def requestResponseStruct (T : Type) [Packed T] (opcodeSend opcodeRecv : Bsc203Opcodes)
    (dest : Destination) (p1 p2 : UInt8) (expdSrc : Option Destination) : AptM σ T := do
  transmitMessage opcodeSend p1 p2 dest
  responseStructCommon T opcodeRecv dest expdSrc

/-- `request_response_struct` with data. -/
def requestResponseStructData (T : Type) [Packed T] (opcodeSend opcodeRecv : Bsc203Opcodes)
    (dest : Destination) (data : List UInt8) (expdSrc : Option Destination) : AptM σ T := do
  transmitMessageData opcodeSend data dest
  responseStructCommon T opcodeRecv dest expdSrc

end Functions

/-! ### Which message answers a request -/

/-- The message is the one that is expected. -/
def Message.Expected (m : Message) (expectedOpcode : Bsc203Opcodes) (expectedSource : Destination) :
    Prop :=
  m.source = expectedSource.code ∧ m.opcode = expectedOpcode.code

/-- The message answers the request: it is expected, and the first one, or the first one after a
message that is discarded. -/
inductive Answers (discarded : List Bsc203Opcodes) (expectedOpcode : Bsc203Opcodes)
    (expectedSource : Destination) : List Arrival → Message → Prop
  | first {m : Message} (rest : List Arrival) (h : m.Expected expectedOpcode expectedSource) :
    Answers discarded expectedOpcode expectedSource (.ok m :: rest) m
  | second {status m : Message} (rest : List Arrival)
      (hsource : status.source = expectedSource.code)
      (hopcode : status.opcode ≠ expectedOpcode.code)
      (hdiscarded : status.opcode ∈ discarded.map Bsc203Opcodes.code)
      (h : m.Expected expectedOpcode expectedSource) :
    Answers discarded expectedOpcode expectedSource (.ok status :: .ok m :: rest) m

/-- **A reply is matched to its request**: what is returned is what the message that answers the
request delivers, and if there is no such message the call throws. -/
structure Matched {A : Type} (discarded : List Bsc203Opcodes) (expectedOpcode : Bsc203Opcodes)
    (expectedSource : Destination) (incoming : List Arrival) (delivers : Message → A → Prop)
    (result : Except Fault A) : Prop where
  returns : ∀ a, result = .ok a ↔
    ∃ m, Answers discarded expectedOpcode expectedSource incoming m ∧ delivers m a
  throws : (∃ a, result = .ok a) ∨ ∃ e, result = .error (.thrown e)

/-- The payload of the message, as a structure of exactly its size. -/
def DeliversStruct (T : Type) [Packed T] (m : Message) (t : T) : Prop :=
  ∃ data, m.reply.data = some data ∧ data.length = Packed.size T ∧ Packed.value data = t

/-- The constant and the traits agree on a message in front of the expected one, which delivers. -/
def StatusesAgree {A : Type} (traits : AptDeviceTraits) (expectedOpcode : Bsc203Opcodes)
    (expectedSource : Destination) (incoming : List Arrival) (delivers : Message → A → Prop) :
    Prop :=
  ∀ status m rest, incoming = .ok status :: .ok m :: rest →
    status.source = expectedSource.code → status.opcode ≠ expectedOpcode.code →
    m.Expected expectedOpcode expectedSource → (∃ a, delivers m a) →
    (status.opcode ∈ motorStatusMessages.map Bsc203Opcodes.code ↔
      status.opcode ∈ traits.motorStatusMessages.map Bsc203Opcodes.code)

section Receiving

variable {σ A : Type} (port : Port σ) {expectedOpcode : Bsc203Opcodes}
  {expectedSource : Destination} {m : Message} {rest incoming : List Arrival}
  {otherwise : UInt16 → AptM σ AptReply}

private theorem on_receiveExpecting_ok (h : m.Expected expectedOpcode expectedSource) :
    (receiveExpecting expectedOpcode expectedSource otherwise).on
        (port.awaiting (.ok m :: rest)) =
      (.ok m.reply, (port.noted [.receive]).awaiting rest) := by
  rw [receiveExpecting, Stateful.on_bind_of_ok (on_receiveSync_ok port h.1)]
  dsimp only
  rw [if_neg (not_not.mpr h.2)]
  rfl

/-- The expected message is received if it is the next one. -/
theorem on_receiveMessageSyncCheck {discardMotorStatus : Bool}
    (hm : m.Expected expectedOpcode expectedSource) (hincoming : port.incoming = .ok m :: rest) :
    (receiveMessageSyncCheck expectedOpcode expectedSource discardMotorStatus).on port =
      (.ok m.reply, (port.noted [.receive]).awaiting rest) := by
  have hport : port = port.awaiting (.ok m :: rest) := by
    rw [← hincoming]
    rfl
  rw [hport]
  exact on_receiveExpecting_ok _ hm

/-- A request that is answered with the bytes of a structure returns it. -/
theorem on_requestResponseStruct {T : Type} [Packed T] {t : T} {opcodeSend : Bsc203Opcodes}
    {p1 p2 : UInt8} (hm : m.Expected expectedOpcode expectedSource)
    (hdata : m.reply.data = some (Packed.bytes t))
    (hincoming : (port.written (transmitHeader opcodeSend p1 p2 expectedSource .host)).incoming =
      .ok m :: rest) :
    (requestResponseStruct T opcodeSend expectedOpcode expectedSource p1 p2 none).on port =
      (.ok t, ((port.written (transmitHeader opcodeSend p1 p2 expectedSource .host)).noted
        [.receive]).awaiting rest) := by
  have hlength : (Packed.bytes t).length = Packed.size T := Packed.length_bytes t
  rw [requestResponseStruct, transmitMessage, Stateful.on_bind_of_ok (on_write port _),
    responseStructCommon, Option.getD_none,
    Stateful.on_bind_of_ok (on_receiveMessageSyncCheck _ hm hincoming), hdata]
  simp only [hlength, ne_eq, not_true_eq_false, if_false, Packed.value_bytes]
  rfl

/-- A message with another opcode is left to the caller. -/
private theorem on_receiveExpecting_otherwise (hsource : m.source = expectedSource.code)
    (hopcode : m.opcode ≠ expectedOpcode.code) :
    (receiveExpecting expectedOpcode expectedSource otherwise).on
        (port.awaiting (.ok m :: rest)) =
      (otherwise m.opcode).on ((port.noted [.receive]).awaiting rest) := by
  rw [receiveExpecting, Stateful.on_bind_of_ok (on_receiveSync_ok port hsource)]
  dsimp only
  rw [if_pos hopcode]

/-- Without discarding, the first message has to be the expected one. -/
theorem receiveStrictly_cases (port : Port σ) (expectedOpcode : Bsc203Opcodes)
    (expectedSource : Destination) (incoming : List Arrival) :
    (∃ m rest, incoming = .ok m :: rest ∧ m.Expected expectedOpcode expectedSource ∧
      ((receiveExpecting expectedOpcode expectedSource fun _ => unexpectedOpcode).on
        (port.awaiting incoming)).1 = .ok m.reply) ∨
    ((∀ m rest, incoming = .ok m :: rest → ¬ m.Expected expectedOpcode expectedSource) ∧
      ∃ e, ((receiveExpecting expectedOpcode expectedSource fun _ => unexpectedOpcode).on
        (port.awaiting incoming)).1 = .error (.thrown e)) := by
  obtain ⟨m, rest, rfl, hsource, -⟩ | ⟨hnone, e, uses, rest, -, hon⟩ :=
    receiveSync_cases port expectedSource incoming
  · by_cases hopcode : m.opcode = expectedOpcode.code
    · have hm : m.Expected expectedOpcode expectedSource := ⟨hsource, hopcode⟩
      exact .inl ⟨m, rest, rfl, hm, congrArg Prod.fst (on_receiveExpecting_ok port hm)⟩
    · refine .inr ⟨?_, .deviceError "unexpected opcode received in message!", ?_⟩
      · rintro _ _ ⟨⟩ hm
        exact hopcode hm.2
      · rw [on_receiveExpecting_otherwise port hsource hopcode]
        rfl
  · refine .inr ⟨fun m rest hincoming hm => hnone m rest hincoming hm.1, e, ?_⟩
    rw [receiveExpecting, Stateful.on_bind_of_error hon]

/-- `receive_message_sync_check` delivers the message that answers, by its own list, or throws. -/
theorem receiveMessageSyncCheck_cases (port : Port σ) (expectedOpcode : Bsc203Opcodes)
    (expectedSource : Destination) (incoming : List Arrival) :
    (∃ m, Answers motorStatusMessages expectedOpcode expectedSource incoming m ∧
      ((receiveMessageSyncCheck expectedOpcode expectedSource true).on
        (port.awaiting incoming)).1 = .ok m.reply) ∨
    ((∀ m, ¬ Answers motorStatusMessages expectedOpcode expectedSource incoming m) ∧
      ∃ e, ((receiveMessageSyncCheck expectedOpcode expectedSource true).on
        (port.awaiting incoming)).1 = .error (.thrown e)) := by
  obtain ⟨m, rest, rfl, hsource, -⟩ | ⟨hnone, e, uses, rest, -, hon⟩ :=
    receiveSync_cases port expectedSource incoming
  · by_cases hopcode : m.opcode = expectedOpcode.code
    · have hm : m.Expected expectedOpcode expectedSource := ⟨hsource, hopcode⟩
      exact .inl ⟨m, .first rest hm, congrArg Prod.fst (on_receiveExpecting_ok port hm)⟩
    · rw [receiveMessageSyncCheck, on_receiveExpecting_otherwise port hsource hopcode]
      by_cases hdiscarded : m.opcode ∈ motorStatusMessages.map Bsc203Opcodes.code
      · rw [if_pos ⟨rfl, hdiscarded⟩]
        obtain ⟨m', rest', rfl, hm', hon⟩ | ⟨hnone, hon⟩ :=
          receiveStrictly_cases (port.noted [.receive]) expectedOpcode expectedSource rest
        · exact .inl ⟨m', .second rest' hsource hopcode hdiscarded hm', hon⟩
        · refine .inr ⟨?_, hon⟩
          rintro m' (⟨rest', hm'⟩ | ⟨rest', -, -, -, hm'⟩)
          · exact hopcode hm'.2
          · exact hnone m' rest' rfl hm'
      · rw [if_neg fun h => hdiscarded h.2]
        refine .inr ⟨?_, .deviceError "unexpected opcode received in message!", rfl⟩
        rintro m' (⟨rest', hm'⟩ | ⟨rest', -, -, h, -⟩)
        · exact hopcode hm'.2
        · exact hdiscarded h
  · refine .inr ⟨?_, e, ?_⟩
    · rintro m (⟨rest, hm⟩ | ⟨rest, hsource, -, -, -⟩)
      · exact hnone m rest rfl hm.1
      · exact hnone _ _ rfl hsource
    · rw [receiveMessageSyncCheck, receiveExpecting, Stateful.on_bind_of_error hon]

/-! ### The replies that are returned -/

/-- There is one answer at most. -/
theorem Answers.unique {discarded : List Bsc203Opcodes} {m' : Message}
    (h : Answers discarded expectedOpcode expectedSource incoming m)
    (h' : Answers discarded expectedOpcode expectedSource incoming m') : m = m' := by
  cases h with
  | first rest hm =>
    cases h' with
    | first => rfl
    | second rest' hsource hopcode hdiscarded hm' => exact absurd hm.2 hopcode
  | second rest hsource hopcode hdiscarded hm =>
    cases h' with
    | first rest' hm' => exact absurd hm'.2 hopcode
    | second => rfl

/-- A computation that delivers the message that answers, or throws, has its reply matched. -/
theorem matched_of_cases {discarded : List Bsc203Opcodes} {delivers : Message → A → Prop}
    {result : Except Fault A} (hunique : ∀ m a a', delivers m a → delivers m a' → a = a')
    (h : (∃ m a, Answers discarded expectedOpcode expectedSource incoming m ∧ delivers m a ∧
        result = .ok a) ∨
      ((∀ m a, Answers discarded expectedOpcode expectedSource incoming m → ¬ delivers m a) ∧
        ∃ e, result = .error (.thrown e))) :
    Matched discarded expectedOpcode expectedSource incoming delivers result := by
  obtain ⟨m, a, hm, ha, rfl⟩ | ⟨hnone, e, rfl⟩ := h
  · refine ⟨fun a' => ⟨fun heq => ⟨m, hm, ?_⟩, ?_⟩, .inl ⟨a, rfl⟩⟩
    · rwa [← Except.ok.inj heq]
    · rintro ⟨m', hm', ha'⟩
      rw [← hm.unique hm'] at ha'
      rw [hunique m a a' ha ha']
  · refine ⟨fun a' => ⟨fun heq => (nomatch heq), ?_⟩, .inr ⟨e, rfl⟩⟩
    rintro ⟨m, hm, ha⟩
    exact absurd ha (hnone m a' hm)

private theorem matched_receiveMessageSyncCheck :
    Matched motorStatusMessages expectedOpcode expectedSource incoming (fun m a => m.reply = a)
      ((receiveMessageSyncCheck expectedOpcode expectedSource true).on
        (port.awaiting incoming)).1 := by
  refine matched_of_cases (fun m a a' ha ha' => ha.symm.trans ha') ?_
  obtain ⟨m, hm, hon⟩ | ⟨hnone, hthrows⟩ :=
    receiveMessageSyncCheck_cases port expectedOpcode expectedSource incoming
  · exact .inl ⟨m, m.reply, hm, rfl, hon⟩
  · exact .inr ⟨fun m _ hm => absurd hm (hnone m), hthrows⟩

private theorem matched_responseStructCommon (T : Type) [Packed T] (dest : Destination)
    (expdSrc : Option Destination) :
    Matched motorStatusMessages expectedOpcode (expdSrc.getD dest) incoming (DeliversStruct T)
      ((responseStructCommon T expectedOpcode dest expdSrc).on (port.awaiting incoming)).1 := by
  refine matched_of_cases ?_ ?_
  · rintro m a a' ⟨data, hdata, -, rfl⟩ ⟨data', hdata', -, rfl⟩
    rw [hdata] at hdata'
    rw [Option.some.inj hdata']
  · obtain ⟨m, hm, hon⟩ | ⟨hnone, e, hthrows⟩ :=
      receiveMessageSyncCheck_cases port expectedOpcode (expdSrc.getD dest) incoming
    · rw [responseStructCommon, Stateful.on_bind_of_ok (Prod.ext hon rfl)]
      cases hdata : m.reply.data with
      | none =>
        refine .inr ⟨?_, .deviceError "expected struct data in response but didn't get any!", rfl⟩
        rintro m' a hm' ⟨data, hdata', -⟩
        rw [← hm.unique hm', hdata] at hdata'
        cases hdata'
      | some data =>
        dsimp only
        by_cases hlength : data.length = Packed.size T
        · rw [if_neg (not_not.mpr hlength)]
          exact .inl ⟨m, Packed.value data, hm, ⟨data, hdata, hlength, rfl⟩, rfl⟩
        · rw [if_pos hlength]
          refine .inr ⟨?_, .exception "mismatch between received data size and struct size!", rfl⟩
          rintro m' a hm' ⟨data', hdata', hlength', -⟩
          rw [← hm.unique hm', hdata] at hdata'
          rw [Option.some.inj hdata'] at hlength
          exact hlength hlength'
    · rw [responseStructCommon, Stateful.on_bind_of_error (Prod.ext hthrows rfl)]
      exact .inr ⟨fun m _ hm => absurd hm (hnone m), e, rfl⟩

/-- If the same is matched by two lists, then a message in front of one that delivers is on the
second if it is on the first. -/
theorem Matched.mem_of_mem {discarded discarded' : List Bsc203Opcodes}
    {delivers : Message → A → Prop} {result : Except Fault A} {status : Message} {a : A}
    (h : Matched discarded expectedOpcode expectedSource (.ok status :: .ok m :: rest) delivers
      result)
    (h' : Matched discarded' expectedOpcode expectedSource (.ok status :: .ok m :: rest) delivers
      result)
    (hsource : status.source = expectedSource.code) (hopcode : status.opcode ≠ expectedOpcode.code)
    (hm : m.Expected expectedOpcode expectedSource) (ha : delivers m a)
    (hmem : status.opcode ∈ discarded.map Bsc203Opcodes.code) :
    status.opcode ∈ discarded'.map Bsc203Opcodes.code := by
  have hok := (h.returns a).mpr ⟨m, .second rest hsource hopcode hmem hm, ha⟩
  obtain ⟨m', ⟨_, hm'⟩ | ⟨_, -, -, hmem', -⟩, -⟩ := (h'.returns a).mp hok
  · exact absurd hm'.2 hopcode
  · exact hmem'

/-- A message that answers and delivers by one list does so by another one, if the messages in front
of it on the first are on the second. -/
theorem Answers.of_mem {discarded discarded' : List Bsc203Opcodes}
    (h : Answers discarded expectedOpcode expectedSource incoming m)
    (hmem : ∀ status rest, incoming = .ok status :: .ok m :: rest →
      status.source = expectedSource.code → status.opcode ≠ expectedOpcode.code →
      m.Expected expectedOpcode expectedSource →
      status.opcode ∈ discarded.map Bsc203Opcodes.code →
      status.opcode ∈ discarded'.map Bsc203Opcodes.code) :
    Answers discarded' expectedOpcode expectedSource incoming m := by
  cases h with
  | first rest hm => exact .first rest hm
  | second rest hsource hopcode hdiscarded hm =>
    exact .second rest hsource hopcode (hmem _ rest rfl hsource hopcode hm hdiscarded) hm

/-- What is matched by the constant is matched by the traits exactly if they agree on a message in
front of the expected one. -/
theorem matched_iff {traits : AptDeviceTraits} {delivers : Message → A → Prop}
    {result : Except Fault A}
    (h : Matched motorStatusMessages expectedOpcode expectedSource incoming delivers result) :
    Matched traits.motorStatusMessages expectedOpcode expectedSource incoming delivers result ↔
      StatusesAgree traits expectedOpcode expectedSource incoming delivers := by
  constructor
  · rintro htraits status m rest rfl hsource hopcode hm ⟨a, ha⟩
    exact ⟨h.mem_of_mem htraits hsource hopcode hm ha, htraits.mem_of_mem h hsource hopcode hm ha⟩
  · intro hagree
    refine ⟨fun a => (h.returns a).trans (exists_congr fun m => and_congr_left fun ha => ?_),
      h.throws⟩
    constructor
    · exact fun hanswers => hanswers.of_mem fun status rest hincoming hsource hopcode hm =>
        (hagree status m rest hincoming hsource hopcode hm ⟨a, ha⟩).mp
    · exact fun hanswers => hanswers.of_mem fun status rest hincoming hsource hopcode hm =>
        (hagree status m rest hincoming hsource hopcode hm ⟨a, ha⟩).mpr

end Receiving

/-- **Replies are matched to requests**: whatever a device's traits are and whatever is received,
the replies of all kinds of requests are matched exactly where the constant and the traits agree. -/
theorem replies_matched_iff (traits : AptDeviceTraits) (opcodeSend opcodeRecv : Bsc203Opcodes)
    (dest : Destination) (expdSrc : Option Destination) (p1 p2 : UInt8) (data : List UInt8)
    (incoming : List Arrival) (T : Type) [Packed T] :
    (Matched traits.motorStatusMessages opcodeRecv dest incoming (fun m a => m.reply = a)
        ((receiveMessageSyncCheck opcodeRecv dest true).on (Port.receiving incoming)).1 ↔
      StatusesAgree traits opcodeRecv dest incoming fun m a => m.reply = a) ∧
    (Matched traits.motorStatusMessages opcodeRecv (expdSrc.getD dest) incoming (DeliversStruct T)
        ((requestResponseStruct T opcodeSend opcodeRecv dest p1 p2 expdSrc).on
          (Port.receiving incoming)).1 ↔
      StatusesAgree traits opcodeRecv (expdSrc.getD dest) incoming (DeliversStruct T)) ∧
    (Matched traits.motorStatusMessages opcodeRecv (expdSrc.getD dest) incoming (DeliversStruct T)
        ((requestResponseStructData T opcodeSend opcodeRecv dest data expdSrc).on
          (Port.receiving incoming)).1 ↔
      StatusesAgree traits opcodeRecv (expdSrc.getD dest) incoming (DeliversStruct T)) := by
  have hstruct : ∀ bytes, Matched traits.motorStatusMessages opcodeRecv (expdSrc.getD dest) incoming
        (DeliversStruct T) ((responseStructCommon T opcodeRecv dest expdSrc).on
          ((Port.receiving incoming).written bytes)).1 ↔
      StatusesAgree traits opcodeRecv (expdSrc.getD dest) incoming (DeliversStruct T) := by
    intro bytes
    rw [Port.written_receiving]
    exact matched_iff (matched_responseStructCommon
      ((Port.receiving incoming).noted [.write bytes]) T dest expdSrc)
  exact ⟨matched_iff (matched_receiveMessageSyncCheck (Port.receiving incoming)), hstruct _,
    hstruct _⟩

/-- A status update of an M30X, and the state of its channel. -/
def statusThenEnabled : List Arrival :=
  [.ok ⟨Destination.genericUsb.code, 0x0491, ⟨14, 0, some (List.replicate 14 0)⟩⟩,
    .ok ⟨Destination.genericUsb.code, 0x0212, ⟨0x01, 0x01, none⟩⟩]

/-- The reply behind a status update of an M30X is lost. -/
theorem not_replies_matched :
    ¬ Matched m30xTraits.motorStatusMessages .modGetChanenablestate .genericUsb statusThenEnabled
      (fun m a => m.reply = a)
      ((receiveMessageSyncCheck .modGetChanenablestate .genericUsb true).on
        (Port.receiving statusThenEnabled)).1 := by
  intro h
  have hok := (h.returns ⟨0x01, 0x01, none⟩).mpr
    ⟨⟨Destination.genericUsb.code, 0x0212, ⟨0x01, 0x01, none⟩⟩,
      .second [] rfl (by decide) (by decide) ⟨rfl, rfl⟩, rfl⟩
  revert hok
  decide +kernel

end Apt

end Foxtrot
