import Foxtrot.Foundation.TransitionSystem
import Foxtrot.Server.Handler

/-!
# Reads of a serial port with a timeout

`SerialPort::read_definite`, `read_until_endl_asio_impl` and `read_all`
(`protocols/src/SerialPort.cpp`) start an asynchronous read and run the `io_service` that they share
until no work is left, or the time is over. If it is over first, two of them cancel what is
outstanding, and let the handlers of that run, before they throw. `read_all` does not: its read
stays outstanding, with references to variables that are gone, and takes bytes from the calls that
follow. So in a run of calls every byte is accounted for exactly if no `read_all` runs out of time
(`serialReads_accounts_iff`).

Bytes arrive at any time. The `io_service` hands them to the outstanding reads, and runs their
handlers, only while a call runs it.

The drivers that read lines do so one call after the other. What such a call returns is
`SerialPort.readUntilEndl`, of the bytes that arrive while it waits: up to the line end and so many
behind it as have come along (`gives_readUntilEndl_iff`).
-/

namespace Foxtrot

/-- The functions, with what they are asked for. -/
inductive SerialRead where
  | readDefinite (len : ℕ)
  | readUntilEndlAsioImpl (endlchar : UInt8)
  | readAll (readAtLeast : ℕ)
  deriving DecidableEq

namespace SerialRead

/-- Whether the asynchronous read is complete with these bytes. -/
def Complete : SerialRead → List UInt8 → Prop
  | readDefinite len, got => len ≤ got.length
  | readUntilEndlAsioImpl endlchar, got => endlchar ∈ got
  | readAll readAtLeast, got => readAtLeast ≤ got.length

instance : ∀ (read : SerialRead) (got : List UInt8), Decidable (read.Complete got)
  | readDefinite len, got => inferInstanceAs (Decidable (len ≤ got.length))
  | readUntilEndlAsioImpl endlchar, got => inferInstanceAs (Decidable (endlchar ∈ got))
  | readAll readAtLeast, got => inferInstanceAs (Decidable (readAtLeast ≤ got.length))

/-- Whether the buffer has room for these bytes. -/
def Within : SerialRead → List UInt8 → Prop
  | readDefinite len, got => got.length ≤ len
  | _, _ => True

instance : ∀ (read : SerialRead) (got : List UInt8), Decidable (read.Within got)
  | readDefinite len, got => inferInstanceAs (Decidable (got.length ≤ len))
  | readUntilEndlAsioImpl _, _ | readAll _, _ => inferInstanceAs (Decidable True)

end SerialRead

/-- An outstanding asynchronous read. -/
structure AsyncRead where
  /-- The number of the call that has started it. -/
  caller : ℕ
  read : SerialRead
  /-- What has been transferred. -/
  got : List UInt8

/-- What a handler is called with: the bytes that have been transferred, and the error. -/
structure Completion where
  got : List UInt8
  ec : Option String

/-- A call that runs the `io_service`. -/
structure RunningRead where
  read : SerialRead
  /-- What had been taken from the port when the call began. -/
  before : List UInt8
  /-- What its handler has been called with. -/
  done : Option Completion

/-- A call that has returned or thrown. -/
structure EndedRead where
  read : SerialRead
  before : List UInt8
  /-- What had been taken from the port when it ended. -/
  after : List UInt8
  result : Except Thrown (List UInt8)
  /-- Whether its asynchronous read was outstanding still. -/
  outstanding : Bool

/-- What a call comes to when it runs the `io_service` no longer. `strbuf` is what its buffer
holds. -/
def SerialRead.result (strbuf : List UInt8) : SerialRead → Option Completion →
    Except Thrown (List UInt8)
  | readDefinite _, none | readUntilEndlAsioImpl _, none =>
    .error (.protocolError "serial port read timed out...")
  | readDefinite len, some done =>
    if done.got.length ≠ len then
      .error (.exception
        "actlen bytes transferred not equal to requested bytes transferred, should never happen!")
    else
      match done.ec with
      | some what => .error (.protocolError ("error reading from serial port: " ++ what))
      | none => .ok strbuf
  | readUntilEndlAsioImpl _, some done =>
    match done.ec with
    | some what => .error (.protocolError ("error reading from serial port: " ++ what))
    | none => .ok strbuf
  | readAll readAtLeast, done =>
    if (done.elim 0 fun done => done.got.length) < readAtLeast then
      .error (.protocolError "failed to transfer required bytes in time allowed")
    else
      .ok strbuf

/-- Whether a call that runs out of time cancels what is outstanding. -/
def SerialRead.cancels : SerialRead → Bool
  | readDefinite _ | readUntilEndlAsioImpl _ => true
  | readAll _ => false

/-- The port, its `io_service`, and the calls so far. -/
structure SerialState where
  arrived : List UInt8
  /-- What has arrived and has not been taken from the port. -/
  incoming : List UInt8
  consumed : List UInt8
  reads : List AsyncRead
  stopped : Bool
  running : Option RunningRead
  ended : List EndedRead
  /-- The number of handlers that have run after the end of their call. -/
  strays : ℕ

namespace SerialState

/-- Nothing has arrived, and nothing been read. -/
def new : SerialState where
  arrived := []
  incoming := []
  consumed := []
  reads := []
  stopped := false
  running := none
  ended := []
  strays := 0

/-- The number of the next call, or of the one that runs. -/
def caller (s : SerialState) : ℕ := s.ended.length

/-- The call that runs the `io_service`, unless that is stopped. -/
def runner (s : SerialState) : Option RunningRead := if s.stopped then none else s.running

/-- A call begins: a stopped `io_service` is restarted, and the asynchronous read is started. -/
def begin (s : SerialState) (read : SerialRead) : SerialState :=
  { s with
    stopped := false
    reads := s.reads ++ [⟨s.caller, read, []⟩]
    running := some ⟨read, s.consumed, none⟩ }

/-- Some of what has arrived is transferred to a read. -/
def transfer (s : SerialState) (i : ℕ) (op : AsyncRead) (len : ℕ) : SerialState :=
  { s with
    incoming := s.incoming.drop len
    consumed := s.consumed ++ s.incoming.take len
    reads := s.reads.set i { op with got := op.got ++ s.incoming.take len } }

/-- The handler of a read runs. -/
def handle (s : SerialState) (c : RunningRead) (i : ℕ) (op : AsyncRead) (ec : Option String) :
    SerialState :=
  if op.caller = s.caller then
    { s with reads := s.reads.eraseIdx i, running := some { c with done := some ⟨op.got, ec⟩ } }
  else
    { s with reads := s.reads.eraseIdx i, strays := s.strays + 1 }

/-- What the buffer of the call holds that runs. -/
def strbuf (s : SerialState) (c : RunningRead) : List UInt8 :=
  match c.done with
  | some done => done.got
  | none => ((s.reads.find? fun op => op.caller = s.caller).map AsyncRead.got).getD []

/-- The call ends. If its handler has not run, it may cancel what is outstanding, whereupon all the
handlers run. -/
def finish (s : SerialState) (c : RunningRead) : SerialState :=
  let cancelled := c.done.isNone && c.read.cancels
  let reads := if cancelled then [] else s.reads
  { s with
    reads
    stopped := reads.isEmpty
    running := none
    ended := s.ended ++ [{
      read := c.read
      before := c.before
      after := s.consumed
      result := c.read.result (s.strbuf c) c.done
      outstanding := reads.any fun op => op.caller = s.caller }]
    strays := s.strays +
      if cancelled then s.reads.countP fun op => op.caller ≠ s.caller else 0 }

end SerialState

/-- What happens at the port. -/
inductive SerialEvent where
  | arrive (bytes : List UInt8)
  | call (read : SerialRead)
  /-- So many bytes are transferred to an outstanding read. -/
  | transfer (i len : ℕ)
  /-- The handler of a complete read runs. -/
  | complete (i : ℕ)
  /-- The handler of another one runs, with an error. -/
  | fail (i : ℕ) (what : String)
  /-- No work is left to the `io_service`, or it is stopped. -/
  | idle
  /-- The time of the call is over. -/
  | deadline
  deriving DecidableEq

/-- The port, with calls one after the other. -/
def serialReads : TransitionSystem SerialState SerialEvent where
  init := .new
  step s
    | .arrive bytes =>
      some { s with arrived := s.arrived ++ bytes, incoming := s.incoming ++ bytes }
    | .call read => if s.running.isNone then some (s.begin read) else none
    | .transfer i len => do
      let _ ← s.runner
      let op ← s.reads[i]?
      if ¬ op.read.Complete op.got ∧ 0 < len ∧ len ≤ s.incoming.length ∧
          op.read.Within (op.got ++ s.incoming.take len) then
        some (s.transfer i op len)
      else
        none
    | .complete i => do
      let c ← s.runner
      let op ← s.reads[i]?
      if op.read.Complete op.got then some (s.handle c i op none) else none
    | .fail i what => do
      let c ← s.runner
      let op ← s.reads[i]?
      if op.read.Complete op.got then none else some (s.handle c i op (some what))
    -- `run_for` returns when there is no work left or the service is stopped
    | .idle => do
      let c ← s.running
      if s.reads.isEmpty ∨ s.stopped then some (s.finish c) else none
    | .deadline => s.running.map s.finish

/-! ### Accounts -/

/-- What is returned is what has been asked for. -/
def SerialRead.Gives : SerialRead → List UInt8 → Prop
  | readDefinite len, bytes => bytes.length = len
  | readUntilEndlAsioImpl endlchar, bytes => endlchar ∈ bytes
  | readAll readAtLeast, bytes => readAtLeast ≤ bytes.length

/-- **A call accounts for its bytes**: what it returns is what has been asked for, and follows what
had been taken from the port before, and its read is not outstanding any more. -/
structure EndedRead.Accounts (c : EndedRead) : Prop where
  follows : ∀ bytes, c.result = .ok bytes → c.after = c.before ++ bytes ∧ c.read.Gives bytes
  settled : c.outstanding = false

/-- **Every byte is accounted for**: bytes are taken from the port in the order in which they have
arrived, all calls account for theirs, and no handler has run after the end of its call. -/
structure SerialState.Accounts (s : SerialState) : Prop where
  order : s.consumed ++ s.incoming = s.arrived
  calls : ∀ c ∈ s.ended, c.Accounts
  handlers : s.strays = 0

/-- The step is not the end of the time of a `read_all` whose handler has not run. -/
def InTime (s : SerialState) (event : SerialEvent) : Prop :=
  event = .deadline → ∀ c, s.running = some c → c.done = none → c.read.cancels

/-! ### Reading a line -/

namespace SerialPort

variable {α : Type} [DecidableEq α] {endlchar : α}

/-- `SerialPort::read_until_endl` with a timeout, where this arrives while it waits: what it
returns, and what is left in the port. It returns with the line end, and with as much of what is
behind that as has come in the same transfer (`behind`). Without a line end the time runs out, and
what has arrived is lost. -/
def readUntilEndl (endlchar : α) (behind : ℕ) (incoming : List α) : Option (List α) × List α :=
  let len := incoming.idxOf endlchar + 1 + behind
  if endlchar ∈ incoming then (some (incoming.take len), incoming.drop len) else (none, [])

/-- The line is read, with so many characters behind it. -/
theorem readUntilEndl_append {xs : List α} (h : endlchar ∉ xs) (behind : ℕ) (ys : List α) :
    readUntilEndl endlchar behind (xs ++ endlchar :: ys) =
      (some (xs ++ endlchar :: ys.take behind), ys.drop behind) := by
  have hidx : (xs ++ endlchar :: ys).idxOf endlchar = xs.length := by
    rw [List.idxOf_append, if_neg h, List.idxOf_cons_self, Nat.zero_add]
  have hlen : xs.length + 1 + behind = xs.length + (behind + 1) := by omega
  rw [readUntilEndl, if_pos (List.mem_append_right _ List.mem_cons_self), hidx, hlen,
    List.take_length_add_append, List.drop_length_add_append]
  rfl

private theorem readUntilEndl_of_not_mem {incoming : List α} (h : endlchar ∉ incoming)
    (behind : ℕ) :
    readUntilEndl endlchar behind incoming = (none, []) := if_neg h

end SerialPort

/-- **What a read for a line may give** is what `readUntilEndl` returns of what has arrived, with
some number of bytes behind the line end. -/
theorem gives_readUntilEndl_iff {endlchar : UInt8} {bytes : List UInt8} :
    (SerialRead.readUntilEndlAsioImpl endlchar).Gives bytes ↔ ∃ behind, ∀ rest,
      SerialPort.readUntilEndl endlchar behind (bytes ++ rest) = (some bytes, rest) := by
  constructor
  · intro hmem
    obtain ⟨xs, ys, rfl, hxs⟩ := List.eq_append_cons_of_mem hmem
    refine ⟨ys.length, fun rest => ?_⟩
    rw [List.append_assoc, List.cons_append, SerialPort.readUntilEndl_append hxs,
      List.take_left, List.drop_left]
  · rintro ⟨behind, h⟩
    have hread := h []
    rw [List.append_nil] at hread
    change endlchar ∈ bytes
    by_contra hmem
    rw [SerialPort.readUntilEndl_of_not_mem hmem] at hread
    cases hread

/-! ### The steps -/

/-- What a step can do. -/
inductive SerialStep (s : SerialState) : SerialEvent → SerialState → Prop
  | arrive (bytes : List UInt8) : SerialStep s (.arrive bytes)
      { s with arrived := s.arrived ++ bytes, incoming := s.incoming ++ bytes }
  | call (read : SerialRead) (hrunning : s.running = none) :
      SerialStep s (.call read) (s.begin read)
  | transfer {i len : ℕ} {c : RunningRead} {op : AsyncRead} (hrunning : s.running = some c)
      (hop : s.reads[i]? = some op) (hwithin : op.read.Within (op.got ++ s.incoming.take len)) :
      SerialStep s (.transfer i len) (s.transfer i op len)
  | handle {i : ℕ} {c : RunningRead} {op : AsyncRead} {ec : Option String} {event : SerialEvent}
      (hevent : event ≠ .deadline) (hrunning : s.running = some c) (hop : s.reads[i]? = some op)
      (hcomplete : ec = none → op.read.Complete op.got) : SerialStep s event (s.handle c i op ec)
  | finish {c : RunningRead} {event : SerialEvent}
      (hevent : event = .deadline ∨ s.reads = [] ∨ s.stopped) (hrunning : s.running = some c) :
      SerialStep s event (s.finish c)

variable {s s' : SerialState} {event : SerialEvent} {c : RunningRead}

private theorem running_of_runner (h : s.runner = some c) : s.running = some c := by
  rw [SerialState.runner] at h
  split_ifs at h
  exact h

/-- What a step can do. -/
private theorem serialStep_of_step (h : serialReads.step s event = some s') :
    SerialStep s event s' := by
  cases event with
  | arrive bytes =>
    cases h
    exact .arrive bytes
  | call read =>
    by_cases hrunning : s.running.isNone
    · cases (if_pos hrunning).symm.trans h
      exact .call read (Option.isNone_iff_eq_none.mp hrunning)
    · cases (if_neg hrunning).symm.trans h
  | transfer i len =>
    obtain ⟨c, hrunning, h⟩ := Option.bind_eq_some_iff.mp h
    obtain ⟨op, hop, h⟩ := Option.bind_eq_some_iff.mp h
    split_ifs at h with hroom
    cases h
    exact .transfer (running_of_runner hrunning) hop hroom.2.2.2
  | complete i =>
    obtain ⟨c, hrunning, h⟩ := Option.bind_eq_some_iff.mp h
    obtain ⟨op, hop, h⟩ := Option.bind_eq_some_iff.mp h
    split_ifs at h with hcomplete
    cases h
    exact .handle nofun (running_of_runner hrunning) hop fun _ => hcomplete
  | fail i what =>
    obtain ⟨c, hrunning, h⟩ := Option.bind_eq_some_iff.mp h
    obtain ⟨op, hop, h⟩ := Option.bind_eq_some_iff.mp h
    split_ifs at h with hcomplete
    cases h
    exact .handle nofun (running_of_runner hrunning) hop nofun
  | idle =>
    obtain ⟨c, hrunning, h⟩ := Option.bind_eq_some_iff.mp h
    split_ifs at h with hreads
    cases h
    -- no operation is left, or every one that reads has its length
    exact .finish (.inr (hreads.imp_left List.isEmpty_iff.mp)) hrunning
  | deadline =>
    obtain ⟨c, hrunning, rfl⟩ := Option.map_eq_some_iff.mp h
    exact .finish (.inl rfl) hrunning

/-- Bytes are taken from the port in the order in which they have arrived. -/
theorem order_of_reachable (h : serialReads.Reachable s) :
    s.consumed ++ s.incoming = s.arrived := by
  refine h.invariant (P := fun s => s.consumed ++ s.incoming = s.arrived) rfl
    fun s event s' _ horder _ hstep => ?_
  cases serialStep_of_step hstep with
  | arrive bytes =>
    change s.consumed ++ (s.incoming ++ bytes) = s.arrived ++ bytes
    rw [← List.append_assoc, horder]
  | call => exact horder
  | @transfer i len =>
    change s.consumed ++ s.incoming.take len ++ s.incoming.drop len = s.arrived
    rw [List.append_assoc, List.take_append_drop, horder]
  | handle =>
    rw [SerialState.handle]
    split_ifs <;> exact horder
  | finish => exact horder

/-- What has gone wrong stays wrong. -/
theorem accounts_of_step (h : serialReads.step s event = some s')
    (horder : s.consumed ++ s.incoming = s.arrived) (haccounts : s'.Accounts) : s.Accounts := by
  obtain ⟨-, hcalls, hstrays⟩ := haccounts
  cases serialStep_of_step h with
  | arrive | call | transfer => exact ⟨horder, hcalls, hstrays⟩
  | handle =>
    rw [SerialState.handle] at hcalls hstrays
    split_ifs at hcalls hstrays
    exact ⟨horder, hcalls, hstrays⟩
  | finish =>
    exact ⟨horder, fun c hc => hcalls c (List.mem_append_left _ hc),
      Nat.eq_zero_of_add_eq_zero_right hstrays⟩

/-! ### One read at a time -/

/-- No read is outstanding but that of the call that runs. -/
inductive Alone (s : SerialState) : Prop
  | between (hrunning : s.running = none) (hreads : s.reads = [])
  | reading (c : RunningRead) (got : List UInt8) (hrunning : s.running = some c)
      (hdone : c.done = none) (hreads : s.reads = [⟨s.caller, c.read, got⟩])
      (hconsumed : s.consumed = c.before ++ got) (hwithin : c.read.Within got)
      (hstopped : s.stopped = false)
  | handled (c : RunningRead) (done : Completion) (hrunning : s.running = some c)
      (hdone : c.done = some done) (hreads : s.reads = [])
      (hconsumed : s.consumed = c.before ++ done.got) (hwithin : c.read.Within done.got)
      (hcomplete : done.ec = none → c.read.Complete done.got)

/-- What a call returns once its handler has run. -/
theorem gives_of_result {read : SerialRead} {done : Completion} {bytes : List UInt8}
    (hwithin : read.Within done.got) (hcomplete : done.ec = none → read.Complete done.got)
    (h : read.result done.got (some done) = .ok bytes) : bytes = done.got ∧ read.Gives bytes := by
  cases read with
  | readDefinite len =>
    rw [SerialRead.result] at h
    split_ifs at h with hlen
    cases hec : done.ec with
    | some what => simp [hec] at h
    | none =>
      simp only [hec] at h
      cases h
      exact ⟨rfl, not_not.mp hlen⟩
  | readUntilEndlAsioImpl endlchar =>
    cases hec : done.ec with
    | some what => simp [SerialRead.result, hec] at h
    | none =>
      simp only [SerialRead.result, hec] at h
      cases h
      exact ⟨rfl, hcomplete hec⟩
  -- `read_all` does not look at the error, only at the number of bytes
  | readAll readAtLeast =>
    rw [SerialRead.result] at h
    split_ifs at h with hlt
    cases h
    exact ⟨rfl, Nat.le_of_not_lt hlt⟩

/-- A call that leaves nothing outstanding ends with accounts, if what it returns follows what has
been taken before. -/
theorem accounts_finish (hs : s.Accounts)
    (hfollows : ∀ bytes, c.read.result (s.strbuf c) c.done = .ok bytes →
      s.consumed = c.before ++ bytes ∧ c.read.Gives bytes)
    (hreads : (s.finish c).reads = []) (hstrays : (s.finish c).strays = s.strays) :
    (s.finish c).Accounts ∧ Alone (s.finish c) := by
  refine ⟨⟨hs.order, fun c' hc' => ?_, hstrays.trans hs.handlers⟩, .between rfl hreads⟩
  obtain hbefore | hlast := List.mem_append.mp hc'
  · exact hs.calls c' hbefore
  · obtain rfl := List.mem_singleton.mp hlast
    exact ⟨hfollows, congrArg (·.any fun op => op.caller = s.caller) hreads⟩

/-- A call that ends after its handler has run accounts for its bytes. -/
theorem accounts_finish_of_done {done : Completion} (hs : s.Accounts) (hdone : c.done = some done)
    (hreads : s.reads = []) (hconsumed : s.consumed = c.before ++ done.got)
    (hwithin : c.read.Within done.got) (hcomplete : done.ec = none → c.read.Complete done.got) :
    (s.finish c).Accounts ∧ Alone (s.finish c) := by
  have hstrbuf : s.strbuf c = done.got := by rw [SerialState.strbuf, hdone]
  refine accounts_finish hs (fun bytes hbytes => ?_) ?_ ?_
  · rw [hstrbuf, hdone] at hbytes
    obtain ⟨rfl, hgives⟩ := gives_of_result hwithin hcomplete hbytes
    exact ⟨hconsumed, hgives⟩
  · simp [SerialState.finish, hdone, hreads]
  · simp [SerialState.finish, hdone]

/-- A call that cancels its read fails, and leaves nothing outstanding. -/
theorem accounts_finish_of_cancels {got : List UInt8} (hs : s.Accounts) (hdone : c.done = none)
    (hcancels : c.read.cancels) (hreads : s.reads = [⟨s.caller, c.read, got⟩]) :
    (s.finish c).Accounts ∧ Alone (s.finish c) := by
  refine accounts_finish hs (fun bytes hbytes => ?_) ?_ ?_
  · rw [hdone] at hbytes
    cases hread : c.read with
    | readAll =>
      rw [hread] at hcancels
      cases hcancels
    | _ =>
      rw [hread] at hbytes
      cases hbytes
  · simp [SerialState.finish, hdone, hcancels]
  · simp [SerialState.finish, hdone, hcancels, hreads]

/-- A call that does not cancel its read leaves it outstanding. -/
theorem not_accounts_finish {got : List UInt8} (hdone : c.done = none)
    (hcancels : c.read.cancels = false) (hreads : s.reads = [⟨s.caller, c.read, got⟩]) :
    ¬ (s.finish c).Accounts := by
  intro hs
  have hsettled := (hs.calls _ (List.mem_append_right _ List.mem_cons_self)).settled
  simp [hdone, hcancels, hreads] at hsettled

private theorem eq_of_getElem?_singleton {α : Type} {a b : α} {i : ℕ} (h : [a][i]? = some b) :
    i = 0 ∧ b = a := by
  cases i with
  | zero => exact ⟨rfl, (Option.some.inj h).symm⟩
  | succ i => cases h

/-- Steps in time keep the accounts, and one read at a time. -/
theorem accounts_step (hs : s.Accounts) (halone : Alone s) (htime : InTime s event)
    (hstep : SerialStep s event s') (horder : s'.consumed ++ s'.incoming = s'.arrived) :
    s'.Accounts ∧ Alone s' := by
  cases hstep with
  | arrive bytes =>
    refine ⟨⟨horder, hs.calls, hs.handlers⟩, ?_⟩
    cases halone with
    | between hrunning hreads => exact .between hrunning hreads
    | reading c got hrunning hdone hreads hconsumed hwithin hstopped =>
      exact .reading c got hrunning hdone hreads hconsumed hwithin hstopped
    | handled c done hrunning hdone hreads hconsumed hwithin hcomplete =>
      exact .handled c done hrunning hdone hreads hconsumed hwithin hcomplete
  | call read hrunning =>
    refine ⟨⟨horder, hs.calls, hs.handlers⟩, ?_⟩
    cases halone with
    | between _ hreads =>
      -- the read of the call is the only one that is started
      refine .reading ⟨read, s.consumed, none⟩ [] rfl rfl ?_ (List.append_nil _).symm ?_ rfl
      · rw [SerialState.begin, hreads]
        rfl
      · cases read with
        | readDefinite => exact Nat.zero_le _
        | _ => trivial
    | reading c _ hsome => cases hrunning.symm.trans hsome
    | handled c _ hsome => cases hrunning.symm.trans hsome
  | @transfer i len c op hrunning hop hwithin =>
    refine ⟨⟨horder, hs.calls, hs.handlers⟩, ?_⟩
    cases halone with
    | between _ hreads =>
      rw [hreads] at hop
      cases hop
    | reading c' got hrunning' hdone hreads hconsumed _ hstopped =>
      rw [hreads] at hop
      obtain ⟨rfl, rfl⟩ := eq_of_getElem?_singleton hop
      -- what is transferred goes to the buffer of the one read
      refine .reading c' (got ++ s.incoming.take len) hrunning' hdone ?_ ?_ hwithin hstopped
      · rw [SerialState.transfer, hreads]
        rfl
      · rw [SerialState.transfer, hconsumed, List.append_assoc]
    | handled c' _ _ _ hreads =>
      rw [hreads] at hop
      cases hop
  | @handle i c op ec _ hevent hrunning hop hcomplete =>
    cases halone with
    | between _ hreads =>
      rw [hreads] at hop
      cases hop
    | reading c' got hrunning' hdone hreads hconsumed hwithin =>
      obtain rfl := Option.some.inj (hrunning.symm.trans hrunning')
      rw [hreads] at hop
      obtain ⟨rfl, rfl⟩ := eq_of_getElem?_singleton hop
      rw [SerialState.handle, if_pos rfl] at horder ⊢
      refine ⟨⟨horder, hs.calls, hs.handlers⟩,
        .handled _ ⟨got, ec⟩ rfl rfl ?_ hconsumed hwithin hcomplete⟩
      rw [hreads]
      rfl
    | handled c' _ _ _ hreads =>
      rw [hreads] at hop
      cases hop
  | @finish c _ hevent hrunning =>
    cases halone with
    | between hnone => cases hnone.symm.trans hrunning
    | reading c' got hrunning' hdone hreads _ _ hstopped =>
      -- the read is not complete, so the call ends by its deadline, and cancels it
      obtain rfl := Option.some.inj (hrunning.symm.trans hrunning')
      obtain hdeadline | hnil | hstop := hevent
      · exact accounts_finish_of_cancels hs hdone (htime hdeadline c hrunning hdone) hreads
      · cases hnil.symm.trans hreads
      · cases hstop.symm.trans hstopped
    | handled c' done hrunning' hdone hreads hconsumed hwithin hcomplete =>
      obtain rfl := Option.some.inj (hrunning.symm.trans hrunning')
      exact accounts_finish_of_done hs hdone hreads hconsumed hwithin hcomplete

/-- A step that is not in time spoils the accounts. -/
theorem not_accounts_step (halone : Alone s) (htime : ¬ InTime s event)
    (hstep : SerialStep s event s') : ¬ s'.Accounts := by
  simp only [InTime, not_forall] at htime
  obtain ⟨rfl, c, hrunning, hdone, hcancels⟩ := htime
  cases hstep with
  | handle hevent => exact absurd rfl hevent
  | finish _ hrunning' =>
    obtain rfl := Option.some.inj (hrunning.symm.trans hrunning')
    cases halone with
    | between hnone => cases hnone.symm.trans hrunning
    | reading c' got hrunning'' hdone' hreads =>
      obtain rfl := Option.some.inj (hrunning.symm.trans hrunning'')
      exact not_accounts_finish hdone (Bool.eq_false_iff.mpr hcancels) hreads
    | handled c' done hrunning'' hdone' =>
      obtain rfl := Option.some.inj (hrunning.symm.trans hrunning'')
      cases hdone.symm.trans hdone'

/-- While every byte is accounted for, there is one read at a time. -/
theorem alone_of_reachable (h : serialReads.Reachable s) : s.Accounts → Alone s := by
  induction h with
  | init => exact fun _ => .between rfl rfl
  | @step s s' event hs _ hstep ih =>
    intro haccounts
    have hbefore := accounts_of_step hstep (order_of_reachable hs) haccounts
    have horder := order_of_reachable (hs.step trivial hstep)
    have hsteps := serialStep_of_step hstep
    by_cases htime : InTime s event
    · exact (accounts_step hbefore (ih hbefore) htime hsteps horder).2
    · exact absurd haccounts (not_accounts_step (ih hbefore) htime hsteps)

/-- A run of calls. -/
structure SerialRun where
  events : List SerialEvent
  final : SerialState
  run_eq : serialReads.run serialReads.init events = some final

/-- **Reads of a serial port**: every byte is accounted for exactly if no `read_all` runs out of
time before its handler has run. -/
theorem serialReads_accounts_iff (run : SerialRun) :
    run.final.Accounts ↔ serialReads.Guarded InTime serialReads.init run.events := by
  have hinit : serialReads.init.Accounts := ⟨rfl, fun _ h => (nomatch h), rfl⟩
  refine TransitionSystem.run_iff_guarded hinit (fun s event s' hs hstep => ?_) run.run_eq
  have hsteps := serialStep_of_step hstep
  have horder := order_of_reachable (hs.step trivial hstep)
  constructor
  · intro haccounts
    have hbefore := accounts_of_step hstep (order_of_reachable hs) haccounts
    exact ⟨hbefore, by_contra fun htime =>
      not_accounts_step (alone_of_reachable hs hbefore) htime hsteps haccounts⟩
  · rintro ⟨hbefore, htime⟩
    exact (accounts_step hbefore (alone_of_reachable hs hbefore) htime hsteps horder).1

/-- A call of `read_all` that runs out of time, and another one after it, whose byte its read
takes. -/
def lateRun : SerialRun where
  events := [.call (.readAll 1), .deadline, .call (.readAll 1), .arrive [0x41], .transfer 0 1,
    .complete 0, .deadline]
  final := (serialReads.run serialReads.init
    [.call (.readAll 1), .deadline, .call (.readAll 1), .arrive [0x41], .transfer 0 1,
      .complete 0, .deadline]).get (by rfl)
  run_eq := by rfl

/-- The second call does not get its byte. -/
theorem not_serialReads_accounts : ¬ lateRun.final.Accounts := by
  rw [serialReads_accounts_iff]
  rintro ⟨-, h⟩
  have htime := (h _ rfl).1
  exact absurd (htime rfl _ rfl rfl) (by decide)

end Foxtrot
