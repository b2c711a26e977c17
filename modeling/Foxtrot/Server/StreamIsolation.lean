import Foxtrot.Server.FetchData

/-!
# Isolation of streams

Every `FetchData` request should be served as if it were the only one: its own device is invoked
once, and the bytes of the returned vector reach its client in order, followed by one `Finish`
(`HandlerBase.Served`). A request that gets no vector is never served so: its client gets one error
message, which is written and not followed by a `Finish`. `HandlerBase.Isolated` allows for that.

The handlers share one logic object, so either holds only as long as their streams do not overlap.
`FetchAdmitted` is the condition on the arrival of a request: no other request is in the middle
of its stream, and a vector that it gets fits the arithmetic of the chunks (a chunk size other
than zero, fewer than 2^32 bytes). In a run of admitted steps every handler is isolated, no step
kills the server, and every stream can be driven to its end (`isolated_of_admitted`); the
completion flags, and so the clients that went away, make no difference. If moreover each request
gets a vector (`FetchServed`), every handler is served (`fetchData_isolated`).

An overlap always breaks isolation (`not_isolated_of_overlap`): the request that arrives gets the
next chunk of somebody else's vector, and its own device is not invoked.

The invariant of admitted runs (`Separate`) is that at most one handler is in the middle of its
stream, that the logic object is sending the vector of that one, so many chunks being out
(`Sending`), and that every other handler is through. It is kept by the three steps of the service:
an arrival, which finds the object idle; a `Proceed`, which only the active handler can still be
called with, since a handler that is through is only deleted; and a deletion. The end of a stream is
reached by induction on the chunks that are left (`Separate.completes`).
-/

namespace Foxtrot

variable {Ty Arg Value Wire : Type}

/-- A handler of `FetchData`. -/
abbrev FetchHandler (Arg Value : Type) :=
  HandlerBase (CallContext Value) (ChunkRequest Arg) Datachunk (Invocation Value)

/-- The handlers of `FetchData` with their logic object. -/
abbrev FetchService (Arg Value : Type) :=
  Service FetchDataLogic (CallContext Value) (ChunkRequest Arg) Datachunk (Invocation Value)

/-- The service of `FetchData` over these devices. -/
def DeviceHarness.fetchService (harness : DeviceHarness Ty Arg Value Wire) :
    TransitionSystem (FetchService Arg Value)
      (ServiceLabel (CallContext Value) (ChunkRequest Arg)) :=
  harness.fetchDataLogic.service .new

/-! ### Isolated handlers -/

/-- The vector that an invocation returned, as its tag and bytes, if it returned one that can be
sent. -/
def Invocation.vector (v : Invocation Value) : Option (ByteDataTypes × List UInt8) :=
  v.view.toOption

/-- The vector is being delivered: so far a prefix of its bytes, in messages with its tag and the
id of the request and without an error, and at the end all of them, followed by one `Finish`. -/
def HandlerBase.Delivers (h : FetchHandler Arg Value) (vector : ByteDataTypes × List UInt8) :
    Prop :=
  ∃ chunks : List Datachunk,
    (∀ chunk ∈ chunks, chunk.err = none ∧ chunk.dtp = vector.1 ∧ chunk.msgid = h.req.msgid) ∧
      ((h.status = .process ∧ h.calls = chunks.map .write ∧
          chunks.flatMap Datachunk.data <+: vector.2) ∨
        (h.status ≠ .process ∧ h.calls = chunks.map .write ++ [.finish] ∧
          chunks.flatMap Datachunk.data = vector.2))

/-- The handler serves its request as if it were the only one. -/
structure HandlerBase.Isolated (harness : DeviceHarness Ty Arg Value Wire)
    (h : FetchHandler Arg Value) : Prop where
  /-- Its own device is invoked once, if the request gets through to it, and no other. -/
  invoked : h.invoked = (harness.fetchInvocation h.req h.env.answers).toOption.toList
  /-- The vector that the invocation returned is delivered. -/
  served : ∀ v ∈ h.invoked, ∀ vector ∈ v.vector, h.Delivers vector
  /-- Without a vector, the client gets one error message and nothing else. -/
  refused : (∀ v ∈ h.invoked, v.vector = none) → h.status ≠ .process ∧
    ∃ err, h.calls = [.write { initChunk h.req with err := some err }]

/-- **The handler serves its request**: its own device is invoked exactly once, and no other, and
the vector that it returned is delivered, followed by one `Finish`. -/
def HandlerBase.Served (harness : DeviceHarness Ty Arg Value Wire) (h : FetchHandler Arg Value) :
    Prop :=
  ∃ v vector, harness.fetchInvocation h.req h.env.answers = .ok v ∧ v.vector = some vector ∧
    h.invoked = [v] ∧ h.Delivers vector

/-- The vector that a request leads to, with its tag, or the refusal. -/
def DeviceHarness.fetched (harness : DeviceHarness Ty Arg Value Wire) (req : ChunkRequest Arg)
    (ans : Answers Value) : Except Refusal (ByteDataTypes × List UInt8) :=
  (harness.fetchInvocation req ans).bind Invocation.view

/-- A request arrives only while no other is in the middle of its stream, and its vector fits the
arithmetic of the chunks. -/
def FetchAdmitted (harness : DeviceHarness Ty Arg Value Wire) (s : FetchService Arg Value) :
    ServiceLabel (CallContext Value) (ChunkRequest Arg) → Prop
  | .arrive req env => (∀ h ∈ s.handlers, h.status ≠ .process) ∧
      ∀ view ∈ (harness.fetched req env.answers).toOption,
        req.chunksize ≠ 0 ∧ view.2.length < 2 ^ 32
  | .proceed _ _ _ => True

/-- A request is admitted, and it gets a vector. -/
def FetchServed (harness : DeviceHarness Ty Arg Value Wire) (s : FetchService Arg Value) :
    ServiceLabel (CallContext Value) (ChunkRequest Arg) → Prop
  | .arrive req env => (∀ h ∈ s.handlers, h.status ≠ .process) ∧
      ∃ view ∈ (harness.fetched req env.answers).toOption,
        req.chunksize ≠ 0 ∧ view.2.length < 2 ^ 32
  | .proceed _ _ _ => True

instance FetchServed.decidable (harness : DeviceHarness Ty Arg Value Wire)
    (s : FetchService Arg Value) : ∀ l, Decidable (FetchServed harness s l)
  | .arrive _ _ => inferInstanceAs (Decidable (_ ∧ _))
  | .proceed _ _ _ => inferInstanceAs (Decidable True)

instance FetchAdmitted.decidable (harness : DeviceHarness Ty Arg Value Wire)
    (s : FetchService Arg Value) : ∀ l, Decidable (FetchAdmitted harness s l)
  | .arrive _ _ => inferInstanceAs (Decidable (_ ∧ _))
  | .proceed _ _ _ => inferInstanceAs (Decidable True)

/-! ### The first `Proceed` of a request -/

/-- The invocations handed to `sendChunk` are only passed on. -/
theorem sendChunk_caught (logic : FetchDataLogic) (repl : Datachunk)
    (invoked : List (Invocation Value)) : (logic.sendChunk repl invoked).caught datachunkWriter =
      { (logic.sendChunk repl ([] : List (Invocation Value))).caught datachunkWriter with
        invoked } := by
  rw [FetchDataLogic.sendChunk, FetchDataLogic.sendChunk]
  split
  · rfl
  · split <;> rfl

section First

variable {harness : DeviceHarness Ty Arg Value Wire} {req : ChunkRequest Arg}
  {env : CallContext Value} {s : FetchDataLogic}

/-- A vector is that of an invocation. -/
theorem exists_invocation_of_fetched {ans : Answers Value} {view : ByteDataTypes × List UInt8}
    (h : harness.fetched req ans = .ok view) :
    ∃ v, harness.fetchInvocation req ans = .ok v ∧ v.view = .ok view := by
  rw [DeviceHarness.fetched] at h
  rcases hinv : harness.fetchInvocation req ans with refusal | v
  · rw [hinv] at h
    cases h
  · rw [hinv] at h
    exact ⟨v, rfl, h⟩

/-- `process` without a session check. -/
theorem fetchDataLogic_process (repl : Datachunk) :
    harness.fetchDataLogic.process s env req repl =
      (s.handleRequest harness env.answers req repl).map (Handled.caught datachunkWriter) := rfl

/-- A refused request leaves the object alone, and its error is the only message. -/
theorem process_of_refused {refusal : Refusal} (hs : s.thischunk = 0)
    (href : harness.fetched req env.answers = .error refusal) (repl : Datachunk) :
    ∃ r, harness.fetchDataLogic.process s env req repl = some r ∧ r.logic = s ∧
      r.calls = [.write { initChunk req with err := some refusal.errstatus }] ∧
      r.invoked = (harness.fetchInvocation req env.answers).toOption.toList ∧ r.result = true := by
  have hreq : s.initialRequest harness req env.answers =
      some ((harness.fetchInvocation req env.answers).toOption.toList, .error refusal) := by
    rw [DeviceHarness.fetched] at href
    rw [FetchDataLogic.initialRequest]
    rcases hinv : harness.fetchInvocation req env.answers with refusal' | v
    · rw [hinv] at href
      obtain rfl := Except.error.inj href
      rfl
    · rw [hinv] at href
      have hv : v.view = .error refusal := href
      simp only [hv]
      rfl
  rw [fetchDataLogic_process, FetchDataLogic.handleRequest, if_pos hs, hreq]
  rcases refusal with err | e
  · exact ⟨_, rfl, rfl, rfl, rfl, rfl⟩
  · exact ⟨_, rfl, rfl, rfl, rfl, rfl⟩

/-- The first request invokes the capability, if it comes so far. -/
private theorem initialRequest_invoked {ans : Answers Value} {invoked : List (Invocation Value)}
    {res : Except Refusal (FetchDataLogic × Datachunk)}
    (h : s.initialRequest harness req ans = some (invoked, res)) :
    invoked = (harness.fetchInvocation req ans).toOption.toList := by
  rw [FetchDataLogic.initialRequest] at h
  rcases hfi : harness.fetchInvocation req ans with refusal | v <;> simp only [hfi] at h
  · exact (congrArg Prod.fst (Option.some.inj h)).symm
  · rcases hview : v.view with refusal | ⟨dt, bytes⟩ <;> simp only [hview] at h
    · exact (congrArg Prod.fst (Option.some.inj h)).symm
    · split at h
      · cases h
      · exact (congrArg Prod.fst (Option.some.inj h)).symm

/-- On an idle object, a request leads to its own invocation and no other. -/
theorem process_invoked (hs : s.thischunk = 0) {repl : Datachunk}
    {r : Handled FetchDataLogic Datachunk (Invocation Value) Bool}
    (hr : harness.fetchDataLogic.process s env req repl = some r) :
    r.invoked = (harness.fetchInvocation req env.answers).toOption.toList := by
  rw [fetchDataLogic_process, FetchDataLogic.handleRequest, if_pos hs] at hr
  rcases hreq : s.initialRequest harness req env.answers with _ | ⟨invoked, res⟩ <;>
    simp only [hreq] at hr
  · cases hr
  · rw [← initialRequest_invoked hreq]
    rcases res with (err | e) | ⟨s', repl'⟩ <;> obtain rfl := Option.some.inj hr
    · rfl
    · rfl
    · rw [sendChunk_caught]

/-- The part of a byte string whose length the 32-bit `_byte_size` holds. -/
def sizedPart (bytes : List UInt8) : List UInt8 :=
  bytes.take (bytes.length % 2 ^ 32)

private theorem length_sizedPart (bytes : List UInt8) :
    (sizedPart bytes).length = bytes.length % 2 ^ 32 := by
  rw [sizedPart, List.length_take, min_eq_left (Nat.mod_le _ _)]

/-- Only a size of 32 bits is kept. -/
theorem sizedPart_eq_self_iff {bytes : List UInt8} :
    sizedPart bytes = bytes ↔ bytes.length < 2 ^ 32 := by
  constructor
  · intro heq
    rw [← heq, length_sizedPart]
    exact Nat.mod_lt _ (by decide)
  · intro hlt
    rw [sizedPart, Nat.mod_eq_of_lt hlt, List.take_length]

/-- An accepted request loads the vector, as far as `_byte_size` reaches. -/
theorem initialRequest_loads {dt : ByteDataTypes} {bytes : List UInt8}
    (hs : s.thischunk = 0) (hview : harness.fetched req env.answers = .ok (dt, bytes))
    (hchunk : req.chunksize ≠ 0) :
    ∃ s' : FetchDataLogic, s'.data = bytes ∧
      s'.trim.Loaded req.chunksize.toNat (sizedPart bytes) 0 ∧
      s.initialRequest harness req env.answers =
        some ((harness.fetchInvocation req env.answers).toOption.toList,
          .ok (s', { initChunk req with dtp := dt })) := by
  have hsize : (UInt32.ofNat bytes.length).toNat = (sizedPart bytes).length := by
    rw [length_sizedPart, UInt32.toNat_ofNat']
  obtain ⟨v, hinv, hv⟩ := exists_invocation_of_fetched hview
  rw [FetchDataLogic.initialRequest, hinv]
  simp only [hv, if_neg hchunk]
  refine ⟨_, rfl, ?_, rfl⟩
  refine ⟨?_, ?_, ?_, rfl, hsize, ?_, ?_⟩
  · change s.thischunk.toNat = 0
    rw [hs, UInt32.toNat_zero]
  · change (UInt32.ofNat bytes.length / req.chunksize).toNat = _
    rw [UInt32.toNat_div, hsize]
  · change (UInt32.ofNat bytes.length % req.chunksize != 0) = _
    rw [Bool.eq_iff_iff, bne_iff_ne, decide_eq_true_eq, Ne, ← UInt32.toNat_inj,
      UInt32.toNat_mod, hsize, UInt32.toNat_zero]
    refine ⟨fun hextra => ⟨?_, hextra⟩, And.right⟩
    rw [Pieces.count, if_neg hextra]
    exact Nat.succ_pos _
  · change bytes.take (UInt32.ofNat bytes.length).toNat = _
    rw [hsize, length_sizedPart]
    rfl
  · simp [FetchDataLogic.trim]

/-- A vector that fits is loaded as a whole. -/
theorem initialRequest_of_fetched {dt : ByteDataTypes} {bytes : List UInt8}
    (hs : s.thischunk = 0) (hview : harness.fetched req env.answers = .ok (dt, bytes))
    (hchunk : req.chunksize ≠ 0) (hlen : bytes.length < 2 ^ 32) :
    ∃ s' : FetchDataLogic, s'.Loaded req.chunksize.toNat bytes 0 ∧
      s.initialRequest harness req env.answers =
        some ((harness.fetchInvocation req env.answers).toOption.toList,
          .ok (s', { initChunk req with dtp := dt })) := by
  obtain ⟨s', hdata, hloaded, hreq⟩ := initialRequest_loads hs hview hchunk
  rw [sizedPart_eq_self_iff.mpr hlen] at hloaded
  have htrim : s'.trim = s' := by
    have heq : s'.data.take s'.byteSize.toNat = s'.data := hloaded.data.trans hdata.symm
    rw [FetchDataLogic.trim, heq]
  exact ⟨s', htrim ▸ hloaded, hreq⟩

end First

/-! ### A stream that has the object to itself

From the arrival on the object behaves as in a run with this request alone, and the chunks have the
header of the request. -/

/-- The `k`-th chunk of a request's vector. -/
def sentChunk (req : ChunkRequest Arg) (dt : ByteDataTypes) (bytes : List UInt8) (k : ℕ) :
    Datachunk :=
  { initChunk req with dtp := dt, data := Pieces.piece req.chunksize.toNat bytes k }

/-- The number of chunks of a request's vector. -/
def numChunks (req : ChunkRequest Arg) (bytes : List UInt8) : ℕ :=
  Pieces.count req.chunksize.toNat bytes.length

/-- The logic object is sending the vector of this request, `k` chunks are out, and the calls and
the reply of the handler are as they should be. -/
structure Sending (harness : DeviceHarness Ty Arg Value Wire) (s : FetchDataLogic)
    (h : FetchHandler Arg Value) (dt : ByteDataTypes) (bytes : List UInt8) (k : ℕ) : Prop where
  fetched : harness.fetched h.req h.env.answers = .ok (dt, bytes)
  chunksize : 0 < h.req.chunksize.toNat
  le : k ≤ numChunks h.req bytes
  loaded : s.Loaded h.req.chunksize.toNat bytes k
  repl : ∃ data, h.repl = { initChunk h.req with dtp := dt, data }
  calls : h.calls = ((List.range k).map (sentChunk h.req dt bytes)).map .write
  invoked : h.invoked = (harness.fetchInvocation h.req h.env.answers).toOption.toList

section Stream

variable {harness : DeviceHarness Ty Arg Value Wire} {h : FetchHandler Arg Value}
  {dt : ByteDataTypes} {bytes : List UInt8} {k : ℕ}

/-- A handler that delivers its vector is isolated. -/
theorem isolated_of_delivers (hview : harness.fetched h.req h.env.answers = .ok (dt, bytes))
    (hinv : h.invoked = (harness.fetchInvocation h.req h.env.answers).toOption.toList)
    (hdel : h.Delivers (dt, bytes)) : h.Isolated harness := by
  -- the one invocation of the handler is the one that led to the vector
  obtain ⟨v, hv, hvec⟩ : ∃ v, h.invoked = [v] ∧ v.vector = some (dt, bytes) := by
    obtain ⟨v, hfi, hv⟩ := exists_invocation_of_fetched hview
    rw [hfi] at hinv
    exact ⟨v, hinv, by rw [Invocation.vector, hv]; rfl⟩
  refine ⟨hinv, ?_, ?_⟩
  · intro w hw bs hbs
    rw [hv, List.mem_singleton] at hw
    rw [hw, hvec] at hbs
    obtain rfl := Option.some.inj hbs
    exact hdel
  · intro hnone
    have := hnone v (by rw [hv]; exact List.mem_singleton_self v)
    rw [hvec] at this
    cases this

/-- A handler that was refused is isolated. -/
theorem isolated_of_refused {refusal : Refusal}
    (href : harness.fetched h.req h.env.answers = .error refusal)
    (hinv : h.invoked = (harness.fetchInvocation h.req h.env.answers).toOption.toList)
    (hstatus : h.status ≠ .process)
    (hcalls : h.calls = [.write { initChunk h.req with err := some refusal.errstatus }]) :
    h.Isolated harness := by
  refine ⟨hinv, ?_, fun _ => ⟨hstatus, _, hcalls⟩⟩
  intro v hv bytes hbytes
  rw [DeviceHarness.fetched] at href
  rcases hfi : harness.fetchInvocation h.req h.env.answers with refusal' | w
  · rw [hinv, hfi] at hv
    cases hv
  · rw [hinv, hfi] at hv
    rw [hfi] at href
    obtain rfl := List.mem_singleton.mp hv
    have hview : v.view = .error refusal := href
    rw [Invocation.vector, hview] at hbytes
    cases hbytes

private theorem flatMap_sentChunk (req : ChunkRequest Arg) (k : ℕ) :
    ((List.range k).map (sentChunk req dt bytes)).flatMap Datachunk.data =
      (List.range k).flatMap (Pieces.piece req.chunksize.toNat bytes) := by
  rw [List.flatMap_map]
  rfl

/-- All chunks have the header of the request. -/
theorem sentChunk_header (req : ChunkRequest Arg) (dt : ByteDataTypes)
    (bytes : List UInt8) (k : ℕ) : ∀ chunk ∈ (List.range k).map (sentChunk req dt bytes),
      chunk.err = none ∧ chunk.dtp = dt ∧ chunk.msgid = req.msgid := by
  intro chunk hchunk
  obtain ⟨j, -, rfl⟩ := List.mem_map.mp hchunk
  exact ⟨rfl, rfl, rfl⟩

/-- In the middle of its stream a handler is isolated. -/
theorem Sending.isolated {s : FetchDataLogic} (hs : Sending harness s h dt bytes k)
    (hstatus : h.status = .process) : h.Isolated harness := by
  refine isolated_of_delivers hs.fetched hs.invoked ⟨_, sentChunk_header h.req dt bytes k,
    .inl ⟨hstatus, hs.calls, ?_⟩⟩
  rw [flatMap_sentChunk, Pieces.flatMap_piece_range]
  exact List.take_prefix _ _

/-- In the middle of its stream the object's chunk counter shows it. -/
theorem Sending.thischunk_ne_zero {s : FetchDataLogic} (hs : Sending harness s h dt bytes k)
    (hk : 0 < k) : s.thischunk ≠ 0 := by
  intro hzero
  have hcount := hs.loaded.thischunk
  rw [hzero, UInt32.toNat_zero] at hcount
  omega

/-- With all chunks out and the call finished a handler is isolated. -/
theorem isolated_of_finished (hview : harness.fetched h.req h.env.answers = .ok (dt, bytes))
    (hinv : h.invoked = (harness.fetchInvocation h.req h.env.answers).toOption.toList)
    (hchunk : 0 < h.req.chunksize.toNat) (hstatus : h.status ≠ .process)
    (hcalls : h.calls = ((List.range (numChunks h.req bytes)).map
      (sentChunk h.req dt bytes)).map .write ++ [.finish]) : h.Isolated harness := by
  refine isolated_of_delivers hview hinv ⟨_, sentChunk_header h.req dt bytes _,
    .inr ⟨hstatus, hcalls, ?_⟩⟩
  rw [flatMap_sentChunk]
  exact Pieces.flatMap_piece_count hchunk bytes

/-- What a `Proceed` in the middle of a stream makes of the object and the handler: it sends the
next chunk, or finishes the call and releases the object. -/
theorem Sending.update {s : FetchDataLogic} (hs : Sending harness s h dt bytes k)
    {r : Handled FetchDataLogic Datachunk (Invocation Value) Bool}
    (hr : (s.sendChunk h.repl []).caught datachunkWriter = r) :
    (k < numChunks h.req bytes ∧ Sending harness r.logic (h.update r) dt bytes (k + 1) ∧
        (h.update r).status = .process) ∨
      (k = numChunks h.req bytes ∧ r.logic.thischunk = 0 ∧ (h.update r).Isolated harness ∧
        (h.update r).status = .finish) := by
  obtain ⟨data, hrepl⟩ := hs.repl
  have hinv : (h.update r).invoked = h.invoked ++ r.invoked := rfl
  rcases Nat.lt_or_eq_of_le hs.le with hlt | heq
  · obtain ⟨s', hloaded, hsend⟩ := hs.loaded.sendChunk_of_lt hs.chunksize hlt h.repl
      ([] : List (Invocation Value))
    have hchunk : { h.repl with data := Pieces.piece h.req.chunksize.toNat bytes k } =
        sentChunk h.req dt bytes k := by
      rw [hrepl]
      rfl
    rw [hsend, hchunk] at hr
    subst hr
    -- the reply keeps the header it got from the request
    refine .inl ⟨hlt, ⟨hs.fetched, hs.chunksize, hlt, hloaded, ⟨_, rfl⟩, ?_, ?_⟩, rfl⟩
    · change h.calls ++ [.write (sentChunk h.req dt bytes k)] =
        ((List.range (k + 1)).map (sentChunk h.req dt bytes)).map .write
      rw [List.range_succ, List.map_append, List.map_append, ← hs.calls]
      rfl
    · rw [hinv, hs.invoked]
      exact List.append_nil _
  -- no chunk is left
  · have hloaded := hs.loaded
    rw [heq] at hloaded
    rw [hloaded.sendChunk_of_eq] at hr
    subst hr
    refine .inr ⟨heq, rfl, ?_, rfl⟩
    refine isolated_of_finished hs.fetched ?_ hs.chunksize ?_ ?_
    · rw [hinv, hs.invoked]
      exact List.append_nil _
    · exact HandlerStatus.noConfusion
    · change h.calls ++ [.finish] = _
      rw [hs.calls, heq]
      rfl

/-- The first `Proceed` of a request that fits, on an idle object: the handler is through, or is
in the middle of its stream. -/
theorem first_proceed {logic : FetchDataLogic} {req : ChunkRequest Arg} {env : CallContext Value}
    (hidle : logic.thischunk = 0) (hfit : ∀ view ∈ (harness.fetched req env.answers).toOption,
      req.chunksize ≠ 0 ∧ view.2.length < 2 ^ 32) :
    ∃ r, harness.fetchDataLogic.process logic env req harness.fetchDataLogic.emptyReply = some r ∧
      ((harness.fetchDataLogic.newHandler req env).update r).Isolated harness ∧
      ((((harness.fetchDataLogic.newHandler req env).update r).status ≠ .process ∧
          r.logic.thischunk = 0) ∨
        (((harness.fetchDataLogic.newHandler req env).update r).status = .process ∧
          ∃ dt bytes k, 0 < k ∧
            Sending harness r.logic ((harness.fetchDataLogic.newHandler req env).update r)
              dt bytes k)) := by
  rcases hview : harness.fetched req env.answers with refusal | ⟨dt, bytes⟩
  · obtain ⟨r, hr, rfl, hcalls, hinv, hres⟩ := process_of_refused hidle hview
      harness.fetchDataLogic.emptyReply
    have hstatus : ((harness.fetchDataLogic.newHandler req env).update r).status ≠ .process := by
      simp [HandlerBase.update, hres]
    exact ⟨r, hr, isolated_of_refused hview hinv hstatus hcalls, .inl ⟨hstatus, hidle⟩⟩
  · obtain ⟨hchunk, hlen⟩ := hfit (dt, bytes) (by rw [hview]; rfl)
    obtain ⟨s', hloaded, hreq⟩ := initialRequest_of_fetched hidle hview hchunk hlen
    -- the handler as it stands after `initial_request`
    let h : FetchHandler Arg Value :=
      { harness.fetchDataLogic.newHandler req env with
        repl := { initChunk req with dtp := dt }
        invoked := (harness.fetchInvocation req env.answers).toOption.toList }
    have hpos : 0 < req.chunksize.toNat :=
      Nat.pos_of_ne_zero fun hzero => hchunk (UInt32.toNat_inj.mp hzero)
    have hsend : Sending harness s' h dt bytes 0 :=
      ⟨hview, hpos, Nat.zero_le _, hloaded, ⟨[], rfl⟩, rfl, rfl⟩
    have hr : harness.fetchDataLogic.process logic env req harness.fetchDataLogic.emptyReply =
        some ((s'.sendChunk h.repl h.invoked).caught datachunkWriter) := by
      rw [fetchDataLogic_process, FetchDataLogic.handleRequest, if_pos hidle, hreq]
      rfl
    have hupdate : (harness.fetchDataLogic.newHandler req env).update
        ((s'.sendChunk h.repl h.invoked).caught datachunkWriter) =
          h.update ((s'.sendChunk h.repl []).caught datachunkWriter) := by
      have hnil := congrArg Handled.invoked
        (sendChunk_caught s' h.repl ([] : List (Invocation Value)))
      rw [sendChunk_caught s' h.repl h.invoked, HandlerBase.update, HandlerBase.update, hnil,
        List.append_nil]
      rfl
    refine ⟨_, hr, ?_⟩
    have hlogic : ((s'.sendChunk h.repl h.invoked).caught datachunkWriter).logic =
        ((s'.sendChunk h.repl ([] : List (Invocation Value))).caught datachunkWriter).logic := by
      rw [sendChunk_caught s' h.repl h.invoked]
    rw [hupdate, hlogic]
    rcases hsend.update rfl with ⟨-, hsend', hstatus⟩ | ⟨-, hidle', hiso, hstatus⟩
    · exact ⟨hsend'.isolated hstatus, .inr ⟨hstatus, dt, bytes, 1, Nat.one_pos, hsend'⟩⟩
    · exact ⟨hiso, .inl ⟨by simp [hstatus], hidle'⟩⟩

end Stream

/-! ### The invariant of admitted runs -/

/-- At most one handler, the active one, is in the middle of its stream, and the logic object is
sending its vector; every handler is isolated. -/
structure Separate (harness : DeviceHarness Ty Arg Value Wire) (s : FetchService Arg Value)
    (active : Option ℕ) : Prop where
  isolated : ∀ h ∈ s.handlers, h.Isolated harness
  process_iff : ∀ i h, s.handlers[i]? = some h → (h.status = .process ↔ active = some i)
  idle : active = none → s.logic.thischunk = 0
  sending : ∀ i, active = some i → ∃ h, s.handlers[i]? = some h ∧
    ∃ dt bytes k, 0 < k ∧ Sending harness s.logic h dt bytes k

section Invariant

variable {harness : DeviceHarness Ty Arg Value Wire} {s s' : FetchService Arg Value}
  {h : FetchHandler Arg Value} {active : Option ℕ} {i : ℕ}

private theorem getElem?_concat_cases {α : Type} {l : List α} {a b : α} {j : ℕ}
    (hj : (l ++ [a])[j]? = some b) : (j = l.length ∧ b = a) ∨ l[j]? = some b := by
  rw [List.getElem?_append] at hj
  split at hj
  · exact .inr hj
  · rw [List.getElem?_singleton] at hj
    split at hj
    · exact .inl ⟨by omega, (Option.some.inj hj).symm⟩
    · cases hj

private theorem getElem?_set_cases {α : Type} {l : List α} {a b : α} {j k : ℕ}
    (hj : (l.set k a)[j]? = some b) : (j = k ∧ b = a) ∨ (j ≠ k ∧ l[j]? = some b) := by
  rw [List.getElem?_set] at hj
  split at hj
  · split at hj
    · exact .inl ⟨by omega, (Option.some.inj hj).symm⟩
    · cases hj
  · exact .inr ⟨by omega, hj⟩

/-- A new handler after admitted handlers: it is through, or it becomes the active one. -/
theorem Separate.concat (hsep : Separate harness s none) {logic : FetchDataLogic}
    (hiso : h.Isolated harness)
    (hnew : (h.status ≠ .process ∧ logic.thischunk = 0) ∨
      (h.status = .process ∧ ∃ dt bytes k, 0 < k ∧ Sending harness logic h dt bytes k)) :
    ∃ active, Separate harness ⟨logic, s.handlers ++ [h]⟩ active := by
  have hall : ∀ h' ∈ s.handlers ++ [h], h'.Isolated harness := by
    intro h' hmem
    rcases List.mem_append.mp hmem with hmem | hmem
    · exact hsep.isolated h' hmem
    · rw [List.mem_singleton.mp hmem]
      exact hiso
  have hold : ∀ {j} {h' : FetchHandler Arg Value}, s.handlers[j]? = some h' →
      h'.status ≠ .process := fun hj hp => by
    have hact := (hsep.process_iff _ _ hj).mp hp
    cases hact
  rcases hnew with ⟨hstatus, hidle⟩ | ⟨hstatus, hsend⟩
  -- refused, or its whole vector was empty: no handler is active afterwards
  · refine ⟨none, hall, ?_, fun _ => hidle, fun _ hact => by cases hact⟩
    intro j h' hj
    rcases getElem?_concat_cases hj with ⟨-, rfl⟩ | hj
    · simp [hstatus]
    · simp [hold hj]
  -- the new handler becomes the active one
  · refine ⟨some s.handlers.length, hall, ?_, fun hact => (by cases hact), ?_⟩
    · intro j h' hj
      rcases getElem?_concat_cases hj with ⟨rfl, rfl⟩ | hj
      · simp [hstatus]
      · have hlt : j < s.handlers.length := (List.getElem?_eq_some_iff.mp hj).1
        refine iff_of_false (hold hj) fun hact => ?_
        have := Option.some.inj hact
        omega
    · intro j hact
      obtain rfl := Option.some.inj hact
      exact ⟨h, List.getElem?_concat_length, hsend⟩

/-- The active handler is replaced: it is through, or stays active. -/
theorem Separate.set (hsep : Separate harness s (some i)) {logic : FetchDataLogic}
    (hlt : i < s.handlers.length) (hiso : h.Isolated harness)
    (hnew : (h.status ≠ .process ∧ logic.thischunk = 0 ∧ active = none) ∨
      (h.status = .process ∧ active = some i ∧
        ∃ dt bytes k, 0 < k ∧ Sending harness logic h dt bytes k)) :
    Separate harness ⟨logic, s.handlers.set i h⟩ active := by
  have hall : ∀ h' ∈ s.handlers.set i h, h'.Isolated harness := by
    intro h' hmem
    obtain ⟨j, hj⟩ := List.mem_iff_getElem?.mp hmem
    rcases getElem?_set_cases hj with ⟨-, rfl⟩ | ⟨-, hj⟩
    · exact hiso
    · exact hsep.isolated h' (List.mem_of_getElem? hj)
  have hold : ∀ {j} {h' : FetchHandler Arg Value}, j ≠ i → s.handlers[j]? = some h' →
      h'.status ≠ .process :=
    fun hne hj hp => hne (Option.some.inj ((hsep.process_iff _ _ hj).mp hp)).symm
  rcases hnew with ⟨hstatus, hidle, rfl⟩ | ⟨hstatus, rfl, hsend⟩
  -- through: the object is released
  · refine ⟨hall, ?_, fun _ => hidle, fun _ hact => by cases hact⟩
    intro j h' hj
    rcases getElem?_set_cases hj with ⟨-, rfl⟩ | ⟨hne, hj⟩
    · simp [hstatus]
    · simp [hold hne hj]
  · refine ⟨hall, ?_, fun hact => (by cases hact), ?_⟩
    · intro j h' hj
      rcases getElem?_set_cases hj with ⟨rfl, rfl⟩ | ⟨hne, hj⟩
      · simp [hstatus]
      · simp [hold hne hj, hne.symm]
    · intro j hact
      obtain rfl := Option.some.inj hact
      exact ⟨h, List.getElem?_set_self hlt, hsend⟩

/-- Without a handler in the middle of its stream, none is active. -/
theorem Separate.active_eq_none (hsep : Separate harness s active)
    (hquiet : ∀ h ∈ s.handlers, h.status ≠ .process) : active = none := by
  rcases active with _ | i
  · rfl
  · obtain ⟨h, hi, -⟩ := hsep.sending i rfl
    exact absurd ((hsep.process_iff i h hi).mpr rfl) (hquiet h (List.mem_of_getElem? hi))

/-- Deleting a finished handler changes nothing. -/
theorem Separate.delete (hsep : Separate harness s active) (hi : s.handlers[i]? = some h)
    (hstatus : h.status = .finish) :
    Separate harness { s with handlers := s.handlers.set i { h with status := .deleted } }
      active := by
  have hne : active ≠ some i := fun hact => by
    have := (hsep.process_iff i h hi).mpr hact
    rw [hstatus] at this
    cases this
  have hdel : HandlerBase.Isolated harness { h with status := .deleted } := by
    obtain ⟨hinv, hserved, hrefused⟩ := hsep.isolated h (List.mem_of_getElem? hi)
    refine ⟨hinv, fun v hv bytes hbytes => ?_, fun hnone => ?_⟩
    · obtain ⟨chunks, hhead, ⟨hp, -⟩ | ⟨-, hrest⟩⟩ := hserved v hv bytes hbytes
      · rw [hstatus] at hp
        cases hp
      · exact ⟨chunks, hhead, .inr ⟨by simp, hrest⟩⟩
    · exact ⟨by simp, (hrefused hnone).2⟩
  refine ⟨?_, ?_, hsep.idle, ?_⟩
  · intro h' hmem
    obtain ⟨j, hj⟩ := List.mem_iff_getElem?.mp hmem
    rcases getElem?_set_cases hj with ⟨-, rfl⟩ | ⟨-, hj⟩
    · exact hdel
    · exact hsep.isolated h' (List.mem_of_getElem? hj)
  · intro j h' hj
    rcases getElem?_set_cases hj with ⟨rfl, rfl⟩ | ⟨-, hj⟩
    · simp [hne]
    · exact hsep.process_iff j h' hj
  · intro j hact
    obtain ⟨h', hj, hsend⟩ := hsep.sending j hact
    have hji : i ≠ j := fun heq => hne (heq ▸ hact)
    exact ⟨h', by rw [List.getElem?_set_ne hji, hj], hsend⟩

/-- An admitted request is handled, and keeps the streams apart. -/
theorem Separate.arrive (hsep : Separate harness s none) {req : ChunkRequest Arg}
    {env : CallContext Value} (hfit : ∀ view ∈ (harness.fetched req env.answers).toOption,
      req.chunksize ≠ 0 ∧ view.2.length < 2 ^ 32) :
    ∃ s' active, harness.fetchService.step s (.arrive req env) = some s' ∧
      Separate harness s' active := by
  obtain ⟨r, hr, hiso, hnew⟩ := first_proceed (hsep.idle rfl) hfit
  obtain ⟨active, hsep'⟩ := hsep.concat hiso hnew
  exact ⟨_, active, Logic.step_arrive.mpr ⟨r, hr, rfl⟩, hsep'⟩

/-- A `Proceed` of the active handler goes on with its stream, or ends it. -/
theorem Separate.proceed (hsep : Separate harness s (some i)) (hi : s.handlers[i]? = some h)
    {dt : ByteDataTypes} {bytes : List UInt8} {k : ℕ} (hk : 0 < k)
    (hsend : Sending harness s.logic h dt bytes k) (ok : Bool) (env : CallContext Value) :
    ∃ s' h', harness.fetchService.step s (.proceed i ok env) = some s' ∧
      s'.handlers[i]? = some h' ∧ h'.req = h.req ∧ h'.env = h.env ∧
      ((k < numChunks h.req bytes ∧ Separate harness s' (some i) ∧
          Sending harness s'.logic h' dt bytes (k + 1)) ∨
        (k = numChunks h.req bytes ∧ Separate harness s' none ∧ h'.status = .finish)) := by
  have hstatus : h.status = .process := (hsep.process_iff i h hi).mpr rfl
  have hmid : s.logic.thischunk ≠ 0 := hsend.thischunk_ne_zero hk
  have hr : harness.fetchDataLogic.process s.logic env h.req h.repl =
      some ((s.logic.sendChunk h.repl []).caught datachunkWriter) := by
    rw [fetchDataLogic_process, FetchDataLogic.handleRequest, if_neg hmid]
    rfl
  have hlen : i < s.handlers.length := (List.getElem?_eq_some_iff.mp hi).1
  have hset : (s.handlers.set i (h.update
      ((s.logic.sendChunk h.repl []).caught datachunkWriter)))[i]? = some (h.update
        ((s.logic.sendChunk h.repl []).caught datachunkWriter)) :=
    List.getElem?_set_self hlen
  refine ⟨_, _, Logic.step_proceed_of_process ok hi hstatus hr, hset, rfl, rfl, ?_⟩
  rcases hsend.update rfl with ⟨hlt, hsend', hstatus'⟩ | ⟨heq, hidle, hiso, hstatus'⟩
  · exact .inl ⟨hlt, hsep.set hlen (hsend'.isolated hstatus')
      (.inr ⟨hstatus', rfl, dt, bytes, k + 1, Nat.succ_pos k, hsend'⟩), hsend'⟩
  · exact .inr ⟨heq, hsep.set hlen hiso (.inl ⟨by simp [hstatus'], hidle, rfl⟩), hstatus'⟩

/-- In an admitted run the streams are kept apart. -/
theorem separate_of_admitted (hs : harness.fetchService.ReachableWhile (FetchAdmitted harness) s) :
    ∃ active, Separate harness s active := by
  refine hs.invariant (P := fun s => ∃ active, Separate harness s active) ?_ ?_
  · exact ⟨none, by simp [DeviceHarness.fetchService, Logic.service], by
      simp [DeviceHarness.fetchService, Logic.service], fun _ => rfl, fun _ hact => by cases hact⟩
  · rintro s l s' - ⟨active, hsep⟩ hl hstep
    rcases l with ⟨req, env⟩ | ⟨i, ok, env⟩
    · obtain ⟨hquiet, hfit⟩ := hl
      obtain rfl : active = none := hsep.active_eq_none hquiet
      obtain ⟨s'', active', hstep', hsep'⟩ := hsep.arrive hfit
      obtain rfl := Option.some.inj (hstep.symm.trans hstep')
      exact ⟨active', hsep'⟩
    · change harness.fetchDataLogic.step s (.proceed i ok env) = some s' at hstep
      obtain ⟨h, hi, ⟨hp, -⟩ | ⟨hf, rfl⟩⟩ := Logic.step_proceed hstep
      · obtain rfl := (hsep.process_iff i h hi).mp hp
        obtain ⟨h', hi', dt, bytes, k, hk, hsend⟩ := hsep.sending i rfl
        obtain ⟨s'', _, hstep', -, -, -, hnext⟩ := hsep.proceed hi' hk hsend ok env
        obtain rfl := Option.some.inj (hstep.symm.trans hstep')
        rcases hnext with ⟨-, hsep', -⟩ | ⟨-, hsep', -⟩
        · exact ⟨_, hsep'⟩
        · exact ⟨_, hsep'⟩
      · -- the queue hands back a handler that had finished
        exact ⟨active, hsep.delete hi hf⟩

/-- The stream of the active handler ends after the remaining chunks. -/
theorem Separate.completes (n : ℕ) : ∀ {s : FetchService Arg Value} {h : FetchHandler Arg Value}
    {dt : ByteDataTypes} {bytes : List UInt8} {k : ℕ}, Separate harness s (some i) →
    s.handlers[i]? = some h → 0 < k → Sending harness s.logic h dt bytes k →
    k + n = numChunks h.req bytes → ∀ events : List (Bool × CallContext Value),
      events.length = n + 1 → ∃ s' h',
        harness.fetchService.run s (events.map fun e => .proceed i e.1 e.2) = some s' ∧
          s'.handlers[i]? = some h' ∧ h'.req = h.req ∧ h'.env = h.env ∧ h'.status = .finish ∧
            h'.Isolated harness := by
  induction n with
  | zero =>
    intro s h dt bytes k hsep hi hk hsend hn events hlen
    obtain ⟨⟨ok, env⟩, rfl⟩ := List.length_eq_one_iff.mp hlen
    obtain ⟨s', h', hstep, hi', hreq, henv, ⟨hlt, -⟩ | ⟨-, hsep', hf⟩⟩ :=
      hsep.proceed hi hk hsend ok env
    · omega
    · exact ⟨s', h', (TransitionSystem.run_singleton _ _).trans hstep, hi', hreq, henv, hf,
        hsep'.isolated h' (List.mem_of_getElem? hi')⟩
  | succ n ih =>
    intro s h dt bytes k hsep hi hk hsend hn events hlen
    obtain ⟨⟨ok, env⟩, rest, rfl⟩ := List.exists_cons_of_length_eq_add_one hlen
    obtain ⟨s₁, h₁, hstep, hi₁, hreq, henv, ⟨-, hsep₁, hsend₁⟩ | ⟨heq, -⟩⟩ :=
      hsep.proceed hi hk hsend ok env
    · obtain ⟨s', h', hrun, hi', hreq', henv', hf, hiso⟩ := ih hsep₁ hi₁ (Nat.succ_pos k) hsend₁
        (by rw [hreq]; omega) rest (Nat.succ.inj hlen)
      refine ⟨s', h', ?_, hi', hreq'.trans hreq, henv'.trans henv, hf, hiso⟩
      rw [List.map_cons, TransitionSystem.run_cons, hstep]
      exact hrun
    · omega

/-- **Streams are isolated in every admitted run.** Every handler serves its request as if it were
the only one, or tells its client of an error; an admitted request is handled; and a handler in the
middle of its stream is through after a number of completed calls, whatever their flags. -/
theorem isolated_of_admitted
    (hs : harness.fetchService.ReachableWhile (FetchAdmitted harness) s) :
    (∀ h ∈ s.handlers, h.Isolated harness) ∧
    (∀ req env, FetchAdmitted harness s (.arrive req env) →
      (harness.fetchService.step s (.arrive req env)).isSome) ∧
    ∀ i h, s.handlers[i]? = some h → h.status = .process → ∃ n,
      ∀ events : List (Bool × CallContext Value), events.length = n → ∃ s' h',
        harness.fetchService.run s (events.map fun e => .proceed i e.1 e.2) = some s' ∧
          s'.handlers[i]? = some h' ∧ h'.req = h.req ∧ h'.env = h.env ∧ h'.status = .finish ∧
            h'.Isolated harness := by
  obtain ⟨active, hsep⟩ := separate_of_admitted hs
  refine ⟨hsep.isolated, ?_, ?_⟩
  · rintro req env ⟨hquiet, hfit⟩
    obtain rfl : active = none := hsep.active_eq_none hquiet
    obtain ⟨s', _, hstep, -⟩ := hsep.arrive hfit
    rw [hstep]
    rfl
  · intro i h hi hp
    obtain rfl := (hsep.process_iff i h hi).mp hp
    obtain ⟨h', hi', dt, bytes, k, hk, hsend⟩ := hsep.sending i rfl
    obtain rfl := Option.some.inj (hi.symm.trans hi')
    have hle := hsend.le
    exact ⟨numChunks h.req bytes - k + 1, fun events hlen =>
      hsep.completes _ hi hk hsend (by omega) events hlen⟩

/-! ### Requests that get a vector -/

private theorem toOption_eq_some_iff {ε α : Type} {e : Except ε α} {a : α} :
    e.toOption = some a ↔ e = .ok a := by
  rcases e with e | b
  · exact ⟨nofun, nofun⟩
  · exact ⟨fun h => congrArg Except.ok (Option.some.inj h),
      fun h => congrArg some (Except.ok.inj h)⟩

/-- A request that gets a vector is admitted on the same terms. -/
theorem FetchServed.admitted {l : ServiceLabel (CallContext Value) (ChunkRequest Arg)}
    (h : FetchServed harness s l) : FetchAdmitted harness s l := by
  cases l with
  | proceed => trivial
  | arrive req env =>
    obtain ⟨hquiet, view, hview, hfit⟩ := h
    refine ⟨hquiet, fun view' hview' => ?_⟩
    obtain rfl := Option.some.inj (hview.symm.trans hview')
    exact hfit

/-- An isolated handler serves its request if and only if this gets a vector: the client of a
request without one gets an error and no `Finish`. -/
theorem HandlerBase.Isolated.served_iff (hiso : h.Isolated harness) :
    h.Served harness ↔ ∃ view, harness.fetched h.req h.env.answers = .ok view := by
  constructor
  · rintro ⟨v, vector, hv, hvector, -⟩
    refine ⟨vector, ?_⟩
    rw [DeviceHarness.fetched, hv]
    exact toOption_eq_some_iff.mp hvector
  · rintro ⟨view, hview⟩
    obtain ⟨v, hv, hvview⟩ := exists_invocation_of_fetched hview
    have hvector : v.vector = some view := toOption_eq_some_iff.mpr hvview
    have hinvoked : h.invoked = [v] := by
      rw [hiso.invoked, hv]
      rfl
    exact ⟨v, view, hv, hvector, hinvoked,
      hiso.served v (hinvoked ▸ List.mem_singleton_self v) view hvector⟩

/-- In a run of requests that get vectors, each handler's request gets one. -/
theorem fetched_of_served (hs : harness.fetchService.ReachableWhile (FetchServed harness) s) :
    ∀ h ∈ s.handlers, ∃ view, harness.fetched h.req h.env.answers = .ok view := by
  refine hs.invariant
    (P := fun s => ∀ h ∈ s.handlers, ∃ view, harness.fetched h.req h.env.answers = .ok view) ?_ ?_
  · exact fun h hmem => absurd hmem List.not_mem_nil
  · rintro s l s' - hall hl hstep h hmem
    cases l with
    | arrive req env =>
      obtain ⟨r, -, rfl⟩ := Logic.step_arrive.mp hstep
      obtain hold | hnew := List.mem_append.mp hmem
      · exact hall h hold
      · obtain rfl := List.mem_singleton.mp hnew
        obtain ⟨-, view, hview, -⟩ := hl
        exact ⟨view, toOption_eq_some_iff.mp hview⟩
    | proceed i ok env =>
      -- a handler keeps its request, whether it works on or is deleted
      change harness.fetchDataLogic.step s (.proceed i ok env) = some s' at hstep
      obtain ⟨g, hi, ⟨-, r, -, rfl⟩ | ⟨-, rfl⟩⟩ := Logic.step_proceed hstep
      · obtain hold | rfl := List.mem_or_eq_of_mem_set hmem
        · exact hall h hold
        · exact hall g (List.mem_of_getElem? hi)
      · obtain hold | rfl := List.mem_or_eq_of_mem_set hmem
        · exact hall h hold
        · exact hall g (List.mem_of_getElem? hi)

/-- **Streams are isolated in every run of requests that get vectors and do not overlap.** Every
handler serves its request as if it were the only one; such a request is handled; and a handler in
the middle of its stream is through after a number of completed calls, whatever their flags. -/
theorem fetchData_isolated (hs : harness.fetchService.ReachableWhile (FetchServed harness) s) :
    (∀ h ∈ s.handlers, h.Served harness) ∧
    (∀ req env, FetchServed harness s (.arrive req env) →
      (harness.fetchService.step s (.arrive req env)).isSome) ∧
    ∀ i h, s.handlers[i]? = some h → h.status = .process → ∃ n,
      ∀ events : List (Bool × CallContext Value), events.length = n → ∃ s' h',
        harness.fetchService.run s (events.map fun e => .proceed i e.1 e.2) = some s' ∧
          s'.handlers[i]? = some h' ∧ h'.req = h.req ∧ h'.status = .finish ∧
            h'.Served harness := by
  have hvectors := fetched_of_served hs
  obtain ⟨hisolated, hhandled, hends⟩ := isolated_of_admitted (hs.mono fun _ _ _ hl => hl.admitted)
  refine ⟨fun h hmem => ?_, fun req env hl => hhandled req env hl.admitted, fun i h hi hp => ?_⟩
  · exact (hisolated h hmem).served_iff.mpr (hvectors h hmem)
  · obtain ⟨n, hn⟩ := hends i h hi hp
    refine ⟨n, fun events hlen => ?_⟩
    obtain ⟨s', h', hrun, hi', hreq, henv, hfinish, hiso⟩ := hn events hlen
    have hview := hvectors h (List.mem_of_getElem? hi)
    rw [← hreq, ← henv] at hview
    exact ⟨s', h', hrun, hi', hreq, hfinish, hiso.served_iff.mpr hview⟩

/-! ### From the device to the client -/

/-- An invocation that returned an accepted vector leads to its bytes in memory. -/
theorem Invocation.vector_of_answer {v : Invocation Value} {tp : ElemType} {vals : List tp.Raw}
    {dt : ByteDataTypes} (hans : v.answer = .ok (.vector tp vals))
    (htag : bdtMap.lookup tp = some dt) : v.vector = some (dt, memoryBytes vals) := by
  have hbytes : byteViewData (.vector tp vals : Returned Value) = .ok (dt, memoryBytes vals) :=
    byteViewData_eq_ok_iff.mpr ⟨tp, vals, rfl, htag, rfl⟩
  rw [Invocation.vector, Invocation.view, hans]
  simp only [Returned.isSequentialContainer, if_true, hbytes]
  rfl

/-- **What an isolated stream brings to the client is what the device returned**: the messages of
a handler that is through, read together at their tag by the C++ client. -/
theorem HandlerBase.Isolated.decodes (hiso : h.Isolated harness) (hdone : h.status ≠ .process)
    {v : Invocation Value} (hv : v ∈ h.invoked) {tp : ElemType} {vals : List tp.Raw}
    {dt : ByteDataTypes} (hans : v.answer = .ok (.vector tp vals))
    (htag : bdtMap.lookup tp = some dt) (hread : ElemType.ofTag dt = some tp)
    (hpos : 0 < tp.sizeof) : ∃ chunks : List Datachunk,
      h.calls = chunks.map .write ++ [.finish] ∧ (∀ chunk ∈ chunks, chunk.dtp = dt) ∧
        ftVariantFromData dt (chunks.flatMap Datachunk.data) = ⟨tp, vals⟩ := by
  have hvec := Invocation.vector_of_answer hans htag
  obtain ⟨chunks, hhead, ⟨hp, -⟩ | ⟨-, hcalls, hdata⟩⟩ := hiso.served v hv _ hvec
  · exact absurd hp hdone
  · refine ⟨chunks, hcalls, fun chunk hmem => (hhead chunk hmem).2.1, ?_⟩
    rw [hdata]
    exact ftVariantFromData_memoryBytes hread hpos vals

/-! ### Overlapping streams -/

/-- **An overlap breaks isolation.** A request that arrives while another is in the middle of its
stream gets the next message of that stream, whatever it asked for. -/
theorem not_isolated_of_overlap
    (hs : harness.fetchService.ReachableWhile (FetchAdmitted harness) s)
    (hbusy : ∃ h ∈ s.handlers, h.status = .process) {req : ChunkRequest Arg}
    {env : CallContext Value} (hstep : harness.fetchService.step s (.arrive req env) = some s') :
    ∃ h ∈ s'.handlers, h.req = req ∧ ¬ h.Isolated harness := by
  obtain ⟨active, hsep⟩ := separate_of_admitted hs
  obtain ⟨g, hg, hp⟩ := hbusy
  obtain ⟨i, hi⟩ := List.mem_iff_getElem?.mp hg
  obtain rfl := (hsep.process_iff i g hi).mp hp
  obtain ⟨g', hi', dt, bytes, k, hk, hsend⟩ := hsep.sending i rfl
  have hmid : s.logic.thischunk ≠ 0 := hsend.thischunk_ne_zero hk
  obtain ⟨r, hr, rfl⟩ := Logic.step_arrive.mp hstep
  rw [fetchDataLogic_process, FetchDataLogic.handleRequest, if_neg hmid] at hr
  obtain rfl := Option.some.inj hr
  refine ⟨_, List.mem_append_right _ (List.mem_singleton_self _), rfl, ?_⟩
  rintro ⟨hinv, -, hrefused⟩
  -- no device is invoked, and the one message is not an error
  have hnone : ∀ v ∈ ((harness.fetchDataLogic.newHandler req env).update
      ((s.logic.sendChunk harness.fetchDataLogic.emptyReply []).caught datachunkWriter)).invoked,
      v.vector = none := by
    intro v hv
    rw [HandlerBase.update, sendChunk_caught _ _ []] at hv
    cases hv
  obtain ⟨hstatus, err, hcalls⟩ := hrefused hnone
  rw [HandlerBase.update, FetchDataLogic.sendChunk] at hcalls
  split at hcalls
  · simp [Handled.caught, Logic.newHandler, DeviceHarness.fetchDataLogic] at hcalls
  · split at hcalls
    · simp [Handled.caught, Logic.newHandler, DeviceHarness.fetchDataLogic] at hcalls
    · simp [Handled.caught, Logic.newHandler] at hcalls

end Invariant

/-- Two devices with one capability each, that streams. -/
def twoCameras : DeviceHarness Unit Unit Unit Unit where
  devvec := List.replicate 2 ⟨fun capname => if capname = "image" then some ⟨.stream, []⟩ else none⟩
  wireTypeToVariant _ _ := .ok ()
  getVariantWireType _ := .ok ()

/-- A request for the image of a device, two bytes at a time. -/
def imageRequest (devid : UInt32) : ChunkRequest Unit := ⟨1, devid, "image", [], 2, 0⟩

/-- The device can be locked and answers with these bytes. -/
def imageContext (vals : List ElemType.uchar.Raw) : CallContext Unit where
  clientMetadata := []
  sessions := .new 0
  answers := ⟨fun _ _ => .ok (), fun _ _ _ => .ok (.vector .uchar vals)⟩

/-- The image of device 0 is sent, then that of device 1; device 7 does not exist. -/
def sequentialTrace : List (ServiceLabel (CallContext Unit) (ChunkRequest Unit)) :=
  [.arrive (imageRequest 0) (imageContext [1, 2, 3]), .proceed 0 true (imageContext []),
   .proceed 0 false (imageContext []), .arrive (imageRequest 7) (imageContext [5]),
   .arrive (imageRequest 1) (imageContext [7, 8, 9])]

/-- The image of device 0 is sent and its handler deleted, then that of device 1 is begun. -/
def servedTrace : List (ServiceLabel (CallContext Unit) (ChunkRequest Unit)) :=
  [.arrive (imageRequest 0) (imageContext [1, 2, 3]), .proceed 0 true (imageContext []),
   .proceed 0 false (imageContext []), .proceed 0 true (imageContext []),
   .arrive (imageRequest 1) (imageContext [7, 8, 9])]

theorem fetchData_isolated_servedTrace : ∃ s,
    twoCameras.fetchService.run twoCameras.fetchService.init servedTrace = some s ∧
      s.handlers.map (fun h => h.status) = [.deleted, .process] ∧
      (∀ h ∈ s.handlers, h.Served twoCameras) ∧
      (∀ req env, FetchServed twoCameras s (.arrive req env) →
        (twoCameras.fetchService.step s (.arrive req env)).isSome) ∧
      ∀ i h, s.handlers[i]? = some h → h.status = .process → ∃ n,
        ∀ events : List (Bool × CallContext Unit), events.length = n → ∃ s' h',
          twoCameras.fetchService.run s (events.map fun e => .proceed i e.1 e.2) = some s' ∧
            s'.handlers[i]? = some h' ∧ h'.req = h.req ∧ h'.status = .finish ∧
              h'.Served twoCameras := by
  have hrun : (twoCameras.fetchService.run twoCameras.fetchService.init servedTrace).map
      (fun s => s.handlers.map fun h => h.status) = some [.deleted, .process] := by decide
  obtain ⟨s, hs, hstatus⟩ := Option.map_eq_some_iff.mp hrun
  have hreach : twoCameras.fetchService.ReachableWhile (FetchServed twoCameras) s :=
    TransitionSystem.ReachableWhile.init.run (by decide) hs
  exact ⟨s, hs, hstatus, fetchData_isolated hreach⟩

/-- A request for device 1 arrives while the image of device 0 is being sent. -/
def overlappingTrace : List (ServiceLabel (CallContext Unit) (ChunkRequest Unit)) :=
  [.arrive (imageRequest 0) (imageContext [1, 2, 3]),
   .arrive (imageRequest 1) (imageContext [7, 8, 9])]

/-- **A client gets another client's data**: the request for device 1 is sent the rest of the image
of device 0, and device 1 is not invoked. -/
theorem fetchData_crossed : ∃ s, twoCameras.fetchService.Reachable s ∧
    ∃ h ∈ s.handlers, h.req.devid = 1 ∧ ¬ h.Served twoCameras := by
  have hrun : (twoCameras.fetchService.run twoCameras.fetchService.init overlappingTrace).map
      (fun s => s.handlers.map fun h => (h.req.devid, h.invoked.length)) =
        some [(0, 1), (1, 0)] := by decide
  obtain ⟨s, hs, hfacts⟩ := Option.map_eq_some_iff.mp hrun
  refine ⟨s, TransitionSystem.reachable_of_run hs, ?_⟩
  obtain ⟨h, hmem, hh⟩ := List.mem_map.mp
    (hfacts ▸ List.mem_cons_of_mem _ (List.mem_singleton_self (1, 0)))
  simp only [Prod.mk.injEq] at hh
  obtain ⟨hdev, hinv⟩ := hh
  refine ⟨h, hmem, hdev, ?_⟩
  rintro ⟨v, -, -, -, hinvoked, -⟩
  rw [hinvoked] at hinv
  cases hinv

end Foxtrot
