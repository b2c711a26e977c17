import Foxtrot.Client.RemoteCalls

/-!
# Streams in the clients

`Capability.__call__` of the Python client (`python/pyfoxtrot/Client.py`), for a stream, next to
`FetchData` of the C++ client: both put the bytes of all chunks together and read them under the tag
of the last one. The Python client knows fewer tags, has no tag if there was no chunk, and asks the
stub of a stream for the method `with_call`, which stubs of streams do not have, when it has an
active session.

**What a stream is to its caller** (`streams_received`): in a run without overlapping streams, the
vector that the request's own device has returned, as far as the language reads its tag. `short` is
tagged as `unsigned short`. An empty vector has no chunks, which is an exception in Python; a vector
of `char` is empty in C++. If there is no vector to send, both clients throw. A Python client with
an active session gets no stream at all.

In a run of admitted steps a handler has written the chunks of one vector, in order
(`HandlerBase.vector`); here they are read by both clients. None of the chunks is empty, so a client
that has received no chunk knows that the vector was empty, and the tag of the last chunk is that of
the vector.
-/

namespace Foxtrot

open Fallible

/-! ### The Python client -/

namespace Python

/-- Why the call of a stream raises. -/
inductive StreamException where
  /-- Before there was a request. -/
  | constructing (e : PyException)
  /-- `AttributeError`, for `with_call`. -/
  | withCall
  /-- By a chunk. -/
  | checking (e : ReplyException)
  /-- `UnboundLocalError`, for `dtp`. -/
  | noChunk
  /-- By the bytes. -/
  | unpacking (e : PyError)

/-- The loop over the chunks, with the bytes so far and the variable `dtp`. -/
def receiveChunks (rawbytes : List UInt8) (dtp : Option ByteDataTypes) :
    List Datachunk → Except StreamException (List UInt8 × Option ByteDataTypes)
  | [] => .ok (rawbytes, dtp)
  | chunk :: chunks => do
    (checkReplErr chunk.err).mapError .checking
    receiveChunks (rawbytes ++ chunk.data) (some chunk.dtp) chunks

/-- `structstr`, for a tag other than `UCHAR_TYPE`. -/
def streamStructstr (dtp : ByteDataTypes) (length : ℕ) : Except PyError StructString :=
  match dtp with
  | .ushortType => .ok ⟨length / 2, .uint16⟩
  | .uintType => .ok ⟨length / 4, .uint32⟩
  | .iintType => .ok ⟨length / 4, .int32⟩
  | .bdoubleType => .ok ⟨length / 8, .float64⟩
  | _ => .error (.notImplementedError "data type not supported yet")

/-- `_process_sync_response`, of a stream, after the loop. -/
def readStream (rawbytes : List UInt8) : Option ByteDataTypes → Except StreamException (List Scalar)
  | none => .error .noChunk
  | some .ucharType => .ok (rawbytes.map fun b => .int b.toNat)
  | some dtp => do
    let structstr ← (streamStructstr dtp rawbytes.length).mapError .unpacking
    (structUnpack structstr rawbytes).mapError .unpacking

/-- `_process_sync_response`, of a stream. -/
def processStream (chunks : List Datachunk) : Except StreamException (List Scalar) := do
  let (rawbytes, dtp) ← receiveChunks [] none chunks
  readStream rawbytes dtp

/-- The request as the server reads it. The contention timeout is not set. -/
def Request.receivedChunk (req : Request) :
    ChunkRequest (Foxtrot.CapabilityArgument FtVariant) where
  msgid := ⟨req.msgid⟩
  devid := ⟨req.devid⟩
  capname := req.capname
  args := req.args.map CapabilityArgument.received
  chunksize := ⟨req.chunksize.getD 0⟩
  contentionTimeout := 0

/-- `Capability.__call__`, of a stream, with what it leaves of the object; `stub` is the stub of
`FetchData`. -/
def Capability.callStream (cap : Capability) (args : List PyValue) (kwargs : Kwargs)
    (activeSecret : Option (List UInt8))
    (stub : ChunkRequest (Foxtrot.CapabilityArgument FtVariant) → List Datachunk) :
    Capability × Except StreamException (List Scalar) :=
  match constructRequest cap args kwargs with
  | (.error e, cap) => (cap, .error (.constructing e))
  | (.ok req, cap) =>
    match activeSecret with
    | none => (cap, processStream (stub req.receivedChunk))
    | some _ => (cap, .error .withCall)

end Python

/-! ### What a stream brings -/

section Vector

variable {Ty Arg Value Wire : Type}

/-- The chunks of a handler. -/
def HandlerBase.written (h : FetchHandler Arg Value) : List Datachunk :=
  h.calls.filterMap fun
    | .write chunk => some chunk
    | _ => none

/-- The vector that the device of a request has returned, if it can be sent. -/
def HandlerBase.vector (harness : DeviceHarness Ty Arg Value Wire) (h : FetchHandler Arg Value) :
    Option VectorVariant :=
  match harness.fetchInvocation h.req h.env.answers with
  | .ok ⟨_, _, _, .ok (.vector tp vals)⟩ =>
    if (bdtMap.lookup tp).isSome then some ⟨tp, vals⟩ else none
  | _ => none

/-- A vector in Python. -/
def Python.streamed : VectorVariant → Except StreamException (List Scalar)
  | ⟨_, []⟩ => .error .noChunk
  | ⟨.uchar, vals⟩ => .ok (vals.map fun v => .int v.toNat)
  | ⟨.ushort, vals⟩ | ⟨.short, vals⟩ => .ok (vals.map fun v => .int v.toNat)
  | ⟨.uint, vals⟩ => .ok (vals.map fun v => .int v.toNat)
  | ⟨.int, vals⟩ => .ok (vals.map fun v => .int v.toInt)
  | ⟨.double, vals⟩ => .ok (vals.map .double)
  | _ => .error (.unpacking (.notImplementedError "data type not supported yet"))

/-- A vector in C++. -/
def Client.streamed : VectorVariant → VectorVariant
  | ⟨_, []⟩ | ⟨.char, _⟩ => ⟨.uchar, []⟩
  | ⟨.short, vals⟩ => ⟨.ushort, vals⟩
  | v => v

end Vector

/-! ### Chunks with something in them -/

section Chunks

variable {Ty Arg Value Wire : Type} {harness : DeviceHarness Ty Arg Value Wire}
  {s : FetchService Arg Value} {h : FetchHandler Arg Value}

/-- A chunk has an error, or bytes. -/
def Datachunk.Brings (chunk : Datachunk) : Prop :=
  chunk.err = none → chunk.data ≠ []

/-- A step of `HandleRequest` sends no empty chunk. -/
theorem brings_of_sendChunk {logic : FetchDataLogic} {c k : ℕ} {bytes : List UInt8}
    (hloaded : logic.Loaded c bytes k) (hc : 0 < c) (hk : k ≤ Pieces.count c bytes.length)
    (repl : Datachunk) (invoked : List (Invocation Value)) :
    ∀ chunk, .write chunk ∈ ((logic.sendChunk repl invoked).caught datachunkWriter).calls →
      chunk.Brings := by
  intro chunk hmem
  rcases Nat.lt_or_eq_of_le hk with hlt | rfl
  · obtain ⟨logic', -, hsend⟩ := hloaded.sendChunk_of_lt hc hlt repl invoked
    rw [hsend] at hmem
    obtain rfl := ResponderCall.write.inj (List.mem_singleton.mp hmem)
    have hpos := Pieces.lt_length_of_lt_count hc hlt
    intro _ hnil
    have hlen := congrArg List.length hnil
    rw [Pieces.piece, List.length_take, List.length_drop, List.length_nil] at hlen
    omega
  · rw [hloaded.sendChunk_of_eq] at hmem
    cases List.mem_singleton.mp hmem

/-- The first step of a request that fits sends no empty chunk. -/
theorem brings_of_first {logic : FetchDataLogic} {req : ChunkRequest Arg}
    {env : CallContext Value} (hidle : logic.thischunk = 0)
    (hfit : ∀ view ∈ (harness.fetched req env.answers).toOption,
      req.chunksize ≠ 0 ∧ view.2.length < 2 ^ 32)
    {r : Handled FetchDataLogic Datachunk (Invocation Value) Bool}
    (hr : harness.fetchDataLogic.process logic env req harness.fetchDataLogic.emptyReply =
      some r) : ∀ chunk, .write chunk ∈ r.calls → chunk.Brings := by
  rcases hview : harness.fetched req env.answers with refusal | ⟨dt, bytes⟩
  · obtain ⟨r', hr', -, hcalls, -⟩ := process_of_refused hidle hview
      harness.fetchDataLogic.emptyReply
    obtain rfl := Option.some.inj (hr.symm.trans hr')
    intro chunk hmem hnone
    rw [hcalls] at hmem
    obtain rfl := ResponderCall.write.inj (List.mem_singleton.mp hmem)
    cases hnone
  · obtain ⟨hchunk, hlen⟩ := hfit (dt, bytes) (by rw [hview]; rfl)
    obtain ⟨logic', hloaded, hreq⟩ := initialRequest_of_fetched hidle hview hchunk hlen
    have hpos : 0 < req.chunksize.toNat :=
      Nat.pos_of_ne_zero fun hzero => hchunk (UInt32.toNat_inj.mp hzero)
    rw [fetchDataLogic_process, FetchDataLogic.handleRequest, if_pos hidle, hreq] at hr
    obtain rfl := Option.some.inj hr
    exact brings_of_sendChunk hloaded hpos (Nat.zero_le _) _ _

/-- A chunk has been written exactly if there was a call for it. -/
private theorem mem_written_iff {chunk : Datachunk} :
    chunk ∈ h.written ↔ .write chunk ∈ h.calls := by
  rw [HandlerBase.written, List.mem_filterMap]
  constructor
  · rintro ⟨call, hcall, hchunk⟩
    cases call with
    | write chunk' =>
      obtain rfl := Option.some.inj hchunk
      exact hcall
    | finish | finishWith _ => cases hchunk
  · exact fun hcall => ⟨_, hcall, rfl⟩

/-- **In a run of admitted steps no empty chunk is sent.** -/
theorem brings_of_admitted (hs : harness.fetchService.ReachableWhile (FetchAdmitted harness) s) :
    ∀ h ∈ s.handlers, ∀ chunk ∈ h.written, chunk.Brings := by
  refine hs.invariant (P := fun s => ∀ h ∈ s.handlers, ∀ chunk ∈ h.written, chunk.Brings) ?_ ?_
  · intro h hmem
    cases hmem
  · rintro s l s' hs hold hl hstep h hmem chunk hchunk
    obtain ⟨active, hsep⟩ := separate_of_admitted hs
    rcases l with ⟨req, env⟩ | ⟨i, ok, env⟩
    · obtain ⟨hquiet, hfit⟩ := hl
      obtain rfl : active = none := hsep.active_eq_none hquiet
      obtain ⟨r, hr, rfl⟩ := Logic.step_arrive.mp hstep
      obtain hmem | hmem := List.mem_append.mp hmem
      · exact hold h hmem chunk hchunk
      · obtain rfl := List.mem_singleton.mp hmem
        exact brings_of_first (hsep.idle rfl) hfit hr chunk (mem_written_iff.mp hchunk)
    · change harness.fetchDataLogic.step s (.proceed i ok env) = some s' at hstep
      obtain ⟨h₀, hi, ⟨hp, r, hr, rfl⟩ | ⟨-, rfl⟩⟩ := Logic.step_proceed hstep
      · -- the active handler goes on with its stream
        obtain rfl := (hsep.process_iff i h₀ hi).mp hp
        obtain ⟨h₁, hi₁, dt, bytes, k, hk, hsend⟩ := hsep.sending i rfl
        obtain rfl := Option.some.inj (hi.symm.trans hi₁)
        rw [fetchDataLogic_process, FetchDataLogic.handleRequest,
          if_neg (hsend.thischunk_ne_zero hk)] at hr
        obtain rfl := Option.some.inj hr
        obtain hmem | rfl := List.mem_or_eq_of_mem_set hmem
        · exact hold h hmem chunk hchunk
        · obtain hcall | hcall := List.mem_append.mp (mem_written_iff.mp hchunk)
          · exact hold h₀ (List.mem_of_getElem? hi) chunk (mem_written_iff.mpr hcall)
          · exact brings_of_sendChunk hsend.loaded hsend.chunksize hsend.le _ _ chunk hcall
      · obtain hmem | rfl := List.mem_or_eq_of_mem_set hmem
        · exact hold h hmem chunk hchunk
        · exact hold h₀ (List.mem_of_getElem? hi) chunk hchunk

end Chunks

/-! ### Reading a vector -/

section Reading

open Client

variable {chunks : List Datachunk} {dt : ByteDataTypes} {tp : ElemType} {vals : List tp.Raw}

/-- Chunks without an error are received one after the other. -/
private theorem receiveChunks_of_clean (hclean : ∀ chunk ∈ chunks, chunk.err = none)
    (bytes : List UInt8) (dtp : Option ByteDataTypes) :
    Python.receiveChunks bytes dtp chunks =
      .ok (bytes ++ received chunks, (chunks.getLast?.map Datachunk.dtp).or dtp) := by
  induction chunks generalizing bytes dtp with
  | nil => simp [Python.receiveChunks, received]
  | cons chunk chunks ih =>
    have hreceived : received (chunk :: chunks) = chunk.data ++ received chunks := rfl
    rw [Python.receiveChunks, hclean chunk List.mem_cons_self]
    change Python.receiveChunks _ _ chunks = _
    rw [ih fun chunk' hmem => hclean chunk' (List.mem_cons_of_mem _ hmem), hreceived,
      List.append_assoc, List.getLast?_cons]
    cases chunks.getLast? <;> rfl

/-- The bytes of values are unpacked to these values. -/
private theorem structUnpack_of_ofElem {code : FormatCode}
    (hcode : FormatCode.ofElem tp = some code)
    (hpos : 0 < tp.sizeof) :
    structUnpack ⟨(memoryBytes vals).length / tp.sizeof, code⟩ (memoryBytes vals) =
      .ok (vals.map tp.scalar) := by
  obtain ⟨hsize, -, hitem⟩ := FormatCode.fits hcode
  rw [length_memoryBytes, Nat.mul_div_cancel _ hpos]
  exact structUnpack_memoryBytes vals hsize hitem

/-- The bytes of a vector of bytes. -/
theorem memoryBytes_uchar (vals : List ElemType.uchar.Raw) :
    (memoryBytes vals).map (fun b => Scalar.int b.toNat) = vals.map fun v => .int v.toNat := by
  induction vals with
  | nil => rfl
  | cons v vals ih =>
    have hbyte : LittleEndian.bytes ElemType.uchar.sizeof v.toNat = [UInt8.ofNat v.toNat] := by
      simp [ElemType.sizeof, LittleEndian.bytes]
    have hcons : memoryBytes (v :: vals) = UInt8.ofNat v.toNat :: memoryBytes vals := by
      rw [memoryBytes, List.flatMap_cons, hbyte]
      rfl
    have hv : (UInt8.ofNat v.toNat).toNat = v.toNat := by
      rw [UInt8.toNat_ofNat']
      exact Nat.mod_eq_of_lt v.isLt
    rw [hcons, List.map_cons, List.map_cons, hv, ih]

/-- Chunks of nothing are no chunks. -/
theorem chunks_eq_nil_iff (hbrings : ∀ chunk ∈ chunks, chunk.data ≠ []) :
    chunks = [] ↔ received chunks = [] := by
  constructor
  · rintro rfl
    rfl
  · intro hnil
    cases chunks with
    | nil => rfl
    | cons chunk chunks =>
      have happend : chunk.data ++ received chunks = [] := hnil
      exact absurd (List.append_eq_nil_iff.mp happend).1 (hbrings chunk List.mem_cons_self)

/-- The chunks of a vector that is not empty have its tag in the end. -/
theorem getLast?_dtp (hclean : ∀ chunk ∈ chunks, chunk.err = none ∧ chunk.dtp = dt)
    (hdata : received chunks = memoryBytes vals) (hpos : 0 < tp.sizeof) (hne : vals ≠ []) :
    ∃ chunk, chunks.getLast? = some chunk ∧ chunk.dtp = dt := by
  have hnonempty : chunks ≠ [] := by
    rintro rfl
    have hlen := congrArg List.length hdata
    rw [length_memoryBytes] at hlen
    exact (Nat.mul_pos (List.length_pos_of_ne_nil hne) hpos).ne hlen
  exact ⟨_, List.getLast?_eq_some_getLast hnonempty, (hclean _ (List.getLast_mem hnonempty)).2⟩

/-- The elements that can be sent have a size. -/
theorem sizeof_pos_of_lookup (htag : bdtMap.lookup tp = some dt) : 0 < tp.sizeof := by
  cases tp with
  | other name sizeof => cases htag
  | _ => decide

/-- The bytes of a vector are read as its numbers. -/
theorem readStream_memoryBytes (htag : bdtMap.lookup tp = some dt) (hne : vals ≠ []) :
    Python.readStream (memoryBytes vals) (some dt) = Python.streamed ⟨tp, vals⟩ := by
  have hunpack (tp : ElemType) {code : FormatCode} (vals : List tp.Raw)
      (hcode : FormatCode.ofElem tp = some code) (hpos : 0 < tp.sizeof) :
      (structUnpack ⟨(memoryBytes vals).length / tp.sizeof, code⟩ (memoryBytes vals)).mapError
        Python.StreamException.unpacking = .ok (vals.map tp.scalar) := by
    rw [structUnpack_of_ofElem hcode hpos]
    rfl
  obtain ⟨v, vals, rfl⟩ := List.exists_cons_of_ne_nil hne
  cases tp with
  | uchar =>
    obtain rfl := Option.some.inj htag
    exact congrArg Except.ok (memoryBytes_uchar (v :: vals))
  | ushort =>
    obtain rfl := Option.some.inj htag
    exact hunpack _ (v :: vals) rfl (by decide)
  | short =>
    -- the tag is that of `unsigned short`
    obtain rfl := Option.some.inj htag
    exact hunpack .ushort (v :: vals) rfl (by decide)
  | uint =>
    obtain rfl := Option.some.inj htag
    exact hunpack _ (v :: vals) rfl (by decide)
  | int =>
    obtain rfl := Option.some.inj htag
    exact hunpack _ (v :: vals) rfl (by decide)
  | double =>
    obtain rfl := Option.some.inj htag
    exact hunpack _ (v :: vals) rfl (by decide)
  | char | ulong | long | float =>
    obtain rfl := Option.some.inj htag
    rfl
  | other name sizeof => cases htag

/-- **The Python client reads a vector.** -/
theorem processStream_of_vector (hclean : ∀ chunk ∈ chunks, chunk.err = none ∧ chunk.dtp = dt)
    (hbrings : ∀ chunk ∈ chunks, chunk.data ≠ []) (hdata : received chunks = memoryBytes vals)
    (htag : bdtMap.lookup tp = some dt) :
    Python.processStream chunks = Python.streamed ⟨tp, vals⟩ := by
  rw [Python.processStream, receiveChunks_of_clean fun chunk hmem => (hclean chunk hmem).1]
  obtain rfl | hne := eq_or_ne vals []
  · obtain rfl := (chunks_eq_nil_iff hbrings).mpr hdata
    cases tp <;> rfl
  · obtain ⟨chunk, hlast, rfl⟩ := getLast?_dtp hclean hdata (sizeof_pos_of_lookup htag) hne
    rw [hlast, hdata]
    exact readStream_memoryBytes htag hne

/-- **The C++ client reads a vector.** -/
theorem decoded_of_vector (hclean : ∀ chunk ∈ chunks, chunk.err = none ∧ chunk.dtp = dt)
    (hbrings : ∀ chunk ∈ chunks, chunk.data ≠ []) (hdata : received chunks = memoryBytes vals)
    (htag : bdtMap.lookup tp = some dt) :
    decoded chunks = Client.streamed ⟨tp, vals⟩ := by
  obtain rfl | hne := eq_or_ne vals []
  · obtain rfl := (chunks_eq_nil_iff hbrings).mpr hdata
    cases tp <;> rfl
  · obtain ⟨chunk, hlast, rfl⟩ := getLast?_dtp hclean hdata (sizeof_pos_of_lookup htag) hne
    rw [decoded, hlast, Option.getD_some, hdata]
    have hpos := sizeof_pos_of_lookup htag
    obtain ⟨v, vals, rfl⟩ := List.exists_cons_of_ne_nil hne
    cases tp with
    | short =>
      rw [← Option.some.inj htag]
      have hread : ElemType.ofTag .ushortType = some .ushort := rfl
      exact ftVariantFromData_memoryBytes hread hpos (v :: vals)
    | char =>
      rw [← Option.some.inj htag]
      rfl
    | other name sizeof => cases htag
    | _ =>
      rw [← Option.some.inj htag]
      exact ftVariantFromData_memoryBytes rfl hpos (v :: vals)

end Reading

/-! ### Streams of a run -/

section Run

variable {Ty Arg Value Wire : Type} {harness : DeviceHarness Ty Arg Value Wire}
  {s : FetchService Arg Value} {h : FetchHandler Arg Value}

/-- What the calls in the two languages come to: what is read of the vector, or an error of the
server. -/
def Received (vector : Option VectorVariant)
    (python : Except Python.StreamException (List Scalar)) (cpp : Except Thrown VectorVariant) :
    Prop :=
  match vector with
  | some v => python = Python.streamed v ∧ cpp = .ok (Client.streamed v)
  | none => (∃ e, python = .error (.checking e)) ∧ ∃ e, cpp = .error e

/-- The vector of a request is what its one invocation has returned. -/
theorem vector_eq_some_iff {v : VectorVariant} : h.vector harness = some v ↔
    ∃ inv dt, harness.fetchInvocation h.req h.env.answers = .ok inv ∧
      inv.answer = .ok (.vector v.1 v.2) ∧ bdtMap.lookup v.1 = some dt := by
  rw [HandlerBase.vector]
  cases harness.fetchInvocation h.req h.env.answers with
  | error refusal => simp
  | ok inv =>
    obtain ⟨devid, capname, args, e | ret⟩ := inv
    · simp
    · cases ret with
      | nested | other val => simp
      | vector tp vals =>
        simp only [Except.ok.injEq, exists_and_left, exists_eq_left']
        split_ifs with htag
        · obtain ⟨tp', vals'⟩ := v
          simp only [Option.some.injEq, Sigma.mk.injEq, Returned.vector.injEq]
          refine (and_iff_left_of_imp ?_).symm
          rintro ⟨rfl, -⟩
          exact Option.isSome_iff_exists.mp htag
        · refine iff_of_false (by simp) ?_
          rintro ⟨hvec, htag'⟩
          cases hvec
          exact htag (Option.isSome_iff_exists.mpr htag')

/-- Without a vector of its invocation a request has none to send. -/
theorem vector_eq_none_of (hnone : h.vector harness = none) {inv : Invocation Value}
    (hinv : harness.fetchInvocation h.req h.env.answers = .ok inv) : inv.vector = none := by
  rw [Option.eq_none_iff_forall_ne_some]
  rintro ⟨dt, bytes⟩ hvec
  rw [Invocation.vector, Invocation.view] at hvec
  cases hans : inv.answer with
  | error e =>
    rw [hans] at hvec
    cases hvec
  | ok ret =>
    simp only [hans] at hvec
    split_ifs at hvec
    · cases hview : byteViewData ret with
      | error e =>
        rw [hview] at hvec
        cases hvec
      | ok view =>
        obtain ⟨tp, vals, rfl, htag, -⟩ := byteViewData_eq_ok_iff.mp hview
        have hsome := (vector_eq_some_iff (v := ⟨tp, vals⟩)).mpr ⟨inv, _, hinv, hans, htag⟩
        cases hnone.symm.trans hsome
    · cases hvec

/-- What the two clients make of the chunks of a handler. -/
theorem received_written (hs : harness.fetchService.ReachableWhile (FetchAdmitted harness) s)
    (hmem : h ∈ s.handlers) (hdone : h.status ≠ .process) (client : Client)
    (devid : UInt32) (capname : String) (chunksize : UInt32) (args : List Client.FtStdVariant)
    (status : Client.Status) :
    Received (h.vector harness) (Python.processStream h.written)
      (client.fetchData devid capname chunksize args fun _ => ⟨h.written, status⟩).2 := by
  have hiso := (isolated_of_admitted hs).1 h hmem
  cases hvector : h.vector harness with
  | some v =>
    obtain ⟨inv, dt, hinv, hans, htag⟩ := vector_eq_some_iff.mp hvector
    have hmine : inv ∈ h.invoked := by
      rw [hiso.invoked, hinv]
      exact List.mem_singleton_self inv
    obtain ⟨chunks, hclean, ⟨hp, -⟩ | ⟨-, hcalls, hdata⟩⟩ :=
      hiso.served inv hmine _ (Invocation.vector_of_answer hans htag)
    · exact absurd hp hdone
    -- the handler is done with the stream, so it has written all of its chunks
    have hwritten : h.written = chunks := by
      rw [HandlerBase.written, hcalls, List.filterMap_append, List.filterMap_map]
      exact (List.append_nil _).trans (List.filterMap_some)
    have hbrings : ∀ chunk ∈ chunks, chunk.data ≠ [] := fun chunk hchunk =>
      brings_of_admitted hs h hmem chunk (hwritten ▸ hchunk) (hclean chunk hchunk).1
    have hheader : ∀ chunk ∈ chunks, chunk.err = none ∧ chunk.dtp = dt := fun chunk hchunk =>
      ⟨(hclean chunk hchunk).1, (hclean chunk hchunk).2.1⟩
    rw [hwritten]
    refine ⟨processStream_of_vector hheader hbrings hdata htag, ?_⟩
    refine (Client.fetchData_eq_ok_iff client).mpr ⟨fun chunk hchunk => (hclean chunk hchunk).1, ?_⟩
    exact (decoded_of_vector hheader hbrings hdata htag).symm
  | none =>
    -- no vector was to be sent: one chunk with an error is all there is
    have hnone : ∀ inv ∈ h.invoked, inv.vector = none := by
      intro inv hmine
      rw [hiso.invoked, Option.mem_toList] at hmine
      cases hinv : harness.fetchInvocation h.req h.env.answers with
      | error refusal =>
        rw [hinv] at hmine
        cases hmine
      | ok inv' =>
        rw [hinv] at hmine
        obtain rfl := Option.some.inj hmine
        exact vector_eq_none_of hvector hinv
    obtain ⟨-, err, hcalls⟩ := hiso.refused hnone
    have hwritten : h.written = [{ initChunk h.req with err := some err }] := by
      rw [HandlerBase.written, hcalls]
      rfl
    rw [hwritten]
    constructor
    · cases hraised : Python.checkReplErr (some err) with
      | ok u => cases Python.checkReplErr_eq_ok_iff.mp hraised
      | error e =>
        refine ⟨e, ?_⟩
        rw [Python.processStream, Python.receiveChunks]
        simp only [hraised]
        rfl
    · cases hraised : Client.checkReplErr (some err) with
      | ok u => cases Client.checkReplErr_eq_ok_iff.mp hraised
      | error e =>
        refine ⟨e, ?_⟩
        rw [Client.fetchData, Client.readChunks]
        simp only [hraised]
        rfl

/-- **Each stream is to its caller the vector of its own device**, and with an active session there
is none in Python. -/
theorem streams_received (hs : harness.fetchService.ReachableWhile (FetchAdmitted harness) s)
    (hmem : h ∈ s.handlers) (hdone : h.status ≠ .process) {cap : Python.Capability}
    {args : List Python.PyValue} {kwargs : Python.Kwargs} {req : Python.Request}
    (hreq : (Python.constructRequest cap args kwargs).1 = .ok req) (client : Client)
    (devid : UInt32) (capname : String) (chunksize : UInt32) (args' : List Client.FtStdVariant)
    (status : Client.Status) :
    Received (h.vector harness) (cap.callStream args kwargs none fun _ => h.written).2
        (client.fetchData devid capname chunksize args' fun _ => ⟨h.written, status⟩).2 ∧
      ∀ secret stub, (cap.callStream args kwargs (some secret) stub).2 = .error .withCall := by
  have hpython : (cap.callStream args kwargs none fun _ => h.written).2 =
      Python.processStream h.written := by
    cases hcall : Python.constructRequest cap args kwargs with
    | mk made cap' =>
      rw [hcall] at hreq
      obtain rfl : made = .ok req := hreq
      rw [Python.Capability.callStream, hcall]
  refine ⟨?_, fun secret stub => ?_⟩
  · rw [hpython]
    exact received_written hs hmem hdone client devid capname chunksize args' status
  · cases hcall : Python.constructRequest cap args kwargs with
    | mk made cap' =>
      rw [hcall] at hreq
      obtain rfl : made = .ok req := hreq
      rw [Python.Capability.callStream, hcall]

end Run

/-- An object for the images of device 0. -/
private def imageCapability : Python.Capability :=
  ⟨.stream, "image", [], [], rfl, 0, 0, 2⟩

theorem streams_received_sequentialTrace : ∃ s h,
    twoCameras.fetchService.run twoCameras.fetchService.init sequentialTrace = some s ∧
      h ∈ s.handlers ∧ h.vector twoCameras = some ⟨.uchar, [1, 2, 3]⟩ ∧
      Received (h.vector twoCameras) (imageCapability.callStream [] ∅ none fun _ => h.written).2
        (Client.fetchData ⟨0⟩ 0 "image" 2 [] fun _ => ⟨h.written, ⟨0, ""⟩⟩).2 ∧
      ∀ secret stub, (imageCapability.callStream [] ∅ (some secret) stub).2 = .error .withCall := by
  have hrun : (twoCameras.fetchService.run twoCameras.fetchService.init sequentialTrace).map
      (fun s => s.handlers.map fun h => (h.status, h.vector twoCameras)) =
        some [(.finish, some ⟨.uchar, [1, 2, 3]⟩), (.finish, none),
          (.process, some ⟨.uchar, [7, 8, 9]⟩)] := rfl
  obtain ⟨s, hs, hfacts⟩ := Option.map_eq_some_iff.mp hrun
  obtain ⟨h, hmem, hh⟩ := List.mem_map.mp (hfacts ▸ List.mem_cons_self)
  obtain ⟨hstatus, hvector⟩ := Prod.mk.inj hh
  have hreach : twoCameras.fetchService.ReachableWhile (FetchAdmitted twoCameras) s :=
    TransitionSystem.ReachableWhile.init.run (by decide) hs
  have hdone : h.status ≠ .process := by
    rw [hstatus]
    decide
  exact ⟨s, h, hs, hmem, hvector, streams_received hreach hmem hdone rfl ⟨0⟩ 0 "image" 2 []
    ⟨0, ""⟩⟩

end Foxtrot
