import Foxtrot.Client.SimpleValues
import Foxtrot.Server.Arguments
import Foxtrot.Server.ChunkedTransfer
import Foxtrot.Wire.Messages

/-!
# `FetchData` in the C++ client

The client (`client/include/foxtrot/client/client.h`) reads the chunks of a stream until there are
no more, puts their bytes together and decodes them under the tag of the last one. A chunk with an
error makes it throw. The final status of the stream is not asked for (`Finish` is not called), so
a stream that breaks off between two chunks is taken for a shorter one.

What a vector has to be is said by `Decodes`, without the code of the client: the bytes that arrived
are its bytes in memory, and every chunk is tagged with its type. The client returns such a vector
exactly for the streams that `fetchData_faithful_iff` describes, and for those that the server sends
of an array it returns the array (`fetchData_of_transferred`).
-/

namespace Foxtrot

/-- `Client`, with the id of its next message. -/
structure Client where
  msgid : UInt32

namespace Client

open Fallible

/-! ### The client -/

/-- `grpc::Status`. -/
structure Status where
  errorCode : ℕ
  errorMessage : String
  deriving DecidableEq

/-- `StatusCode::OK`. -/
def Status.ok (status : Status) : Prop :=
  status.errorCode = 0

/-- What a call of `FetchData` leads to: the chunks that arrive, and the status in the end. -/
structure ChunkStream where
  chunks : List Datachunk
  status : Status

/-- `ft_variant_visitor`. The size of a string is not set. -/
def ftVariantVisitor : FtStdVariant → FtSimplevariant
  | .double i => { value := .dblval i, size := 8 }
  | .int d => { value := .intval (d.signExtend 64), size := 4 }
  | .bool i => { value := .boolval i, size := 1 }
  | .string s => { value := .stringval s }

/-- `fill_args`. -/
def fillArgs (args : List FtStdVariant) : List (CapabilityArgument FtVariant) :=
  args.zipIdx.map fun arg => ⟨UInt32.ofNat arg.2, .simplevar (ftVariantVisitor arg.1)⟩

/-- The request of `FetchData`. The contention timeout is not set. -/
def chunkRequest (client : Client) (devid : UInt32) (capname : String) (chunksize : UInt32)
    (args : List FtStdVariant) : ChunkRequest (CapabilityArgument FtVariant) where
  msgid := client.msgid
  devid := devid
  capname := capname
  args := fillArgs args
  chunksize := chunksize
  contentionTimeout := 0

/-- The loop of `FetchData`, with the bytes so far and the message that is read into. -/
def readChunks (bytes : List UInt8) (repl : Datachunk) :
    List Datachunk → Except Thrown (List UInt8 × Datachunk)
  | [] => .ok (bytes, repl)
  | chunk :: chunks => do
    let bytes := bytes ++ chunk.data
    checkReplErr chunk.err
    readChunks bytes chunk chunks

/-- A `datachunk` that nothing has been read into. -/
def emptyChunk : Datachunk :=
  ⟨[], 0, 0, "", none, .ucharType⟩

/-- `Client::FetchData`, with `stub` for the server and the way there. Its `dataid` is not used. -/
def fetchData (client : Client) (devid : UInt32) (capname : String) (chunksize : UInt32)
    (args : List FtStdVariant) (stub : ChunkRequest (CapabilityArgument FtVariant) → ChunkStream) :
    Client × Except Thrown VectorVariant :=
  let req := client.chunkRequest devid capname chunksize args
  let reader := stub req
  (⟨client.msgid + 1⟩, do
    let (bytes, repl) ← readChunks [] emptyChunk reader.chunks
    return ftVariantFromData repl.dtp bytes)

/-! ### What a stream says -/

/-- The bytes that arrived. -/
def received (chunks : List Datachunk) : List UInt8 :=
  chunks.flatMap Datachunk.data

/-- A vector is the decoding of the bytes that arrived: every chunk is tagged with its type, and
they are its bytes in memory. -/
def Decodes (chunks : List Datachunk) (v : VectorVariant) : Prop :=
  (∀ chunk ∈ chunks, ElemType.ofTag chunk.dtp = some v.1) ∧ memoryBytes v.2 = received chunks

/-- No chunk has an error, and the stream ended well. -/
def ChunkStream.Complete (stream : ChunkStream) : Prop :=
  (∀ chunk ∈ stream.chunks, chunk.err = none) ∧ stream.status.ok

/-- A vector is returned only for a complete stream, and decodes it; if one does, one is returned.
Otherwise the client throws. -/
structure Faithful (stream : ChunkStream) (outcome : Except Thrown VectorVariant) : Prop where
  returned : ∀ v, outcome = .ok v → stream.Complete ∧ Decodes stream.chunks v
  complete : stream.Complete → (∃ v, Decodes stream.chunks v) → ∃ v, outcome = .ok v

/-- A vector of some type can be read from the chunks. -/
def Decodable (chunks : List Datachunk) : Prop :=
  chunks = [] ∨ ∃ tp : ElemType, (∀ chunk ∈ chunks, ElemType.ofTag chunk.dtp = some tp) ∧
    tp.sizeof ∣ (received chunks).length

/-! ### Reading the chunks -/

/-- What the client makes of chunks without errors: the bytes, read under the last tag. -/
def decoded (chunks : List Datachunk) : VectorVariant :=
  ftVariantFromData (chunks.getLast?.getD emptyChunk).dtp (received chunks)

section Reading

variable {chunks : List Datachunk} {bytes bytes' : List UInt8} {repl last : Datachunk}

/-- Every error in a reply is thrown. -/
theorem checkReplErr_eq_ok_iff {err : Option Errstatus} :
    checkReplErr err = .ok () ↔ err = none := by
  cases err with
  | none => exact iff_of_true rfl rfl
  | some err =>
    refine iff_of_false (fun h => ?_) (by simp)
    rw [checkReplErr] at h
    split at h <;> cases h

/-- The loop gets to the end of chunks without errors. -/
theorem readChunks_eq_ok_iff :
    readChunks bytes repl chunks = .ok (bytes', last) ↔
      (∀ chunk ∈ chunks, chunk.err = none) ∧ bytes' = bytes ++ received chunks ∧
        last = chunks.getLast?.getD repl := by
  induction chunks generalizing bytes repl with
  | nil => simp [readChunks, received, eq_comm]
  | cons chunk chunks ih =>
    have hreceived : received (chunk :: chunks) = chunk.data ++ received chunks := rfl
    rw [readChunks, bind_eq_ok_iff, List.forall_mem_cons, List.getLast?_cons, Option.getD_some,
      hreceived, ← List.append_assoc, and_assoc, ← ih]
    constructor
    · rintro ⟨⟨⟩, herr, h⟩
      exact ⟨checkReplErr_eq_ok_iff.mp herr, h⟩
    · rintro ⟨herr, h⟩
      exact ⟨(), checkReplErr_eq_ok_iff.mpr herr, h⟩

/-- The client returns what it makes of the chunks, if none has an error. -/
theorem fetchData_eq_ok_iff (client : Client) {devid : UInt32} {capname : String}
    {chunksize : UInt32} {args : List FtStdVariant}
    {stub : ChunkRequest (CapabilityArgument FtVariant) → ChunkStream} {v : VectorVariant} :
    (client.fetchData devid capname chunksize args stub).2 = .ok v ↔
      (∀ chunk ∈ (stub (client.chunkRequest devid capname chunksize args)).chunks,
        chunk.err = none) ∧
        v = decoded (stub (client.chunkRequest devid capname chunksize args)).chunks := by
  rw [fetchData, bind_eq_ok_iff]
  constructor
  · rintro ⟨⟨bytes, last⟩, hread, hv⟩
    obtain ⟨hnone, rfl, rfl⟩ := readChunks_eq_ok_iff.mp hread
    exact ⟨hnone, (Except.ok.inj hv).symm⟩
  · rintro ⟨hnone, rfl⟩
    exact ⟨_, readChunks_eq_ok_iff.mpr ⟨hnone, rfl, rfl⟩, rfl⟩

end Reading

/-! ### Decoding -/

section Decoding

variable {chunks : List Datachunk} {v : VectorVariant}

private theorem lastChunk_mem (hne : chunks ≠ []) : chunks.getLast?.getD emptyChunk ∈ chunks := by
  rw [List.getLast?_eq_some_getLast hne, Option.getD_some]
  exact List.getLast_mem hne

/-- What is in memory has a whole number of elements. -/
theorem Decodes.decodable (h : Decodes chunks v) : Decodable chunks := by
  refine .inr ⟨v.1, h.1, ?_⟩
  rw [← h.2, length_memoryBytes]
  exact Nat.dvd_mul_left ..

/-- **The client decodes what can be decoded.** -/
theorem Decodable.decodes (h : Decodable chunks) : Decodes chunks (decoded chunks) := by
  rcases h with rfl | ⟨tp, htag, hdvd⟩
  · exact ⟨fun _ h => absurd h List.not_mem_nil, rfl⟩
  · cases chunks with
    | nil => exact ⟨fun _ h => absurd h List.not_mem_nil, rfl⟩
    | cons chunk chunks =>
      have hlast := htag _ (lastChunk_mem (List.cons_ne_nil chunk chunks))
      rw [decoded, ftVariantFromData, hlast]
      exact ⟨htag, memoryBytes_copyToOutType hdvd⟩

end Decoding

/-- **A stream is read faithfully exactly if** a chunk has an error, or the stream ended well and
its chunks, if there are any, have one tag, of a type that the client knows, and a whole number of
elements. -/
theorem fetchData_faithful_iff (client : Client) (devid : UInt32) (capname : String)
    (chunksize : UInt32) (args : List FtStdVariant)
    (stub : ChunkRequest (CapabilityArgument FtVariant) → ChunkStream) :
    let stream := stub (client.chunkRequest devid capname chunksize args)
    Faithful stream (client.fetchData devid capname chunksize args stub).2 ↔
      (∃ chunk ∈ stream.chunks, chunk.err ≠ none) ∨
        (stream.status.ok ∧ Decodable stream.chunks) := by
  intro stream
  have hok : ∀ {v}, (client.fetchData devid capname chunksize args stub).2 = .ok v ↔
      (∀ chunk ∈ stream.chunks, chunk.err = none) ∧ v = decoded stream.chunks :=
    fetchData_eq_ok_iff client
  constructor
  · intro h
    by_cases hnone : ∀ chunk ∈ stream.chunks, chunk.err = none
    · obtain ⟨hcomplete, hdecodes⟩ := h.returned _ (hok.mpr ⟨hnone, rfl⟩)
      exact .inr ⟨hcomplete.2, hdecodes.decodable⟩
    · obtain ⟨chunk, herr⟩ := not_forall.mp hnone
      exact .inl ⟨chunk, Classical.not_imp.mp herr⟩
  · rintro (⟨chunk, hmem, herr⟩ | ⟨hstatus, hdecodable⟩)
    · refine ⟨fun v hv => ?_, fun hcomplete _ => absurd (hcomplete.1 chunk hmem) herr⟩
      exact absurd ((hok.mp hv).1 chunk hmem) herr
    · refine ⟨fun v hv => ?_, fun hcomplete _ => ⟨_, hok.mpr ⟨hcomplete.1, rfl⟩⟩⟩
      obtain ⟨hnone, rfl⟩ := hok.mp hv
      exact ⟨⟨hnone, hstatus⟩, hdecodable.decodes⟩

/-- An image of which four bytes arrive before the server is gone (`UNAVAILABLE`). -/
private def cutOff : ChunkStream where
  chunks := [⟨[1, 2, 3, 4], 0, 0, "image", none, .ucharType⟩]
  status := ⟨14, "Socket closed"⟩

/-- **A stream that broke off is taken for a complete one.** -/
theorem not_fetchData_faithful : ¬ ∀ (client : Client) (devid : UInt32) (capname : String)
    (chunksize : UInt32) (args : List FtStdVariant)
    (stub : ChunkRequest (CapabilityArgument FtVariant) → ChunkStream),
    Faithful (stub (client.chunkRequest devid capname chunksize args))
      (client.fetchData devid capname chunksize args stub).2 := by
  intro hall
  have hfaithful : Faithful cutOff (.ok ⟨.uchar, [1, 2, 3, 4]⟩) :=
    hall ⟨0⟩ 0 "image" 4 [] fun _ => cutOff
  have hstatus : cutOff.status.ok := (hfaithful.returned _ rfl).1.2
  cases hstatus

/-! ### A stream of the server -/

/-- **The client returns the array that the server has transferred**, if it is not empty and its tag
is read as its type. -/
theorem fetchData_of_transferred {Arg Value : Type} {h : FetchHandler Arg Value}
    {dt : ByteDataTypes} {tp : ElemType} {vals : List tp.Raw}
    (htransferred : h.Transferred dt (memoryBytes vals)) (htag : ElemType.ofTag dt = some tp)
    (hne : vals ≠ []) (client : Client) {devid : UInt32} {capname : String} {chunksize : UInt32}
    {args : List FtStdVariant}
    {stub : ChunkRequest (CapabilityArgument FtVariant) → ChunkStream}
    (harrives : (stub (client.chunkRequest devid capname chunksize args)).chunks.map
      ResponderCall.write ++ [ResponderCall.finish] = h.calls) :
    (client.fetchData devid capname chunksize args stub).2 = .ok ⟨tp, vals⟩ := by
  obtain ⟨c, chunks, -, hcalls, hcut, hheader⟩ := htransferred
  have hinj : Function.Injective (ResponderCall.write : Datachunk → ResponderCall Datachunk) :=
    fun _ _ heq => ResponderCall.write.inj heq
  have hchunks := hinj.list_map (List.append_cancel_right (harrives.trans hcalls))
  have hreceived : received chunks = memoryBytes vals := hcut.flatten
  have hpos : 0 < tp.sizeof := by
    cases dt <;> cases htag <;> decide
  have hnonempty : chunks ≠ [] := by
    rintro rfl
    have hlen := congrArg List.length hreceived
    rw [length_memoryBytes] at hlen
    exact (Nat.mul_pos (List.length_pos_of_ne_nil hne) hpos).ne hlen
  refine (fetchData_eq_ok_iff client).mpr ?_
  rw [hchunks]
  refine ⟨fun chunk hmem => (hheader chunk hmem).1, ?_⟩
  rw [decoded, (hheader _ (lastChunk_mem hnonempty)).2.1, hreceived,
    ftVariantFromData_memoryBytes htag hpos]

end Client

end Foxtrot
