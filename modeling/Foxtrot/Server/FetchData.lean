import Foxtrot.Server.Harness

/-!
# `FetchData`: sending a vector in chunks

`FetchDataLogic` (`server/src/FetchDataImpl.cpp`) invokes a device when a request comes in
(`initial_request`), keeps the bytes of the returned vector, and sends one chunk at every
`Proceed`, until the last one finishes the call. The chunk counter, the bytes, the cursor and
the chunk size are **members of the logic object**, which all handlers share; a chunk counter of
zero is what makes a `Proceed` the first one of its request.

`Loaded s c bytes k` describes the members while a vector is being sent: `k` chunks of `c` bytes
are out. From there on the object sends the pieces of the vector one after the other
(`Loaded.sendChunk_of_lt`) and then finishes (`Loaded.sendChunk_of_eq`), provided the length of
the vector fits in the 32-bit `_byte_size`. A chunk size of zero is a division by zero: the
process dies.
-/

namespace Foxtrot

/-- `chunk_request`. -/
structure ChunkRequest (Arg : Type) where
  msgid : UInt32
  devid : UInt32
  capname : String
  args : List Arg
  chunksize : UInt32
  contentionTimeout : UInt32

/-- `datachunk`. -/
structure Datachunk where
  data : List UInt8
  msgid : UInt32
  devid : UInt32
  capname : String
  err : Option Errstatus
  dtp : ByteDataTypes
  deriving DecidableEq

/-- The members of `FetchDataLogic`. -/
structure FetchDataLogic where
  thischunk : UInt32
  numFullChunks : UInt32
  extraChunk : Bool
  csize : UInt32
  byteSize : UInt32
  data : List UInt8
  /-- `_currval`, as an offset into `_data`. -/
  currval : ℕ
  deriving DecidableEq

/-- A new object. The members other than the chunk counter are set before they are read. -/
def FetchDataLogic.new : FetchDataLogic := ⟨0, 0, false, 0, 0, [], 0⟩

/-- `init_chunk`. -/
def initChunk {Arg : Type} (req : ChunkRequest Arg) : Datachunk :=
  ⟨[], req.msgid, req.devid, req.capname, none, .ucharType⟩

/-- The responder of `FetchData`: an error is written like a chunk. -/
def datachunkWriter : Responder Datachunk where
  setReplErr repl err := { repl with err := some err }
  errcall := .write

variable {Ty Arg Value Wire : Type}

/-! ### Handling a request -/

/-- The way of `initial_request` to the device. (`wire_arg_to_variant` reports success whenever it
does not throw.) -/
def DeviceHarness.fetchStyle (harness : DeviceHarness Ty Arg Value Wire) :
    CallStyle Ty Arg Value where
  invalidDevice := "invalid device"
  wrongType tp :=
    if tp = .stream then none else some "tried to FetchData on a non streaming method: "
  tooManyArgs := .exception "invalid length of arguments caught in fetchdata"
  convert arg ty :=
    (harness.wireTypeToVariant arg ty).mapError fun e => .thrown e.sliceRuntimeError
  lockFailed := .thrown

/-- The invocation that a request of `FetchData` leads to. -/
def DeviceHarness.fetchInvocation (harness : DeviceHarness Ty Arg Value Wire)
    (req : ChunkRequest Arg) (ans : Answers Value) : Except Refusal (Invocation Value) :=
  (harness.prepare harness.fetchStyle req.devid req.capname req.args
    (ans.lockDevice req.devid req.contentionTimeout)).map fun vargs =>
      ⟨req.devid, req.capname, vargs, ans.invoke req.devid req.capname vargs⟩

/-- What `initial_request` makes of the answer: the bytes of the vector and their tag. -/
def Invocation.view (v : Invocation Value) : Except Refusal (ByteDataTypes × List UInt8) :=
  match v.answer with
  | .error e => .error (.thrown e)
  | .ok ret =>
    if ret.isSequentialContainer then (byteViewData ret).mapError .thrown
    else .error (.replied ⟨.ftError, "return type is not an array type"⟩)

/-- The invocations of `initial_request`, and the state and the reply it leaves when the vector
can be sent. It has no outcome when the chunk size is zero. -/
def FetchDataLogic.initialRequest (harness : DeviceHarness Ty Arg Value Wire)
    (s : FetchDataLogic) (req : ChunkRequest Arg) (ans : Answers Value) :
    Option (List (Invocation Value) × Except Refusal (FetchDataLogic × Datachunk)) :=
  match harness.fetchInvocation req ans with
  | .error refusal => some ([], .error refusal)
  | .ok v =>
    match v.view with
    | .error refusal => some ([v], .error refusal)
    | .ok (dt, bytes) =>
      -- `byte_size` is an `unsigned`, and the chunk size divides it
      let byteSize := UInt32.ofNat bytes.length
      if req.chunksize = 0 then none
      else some ([v], .ok
        ({ s with
            data := bytes
            byteSize
            csize := req.chunksize
            numFullChunks := byteSize / req.chunksize
            extraChunk := byteSize % req.chunksize != 0
            currval := 0 },
          { initChunk req with dtp := dt }))

/-- The part of `HandleRequest` after `initial_request`. -/
def FetchDataLogic.sendChunk (s : FetchDataLogic) (repl : Datachunk)
    (invoked : List (Invocation Value)) :
    Handled FetchDataLogic Datachunk (Invocation Value) (Except Thrown Bool) :=
  if s.thischunk < s.numFullChunks then
    let repl := { repl with data := (s.data.drop s.currval).take s.csize.toNat }
    ⟨{ s with currval := s.currval + s.csize.toNat, thischunk := s.thischunk + 1 }, repl,
      [.write repl], invoked, .ok false⟩
  else if s.extraChunk then
    let repl := { repl with data := (s.data.take s.byteSize.toNat).drop s.currval }
    ⟨{ s with extraChunk := false, thischunk := s.thischunk + 1 }, repl,
      [.write repl], invoked, .ok false⟩
  else ⟨{ s with thischunk := 0 }, repl, [.finish], invoked, .ok true⟩

/-- `FetchDataLogic::HandleRequest`. -/
def FetchDataLogic.handleRequest (harness : DeviceHarness Ty Arg Value Wire)
    (s : FetchDataLogic) (ans : Answers Value) (req : ChunkRequest Arg) (repl : Datachunk) :
    Option (Handled FetchDataLogic Datachunk (Invocation Value) (Except Thrown Bool)) :=
  -- the counter, not the handler, tells a new request from one under way
  if s.thischunk = 0 then
    match s.initialRequest harness req ans with
    | none => none
    | some (invoked, .error (.replied err)) =>
      some (.failed datachunkWriter s (initChunk req) invoked err)
    | some (invoked, .error (.thrown e)) => some ⟨s, initChunk req, [], invoked, .error e⟩
    | some (invoked, .ok (s', repl')) => some (s'.sendChunk repl' invoked)
  else some (s.sendChunk repl [])

/-- The logic object of `FetchData`: it is registered without a session check. -/
def DeviceHarness.fetchDataLogic (harness : DeviceHarness Ty Arg Value Wire) :
    Logic FetchDataLogic (CallContext Value) (ChunkRequest Arg) Datachunk (Invocation Value) where
  responder := datachunkWriter
  emptyReply := ⟨[], 0, 0, "", none, .ucharType⟩
  checkMetadata _ _ := .ok true
  handleRequest s ctxt req repl := s.handleRequest harness ctxt.answers req repl

/-! ### Sending a vector -/

/-- The members while the vector `bytes` is sent in chunks of `c` bytes, `k` of them being out. -/
structure FetchDataLogic.Loaded (s : FetchDataLogic) (c : ℕ) (bytes : List UInt8) (k : ℕ) :
    Prop where
  thischunk : s.thischunk.toNat = k
  numFullChunks : s.numFullChunks.toNat = bytes.length / c
  extraChunk : s.extraChunk =
    decide (k < Pieces.count c bytes.length ∧ bytes.length % c ≠ 0)
  csize : s.csize.toNat = c
  byteSize : s.byteSize.toNat = bytes.length
  data : s.data = bytes
  currval : s.currval = min k (bytes.length / c) * c

section Sending

variable {s : FetchDataLogic} {c k : ℕ} {bytes : List UInt8}

/-- While pieces are left, the next one is written. -/
theorem FetchDataLogic.Loaded.sendChunk_of_lt (hs : s.Loaded c bytes k) (hc : 0 < c)
    (hk : k < Pieces.count c bytes.length) (repl : Datachunk)
    (invoked : List (Invocation Value)) : ∃ s' : FetchDataLogic, s'.Loaded c bytes (k + 1) ∧
      s.sendChunk repl invoked =
        ⟨s', { repl with data := Pieces.piece c bytes k },
          [.write { repl with data := Pieces.piece c bytes k }], invoked, .ok false⟩ := by
  have hlen : bytes.length < 2 ^ 32 := hs.byteSize ▸ s.byteSize.toNat_lt
  have hle : Pieces.count c bytes.length ≤ bytes.length := Pieces.count_le hc _
  -- the counter stays within 32 bits, as there are at most as many pieces as bytes
  have hnext : (s.thischunk + 1).toNat = k + 1 := by
    rw [UInt32.toNat_add, hs.thischunk, show (1 : UInt32).toNat = 1 from rfl]
    exact Nat.mod_eq_of_lt (by omega)
  by_cases hfull : k < bytes.length / c
  · have hlt : s.thischunk < s.numFullChunks := by
      rw [UInt32.lt_iff_toNat_lt, hs.thischunk, hs.numFullChunks]
      exact hfull
    have hcur : s.currval = k * c := by rw [hs.currval, min_eq_left hfull.le]
    refine ⟨{ s with currval := s.currval + s.csize.toNat, thischunk := s.thischunk + 1 }, ?_, ?_⟩
    · refine ⟨hnext, hs.numFullChunks, ?_, hs.csize, hs.byteSize, hs.data, ?_⟩
      · rw [hs.extraChunk, decide_eq_decide, and_congr_left_iff]
        intro hextra
        have hcount : Pieces.count c bytes.length = bytes.length / c + 1 := by
          rw [Pieces.count, if_neg hextra]
        omega
      · rw [hcur, hs.csize, min_eq_left (Nat.succ_le_of_lt hfull), Nat.add_one_mul]
    · rw [FetchDataLogic.sendChunk, if_pos hlt, hcur, hs.csize, hs.data]
      rfl
  · -- only the shorter piece at the end is left
    have hextra : bytes.length % c ≠ 0 := by
      intro hzero
      rw [Pieces.count, if_pos hzero] at hk
      omega
    have hcount : Pieces.count c bytes.length = bytes.length / c + 1 := by
      rw [Pieces.count, if_neg hextra]
    have hkeq : k = bytes.length / c := by omega
    have hge : ¬ s.thischunk < s.numFullChunks := by
      rw [UInt32.lt_iff_toNat_lt, hs.thischunk, hs.numFullChunks]
      exact hfull
    have hflag : s.extraChunk = true := by
      rw [hs.extraChunk]
      exact decide_eq_true ⟨hk, hextra⟩
    have hpiece : (bytes.take s.byteSize.toNat).drop s.currval = Pieces.piece c bytes k := by
      have hrest := Nat.div_add_mod bytes.length c
      have hlt := Nat.mod_lt bytes.length hc
      have hmul : bytes.length / c * c = c * (bytes.length / c) := Nat.mul_comm _ _
      rw [hs.byteSize, hs.currval, hkeq, min_self, List.take_length, Pieces.piece,
        List.take_of_length_le]
      rw [List.length_drop]
      omega
    refine ⟨{ s with extraChunk := false, thischunk := s.thischunk + 1 }, ?_, ?_⟩
    · refine ⟨hnext, hs.numFullChunks, ?_, hs.csize, hs.byteSize, hs.data, ?_⟩
      · rw [eq_comm, decide_eq_false_iff_not]
        omega
      · rw [hs.currval, hkeq, min_self, min_eq_right (Nat.le_succ _)]
    · rw [FetchDataLogic.sendChunk, if_neg hge, if_pos hflag, hs.data, hpiece]

/-- After the last piece the call is finished. -/
theorem FetchDataLogic.Loaded.sendChunk_of_eq
    (hs : s.Loaded c bytes (Pieces.count c bytes.length)) (repl : Datachunk)
    (invoked : List (Invocation Value)) :
    s.sendChunk repl invoked = ⟨{ s with thischunk := 0 }, repl, [.finish], invoked, .ok true⟩ := by
  have hge : ¬ s.thischunk < s.numFullChunks := by
    rw [UInt32.lt_iff_toNat_lt, hs.thischunk, hs.numFullChunks, Pieces.count]
    omega
  have hflag : ¬ s.extraChunk = true := by
    rw [hs.extraChunk]
    simp
  rw [FetchDataLogic.sendChunk, if_neg hge, if_neg hflag]

/-! ### Where a chunk is copied from -/

/-- The range of `_data` that the next chunk is copied from. -/
def FetchDataLogic.copied (s : FetchDataLogic) : Option (ℕ × ℕ) :=
  if s.thischunk < s.numFullChunks then some (s.currval, s.currval + s.csize.toNat)
  else if s.extraChunk then some (s.currval, s.byteSize.toNat)
  else none

/-- The next chunk is copied from within the data. -/
def FetchDataLogic.CopiesWithin (s : FetchDataLogic) : Prop :=
  ∀ range ∈ s.copied, range.1 ≤ range.2 ∧ range.2 ≤ s.data.length

/-- While a vector is sent, chunks are copied from within it. -/
theorem FetchDataLogic.Loaded.copiesWithin (hs : s.Loaded c bytes k) : s.CopiesWithin := by
  have hfull : bytes.length / c * c ≤ bytes.length := Nat.div_mul_le_self _ _
  intro range hrange
  rw [FetchDataLogic.copied] at hrange
  split at hrange
  · rename_i hlt
    obtain rfl := Option.some.inj hrange
    rw [UInt32.lt_iff_toNat_lt, hs.thischunk, hs.numFullChunks] at hlt
    have hle : (k + 1) * c ≤ bytes.length / c * c := Nat.mul_le_mul_right c hlt
    rw [Nat.add_one_mul] at hle
    rw [hs.data, hs.csize, hs.currval, min_eq_left hlt.le]
    exact ⟨Nat.le_add_right _ _, hle.trans hfull⟩
  · split at hrange
    · obtain rfl := Option.some.inj hrange
      rw [hs.data, hs.byteSize, hs.currval]
      have hle : min k (bytes.length / c) * c ≤ bytes.length / c * c :=
        Nat.mul_le_mul_right c (Nat.min_le_right _ _)
      exact ⟨hle.trans hfull, Nat.le_refl _⟩
    · cases hrange

/-- The members with the data cut to the length that `_byte_size` holds. -/
def FetchDataLogic.trim (s : FetchDataLogic) : FetchDataLogic :=
  { s with data := s.data.take s.byteSize.toNat }

/-- What is behind that length is neither read nor needed. -/
theorem FetchDataLogic.CopiesWithin.of_trim (hs : s.trim.CopiesWithin) : s.CopiesWithin := by
  intro range hrange
  obtain ⟨hle, hlen⟩ := hs range hrange
  rw [FetchDataLogic.trim, List.length_take] at hlen
  exact ⟨hle, hlen.trans (Nat.min_le_right _ _)⟩

/-- Only the bytes that are left matter to a chunk. -/
private theorem FetchDataLogic.sendChunk_trim (hs : s.trim.CopiesWithin) (repl : Datachunk)
    (invoked : List (Invocation Value)) : s.sendChunk repl invoked =
      { s.trim.sendChunk repl invoked with
        logic := { (s.trim.sendChunk repl invoked).logic with data := s.data } } := by
  rw [FetchDataLogic.CopiesWithin, FetchDataLogic.copied] at hs
  by_cases hlt : s.thischunk < s.numFullChunks
  · obtain ⟨-, hlen⟩ := hs _ (by
      rw [if_pos (show s.trim.thischunk < s.trim.numFullChunks from hlt)]
      rfl)
    have hdata : (s.trim.data.drop s.currval).take s.csize.toNat =
        (s.data.drop s.currval).take s.csize.toNat := by
      change s.currval + s.csize.toNat ≤ (s.data.take s.byteSize.toNat).length at hlen
      rw [List.length_take] at hlen
      rw [FetchDataLogic.trim, List.drop_take, List.take_take, min_eq_left (by omega)]
    rw [FetchDataLogic.sendChunk, FetchDataLogic.sendChunk, if_pos hlt,
      if_pos (show s.trim.thischunk < s.trim.numFullChunks from hlt)]
    simp only [FetchDataLogic.trim] at hdata ⊢
    rw [hdata]
  · have hdata : (s.trim.data.take s.byteSize.toNat) = s.data.take s.byteSize.toNat := by
      rw [FetchDataLogic.trim, List.take_take, min_self]
    rw [FetchDataLogic.sendChunk, FetchDataLogic.sendChunk, if_neg hlt,
      if_neg (show ¬ s.trim.thischunk < s.trim.numFullChunks from hlt)]
    simp only [FetchDataLogic.trim] at hdata ⊢
    rw [hdata]
    by_cases hextra : s.extraChunk = true
    · simp [hextra]
    · simp [hextra]

/-- **What the next call does while a vector is sent**, whatever is behind the vector in memory:
the next piece is written, or the call is finished. -/
theorem FetchDataLogic.sendChunk_cases (hs : s.trim.Loaded c bytes k) (hc : 0 < c)
    (hk : k ≤ Pieces.count c bytes.length) (repl : Datachunk)
    (invoked : List (Invocation Value)) :
    (k < Pieces.count c bytes.length ∧ ∃ s' : FetchDataLogic, s'.trim.Loaded c bytes (k + 1) ∧
      s.sendChunk repl invoked =
        ⟨s', { repl with data := Pieces.piece c bytes k },
          [.write { repl with data := Pieces.piece c bytes k }], invoked, .ok false⟩) ∨
    (k = Pieces.count c bytes.length ∧
      s.sendChunk repl invoked =
        ⟨{ s with thischunk := 0 }, repl, [.finish], invoked, .ok true⟩) := by
  have htrim := FetchDataLogic.sendChunk_trim hs.copiesWithin repl invoked
  rcases Nat.lt_or_eq_of_le hk with hlt | rfl
  · obtain ⟨t, ht, hsend⟩ := hs.sendChunk_of_lt hc hlt repl invoked
    refine .inl ⟨hlt, { t with data := s.data }, ?_, ?_⟩
    · have hsize : t.byteSize = s.byteSize :=
        UInt32.toNat_inj.mp (ht.byteSize.trans hs.byteSize.symm)
      have heq : FetchDataLogic.trim { t with data := s.data } = t := by
        have hdata : s.data.take t.byteSize.toNat = t.data := by
          rw [hsize, ht.data]
          exact hs.data
        rw [FetchDataLogic.trim]
        simp only [hdata]
      rw [heq]
      exact ht
    · rw [htrim, hsend]
  · refine .inr ⟨rfl, ?_⟩
    rw [htrim, hs.sendChunk_of_eq]
    rfl

end Sending

end Foxtrot
