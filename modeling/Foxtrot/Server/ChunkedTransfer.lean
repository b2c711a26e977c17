import Foxtrot.Server.StreamIsolation

/-!
# A vector arrives whole

One `FetchData` request, with the service to itself: its device returns a vector, and the bytes
of the vector, cut at the chunk size that was asked for, are the replies of the stream, which
then finishes. Along the way no chunk is copied from outside of the data.

This is so exactly for a chunk size other than zero and fewer than 2^32 bytes
(`chunkedTransfer_iff`): zero is divided by, and the length is kept in 32 bits, so that of a longer
vector only a part is sent, without any sign of it.

The service is the one of `Foxtrot.Server.StreamIsolation`, with a single request and its calls
completing one after the other. Its state after `k` calls is known (`Streamed`), so the run ends
after as many calls as there are chunks, and one more for the `Finish`. Conversely, whoever drives
the stream to its end has sent the part of the bytes that `_byte_size` reaches
(`transferred_of_finish`), which is all of them only below 2^32.
-/

namespace Foxtrot

variable {Ty Arg Value Wire : Type}

/-! ### A complete transfer -/

/-- The object as it stands when `HandleRequest` comes to send a chunk. -/
def FetchDataLogic.sender (s : FetchDataLogic) (harness : DeviceHarness Ty Arg Value Wire)
    (req : ChunkRequest Arg) (ans : Answers Value) : Option FetchDataLogic :=
  if s.thischunk = 0 then
    match s.initialRequest harness req ans with
    | some (_, .ok (s', _)) => some s'
    | _ => none
  else some s

/-- The chunk that is sent in this step, if one is, is copied from within the data. -/
def ReadsWithin (harness : DeviceHarness Ty Arg Value Wire) (s : FetchService Arg Value) :
    ServiceLabel (CallContext Value) (ChunkRequest Arg) → Prop
  | .arrive req env => ∀ t ∈ s.logic.sender harness req env.answers, t.CopiesWithin
  | .proceed i _ env => ∀ h ∈ s.handlers[i]?, h.status = .process →
      ∀ t ∈ s.logic.sender harness h.req env.answers, t.CopiesWithin

/-- The replies are the bytes cut at the chunk size of the request, or at one that the server
chooses if that is zero, in messages with this tag and the id of the request, and one `Finish`. -/
def HandlerBase.Transferred (h : FetchHandler Arg Value) (dt : ByteDataTypes)
    (bytes : List UInt8) : Prop :=
  ∃ (c : ℕ) (chunks : List Datachunk), (h.req.chunksize ≠ 0 → c = h.req.chunksize.toNat) ∧
    h.calls = chunks.map .write ++ [.finish] ∧
    Pieces.CutInto c bytes (chunks.map Datachunk.data) ∧
    ∀ chunk ∈ chunks, chunk.err = none ∧ chunk.dtp = dt ∧ chunk.msgid = h.req.msgid

/-- A chunk size of zero was refused with an error reply. -/
def HandlerBase.SizeRefused (h : FetchHandler Arg Value) : Prop :=
  h.req.chunksize = 0 ∧ ∃ chunk : Datachunk, chunk.err.isSome ∧ h.calls = [.write chunk]

/-- A request arrives, and its calls complete one after the other. -/
def loneStream (req : ChunkRequest Arg) (env : CallContext Value)
    (events : List (Bool × CallContext Value)) :
    List (ServiceLabel (CallContext Value) (ChunkRequest Arg)) :=
  .arrive req env :: events.map fun e => .proceed 0 e.1 e.2

/-- The stream of this request, with the service to itself, comes to its end after some number of
completed calls, whatever their flags: its device was invoked once, the vector was transferred,
and no step read outside of the data. -/
def ChunkedTransfer (harness : DeviceHarness Ty Arg Value Wire) (req : ChunkRequest Arg)
    (env : CallContext Value) (dt : ByteDataTypes) (bytes : List UInt8) : Prop :=
  ∃ n, ∀ events : List (Bool × CallContext Value), events.length = n →
    harness.fetchService.Guarded (ReadsWithin harness) harness.fetchService.init
      (loneStream req env events) ∧
    ∃ s h, harness.fetchService.run harness.fetchService.init (loneStream req env events) = some s ∧
      s.handlers = [h] ∧ h.req = req ∧ h.status = .finish ∧
      (∃ v, harness.fetchInvocation req env.answers = .ok v ∧ h.invoked = [v]) ∧
      (h.Transferred dt bytes ∨ h.SizeRefused)

/-! ### The stream step by step -/

/-- The only handler of the service after `k` calls of `HandleRequest`: it has written as many
chunks of the bytes, or all of them and finished. -/
structure Streamed (harness : DeviceHarness Ty Arg Value Wire) (req : ChunkRequest Arg)
    (env : CallContext Value) (dt : ByteDataTypes) (bytes : List UInt8)
    (s : FetchService Arg Value) (k : ℕ) (h : FetchHandler Arg Value) : Prop where
  handlers : s.handlers = [h]
  request : h.req = req
  invoked : h.invoked = (harness.fetchInvocation req env.answers).toOption.toList
  sent : (k ≤ numChunks req bytes ∧ h.status = .process ∧
      h.calls = ((List.range k).map (sentChunk req dt bytes)).map .write ∧
      (∃ data, h.repl = { initChunk req with dtp := dt, data }) ∧
      s.logic.trim.Loaded req.chunksize.toNat bytes k) ∨
    (k = numChunks req bytes + 1 ∧ h.status = .finish ∧
      h.calls = ((List.range (numChunks req bytes)).map (sentChunk req dt bytes)).map .write ++
        [.finish])

section Lone

variable {harness : DeviceHarness Ty Arg Value Wire} {req : ChunkRequest Arg}
  {env : CallContext Value} {dt : ByteDataTypes} {bytes : List UInt8} {k : ℕ}

/-- The next call of `HandleRequest` on an object that has `k` chunks out. -/
theorem Streamed.update {logic : FetchDataLogic} {h : FetchHandler Arg Value}
    (hloaded : logic.trim.Loaded req.chunksize.toNat bytes k) (hpos : 0 < req.chunksize.toNat)
    (hk : k ≤ numChunks req bytes) (hreq : h.req = req)
    (hrepl : ∃ data, h.repl = { initChunk req with dtp := dt, data })
    (hcalls : h.calls = ((List.range k).map (sentChunk req dt bytes)).map .write)
    {invoked : List (Invocation Value)} (hinv : h.invoked ++ invoked =
      (harness.fetchInvocation req env.answers).toOption.toList) :
    Streamed harness req env dt bytes
      ⟨((logic.sendChunk h.repl invoked).caught datachunkWriter).logic,
        [h.update ((logic.sendChunk h.repl invoked).caught datachunkWriter)]⟩ (k + 1)
      (h.update ((logic.sendChunk h.repl invoked).caught datachunkWriter)) := by
  obtain ⟨data, hrepl⟩ := hrepl
  rcases FetchDataLogic.sendChunk_cases hloaded hpos hk h.repl invoked with
    ⟨hlt, t, ht, hsend⟩ | ⟨rfl, hsend⟩
  · have hchunk : { h.repl with data := Pieces.piece req.chunksize.toNat bytes k } =
        sentChunk req dt bytes k := by
      rw [hrepl]
      rfl
    rw [hsend, hchunk]
    refine ⟨rfl, hreq, hinv, .inl ⟨hlt, rfl, ?_, ⟨_, rfl⟩, ht⟩⟩
    change h.calls ++ [.write (sentChunk req dt bytes k)] = _
    rw [hcalls, List.range_succ, List.map_append, List.map_append]
    rfl
  · rw [hsend]
    refine ⟨rfl, hreq, hinv, .inr ⟨rfl, rfl, ?_⟩⟩
    change h.calls ++ [.finish] = _
    rw [hcalls]
    rfl

/-- A request whose vector has been obtained is served from its arrival on. -/
theorem streamed_arrive (hview : harness.fetched req env.answers = .ok (dt, bytes))
    (hchunk : req.chunksize ≠ 0) : ∃ s h,
      harness.fetchService.step harness.fetchService.init (.arrive req env) = some s ∧
        Streamed harness req env dt (sizedPart bytes) s 1 h ∧
        ReadsWithin harness harness.fetchService.init (.arrive req env) := by
  have hidle : FetchDataLogic.new.thischunk = 0 := rfl
  obtain ⟨t, -, hloaded, hreq⟩ := initialRequest_loads hidle hview hchunk
  have hpos : 0 < req.chunksize.toNat :=
    Nat.pos_of_ne_zero fun hzero => hchunk (UInt32.toNat_inj.mp hzero)
  let invoked := (harness.fetchInvocation req env.answers).toOption.toList
  -- the handler as it stands after `initial_request`
  let h : FetchHandler Arg Value :=
    { harness.fetchDataLogic.newHandler req env with repl := { initChunk req with dtp := dt } }
  have hr : harness.fetchDataLogic.process .new env req harness.fetchDataLogic.emptyReply =
      some ((t.sendChunk h.repl invoked).caught datachunkWriter) := by
    rw [fetchDataLogic_process, FetchDataLogic.handleRequest, if_pos hidle, hreq]
    rfl
  refine ⟨_, h.update ((t.sendChunk h.repl invoked).caught datachunkWriter),
    Logic.step_arrive.mpr ⟨_, hr, rfl⟩, ?_, ?_⟩
  · exact Streamed.update (h := h) hloaded hpos (Nat.zero_le _) rfl ⟨[], rfl⟩ rfl rfl
  · intro t' ht'
    change t' ∈ FetchDataLogic.sender .new harness req env.answers at ht'
    rw [FetchDataLogic.sender, if_pos hidle, hreq] at ht'
    obtain rfl := Option.some.inj ht'
    exact .of_trim hloaded.copiesWithin

variable {s : FetchService Arg Value} {h : FetchHandler Arg Value}

/-- As long as the call is not finished, a completed call leads to the next one. -/
theorem Streamed.proceed (hs : Streamed harness req env dt bytes s k h)
    (hpos : 0 < req.chunksize.toNat) (hk : 0 < k) (hle : k ≤ numChunks req bytes) (ok : Bool)
    (env' : CallContext Value) : ∃ s' h',
      harness.fetchService.step s (.proceed 0 ok env') = some s' ∧
        Streamed harness req env dt bytes s' (k + 1) h' ∧
        ReadsWithin harness s (.proceed 0 ok env') := by
  obtain ⟨hhandlers, hreq, hinv, ⟨-, hstatus, hcalls, hrepl, hloaded⟩ | ⟨heq, -⟩⟩ := hs
  · have hi : s.handlers[0]? = some h := by rw [hhandlers]; rfl
    have hmid : s.logic.thischunk ≠ 0 := by
      intro hzero
      have hcount : s.logic.thischunk.toNat = k := hloaded.thischunk
      rw [hzero, UInt32.toNat_zero] at hcount
      omega
    have hr : harness.fetchDataLogic.process s.logic env' h.req h.repl =
        some ((s.logic.sendChunk h.repl []).caught datachunkWriter) := by
      rw [fetchDataLogic_process, FetchDataLogic.handleRequest, if_neg hmid]
      rfl
    refine ⟨_, h.update ((s.logic.sendChunk h.repl []).caught datachunkWriter),
      Logic.step_proceed_of_process ok hi hstatus hr, ?_, ?_⟩
    · rw [hhandlers]
      exact Streamed.update hloaded hpos hle hreq hrepl hcalls (by rw [List.append_nil, hinv])
    · intro h' hh' _ t ht
      rw [FetchDataLogic.sender, if_neg hmid] at ht
      obtain rfl := Option.some.inj ht
      exact .of_trim hloaded.copiesWithin
  · omega

/-- The run of the remaining calls. -/
theorem Streamed.run (hpos : 0 < req.chunksize.toNat) :
    ∀ (events : List (Bool × CallContext Value)) {k : ℕ} {s : FetchService Arg Value}
      {h : FetchHandler Arg Value}, Streamed harness req env dt bytes s k h → 0 < k →
      k + events.length ≤ numChunks req bytes + 1 → ∃ s' h',
        harness.fetchService.run s (events.map fun e => .proceed 0 e.1 e.2) = some s' ∧
          Streamed harness req env dt bytes s' (k + events.length) h' ∧
          harness.fetchService.Guarded (ReadsWithin harness) s
            (events.map fun e => .proceed 0 e.1 e.2)
  | [], _, s, h, hs, _, _ => ⟨s, h, rfl, hs, trivial⟩
  | (ok, env') :: events, k, s, h, hs, hk, hle => by
    rw [List.length_cons] at hle ⊢
    obtain ⟨s₁, h₁, hstep, hs₁, hwithin⟩ := hs.proceed hpos hk (by omega) ok env'
    obtain ⟨s', h', hrun, hs', hguard⟩ :=
      Streamed.run hpos events hs₁ (Nat.succ_pos k) (by omega)
    refine ⟨s', h', ?_, ?_, hwithin, ?_⟩
    · rw [List.map_cons, TransitionSystem.run_cons, hstep]
      exact hrun
    · rw [show k + (events.length + 1) = k + 1 + events.length by omega]
      exact hs'
    · intro s₂ hs₂
      obtain rfl := Option.some.inj (hstep.symm.trans hs₂)
      exact hguard

/-- A stream that was followed to its end has sent the pieces of the bytes. -/
theorem Streamed.transferred (hs : Streamed harness req env dt bytes s k h)
    (hpos : 0 < req.chunksize.toNat) (hstatus : h.status = .finish) : h.Transferred dt bytes := by
  obtain ⟨-, rfl, -, ⟨-, hprocess, -⟩ | ⟨-, -, hcalls⟩⟩ := hs
  · rw [hprocess] at hstatus
    cases hstatus
  · refine ⟨h.req.chunksize.toNat, _, fun _ => rfl, hcalls, ?_, sentChunk_header _ _ _ _⟩
    rw [List.map_map]
    exact Pieces.cutInto_pieces hpos bytes

/-- The first call divides by the chunk size. -/
theorem step_arrive_eq_none (hview : harness.fetched req env.answers = .ok (dt, bytes))
    (hchunk : req.chunksize = 0) :
    harness.fetchService.step harness.fetchService.init (.arrive req env) = none := by
  have hreq : FetchDataLogic.initialRequest harness .new req env.answers = none := by
    obtain ⟨v, hinv, hv⟩ := exists_invocation_of_fetched hview
    rw [FetchDataLogic.initialRequest, hinv]
    simp only [hv, if_pos hchunk]
  have hprocess : harness.fetchDataLogic.process .new env req harness.fetchDataLogic.emptyReply =
      none := by
    have hidle : FetchDataLogic.new.thischunk = 0 := rfl
    rw [fetchDataLogic_process, FetchDataLogic.handleRequest, if_pos hidle, hreq]
    rfl
  change harness.fetchDataLogic.step ⟨.new, []⟩ (.arrive req env) = none
  simp [Logic.step, hprocess]

/-- The only handler of the service is streaming, or was deleted after its stream. -/
def Lone (harness : DeviceHarness Ty Arg Value Wire) (req : ChunkRequest Arg)
    (env : CallContext Value) (dt : ByteDataTypes) (bytes : List UInt8)
    (s : FetchService Arg Value) : Prop :=
  (∃ k h, 0 < k ∧ Streamed harness req env dt bytes s k h) ∨
    ∃ h, s.handlers = [h] ∧ h.status = .deleted

/-- A step of the only transfer goes on with it. -/
theorem Lone.proceed (hs : Lone harness req env dt bytes s) (hpos : 0 < req.chunksize.toNat)
    {ok : Bool} {env' : CallContext Value} {s' : FetchService Arg Value}
    (hstep : harness.fetchService.step s (.proceed 0 ok env') = some s') :
    Lone harness req env dt bytes s' := by
  have hstep' : harness.fetchDataLogic.step s (.proceed 0 ok env') = some s' := hstep
  obtain ⟨g, hi, hg⟩ := Logic.step_proceed hstep'
  rcases hs with ⟨k, h, hk, hs⟩ | ⟨h, hhandlers, hdel⟩
  · rw [hs.handlers] at hi
    obtain rfl := Option.some.inj hi
    rcases hs.sent with ⟨hle, -⟩ | ⟨-, hf, -⟩
    · obtain ⟨s'', h'', hstep'', hs'', -⟩ := hs.proceed hpos hk hle ok env'
      obtain rfl := Option.some.inj (hstep.symm.trans hstep'')
      exact .inl ⟨k + 1, h'', Nat.succ_pos k, hs''⟩
    · rcases hg with ⟨hp, -⟩ | ⟨-, rfl⟩
      · rw [hp] at hf
        cases hf
      · exact .inr ⟨_, by rw [hs.handlers]; rfl, rfl⟩
  · rw [hhandlers] at hi
    obtain rfl := Option.some.inj hi
    rw [hdel] at hg
    rcases hg with ⟨hp, -⟩ | ⟨hp, -⟩ <;> cases hp

/-- Whoever drives the stream, at its end the part of the bytes that `_byte_size` reaches has been
sent. -/
theorem transferred_of_finish (hview : harness.fetched req env.answers = .ok (dt, bytes))
    (hchunk : req.chunksize ≠ 0) {events : List (Bool × CallContext Value)}
    (hrun : harness.fetchService.run harness.fetchService.init (loneStream req env events) = some s)
    (hhandlers : s.handlers = [h]) (hstatus : h.status = .finish) :
    h.Transferred dt (sizedPart bytes) := by
  have hpos : 0 < req.chunksize.toNat :=
    Nat.pos_of_ne_zero fun hzero => hchunk (UInt32.toNat_inj.mp hzero)
  obtain ⟨s₁, h₁, hstep, hs₁, -⟩ := streamed_arrive hview hchunk
  rw [loneStream, TransitionSystem.run_cons, hstep] at hrun
  have hguard : harness.fetchService.Guarded (fun _ l => ∃ ok env', l = .proceed 0 ok env') s₁
      (events.map fun e => .proceed 0 e.1 e.2) :=
    TransitionSystem.Guarded.of_forall_mem fun l hl => by
      obtain ⟨e, -, rfl⟩ := List.mem_map.mp hl
      exact ⟨_, _, rfl⟩
  have hlone : Lone harness req env dt (sizedPart bytes) s := by
    refine TransitionSystem.run_invariant ?_ _ (.inl ⟨1, h₁, Nat.one_pos, hs₁⟩) hguard hrun
    rintro t _ t' ht ⟨ok, env', rfl⟩ hstep'
    exact ht.proceed hpos hstep'
  rcases hlone with ⟨k, g, -, hs⟩ | ⟨g, hg, hdel⟩
  · obtain rfl : g = h := List.singleton_injective (hs.handlers.symm.trans hhandlers)
    exact hs.transferred hpos hstatus
  · obtain rfl : g = h := List.singleton_injective (hg.symm.trans hhandlers)
    rw [hdel] at hstatus
    cases hstatus

/-- What a stream has transferred is determined by its calls. -/
theorem HandlerBase.Transferred.bytes_eq {bytes' : List UInt8} {dt' : ByteDataTypes}
    (ht : h.Transferred dt bytes) (ht' : h.Transferred dt' bytes') : bytes = bytes' := by
  obtain ⟨c, chunks, -, hcalls, hcut, -⟩ := ht
  obtain ⟨c', chunks', -, hcalls', hcut', -⟩ := ht'
  have hmap := List.append_cancel_right (hcalls.symm.trans hcalls')
  have hinj : Function.Injective (ResponderCall.write : Datachunk → ResponderCall Datachunk) :=
    fun _ _ heq => ResponderCall.write.inj heq
  rw [← hcut.flatten, ← hcut'.flatten, hinj.list_map hmap]

end Lone

/-- **A vector arrives whole, cut as asked for, exactly if** the chunk size is not zero and the
vector has fewer than 2^32 bytes. -/
theorem chunkedTransfer_iff {harness : DeviceHarness Ty Arg Value Wire} {req : ChunkRequest Arg}
    {env : CallContext Value} {dt : ByteDataTypes} {bytes : List UInt8}
    (hview : harness.fetched req env.answers = .ok (dt, bytes)) :
    ChunkedTransfer harness req env dt bytes ↔
      req.chunksize ≠ 0 ∧ bytes.length < 2 ^ 32 := by
  constructor
  · rintro ⟨n, hall⟩
    obtain ⟨-, s, h, hrun, hhandlers, hreq, hstatus, -, hserved⟩ :=
      hall (List.replicate n (true, env)) List.length_replicate
    -- a chunk size of zero divides by zero at the arrival, so there is no run
    have hchunk : req.chunksize ≠ 0 := by
      intro hzero
      rw [loneStream, TransitionSystem.run_cons, step_arrive_eq_none hview hzero] at hrun
      cases hrun
    rcases hserved with htrans | ⟨hzero, -⟩
    · -- what comes is the part that the 32-bit counter covers
      have hsized := transferred_of_finish hview hchunk hrun hhandlers hstatus
      exact ⟨hchunk, sizedPart_eq_self_iff.mp (hsized.bytes_eq htrans)⟩
    · rw [hreq] at hzero
      exact absurd hzero hchunk
  · rintro ⟨hchunk, hlen⟩
    have hpos : 0 < req.chunksize.toNat :=
      Nat.pos_of_ne_zero fun hzero => hchunk (UInt32.toNat_inj.mp hzero)
    obtain ⟨s₁, h₁, hstep, hs₁, hwithin⟩ := streamed_arrive hview hchunk
    rw [sizedPart_eq_self_iff.mpr hlen] at hs₁
    refine ⟨numChunks req bytes, fun events hevents => ?_⟩
    obtain ⟨s, h, hrun, hs, hguard⟩ := Streamed.run hpos events hs₁ Nat.one_pos (by omega)
    refine ⟨⟨hwithin, fun s' hs' => ?_⟩, s, h, ?_, hs.handlers, hs.request, ?_⟩
    · obtain rfl := Option.some.inj (hstep.symm.trans hs')
      exact hguard
    · rw [loneStream, TransitionSystem.run_cons, hstep]
      exact hrun
    · have hstatus : h.status = .finish := by
        rcases hs.sent with ⟨hle, -⟩ | ⟨-, hstatus, -⟩
        · omega
        · exact hstatus
      refine ⟨hstatus, ?_, .inl (hs.transferred hpos hstatus)⟩
      obtain ⟨v, hinv, -⟩ := exists_invocation_of_fetched hview
      exact ⟨v, hinv, by rw [hs.invoked, hinv]; rfl⟩

/-- Five bytes in chunks of two. -/
theorem chunkedTransfer_iff_fiveBytes :
    twoCameras.fetched (imageRequest 1) (imageContext [1, 2, 3, 4, 5]).answers =
        .ok (.ucharType, [1, 2, 3, 4, 5]) ∧
      (ChunkedTransfer twoCameras (imageRequest 1) (imageContext [1, 2, 3, 4, 5]) .ucharType
          [1, 2, 3, 4, 5] ↔
        (imageRequest 1).chunksize ≠ 0 ∧ [1, 2, 3, 4, 5].length < 2 ^ 32) := by
  have hview : twoCameras.fetched (imageRequest 1) (imageContext [1, 2, 3, 4, 5]).answers =
      .ok (.ucharType, [1, 2, 3, 4, 5]) := by decide
  exact ⟨hview, chunkedTransfer_iff hview⟩

/-- A request for chunks of size zero. -/
def emptyChunks : ChunkRequest Unit := { imageRequest 1 with chunksize := 0 }

/-- **A chunk size of zero kills the server**: there is neither an error reply nor a stream. -/
theorem not_chunkedTransfer :
    twoCameras.fetched emptyChunks (imageContext [1, 2, 3]).answers =
        .ok (.ucharType, [1, 2, 3]) ∧
      ¬ ChunkedTransfer twoCameras emptyChunks (imageContext [1, 2, 3]) .ucharType [1, 2, 3] := by
  have hview : twoCameras.fetched emptyChunks (imageContext [1, 2, 3]).answers =
      .ok (.ucharType, [1, 2, 3]) := by decide
  refine ⟨hview, ?_⟩
  rintro ⟨n, hall⟩
  obtain ⟨-, s, h, hrun, -⟩ :=
    hall (List.replicate n (true, imageContext [])) List.length_replicate
  rw [loneStream, TransitionSystem.run_cons, step_arrive_eq_none hview rfl] at hrun
  cases hrun

end Foxtrot
