import Foxtrot.Server.Proceed

/-!
# Every request is answered once

A handler sends exactly one terminal operation and is deleted exactly once if three things hold
(`Prompt`). `_status` is not looked at for the event of the terminal operation before the call of
`Proceed` that started the operation has returned. `check_metadata` does not return `false`. And a
stream does not end with an error: the error is written like a chunk, the status becomes `FINISH`,
and the handler is deleted without a `Finish`.

The invariant (`Handling.Sound`) is that there is exactly one *token* until the handler is deleted:
an operation whose event has not been taken, or the one call of `Proceed` that has taken the last
event and has not started the next operation. Other calls in the handler have done their work, and
only set the status and return.
-/

namespace Foxtrot

/-- The call has taken the last event, and has not started the next operation. -/
def ProceedPc.carries : ProceedPc → Bool
  | .called | .entering | .locked | .working | .deleting => true
  | .idle | .worked _ | .leaving => false

/-- How much a thread has left to do once the terminal operation is started. -/
def ProceedPc.weight : ProceedPc → ℕ
  | .idle => 0
  | .leaving | .deleting => 1
  | .worked _ => 2
  | .called => 3
  | .entering | .locked | .working => 4

private theorem ProceedPc.eq_idle {pc : ProceedPc} (hcarries : pc.carries = false)
    (hholds : pc.holds = false) : pc = .idle := by
  cases pc with
  | idle => rfl
  | worked | leaving => cases hholds
  | _ => cases hcarries

section Answered

variable {ι : Type} [DecidableEq ι] [Fintype ι] {s s' : Handling ι} {l : ProceedLabel ι} {t : ι}
  {pc : ProceedPc}

/-- `_status` is not looked at before the call that started the terminal operation has returned,
`check_metadata` accepts or throws, and a stream does not fail. -/
def Prompt (s : Handling ι) : ProceedLabel ι → Prop
  | .read t => .finish ∈ s.ops → ∀ t', t' ≠ t → s.pc t' = .idle
  | .work _ b => b ≠ .rejects ∧ (b = .fails → s.kind = .unary)
  | .take _ | .lock _ | .look _ | .set _ | .leave _ | .delete _ => True

instance Prompt.decidable (s : Handling ι) : ∀ l, Decidable (Prompt s l)
  | .read t => inferInstanceAs (Decidable (.finish ∈ s.ops → ∀ t', t' ≠ t → s.pc t' = .idle))
  | .work _ b => inferInstanceAs (Decidable (b ≠ .rejects ∧ (b = .fails → s.kind = .unary)))
  | .take _ | .lock _ | .look _ | .set _ | .leave _ | .delete _ => inferInstanceAs (Decidable True)

/-- How much is left to do once the terminal operation is started. -/
def Handling.remaining (s : Handling ι) : ℕ :=
  4 * s.outstanding + ∑ t, (s.pc t).weight

/-- What the request gets, in one state. -/
structure Handling.Answered (s : Handling ι) : Prop where
  /-- Nothing is sent after a terminal operation. -/
  last : ∀ pre post, s.ops = pre ++ .finish :: post → post = []
  /-- Until the handler is deleted, the run goes on. -/
  goesOn : s.deleted = 0 → ∃ l, Prompt s l ∧ (s.step l).isSome
  /-- After the terminal operation, it goes on for so many steps only. -/
  ends : .finish ∈ s.ops → ∀ l s', Prompt s l → s.step l = some s' → s'.remaining < s.remaining
  /-- The handler is deleted once, after the terminal operation, with one successor. -/
  once : s.deleted ≠ 0 →
    s.deleted = 1 ∧ .finish ∈ s.ops ∧ s.spawned = 1 ∧ s.outstanding = 0 ∧ ∀ t, s.pc t = .idle

/-- What a step of a thread may do. -/
structure Handling.Proper (s : Handling ι) (t : ι) (s' : Handling ι) : Prop where
  /-- An operation is started while none is pending. -/
  single : s'.ops ≠ s.ops → s.outstanding = 0
  /-- The handler is deleted while no other thread is in it. -/
  alone : s'.deleted ≠ s.deleted → ∀ t', t' ≠ t → s.pc t' = .idle

/-! ### The invariant -/

/-- Where a call may stand. -/
def Handling.Allows (s : Handling ι) : ProceedPc → Prop
  | .idle => True
  | .called => s.outstanding = 0 ∧ s.deleted = 0
  | .entering | .locked => s.outstanding = 0 ∧ s.deleted = 0 ∧ .finish ∉ s.ops
  | .working => s.outstanding = 0 ∧ s.deleted = 0 ∧ .finish ∉ s.ops ∧ s.newrequest = false ∧
      s.status = .process
  | .worked finished => s.deleted = 0 ∧ s.newrequest = false ∧ s.status = .process ∧
      (finished = true ↔ .finish ∈ s.ops)
  | .leaving => s.deleted = 0 ∧ s.status ≠ .create
  | .deleting => s.outstanding = 0 ∧ s.deleted = 0 ∧ s.status = .finish

/-- How the calls stand to each other. -/
structure Handling.Threads (s : Handling ι) : Prop where
  allows : ∀ t, s.Allows (s.pc t)
  one_carrier : ∀ t t', (s.pc t).carries = true → (s.pc t').carries = true → t = t'
  one_holder : ∀ t t', (s.pc t).holds = true → (s.pc t').holds = true → t = t'
  alone : ∀ t t', s.pc t = .deleting → t' ≠ t → s.pc t' = .idle

/-- The invariant. -/
structure Handling.Sound (s : Handling ι) : Prop extends s.Threads where
  token : s.deleted = 0 →
    s.outstanding = 1 ∨ s.outstanding = 0 ∧ ∃ t, (s.pc t).carries = true
  shape : .finish ∈ s.ops → ∃ pre, s.ops = pre ++ [.finish] ∧ .finish ∉ pre
  ended : .finish ∈ s.ops → s.newrequest = false ∧
    (s.status = .finish ∨ ∃ t, s.pc t = .worked true)
  fresh : s.status = .create → s.ops = [] ∧ s.outstanding = 0
  finished : s.status = .finish → .finish ∈ s.ops
  spawns : s.spawned = if s.newrequest then 0 else 1
  gone : s.deleted ≠ 0 →
    s.deleted = 1 ∧ s.outstanding = 0 ∧ s.status = .finish ∧ ∀ t, s.pc t = .idle

namespace Handling

omit [Fintype ι] in
/-- One call goes on. -/
theorem Threads.move (hs : s.Threads) (hpc : s'.pc = Function.update s.pc t pc)
    (hself : s'.Allows pc) (hothers : ∀ t', t' ≠ t → s'.Allows (s.pc t'))
    (hcarries : pc.carries = true →
      (s.pc t).carries = true ∨ ∀ t', t' ≠ t → (s.pc t').carries = false)
    (hholds : pc.holds = true → (s.pc t).holds = true ∨ ∀ t', t' ≠ t → (s.pc t').holds = false)
    (hidle : s.pc t = .idle → ∀ t', s.pc t' ≠ .deleting)
    (halone : pc = .deleting → ∀ t', t' ≠ t → s.pc t' = .idle) : s'.Threads := by
  have hupd : ∀ t', s'.pc t' = if t' = t then pc else s.pc t' := fun t' => by
    rw [hpc, Function.update_apply]
  -- two calls of which one is the one that goes on
  have hpair : ∀ (p : ProceedPc → Bool), (∀ t t', p (s.pc t) = true → p (s.pc t') = true → t = t') →
      (p pc = true → p (s.pc t) = true ∨ ∀ t', t' ≠ t → p (s.pc t') = false) →
      ∀ t₁ t₂, p (s'.pc t₁) = true → p (s'.pc t₂) = true → t₁ = t₂ := by
    intro p hone hnew t₁ t₂ h₁ h₂
    have hlone : ∀ t', t' ≠ t → p pc = true → p (s.pc t') = true → False := by
      intro t' hne hp hp'
      obtain hold | hnone := hnew hp
      · exact hne (hone t' t hp' hold)
      · rw [hnone t' hne] at hp'
        cases hp'
    rw [hupd] at h₁ h₂
    split at h₁ <;> split at h₂
    · exact ‹t₁ = t›.trans ‹t₂ = t›.symm
    · exact (hlone t₂ ‹_› h₁ h₂).elim
    · exact (hlone t₁ ‹_› h₂ h₁).elim
    · exact hone t₁ t₂ h₁ h₂
  refine ⟨fun t' => ?_, hpair _ hs.one_carrier hcarries, hpair _ hs.one_holder hholds, ?_⟩
  · rw [hupd]
    split
    · exact hself
    · exact hothers t' ‹_›
  · intro t₁ t₂ hdel hne
    rw [hupd] at hdel ⊢
    split at hdel
    · subst t₁
      rw [if_neg hne]
      exact halone hdel t₂ hne
    · split
      · exact absurd hdel (hidle (hs.alone t₁ t hdel fun h => ‹¬ t₁ = t› h.symm) t₁)
      · exact hs.alone t₁ t₂ hdel hne

omit [DecidableEq ι] [Fintype ι] in
/-- The call that has both the token and the mutex is alone in the handler. -/
theorem Threads.eq_idle (hs : s.Threads) (hcarries : (s.pc t).carries = true)
    (hholds : (s.pc t).holds = true) : ∀ t', t' ≠ t → s.pc t' = .idle := fun t' hne =>
  ProceedPc.eq_idle
    (Bool.eq_false_iff.mpr fun h => hne (hs.one_carrier t' t h hcarries))
    (Bool.eq_false_iff.mpr fun h => hne (hs.one_holder t' t h hholds))

omit [DecidableEq ι] [Fintype ι] in
/-- A call with the token finds nothing outstanding. -/
theorem Threads.outstanding_eq_zero (hs : s.Threads) (h : (s.pc t).carries = true) :
    s.outstanding = 0 ∧ s.deleted = 0 := by
  have hallows := hs.allows t
  revert h hallows
  cases s.pc t with
  | idle | worked | leaving => exact fun h => nomatch h
  | called => exact fun _ h => h
  | entering | locked => exact fun _ h => ⟨h.1, h.2.1⟩
  | working => exact fun _ h => ⟨h.1, h.2.1⟩
  | deleting => exact fun _ h => ⟨h.1, h.2.1⟩

omit [DecidableEq ι] [Fintype ι] in
/-- The calls that have no token do not mind what is outstanding. -/
theorem Allows.of_not_carries (h : s.Allows pc) (hcarries : pc.carries = false)
    (hdeleted : s'.deleted = s.deleted) (hnewrequest : s'.newrequest = s.newrequest)
    (hstatus : s'.status = s.status) (hops : s'.ops = s.ops) : s'.Allows pc := by
  cases pc with
  | idle => trivial
  | worked finished =>
    change s'.deleted = 0 ∧ s'.newrequest = false ∧ s'.status = .process ∧ (_ ↔ _ ∈ s'.ops)
    rw [hdeleted, hnewrequest, hstatus, hops]
    exact h
  | leaving =>
    change s'.deleted = 0 ∧ s'.status ≠ .create
    rw [hdeleted, hstatus]
    exact h
  | called | entering | locked | working | deleting => cases hcarries

omit [Fintype ι] in
/-- A call that has started the terminal operation is still there after a step of another one. -/
theorem exists_worked_update (hpc : s.pc t ≠ .worked true) (h : ∃ t', s.pc t' = .worked true) :
    ∃ t', Function.update s.pc t pc t' = .worked true := by
  obtain ⟨t', ht'⟩ := h
  refine ⟨t', ?_⟩
  rw [Function.update_of_ne, ht']
  rintro rfl
  exact hpc ht'

omit [Fintype ι] in
/-- So is the call that has the token. -/
theorem exists_carries_update (hpc : (s.pc t).carries = false)
    (h : ∃ t', (s.pc t').carries = true) :
    ∃ t', (Function.update s.pc t pc t').carries = true := by
  obtain ⟨t', ht'⟩ := h
  refine ⟨t', ?_⟩
  rw [Function.update_of_ne, ht']
  rintro rfl
  rw [hpc] at ht'
  cases ht'

/-- To take an event keeps the handler sound. -/
theorem Sound.take (hs : s.Sound) (h : s.step (.take t) = some s') : s'.Sound := by
  obtain ⟨⟨hpc, hpos⟩, h⟩ := Option.ite_none_right_eq_some.mp h
  obtain rfl := Option.some.inj h
  have hdeleted : s.deleted = 0 := by
    by_contra hne
    exact absurd (hs.gone hne).2.1 hpos.ne'
  have hone : s.outstanding = 1 := (hs.token hdeleted).resolve_right fun h => hpos.ne' h.1
  have hnone : ∀ t', (s.pc t').carries = false := fun t' => Bool.eq_false_iff.mpr fun hc =>
    hpos.ne' (hs.outstanding_eq_zero hc).1
  have hzero : s.outstanding - 1 = 0 := by omega
  have hthreads : ({ s with outstanding := s.outstanding - 1 }.setPc t .called).Threads := by
    refine hs.move rfl ⟨hzero, hdeleted⟩ (fun t' _ => ?_) (fun _ => .inr fun t' _ => hnone t') nofun
      (fun _ t' hdel => ?_) nofun
    · exact (hs.allows t').of_not_carries (hnone t') rfl rfl rfl rfl
    · have := hnone t'
      rw [hdel] at this
      cases this
  refine ⟨hthreads, fun _ => .inr ⟨hzero, t, ?_⟩, hs.shape, fun hfin => ?_, fun hcreate => ?_,
    hs.finished, hs.spawns, fun hne => absurd hdeleted hne⟩
  · simp [setPc, ProceedPc.carries]
  · exact ⟨(hs.ended hfin).1, (hs.ended hfin).2.imp_right (exists_worked_update (by simp [hpc]))⟩
  · have := (hs.fresh hcreate).2
    omega

/-- `_status` says whether the terminal operation is started, provided the call that started it
has returned. -/
theorem Sound.read (hs : s.Sound) (hl : Prompt s (.read t)) (h : s.step (.read t) = some s') :
    s'.Sound := by
  simp only [step] at h
  split at h
  · next hpc =>
    obtain rfl := Option.some.inj h
    obtain ⟨hout, hdeleted⟩ := hs.outstanding_eq_zero (by rw [hpc]; rfl)
    -- the call that has started it has set the status before it returned
    have hworked : .finish ∈ s.ops → s.status = .finish := fun hfin =>
      (hs.ended hfin).2.resolve_right fun ⟨t', ht'⟩ => by
        by_cases heq : t' = t
        · subst heq
          rw [hpc] at ht'
          cases ht'
        · rw [hl hfin t' heq] at ht'
          cases ht'
    have hthreads : (s.setPc t (if s.status = .finish then .deleting else .entering)).Threads := by
      refine hs.move rfl ?_ (fun t' _ => hs.allows t') (fun _ => .inl (by rw [hpc]; rfl)) ?_ ?_ ?_
      · split
        · exact ⟨hout, hdeleted, ‹_›⟩
        · exact ⟨hout, hdeleted, fun hfin => ‹¬ s.status = _› (hworked hfin)⟩
      · split <;> exact nofun
      · rw [hpc]
        exact nofun
      · split
        · exact fun _ => hl (hs.finished ‹_›)
        · exact nofun
    refine ⟨hthreads, fun _ => .inr ⟨hout, t, ?_⟩, hs.shape, fun hfin => ?_, hs.fresh, hs.finished,
      hs.spawns, fun hne => absurd hdeleted hne⟩
    · simp only [setPc, Function.update_self]
      split <;> rfl
    · exact ⟨(hs.ended hfin).1, .inl (hworked hfin)⟩
  · cases h

/-- To lock the handler keeps it sound. -/
theorem Sound.lock (hs : s.Sound) (h : s.step (.lock t) = some s') : s'.Sound := by
  obtain ⟨⟨hpc, hfree⟩, h⟩ := Option.ite_none_right_eq_some.mp h
  obtain rfl := Option.some.inj h
  have hallows : s.Allows .entering := hpc ▸ hs.allows t
  have hthreads : (s.setPc t .locked).Threads :=
    hs.move rfl hallows (fun t' _ => hs.allows t') (fun _ => .inl (by rw [hpc]; rfl))
      (fun _ => .inr fun t' _ => hfree t') (by simp [hpc]) nofun
  refine ⟨hthreads, fun _ => .inr ⟨hallows.1, t, ?_⟩, hs.shape,
    fun hfin => absurd hfin hallows.2.2, hs.fresh, hs.finished, hs.spawns,
    fun hne => absurd hallows.2.1 hne⟩
  simp [setPc, ProceedPc.carries]

/-- With the mutex and the token: the others are not in the handler. -/
theorem Sound.look (hs : s.Sound) (h : s.step (.look t) = some s') : s'.Sound := by
  simp only [step] at h
  split at h
  · next hpc =>
    obtain ⟨hout, hdeleted, hnot⟩ : s.Allows .locked := hpc ▸ hs.allows t
    have hidle := hs.eq_idle (t := t) (by rw [hpc]; rfl) (by rw [hpc]; rfl)
    split at h
    · next hcreate =>
      -- the handler asks for a request
      obtain rfl := Option.some.inj h
      obtain ⟨hops, -⟩ := hs.fresh hcreate
      refine ⟨hs.move rfl ⟨hdeleted, nofun⟩ (fun t' hne => ?_) nofun
        (fun _ => .inl (by rw [hpc]; rfl)) (by simp [hpc]) nofun, fun _ => .inl ?_, ?_, ?_, nofun,
        nofun, hs.spawns, fun hne => absurd hdeleted hne⟩
      · rw [hidle t' hne]
        trivial
      · simp [start, setPc, hout]
      · simp [start, setPc, hops]
      · simp [start, setPc, hops]
    · next hprocess =>
      obtain rfl := Option.some.inj h
      refine ⟨hs.move rfl ⟨hout, hdeleted, hnot, rfl, hprocess⟩ (fun t' hne => ?_)
        (fun _ => .inl (by rw [hpc]; rfl)) (fun _ => .inl (by rw [hpc]; rfl)) (by simp [hpc]) nofun,
        fun _ => .inr ⟨hout, t, ?_⟩, fun hfin => absurd hfin hnot, fun hfin => absurd hfin hnot,
        ?_, ?_, ?_, fun hne => absurd hdeleted hne⟩
      · rw [hidle t' hne]
        trivial
      · simp [setPc, ProceedPc.carries]
      · simp [setPc, hprocess]
      · simp [setPc, hprocess]
      · -- a successor is spawned if there was none
        have := hs.spawns
        cases hnew : s.newrequest <;> simp [setPc, hnew, this]
    · next hfinish => exact absurd (hs.finished hfinish) hnot
  · cases h

/-- What an admitted behaviour starts: a chunk, and the request is not finished, or the terminal
operation. -/
theorem outcome_of_prompt {kind : ResponderKind} {b : Behaviour} (hb : b ≠ .rejects)
    (hfails : b = .fails → kind = .unary) :
    b.outcome kind = ([.write], false) ∨ b.outcome kind = ([.finish], true) := by
  cases b with
  | goesOn => exact .inl rfl
  | completes => exact .inr rfl
  | fails =>
    rw [hfails rfl]
    exact .inr rfl
  | rejects => exact absurd rfl hb

/-- Work on a request keeps the handler sound. -/
theorem Sound.work (hs : s.Sound) {b : Behaviour} (hl : Prompt s (.work t b))
    (h : s.step (.work t b) = some s') : s'.Sound := by
  obtain ⟨⟨hpc, -⟩, h⟩ := Option.ite_none_right_eq_some.mp h
  obtain rfl := Option.some.inj h
  obtain ⟨hout, hdeleted, hnot, hnew, hprocess⟩ : s.Allows .working := hpc ▸ hs.allows t
  have hidle := hs.eq_idle (t := t) (by rw [hpc]; rfl) (by rw [hpc]; rfl)
  have hstarted : ∃ op, (b.outcome s.kind).1 = [op] ∧
      ((b.outcome s.kind).2 = true ↔ op = .finish) := by
    obtain h | h := outcome_of_prompt hl.1 hl.2
    all_goals rw [h]
    · exact ⟨.write, rfl, nofun, nofun⟩
    · exact ⟨.finish, rfl, fun _ => rfl, fun _ => rfl⟩
  obtain ⟨op, hop, hfinished⟩ := hstarted
  rw [hop]
  have hmem : .finish ∈ s.ops ++ [op] ↔ op = .finish := by
    rw [List.mem_append, List.mem_singleton]
    exact ⟨fun h => (h.resolve_left hnot).symm, fun h => .inr h.symm⟩
  refine ⟨hs.move rfl ⟨hdeleted, hnew, hprocess, hfinished.trans hmem.symm⟩ (fun t' hne => ?_) nofun
    (fun _ => .inl (by rw [hpc]; rfl)) (by simp [hpc]) nofun, fun _ => .inl ?_, fun hfin => ?_,
    fun hfin => ⟨hnew, .inr ⟨t, ?_⟩⟩, ?_, ?_, hs.spawns, fun hne => absurd hdeleted hne⟩
  · rw [hidle t' hne]
    trivial
  · simp [start, setPc, hout]
  · exact ⟨s.ops, by rw [hmem.mp hfin]; rfl, hnot⟩
  · rw [hfinished.mpr (hmem.mp hfin)]
    exact Function.update_self _ _ _
  · simp [start, setPc, hprocess]
  · simp [start, setPc, hprocess]

/-- To set the state keeps the handler sound. -/
theorem Sound.set (hs : s.Sound) (h : s.step (.set t) = some s') : s'.Sound := by
  simp only [step] at h
  split at h
  · next finished hpc =>
    obtain rfl := Option.some.inj h
    obtain ⟨hdeleted, hnew, hprocess, hfinished⟩ : s.Allows (.worked finished) := hpc ▸ hs.allows t
    -- the others have not got the mutex, and the status means nothing to them yet
    have hothers : ∀ t', t' ≠ t → ∀ status,
        Allows { s with status := status } (s.pc t') := by
      intro t' hne status
      have hnot : (s.pc t').holds = false := Bool.eq_false_iff.mpr fun hh =>
        hne (hs.one_holder t' t hh (by rw [hpc]; rfl))
      have hallows := hs.allows t'
      revert hnot hallows
      cases hpc' : s.pc t' with
      | idle => exact fun _ _ => trivial
      | called | entering => exact fun _ h => h
      | deleting =>
        have := hs.alone t' t hpc' (Ne.symm hne)
        rw [hpc] at this
        cases this
      | locked | working | worked | leaving => exact fun h => nomatch h
    refine ⟨hs.move rfl ⟨hdeleted, ?_⟩ (fun t' hne => hothers t' hne _) nofun
      (fun _ => .inl (by rw [hpc]; rfl)) (by simp [hpc]) nofun, fun _ => ?_, hs.shape,
      fun hfin => ⟨hnew, .inl ?_⟩, ?_, ?_, hs.spawns, fun hne => absurd hdeleted hne⟩
    · change (if finished = true then ProceedStatus.finish else .process) ≠ .create
      split <;> exact nofun
    · refine (hs.token hdeleted).imp_right fun ⟨hout, hcarrier⟩ => ⟨hout, ?_⟩
      exact exists_carries_update (by rw [hpc]; rfl) hcarrier
    · exact if_pos (hfinished.mpr hfin)
    · cases finished <;> simp [setPc]
    · intro hstatus
      refine hfinished.mp (by_contra fun hne => ?_)
      simp [setPc, hne] at hstatus
  · cases h

/-- To leave the handler keeps it sound. -/
theorem Sound.leave (hs : s.Sound) (h : s.step (.leave t) = some s') : s'.Sound := by
  simp only [step] at h
  split at h
  · next hpc =>
    obtain rfl := Option.some.inj h
    obtain ⟨hdeleted, -⟩ : s.Allows .leaving := hpc ▸ hs.allows t
    refine ⟨hs.move rfl trivial (fun t' _ => hs.allows t') nofun nofun (by simp [hpc]) nofun,
      fun _ => ?_, hs.shape, fun hfin => ?_, hs.fresh, hs.finished, hs.spawns,
      fun hne => absurd hdeleted hne⟩
    · refine (hs.token hdeleted).imp_right fun ⟨hout, hcarrier⟩ => ⟨hout, ?_⟩
      exact exists_carries_update (by rw [hpc]; rfl) hcarrier
    · exact ⟨(hs.ended hfin).1, (hs.ended hfin).2.imp_right (exists_worked_update (by simp [hpc]))⟩
  · cases h

/-- To delete the handler keeps what is left sound. -/
theorem Sound.delete (hs : s.Sound) (h : s.step (.delete t) = some s') : s'.Sound := by
  simp only [step] at h
  split at h
  · next hpc =>
    obtain rfl := Option.some.inj h
    obtain ⟨hout, hdeleted, hfinish⟩ : s.Allows .deleting := hpc ▸ hs.allows t
    have hidle : ∀ t', Function.update s.pc t .idle t' = .idle := by
      intro t'
      by_cases heq : t' = t
      · subst heq
        exact Function.update_self _ _ _
      · rw [Function.update_of_ne heq, hs.alone t t' hpc heq]
    refine ⟨hs.move rfl trivial (fun t' hne => ?_) nofun nofun (by simp [hpc]) nofun, nofun,
      hs.shape, fun hfin => ⟨(hs.ended hfin).1, .inl hfinish⟩, hs.fresh, hs.finished, hs.spawns,
      fun _ => ⟨?_, hout, hfinish, hidle⟩⟩
    · rw [hs.alone t t' hpc hne]
      trivial
    · simp [setPc, hdeleted]
  · cases h

/-- **A prompt step** keeps the handler sound. -/
theorem Sound.step (hs : s.Sound) (hl : Prompt s l) (h : s.step l = some s') : s'.Sound := by
  cases l with
  | take t => exact hs.take h
  | read t => exact hs.read hl h
  | lock t => exact hs.lock h
  | look t => exact hs.look h
  | work t b => exact hs.work hl h
  | set t => exact hs.set h
  | leave t => exact hs.leave h
  | delete t => exact hs.delete h

/-! ### What the invariant gives -/

/-- A call that has done its work can go on. -/
theorem isSome_step_of_done (hidle : s.pc t ≠ .idle) (hcarries : (s.pc t).carries = false) :
    ∃ l, Prompt s l ∧ (s.step l).isSome := by
  cases hpc : s.pc t with
  | idle => exact absurd hpc hidle
  | worked finished => exact ⟨.set t, trivial, by simp [Handling.step, hpc]⟩
  | leaving => exact ⟨.leave t, trivial, by simp [Handling.step, hpc]⟩
  | called | entering | locked | working | deleting =>
    rw [hpc] at hcarries
    cases hcarries

/-- **The run goes on** until the handler is deleted. -/
theorem Sound.goesOn [Nonempty ι] (hs : s.Sound) (hdeleted : s.deleted = 0) :
    ∃ l, Prompt s l ∧ (s.step l).isSome := by
  by_cases hdone : ∃ t, s.pc t ≠ .idle ∧ (s.pc t).carries = false
  · obtain ⟨t, hidle, hcarries⟩ := hdone
    exact isSome_step_of_done hidle hcarries
  -- nobody is in the handler, but perhaps for the one call with the token
  have hidle : ∀ t, (s.pc t).carries = false → s.pc t = .idle := fun t hcarries =>
    by_contra fun hne => hdone ⟨t, hne, hcarries⟩
  obtain hone | ⟨-, t, hcarries⟩ := hs.token hdeleted
  · obtain ⟨t⟩ := ‹Nonempty ι›
    have hpc : s.pc t = .idle := hidle t (Bool.eq_false_iff.mpr fun h => by
      rw [(hs.outstanding_eq_zero h).1] at hone
      cases hone)
    exact ⟨.take t, trivial, by simp [Handling.step, hpc, hone]⟩
  have hothers : ∀ t', t' ≠ t → s.pc t' = .idle := fun t' hne =>
    hidle t' (Bool.eq_false_iff.mpr fun h => hne (hs.one_carrier t' t h hcarries))
  cases hpc : s.pc t with
  | called => exact ⟨.read t, fun _ => hothers, by simp [Handling.step, hpc]⟩
  | entering =>
    have hfree : ∀ t', (s.pc t').holds = false := by
      intro t'
      by_cases heq : t' = t
      · rw [heq, hpc]
        rfl
      · rw [hothers t' heq]
        rfl
    exact ⟨.lock t, trivial, by simp [Handling.step, hpc, hfree]⟩
  | locked =>
    refine ⟨.look t, trivial, ?_⟩
    simp only [Handling.step, hpc]
    split <;> rfl
  | working => exact ⟨.work t .completes, ⟨nofun, nofun⟩, by simp [Handling.step, hpc]⟩
  | deleting => exact ⟨.delete t, trivial, by simp [Handling.step, hpc]⟩
  | idle | worked | leaving =>
    rw [hpc] at hcarries
    cases hcarries

/-- One call goes on, and its weight and what is outstanding go down. -/
theorem remaining_lt (hpc : s'.pc = Function.update s.pc t pc)
    (hlt : 4 * s'.outstanding + pc.weight < 4 * s.outstanding + (s.pc t).weight) :
    s'.remaining < s.remaining := by
  have hother : ∀ t' ∈ Finset.univ.erase t, (s'.pc t').weight = (s.pc t').weight := fun t' ht' => by
    rw [hpc, Function.update_of_ne (Finset.ne_of_mem_erase ht')]
  have hsum := Finset.add_sum_erase Finset.univ (fun t' => (s.pc t').weight) (Finset.mem_univ t)
  have hsum' := Finset.add_sum_erase Finset.univ (fun t' => (s'.pc t').weight) (Finset.mem_univ t)
  have hself : s'.pc t = pc := by rw [hpc, Function.update_self]
  rw [Finset.sum_congr rfl hother] at hsum'
  simp only [hself] at hsum'
  rw [remaining, remaining, ← hsum, ← hsum']
  omega

/-- **The run ends** after the terminal operation. -/
theorem Sound.ends (hs : s.Sound) (hfin : .finish ∈ s.ops) (hl : Prompt s l)
    (h : s.step l = some s') : s'.remaining < s.remaining := by
  cases l with
  | take t =>
    obtain ⟨⟨hpc, hpos⟩, h⟩ := Option.ite_none_right_eq_some.mp h
    obtain rfl := Option.some.inj h
    refine remaining_lt rfl ?_
    simp only [setPc, hpc, ProceedPc.weight]
    omega
  | read t =>
    simp only [Handling.step] at h
    split at h
    · next hpc =>
      obtain rfl := Option.some.inj h
      -- the status is set already
      have hstatus : s.status = .finish := (hs.ended hfin).2.resolve_right fun ⟨t', ht'⟩ => by
        by_cases heq : t' = t
        · rw [heq, hpc] at ht'
          cases ht'
        · rw [hl hfin t' heq] at ht'
          cases ht'
      refine remaining_lt rfl ?_
      simp [setPc, hpc, hstatus, ProceedPc.weight]
    · cases h
  | lock t =>
    obtain ⟨⟨hpc, -⟩, -⟩ := Option.ite_none_right_eq_some.mp h
    have hallows : s.Allows .entering := hpc ▸ hs.allows t
    exact absurd hfin hallows.2.2
  | look t =>
    simp only [Handling.step] at h
    split at h
    · next hpc =>
      have hallows : s.Allows .locked := hpc ▸ hs.allows t
      exact absurd hfin hallows.2.2
    · cases h
  | work t b =>
    obtain ⟨⟨hpc, -⟩, -⟩ := Option.ite_none_right_eq_some.mp h
    have hallows : s.Allows .working := hpc ▸ hs.allows t
    exact absurd hfin hallows.2.2.1
  | set t | leave t | delete t =>
    simp only [Handling.step] at h
    split at h
    · next hpc =>
      obtain rfl := Option.some.inj h
      refine remaining_lt rfl ?_
      simp [setPc, hpc, ProceedPc.weight]
    · cases h

/-- Operations are started, and the handler is deleted, by the call with the token. -/
theorem Sound.proper (hs : s.Sound) (h : s.step l = some s') : s.Proper l.thread s' := by
  cases l with
  | take t | lock t =>
    obtain ⟨-, h⟩ := Option.ite_none_right_eq_some.mp h
    obtain rfl := Option.some.inj h
    exact ⟨fun hne => absurd rfl hne, fun hne => absurd rfl hne⟩
  | work t b =>
    obtain ⟨⟨hpc, -⟩, h⟩ := Option.ite_none_right_eq_some.mp h
    obtain rfl := Option.some.inj h
    -- only a call that has found work to do starts operations
    have hallows : s.Allows .working := hpc ▸ hs.allows t
    exact ⟨fun _ => hallows.1, fun hne => absurd rfl hne⟩
  | look t =>
    simp only [Handling.step] at h
    split at h
    · next hpc =>
      have hallows : s.Allows .locked := hpc ▸ hs.allows t
      refine ⟨fun _ => hallows.1, fun hne => absurd ?_ hne⟩
      split at h
      all_goals
        obtain rfl := Option.some.inj h
        rfl
    · cases h
  | read t | set t | leave t =>
    simp only [Handling.step] at h
    split at h
    · obtain rfl := Option.some.inj h
      exact ⟨fun hne => absurd rfl hne, fun hne => absurd rfl hne⟩
    · cases h
  | delete t =>
    simp only [Handling.step] at h
    split at h
    · next hpc =>
      obtain rfl := Option.some.inj h
      exact ⟨fun hne => absurd rfl hne, fun _ t' hne => hs.alone t t' hpc hne⟩
    · cases h

/-- A sound handler has answered. -/
theorem Sound.answered [Nonempty ι] (hs : s.Sound) : s.Answered where
  last pre post hops := by
    obtain ⟨pre', hshape, hnot⟩ := hs.shape (by simp [hops])
    rw [hops] at hshape
    -- what comes before the end of the list has no terminal operation
    by_contra hne
    obtain ⟨post', op, rfl⟩ := List.eq_nil_or_concat post |>.resolve_left hne
    rw [List.concat_eq_append, ← List.cons_append, ← List.append_assoc] at hshape
    obtain ⟨hpre, -⟩ := List.append_inj' hshape rfl
    exact hnot (hpre ▸ by simp)
  goesOn := hs.goesOn
  ends hfin _ _ hl h := hs.ends hfin hl h
  once hne := by
    obtain ⟨hdeleted, hout, hstatus, hidle⟩ := hs.gone hne
    have hfin := hs.finished hstatus
    refine ⟨hdeleted, hfin, ?_, hout, hidle⟩
    rw [hs.spawns, (hs.ended hfin).1]
    rfl

private theorem sound_init (kind : ResponderKind) (creator : ι) :
    (proceedSystem ι kind creator).init.Sound := by
  have hpc : ∀ t, (proceedSystem ι kind creator).init.pc t =
      if t = creator then .called else .idle := fun t => by
    change Function.update (fun _ => ProceedPc.idle) creator .called t = _
    rw [Function.update_apply]
  refine ⟨⟨fun t => ?_, fun t t' h h' => ?_, fun t t' h => ?_, fun t t' h => ?_⟩,
    fun _ => .inr ⟨rfl, creator, ?_⟩, nofun, nofun, fun _ => ⟨rfl, rfl⟩, nofun, rfl,
    fun h => absurd rfl h⟩
  · rw [hpc]
    split
    · exact ⟨rfl, rfl⟩
    · trivial
  · rw [hpc] at h h'
    split at h <;> split at h'
    · exact ‹t = creator›.trans ‹t' = creator›.symm
    all_goals simp [ProceedPc.carries] at h h'
  · rw [hpc] at h
    split at h <;> cases h
  · rw [hpc] at h
    split at h <;> cases h
  · rw [hpc, if_pos rfl]
    rfl

end Handling

/-- **Every request is answered once**: the terminal operation is started once and last, one
operation at a time, and the handler is deleted once, with no other thread in it. -/
theorem answered_of_prompt {kind : ResponderKind} {creator : ι}
    (h : (proceedSystem ι kind creator).ReachableWhile Prompt s) :
    s.Answered ∧ ∀ l s', Prompt s l → s.step l = some s' → s.Proper l.thread s' := by
  have hs : s.Sound :=
    h.invariant (Handling.sound_init kind creator) fun _ _ _ _ hs hl hstep => hs.step hl hstep
  have : Nonempty ι := ⟨creator⟩
  exact ⟨hs.answered, fun _ _ _ hstep => hs.proper hstep⟩

end Answered

/-- A stream of one chunk. The event of the chunk is taken, and the mutex waited for, while the call
that writes it is still in the handler. -/
def promptTrace : List (ProceedLabel (Fin 2)) :=
  [.read 0, .lock 0, .look 0, .leave 0, .take 0, .read 0, .lock 0, .look 0, .work 0 .goesOn,
    .take 1, .read 1, .set 0, .leave 0, .lock 1, .look 1, .work 1 .completes, .set 1, .leave 1,
    .take 0, .read 0, .delete 0]

theorem answered_of_prompt_promptTrace : ∃ s,
    (proceedSystem (Fin 2) .stream 0).run (proceedSystem (Fin 2) .stream 0).init promptTrace =
      some s ∧ s.deleted = 1 ∧ s.ops = [.request, .write, .finish] ∧ s.Answered ∧
      ∀ l s', Prompt s l → s.step l = some s' → s.Proper l.thread s' := by
  have hrun : ((proceedSystem (Fin 2) .stream 0).run (proceedSystem (Fin 2) .stream 0).init
      promptTrace).map (fun s => (s.deleted, s.ops)) = some (1, [.request, .write, .finish]) := by
    decide
  obtain ⟨s, hs, hfacts⟩ := Option.map_eq_some_iff.mp hrun
  obtain ⟨hdeleted, hops⟩ := Prod.mk.inj hfacts
  have hreach : (proceedSystem (Fin 2) .stream 0).ReachableWhile Prompt s :=
    TransitionSystem.ReachableWhile.init.run (by decide) hs
  exact ⟨s, hs, hdeleted, hops, answered_of_prompt hreach⟩

/-- **A stream that fails is not answered**: the handler is deleted without a terminal
operation. -/
theorem failed_stream_not_answered : ∃ s,
    (proceedSystem (Fin 1) .stream 0).Reachable s ∧ ¬ s.Answered := by
  have hrun : ((proceedSystem (Fin 1) .stream 0).run (proceedSystem (Fin 1) .stream 0).init
      [.read 0, .lock 0, .look 0, .leave 0, .take 0, .read 0, .lock 0, .look 0, .work 0 .fails,
        .set 0, .leave 0, .take 0, .read 0, .delete 0]).map (fun s => (s.deleted, s.ops)) =
      some (1, [.request, .write]) := by decide
  obtain ⟨s, hs, hfacts⟩ := Option.map_eq_some_iff.mp hrun
  obtain ⟨hdeleted, hops⟩ := Prod.mk.inj hfacts
  refine ⟨s, TransitionSystem.reachable_of_run hs, fun hanswered => ?_⟩
  obtain ⟨-, hfin, -⟩ := hanswered.once (by simp [hdeleted])
  simp [hops] at hfin

end Foxtrot
