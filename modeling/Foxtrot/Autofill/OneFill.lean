import Foxtrot.Autofill.Overlap

/-!
# One fill at a time

That the result of a fill is collected before the next one starts hangs on one more look of `tick`:
it sets `fill_just_done` back and then looks whether the future is ready. If the thread has set the
flag but not returned, the flag is gone and the result is not collected, and the next tick may start
a fill. While that does not happen either (`Unmissed`), at most one fill runs, the relay is
energised only by a fill between its opening and its closing, and a fill is launched only after the
result of the one before has been collected (`singleFill_of_unmissed`).

A fill goes through two places that outlive its thread: the flags and the future. The invariant
(`Collected`) adds to `Autofill.Apart` where the newest fill's future is: it is about to be
assigned, it is in `running_fill_`, or it has been collected, and then the thread has returned. An
end that has been marked in `fill_just_done` is either still to be seen or being collected. A tick
that decides for a new fill has seen `fill_just_done` clear and no fill in progress, so only the
third case is left, and the relay is not energised.
-/

namespace Foxtrot

namespace Autofill

variable {s s' : Autofill} {l : AutofillLabel} {i : ℕ} {pc : FillPc}

/-- At most one fill runs, and only such a fill energises the relay. -/
structure SingleFill (s : Autofill) : Prop where
  one : ∀ (i j : ℕ) (pc pc' : FillPc), s.fills[i]? = some pc → s.fills[j]? = some pc' →
    pc.isRunning = true → pc'.isRunning = true → i = j
  valve : s.relay = some true → ∃ i : ℕ, s.fills[i]? = some .opened

/-- If the step launches a fill, no fill runs, and the result of the last one is collected. -/
def StartsCollected (s s' : Autofill) : Prop :=
  s'.fills.length ≠ s.fills.length →
    s.runningFill = none ∧ ∀ pc ∈ s.fills, pc.isRunning = false

/-- Besides, no tick that has set `fill_just_done` back looks at the future while the thread that
had set it has not returned. -/
def Unmissed (s : Autofill) (l : AutofillLabel) : Prop :=
  Unhurried s l ∧ ((∃ enabled, l = .main enabled) → s.tick = .collecting → s.fillJustDone = false →
    s.newest ≠ some (.marked false) ∧ s.newest ≠ some (.marked true))

instance Unmissed.decidable (s : Autofill) (l : AutofillLabel) : Decidable (Unmissed s l) :=
  match l with
  | .main enabled => decidable_of_iff (Unhurried s (.main enabled) ∧
      (s.tick = .collecting → s.fillJustDone = false →
        s.newest ≠ some (.marked false) ∧ s.newest ≠ some (.marked true)))
      ⟨fun h => ⟨h.1, fun _ => h.2⟩, fun h => ⟨h.1, h.2 ⟨enabled, rfl⟩⟩⟩
  | .tick env dewarFilled => decidable_of_iff (Unhurried s (.tick env dewarFilled))
      ⟨fun h => ⟨h, by rintro ⟨_, ⟨⟩⟩⟩, And.left⟩
  | .throw => decidable_of_iff (Unhurried s .throw) ⟨fun h => ⟨h, by rintro ⟨_, ⟨⟩⟩⟩, And.left⟩
  | .fill i => decidable_of_iff (Unhurried s (.fill i))
      ⟨fun h => ⟨h, by rintro ⟨_, ⟨⟩⟩⟩, And.left⟩
  | .fail i reached => decidable_of_iff (Unhurried s (.fail i reached))
      ⟨fun h => ⟨h, by rintro ⟨_, ⟨⟩⟩⟩, And.left⟩

/-- The future of a fill is in `running_fill_` or about to be assigned to it. -/
def Pending (s : Autofill) : Prop :=
  s.runningFill ≠ none ∨ ∃ n, s.tick = .assigning n

/-- The invariant: all fills before the newest have returned, and the newest is collected or
pending; and an end that has been marked is still to be seen by a tick. -/
structure Collected (s : Autofill) : Prop extends s.Apart where
  ended : ∀ (i : ℕ) (pc : FillPc), s.fills[i]? = some pc → i + 1 < s.fills.length →
    pc.isRunning = false
  future : ∀ n, s.runningFill = some n → n + 1 = s.fills.length
  assigning : ∀ n, s.tick = .assigning n → n + 1 = s.fills.length ∧ s.runningFill = none
  collected : ¬ s.Pending → ∀ pc, s.newest = some pc → pc.isRunning = false
  marked : s.Pending → ∀ pc, s.newest = some pc → pc.isOver = true →
    s.fillJustDone = true ∨ s.tick = .collecting
  ready : s.tick = .starting ∨ s.tick = .flagging ∨ s.tick = .launching → s.runningFill = none

/-- A step of `tick` that leaves the fills and the future alone. -/
theorem Collected.tickStep (hs : s.Collected) (hapart : s'.Apart) (hfills : s'.fills = s.fills)
    (hfuture : s'.runningFill = s.runningFill) (hdone : s'.fillJustDone = s.fillJustDone)
    (hold : (∀ n, s.tick ≠ .assigning n) ∧ s.tick ≠ .collecting)
    (hnew : ∀ n, s'.tick ≠ .assigning n)
    (hready : s'.tick = .starting ∨ s'.tick = .flagging ∨ s'.tick = .launching →
      s.runningFill = none) : s'.Collected := by
  have hnewest : s'.newest = s.newest := congrArg List.getLast? hfills
  have hpending : s'.Pending ↔ s.Pending := by
    rw [Pending, Pending, hfuture]
    simp [hold.1, hnew]
  refine ⟨hapart, ?_, ?_, fun n hn => absurd hn (hnew n), ?_, ?_, fun h => hfuture.trans (hready h)⟩
  · rw [hfills]
    exact hs.ended
  · rw [hfuture, hfills]
    exact hs.future
  · rw [hpending, hnewest]
    exact hs.collected
  · rw [hpending, hnewest, hdone]
    exact fun hp pc hpc hover => .inl ((hs.marked hp pc hpc hover).resolve_right hold.2)

/-- Only the newest fill goes on. -/
theorem Collected.setFill (hs : s.Collected) (hapart : s'.Apart) (hi : s.fills[i]? = some pc)
    (hrunning : pc.isRunning = true) {pc' : FillPc} (hfills : s'.fills = s.fills.set i pc')
    (htick : s'.tick = s.tick) (hfuture : s'.runningFill = s.runningFill)
    (hdone : s'.fillJustDone = s.fillJustDone ∨ s'.fillJustDone = true)
    (hover : pc'.isOver = true → pc.isOver = true ∨ s'.fillJustDone = true) : s'.Collected := by
  obtain ⟨hlen, -⟩ := List.getElem?_eq_some_iff.mp hi
  -- all fills but the newest have ended
  have hlast : i + 1 = s.fills.length := by
    obtain hlt | hlast := Nat.lt_or_eq_of_le (Nat.succ_le_of_lt hlen)
    · rw [hs.ended i pc hi hlt] at hrunning
      cases hrunning
    · exact hlast
  have hnewest := newest_of_getElem? hi hlast
  have hlength : s'.fills.length = s.fills.length := by rw [hfills, List.length_set]
  have hpending : s'.Pending ↔ s.Pending := by rw [Pending, Pending, hfuture, htick]
  have hnewest' : s'.newest = some pc' := by
    rw [newest, hfills]
    exact newest_setFill_of_eq hlast
  refine ⟨hapart, fun j pc₁ hj hlt => ?_, ?_, ?_, fun hnot => ?_, fun hp pc₁ h₁ hov => ?_, ?_⟩
  · rw [hlength] at hlt
    rw [hfills, List.getElem?_set_ne (by omega)] at hj
    exact hs.ended j pc₁ hj hlt
  · rw [hfuture, hlength]
    exact hs.future
  · rw [htick, hlength, hfuture]
    exact hs.assigning
  · rw [hpending] at hnot
    -- a fill that runs is still pending
    rw [hs.collected hnot pc hnewest] at hrunning
    cases hrunning
  · rw [hnewest'] at h₁
    obtain rfl := Option.some.inj h₁
    rw [htick]
    obtain hold | hnew := hover hov
    · refine (hs.marked (hpending.mp hp) pc hnewest hold).imp_left fun h => ?_
      exact hdone.elim (fun heq => heq.trans h) id
    · exact .inl hnew
  · rw [htick, hfuture]
    exact hs.ready

/-- A step of a fill keeps the futures collected. -/
theorem Collected.fillNext (hs : s.Collected) (hi : s.fills[i]? = some pc)
    (h : s.fillNext i pc = some s') : s'.Collected := by
  have hapart := hs.toApart.fillNext hi h
  cases pc with
  | started | opened =>
    obtain rfl := Option.some.inj h
    rw [setRelay_eq] at hapart ⊢
    exact hs.setFill hapart hi rfl rfl rfl rfl (.inl rfl) nofun
  | cleared e =>
    obtain rfl := Option.some.inj h
    exact hs.setFill hapart hi rfl rfl rfl rfl (.inr rfl) fun _ => .inr rfl
  | marked e =>
    obtain rfl := Option.some.inj h
    exact hs.setFill hapart hi rfl rfl rfl rfl (.inl rfl) fun _ => .inl rfl
  | returned | failed => cases h
  | _ =>
    obtain rfl := Option.some.inj h
    exact hs.setFill hapart hi rfl rfl rfl rfl (.inl rfl) nofun

/-- So does a fill that fails, if it is not hurried. -/
theorem Collected.fillFail (hs : s.Collected) {reached : Bool} (hi : s.fills[i]? = some pc)
    (hl : Unhurried s (.fail i reached)) (h : s.fillFail i reached pc = some s') :
    s'.Collected := by
  have hapart := hs.toApart.fillFail hi hl h
  cases pc with
  | started | opened =>
    obtain ⟨-, h⟩ := Option.ite_none_left_eq_some.mp h
    obtain rfl := Option.some.inj h
    rw [setRelay_eq] at hapart ⊢
    cases reached
    all_goals exact hs.setFill hapart hi rfl rfl rfl rfl (.inl rfl) nofun
  | filled | logged =>
    obtain rfl := Option.some.inj h
    cases reached
    all_goals exact hs.setFill hapart hi rfl rfl rfl rfl (.inl rfl) nofun
  | _ => cases h

/-- The future that is looked at is that of the newest fill. -/
theorem Collected.bind_runningFill (hs : s.Collected) {n : ℕ} (hn : s.runningFill = some n) :
    s.runningFill.bind (s.fills[·]?) = s.newest := by
  rw [hn, newest_eq, ← hs.future n hn, Nat.add_sub_cancel]
  rfl

/-- The future is ready, and its result is collected. -/
theorem Collected.collect (hs : s.Collected) {tick : TickPc} {pc : FillPc}
    (hapart : ({ s with runningFill := none, tick } : Autofill).Apart)
    (hnewest : s.newest = some pc) (hended : pc.isRunning = false)
    (hnew : ∀ n, tick ≠ .assigning n) :
    ({ s with runningFill := none, tick } : Autofill).Collected where
  toApart := hapart
  ended := hs.ended
  future := nofun
  assigning n hn := absurd hn (hnew n)
  collected _ pc' hpc' := by
    obtain rfl := Option.some.inj (hnewest.symm.trans hpc')
    exact hended
  marked hp := absurd hp (by simp [Pending, hnew])
  ready _ := rfl

/-- The future is not ready, or there is none. -/
theorem Collected.keep (hs : s.Collected) (htick : s.tick = .collecting)
    (hapart : ({ s with tick := .idle } : Autofill).Apart)
    (hmarked : s.runningFill ≠ none → ∀ pc, s.newest = some pc → pc.isOver = true →
      s.fillJustDone = true) : ({ s with tick := .idle } : Autofill).Collected where
  toApart := hapart
  ended := hs.ended
  future := hs.future
  assigning := nofun
  collected hnot := hs.collected (by simpa [Pending, htick] using hnot)
  marked hp pc hpc hover := .inl (hmarked (by simpa [Pending] using hp) pc hpc hover)
  ready := by simp

/-- Where `tick` decides for a fill, the newest fill is over and no end is marked, so its result
has been collected. -/
theorem Collected.runningFill_of_decided (hs : s.Collected) {pumpdown fillNeeded : Bool}
    (htick : s.tick = .deciding pumpdown fillNeeded) (hdone : s.fillJustDone = false)
    (hover : ∀ pc, s.newest = some pc → pc.isOver = true) : s.runningFill = none := by
  by_contra hfuture
  obtain ⟨n, hn⟩ := Option.ne_none_iff_exists'.mp hfuture
  have hlast := hs.future n hn
  have hget := List.getElem?_eq_getElem (show n < s.fills.length by omega)
  have hnewest := newest_of_getElem? hget hlast
  obtain hmarked | hcollecting := hs.marked (.inl hfuture) _ hnewest (hover _ hnewest)
  · rw [hdone] at hmarked
    cases hmarked
  · rw [htick] at hcollecting
    cases hcollecting

/-- The new fill is just launched, and the ones before it have ended. -/
theorem Collected.launch (hs : s.Collected) (htick : s.tick = .launching)
    (hapart : ({ s with fills := s.fills ++ [.launched],
                        tick := .assigning s.fills.length } : Autofill).Apart) :
    ({ s with fills := s.fills ++ [.launched],
              tick := .assigning s.fills.length } : Autofill).Collected := by
  have hready := hs.ready (.inr (.inr htick))
  have hended := hs.collected (by simp [Pending, hready, htick])
  refine ⟨hapart, fun i pc hi hlt => ?_, ?_, ?_, ?_, ?_, by simp⟩
  · rw [List.length_append, List.length_singleton] at hlt
    rw [List.getElem?_append_left (by omega)] at hi
    obtain hlt' | hlast := Nat.lt_or_eq_of_le (show i + 1 ≤ s.fills.length by omega)
    · exact hs.ended i pc hi hlt'
    · exact hended pc (newest_of_getElem? hi hlast)
  · simp [hready]
  · rintro n ⟨⟩
    exact ⟨by simp, hready⟩
  · exact fun hnot => absurd (.inr ⟨_, rfl⟩) hnot
  · intro _ pc hpc hover
    obtain rfl := Option.some.inj (hpc.symm.trans List.getLast?_concat)
    cases hover

/-- The future of the new fill is kept. -/
theorem Collected.assign (hs : s.Collected) {n : ℕ} (htick : s.tick = .assigning n)
    (hapart : ({ s with runningFill := some n, tick := .resetting } : Autofill).Apart) :
    ({ s with runningFill := some n, tick := .resetting } : Autofill).Collected := by
  obtain ⟨hlast, hnone⟩ := hs.assigning n htick
  refine ⟨hapart, hs.ended, ?_, nofun, ?_, ?_, by simp⟩
  · rintro _ ⟨⟩
    exact hlast
  · exact fun hnot => absurd (.inl nofun) hnot
  · intro _ pc hpc hover
    refine .inl ((hs.marked (.inr ⟨n, htick⟩) pc hpc hover).resolve_right ?_)
    simp [htick]

/-- At the end of a tick the future is looked at. -/
theorem Collected.lookAtFuture (hs : s.Collected) {enabled : Bool}
    (hl : Unmissed s (.main enabled)) (htick : s.tick = .collecting) (hapart : s'.Apart)
    (h : s.mainNext enabled = some s') : s'.Collected := by
  unfold Autofill.mainNext at h
  simp only [htick] at h
  obtain hfuture | ⟨n, hfuture⟩ := Option.eq_none_or_eq_some s.runningFill
  · have hbind : s.runningFill.bind (s.fills[·]?) = none := by
      rw [hfuture]
      rfl
    rw [hbind] at h
    obtain rfl := Option.some.inj h
    exact hs.keep htick hapart fun hne => absurd hfuture hne
  · rw [hs.bind_runningFill hfuture] at h
    split at h
    · next hnewest =>
      obtain rfl := Option.some.inj h
      exact hs.collect hapart hnewest rfl nofun
    · next hnewest =>
      obtain rfl := Option.some.inj h
      exact hs.collect hapart hnewest rfl nofun
    · next hnewest =>
      obtain rfl := Option.some.inj h
      exact hs.collect hapart hnewest rfl nofun
    · next hfalse htrue _ =>
      obtain rfl := Option.some.inj h
      refine hs.keep htick hapart fun _ pc hpc hover => ?_
      by_contra hdone
      -- a thread that has set the flag and not returned is looked at too early
      obtain ⟨hmarked, hmarked'⟩ := hl.2 ⟨enabled, rfl⟩ htick (by simpa using hdone)
      cases pc with
      | marked e => cases e <;> [exact hmarked hpc; exact hmarked' hpc]
      | returned e => cases e <;> [exact hfalse hpc; exact htrue hpc]
      | _ => cases hover

/-- So does a step of the main thread, if no future is missed. -/
theorem Collected.mainNext (hs : s.Collected) {enabled : Bool}
    (hl : Unmissed s (.main enabled)) (h : s.mainNext enabled = some s') : s'.Collected := by
  have hapart := hs.toApart.mainNext hl.1 h
  unfold Autofill.mainNext at h
  cases htick : s.tick with
  | idle | dead => simp [htick] at h
  | checked env =>
    simp only [htick] at h
    repeat' split at h
    all_goals
      obtain rfl := Option.some.inj h
      exact hs.tickStep hapart rfl rfl rfl (by simp [htick]) nofun (by simp)
  | seenEmpty pumpdown =>
    simp only [htick] at h
    split at h
    all_goals obtain rfl := Option.some.inj h
    · cases hdewar : s.dewarEmpty
      all_goals
        rw [hdewar] at hapart
        exact hs.tickStep hapart rfl rfl rfl (by simp [htick]) nofun (by simp)
    · exact hs.tickStep hapart rfl rfl rfl (by simp [htick]) nofun (by simp)
  | notDone pumpdown =>
    simp only [htick] at h
    obtain rfl := Option.some.inj h
    exact hs.tickStep hapart rfl rfl rfl (by simp [htick]) nofun (by simp)
  | deciding pumpdown fillNeeded =>
    simp only [htick] at h
    split at h
    · next hfill =>
      obtain rfl := Option.some.inj h
      -- a fill begins only if `fill_just_done` is not set: the future has been collected
      simp only [Bool.and_eq_true, Bool.not_eq_true'] at hfill
      obtain ⟨⟨-, hdone⟩, -⟩ := hfill
      exact hs.tickStep hapart rfl rfl rfl (by simp [htick]) nofun fun _ =>
        hs.runningFill_of_decided htick hdone hapart.knows
    · obtain rfl := Option.some.inj h
      exact hs.tickStep hapart rfl rfl rfl (by simp [htick]) nofun (by simp)
  | starting =>
    have hready := hs.ready (.inl htick)
    simp only [htick] at h
    split at h
    all_goals
      obtain rfl := Option.some.inj h
      exact hs.tickStep hapart rfl rfl rfl (by simp [htick]) nofun fun _ => hready
  | flagging =>
    simp only [htick] at h
    obtain rfl := Option.some.inj h
    exact hs.tickStep hapart rfl rfl rfl (by simp [htick]) nofun fun _ =>
      hs.ready (.inr (.inl htick))
  | launching =>
    simp only [htick] at h
    obtain rfl := Option.some.inj h
    exact hs.launch htick hapart
  | assigning n =>
    -- there is no future to wait for
    simp only [htick, (hs.assigning n htick).2, Option.bind_none] at h
    obtain rfl := Option.some.inj h
    exact hs.assign htick hapart
  | resetting =>
    simp only [htick] at h
    obtain rfl := Option.some.inj h
    refine ⟨hapart, hs.ended, hs.future, nofun, fun hnot => hs.collected ?_,
      fun _ _ _ _ => .inr rfl, by simp⟩
    simpa [Pending, htick] using hnot
  | collecting => exact hs.lookAtFuture hl htick hapart h

/-- **A step that misses no future** keeps the futures collected. -/
theorem Collected.step (hs : s.Collected) (hl : Unmissed s l) (h : s.step l = some s') :
    s'.Collected := by
  have hapart := hs.toApart.step hl.1 h
  cases steps_of_step h with
  | tick hidle | tickFilled hidle =>
    exact hs.tickStep hapart rfl rfl rfl (by simp [hidle]) nofun (by simp)
  | main h => exact hs.mainNext hl h
  | throw hremote =>
    refine hs.tickStep hapart rfl rfl rfl ⟨fun n hn => ?_, fun hcollecting => ?_⟩ nofun (by simp)
    · rw [hn] at hremote
      cases hremote
    · rw [hcollecting] at hremote
      cases hremote
  | fill _ hi h => exact hs.fillNext hi h
  | fail _ hi h => exact hs.fillFail hi hl.1 h

private theorem collected_init (dryrun : Bool) : (autofillSystem dryrun).init.Collected where
  toApart := apart_init dryrun
  ended := nofun
  future := nofun
  assigning := nofun
  collected _ := nofun
  marked _ := nofun
  ready := by simp [autofillSystem, new]

/-! ### What the invariant gives -/

/-- Where the futures are collected, there is one fill at a time. -/
private theorem Collected.singleFill (hs : s.Collected) : s.SingleFill where
  one i j pc pc' hi hj hrunning hrunning' := by
    have hlast : ∀ {i : ℕ} {pc : FillPc}, s.fills[i]? = some pc → pc.isRunning = true →
        i + 1 = s.fills.length := by
      intro i pc hi hrunning
      obtain ⟨hlen, -⟩ := List.getElem?_eq_some_iff.mp hi
      obtain hlt | hlast := Nat.lt_or_eq_of_le (Nat.succ_le_of_lt hlen)
      · rw [hs.ended i pc hi hlt] at hrunning
        cases hrunning
      · exact hlast
    have := hlast hi hrunning
    have := hlast hj hrunning'
    omega
  valve hon := ⟨_, newest_eq.symm.trans (hs.relay hon)⟩

/-- A tick that launches a fill has seen the end of the one before. -/
theorem Collected.startsCollected (hs : s.Collected) (h : s.step l = some s') :
    s.StartsCollected s' := by
  intro hlen
  have hset : ∀ {s₁ : Autofill} {i pc}, s₁.fills = s.fills.set i pc →
      s₁.fills.length = s.fills.length := fun h => by rw [h, List.length_set]
  cases steps_of_step h with
  | tick | tickFilled | throw => exact absurd rfl hlen
  | main h =>
    obtain hsame | ⟨htick, -⟩ := mainNext_fills h
    · exact absurd (congrArg List.length hsame) hlen
    · have hready := hs.ready (.inr (.inr htick))
      have hended := hs.collected (by simp [Pending, hready, htick])
      refine ⟨hready, fun pc hmem => ?_⟩
      obtain ⟨i, hi⟩ := List.mem_iff_getElem?.mp hmem
      obtain ⟨hlt, -⟩ := List.getElem?_eq_some_iff.mp hi
      obtain hlt' | hlast := Nat.lt_or_eq_of_le (Nat.succ_le_of_lt hlt)
      · exact hs.ended i pc hi hlt'
      · exact hended pc (newest_of_getElem? hi hlast)
  | fill _ _ h =>
    obtain ⟨pc', hfills⟩ := fillNext_fills h
    exact absurd (hset hfills) hlen
  | fail _ _ h =>
    obtain ⟨pc', hfills⟩ := fillFail_fills h
    exact absurd (hset hfills) hlen

end Autofill

open Autofill

/-- **Never two fills at once**, in every run in which no tick hurries and no end is missed. -/
theorem singleFill_of_unmissed {dryrun : Bool} {s : Autofill}
    (h : (autofillSystem dryrun).ReachableWhile Unmissed s) :
    s.SingleFill ∧ ∀ l s', Unmissed s l → s.step l = some s' → s.StartsCollected s' := by
  have hs : s.Collected :=
    h.invariant (collected_init dryrun) fun _ _ _ _ hs hl hstep => hs.step hl hstep
  exact ⟨hs.singleFill, fun _ _ _ hstep => hs.startsCollected hstep⟩

/-- A whole fill, after which a tick finds the tank full and collects the result, and the begin of
another. -/
def unmissedTrace : List AutofillLabel :=
  [.tick ⟨true, true⟩ false, .main true, .main true, .main true, .main true, .main true, .main true,
    .main true, .main true, .main true, .main true, .fill 0, .fill 0, .fill 0, .fill 0, .fill 0,
    .fill 0, .fill 0, .fill 0, .tick ⟨true, false⟩ false, .main true, .main true, .main true,
    .main true, .tick ⟨true, true⟩ false, .main true, .main true, .main true, .main true,
    .main true, .main true, .main true, .fill 1, .fill 1]

theorem singleFill_of_unmissed_unmissedTrace : ∃ s,
    (autofillSystem false).run (autofillSystem false).init unmissedTrace = some s ∧
      s.fills = [.returned false, .opened] ∧ s.relay = some true ∧ s.SingleFill ∧
      ∀ l s', Unmissed s l → s.step l = some s' → s.StartsCollected s' := by
  have hrun : ((autofillSystem false).run (autofillSystem false).init unmissedTrace).map
      (fun s => (s.fills, s.relay)) = some ([.returned false, .opened], some true) := by decide
  obtain ⟨s, hs, hfacts⟩ := Option.map_eq_some_iff.mp hrun
  obtain ⟨hfills, hrelay⟩ := Prod.mk.inj hfacts
  have hreach : (autofillSystem false).ReachableWhile Unmissed s :=
    TransitionSystem.ReachableWhile.init.run (by decide) hs
  exact ⟨s, hs, hfills, hrelay, singleFill_of_unmissed hreach⟩

/-- **Two fills at once**: a second tick comes before the thread of the first fill has set
`fill_in_progress`. -/
theorem two_fills_at_once : ∃ s, (autofillSystem false).Reachable s ∧ ¬ s.SingleFill := by
  have hrun : ((autofillSystem false).run (autofillSystem false).init
      [.tick ⟨true, true⟩ false, .main true, .main true, .main true, .main true, .main true,
        .main true, .main true, .main true, .main true, .main true,
        .tick ⟨true, true⟩ false, .main true, .main true, .main true, .main true, .main true,
        .main true, .main true]).map Autofill.fills = some [.launched, .launched] := by decide
  obtain ⟨s, hs, hfills⟩ := Option.map_eq_some_iff.mp hrun
  refine ⟨s, TransitionSystem.reachable_of_run hs, fun hsingle => ?_⟩
  have := hsingle.one 0 1 .launched .launched (by simp [hfills]) (by simp [hfills]) rfl rfl
  cases this

end Foxtrot
