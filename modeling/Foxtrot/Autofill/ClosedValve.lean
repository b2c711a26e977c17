import Foxtrot.Autofill.Overlap

/-!
# No fill is reported over with the valve open

The end of a fill is reported twice, in the log and by the server flag. Both reports come after the
`catch` of the thread, so a command that fails to close the valve does not stop them. And a report
that fails leaves `fill_in_progress` set for good. If the fills do not overlap and the relay is not
left energised (`Unhurried`), if the reports do not fail, and if a command to open the valve fails
only where an earlier command has left it closed, then whatever else fails the last relay command
that took effect before a fill is reported over is the one that closes the valve
(`truthful_of_reliable`). This is about runs that are not dry: a dry run sends no relay command.

`Apart` from the overlap module already says that an energised relay belongs to the newest fill
while it is open. What it leaves out is a relay to which no command has come: `Uncommanded` says
that then no fill is past its command to open the valve, so none is reported over. Together they
leave for a fill that is reported over only the command that closes the valve.
-/

namespace Foxtrot

namespace Autofill

variable {s s' : Autofill} {l : AutofillLabel}

/-- What is reported of the fills is true. -/
structure Truthful (s : Autofill) : Prop where
  /-- Between ticks, with no fill running, `fill_in_progress` is not set. -/
  idle : s.tick = .idle → (∀ pc ∈ s.fills, pc.isRunning = false) → s.fillInProgress = false
  /-- Once `autofill/fillactive` is set back, the last relay command was to close the valve. -/
  flag : s.fillactive = some false → s.relay = some false
  /-- And so once `fill_complete` is logged, until the next fill begins. -/
  event : lastFillEvent s.events = some .fillComplete → s.relay = some false

/-- A command to open the valve fails only on a valve that has been closed before, and the end of a
fill can be logged and flagged. -/
def Reliable (s : Autofill) (l : AutofillLabel) : Prop :=
  Unhurried s l ∧ ∀ i reached, l = .fail i reached →
    (s.fills[i]? = some .started → s.relay = some false) ∧
      ∀ e, s.fills[i]? ≠ some (.filled e) ∧ s.fills[i]? ≠ some (.logged e)

instance Reliable.decidable (s : Autofill) (l : AutofillLabel) : Decidable (Reliable s l) :=
  match l with
  | .fail i reached => decidable_of_iff (Unhurried s (.fail i reached) ∧
      (s.fills[i]? = some .started → s.relay = some false) ∧
      (∀ e, s.fills[i]? ≠ some (.filled e) ∧ s.fills[i]? ≠ some (.logged e)))
      ⟨fun h => ⟨h.1, by rintro _ _ ⟨⟩; exact h.2⟩, fun h => ⟨h.1, h.2 i reached rfl⟩⟩
  | .tick env dewarFilled => decidable_of_iff (Unhurried s (.tick env dewarFilled))
      ⟨fun h => ⟨h, nofun⟩, And.left⟩
  | .main enabled => decidable_of_iff (Unhurried s (.main enabled)) ⟨fun h => ⟨h, nofun⟩, And.left⟩
  | .throw => decidable_of_iff (Unhurried s .throw) ⟨fun h => ⟨h, nofun⟩, And.left⟩
  | .fill i => decidable_of_iff (Unhurried s (.fill i)) ⟨fun h => ⟨h, nofun⟩, And.left⟩

/-- No fill fails while its end can be reported. -/
theorem not_failed_step (hs : .failed ∉ s.fills) (hl : Reliable s l) (h : s.step l = some s') :
    .failed ∉ s'.fills := by
  have hset : ∀ i pc, pc ≠ .failed → .failed ∉ s.fills.set i pc := by
    intro i pc hne hmem
    rcases List.mem_or_eq_of_mem_set hmem with hold | hnew
    · exact hs hold
    · exact hne hnew.symm
  cases steps_of_step h with
  | tick | tickFilled | throw => exact hs
  | main h =>
    obtain hsame | ⟨-, hlaunch⟩ := mainNext_fills h
    · rwa [hsame]
    · rw [hlaunch]
      simpa using hs
  | @fill i pc _ _ hi h =>
    cases pc with
    | started | opened =>
      obtain rfl := Option.some.inj h
      rw [setRelay_eq]
      exact hset i _ nofun
    | returned | failed => cases h
    | _ =>
      obtain rfl := Option.some.inj h
      exact hset i _ nofun
  | @fail i reached pc _ _ hi h =>
    -- a fill fails only where its end is logged, which the condition shuts out
    obtain ⟨-, hrel⟩ := hl.2 i reached rfl
    cases pc with
    | started | opened =>
      obtain ⟨-, h⟩ := Option.ite_none_left_eq_some.mp h
      obtain rfl := Option.some.inj h
      rw [setRelay_eq]
      cases reached <;> exact hset i _ nofun
    | filled e => exact absurd hi (hrel e).1
    | logged e => exact absurd hi (hrel e).2
    | _ => cases h

/-- A tick sends no relay command, and what it reports of a fill is its begin. -/
theorem mainNext_reports {enabled : Bool} (h : s.mainNext enabled = some s') :
    s'.dryrun = s.dryrun ∧ s'.relay = s.relay ∧
      (s'.fillactive = s.fillactive ∨ s'.fillactive = some true) ∧
      (lastFillEvent s'.events = lastFillEvent s.events ∨
        lastFillEvent s'.events = some .fillBegin) := by
  unfold Autofill.mainNext at h
  split at h
  -- the tank is looked at
  · split at h
    · split at h <;> obtain rfl := Option.some.inj h
      · exact ⟨rfl, rfl, .inl rfl, .inl (lastFillEvent_concat _ _)⟩
      · exact ⟨rfl, rfl, .inl rfl, .inl rfl⟩
    · obtain rfl := Option.some.inj h
      exact ⟨rfl, rfl, .inl rfl, .inl rfl⟩
  -- and the dewar
  · split at h <;> obtain rfl := Option.some.inj h
    · cases s.dewarEmpty
      · exact ⟨rfl, rfl, .inl rfl, .inl (lastFillEvent_concat _ _)⟩
      · exact ⟨rfl, rfl, .inl rfl, .inl rfl⟩
    · exact ⟨rfl, rfl, .inl rfl, .inl rfl⟩
  · obtain rfl := Option.some.inj h
    exact ⟨rfl, rfl, .inl rfl, .inl rfl⟩
  · split at h <;> obtain rfl := Option.some.inj h <;> exact ⟨rfl, rfl, .inl rfl, .inl rfl⟩
  -- the begin of a fill is logged, and then flagged
  · split at h <;> obtain rfl := Option.some.inj h
    · exact ⟨rfl, rfl, .inl rfl, .inr (lastFillEvent_concat _ _)⟩
    · exact ⟨rfl, rfl, .inl rfl, .inl rfl⟩
  · obtain rfl := Option.some.inj h
    exact ⟨rfl, rfl, .inr rfl, .inl rfl⟩
  all_goals
    repeat' split at h
    all_goals cases h <;> exact ⟨rfl, rfl, .inl rfl, .inl rfl⟩

/-- As long as no relay command has taken effect, no fill is past its command to open the valve,
and none is reported over. -/
structure Uncommanded (s : Autofill) : Prop where
  wet : s.dryrun = false
  opening : s.relay = none → ∀ pc ∈ s.fills, pc = .launched ∨ pc = .started
  flag : s.relay = none → s.fillactive ≠ some false
  event : s.relay = none → lastFillEvent s.events ≠ some .fillComplete

/-- Once the relay has been commanded, nothing is asked any more. -/
private theorem uncommanded_of_relay (hwet : s.dryrun = false) (h : s.relay ≠ none) :
    s.Uncommanded :=
  ⟨hwet, fun hnone => absurd hnone h, fun hnone => absurd hnone h, fun hnone => absurd hnone h⟩

/-- A command ends the time before the first one. -/
theorem Uncommanded.setRelay (hs : s.Uncommanded) (on : Bool) (i : ℕ) (pc : FillPc) :
    ((s.setRelay on).setFill i pc).Uncommanded := by
  rw [setRelay_eq]
  refine uncommanded_of_relay hs.wet ?_
  change (if s.dryrun = true then s.relay else some on) ≠ none
  rw [hs.wet]
  exact nofun

/-- A fill past its command to open the valve is one that had a relay command. -/
theorem Uncommanded.relay_ne_none (hs : s.Uncommanded) {i : ℕ} {pc : FillPc}
    (hi : s.fills[i]? = some pc) (hlaunched : pc ≠ .launched) (hstarted : pc ≠ .started) :
    s.relay ≠ none := fun hnone =>
  (hs.opening hnone pc (List.mem_of_getElem? hi)).elim hlaunched hstarted

/-- A step of `tick` keeps this up. -/
theorem Uncommanded.tickStep (hs : s.Uncommanded) (hdryrun : s'.dryrun = s.dryrun)
    (hrelay : s'.relay = s.relay) (hfills : ∀ pc ∈ s'.fills, pc ∈ s.fills ∨ pc = .launched)
    (hactive : s'.fillactive = s.fillactive ∨ s'.fillactive = some true)
    (hevents : lastFillEvent s'.events = lastFillEvent s.events ∨
      lastFillEvent s'.events = some .fillBegin) : s'.Uncommanded where
  wet := hdryrun.trans hs.wet
  opening hnone pc hpc := by
    rw [hrelay] at hnone
    obtain hold | rfl := hfills pc hpc
    · exact hs.opening hnone pc hold
    · exact .inl rfl
  flag hnone := by
    rw [hrelay] at hnone
    obtain h | h := hactive <;> rw [h]
    · exact hs.flag hnone
    · decide
  event hnone := by
    rw [hrelay] at hnone
    obtain h | h := hevents <;> rw [h]
    · exact hs.event hnone
    · decide

/-- **A reliable step keeps the relay accounted for.** -/
theorem Uncommanded.step (hs : s.Uncommanded) (hl : Reliable s l) (h : s.step l = some s') :
    s'.Uncommanded := by
  cases steps_of_step h with
  | tick | throw => exact hs.tickStep rfl rfl (fun _ => .inl) (.inl rfl) (.inl rfl)
  | tickFilled =>
    exact hs.tickStep rfl rfl (fun _ => .inl) (.inl rfl) (.inl (lastFillEvent_concat _ _))
  | main h =>
    obtain ⟨hdryrun, hrelay, hactive, hevents⟩ := mainNext_reports h
    refine hs.tickStep hdryrun hrelay (fun pc hpc => ?_) hactive hevents
    obtain hsame | ⟨-, hlaunch⟩ := mainNext_fills h
    · exact .inl (hsame ▸ hpc)
    · rw [hlaunch] at hpc
      exact (List.mem_append.mp hpc).imp_right List.mem_singleton.mp
  | @fill i pc _ _ hi h =>
    cases pc with
    | launched =>
      obtain rfl := Option.some.inj h
      refine ⟨hs.wet, fun hnone pc hpc => ?_, hs.flag, hs.event⟩
      obtain hold | rfl := List.mem_or_eq_of_mem_set hpc
      · exact hs.opening hnone pc hold
      · exact .inr rfl
    | started | opened =>
      obtain rfl := Option.some.inj h
      exact hs.setRelay _ i _
    | returned | failed => cases h
    | _ =>
      -- such a fill has switched the relay
      obtain rfl := Option.some.inj h
      exact uncommanded_of_relay hs.wet (hs.relay_ne_none hi nofun nofun)
  | @fail i reached pc _ _ hi h =>
    obtain ⟨hclosed, hrel⟩ := hl.2 i reached rfl
    cases pc with
    | started =>
      obtain ⟨-, h⟩ := Option.ite_none_left_eq_some.mp h
      obtain rfl := Option.some.inj h
      cases reached
      · refine uncommanded_of_relay hs.wet ?_
        change s.relay ≠ none
        rw [hclosed hi]
        exact nofun
      · exact hs.setRelay true i _
    | opened =>
      obtain ⟨-, h⟩ := Option.ite_none_left_eq_some.mp h
      obtain rfl := Option.some.inj h
      cases reached
      · exact uncommanded_of_relay hs.wet (hs.relay_ne_none hi nofun nofun)
      · exact hs.setRelay false i _
    | filled e => exact absurd hi (hrel e).1
    | logged e => exact absurd hi (hrel e).2
    | _ => cases h

/-- In the beginning the relay has not been commanded. -/
private theorem uncommanded_init : (autofillSystem false).init.Uncommanded where
  wet := rfl
  opening _ _ := nofun
  flag _ := nofun
  event _ := nofun

private theorem Apart.truthful (hs : s.Apart) (hcmd : s.Uncommanded) (hfailed : .failed ∉ s.fills) :
    s.Truthful where
  idle _ hended := by
    by_contra hprogress
    obtain ⟨pc, hpc, hin⟩ := hs.progress.mp (by simpa using hprogress)
    have hmem : pc ∈ s.fills := List.mem_of_getLast? hpc
    have hend := hended pc hmem
    cases pc with
    | failed => exact hfailed hmem
    | returned => cases hin
    | _ => cases hend
  flag hflag := by
    rcases hrelay : s.relay with _ | _ | _
    · exact absurd hflag (hcmd.flag hrelay)
    · rfl
    · -- the valve is open during a fill, and then the flag is set
      have := hs.flag _ (hs.relay hrelay) rfl
      rw [hflag] at this
      cases this
  event hevent := by
    rcases hrelay : s.relay with _ | _ | _
    · exact absurd hevent (hcmd.event hrelay)
    · rfl
    · have := hs.begun _ (hs.relay hrelay) rfl
      rw [hevent] at this
      cases this

end Autofill

open Autofill

/-- **A fill that is reported over has closed the valve**, in every run in which the fills do not
overlap, no failure leaves the relay energised or never commanded, and the end of a fill can be
reported. -/
theorem truthful_of_reliable {s : Autofill}
    (h : (autofillSystem false).ReachableWhile Reliable s) : s.Truthful := by
  have hapart := apart_of_unhurried (h.mono fun _ _ _ hl => hl.1)
  have hcmd : s.Uncommanded :=
    h.invariant uncommanded_init fun _ _ _ _ hs hl hstep => hs.step hl hstep
  exact hapart.truthful hcmd (h.invariant (P := fun s => .failed ∉ s.fills)
    (by simp [autofillSystem, new]) fun _ _ _ _ hs hl hstep => not_failed_step hs hl hstep)

/-- A tick that begins a fill, and the fill, which opens the valve; the command to close it fails
after it has reached the relay. -/
def reliableTrace : List AutofillLabel :=
  [.tick ⟨true, true⟩ false, .main true, .main true, .main true, .main true, .main true, .main true,
    .main true, .main true, .main true, .main true, .fill 0, .fill 0, .fail 0 true, .fill 0,
    .fill 0, .fill 0, .fill 0, .fill 0]

theorem truthful_of_reliable_reliableTrace : ∃ s,
    (autofillSystem false).run (autofillSystem false).init reliableTrace = some s ∧
      s.fills = [.returned true] ∧ s.fillactive = some false ∧ s.relay = some false ∧
        s.Truthful := by
  have hrun : ((autofillSystem false).run (autofillSystem false).init reliableTrace).map
      (fun s => (s.fills, s.fillactive, s.relay)) =
      some ([.returned true], some false, some false) := by decide
  obtain ⟨s, hs, hfacts⟩ := Option.map_eq_some_iff.mp hrun
  obtain ⟨hfills, hfacts⟩ := Prod.mk.inj hfacts
  obtain ⟨hactive, hrelay⟩ := Prod.mk.inj hfacts
  have hreach : (autofillSystem false).ReachableWhile Reliable s :=
    TransitionSystem.ReachableWhile.init.run (by decide) hs
  exact ⟨s, hs, hfills, hactive, hrelay, truthful_of_reliable hreach⟩

/-- **A fill is reported over with the valve open**: the command to close it fails and does not
reach the relay. -/
theorem reported_with_open_valve :
    ∃ s, (autofillSystem false).Reachable s ∧ ¬ s.Truthful := by
  have hrun : ((autofillSystem false).run (autofillSystem false).init
      [.tick ⟨true, true⟩ false, .main true, .main true, .main true, .main true, .main true,
        .main true, .main true, .fill 0, .fill 0, .fail 0 false, .fill 0, .fill 0]).map
        (fun s => (s.fillactive, s.relay)) = some (some false, some true) := by decide
  obtain ⟨s, hs, hfacts⟩ := Option.map_eq_some_iff.mp hrun
  obtain ⟨hactive, hrelay⟩ := Prod.mk.inj hfacts
  refine ⟨s, TransitionSystem.reachable_of_run hs, fun h => ?_⟩
  have := h.flag hactive
  rw [hrelay] at this
  cases this

end Foxtrot
