import Foxtrot.Autofill.FillLogic

/-!
# When fills do not overlap

`fill_in_progress` is set by the thread of a fill, not by the tick that launches it, and it is
cleared before `fill_just_done` is set. So a tick starts a fill while another one is under way if it
looks at `fill_in_progress` before the new thread has set it, or at `fill_just_done` after the
thread has cleared the former and before it has set the latter. While no tick does so (`Unhurried`),
the invariant `Autofill.Apart` holds: every fill but the newest has nothing left to do, and the
flags, the relay, the server flag and the log are as the newest fill has left them.

`Unhurried` also demands that no failure leaves the relay energised: a failing command to switch it
on has not reached it, and a failing command to switch it off has.

A step is one of `tick`, one of a fill thread, or a failure of the remote call that a thread is at.
Only the newest fill moves while `Apart` holds, apart from older ones that return, so each lemma is
about the newest fill and the tick. What a tick on its way to a new fill has seen already is
remembered in `Knows`: it is still true when the fill is launched, since no other tick runs and
what the newest fill has left to do does not change it.
-/

namespace Foxtrot

/-! ### The newest fill

What the program shares between the fills is compared with where the newest one stands: whether its
flag is set, whether the server has been told, and which of the two events it has logged last. -/

namespace FillPc

/-- `fill_in_progress` is set. -/
def inProgress : FillPc → Bool
  | .started | .opened | .filled _ | .logged _ | .unflagged _ | .failed => true
  | .launched | .cleared _ | .marked _ | .returned _ => false

/-- Nothing is left to do but to return. -/
def isOver : FillPc → Bool
  | .marked _ | .returned _ => true
  | _ => false

/-- `autofill/fillactive` is set. -/
def isFlagged : FillPc → Bool
  | .launched | .started | .opened | .filled _ | .logged _ => true
  | _ => false

/-- `fill_complete` is not logged. -/
def isOpenEnded : FillPc → Bool
  | .launched | .started | .opened | .filled _ => true
  | _ => false

end FillPc

/-- The last event that is the begin or the end of a fill. -/
def lastFillEvent (events : List EventTypes) : Option EventTypes :=
  (events.filter fun e => e = .fillBegin ∨ e = .fillComplete).getLast?

/-- The next event, if it is one of a fill, or else the last one before. -/
theorem lastFillEvent_concat (events : List EventTypes) (e : EventTypes) :
    lastFillEvent (events ++ [e]) =
      if e = .fillBegin ∨ e = .fillComplete then some e else lastFillEvent events := by
  rw [lastFillEvent, lastFillEvent, List.filter_append]
  split
  · next h => simp [h]
  · next h => simp [h]

namespace Autofill

variable {s s' : Autofill} {i : ℕ} {pc : FillPc}

/-- The fill launched last. -/
def newest (s : Autofill) : Option FillPc := s.fills.getLast?

/-- The newest fill is the last one. -/
theorem newest_eq : s.newest = s.fills[s.fills.length - 1]? := List.getLast?_eq_getElem?

/-- The last place is that of the newest fill. -/
theorem newest_of_getElem? (hi : s.fills[i]? = some pc) (hlast : i + 1 = s.fills.length) :
    s.newest = some pc := by
  rw [newest_eq, ← hlast]
  exact hi

/-- A step of the newest fill changes it. -/
theorem newest_setFill_of_eq (hlast : i + 1 = s.fills.length) :
    (s.setFill i pc).newest = some pc := by
  rw [newest_eq]
  change (s.fills.set i pc)[(s.fills.set i pc).length - 1]? = _
  rw [List.length_set, ← hlast, Nat.add_sub_cancel, List.getElem?_set_self (by omega)]

/-- A step of an older fill leaves the newest one. -/
private theorem newest_setFill_of_lt (hlt : i + 1 < s.fills.length) :
    (s.setFill i pc).newest = s.newest := by
  rw [newest_eq, newest_eq]
  change (s.fills.set i pc)[(s.fills.set i pc).length - 1]? = _
  rw [List.length_set, List.getElem?_set_ne (by omega)]

/-! ### The condition

Stated on the step that is about to be taken and the state before it, so that it can be checked
along a run without looking ahead. -/

/-- No tick that would start a fill looks at `fill_in_progress` while the newest thread has not set
it, or decides while the newest thread has cleared it and not set `fill_just_done`; and no failure
leaves the relay energised. -/
def Unhurried (s : Autofill) : AutofillLabel → Prop
  | .main _ =>
    match s.tick with
    | .notDone pumpdown =>
      pumpdown = true → s.dewarEmpty = false → s.newest ≠ some .launched
    | .deciding pumpdown fillNeeded =>
      fillNeeded = true → pumpdown = true → s.dewarEmpty = false →
        s.newest ≠ some (.cleared false) ∧ s.newest ≠ some (.cleared true)
    | _ => True
  | .fail i reached =>
    (s.fills[i]? = some .started → reached = false) ∧ (s.fills[i]? = some .opened → reached = true)
  | .tick _ _ | .throw | .fill _ => True

instance Unhurried.decidable (s : Autofill) : ∀ l, Decidable (Unhurried s l)
  | .main _ =>
    match h : s.tick with
    | .notDone pumpdown => decidable_of_iff
        (pumpdown = true → s.dewarEmpty = false → s.newest ≠ some .launched)
        (by simp [Unhurried, h])
    | .deciding pumpdown fillNeeded => decidable_of_iff
        (fillNeeded = true → pumpdown = true → s.dewarEmpty = false →
          s.newest ≠ some (.cleared false) ∧ s.newest ≠ some (.cleared true))
        (by simp [Unhurried, h])
    | .idle | .checked _ | .seenEmpty _ | .starting | .flagging | .launching | .assigning _
    | .resetting | .collecting | .dead _ => decidable_of_iff True (by simp [Unhurried, h])
  | .fail i reached => inferInstanceAs (Decidable ((s.fills[i]? = some .started → reached = false) ∧
      (s.fills[i]? = some .opened → reached = true)))
  | .tick _ _ | .throw | .fill _ => inferInstanceAs (Decidable True)

/-! ### The invariant -/

/-- What a tick on its way to a fill knows about the newest fill. -/
def Knows (s : Autofill) : TickPc → Prop
  | .deciding pumpdown fillNeeded =>
    fillNeeded = true → pumpdown = true → s.dewarEmpty = false →
      ∀ pc, s.newest = some pc → (∃ e, pc = .cleared e) ∨ pc.isOver = true
  | .starting => ∀ pc, s.newest = some pc → pc.isOver = true
  | .flagging => (∀ pc, s.newest = some pc → pc.isOver = true) ∧
      lastFillEvent s.events = some .fillBegin
  | .launching => (∀ pc, s.newest = some pc → pc.isOver = true) ∧
      lastFillEvent s.events = some .fillBegin ∧ s.fillactive = some true
  | _ => True

/-- The invariant: all but the newest fill are over, and what the fills share is as the newest has
left it. -/
structure Apart (s : Autofill) : Prop where
  earlier : ∀ i pc, s.fills[i]? = some pc → i + 1 < s.fills.length → pc.isOver = true
  progress : s.fillInProgress = true ↔ ∃ pc, s.newest = some pc ∧ pc.inProgress = true
  relay : s.relay = some true → s.newest = some .opened
  dry : s.dryrun = true → s.relay = none
  flag : ∀ pc, s.newest = some pc → pc.isFlagged = true → s.fillactive = some true
  begun : ∀ pc, s.newest = some pc → pc.isOpenEnded = true →
    lastFillEvent s.events = some .fillBegin
  knows : s.Knows s.tick

private theorem over_set (hs : s.Apart) (hpc : i + 1 < s.fills.length → pc.isOver = true) :
    ∀ j pc', (s.fills.set i pc)[j]? = some pc' → j + 1 < (s.fills.set i pc).length →
      pc'.isOver = true := by
  intro j pc' hj hlt
  rw [List.length_set] at hlt
  by_cases hij : i = j
  · subst hij
    rw [List.getElem?_set_self (by omega)] at hj
    obtain rfl := Option.some.inj hj
    exact hpc hlt
  · rw [List.getElem?_set_ne hij] at hj
    exact hs.earlier j pc' hj hlt

/-- A fill that is not the newest returns. -/
theorem Apart.setFill_older (hs : s.Apart) (hlt : i + 1 < s.fills.length)
    (hpc : pc.isOver = true) : (s.setFill i pc).Apart := by
  have hnewest : (s.setFill i pc).newest = s.newest := newest_setFill_of_lt hlt
  refine ⟨over_set hs fun _ => hpc, ?_, ?_, hs.dry, ?_, ?_, ?_⟩
  · rw [hnewest]
    exact hs.progress
  · rw [hnewest]
    exact hs.relay
  · rw [hnewest]
    exact hs.flag
  · rw [hnewest]
    exact hs.begun
  · have hknows := hs.knows
    revert hknows
    change s.Knows s.tick → (s.setFill i pc).Knows s.tick
    cases s.tick with
    | deciding | starting | flagging | launching =>
      simp only [Knows]
      rw [hnewest]
      exact id
    | _ => exact id

/-- The newest fill goes on. -/
theorem Apart.setFill_newest {pc' : FillPc} (hs : s.Apart) (hlast : i + 1 = s.fills.length)
    (hpc : s.newest = some pc) (hfills : s'.fills = s.fills.set i pc') (htick : s'.tick = s.tick)
    (hdewar : s'.dewarEmpty = s.dewarEmpty) (hprogress : s'.fillInProgress = pc'.inProgress)
    (hrelay : s'.relay = some true → pc' = .opened) (hdry : s'.dryrun = true → s'.relay = none)
    (hflag : pc'.isFlagged = true → s'.fillactive = some true)
    (hbegun : pc'.isOpenEnded = true → lastFillEvent s'.events = some .fillBegin)
    (hover : pc.isOver = true →
      pc'.isOver = true ∧ s'.events = s.events ∧ s'.fillactive = s.fillactive)
    (hcleared : ∀ e, pc = .cleared e → pc'.isOver = true) : s'.Apart := by
  have hnewest : s'.newest = some pc' := by
    rw [newest, hfills]
    exact newest_setFill_of_eq hlast
  refine ⟨?_, ?_, fun h => ?_, hdry, fun pc₁ h₁ hf => ?_, fun pc₁ h₁ hf => ?_, ?_⟩
  · rw [hfills]
    exact over_set hs fun hlt => by omega
  · rw [hnewest, hprogress]
    simp
  · rw [hnewest, hrelay h]
  · rw [hnewest] at h₁
    obtain rfl := Option.some.inj h₁
    exact hflag hf
  · rw [hnewest] at h₁
    obtain rfl := Option.some.inj h₁
    exact hbegun hf
  · have hknows := hs.knows
    rw [htick]
    revert hknows
    -- what a tick knows of the fills that are over, it goes on knowing
    cases s.tick with
    | deciding pumpdown fillNeeded =>
      intro hknows hneeded hpump hdew pc₁ h₁
      rw [hnewest] at h₁
      obtain rfl := Option.some.inj h₁
      rw [hdewar] at hdew
      obtain ⟨e, he⟩ | hov := hknows hneeded hpump hdew pc hpc
      · exact .inr (hcleared e he)
      · exact .inr (hover hov).1
    | starting =>
      intro hknows pc₁ h₁
      rw [hnewest] at h₁
      obtain rfl := Option.some.inj h₁
      exact (hover (hknows pc hpc)).1
    | flagging =>
      rintro ⟨hknows, hevent⟩
      obtain ⟨hov, hevents, -⟩ := hover (hknows pc hpc)
      refine ⟨fun pc₁ h₁ => ?_, by rw [hevents, hevent]⟩
      rw [hnewest] at h₁
      obtain rfl := Option.some.inj h₁
      exact hov
    | launching =>
      rintro ⟨hknows, hevent, hactive⟩
      obtain ⟨hov, hevents, hact⟩ := hover (hknows pc hpc)
      refine ⟨fun pc₁ h₁ => ?_, by rw [hevents, hevent], by rw [hact, hactive]⟩
      rw [hnewest] at h₁
      obtain rfl := Option.some.inj h₁
      exact hov
    | _ => exact fun _ => trivial

/-- `SetRelay` changes the relay at most. -/
theorem setRelay_eq (s : Autofill) (on : Bool) :
    s.setRelay on = { s with relay := if s.dryrun then s.relay else some on } := by
  rw [setRelay]
  split <;> rfl

/-- An older fill can only return, and whatever is not so is a step of the newest. -/
theorem Apart.older_cases (hs : s.Apart) (hi : s.fills[i]? = some pc) :
    (i + 1 < s.fills.length ∧ pc.isOver = true) ∨ (i + 1 = s.fills.length ∧ s.newest = some pc ∧
      (pc ≠ .opened → s.relay ≠ some true) ∧ s.fillInProgress = pc.inProgress ∧
      (pc.isFlagged = true → s.fillactive = some true) ∧
      (pc.isOpenEnded = true → lastFillEvent s.events = some .fillBegin)) := by
  obtain ⟨hlen, -⟩ := List.getElem?_eq_some_iff.mp hi
  obtain hlt | hlast := Nat.lt_or_eq_of_le (Nat.succ_le_of_lt hlen)
  · exact .inl ⟨hlt, hs.earlier i pc hi hlt⟩
  · have hnewest := newest_of_getElem? hi hlast
    refine .inr ⟨hlast, hnewest, fun hne hon => ?_, ?_, hs.flag pc hnewest, hs.begun pc hnewest⟩
    · exact hne (Option.some.inj (hnewest.symm.trans (hs.relay hon)))
    · rw [Bool.eq_iff_iff, hs.progress, hnewest]
      simp

/-- A step of a fill keeps the fills apart. -/
theorem Apart.fillNext (hs : s.Apart) (hi : s.fills[i]? = some pc)
    (h : s.fillNext i pc = some s') : s'.Apart := by
  obtain ⟨hlt, hover⟩ | ⟨hlast, hnewest, hoff, hprogress, hflag, hbegun⟩ := hs.older_cases hi
  · cases pc with
    | marked e =>
      obtain rfl := Option.some.inj h
      exact hs.setFill_older hlt rfl
    | returned => cases h
    | _ => cases hover
  cases pc with
  | launched =>
    obtain rfl := Option.some.inj h
    exact hs.setFill_newest hlast hnewest rfl rfl rfl rfl (fun hon => absurd hon (hoff nofun))
      hs.dry (fun _ => hflag rfl) (fun _ => hbegun rfl) nofun nofun
  | started =>
    obtain rfl := Option.some.inj h
    rw [setRelay_eq]
    exact hs.setFill_newest hlast hnewest rfl rfl rfl hprogress (fun _ => rfl)
      (fun hdry => (if_pos hdry).trans (hs.dry hdry)) (fun _ => hflag rfl) (fun _ => hbegun rfl)
      nofun nofun
  | opened =>
    obtain rfl := Option.some.inj h
    rw [setRelay_eq]
    refine hs.setFill_newest hlast hnewest rfl rfl rfl hprogress (fun hon => ?_)
      (fun hdry => (if_pos hdry).trans (hs.dry hdry)) (fun _ => hflag rfl) (fun _ => hbegun rfl)
      nofun nofun
    -- the relay has been switched off, or was never switched on
    change (if s.dryrun = true then s.relay else some false) = some true at hon
    split at hon
    · rw [hs.dry ‹_›] at hon
      cases hon
    · cases hon
  | filled e =>
    obtain rfl := Option.some.inj h
    exact hs.setFill_newest hlast hnewest rfl rfl rfl hprogress
      (fun hon => absurd hon (hoff nofun)) hs.dry (fun _ => hflag rfl) nofun nofun nofun
  | logged e =>
    obtain rfl := Option.some.inj h
    exact hs.setFill_newest hlast hnewest rfl rfl rfl hprogress
      (fun hon => absurd hon (hoff nofun)) hs.dry nofun nofun nofun nofun
  | unflagged e =>
    obtain rfl := Option.some.inj h
    exact hs.setFill_newest hlast hnewest rfl rfl rfl rfl
      (fun hon => absurd hon (hoff nofun)) hs.dry nofun nofun nofun nofun
  | cleared e =>
    obtain rfl := Option.some.inj h
    exact hs.setFill_newest hlast hnewest rfl rfl rfl hprogress
      (fun hon => absurd hon (hoff nofun)) hs.dry nofun nofun nofun (fun _ _ => rfl)
  | marked e =>
    obtain rfl := Option.some.inj h
    exact hs.setFill_newest hlast hnewest rfl rfl rfl hprogress
      (fun hon => absurd hon (hoff nofun)) hs.dry nofun nofun (fun _ => ⟨rfl, rfl, rfl⟩) nofun
  | returned | failed => cases h

/-- So does a fill that fails, if it is not hurried. -/
theorem Apart.fillFail (hs : s.Apart) {reached : Bool} (hi : s.fills[i]? = some pc)
    (hl : Unhurried s (.fail i reached)) (h : s.fillFail i reached pc = some s') : s'.Apart := by
  obtain ⟨-, hover⟩ | ⟨hlast, hnewest, hoff, hprogress, hflag, hbegun⟩ := hs.older_cases hi
  · cases pc with
    | marked | returned => cases h
    | _ => cases hover
  cases pc with
  | started =>
    obtain ⟨hdry, h⟩ := Option.ite_none_left_eq_some.mp h
    obtain rfl := Option.some.inj h
    -- the relay has not got the command
    rw [hl.1 hi]
    exact hs.setFill_newest hlast hnewest rfl rfl rfl hprogress
      (fun hon => absurd hon (hoff nofun)) hs.dry (fun _ => hflag rfl) (fun _ => hbegun rfl)
      nofun nofun
  | opened =>
    obtain ⟨hdry, h⟩ := Option.ite_none_left_eq_some.mp h
    obtain rfl := Option.some.inj h
    -- the relay has got the command, although the call fails
    rw [hl.2 hi, if_pos rfl, setRelay_eq, if_neg hdry]
    exact hs.setFill_newest hlast hnewest rfl rfl rfl hprogress nofun (fun h => absurd h hdry)
      (fun _ => hflag rfl) (fun _ => hbegun rfl) nofun nofun
  | filled e =>
    obtain rfl := Option.some.inj h
    cases reached
    all_goals
      exact hs.setFill_newest hlast hnewest rfl rfl rfl hprogress
        (fun hon => absurd hon (hoff nofun)) hs.dry nofun nofun nofun nofun
  | logged e =>
    obtain rfl := Option.some.inj h
    cases reached
    all_goals
      exact hs.setFill_newest hlast hnewest rfl rfl rfl hprogress
        (fun hon => absurd hon (hoff nofun)) hs.dry nofun nofun nofun nofun
  | launched | unflagged | cleared | marked | returned | failed => cases h

/-- A step of `tick` that launches no fill. -/
theorem Apart.tickStep (hs : s.Apart) (hfills : s'.fills = s.fills)
    (hprogress : s'.fillInProgress = s.fillInProgress) (hrelay : s'.relay = s.relay)
    (hdryrun : s'.dryrun = s.dryrun)
    (hactive : s'.fillactive = s.fillactive ∨ s'.fillactive = some true)
    (hevents : lastFillEvent s'.events = lastFillEvent s.events ∨
      lastFillEvent s'.events = some .fillBegin)
    (hknows : s'.Knows s'.tick) : s'.Apart := by
  have hnewest : s'.newest = s.newest := congrArg List.getLast? hfills
  refine ⟨?_, ?_, ?_, ?_, fun pc hpc hf => ?_, fun pc hpc hf => ?_, hknows⟩
  · rw [hfills]
    exact hs.earlier
  · rw [hprogress, hnewest]
    exact hs.progress
  · rw [hrelay, hnewest]
    exact hs.relay
  · rw [hrelay, hdryrun]
    exact hs.dry
  · rw [hnewest] at hpc
    exact hactive.elim (fun h => h.trans (hs.flag pc hpc hf)) id
  · rw [hnewest] at hpc
    exact hevents.elim (fun h => h.trans (hs.begun pc hpc hf)) id

/-- A fill that is not in progress, and not just launched, has cleared the flag. -/
theorem eq_cleared_or_isOver (hpc : pc.inProgress = false) (hne : pc ≠ .launched) :
    (∃ e, pc = .cleared e) ∨ pc.isOver = true := by
  cases pc with
  | launched => exact absurd rfl hne
  | cleared e => exact .inl ⟨e, rfl⟩
  | marked | returned => exact .inr rfl
  | _ => cases hpc

/-- A fill is launched while the newest one is over. -/
theorem Apart.launch (hs : s.Apart) (htick : s.tick = .launching) :
    ({ s with fills := s.fills ++ [.launched], tick := .assigning s.fills.length } :
      Autofill).Apart := by
  obtain ⟨hover, hevent, hactive⟩ : s.Knows .launching := htick ▸ hs.knows
  have hnewest : ({ s with fills := s.fills ++ [.launched], tick := .assigning s.fills.length } :
      Autofill).newest = some .launched := List.getLast?_concat
  refine ⟨fun i pc hi hlt => ?_, ?_, fun hon => ?_, hs.dry, fun _ _ _ => hactive,
    fun _ _ _ => hevent, trivial⟩
  · rw [List.length_append, List.length_singleton] at hlt
    change (s.fills ++ [.launched])[i]? = some pc at hi
    rw [List.getElem?_append_left (by omega)] at hi
    obtain hlt' | hlast := Nat.lt_or_eq_of_le (show i + 1 ≤ s.fills.length by omega)
    · exact hs.earlier i pc hi hlt'
    · exact hover pc (newest_of_getElem? hi hlast)
  · rw [hnewest]
    refine ⟨fun h => ?_, fun ⟨pc, hpc, hprogress⟩ => ?_⟩
    · -- the one before is not in progress
      obtain ⟨pc, hpc, hprogress⟩ := hs.progress.mp h
      have := hover pc hpc
      cases pc with
      | marked | returned => cases hprogress
      | _ => cases this
    · obtain rfl := Option.some.inj hpc
      cases hprogress
  · have := hover _ (hs.relay hon)
    cases this

/-- So does a step of the main thread. -/
theorem Apart.mainNext (hs : s.Apart) {enabled : Bool} (hl : Unhurried s (.main enabled))
    (h : s.mainNext enabled = some s') : s'.Apart := by
  have hknows := hs.knows
  unfold Autofill.mainNext at h
  split at h
  · split at h
    · split at h
      · obtain rfl := Option.some.inj h
        refine hs.tickStep rfl rfl rfl rfl (.inl rfl) (.inl ?_) trivial
        exact lastFillEvent_concat _ _
      · obtain rfl := Option.some.inj h
        exact hs.tickStep rfl rfl rfl rfl (.inl rfl) (.inl rfl) trivial
    · obtain rfl := Option.some.inj h
      exact hs.tickStep rfl rfl rfl rfl (.inl rfl) (.inl rfl) nofun
  · split at h
    · obtain rfl := Option.some.inj h
      cases s.dewarEmpty
      · refine hs.tickStep rfl rfl rfl rfl (.inl rfl) (.inl ?_) nofun
        exact lastFillEvent_concat _ _
      · exact hs.tickStep rfl rfl rfl rfl (.inl rfl) (.inl rfl) nofun
    · obtain rfl := Option.some.inj h
      exact hs.tickStep rfl rfl rfl rfl (.inl rfl) (.inl rfl) trivial
  · next pumpdown htick =>
    obtain rfl := Option.some.inj h
    refine hs.tickStep rfl rfl rfl rfl (.inl rfl) (.inl rfl) fun hneeded hpump hdewar pc hpc => ?_
    -- no fill is in progress, or none would be needed
    have hnot : pc.inProgress = false := by
      rw [← Bool.not_eq_true]
      intro hprogress
      have := hs.progress.mpr ⟨pc, hpc, hprogress⟩
      simp [this] at hneeded
    simp only [Unhurried, htick] at hl
    -- a fill just launched has not set `fill_in_progress` yet, and is not looked at then
    refine eq_cleared_or_isOver hnot ?_
    rintro rfl
    exact hl hpump hdewar hpc
  · next pumpdown fillNeeded htick =>
    split at h
    · next hfill =>
      obtain rfl := Option.some.inj h
      simp only [Bool.and_eq_true, Bool.not_eq_true'] at hfill
      obtain ⟨⟨⟨hneeded, hpump⟩, -⟩, hdewar⟩ := hfill
      simp only [Unhurried, htick] at hl
      obtain ⟨hfalse, htrue⟩ := hl hneeded hpump hdewar
      rw [htick] at hknows
      refine hs.tickStep rfl rfl rfl rfl (.inl rfl) (.inl rfl) fun pc hpc => ?_
      -- the last fill is not between `fill_in_progress` and `fill_just_done`
      refine (hknows hneeded hpump hdewar pc hpc).resolve_left ?_
      rintro ⟨_ | _, rfl⟩
      · exact hfalse hpc
      · exact htrue hpc
    · obtain rfl := Option.some.inj h
      exact hs.tickStep rfl rfl rfl rfl (.inl rfl) (.inl rfl) trivial
  · next htick =>
    rw [htick] at hknows
    split at h
    · obtain rfl := Option.some.inj h
      -- the begin of the new fill is now the last event of any fill
      have hevent : lastFillEvent (s.events ++ [.fillBegin]) = some .fillBegin :=
        lastFillEvent_concat _ _
      exact hs.tickStep rfl rfl rfl rfl (.inl rfl) (.inr hevent) ⟨hknows, hevent⟩
    · obtain rfl := Option.some.inj h
      exact hs.tickStep rfl rfl rfl rfl (.inl rfl) (.inl rfl) trivial
  · next htick =>
    rw [htick] at hknows
    obtain rfl := Option.some.inj h
    exact hs.tickStep rfl rfl rfl rfl (.inr rfl) (.inl rfl) ⟨hknows.1, hknows.2, rfl⟩
  · next htick =>
    obtain rfl := Option.some.inj h
    exact hs.launch htick
  · split at h
    · obtain rfl := Option.some.inj h
      exact hs.tickStep rfl rfl rfl rfl (.inl rfl) (.inl rfl) trivial
    · obtain rfl := Option.some.inj h
      exact hs.tickStep rfl rfl rfl rfl (.inl rfl) (.inl rfl) trivial
    · obtain rfl := Option.some.inj h
      exact hs.tickStep rfl rfl rfl rfl (.inl rfl) (.inl rfl) trivial
    · cases h
  · obtain rfl := Option.some.inj h
    exact hs.tickStep rfl rfl rfl rfl (.inl rfl) (.inl rfl) trivial
  · split at h
    all_goals
      obtain rfl := Option.some.inj h
      exact hs.tickStep rfl rfl rfl rfl (.inl rfl) (.inl rfl) trivial
  · cases h
  · cases h

/-- **A step that is not hurried** keeps the fills apart. -/
theorem Apart.step (hs : s.Apart) {l : AutofillLabel} (hl : Unhurried s l)
    (h : s.step l = some s') : s'.Apart := by
  cases steps_of_step h with
  | tick | throw => exact hs.tickStep rfl rfl rfl rfl (.inl rfl) (.inl rfl) trivial
  | tickFilled =>
    exact hs.tickStep rfl rfl rfl rfl (.inl rfl) (.inl (lastFillEvent_concat _ _)) trivial
  | main h => exact hs.mainNext hl h
  | fill _ hi h => exact hs.fillNext hi h
  | fail _ hi h => exact hs.fillFail hi hl h

/-- In the beginning there is no fill. -/
theorem apart_init (dryrun : Bool) : (autofillSystem dryrun).init.Apart where
  earlier := nofun
  progress := ⟨nofun, nofun⟩
  relay := nofun
  dry _ := rfl
  flag := nofun
  begun := nofun
  knows := trivial

end Autofill

/-- While no tick hurries, the fills do not overlap. -/
theorem apart_of_unhurried {dryrun : Bool} {s : Autofill}
    (h : (autofillSystem dryrun).ReachableWhile Autofill.Unhurried s) : s.Apart :=
  h.invariant (Autofill.apart_init dryrun) fun _ _ _ _ hs hl hstep => hs.step hl hstep

end Foxtrot
