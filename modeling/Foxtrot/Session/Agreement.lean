import Foxtrot.Session.Sequential

/-!
# Ownership caches and session lists

Ownership is stored twice: each session lists its devices and flags, and two caches lead from an
item to the owning session. After any run of calls in which no start is made while the ids
`65535` and `0` are both live, the flag cache and the lists agree on every flag
(`SessionManager.FlagAgrees`).

The device cache is keyed by 16-bit numbers and device ids have 32 bits, so a query about device
`d` finds the session that lists *some* device with the low half of `d`. The cache and the lists
agree on `d` exactly when every session that lists such a device lists `d` itself
(`caches_agree`); with one session that asked for device `65537`, they disagree on device `1`
(`caches_disagree`).
-/

namespace Foxtrot

open SessionManager

namespace SessionManager

variable {sm : SessionManager}

/-- The session is live. -/
def IsLive (sm : SessionManager) (ses : FtSessionInfo) : Prop :=
  ∃ id, sm.sessionmap.lookup id = some ses

/-- The cache and the lists agree on a device: its owner is the session that lists it, and the
owner may use it. -/
structure DeviceAgrees (sm : SessionManager) (d : UInt32) : Prop where
  owner_iff : ∀ ses, sm.whoOwnsDevice d = .ok (some ses) ↔ sm.IsLive ses ∧ d ∈ ses.devices
  usable : ∀ ses σ, sm.whoOwnsDevice d = .ok (some ses) → sm.getSessionInfo σ = .ok ses →
    sm.sessionAuthCheckDevice σ d = .ok true

/-- The cache and the lists agree on a flag. -/
structure FlagAgrees (sm : SessionManager) (f : String) : Prop where
  owner_iff : ∀ ses, sm.whoOwnsFlag f = .ok (some ses) ↔ sm.IsLive ses ∧ f ∈ ses.flags
  usable : ∀ ses σ, sm.whoOwnsFlag f = .ok (some ses) → sm.getSessionInfo σ = .ok ses →
    sm.sessionAuthCheckFlag σ f = .ok true

/-- No live session lists a device with the low half of `d` without listing `d`. -/
def NoAlias (sm : SessionManager) (d : UInt32) : Prop :=
  ∀ ses, sm.IsLive ses → (∃ d' ∈ ses.devices, d'.toUInt16 = d.toUInt16) → d ∈ ses.devices

/-- The secret of a session may use what the session lists. -/
theorem authCheck_of_getSessionInfo {α : Type} [DecidableEq α] {σ : Sessionid}
    {ses : FtSessionInfo} {get : FtSessionInfo → List α} {val : α}
    (hσ : sm.getSessionInfo σ = .ok ses) (hval : val ∈ get ses) :
    sm.authCheck σ get val = .ok true := by
  obtain ⟨id, hid, hs⟩ := getSessionInfo_eq_ok_iff.mp hσ
  exact authCheck_eq_true_iff.mpr ⟨id, ses, hid, hs, hval⟩

/-- The owner the cache finds for `d` is the live session that lists a device with the low half
of `d`. -/
theorem CoveredExactly.whoOwnsDevice_iff (hcov : sm.CoveredExactly) {d : UInt32}
    {ses : FtSessionInfo} : sm.whoOwnsDevice d = .ok (some ses) ↔
      sm.IsLive ses ∧ ∃ d' ∈ ses.devices, d'.toUInt16 = d.toUInt16 := by
  rw [whoOwnsDevice_eq_some_iff]
  constructor
  · rintro ⟨id, hledger, hs⟩
    obtain ⟨d', ⟨ses', hs', hmem⟩, hkey⟩ := (hcov.device _ id).mp hledger
    obtain rfl : ses = ses' := Option.some_injective _ (hs.symm.trans hs')
    exact ⟨⟨id, hs⟩, d', hmem, hkey⟩
  · rintro ⟨⟨id, hs⟩, d', hmem, hkey⟩
    exact ⟨id, (hcov.device _ id).mpr ⟨d', ⟨ses, hs, hmem⟩, hkey⟩, hs⟩

theorem CoveredExactly.whoOwnsFlag_iff (hcov : sm.CoveredExactly) {f : String}
    {ses : FtSessionInfo} : sm.whoOwnsFlag f = .ok (some ses) ↔ sm.IsLive ses ∧ f ∈ ses.flags := by
  rw [whoOwnsFlag_eq_some_iff]
  constructor
  · rintro ⟨id, hledger, hs⟩
    obtain ⟨f', ⟨ses', hs', hmem⟩, rfl⟩ := (hcov.flag _ id).mp hledger
    obtain rfl : ses = ses' := Option.some_injective _ (hs.symm.trans hs')
    exact ⟨⟨id, hs⟩, hmem⟩
  · rintro ⟨⟨id, hs⟩, hmem⟩
    exact ⟨id, (hcov.flag _ id).mpr ⟨f, ⟨ses, hs, hmem⟩, rfl⟩, hs⟩

private theorem CoveredExactly.flagAgrees (hcov : sm.CoveredExactly) (f : String) :
    sm.FlagAgrees f where
  owner_iff _ := hcov.whoOwnsFlag_iff
  usable _ _ howner hσ := authCheck_of_getSessionInfo hσ (hcov.whoOwnsFlag_iff.mp howner).2

/-- The cache and the lists agree on `d` exactly when no session aliases it. -/
theorem CoveredExactly.deviceAgrees_iff (hcov : sm.CoveredExactly) (d : UInt32) :
    sm.DeviceAgrees d ↔ sm.NoAlias d := by
  constructor
  · intro hagrees ses hlive halias
    exact ((hagrees.owner_iff ses).mp (hcov.whoOwnsDevice_iff.mpr ⟨hlive, halias⟩)).2
  · intro hno
    have howner : ∀ ses, sm.whoOwnsDevice d = .ok (some ses) ↔ sm.IsLive ses ∧ d ∈ ses.devices := by
      intro ses
      rw [hcov.whoOwnsDevice_iff]
      exact and_congr_right fun hlive => ⟨hno ses hlive, fun hmem => ⟨d, hmem, rfl⟩⟩
    exact ⟨howner, fun ses σ h hσ => authCheck_of_getSessionInfo hσ ((howner ses).mp h).2⟩

end SessionManager

variable {ord : SecretOrder} {len : Int} {s : SessionHistory}

private theorem coveredExactly_of_idAvailable
    (h : (historySystem ord len).ReachableWhile (fun s c => s.mgr.IdAvailable c) s) :
    s.mgr.CoveredExactly := by
  refine h.invariant (P := fun s => s.mgr.CoveredExactly) (coveredExactly_new len) ?_
  intro s c s' _ hcov hid hstep
  rcases historyStep_cases hstep with rfl | ⟨hperf, -⟩
  · exact hcov
  · exact hcov.perform hid hperf

/-- **Caches and lists agree** on every flag, and on every device that no session aliases, in
every run whose starts are not made while the ids `65535` and `0` are both live. -/
theorem caches_agree
    (h : (historySystem ord len).ReachableWhile (fun s c => s.mgr.IdAvailable c) s) :
    (∀ d, s.mgr.DeviceAgrees d ↔ s.mgr.NoAlias d) ∧ ∀ f, s.mgr.FlagAgrees f := by
  have hcov := coveredExactly_of_idAvailable h
  exact ⟨hcov.deviceAgrees_iff, hcov.flagAgrees⟩

theorem caches_agree_overlapTrace :
    ∃ s, (historySystem .entries 100).run ⟨.new 100, []⟩ overlapTrace = some s ∧
      s.mgr.whoOwnsDevice 1 = .ok none ∧ s.mgr.whoOwnsFlag "flag" ≠ .ok none ∧
      (∀ d, s.mgr.DeviceAgrees d ↔ s.mgr.NoAlias d) ∧ ∀ f, s.mgr.FlagAgrees f := by
  have hrun : ((historySystem .entries 100).run ⟨.new 100, []⟩ overlapTrace).map (fun s =>
      (s.mgr.whoOwnsDevice 1, decide (s.mgr.whoOwnsFlag "flag" ≠ .ok none))) =
        some (.ok none, true) := by decide
  obtain ⟨s, hs, hfacts⟩ := Option.map_eq_some_iff.mp hrun
  obtain ⟨hdev, hflag⟩ := Prod.mk.inj hfacts
  have hreach : (historySystem .entries 100).ReachableWhile (fun s c => s.mgr.IdAvailable c) s :=
    TransitionSystem.ReachableWhile.init.run (by decide) hs
  exact ⟨s, hs, hdev, of_decide_eq_true hflag, caches_agree hreach⟩

/-- **A device that nobody asked for has an owner**, who may not use it: one session asked for
device `65537`, and the cache finds it under device `1`. -/
theorem caches_disagree : ∃ s, (historySystem .entries 100).ReachableWhile SessionHistory.Sound s ∧
    ¬ s.mgr.DeviceAgrees 1 := by
  have hrun : ((historySystem .entries 100).run ⟨.new 100, []⟩
      [.start ⟨"user", "", some [65537], none, none⟩ 0 0 (Vector.replicate 32 0)]).map (fun s =>
        (s.mgr.whoOwnsDevice 1).toOption.join.map FtSessionInfo.devices) =
          some (some [65537]) := by decide
  obtain ⟨s, hs, howner⟩ := Option.map_eq_some_iff.mp hrun
  refine ⟨s, TransitionSystem.ReachableWhile.init.run (by decide) hs, fun hagrees => ?_⟩
  obtain ⟨ses, hses, hdevices⟩ := Option.map_eq_some_iff.mp howner
  have hok : s.mgr.whoOwnsDevice 1 = .ok (some ses) := by
    rcases hwho : s.mgr.whoOwnsDevice 1 with e | _ | ses' <;> rw [hwho] at hses
    · cases hses
    · cases hses
    · obtain rfl := Option.some.inj hses
      rfl
  have hmem := ((hagrees.owner_iff ses).mp hok).2
  rw [hdevices] at hmem
  exact absurd hmem (by decide)

end Foxtrot
