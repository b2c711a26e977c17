import Foxtrot.Session.Operations

/-!
# Ownership invariants of the session manager

`Covered sm` says that every device and every flag a live session lists is recorded for that
session in its cache, under the key the cache uses. This is the invariant behind exclusive
ownership: it is a pair of `Ledger.Covers`, so listing sessions are disjoint (`Exclusive`), and
removing sessions does not touch what the others list (`LocalRemoval`). Removal and renewal keep
it unconditionally; a commit keeps it when the requested items are unowned at that moment, even
when the id it issues is still in use.

`CoveredExactly sm` adds that the caches record nothing else. This is what makes the ownership
queries answer with the listing session and nobody else; a commit keeps it when moreover the
issued id is free.
-/

namespace Foxtrot

namespace SessionManager

variable {sm sm' : SessionManager}

/-- The devices and flags of the live sessions are recorded in the caches. -/
structure Covered (sm : SessionManager) : Prop where
  device : Ledger.Covers UInt32.toUInt16 sm.holdsDevice sm.deviceLedger
  flag : Ledger.Covers (fun f => f) sm.holdsFlag sm.flagLedger

/-- The caches record the devices and flags of the live sessions and nothing else. -/
structure CoveredExactly (sm : SessionManager) : Prop where
  device : Ledger.Exact UInt32.toUInt16 sm.holdsDevice sm.deviceLedger
  flag : Ledger.Exact (fun f => f) sm.holdsFlag sm.flagLedger

/-- No device id and no flag name is listed by two live sessions. -/
def Exclusive (sm : SessionManager) : Prop :=
  ∀ id id' s s', sm.sessionmap.lookup id = some s → sm.sessionmap.lookup id' = some s' →
    id ≠ id' → (∀ d ∈ s.devices, d ∉ s'.devices) ∧ ∀ f ∈ s.flags, f ∉ s'.flags

/-- The look-ups of `start_session`, made in this state, find no owner. -/
def ChecksPass (sm : SessionManager) (call : StartCall) : Prop :=
  checkRequestedItems sm.whoOwnsDevice (call.devicesRequested.getD []) = .ok () ∧
    checkRequestedItems sm.whoOwnsFlag (call.flagsRequested.getD []) = .ok ()

instance ChecksPass.decidable (sm : SessionManager) (call : StartCall) :
    Decidable (sm.ChecksPass call) :=
  inferInstanceAs (Decidable (_ ∧ _))

/-- The checks pass exactly if nothing that is requested has an owner. -/
theorem checksPass_iff {call : StartCall} : sm.ChecksPass call ↔
    (∀ d ∈ call.devicesRequested.getD [], sm.whoOwnsDevice d = .ok none) ∧
      ∀ f ∈ call.flagsRequested.getD [], sm.whoOwnsFlag f = .ok none := by
  rw [ChecksPass, checkRequestedItems_eq_ok_iff, checkRequestedItems_eq_ok_iff]

private theorem CoveredExactly.covered (h : sm.CoveredExactly) : sm.Covered :=
  ⟨h.device.covers, h.flag.covers⟩

/-! ### The invariants are kept -/

/-- In the beginning nothing is held or recorded. -/
theorem coveredExactly_new (len : Int) : (SessionManager.new len).CoveredExactly := by
  constructor <;> intro k id <;>
    simp [SessionManager.new, deviceLedger, flagLedger, holdsDevice, holdsFlag]

/-- In the beginning nothing is held. -/
theorem covered_new (len : Int) : (SessionManager.new len).Covered :=
  (coveredExactly_new len).covered

section Commit

variable {call : StartCall} {now : Int} {secret : Sessionid}

/-- A start whose checks pass keeps the cover. -/
theorem Covered.commit (h : sm.Covered) (hpass : sm.ChecksPass call) :
    (sm.commitSession call now secret).Covered := by
  obtain ⟨hd, hf⟩ := checksPass_iff.mp hpass
  constructor
  · rw [holdsDevice_commit, deviceLedger_commit]
    exact h.device.grant fun d hmem => deviceLedger_eq_none_iff.mpr (hd d hmem)
  · rw [holdsFlag_commit, flagLedger_commit]
    exact h.flag.grant fun f hmem => flagLedger_eq_none_iff.mpr (hf f hmem)

/-- So it does an exact one, if its number is free. -/
theorem CoveredExactly.commit (h : sm.CoveredExactly) (hpass : sm.ChecksPass call)
    (hfree : sm.issuedSessionId ∉ sm.sessionmap) :
    (sm.commitSession call now secret).CoveredExactly := by
  obtain ⟨hd, hf⟩ := checksPass_iff.mp hpass
  have hnone := AList.lookup_eq_none.mpr hfree
  have hidle : sm.holdsDevice sm.issuedSessionId = ∅ := by simp [holdsDevice, hnone]
  have hidle' : sm.holdsFlag sm.issuedSessionId = ∅ := by simp [holdsFlag, hnone]
  constructor
  · rw [holdsDevice_commit, deviceLedger_commit]
    exact h.device.grant (fun d hmem => deviceLedger_eq_none_iff.mpr (hd d hmem)) hidle
  · rw [holdsFlag_commit, flagLedger_commit]
    exact h.flag.grant (fun f hmem => flagLedger_eq_none_iff.mpr (hf f hmem)) hidle'

end Commit

/-- A removal keeps the cover. -/
theorem Covered.removed {R : Set UInt16} (h : sm.Covered) (hrem : Removed sm sm' R) :
    sm'.Covered := by
  constructor
  · rw [hrem.holdsDevice_eq, hrem.deviceLedger_eq]
    exact h.device.release
  · rw [hrem.holdsFlag_eq, hrem.flagLedger_eq]
    exact h.flag.release

/-- A removal keeps an exact cover. -/
theorem CoveredExactly.removed {R : Set UInt16} (h : sm.CoveredExactly)
    (hrem : Removed sm sm' R) : sm'.CoveredExactly := by
  constructor
  · rw [hrem.holdsDevice_eq, hrem.deviceLedger_eq]
    exact h.device.release
  · rw [hrem.holdsFlag_eq, hrem.flagLedger_eq]
    exact h.flag.release

section Renew

variable {id : UInt16} {s : FtSessionInfo} {expiry : Int}

/-- A renewal keeps the cover. -/
theorem Covered.withExpiry (h : sm.Covered) (hs : sm.sessionmap.lookup id = some s) :
    (sm.withExpiry id s expiry).Covered := by
  constructor
  · rw [holdsDevice_withExpiry hs]; exact h.device
  · rw [holdsFlag_withExpiry hs]; exact h.flag

/-- A renewal keeps an exact cover. -/
theorem CoveredExactly.withExpiry (h : sm.CoveredExactly)
    (hs : sm.sessionmap.lookup id = some s) : (sm.withExpiry id s expiry).CoveredExactly := by
  constructor
  · rw [holdsDevice_withExpiry hs]; exact h.device
  · rw [holdsFlag_withExpiry hs]; exact h.flag

end Renew

/-! ### Exclusive ownership -/

/-- Under a cover, what is held is held once. -/
theorem Covered.exclusive (h : sm.Covered) : sm.Exclusive := by
  intro id id' s s' hs hs' hne
  have hdev := Set.disjoint_left.mp (h.device.exclusive hne)
  have hflag := Set.disjoint_left.mp (h.flag.exclusive hne)
  exact ⟨fun d hd hd' => hdev ⟨s, hs, hd⟩ ⟨s', hs', hd'⟩,
    fun f hf hf' => hflag ⟨s, hs, hf⟩ ⟨s', hs', hf'⟩⟩

/-! ### Removal is local -/

/-- From `sm` to `sm'` sessions were removed, and nothing about the others changed: the queries
about a session that stays answer as before, everything a removed session listed is unowned,
and no secret of a removed session authorises anything. -/
structure LocalRemoval (sm sm' : SessionManager) : Prop where
  info_of_live : ∀ id ∈ sm'.sessionmap, ∀ σ, sm.sessionidmap.lookup σ = some id →
    sm'.getSessionInfo σ = sm.getSessionInfo σ
  device_of_live : ∀ id ∈ sm'.sessionmap, ∀ s, sm.sessionmap.lookup id = some s →
    ∀ d ∈ s.devices, sm'.whoOwnsDevice d = sm.whoOwnsDevice d
  flag_of_live : ∀ id ∈ sm'.sessionmap, ∀ s, sm.sessionmap.lookup id = some s →
    ∀ f ∈ s.flags, sm'.whoOwnsFlag f = sm.whoOwnsFlag f
  auth_of_live : ∀ id ∈ sm'.sessionmap, ∀ σ, sm.sessionidmap.lookup σ = some id →
    (∀ d, sm'.sessionAuthCheckDevice σ d = sm.sessionAuthCheckDevice σ d) ∧
      ∀ f, sm'.sessionAuthCheckFlag σ f = sm.sessionAuthCheckFlag σ f
  device_of_removed : ∀ id ∉ sm'.sessionmap, ∀ s, sm.sessionmap.lookup id = some s →
    ∀ d ∈ s.devices, sm'.whoOwnsDevice d = .ok none
  flag_of_removed : ∀ id ∉ sm'.sessionmap, ∀ s, sm.sessionmap.lookup id = some s →
    ∀ f ∈ s.flags, sm'.whoOwnsFlag f = .ok none
  auth_of_removed : ∀ id ∉ sm'.sessionmap, ∀ σ, sm.sessionidmap.lookup σ = some id →
    (∀ d, sm'.sessionAuthCheckDevice σ d ≠ .ok true) ∧
      ∀ f, sm'.sessionAuthCheckFlag σ f ≠ .ok true

/-- A secret whose reach is the same in both states is answered the same. -/
theorem authCheck_congr {α : Type} [DecidableEq α] {σ : Sessionid} {id : UInt16}
    {get : FtSessionInfo → List α} (hσ : sm.sessionidmap.lookup σ = some id)
    (hσ' : sm'.sessionidmap.lookup σ = some id)
    (hs : sm'.sessionmap.lookup id = sm.sessionmap.lookup id) (val : α) :
    sm'.authCheck σ get val = sm.authCheck σ get val := by
  rw [authCheck, hσ', authCheck, hσ]
  simp only [sessionAt_congr hs]

/-- A secret that leads to no live session authorises nothing. -/
theorem authCheck_ne_true {α : Type} [DecidableEq α] {σ : Sessionid}
    {get : FtSessionInfo → List α}
    (h : ∀ id, sm.sessionidmap.lookup σ = some id → id ∉ sm.sessionmap) (val : α) :
    sm.authCheck σ get val ≠ .ok true := by
  intro htrue
  obtain ⟨id, s, hid, hs, -⟩ := authCheck_eq_true_iff.mp htrue
  exact h id hid (AList.mem_of_lookup hs)

/-- **Under the ownership cover, removing sessions is local.** -/
theorem Covered.localRemoval {R : Set UInt16} (h : sm.Covered) (hrem : Removed sm sm' R) :
    LocalRemoval sm sm' := by
  have hlive : ∀ id ∈ sm'.sessionmap, id ∉ R := fun id hid hR =>
    AList.lookup_eq_none.mp (hrem.lookup_of_mem id hR) hid
  have hgone : ∀ id ∉ sm'.sessionmap, ∀ s, sm.sessionmap.lookup id = some s → id ∈ R := by
    intro id hid s hs
    by_contra hR
    exact hid (AList.mem_of_lookup ((hrem.lookup_of_notMem id hR).trans hs))
  refine ⟨?_, ?_, ?_, ?_, ?_, ?_, ?_⟩
  · intro id hid σ hσ
    rw [getSessionInfo, hrem.secret_keep σ id hσ (hlive id hid), getSessionInfo, hσ]
    exact sessionAt_congr (hrem.lookup_of_notMem id (hlive id hid))
  · intro id hid s hs d hd
    have hhold : d ∈ sm.holdsDevice id := ⟨s, hs, hd⟩
    refine whoOwnsDevice_congr ?_ fun i hi => ?_
    · rw [hrem.deviceLedger_eq]
      exact h.device.strike_eq hhold (hlive id hid)
    · obtain rfl : i = id := Option.some_injective _ (hi.symm.trans (h.device id d hhold))
      exact hrem.lookup_of_notMem i (hlive i hid)
  · intro id hid s hs f hf
    have hhold : f ∈ sm.holdsFlag id := ⟨s, hs, hf⟩
    refine whoOwnsFlag_congr ?_ fun i hi => ?_
    · rw [hrem.flagLedger_eq]
      exact h.flag.strike_eq hhold (hlive id hid)
    · obtain rfl : i = id := Option.some_injective _ (hi.symm.trans (h.flag id f hhold))
      exact hrem.lookup_of_notMem i (hlive i hid)
  · intro id hid σ hσ
    have hσ' := hrem.secret_keep σ id hσ (hlive id hid)
    have hs := hrem.lookup_of_notMem id (hlive id hid)
    exact ⟨fun d => authCheck_congr hσ hσ' hs d, fun f => authCheck_congr hσ hσ' hs f⟩
  · intro id hid s hs d hd
    rw [← deviceLedger_eq_none_iff, hrem.deviceLedger_eq]
    exact Ledger.strike_eq_none ⟨s, hs, hd⟩ (hgone id hid s hs)
  · intro id hid s hs f hf
    have hhold : f ∈ sm.holdsFlag id := ⟨s, hs, hf⟩
    rw [← flagLedger_eq_none_iff, hrem.flagLedger_eq]
    exact if_pos ⟨id, hgone id hid s hs, f, hhold, rfl⟩
  · intro id hid σ hσ
    -- the secret may stay behind, but then it still leads to the removed id
    have hdead : ∀ i, sm'.sessionidmap.lookup σ = some i → i ∉ sm'.sessionmap := by
      intro i hi
      obtain rfl : id = i := Option.some_injective _ (hσ.symm.trans (hrem.secret_sub σ i hi))
      exact hid
    exact ⟨fun d => authCheck_ne_true hdead d, fun f => authCheck_ne_true hdead f⟩

end SessionManager

end Foxtrot
