import Foxtrot.Foundation.Ledger
import Foxtrot.Session.Manager

/-!
# What the session manager's operations do

One specification lemma for each operation of `SessionManager`, so that no later proof
unfolds one. The queries are characterised by lookups. What a session lists is read as the
**holdings** of its internal id (`holdsDevice`, `holdsFlag`) and the two caches as
**ledgers** (`deviceLedger`, keyed by the low 16 bits of the device id, and `flagLedger`), so
that the commit of `start_session` is a `Ledger.grant` with its `Ledger.record`, and removing
sessions is a `Ledger.release` with its `Ledger.strike`.

`Removed sm sm' R` says everything the removal of the sessions `R` does, whatever the number
of sessions: `close_session` and `update_session_states` both end in it.

The lemmas come in two kinds: when an operation succeeds (`…_eq_ok_iff`, `…_cases`), and what the
fields of the state are after it. Both speak of look-ups in the maps, never of the loops that the
operations are made of, so that the invariants of the other modules are proved from these lemmas
alone.
-/

namespace Foxtrot

namespace SessionManager

variable {sm sm' sm'' : SessionManager}

/-- A call that leaves a state behind threw and left the old one, or went through. -/
theorem settle_cases {r : Except SessionError SessionManager} (h : sm.settle r = some sm') :
    (∃ e, r = .error e ∧ sm' = sm) ∨ r = .ok sm' := by
  rcases r with (_ | _ | _) | m <;> simp_all [settle]

/-! ### Queries -/

/-- A session is found under its number. -/
theorem sessionAt_eq_ok_iff {id : UInt16} {s : FtSessionInfo} :
    sm.sessionAt id = .ok s ↔ sm.sessionmap.lookup id = some s := by
  unfold sessionAt
  split <;> simp [*]

/-- A session is a matter of its own entry. -/
theorem sessionAt_congr {id : UInt16}
    (h : sm'.sessionmap.lookup id = sm.sessionmap.lookup id) :
    sm'.sessionAt id = sm.sessionAt id := by
  unfold sessionAt
  rw [h]

/-- A session is found by its secret. -/
theorem getSessionInfo_eq_ok_iff {secret : Sessionid} {s : FtSessionInfo} :
    sm.getSessionInfo secret = .ok s ↔
      ∃ id, sm.sessionidmap.lookup secret = some id ∧ sm.sessionmap.lookup id = some s := by
  unfold getSessionInfo
  split <;> simp [*, sessionAt_eq_ok_iff]

section Cache

variable {κ υ : Type} [DecidableEq κ] {toId : υ → UInt16} {map : AList fun _ : κ => υ} {val : κ}

/-- Nothing is found exactly if the cache has no entry. -/
private theorem findInCache_eq_none_iff :
    sm.findInCache toId map val = .ok none ↔ map.lookup val = none := by
  unfold findInCache
  split
  · next v hv => cases h : sm.sessionAt (toId v) <;> simp [hv, Except.map]
  · simp [*]

private theorem findInCache_eq_some_iff {s : FtSessionInfo} :
    sm.findInCache toId map val = .ok (some s) ↔
      ∃ v, map.lookup val = some v ∧ sm.sessionmap.lookup (toId v) = some s := by
  unfold findInCache
  split
  · next v hv =>
    cases h : sm.sessionAt (toId v) with
    | error e =>
      have hne : sm.sessionmap.lookup (toId v) ≠ some s := fun hs => by
        rw [sessionAt_eq_ok_iff.mpr hs] at h; cases h
      simp [hv, Except.map, hne]
    | ok s' =>
      have hs' := sessionAt_eq_ok_iff.mp h
      simp [hv, Except.map, hs']
  · simp [*]

end Cache

/-- `who_owns_device` finds nothing exactly when the cache has no entry under the cut id. -/
theorem whoOwnsDevice_eq_none_iff {d : UInt32} :
    sm.whoOwnsDevice d = .ok none ↔ sm.devicecachemap.lookup d.toUInt16 = none :=
  findInCache_eq_none_iff

/-- A flag has no owner exactly if the cache has no entry. -/
private theorem whoOwnsFlag_eq_none_iff {f : String} :
    sm.whoOwnsFlag f = .ok none ↔ sm.flagcachemap.lookup f = none :=
  findInCache_eq_none_iff

/-- A secret authorises what its session has. -/
theorem authCheck_eq_true_iff {α : Type} [DecidableEq α] {secret : Sessionid}
    {get : FtSessionInfo → List α} {val : α} :
    sm.authCheck secret get val = .ok true ↔
      ∃ id s, sm.sessionidmap.lookup secret = some id ∧ sm.sessionmap.lookup id = some s ∧
        val ∈ get s := by
  unfold authCheck
  split
  · simp [*]
  · next id hid =>
    cases h : sm.sessionAt id with
    | error e =>
      have hne : ∀ s, sm.sessionmap.lookup id ≠ some s := fun s hs => by
        rw [sessionAt_eq_ok_iff.mpr hs] at h; cases h
      simp [hid, Except.map, hne]
    | ok s =>
      have hs := sessionAt_eq_ok_iff.mp h
      simp [hid, Except.map, hs]

/-! ### Holdings and ledgers -/

/-- The device ids listed by the live session with this internal id. -/
def holdsDevice (sm : SessionManager) (id : UInt16) : Set UInt32 :=
  {d | ∃ s, sm.sessionmap.lookup id = some s ∧ d ∈ s.devices}

/-- The flag names listed by the live session with this internal id. -/
def holdsFlag (sm : SessionManager) (id : UInt16) : Set String :=
  {f | ∃ s, sm.sessionmap.lookup id = some s ∧ f ∈ s.flags}

/-- The device cache as a map to internal ids. -/
def deviceLedger (sm : SessionManager) (key : UInt16) : Option UInt16 :=
  (sm.devicecachemap.lookup key).map UInt32.toUInt16

/-- The flag cache as a map to internal ids. -/
def flagLedger (sm : SessionManager) (flagname : String) : Option UInt16 :=
  sm.flagcachemap.lookup flagname

/-- The ledger of the devices is their cache. -/
theorem deviceLedger_eq_none_iff {d : UInt32} :
    sm.deviceLedger d.toUInt16 = none ↔ sm.whoOwnsDevice d = .ok none := by
  rw [whoOwnsDevice_eq_none_iff, deviceLedger, Option.map_eq_none_iff]

/-- The ledger of the flags is their cache. -/
theorem flagLedger_eq_none_iff {f : String} :
    sm.flagLedger f = none ↔ sm.whoOwnsFlag f = .ok none := by
  rw [whoOwnsFlag_eq_none_iff, flagLedger]

/-- `who_owns_device` answers with the live session the ledger names. -/
theorem whoOwnsDevice_eq_some_iff {d : UInt32} {s : FtSessionInfo} :
    sm.whoOwnsDevice d = .ok (some s) ↔
      ∃ id, sm.deviceLedger d.toUInt16 = some id ∧ sm.sessionmap.lookup id = some s := by
  rw [whoOwnsDevice, findInCache_eq_some_iff]
  simp only [deviceLedger, Option.map_eq_some_iff]
  constructor
  · rintro ⟨v, hv, hs⟩
    exact ⟨_, ⟨v, hv, rfl⟩, hs⟩
  · rintro ⟨_, ⟨v, hv, rfl⟩, hs⟩
    exact ⟨v, hv, hs⟩

/-- `who_owns_flag` answers with the live session the ledger names. -/
theorem whoOwnsFlag_eq_some_iff {f : String} {s : FtSessionInfo} :
    sm.whoOwnsFlag f = .ok (some s) ↔
      ∃ id, sm.flagLedger f = some id ∧ sm.sessionmap.lookup id = some s :=
  findInCache_eq_some_iff

/-- Ownership queries depend on the ledger entry and on the entry of the session it names. -/
theorem whoOwnsDevice_congr {d : UInt32}
    (hl : sm'.deviceLedger d.toUInt16 = sm.deviceLedger d.toUInt16)
    (hs : ∀ id, sm.deviceLedger d.toUInt16 = some id →
      sm'.sessionmap.lookup id = sm.sessionmap.lookup id) :
    sm'.whoOwnsDevice d = sm.whoOwnsDevice d := by
  unfold deviceLedger at hl hs
  unfold whoOwnsDevice findInCache
  cases h : sm.devicecachemap.lookup d.toUInt16 with
  | none =>
    rw [h, Option.map_none, Option.map_eq_none_iff] at hl
    simp [hl]
  | some v =>
    rw [h, Option.map_some, Option.map_eq_some_iff] at hl
    obtain ⟨v', hv', hvv⟩ := hl
    have hat := sessionAt_congr (hs v.toUInt16 (by rw [h]; rfl))
    simp only [hv', hvv, hat]

/-- The owner of a flag is a matter of its entry and its session. -/
theorem whoOwnsFlag_congr {f : String} (hl : sm'.flagLedger f = sm.flagLedger f)
    (hs : ∀ id, sm.flagLedger f = some id →
      sm'.sessionmap.lookup id = sm.sessionmap.lookup id) :
    sm'.whoOwnsFlag f = sm.whoOwnsFlag f := by
  unfold flagLedger at hl hs
  unfold whoOwnsFlag findInCache
  cases h : sm.flagcachemap.lookup f with
  | none => simp [hl, h]
  | some id => simp [hl, h, sessionAt_congr (hs id h)]

/-! ### Starting -/

/-- A request passes exactly if none of its items has an owner. -/
theorem checkRequestedItems_eq_ok_iff {α : Type}
    {checkfun : α → Except SessionError (Option FtSessionInfo)} {items : List α} :
    checkRequestedItems checkfun items = .ok () ↔ ∀ item ∈ items, checkfun item = .ok none := by
  induction items with
  | nil => simp [checkRequestedItems]
  | cons item rest ih =>
    unfold checkRequestedItems
    cases h : checkfun item with
    | error e => simp [rejectOwned, h]
    | ok o => cases o <;> simp [rejectOwned, h, ih]

/-- A requested expiry passes the check exactly in `[now, now + _session_length]`. -/
theorem checkRequestedExpiry_eq_ok_iff {now tm : Int} :
    sm.checkRequestedExpiry now tm = .ok () ↔ now ≤ tm ∧ tm ≤ now + sm.sessionLength := by
  unfold checkRequestedExpiry
  split_ifs with h₁ h₂
  · exact iff_of_false (by simp) (by omega)
  · exact iff_of_false (by simp) (by omega)
  · exact iff_of_true rfl (by omega)

/-- An expiry passes if it is neither in the past nor too far. -/
theorem checkOptionalExpiry_eq_ok_iff {now : Int} {req : Option Int} :
    sm.checkOptionalExpiry now req = .ok () ↔
      ∀ tm ∈ req, now ≤ tm ∧ tm ≤ now + sm.sessionLength := by
  cases req with
  | none => simp [checkOptionalExpiry]
  | some tm => simp [checkOptionalExpiry, checkRequestedExpiry_eq_ok_iff]

/-- An uninterrupted `start_session` succeeds exactly when all requested items are unowned
and the requested expiry passes its check, and then commits. -/
theorem startSession_eq_ok_iff {call : StartCall} {now chk : Int} {secret : Sessionid}
    {r : SessionManager × Sessionid × UInt16} :
    sm.startSession call now chk secret = .ok r ↔
      (∀ d ∈ call.devicesRequested.getD [], sm.whoOwnsDevice d = .ok none) ∧
      (∀ f ∈ call.flagsRequested.getD [], sm.whoOwnsFlag f = .ok none) ∧
      sm.checkOptionalExpiry chk call.requestedExpiry = .ok () ∧
      r = (sm.commitSession call now secret, secret, sm.issuedSessionId) := by
  rw [← checkRequestedItems_eq_ok_iff, ← checkRequestedItems_eq_ok_iff]
  unfold startSession
  cases checkRequestedItems sm.whoOwnsDevice (call.devicesRequested.getD []) with
  | error e => simp [bind, Except.bind]
  | ok _ =>
    cases checkRequestedItems sm.whoOwnsFlag (call.flagsRequested.getD []) with
    | error e => simp [bind, Except.bind]
    | ok _ =>
      cases sm.checkOptionalExpiry chk call.requestedExpiry with
      | error e => simp [bind, Except.bind]
      | ok _ => simp [bind, Except.bind, pure, Except.pure, eq_comm]

section Commit

variable {call : StartCall} {now : Int} {secret : Sessionid}

/-- A start adds its session. -/
theorem lookup_sessionmap_commit (id : UInt16) :
    (sm.commitSession call now secret).sessionmap.lookup id =
      if id = sm.issuedSessionId then some (sm.newSession call now)
      else sm.sessionmap.lookup id :=
  AList.lookup_insert_ite _ _ _ _

/-- A start adds its secret. -/
theorem lookup_sessionidmap_commit (σ : Sessionid) :
    (sm.commitSession call now secret).sessionidmap.lookup σ =
      if σ = secret then some sm.issuedSessionId else sm.sessionidmap.lookup σ :=
  AList.lookup_insert_ite _ _ _ _

/-- The commit grants the requested devices to the issued id. -/
theorem holdsDevice_commit :
    (sm.commitSession call now secret).holdsDevice =
      Ledger.grant sm.holdsDevice sm.issuedSessionId
        {d | d ∈ call.devicesRequested.getD []} := by
  funext id
  unfold Ledger.grant
  split_ifs with h <;> ext d <;> simp [holdsDevice, lookup_sessionmap_commit, h, newSession]

/-- A start grants its flags. -/
theorem holdsFlag_commit :
    (sm.commitSession call now secret).holdsFlag =
      Ledger.grant sm.holdsFlag sm.issuedSessionId {f | f ∈ call.flagsRequested.getD []} := by
  funext id
  unfold Ledger.grant
  split_ifs with h <;> ext f <;> simp [holdsFlag, lookup_sessionmap_commit, h, newSession]

/-- The commit records the issued id under the cut ids of the requested devices. -/
theorem deviceLedger_commit :
    (sm.commitSession call now secret).deviceLedger =
      Ledger.record UInt32.toUInt16 sm.deviceLedger sm.issuedSessionId
        {d | d ∈ call.devicesRequested.getD []} := by
  funext k
  simp only [deviceLedger, commitSession, AList.lookup_insertAll, List.mem_map, Ledger.record,
    Set.mem_image, Set.mem_ofPred_eq]
  split_ifs <;> simp

/-- A start records its flags. -/
theorem flagLedger_commit :
    (sm.commitSession call now secret).flagLedger =
      Ledger.record (fun f => f) sm.flagLedger sm.issuedSessionId
        {f | f ∈ call.flagsRequested.getD []} := by
  funext k
  simp only [flagLedger, commitSession, AList.lookup_insertAll, Ledger.record, Set.image_id',
    Set.mem_ofPred_eq]

end Commit

/-! ### Removing -/

/-- **What removing the sessions `R` does.** Their entries, their secrets' reach and all their
cache entries go; everything else stays. With two secrets leading to one removed id only one of
them is erased, so the secrets are bounded from both sides. -/
structure Removed (sm sm' : SessionManager) (R : Set UInt16) : Prop where
  lookup_of_mem : ∀ id ∈ R, sm'.sessionmap.lookup id = none
  lookup_of_notMem : ∀ id ∉ R, sm'.sessionmap.lookup id = sm.sessionmap.lookup id
  deviceLedger_eq :
    sm'.deviceLedger = Ledger.strike UInt32.toUInt16 sm.holdsDevice sm.deviceLedger R
  flagLedger_eq : sm'.flagLedger = Ledger.strike (fun f => f) sm.holdsFlag sm.flagLedger R
  secret_sub : ∀ σ id, sm'.sessionidmap.lookup σ = some id → sm.sessionidmap.lookup σ = some id
  secret_keep : ∀ σ id, sm.sessionidmap.lookup σ = some id → id ∉ R →
    sm'.sessionidmap.lookup σ = some id
  secret_lost : ∀ id ∈ R, ∃ σ, sm.sessionidmap.lookup σ = some id ∧
    sm'.sessionidmap.lookup σ = none
  nextSessionId_eq : sm'.nextSessionId = sm.nextSessionId
  sessionLength_eq : sm'.sessionLength = sm.sessionLength

namespace Removed

variable {R R' : Set UInt16}

/-- A removal releases the devices. -/
theorem holdsDevice_eq (h : Removed sm sm' R) :
    sm'.holdsDevice = Ledger.release sm.holdsDevice R := by
  funext id
  ext d
  by_cases hid : id ∈ R
  · simp [holdsDevice, Ledger.release, h.lookup_of_mem id hid, hid]
  · simp [holdsDevice, Ledger.release, h.lookup_of_notMem id hid, hid]

/-- A removal releases the flags. -/
theorem holdsFlag_eq (h : Removed sm sm' R) :
    sm'.holdsFlag = Ledger.release sm.holdsFlag R := by
  funext id
  ext f
  by_cases hid : id ∈ R
  · simp [holdsFlag, Ledger.release, h.lookup_of_mem id hid, hid]
  · simp [holdsFlag, Ledger.release, h.lookup_of_notMem id hid, hid]

/-- Removing no session changes nothing. -/
protected theorem refl (sm : SessionManager) : Removed sm sm ∅ where
  lookup_of_mem _ hid := hid.elim
  lookup_of_notMem _ _ := rfl
  deviceLedger_eq := by funext k; simp [Ledger.strike]
  flagLedger_eq := by funext k; simp [Ledger.strike]
  secret_sub _ _ hσ := hσ
  secret_keep _ _ hσ _ := hσ
  secret_lost _ hid := hid.elim
  nextSessionId_eq := rfl
  sessionLength_eq := rfl

/-- Removing some sessions and then others removes all of them. -/
protected theorem trans (h : Removed sm sm' R) (h' : Removed sm' sm'' R') :
    Removed sm sm'' (R ∪ R') where
  lookup_of_mem id hid := by
    by_cases hid' : id ∈ R'
    · exact h'.lookup_of_mem id hid'
    · rw [h'.lookup_of_notMem id hid', h.lookup_of_mem id (hid.resolve_right hid')]
  lookup_of_notMem id hid := by
    rw [Set.mem_union, not_or] at hid
    rw [h'.lookup_of_notMem id hid.2, h.lookup_of_notMem id hid.1]
  deviceLedger_eq := by
    rw [h'.deviceLedger_eq, h.holdsDevice_eq, h.deviceLedger_eq, Ledger.strike_strike]
  flagLedger_eq := by
    rw [h'.flagLedger_eq, h.holdsFlag_eq, h.flagLedger_eq, Ledger.strike_strike]
  secret_sub σ id hσ := h.secret_sub σ id (h'.secret_sub σ id hσ)
  secret_keep σ id hσ hid := by
    rw [Set.mem_union, not_or] at hid
    exact h'.secret_keep σ id (h.secret_keep σ id hσ hid.1) hid.2
  secret_lost id hid := by
    rcases hid with hid | hid
    · obtain ⟨σ, hσ, hnone⟩ := h.secret_lost id hid
      refine ⟨σ, hσ, Option.eq_none_iff_forall_ne_some.mpr fun i hi => ?_⟩
      rw [h'.secret_sub σ i hi] at hnone
      cases hnone
    · obtain ⟨σ, hσ, hnone⟩ := h'.secret_lost id hid
      exact ⟨σ, h.secret_sub σ id hσ, hnone⟩
  nextSessionId_eq := h'.nextSessionId_eq.trans h.nextSessionId_eq
  sessionLength_eq := h'.sessionLength_eq.trans h.sessionLength_eq

end Removed

variable {ord : SecretOrder}

/-- Striking the keys of one session's list is erasing them from the cache. -/
private theorem strike_singleton {ρ κ : Type} {key : ρ → κ} {holds : UInt16 → Set ρ}
    {ledger : κ → Option UInt16} {id : UInt16} {items : List ρ}
    (hitems : holds id = {r | r ∈ items}) [DecidableEq κ] (k : κ) :
    Ledger.strike key holds ledger {id} k =
      if k ∈ items.map key then none else ledger k := by
  have hiff : (∃ o ∈ ({id} : Set UInt16), k ∈ key '' holds o) ↔ k ∈ items.map key := by
    simp [hitems]
  by_cases hk : k ∈ items.map key
  · rw [Ledger.strike, if_pos (hiff.mpr hk), if_pos hk]
  · rw [Ledger.strike, if_neg fun h => hk (hiff.mp h), if_neg hk]

/-- A session is removed with all that is its. -/
theorem removed_of_removeSession {id : UInt16} (h : sm.removeSession ord id = .ok sm') :
    Removed sm sm' {id} := by
  unfold removeSession at h
  split at h
  · cases h
  next s hs =>
  split at h
  · cases h
  next loc hloc =>
  have hloc' := AList.VisitOrder.lookup_of_findKey hloc
  -- what the removed session lists is what its id holds
  have hdev : sm.holdsDevice id = {d | d ∈ s.devices} := by
    ext d; simp [holdsDevice, hs]
  have hflag : sm.holdsFlag id = {f | f ∈ s.flags} := by
    ext f; simp [holdsFlag, hs]
  obtain rfl := Except.ok.inj h
  refine ⟨?_, ?_, ?_, ?_, ?_, ?_, ?_, rfl, rfl⟩
  · rintro _ rfl
    exact AList.lookup_erase _ _
  · intro i hi
    exact AList.lookup_erase_ne hi
  · funext k
    rw [strike_singleton hdev]
    simp only [deviceLedger, AList.lookup_eraseAll]
    split_ifs <;> rfl
  · funext k
    rw [strike_singleton hflag]
    simp only [flagLedger, AList.lookup_eraseAll, List.map_id']
  · intro σ i hσ
    simp only [AList.lookup_erase_ite] at hσ
    split_ifs at hσ
    exact hσ
  · -- the one secret that is erased leads to the removed id
    intro σ i hσ hi
    have hne : σ ≠ loc := by
      rintro rfl
      rw [hloc'] at hσ
      exact hi (Option.some_injective _ hσ).symm
    rw [AList.lookup_erase_ne hne]
    exact hσ
  · rintro _ rfl
    exact ⟨loc, hloc', AList.lookup_erase _ _⟩

/-- `remove_session` succeeds on a live id to which some secret leads. -/
theorem exists_removeSession {id : UInt16} {s : FtSessionInfo} {σ : Sessionid}
    (hs : sm.sessionmap.lookup id = some s) (hσ : sm.sessionidmap.lookup σ = some id) :
    ∃ sm', sm.removeSession ord id = .ok sm' := by
  rcases hloc : ord.findKey sm.sessionidmap id with _ | loc
  · exact absurd hσ (AList.VisitOrder.findKey_eq_none_iff.mp hloc σ)
  · rw [removeSession, hs]
    simp only [hloc]
    exact ⟨_, rfl⟩

private theorem removed_of_removeSessions : ∀ {ids : List UInt16} {sm sm' : SessionManager},
    sm.removeSessions ord ids = .ok sm' → Removed sm sm' {id | id ∈ ids}
  | [], sm, sm', h => by
    obtain rfl := Except.ok.inj h
    simpa using Removed.refl sm
  | id :: ids, sm, sm', h => by
    rw [removeSessions] at h
    split at h
    next sm₁ h₁ =>
      have htrans := (removed_of_removeSession h₁).trans (removed_of_removeSessions h)
      have hset : ({id} ∪ {i | i ∈ ids} : Set UInt16) = {i | i ∈ id :: ids} := by
        ext i; simp
      rwa [hset] at htrans
    · cases h

/-- `remove_session` succeeds on each of distinct live ids that have their secrets. -/
theorem exists_removeSessions : ∀ {ids : List UInt16} {sm : SessionManager}, ids.Nodup →
    (∀ id ∈ ids, ∃ s σ, sm.sessionmap.lookup id = some s ∧
      sm.sessionidmap.lookup σ = some id) →
    ∃ sm', sm.removeSessions ord ids = .ok sm'
  | [], sm, _, _ => ⟨sm, rfl⟩
  | id :: ids, sm, hnd, h => by
    obtain ⟨s, σ, hs, hσ⟩ := h id List.mem_cons_self
    obtain ⟨sm₁, h₁⟩ : ∃ sm₁, sm.removeSession ord id = .ok sm₁ := exists_removeSession hs hσ
    have hrem := removed_of_removeSession h₁
    rw [List.nodup_cons] at hnd
    obtain ⟨sm', h'⟩ : ∃ sm', sm₁.removeSessions ord ids = .ok sm' := by
      refine exists_removeSessions hnd.2 fun i hi => ?_
      have hne : i ∉ ({id} : Set UInt16) := fun heq => hnd.1 (heq ▸ hi)
      obtain ⟨s', σ', hs', hσ'⟩ := h i (List.mem_cons_of_mem _ hi)
      exact ⟨s', σ', by rw [hrem.lookup_of_notMem i hne, hs'], hrem.secret_keep σ' i hσ' hne⟩
    exact ⟨sm', by rw [removeSessions, h₁]; exact h'⟩

/-- The ids queued for removal are those of the sessions whose expiry has passed. -/
theorem mem_expiredIds {now : Int} {id : UInt16} :
    id ∈ sm.expiredIds now ↔ ∃ s, sm.sessionmap.lookup id = some s ∧ s.expiry < now := by
  simp only [expiredIds, List.mem_map, List.mem_filter, decide_eq_true_eq]
  constructor
  · rintro ⟨⟨i, s⟩, ⟨hmem, hlt⟩, rfl⟩
    exact ⟨s, AList.mk_mem_entries_iff.mp hmem, hlt⟩
  · rintro ⟨s, hs, hlt⟩
    exact ⟨⟨id, s⟩, ⟨AList.mk_mem_entries_iff.mpr hs, hlt⟩, rfl⟩

/-- No expired session is listed twice. -/
theorem expiredIds_nodup (now : Int) : (sm.expiredIds now).Nodup :=
  (sm.sessionmap.keys_nodup).sublist (List.filter_sublist.map Sigma.fst)

/-- An update removes the sessions that have expired. -/
theorem removed_of_updateSessionStates {now : Int}
    (h : sm.updateSessionStates ord now = .ok sm') :
    Removed sm sm' {id | ∃ s, sm.sessionmap.lookup id = some s ∧ s.expiry < now} := by
  have hrem := removed_of_removeSessions h
  have hset : {id | id ∈ sm.expiredIds now} =
      {id | ∃ s, sm.sessionmap.lookup id = some s ∧ s.expiry < now} :=
    Set.ext fun _ => mem_expiredIds
  rwa [hset] at hrem

/-- `close_session` reports `false` and does nothing, or removes the session of the secret. -/
theorem closeSession_cases {secret : Sessionid} {b : Bool}
    (h : sm.closeSession ord secret = .ok (sm', b)) :
    (b = false ∧ sm.sessionidmap.lookup secret = none ∧ sm' = sm) ∨
    (b = true ∧ ∃ id, sm.sessionidmap.lookup secret = some id ∧ Removed sm sm' {id}) := by
  unfold closeSession at h
  split at h
  next hnone =>
    obtain ⟨rfl, rfl⟩ := Prod.mk.inj (Except.ok.inj h)
    exact .inl ⟨rfl, hnone, rfl⟩
  next id hid =>
    rcases hrem : sm.removeSession ord id with e | sm₁
    · rw [hrem] at h; cases h
    · rw [hrem] at h
      obtain ⟨rfl, rfl⟩ := Prod.mk.inj (Except.ok.inj h)
      exact .inr ⟨rfl, id, hid, removed_of_removeSession hrem⟩

/-! ### Renewing -/

/-- The state after the session `id`, with entry `s`, got a new expiry. -/
def withExpiry (sm : SessionManager) (id : UInt16) (s : FtSessionInfo) (expiry : Int) :
    SessionManager :=
  { sm with sessionmap := sm.sessionmap.insert id { s with expiry } }

/-- `renew_session` reports `false` and does nothing, or sets the expiry of the session of the
secret to the requested one when it passes its check, and to `now + _session_length` when none
was requested. -/
theorem renewSession_cases {secret : Sessionid} {req : Option Int} {now : Int} {b : Bool}
    (h : sm.renewSession secret req now = .ok (sm', b)) :
    (b = false ∧ sm.sessionidmap.lookup secret = none ∧ sm' = sm) ∨
    (b = true ∧ ∃ id s, sm.sessionidmap.lookup secret = some id ∧
      sm.sessionmap.lookup id = some s ∧ sm.checkOptionalExpiry now req = .ok () ∧
      sm' = sm.withExpiry id s (req.getD (now + sm.sessionLength))) := by
  unfold renewSession at h
  split at h
  next hnone =>
    obtain ⟨rfl, rfl⟩ := Prod.mk.inj (Except.ok.inj h)
    exact .inl ⟨rfl, hnone, rfl⟩
  next id hid =>
    rcases hat : sm.sessionAt id with e | s
    · rw [hat] at h; cases h
    rcases hchk : sm.checkOptionalExpiry now req with e | _
    · rw [hat, hchk] at h; cases h
    rw [hat, hchk] at h
    obtain ⟨rfl, rfl⟩ := Prod.mk.inj (Except.ok.inj h)
    exact .inr ⟨rfl, id, s, hid, sessionAt_eq_ok_iff.mp hat, rfl, rfl⟩

section Renew

variable {id : UInt16} {s : FtSessionInfo} {expiry : Int}

/-- A renewal changes the expiry of its session. -/
theorem lookup_sessionmap_withExpiry (i : UInt16) :
    (sm.withExpiry id s expiry).sessionmap.lookup i =
      if i = id then some { s with expiry } else sm.sessionmap.lookup i :=
  AList.lookup_insert_ite _ _ _ _

/-- A renewal changes no secret. -/
@[simp]
theorem sessionidmap_withExpiry : (sm.withExpiry id s expiry).sessionidmap = sm.sessionidmap := rfl

/-- A new expiry leaves the listed devices alone. -/
theorem holdsDevice_withExpiry (hs : sm.sessionmap.lookup id = some s) :
    (sm.withExpiry id s expiry).holdsDevice = sm.holdsDevice := by
  funext i
  ext d
  by_cases hi : i = id
  · subst hi; simp [holdsDevice, lookup_sessionmap_withExpiry, hs]
  · simp [holdsDevice, lookup_sessionmap_withExpiry, hi]

/-- A renewal changes no flag. -/
theorem holdsFlag_withExpiry (hs : sm.sessionmap.lookup id = some s) :
    (sm.withExpiry id s expiry).holdsFlag = sm.holdsFlag := by
  funext i
  ext f
  by_cases hi : i = id
  · subst hi; simp [holdsFlag, lookup_sessionmap_withExpiry, hs]
  · simp [holdsFlag, lookup_sessionmap_withExpiry, hi]

end Renew

end SessionManager

end Foxtrot
