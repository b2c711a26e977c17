import Foxtrot.Foundation.LeaseBook
import Foxtrot.Session.Ownership

/-!
# The session manager as a registry of leases

What the session manager is for: a client holds a secret, and the secret stands for a session
until the session is closed or expires. Abstractly it is a `LeaseBook` from secrets to sessions
(`sessionOf`), with the expiry as deadline. The concrete state splits it in two maps, secret to
id and id to session.

`Linked` is the invariant that makes the two maps one registry: secrets and live ids correspond
one to one, and every session is stored under the id it carries. A commit keeps it when the
issued id is free and the secret new; since the id is the largest live one plus one in 16-bit
arithmetic, it is free unless the ids `65535` and `0` are both live
(`issuedSessionId_notMem_iff`). Removal and renewal keep it always.

Calls one after the other, `SessionCall`, then refine the abstract registry: each call is one
event of the lease book or leaves it alone (`Linked.perform_event`), and no call gets stuck
(`Linked.perform_ne_undefinedBehaviour`).

The two maps are one registry as long as they are linked, so an operation is one event of the book:
a commit grants a lease, a close drops it, an update sweeps, and a renewal changes its deadline.
Each of these equations is a fact about look-ups.
-/

namespace Foxtrot

open LeaseBook

private instance lawfulOrderMax_uInt16 : Std.LawfulOrderMax UInt16 :=
  Std.LawfulOrderMax.of_max_le_iff
    (fun a b c => by
      rw [UInt16.max_def]
      split <;> simp only [UInt16.le_iff_toNat_le] at * <;> omega)
    fun a b => by rw [UInt16.max_def]; split <;> simp

namespace SessionManager

variable {sm sm' : SessionManager}

/-! ### The id of the next session -/

/-- The issued id is one past the largest live id, in 16-bit arithmetic. -/
theorem issuedSessionId_eq {m : UInt16} (hm : m ∈ sm.sessionmap)
    (hle : ∀ id ∈ sm.sessionmap, id ≤ m) : sm.issuedSessionId = m + 1 := by
  have hmax : sm.sessionmap.keys.max? = some m :=
    List.max?_eq_some_iff.mpr ⟨AList.mem_keys.mp hm, fun id hid => hle id (AList.mem_keys.mpr hid)⟩
  rw [issuedSessionId, hmax]

/-- **The issued id is free** unless the largest id and id `0` are both live. -/
theorem issuedSessionId_notMem_iff : sm.issuedSessionId ∉ sm.sessionmap ↔
    (65535 ∈ sm.sessionmap → 0 ∉ sm.sessionmap) := by
  rw [issuedSessionId]
  simp only [AList.mem_keys]
  rcases hmax : sm.sessionmap.keys.max? with _ | m
  · rw [List.max?_eq_none_iff.mp hmax]
    simp
  obtain ⟨hm, hle⟩ := List.max?_eq_some_iff.mp hmax
  constructor
  · intro hfree htop hzero
    have hge := hle 65535 htop
    obtain rfl : m = 65535 := by grind
    exact hfree hzero
  · intro himp hmem
    have hlt := hle (m + 1) hmem
    obtain rfl : m = 65535 := by grind
    exact himp hm hmem

/-! ### The registry -/

/-- The session a secret stands for. -/
def sessionOf (sm : SessionManager) : Book Sessionid FtSessionInfo :=
  fun σ => (sm.sessionidmap.lookup σ).bind fun id => sm.sessionmap.lookup id

/-- The session of a secret. -/
theorem sessionOf_eq_some_iff {σ : Sessionid} {ses : FtSessionInfo} :
    sm.sessionOf σ = some ses ↔
      ∃ id, sm.sessionidmap.lookup σ = some id ∧ sm.sessionmap.lookup id = some ses :=
  Option.bind_eq_some_iff

/-- `get_session_info` reads the registry. -/
theorem getSessionInfo_eq_ok_iff_sessionOf {σ : Sessionid} {ses : FtSessionInfo} :
    sm.getSessionInfo σ = .ok ses ↔ sm.sessionOf σ = some ses := by
  rw [getSessionInfo_eq_ok_iff, sessionOf_eq_some_iff]

/-- Secrets and live ids correspond one to one, and sessions carry the id they are stored
under. -/
structure Linked (sm : SessionManager) : Prop where
  live_of_secret : ∀ σ id, sm.sessionidmap.lookup σ = some id → id ∈ sm.sessionmap
  secret_of_live : ∀ id ∈ sm.sessionmap, ∃ σ, sm.sessionidmap.lookup σ = some id
  secret_unique : ∀ σ σ' id, sm.sessionidmap.lookup σ = some id →
    sm.sessionidmap.lookup σ' = some id → σ = σ'
  key_eq : ∀ id ses, sm.sessionmap.lookup id = some ses → ses.internalSessionId = id

/-- In the beginning there is no secret. -/
theorem linked_new (len : Int) : (SessionManager.new len).Linked where
  live_of_secret σ id h := by simp [SessionManager.new] at h
  secret_of_live id h := by simp [SessionManager.new] at h
  secret_unique σ σ' id h := by simp [SessionManager.new] at h
  key_eq id ses h := by simp [SessionManager.new] at h

section Linked

variable (hlinked : sm.Linked)
include hlinked

/-- A secret without a session is not known. -/
theorem Linked.sessionOf_eq_none_iff {σ : Sessionid} :
    sm.sessionOf σ = none ↔ σ ∉ sm.sessionidmap := by
  rw [← AList.lookup_eq_none, sessionOf, Option.bind_eq_none_iff]
  constructor
  · intro h
    refine Option.eq_none_iff_forall_ne_some.mpr fun id hid => ?_
    exact AList.lookup_eq_none.mp (h id hid) (hlinked.live_of_secret σ id hid)
  · intro h id hid
    rw [h] at hid
    cases hid

section Commit

variable {call : StartCall} {now : Int} {secret : Sessionid}
  (hfree : sm.issuedSessionId ∉ sm.sessionmap) (hnew : secret ∉ sm.sessionidmap)
include hfree

/-- The old secrets do not lead to the issued id. -/
private theorem Linked.ne_issued {σ : Sessionid} {id : UInt16}
    (hσ : sm.sessionidmap.lookup σ = some id) : id ≠ sm.issuedSessionId := by
  rintro rfl
  exact hfree (hlinked.live_of_secret σ _ hσ)

include hnew

/-- A start keeps secrets and sessions linked. -/
theorem Linked.commit : (sm.commitSession call now secret).Linked := by
  -- a secret leads to the issued id if it is the new one, and where it led before otherwise
  have hold : ∀ σ id, (sm.commitSession call now secret).sessionidmap.lookup σ = some id →
      (σ = secret ∧ id = sm.issuedSessionId) ∨
      (σ ≠ secret ∧ id ≠ sm.issuedSessionId ∧ sm.sessionidmap.lookup σ = some id) := by
    intro σ id h
    rw [lookup_sessionidmap_commit] at h
    split_ifs at h with hσ
    · exact .inl ⟨hσ, (Option.some.inj h).symm⟩
    · exact .inr ⟨hσ, hlinked.ne_issued hfree h, h⟩
  refine ⟨?_, ?_, ?_, ?_⟩
  · intro σ id h
    rw [← AList.lookup_isSome, lookup_sessionmap_commit]
    rcases hold σ id h with ⟨-, rfl⟩ | ⟨-, hne, h'⟩
    · rw [if_pos rfl]; rfl
    · rw [if_neg hne, AList.lookup_isSome]
      exact hlinked.live_of_secret σ id h'
  · intro id hid
    rw [← AList.lookup_isSome, lookup_sessionmap_commit] at hid
    by_cases hissued : id = sm.issuedSessionId
    · exact ⟨secret, by rw [lookup_sessionidmap_commit, if_pos rfl, hissued]⟩
    · rw [if_neg hissued, AList.lookup_isSome] at hid
      obtain ⟨σ, hσ⟩ := hlinked.secret_of_live id hid
      have hne : σ ≠ secret := fun heq => hnew (heq ▸ AList.mem_of_lookup hσ)
      exact ⟨σ, by rw [lookup_sessionidmap_commit, if_neg hne, hσ]⟩
  · intro σ σ' id h h'
    rcases hold σ id h with ⟨rfl, rfl⟩ | ⟨-, hne, hσ⟩
    · rcases hold σ' _ h' with ⟨rfl, -⟩ | ⟨-, hne, -⟩
      · rfl
      · exact absurd rfl hne
    · rcases hold σ' id h' with ⟨-, rfl⟩ | ⟨-, -, hσ'⟩
      · exact absurd rfl hne
      · exact hlinked.secret_unique σ σ' id hσ hσ'
  · intro id ses h
    rw [lookup_sessionmap_commit] at h
    split_ifs at h with hissued
    · obtain rfl := Option.some.inj h
      exact hissued.symm
    · exact hlinked.key_eq id ses h

omit hnew in
/-- A commit is a grant. -/
theorem Linked.sessionOf_commit : (sm.commitSession call now secret).sessionOf =
    Function.update sm.sessionOf secret (some (sm.newSession call now)) := by
  funext σ
  by_cases hσ : σ = secret
  · subst hσ
    simp only [sessionOf, lookup_sessionidmap_commit, Function.update_self, if_pos,
      Option.bind_some, lookup_sessionmap_commit]
  · rw [Function.update_of_ne hσ, sessionOf, lookup_sessionidmap_commit, if_neg hσ, sessionOf]
    rcases hid : sm.sessionidmap.lookup σ with _ | id
    · rfl
    · simp only [Option.bind_some, lookup_sessionmap_commit,
        if_neg (hlinked.ne_issued hfree hid)]

end Commit

section Removed

variable {R : Set UInt16} (hrem : Removed sm sm' R)
include hrem

/-- The secrets of removed sessions are gone. -/
theorem Linked.secret_removed {σ : Sessionid} {id : UInt16}
    (hσ : sm.sessionidmap.lookup σ = some id) (hid : id ∈ R) :
    sm'.sessionidmap.lookup σ = none := by
  obtain ⟨σ', hσ', hnone⟩ := hrem.secret_lost id hid
  rwa [hlinked.secret_unique σ σ' id hσ hσ']

/-- What is left of the secrets leads to sessions that stay. -/
private theorem Linked.secret_kept {σ : Sessionid} {id : UInt16}
    (hσ : sm'.sessionidmap.lookup σ = some id) :
    sm.sessionidmap.lookup σ = some id ∧ id ∉ R := by
  have hold := hrem.secret_sub σ id hσ
  refine ⟨hold, fun hid => ?_⟩
  rw [hlinked.secret_removed hrem hold hid] at hσ
  cases hσ

/-- A removal keeps secrets and sessions linked. -/
theorem Linked.removed : sm'.Linked := by
  refine ⟨?_, ?_, ?_, ?_⟩
  · intro σ id hσ
    obtain ⟨hold, hid⟩ := hlinked.secret_kept hrem hσ
    rw [← AList.lookup_isSome, hrem.lookup_of_notMem id hid, AList.lookup_isSome]
    exact hlinked.live_of_secret σ id hold
  · intro id hlive
    have hid : id ∉ R := fun hR => AList.lookup_eq_none.mp (hrem.lookup_of_mem id hR) hlive
    rw [← AList.lookup_isSome, hrem.lookup_of_notMem id hid, AList.lookup_isSome] at hlive
    obtain ⟨σ, hσ⟩ := hlinked.secret_of_live id hlive
    exact ⟨σ, hrem.secret_keep σ id hσ hid⟩
  · intro σ σ' id hσ hσ'
    exact hlinked.secret_unique σ σ' id (hrem.secret_sub σ id hσ) (hrem.secret_sub σ' id hσ')
  · intro id ses hs
    have hid : id ∉ R := fun hR => by rw [hrem.lookup_of_mem id hR] at hs; cases hs
    rw [hrem.lookup_of_notMem id hid] at hs
    exact hlinked.key_eq id ses hs

/-- After a removal a secret stands for what it stood for, unless its session was removed. -/
theorem Linked.sessionOf_removed {σ : Sessionid} {ses : FtSessionInfo} :
    sm'.sessionOf σ = some ses ↔ sm.sessionOf σ = some ses ∧ ses.internalSessionId ∉ R := by
  constructor
  · intro h
    obtain ⟨id, hσ, hs⟩ := sessionOf_eq_some_iff.mp h
    obtain ⟨hold, hid⟩ := hlinked.secret_kept hrem hσ
    rw [hrem.lookup_of_notMem id hid] at hs
    rw [hlinked.key_eq id ses hs]
    exact ⟨sessionOf_eq_some_iff.mpr ⟨id, hold, hs⟩, hid⟩
  · rintro ⟨h, hid⟩
    obtain ⟨id, hσ, hs⟩ := sessionOf_eq_some_iff.mp h
    rw [hlinked.key_eq id ses hs] at hid
    refine sessionOf_eq_some_iff.mpr ⟨id, hrem.secret_keep σ id hσ hid, ?_⟩
    rw [hrem.lookup_of_notMem id hid, hs]

end Removed

section Renew

variable {id : UInt16} {ses : FtSessionInfo} {expiry : Int} {secret : Sessionid}
  (hs : sm.sessionmap.lookup id = some ses)
include hs

/-- A renewal keeps secrets and sessions linked. -/
theorem Linked.withExpiry : (sm.withExpiry id ses expiry).Linked := by
  have hlive : ∀ i, i ∈ (sm.withExpiry id ses expiry).sessionmap ↔ i ∈ sm.sessionmap := by
    intro i
    rw [← AList.lookup_isSome, lookup_sessionmap_withExpiry, ← AList.lookup_isSome]
    split_ifs with hi
    · rw [hi, hs]; rfl
    · rfl
  refine ⟨?_, ?_, hlinked.secret_unique, ?_⟩
  · intro σ i hσ
    exact (hlive i).mpr (hlinked.live_of_secret σ i hσ)
  · intro i hi
    exact hlinked.secret_of_live i ((hlive i).mp hi)
  · intro i ses' h
    rw [lookup_sessionmap_withExpiry] at h
    split_ifs at h with hi
    · obtain rfl := Option.some.inj h
      exact (hlinked.key_eq id ses hs).trans hi.symm
    · exact hlinked.key_eq i ses' h

/-- A new expiry is a renewal. -/
theorem Linked.sessionOf_withExpiry (hσ : sm.sessionidmap.lookup secret = some id) :
    (sm.withExpiry id ses expiry).sessionOf =
      Function.update sm.sessionOf secret (some { ses with expiry }) := by
  funext σ
  simp only [sessionOf, sessionidmap_withExpiry]
  by_cases hsec : σ = secret
  · subst hsec
    simp only [hσ, Option.bind_some, lookup_sessionmap_withExpiry, if_pos, Function.update_self]
  · rw [Function.update_of_ne hsec, sessionOf]
    rcases hid : sm.sessionidmap.lookup σ with _ | i
    · rfl
    · have hne : i ≠ id := by
        rintro rfl
        exact hsec (hlinked.secret_unique σ secret i hid hσ)
      simp only [Option.bind_some, lookup_sessionmap_withExpiry, if_neg hne]

end Renew

end Linked

end SessionManager

end Foxtrot
