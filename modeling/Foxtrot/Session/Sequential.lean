import Foxtrot.Session.Calls

/-!
# Runs of calls, and secrets that identify sessions

`SessionHistory` is a session manager together with the record of every secret it has handed
out and the request it was handed out for. The record is for the statements only: no call reads
it. `historySystem` makes one call after the other, from a new manager.

A secret is meant to identify its session for as long as the session lives
(`SessionHistory.SecretsIdentify`). What stands in the way is the 16-bit id: with the ids
`65535` and `0` both live the next session is stored under id `0`, over the live one. In runs
that make no start in such a state the secrets do identify the sessions, and no start touches a
live session (`secrets_identify`); in general they do not (`secrets_identify_wrap`), since ids
climb by one with every start that overlaps its predecessor.

The invariant (`SessionHistory.Recorded`) says that the manager is linked and that a session matches
the request for which its secret was handed out. `registrySimulation` says the same one level up:
such a run is a run of the abstract registry, in which a secret stands for one session until its
expiry, and the id is only how the manager stores that.

The run that breaks it without the condition is built by induction on the id (`Climbed`): the first
session stays, and of those after it each is closed when the next has been started, so the ids climb
to `65535` and then wrap to that of the first.
-/

namespace Foxtrot

open LeaseBook SessionManager

/-- A session manager with the record of the secrets it has returned, each with its request. -/
structure SessionHistory where
  mgr : SessionManager
  issued : List (Sessionid × StartCall)
  deriving DecidableEq

/-- The secret that a call returns, with the request it is for. -/
def SessionManager.issues (sm : SessionManager) : SessionCall → List (Sessionid × StartCall)
  | .start call now chk secret =>
    match sm.startSession call now chk secret with
    | .ok (_, σ, _) => [(σ, call)]
    | .error _ => []
  | _ => []

/-- One call after the other, from a new manager. -/
def historySystem (ord : SecretOrder) (sessionLength : Int) :
    TransitionSystem SessionHistory SessionCall where
  init := ⟨.new sessionLength, []⟩
  step s c := (s.mgr.settle (s.mgr.perform ord c)).map fun mgr =>
    ⟨mgr, s.issued ++ s.mgr.issues c⟩

/-- An accepted start draws a secret that was never returned before. -/
def SessionHistory.DistinctSecret (s : SessionHistory) : SessionCall → Prop
  | .start call _ chk secret => s.mgr.Accepts call chk → secret ∉ s.issued.map Prod.fst
  | _ => True

instance SessionHistory.DistinctSecret.decidable (s : SessionHistory) :
    ∀ c, Decidable (s.DistinctSecret c)
  | .start call _ chk _ => inferInstanceAs (Decidable (s.mgr.Accepts call chk → _))
  | .renew _ _ _ | .close _ | .update _ => inferInstanceAs (Decidable True)

variable {ord : SecretOrder} {len : Int} {s s' : SessionHistory} {c : SessionCall}

private theorem issues_start {sm : SessionManager} {call : StartCall} {now chk : Int}
    {secret : Sessionid} : sm.issues (.start call now chk secret) =
      if sm.Accepts call chk then [(secret, call)] else [] := by
  rw [issues]
  split_ifs with hacc
  · rw [startSession_eq_ok_iff_accepts.mpr ⟨hacc, rfl⟩]
  · rcases hstart : sm.startSession call now chk secret with e | r
    · rfl
    · exact absurd (startSession_eq_ok_iff_accepts.mp hstart).1 hacc

/-- A call is rejected and changes nothing, or it goes through and its secret is recorded. -/
theorem historyStep_cases (h : (historySystem ord len).step s c = some s') :
    s' = s ∨ (s.mgr.perform ord c = .ok s'.mgr ∧ s'.issued = s.issued ++ s.mgr.issues c) := by
  obtain ⟨m, hm, rfl⟩ := Option.map_eq_some_iff.mp h
  rcases settle_cases hm with ⟨e, he, rfl⟩ | hok
  · have hnone : s.mgr.issues c = [] := by
      rcases c with ⟨call, now, chk, secret⟩ | ⟨secret, req, now⟩ | secret | now
      · rw [issues_start, if_neg]
        intro hacc
        rw [perform, startSession_eq_ok_iff_accepts.mpr ⟨hacc, rfl⟩] at he
        cases he
      all_goals rfl
    rw [hnone, List.append_nil]
    exact .inl rfl
  · exact .inr ⟨hok, rfl⟩

/-! ### Secrets identify sessions -/

/-- The session has what its request asked for. -/
structure FtSessionInfo.Matches (ses : FtSessionInfo) (call : StartCall) : Prop where
  user : ses.userIdentifier = call.username
  comment : ses.comment = call.comment
  devices : ses.devices = call.devicesRequested.getD []
  flags : ses.flags = call.flagsRequested.getD []

/-- **The secrets identify the sessions**: the id map is a bijection between the live secrets
and the keys of the session map, every session carries the id it is stored under, and a live
secret leads to the session it was returned for. -/
structure SessionHistory.SecretsIdentify (s : SessionHistory) : Prop where
  live_of_secret : ∀ σ id, s.mgr.sessionidmap.lookup σ = some id → id ∈ s.mgr.sessionmap
  existsUnique_secret : ∀ id ∈ s.mgr.sessionmap, ∃! σ, s.mgr.sessionidmap.lookup σ = some id
  key_eq : ∀ id ses, s.mgr.sessionmap.lookup id = some ses → ses.internalSessionId = id
  info : ∀ σ call, (σ, call) ∈ s.issued → σ ∈ s.mgr.sessionidmap →
    ∃ ses, s.mgr.getSessionInfo σ = .ok ses ∧ ses.Matches call

/-- Every live secret of `sm` leads to the same id and the same session in `sm'`. -/
def SessionManager.Spares (sm sm' : SessionManager) : Prop :=
  ∀ σ id ses, sm.sessionidmap.lookup σ = some id → sm.sessionmap.lookup id = some ses →
    sm'.sessionidmap.lookup σ = some id ∧ sm'.sessionmap.lookup id = some ses

/-- The conditions on a call: its secret is new and its id available. -/
def SessionHistory.Sound (s : SessionHistory) (c : SessionCall) : Prop :=
  s.DistinctSecret c ∧ s.mgr.IdAvailable c

instance SessionHistory.Sound.decidable (s : SessionHistory) (c : SessionCall) :
    Decidable (s.Sound c) :=
  inferInstanceAs (Decidable (_ ∧ _))

/-- The invariant of the runs: the manager is linked, every secret in use is recorded, and
sessions match the requests recorded for their secrets. -/
structure SessionHistory.Recorded (s : SessionHistory) : Prop where
  linked : s.mgr.Linked
  secret_recorded : ∀ σ ∈ s.mgr.sessionidmap, σ ∈ s.issued.map Prod.fst
  info : ∀ σ call ses, (σ, call) ∈ s.issued → s.mgr.sessionOf σ = some ses → ses.Matches call

private theorem SessionHistory.Recorded.secretFree (hrec : s.Recorded) (hnew : s.DistinctSecret c) :
    s.mgr.SecretFree c := by
  rcases c with ⟨call, now, chk, secret⟩ | ⟨secret, req, now⟩ | secret | now
  · exact fun hacc hmem => hnew hacc (hrec.secret_recorded secret hmem)
  all_goals trivial

/-- The secrets in use after a call were in use before or are returned by it. -/
theorem secret_of_perform {sm sm' : SessionManager} (h : sm.perform ord c = .ok sm')
    {σ : Sessionid} (hσ : σ ∈ sm'.sessionidmap) :
    σ ∈ sm.sessionidmap ∨ σ ∈ (sm.issues c).map Prod.fst := by
  obtain ⟨id, hid⟩ := AList.mem_iff_exists_lookup.mp hσ
  rcases perform_cases h with rfl | ⟨call, now, chk, secret, rfl, hacc, rfl⟩ |
    ⟨_, req, now, i, ses, rfl, -, -, -, rfl⟩ | ⟨_, i, rfl, -, hrem⟩ | ⟨now, rfl, hrem⟩
  · exact .inl hσ
  · rw [lookup_sessionidmap_commit] at hid
    split_ifs at hid with hsec
    · exact .inr (by rw [issues_start, if_pos hacc]; simp [hsec])
    · exact .inl (AList.mem_of_lookup hid)
  · exact .inl hσ
  · exact .inl (AList.mem_of_lookup (hrem.secret_sub σ id hid))
  · exact .inl (AList.mem_of_lookup (hrem.secret_sub σ id hid))

/-- A session after a call matches the same requests as before, unless the call started it. -/
theorem matches_of_perform {sm sm' : SessionManager} (hlinked : sm.Linked)
    (hid : sm.IdAvailable c) (hsec : sm.SecretFree c) (h : sm.perform ord c = .ok sm')
    {σ : Sessionid} {ses : FtSessionInfo} (hses : sm'.sessionOf σ = some ses) :
    (∃ old, sm.sessionOf σ = some old ∧ ∀ call, old.Matches call → ses.Matches call) ∨
      ∃ call now chk, c = .start call now chk σ ∧ sm.Accepts call chk ∧ ses.Matches call := by
  rcases perform_cases h with rfl | ⟨call, now, chk, secret, rfl, hacc, rfl⟩ |
    ⟨secret, req, now, id, old, rfl, hσ, hs, -, rfl⟩ | ⟨_, i, rfl, -, hrem⟩ | ⟨now, rfl, hrem⟩
  · exact .inl ⟨ses, hses, fun _ hm => hm⟩
  · rw [hlinked.sessionOf_commit (issuedSessionId_notMem_iff.mpr (hid hacc))] at hses
    by_cases heq : σ = secret
    · subst heq
      rw [Function.update_self] at hses
      obtain rfl := Option.some.inj hses
      exact .inr ⟨call, now, chk, rfl, hacc, ⟨rfl, rfl, rfl, rfl⟩⟩
    · rw [Function.update_of_ne heq] at hses
      exact .inl ⟨ses, hses, fun _ hm => hm⟩
  · rw [hlinked.sessionOf_withExpiry hs hσ] at hses
    by_cases heq : σ = secret
    · -- renewed: only the expiry is new
      subst heq
      rw [Function.update_self] at hses
      obtain rfl := Option.some.inj hses
      exact .inl ⟨old, sessionOf_eq_some_iff.mpr ⟨id, hσ, hs⟩,
        fun _ hm => ⟨hm.user, hm.comment, hm.devices, hm.flags⟩⟩
    · rw [Function.update_of_ne heq] at hses
      exact .inl ⟨ses, hses, fun _ hm => hm⟩
  · exact .inl ⟨ses, ((hlinked.sessionOf_removed hrem).mp hses).1, fun _ hm => hm⟩
  · exact .inl ⟨ses, ((hlinked.sessionOf_removed hrem).mp hses).1, fun _ hm => hm⟩

/-- What a call returns is new, and no request is recorded for a new secret but its own. -/
private theorem mem_issues {sm : SessionManager} {σ : Sessionid} {call : StartCall}
    (h : (σ, call) ∈ sm.issues c) : ∃ now chk, c = .start call now chk σ ∧ sm.Accepts call chk := by
  rcases c with ⟨call', now, chk, secret⟩ | ⟨secret, req, now⟩ | secret | now
  · rw [issues_start] at h
    split_ifs at h with hacc
    · obtain ⟨rfl, rfl⟩ := Prod.mk.inj (List.mem_singleton.mp h)
      exact ⟨now, chk, rfl, hacc⟩
    · exact absurd h List.not_mem_nil
  all_goals exact absurd h List.not_mem_nil

/-- A sound call keeps the invariant. -/
theorem SessionHistory.Recorded.step (hrec : s.Recorded) (hc : s.Sound c)
    (h : (historySystem ord len).step s c = some s') : s'.Recorded := by
  rcases historyStep_cases h with rfl | ⟨hperf, hissued⟩
  · exact hrec
  have hfree := hrec.secretFree hc.1
  refine ⟨hrec.linked.perform hc.2 hfree hperf, ?_, ?_⟩
  · intro σ hσ
    rw [hissued, List.map_append, List.mem_append]
    exact (secret_of_perform hperf hσ).imp (hrec.secret_recorded σ) fun h => h
  · intro σ call ses hmem hses
    rw [hissued, List.mem_append] at hmem
    rcases matches_of_perform hrec.linked hc.2 hfree hperf hses with
      ⟨old, hold, hkeep⟩ | ⟨call', now, chk, rfl, hacc, hm⟩
    · rcases hmem with hmem | hmem
      · exact hkeep call (hrec.info σ call old hmem hold)
      · -- the secret the call returns was not in use before
        obtain ⟨now, chk, rfl, hacc⟩ := mem_issues hmem
        rw [hrec.linked.sessionOf_eq_none_iff.mpr (hfree hacc)] at hold
        cases hold
    · rcases hmem with hmem | hmem
      · -- a secret recorded before is not drawn again
        exact absurd (List.mem_map_of_mem hmem) (hc.1 hacc)
      · obtain ⟨_, _, heq, _⟩ := mem_issues hmem
        cases heq
        exact hm

private theorem recorded_of_sound
    (h : (historySystem ord len).ReachableWhile SessionHistory.Sound s) :
    s.Recorded := by
  refine h.invariant (P := SessionHistory.Recorded) ?_ fun s c s' _ hrec hc hstep =>
    hrec.step hc hstep
  refine ⟨linked_new len, ?_, ?_⟩
  · intro σ hσ
    exact absurd hσ (AList.notMem_empty σ)
  · intro σ call ses hmem
    exact absurd hmem List.not_mem_nil

/-- Where the sessions are recorded, the secrets identify them. -/
private theorem SessionHistory.Recorded.secretsIdentify (hrec : s.Recorded) :
    s.SecretsIdentify where
  live_of_secret := hrec.linked.live_of_secret
  existsUnique_secret id hid := by
    obtain ⟨σ, hσ⟩ := hrec.linked.secret_of_live id hid
    exact ⟨σ, hσ, fun σ' hσ' => hrec.linked.secret_unique σ' σ id hσ' hσ⟩
  key_eq := hrec.linked.key_eq
  info σ call hmem hσ := by
    obtain ⟨ses, hses⟩ : ∃ ses, s.mgr.sessionOf σ = some ses := by
      rw [← Option.ne_none_iff_exists']
      exact fun hnone => hrec.linked.sessionOf_eq_none_iff.mp hnone hσ
    exact ⟨ses, getSessionInfo_eq_ok_iff_sessionOf.mpr hses, hrec.info σ call ses hmem hses⟩

/-- A start whose id is available and whose secret is new spares every live session. -/
theorem spares_of_start {sm sm' : SessionManager} (hlinked : sm.Linked) {call : StartCall}
    {now chk : Int} {secret : Sessionid} (hid : sm.IdAvailable (.start call now chk secret))
    (hsec : sm.SecretFree (.start call now chk secret))
    (h : sm.perform ord (.start call now chk secret) = .ok sm') : sm.Spares sm' := by
  rcases perform_cases h with rfl | ⟨_, _, _, _, heq, hacc, rfl⟩ | ⟨_, _, _, _, _, heq, -⟩ |
    ⟨_, _, heq, -⟩ | ⟨_, heq, -⟩
  · exact fun _ _ _ hσ hs => ⟨hσ, hs⟩
  · cases heq
    intro σ id ses hσ hs
    have hσne : σ ≠ secret := fun heq => hsec hacc (heq ▸ AList.mem_of_lookup hσ)
    have hidne : id ≠ sm.issuedSessionId := fun heq =>
      issuedSessionId_notMem_iff.mpr (hid hacc) (heq ▸ AList.mem_of_lookup hs)
    rw [lookup_sessionidmap_commit, if_neg hσne, lookup_sessionmap_commit, if_neg hidne]
    exact ⟨hσ, hs⟩
  all_goals cases heq

/-- **Secrets identify sessions for life**, and starting a session never overwrites or retargets
a live one, in every run whose starts draw new secrets and are not made while the ids `65535`
and `0` are both live. -/
theorem secrets_identify (h : (historySystem ord len).ReachableWhile SessionHistory.Sound s) :
    s.SecretsIdentify ∧
      ∀ call now chk secret s', s.Sound (.start call now chk secret) →
        (historySystem ord len).step s (.start call now chk secret) = some s' →
        s.mgr.Spares s'.mgr := by
  have hrec := recorded_of_sound h
  refine ⟨hrec.secretsIdentify, fun call now chk secret s' hc hstep => ?_⟩
  rcases historyStep_cases hstep with rfl | ⟨hperf, -⟩
  · exact fun _ _ _ hσ hs => ⟨hσ, hs⟩
  · exact spares_of_start hrec.linked hc.2 (hrec.secretFree hc.1) hperf

/-- The registry of leases: secrets stand for sessions until their expiry. -/
noncomputable def registry :
    TransitionSystem (Book Sessionid FtSessionInfo) (Event Sessionid FtSessionInfo Int) :=
  LeaseBook.system FtSessionInfo.expiry

/-- **Runs of sound calls refine the registry of leases**: each call is an enabled event of the
book of leases, or is not seen there. -/
def registrySimulation (ord : SecretOrder) (len : Int) :
    TransitionSystem.Simulation (historySystem ord len) SessionHistory.Sound
      registry (fun _ _ => True) where
  abs s := s.mgr.sessionOf
  abs_init := funext fun _ => rfl
  abs_step s c s' hreach hc hstep := by
    have hrec := recorded_of_sound hreach
    rcases historyStep_cases hstep with rfl | ⟨hperf, -⟩
    · exact .inl rfl
    rcases hrec.linked.perform_event hc.2 (hrec.secretFree hc.1) hperf with
      heq | ⟨ev, -, hen, happly⟩
    · exact .inl (by rw [heq])
    · exact .inr ⟨ev, trivial, (system_step hen).trans (congrArg some happly.symm)⟩

/-- A request for no item, which nothing can refuse. -/
def plainCall : StartCall := ⟨"user", "", none, none, none⟩

private theorem accepts_plainCall (sm : SessionManager) (chk : Int) : sm.Accepts plainCall chk :=
  ⟨⟨rfl, rfl⟩, rfl⟩

/-- Three calls that overlap: the second session outlives the first, the third call is refused. -/
def overlapTrace : List SessionCall :=
  [.start ⟨"first", "", some [1, 1], none, none⟩ 0 0 (Vector.replicate 32 0),
   .start ⟨"second", "", some [2], some ["flag"], none⟩ 10 10 (Vector.replicate 32 1),
   .update 101,
   .start ⟨"third", "", some [2], none, none⟩ 101 101 (Vector.replicate 32 2)]

theorem secrets_identify_overlapTrace :
    ∃ s s', (historySystem .entries 100).run ⟨.new 100, []⟩ overlapTrace = some s ∧
      (historySystem .entries 100).step s (.start plainCall 101 101 (Vector.replicate 32 3)) =
        some s' ∧ s'.mgr.sessionmap.keys = [2, 1] ∧ s.SecretsIdentify ∧ s.mgr.Spares s'.mgr := by
  have hrun : ((historySystem .entries 100).run ⟨.new 100, []⟩ overlapTrace).bind (fun s =>
      ((historySystem .entries 100).step s (.start plainCall 101 101 (Vector.replicate 32 3))).map
        fun s' => (decide (s.Sound (.start plainCall 101 101 (Vector.replicate 32 3))),
          s'.mgr.sessionmap.keys)) = some (true, [2, 1]) := by decide
  obtain ⟨s, hs, hstart⟩ := Option.bind_eq_some_iff.mp hrun
  obtain ⟨s', hs', hfacts⟩ := Option.map_eq_some_iff.mp hstart
  obtain ⟨hc, hkeys⟩ := Prod.mk.inj hfacts
  have hreach : (historySystem .entries 100).ReachableWhile SessionHistory.Sound s :=
    TransitionSystem.ReachableWhile.init.run (by decide) hs
  obtain ⟨hident, hspares⟩ := secrets_identify hreach
  exact ⟨s, s', hs, hs', hkeys, hident, hspares _ _ _ _ _ (of_decide_eq_true hc) hs'⟩

/-! ### The 16-bit wrap -/

section Wrap

/-- The secret number `n`. -/
def secretOf (n : ℕ) : Sessionid :=
  Vector.ofFn fun i => UInt8.ofNat (n / 256 ^ i.val)

private theorem secretOf_inj {m n : ℕ} (hm : m < 2 ^ 24) (hn : n < 2 ^ 24)
    (h : secretOf m = secretOf n) : m = n := by
  have hbyte : ∀ i : Fin 32, m / 256 ^ i.val % 256 = n / 256 ^ i.val % 256 := by
    intro i
    have hi := congrArg (fun v : Sessionid => v[i.val].toNat) h
    simpa [secretOf] using hi
  have h₀ := hbyte 0
  have h₁ := hbyte 1
  have h₂ := hbyte 2
  simp at h₀ h₁ h₂
  omega

private theorem secretOf_ne_succ {j n : ℕ} (hn : n ≤ 65535) (hj : j ≤ n) :
    secretOf j ≠ secretOf (n + 1) := by
  intro heq
  have hlt := secretOf_inj (by omega) (by omega) heq
  omega

/-- The history after the next session was started, with secret number `n`. -/
def SessionHistory.next (s : SessionHistory) (n : ℕ) : SessionHistory where
  mgr := s.mgr.commitSession plainCall 0 (secretOf n)
  issued := s.issued ++ [(secretOf n, plainCall)]

private theorem SessionHistory.lookup_next (s : SessionHistory) {n j : ℕ} (hn : n < 65535)
    (hj : j ≤ n) :
    (s.next (n + 1)).mgr.sessionidmap.lookup (secretOf j) =
      s.mgr.sessionidmap.lookup (secretOf j) := by
  rw [next, lookup_sessionidmap_commit, if_neg (secretOf_ne_succ hn.le hj)]

private theorem step_start (s : SessionHistory) (n : ℕ) :
    (historySystem ord len).step s (.start plainCall 0 0 (secretOf n)) = some (s.next n) := by
  have hok : s.mgr.perform ord (.start plainCall 0 0 (secretOf n)) =
      .ok (s.mgr.commitSession plainCall 0 (secretOf n)) := by
    rw [perform, startSession_eq_ok_iff_accepts.mpr ⟨accepts_plainCall _ _, rfl⟩]
    rfl
  simp only [historySystem, hok, settle, Option.map_some, issues_start,
    if_pos (accepts_plainCall _ _), SessionHistory.next]

/-- Closing a live session. -/
theorem step_close {σ : Sessionid} {id : UInt16} (hσ : s.mgr.sessionidmap.lookup σ = some id)
    (hid : id ∈ s.mgr.sessionmap) : ∃ s', (historySystem ord len).step s (.close σ) = some s' ∧
      Removed s.mgr s'.mgr {id} ∧ s'.issued = s.issued := by
  obtain ⟨ses, hs⟩ := AList.mem_iff_exists_lookup.mp hid
  obtain ⟨sm', hrem⟩ : ∃ sm', s.mgr.removeSession ord id = .ok sm' := exists_removeSession hs hσ
  have hok : s.mgr.perform ord (.close σ) = .ok sm' := by
    rw [perform, closeSession, hσ]
    simp only [hrem]
    rfl
  refine ⟨⟨sm', s.issued⟩, ?_, removed_of_removeSession hrem, rfl⟩
  simp only [historySystem, hok, settle, Option.map_some, issues, List.append_nil]

/-- The first session is still live, and of those started after it only the last one, which has
climbed to id `n`. -/
structure Climbed (s : SessionHistory) (n : ℕ) : Prop where
  sound : (historySystem .entries 100).ReachableWhile SessionHistory.Sound s
  live : ∀ id, id ∈ s.mgr.sessionmap ↔ id = 0 ∨ id = UInt16.ofNat n
  first : s.mgr.sessionidmap.lookup (secretOf 0) = some 0
  last : s.mgr.sessionidmap.lookup (secretOf n) = some (UInt16.ofNat n)
  issued : ∀ σ ∈ s.issued.map Prod.fst, ∃ j ≤ n, σ = secretOf j

namespace Climbed

variable {n : ℕ} (h : Climbed s n)
include h

/-- The next id is one past the last. -/
theorem issuedSessionId : s.mgr.issuedSessionId = UInt16.ofNat n + 1 := by
  refine issuedSessionId_eq ((h.live _).mpr (.inr rfl)) fun id hid => ?_
  rcases (h.live id).mp hid with rfl | rfl
  · exact UInt16.zero_le
  · exact UInt16.le_refl _

private theorem distinctSecret (hn : n ≤ 65535) :
    s.DistinctSecret (.start plainCall 0 0 (secretOf (n + 1))) := by
  intro _ hmem
  obtain ⟨j, hj, heq⟩ := h.issued _ hmem
  exact secretOf_ne_succ hn hj heq.symm

section Next

variable (hn : n < 65535)
include hn

private theorem next_sound :
    (historySystem .entries 100).ReachableWhile SessionHistory.Sound (s.next (n + 1)) := by
  refine .step h.sound ⟨h.distinctSecret hn.le, fun _ htop => ?_⟩ (step_start s _)
  -- the top id is not in use yet
  rcases (h.live _).mp htop with heq | heq
  · cases heq
  · have hval := congrArg UInt16.toNat heq
    simp at hval
    omega

omit hn in
private theorem mem_next (id : UInt16) : id ∈ (s.next (n + 1)).mgr.sessionmap ↔
    id = 0 ∨ id = UInt16.ofNat n ∨ id = UInt16.ofNat (n + 1) := by
  rw [← AList.lookup_isSome, SessionHistory.next, lookup_sessionmap_commit, h.issuedSessionId,
    ← UInt16.ofNat_one, ← UInt16.ofNat_add, ← or_assoc, ← h.live]
  split_ifs with hid
  · simp [hid]
  · rw [AList.lookup_isSome, or_iff_left hid]

omit hn in
private theorem lookup_next_last : (s.next (n + 1)).mgr.sessionidmap.lookup (secretOf (n + 1)) =
    some (UInt16.ofNat (n + 1)) := by
  rw [SessionHistory.next, lookup_sessionidmap_commit, if_pos rfl, h.issuedSessionId,
    UInt16.ofNat_add, UInt16.ofNat_one]

omit hn in
private theorem next_issued :
    ∀ σ ∈ (s.next (n + 1)).issued.map Prod.fst, ∃ j ≤ n + 1, σ = secretOf j := by
  intro σ hσ
  rw [SessionHistory.next, List.map_append, List.mem_append] at hσ
  rcases hσ with hσ | hσ
  · obtain ⟨j, hj, rfl⟩ := h.issued σ hσ
    exact ⟨j, by omega, rfl⟩
  · exact ⟨n + 1, le_rfl, List.mem_singleton.mp hσ⟩

/-- One more session is started and, from the second on, its predecessor closed. -/
theorem succ (hpos : 0 < n) : ∃ s', Climbed s' (n + 1) := by
  have hne : (0 : UInt16) ≠ UInt16.ofNat n ∧ UInt16.ofNat (n + 1) ≠ UInt16.ofNat n := by
    constructor <;> intro heq <;> have hval := congrArg UInt16.toNat heq <;>
      simp at hval <;> omega
  obtain ⟨s', hstep, hrem, hissued⟩ : ∃ s', (historySystem .entries 100).step (s.next (n + 1))
      (.close (secretOf n)) = some s' ∧ Removed (s.next (n + 1)).mgr s'.mgr {UInt16.ofNat n} ∧
      s'.issued = (s.next (n + 1)).issued :=
    step_close ((s.lookup_next hn le_rfl).trans h.last) ((h.mem_next _).mpr (.inr (.inl rfl)))
  have hsound : (s.next (n + 1)).Sound (.close (secretOf n)) := ⟨trivial, trivial⟩
  refine ⟨s', .step (h.next_sound hn) hsound hstep, fun id => ?_, ?_, ?_, ?_⟩
  · by_cases hid : id = UInt16.ofNat n
    · rw [← AList.lookup_isSome, hrem.lookup_of_mem id hid]
      subst hid
      simp [hne.1.symm]
    · rw [← AList.lookup_isSome, hrem.lookup_of_notMem id hid, AList.lookup_isSome, h.mem_next]
      simp [hid]
  · exact hrem.secret_keep _ _ ((s.lookup_next hn (Nat.zero_le n)).trans h.first) hne.1
  · exact hrem.secret_keep _ _ h.lookup_next_last hne.2
  · rw [hissued]
    exact h.next_issued

end Next

end Climbed

/-- The first session, on a new manager. -/
private theorem climbed_zero :
    Climbed (SessionHistory.next ⟨.new 100, []⟩ 0) 0 := by
  have hnew : ∀ id, (SessionManager.new 100).sessionmap.lookup id = none := fun _ => rfl
  refine ⟨.step .init (by decide) (step_start _ 0), fun id => ?_, ?_, ?_, ?_⟩
  · rw [← AList.lookup_isSome, SessionHistory.next, lookup_sessionmap_commit, hnew]
    split_ifs with hid
    · exact iff_of_true rfl (.inl hid)
    · exact iff_of_false (by simp) (by rintro (h | h) <;> exact hid h)
  · rw [SessionHistory.next, lookup_sessionidmap_commit, if_pos rfl]
    rfl
  · rw [SessionHistory.next, lookup_sessionidmap_commit, if_pos rfl]
    rfl
  · intro σ hσ
    exact ⟨0, le_rfl, List.mem_singleton.mp hσ⟩

/-- The second session, while the first is live. -/
private theorem climbed_one : ∃ s, Climbed s 1 := by
  have h := climbed_zero
  refine ⟨_, h.next_sound (by decide), fun id => ?_, ?_, h.lookup_next_last, h.next_issued⟩
  · rw [h.mem_next]
    have hzero : UInt16.ofNat 0 = 0 := rfl
    rw [hzero, or_iff_right_of_imp (a := id = 0) .inl]
  · exact (SessionHistory.lookup_next _ (by decide) le_rfl).trans h.first

private theorem exists_climbed {n : ℕ} (hpos : 1 ≤ n) (hle : n ≤ 65535) : ∃ s, Climbed s n := by
  induction n, hpos using Nat.le_induction with
  | base => exact climbed_one
  | succ n hpos ih =>
    obtain ⟨s, hs⟩ := ih (by omega)
    exact hs.succ (by omega) hpos

/-- **A start can overwrite a live session**: after `65535` overlapping sessions the next one is
stored under the id of the first, and both secrets lead to it. -/
theorem secrets_identify_wrap : ∃ s,
    (historySystem .entries 100).ReachableWhile SessionHistory.DistinctSecret s ∧
      ¬ s.SecretsIdentify := by
  obtain ⟨s, hs⟩ := exists_climbed (n := 65535) (by decide) le_rfl
  have hissued : s.mgr.issuedSessionId = 0 := hs.issuedSessionId
  refine ⟨_, .step (hs.sound.mono fun _ _ _ hc => hc.1) (hs.distinctSecret le_rfl)
    (step_start s _), fun hident => ?_⟩
  have hlast : (s.mgr.commitSession plainCall 0 (secretOf 65536)).sessionidmap.lookup
      (secretOf 65536) = some 0 := by
    rw [lookup_sessionidmap_commit, if_pos rfl, hissued]
  have hfirst : (s.mgr.commitSession plainCall 0 (secretOf 65536)).sessionidmap.lookup
      (secretOf 0) = some 0 := by
    rw [lookup_sessionidmap_commit, hissued, hs.first, ite_self]
  have hmem := hident.live_of_secret _ _ hlast
  have heq := (hident.existsUnique_secret 0 hmem).unique hfirst hlast
  have hzero : 0 = 65536 := secretOf_inj (by decide) (by decide) heq
  cases hzero

end Wrap

end Foxtrot
