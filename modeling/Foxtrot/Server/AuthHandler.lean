import Foxtrot.Foundation.FiniteMap
import Foxtrot.Foundation.Trace
import Foxtrot.Server.Handler

/-!
# Challenges and responses

`AuthHandler` (`server/src/AuthHandler.cpp`) hands out challenges and verifies the signatures of
users on them. The challenges that are out stand in a map from their id, and their ids in a queue,
oldest first, so that the oldest can make room when there are too many.

Random bytes come from `libsodium`, as does the verification of a signature: the bytes are part of
a call, the verification is a parameter. The calls run one after another. A call that has
undefined behaviour, as erasing at the end of a map, has no successor.
-/

namespace Foxtrot

/-- `MAX_CHALLENGES`. -/
def maxChallenges : ℕ := 4096

/-- What is known of a user: named public keys and the authorisation level. -/
structure Credentials (Key : Type*) where
  keys : List (String × Key)
  authlevel : Int

/-- `credentialsmap`. -/
abbrev CredentialsMap (Key : Type*) := AList fun _ : String => Credentials Key

/-- `login_info`. -/
structure LoginInfo where
  userid : String
  authlevel : Int
  expiry : Int
  deriving DecidableEq

/-- `AuthHandler`. -/
structure AuthHandler (Challenge Key SessionKey : Type*) where
  creds : CredentialsMap Key
  challenges : AList fun _ : UInt32 => String × Challenge
  sessionkeys : AList fun _ : SessionKey => LoginInfo
  challengeOrder : List UInt32
  validHours : Int

/-- What `verify_response` returns, with what it writes to its arguments. -/
structure Verdict (SessionKey : Type*) where
  verified : Bool
  authlevel : Int
  /-- The expiry date and the session key, which are written on success only. -/
  login : Option (Int × SessionKey)
  deriving DecidableEq

namespace AuthHandler

variable {Challenge Key SessionKey Signature : Type*}

/-- A handler with no challenges out. -/
def new (creds : CredentialsMap Key) (validHours : Int) :
    AuthHandler Challenge Key SessionKey :=
  ⟨creds, ∅, ∅, [], validHours⟩

/-- Erase the challenge at the front of the queue. Its id has to be in the map. -/
def evict (s : AuthHandler Challenge Key SessionKey) :
    Option (AuthHandler Challenge Key SessionKey) :=
  match s.challengeOrder with
  | [] => none
  | removeId :: order =>
    if removeId ∈ s.challenges then
      some { s with challenges := s.challenges.erase removeId, challengeOrder := order }
    else none

/-- The challenge that goes where there is no room for another. -/
def makeRoom (s : AuthHandler Challenge Key SessionKey) :
    Option (AuthHandler Challenge Key SessionKey) :=
  if s.challenges.entries.length = maxChallenges then s.evict else some s

/-- `_challenges.insert` and `_challenge_order.push_back`. -/
def addChallenge (s : AuthHandler Challenge Key SessionKey) (userid : String) (bytes : Challenge)
    (challengeid : UInt32) : AuthHandler Challenge Key SessionKey :=
  { s with
    challenges := s.challenges.insertNew challengeid (userid, bytes)
    challengeOrder := s.challengeOrder ++ [challengeid] }

/-- `get_challenge_binary`. The bytes and the id are random. -/
def getChallengeBinary (s : AuthHandler Challenge Key SessionKey) (userid : String)
    (bytes : Challenge) (challengeid : UInt32) :
    Option (AuthHandler Challenge Key SessionKey × Except Thrown (Challenge × UInt32)) :=
  if userid ∈ s.creds then
    s.makeRoom.map fun s => (s.addChallenge userid bytes challengeid, .ok (bytes, challengeid))
  else some (s, .error (.outOfRange "invalid userid"))

/-- What `verify_response` does with the challenge it has found: it is erased, and the front of the
queue is popped. -/
def takeChallenge (s : AuthHandler Challenge Key SessionKey) (challengeId : UInt32) :
    Option (AuthHandler Challenge Key SessionKey) :=
  match s.challengeOrder with
  | [] => none
  | _ :: order =>
    some { s with challenges := s.challenges.erase challengeId, challengeOrder := order }

variable [DecidableEq SessionKey]

/-- A login that has been verified. `now` is the local time, in seconds. -/
def addLogin (s : AuthHandler Challenge Key SessionKey) (userid : String) (authlevel : Int)
    (sessionkey : SessionKey) (now : Int) :
    AuthHandler Challenge Key SessionKey × Except Thrown (Verdict SessionKey) :=
  let expiry := now + s.validHours * 3600
  ({ s with sessionkeys := s.sessionkeys.insertNew sessionkey ⟨userid, authlevel, expiry⟩ },
    .ok ⟨true, authlevel, some (expiry, sessionkey)⟩)

/-- `verify_response`. The session key is random, and drawn on success only. -/
def verifyResponse (verify : Signature → Challenge → Key → Bool)
    (s : AuthHandler Challenge Key SessionKey) (userid : String) (challengeId : UInt32)
    (sig : Signature) (sessionkey : SessionKey) (now : Int) :
    Option (AuthHandler Challenge Key SessionKey × Except Thrown (Verdict SessionKey)) :=
  match s.creds.lookup userid with
  | none => some (s, .error (.outOfRange "invalid userid"))
  | some credit =>
    match s.challenges.lookup challengeId with
    | none => some (s, .error (.outOfRange "invalid challenge id"))
    | some (origuserid, origchallenge) =>
      (s.takeChallenge challengeId).map fun s =>
        if userid ≠ origuserid then (s, .error (.exception "mismatched user id!"))
        else
          match credit.keys.find? fun key => verify sig origchallenge key.2 with
          | some _ => s.addLogin userid credit.authlevel sessionkey now
          | none => (s, .ok ⟨false, credit.authlevel, none⟩)

/-! ### What the calls do -/

variable {verify : Signature → Challenge → Key → Bool}
  {s s₁ s' : AuthHandler Challenge Key SessionKey} {userid : String} {challengeId : UInt32}
  {sig : Signature} {sessionkey : SessionKey} {now : Int} {bytes : Challenge}

omit [DecidableEq SessionKey] in
/-- An eviction erases the front of the queue. -/
theorem evict_eq_some_iff : s.evict = some s₁ ↔ ∃ removeId order,
    s.challengeOrder = removeId :: order ∧ removeId ∈ s.challenges ∧
      s₁ = { s with challenges := s.challenges.erase removeId, challengeOrder := order } := by
  rw [evict]
  cases s.challengeOrder with
  | nil => simp
  | cons removeId order =>
    by_cases hmem : removeId ∈ s.challenges
    · simp [hmem, eq_comm]
    · simp [hmem]

omit [DecidableEq SessionKey] in
/-- There is room for a challenge, or the oldest one is evicted. -/
theorem makeRoom_cases (h : s.makeRoom = some s₁) :
    s.challenges.entries.length ≠ maxChallenges ∧ s₁ = s ∨
      s.challenges.entries.length = maxChallenges ∧ s.evict = some s₁ := by
  rw [makeRoom] at h
  split at h
  · exact .inr ⟨‹_›, h⟩
  · exact .inl ⟨‹_›, (Option.some.inj h).symm⟩

omit [DecidableEq SessionKey] in
/-- `get_challenge_binary` throws, or makes room and adds a challenge. -/
theorem getChallengeBinary_cases
    {r : AuthHandler Challenge Key SessionKey × Except Thrown (Challenge × UInt32)}
    (h : s.getChallengeBinary userid bytes challengeId = some r) :
    userid ∉ s.creds ∧ r = (s, .error (.outOfRange "invalid userid")) ∨
      userid ∈ s.creds ∧ ∃ s₁, s.makeRoom = some s₁ ∧
        r = (s₁.addChallenge userid bytes challengeId, .ok (bytes, challengeId)) := by
  rw [getChallengeBinary] at h
  split at h
  · obtain ⟨s₁, hroom, rfl⟩ := Option.map_eq_some_iff.mp h
    exact .inr ⟨‹_›, s₁, hroom, rfl⟩
  · exact .inl ⟨‹_›, (Option.some.inj h).symm⟩

omit [DecidableEq SessionKey] in
/-- What is found is erased, and the front of the queue is popped. -/
theorem takeChallenge_eq_some_iff : s.takeChallenge challengeId = some s₁ ↔ ∃ front order,
    s.challengeOrder = front :: order ∧
      s₁ = { s with challenges := s.challenges.erase challengeId, challengeOrder := order } := by
  rw [takeChallenge]
  cases s.challengeOrder with
  | nil => simp
  | cons front order => simp [eq_comm]

/-- How `verify_response` ends, once it has found the challenge. -/
inductive Verified (verify : Signature → Challenge → Key → Bool)
    (s₁ : AuthHandler Challenge Key SessionKey) (userid origuserid : String)
    (bytes : Challenge) (credit : Credentials Key) (sig : Signature) (sessionkey : SessionKey)
    (now : Int) : AuthHandler Challenge Key SessionKey × Except Thrown (Verdict SessionKey) → Prop
  | mismatch (h : userid ≠ origuserid) : Verified verify s₁ userid origuserid bytes credit sig
      sessionkey now (s₁, .error (.exception "mismatched user id!"))
  | failed (h : userid = origuserid) (hkeys : ∀ key ∈ credit.keys, ¬ verify sig bytes key.2) :
      Verified verify s₁ userid origuserid bytes credit sig sessionkey now
        (s₁, .ok ⟨false, credit.authlevel, none⟩)
  | login (h : userid = origuserid) (hkeys : ∃ key ∈ credit.keys, verify sig bytes key.2) :
      Verified verify s₁ userid origuserid bytes credit sig sessionkey now
        (s₁.addLogin userid credit.authlevel sessionkey now)

/-- `verify_response` throws at a look-up and changes nothing, or takes the challenge. -/
theorem verifyResponse_cases
    {r : AuthHandler Challenge Key SessionKey × Except Thrown (Verdict SessionKey)}
    (h : s.verifyResponse verify userid challengeId sig sessionkey now = some r) :
    (userid ∉ s.creds ∨ challengeId ∉ s.challenges) ∧ (∃ e, r = (s, .error e)) ∨
      ∃ credit origuserid bytes s₁, s.creds.lookup userid = some credit ∧
        s.challenges.lookup challengeId = some (origuserid, bytes) ∧
        s.takeChallenge challengeId = some s₁ ∧
        Verified verify s₁ userid origuserid bytes credit sig sessionkey now r := by
  rw [verifyResponse] at h
  cases hcred : s.creds.lookup userid with
  | none =>
    rw [hcred] at h
    exact .inl ⟨.inl (AList.lookup_eq_none.mp hcred), _, (Option.some.inj h).symm⟩
  | some credit =>
    rw [hcred] at h
    cases hch : s.challenges.lookup challengeId with
    | none =>
      rw [hch] at h
      exact .inl ⟨.inr (AList.lookup_eq_none.mp hch), _, (Option.some.inj h).symm⟩
    | some orig =>
      obtain ⟨origuserid, bytes⟩ := orig
      rw [hch] at h
      obtain ⟨s₁, htake, rfl⟩ := Option.map_eq_some_iff.mp h
      refine .inr ⟨credit, origuserid, bytes, s₁, rfl, rfl, htake, ?_⟩
      by_cases huser : userid = origuserid
      · rw [if_neg (not_not.mpr huser)]
        cases hfind : credit.keys.find? fun key => verify sig bytes key.2 with
        | none => exact .failed huser (List.find?_eq_none.mp hfind)
        | some key =>
          have hverify := List.find?_some hfind
          exact .login huser ⟨key, List.mem_of_find?_eq_some hfind, hverify⟩
      · rw [if_pos huser]
        exact .mismatch huser

/-- However it ends, the challenges are as after the look-up. -/
theorem Verified.challenges_eq {origuserid : String} {credit : Credentials Key}
    {r : AuthHandler Challenge Key SessionKey × Except Thrown (Verdict SessionKey)}
    (h : Verified verify s₁ userid origuserid bytes credit sig sessionkey now r) :
    r.1.challenges = s₁.challenges ∧ r.1.challengeOrder = s₁.challengeOrder ∧
      r.1.creds = s₁.creds := by
  cases h <;> exact ⟨rfl, rfl, rfl⟩

/-- With a known user and a challenge that is there `verify_response` takes it, if it can. -/
theorem verifyResponse_isSome (verify : Signature → Challenge → Key → Bool) (sig : Signature)
    (sessionkey : SessionKey) (now : Int) (huser : userid ∈ s.creds)
    (hid : challengeId ∈ s.challenges) (htake : s.takeChallenge challengeId = some s₁) :
    (s.verifyResponse verify userid challengeId sig sessionkey now).isSome := by
  obtain ⟨credit, hcred⟩ := AList.mem_iff_exists_lookup.mp huser
  obtain ⟨orig, hch⟩ := AList.mem_iff_exists_lookup.mp hid
  rw [verifyResponse, hcred, hch, htake]
  rfl

end AuthHandler

/-! ### Runs of calls -/

/-- A call, with the random bytes it draws. -/
inductive AuthCall (Challenge Signature SessionKey : Type*) where
  | getChallenge (userid : String) (bytes : Challenge) (challengeid : UInt32)
  | verifyResponse (userid : String) (challengeId : UInt32) (sig : Signature)
      (sessionkey : SessionKey) (now : Int)

/-- What a call returns or throws. -/
inductive AuthReply (Challenge SessionKey : Type*) where
  | challenge (bytes : Challenge) (challengeid : UInt32)
  | verdict (v : Verdict SessionKey)
  | thrown (e : Thrown)
  deriving DecidableEq

/-- The reply of `get_challenge_binary`. -/
def AuthReply.ofChallenge {Challenge SessionKey : Type*} :
    Except Thrown (Challenge × UInt32) → AuthReply Challenge SessionKey
  | .ok (bytes, challengeid) => .challenge bytes challengeid
  | .error e => .thrown e

/-- The reply of `verify_response`. -/
def AuthReply.ofVerdict {Challenge SessionKey : Type*} :
    Except Thrown (Verdict SessionKey) → AuthReply Challenge SessionKey
  | .ok v => .verdict v
  | .error e => .thrown e

/-- A challenge that is out. -/
structure OutstandingChallenge (Challenge : Type*) where
  id : UInt32
  userid : String
  bytes : Challenge
  deriving DecidableEq

/-- A handler, with what the last call has replied, and the challenges that **should** be out,
oldest first. -/
structure AuthRun (Challenge Key SessionKey : Type*) where
  handler : AuthHandler Challenge Key SessionKey
  reply : Option (AuthReply Challenge SessionKey)
  outstanding : List (OutstandingChallenge Challenge)

section Runs

variable {Challenge Key SessionKey Signature : Type*}

/-- The challenges that stay when another one comes: at the limit all but the oldest. -/
def remaining (outstanding : List (OutstandingChallenge Challenge)) :
    List (OutstandingChallenge Challenge) :=
  if outstanding.length = maxChallenges then outstanding.tail else outstanding

/-- The challenges that should be out after a call of a known user: a challenge is out until it is
the oldest at the limit, or a response to it is verified. -/
def nextOutstanding (outstanding : List (OutstandingChallenge Challenge)) :
    AuthCall Challenge Signature SessionKey → List (OutstandingChallenge Challenge)
  | .getChallenge userid bytes challengeid =>
    remaining outstanding ++ [⟨challengeid, userid, bytes⟩]
  | .verifyResponse _ challengeId _ _ _ => outstanding.filter (·.id ≠ challengeId)

/-- The user that a call names. -/
def AuthCall.userid : AuthCall Challenge Signature SessionKey → String
  | .getChallenge userid _ _ => userid
  | .verifyResponse userid _ _ _ _ => userid

variable [DecidableEq SessionKey] (verify : Signature → Challenge → Key → Bool)

/-- The handler after a call, with the reply. -/
def AuthHandler.call (s : AuthHandler Challenge Key SessionKey) :
    AuthCall Challenge Signature SessionKey →
      Option (AuthHandler Challenge Key SessionKey × AuthReply Challenge SessionKey)
  | .getChallenge userid bytes challengeid =>
    (s.getChallengeBinary userid bytes challengeid).map fun r => (r.1, .ofChallenge r.2)
  | .verifyResponse userid challengeId sig sessionkey now =>
    (s.verifyResponse verify userid challengeId sig sessionkey now).map fun r =>
      (r.1, .ofVerdict r.2)

/-- Calls of a new handler. -/
def authSystem (creds : CredentialsMap Key) (validHours : Int) :
    TransitionSystem (AuthRun Challenge Key SessionKey)
      (AuthCall Challenge Signature SessionKey) where
  init := ⟨.new creds validHours, none, []⟩
  step s l := (s.handler.call verify l).map fun r =>
    ⟨r.1, some r.2, if l.userid ∈ s.handler.creds then nextOutstanding s.outstanding l
      else s.outstanding⟩

end Runs

/-- Two users with a key each. -/
def twoUsers : CredentialsMap ℕ :=
  (AList.insert "bob" ⟨[("default", 20)], 2⟩ ∅).insert "alice" ⟨[("default", 10)], 1⟩

/-- Calls of theirs, where a signature is the sum of challenge and key. -/
def twoUsersSystem : TransitionSystem (AuthRun ℕ ℕ ℕ) (AuthCall ℕ ℕ ℕ) :=
  authSystem (fun sig challenge key => decide (sig = challenge + key)) twoUsers 8

end Foxtrot
