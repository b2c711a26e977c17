import Foxtrot.Server.AuthHandler

/-!
# A challenge authenticates its user once

A response is accepted only on a challenge that has been handed out to the same user and has since
neither been looked up by another response nor been evicted. That holds along every run, also where
the queue of the challenges has come out of step with the map: what counts is the map, an entry of
which is made by handing out the challenge only, and which every look-up erases.

The session key is random. That a login adds an entry to the session keys needs that it draws one
that is not in use (`DrawsNewKey`).

What a state says of the past is one fact: a challenge that is in the map has been handed out, and
since then neither looked up nor evicted. It is kept by a call of either kind, because the insertion
does not overwrite and the erase is by id. The rest of a response is a matter of one call
(`accepts_cases`): the user, the stored key and the signature are checked behind the look-up, and a
login is entered only if all of them are right.
-/

namespace Foxtrot

variable {Challenge Key SessionKey Signature : Type*}

/-- A move of a handler. -/
abbrev AuthMove (Challenge Key SessionKey Signature : Type*) :=
  TransitionSystem.Move (AuthRun Challenge Key SessionKey)
    (AuthCall Challenge Signature SessionKey)

/-- The challenge is handed out to the user. -/
def HandsOut (userid : String) (bytes : Challenge) (id : UInt32)
    (move : AuthMove Challenge Key SessionKey Signature) : Prop :=
  move.label = .getChallenge userid bytes id ∧ move.after.reply = some (.challenge bytes id)

/-- A response that names the challenge gets past the look-up. -/
def LooksUp (id : UInt32) (move : AuthMove Challenge Key SessionKey Signature) : Prop :=
  (∃ userid sig sessionkey now, move.label = .verifyResponse userid id sig sessionkey now) ∧
    move.label.userid ∈ move.before.handler.creds ∧ id ∈ move.before.handler.challenges

/-- The challenge makes room for another. -/
def Evicts (id : UInt32) (move : AuthMove Challenge Key SessionKey Signature) : Prop :=
  (∃ userid bytes id', move.label = .getChallenge userid bytes id') ∧
    move.label.userid ∈ move.before.handler.creds ∧
    move.before.handler.challenges.entries.length = maxChallenges ∧
    move.before.handler.challengeOrder.head? = some id

/-- A response is accepted. -/
def Accepts (move : AuthMove Challenge Key SessionKey Signature) : Prop :=
  ∃ v, move.after.reply = some (.verdict v) ∧ v.verified = true

/-- The session key that is drawn is not in use. -/
def DrawsNewKey (s : AuthRun Challenge Key SessionKey) :
    AuthCall Challenge Signature SessionKey → Prop
  | .getChallenge _ _ _ => True
  | .verifyResponse _ _ _ sessionkey _ => sessionkey ∉ s.handler.sessionkeys.keys

variable [DecidableEq SessionKey]

instance (s : AuthRun Challenge Key SessionKey) :
    ∀ l : AuthCall Challenge Signature SessionKey, Decidable (DrawsNewKey s l)
  | .getChallenge _ _ _ => inferInstanceAs (Decidable True)
  | .verifyResponse _ _ _ _ _ => inferInstanceAs (Decidable (_ ∉ _))

/-- **A response authenticates**, by a move after others. -/
structure Authenticates (verify : Signature → Challenge → Key → Bool) (creds : CredentialsMap Key)
    (earlier : List (AuthMove Challenge Key SessionKey Signature))
    (move : AuthMove Challenge Key SessionKey Signature) : Prop where
  /-- What is accepted is a valid signature by the user to whom the challenge has been handed out,
  on the bytes handed out, and the challenge has not been used since. If the session key that is
  drawn is not in use, it is added for the user, and no other is. -/
  accepted : Accepts move → ∃ userid id sig sessionkey now credit bytes v,
    move.label = .verifyResponse userid id sig sessionkey now ∧
    creds.lookup userid = some credit ∧
    (∃ before m since, earlier = before ++ m :: since ∧ HandsOut userid bytes id m ∧
      ∀ c ∈ since, ¬ LooksUp id c ∧ ¬ Evicts id c) ∧
    (∃ key ∈ credit.keys, verify sig bytes key.2) ∧
    move.after.reply = some (.verdict v) ∧ v.authlevel = credit.authlevel ∧
    (DrawsNewKey move.before move.label →
      sessionkey ∉ move.before.handler.sessionkeys ∧
      ∃ login : LoginInfo, login.userid = userid ∧ login.authlevel = credit.authlevel ∧
        move.after.handler.sessionkeys =
          move.before.handler.sessionkeys.insert sessionkey login)
  /-- Otherwise none is. -/
  refused : ¬ Accepts move → move.after.handler.sessionkeys = move.before.handler.sessionkeys

/-! ### One call -/

variable {verify : Signature → Challenge → Key → Bool} {creds : CredentialsMap Key}
  {validHours : Int} {s s' : AuthRun Challenge Key SessionKey}
  {move : AuthMove Challenge Key SessionKey Signature}

private theorem call_of_step {l : AuthCall Challenge Signature SessionKey}
    (h : (authSystem verify creds validHours).step s l = some s') :
    ∃ r, s.handler.call verify l = some r ∧ s'.handler = r.1 ∧ s'.reply = some r.2 := by
  obtain ⟨r, hcall, rfl⟩ := Option.map_eq_some_iff.mp h
  exact ⟨r, hcall, rfl, rfl⟩

/-- What a `get_challenge_binary` does to the handler. -/
theorem getChallenge_of_step {userid : String} {bytes : Challenge} {id : UInt32}
    (h : (authSystem verify creds validHours).step s (.getChallenge userid bytes id) = some s') :
    userid ∉ s.handler.creds ∧ s'.handler = s.handler ∧ (∃ e, s'.reply = some (.thrown e)) ∨
      userid ∈ s.handler.creds ∧ ∃ s₁, s.handler.makeRoom = some s₁ ∧
        s'.handler = s₁.addChallenge userid bytes id ∧ s'.reply = some (.challenge bytes id) := by
  obtain ⟨r, hcall, hhandler, hreply⟩ := call_of_step h
  obtain ⟨r', hget, rfl⟩ := Option.map_eq_some_iff.mp hcall
  obtain ⟨hunknown, rfl⟩ | ⟨hknown, s₁, hroom, rfl⟩ := AuthHandler.getChallengeBinary_cases hget
  · exact .inl ⟨hunknown, hhandler, _, hreply⟩
  · exact .inr ⟨hknown, s₁, hroom, hhandler, hreply⟩

/-- What a `verify_response` does to the handler. -/
theorem verifyResponse_of_step {userid : String} {id : UInt32} {sig : Signature}
    {sessionkey : SessionKey} {now : Int}
    (h : (authSystem verify creds validHours).step s
      (.verifyResponse userid id sig sessionkey now) = some s') :
    (userid ∉ s.handler.creds ∨ id ∉ s.handler.challenges) ∧ s'.handler = s.handler ∧
        (∃ e, s'.reply = some (.thrown e)) ∨
      ∃ credit origuserid bytes s₁ r, s.handler.creds.lookup userid = some credit ∧
        s.handler.challenges.lookup id = some (origuserid, bytes) ∧
        s.handler.takeChallenge id = some s₁ ∧
        AuthHandler.Verified verify s₁ userid origuserid bytes credit sig sessionkey now r ∧
        s'.handler = r.1 ∧ s'.reply = some (.ofVerdict r.2) := by
  obtain ⟨r, hcall, hhandler, hreply⟩ := call_of_step h
  obtain ⟨r', hverify, rfl⟩ := Option.map_eq_some_iff.mp hcall
  obtain ⟨hmissing, e, rfl⟩ | ⟨credit, origuserid, bytes, s₁, hcred, hch, htake, hverified⟩ :=
    AuthHandler.verifyResponse_cases hverify
  · exact .inl ⟨hmissing, hhandler, e, hreply⟩
  · exact .inr ⟨credit, origuserid, bytes, s₁, r', hcred, hch, htake, hverified, hhandler, hreply⟩

omit [DecidableEq SessionKey] in
/-- Making room loses no challenge but the one that is evicted. -/
theorem lookup_of_makeRoom {s s₁ : AuthHandler Challenge Key SessionKey} {id : UInt32}
    {c : String × Challenge} (hroom : s.makeRoom = some s₁) (h : s₁.challenges.lookup id = some c) :
    s.challenges.lookup id = some c ∧
      ¬ (s.challenges.entries.length = maxChallenges ∧ s.challengeOrder.head? = some id) := by
  obtain ⟨hroomy, rfl⟩ | ⟨-, hevict⟩ := AuthHandler.makeRoom_cases hroom
  · exact ⟨h, fun hfull => hroomy hfull.1⟩
  · obtain ⟨removeId, order, horder, -, rfl⟩ := AuthHandler.evict_eq_some_iff.mp hevict
    have hlookup := AList.lookup_erase_ite id removeId s.challenges
    rw [h] at hlookup
    by_cases heq : id = removeId
    · rw [if_pos heq] at hlookup
      cases hlookup
    · rw [if_neg heq] at hlookup
      refine ⟨hlookup.symm, fun hfull => heq ?_⟩
      rw [horder] at hfull
      exact (Option.some.inj hfull.2).symm

/-- With a new challenge, one in the map has been handed out just now, or was there before and has
not been evicted. -/
theorem handsOut_or_lookup_of_getChallenge
    (h : (authSystem verify creds validHours).step move.before move.label = some move.after)
    {userid' : String} {bytes' : Challenge} {id' : UInt32}
    (hlabel : move.label = .getChallenge userid' bytes' id')
    {userid : String} {bytes : Challenge} {id : UInt32}
    (hafter : move.after.handler.challenges.lookup id = some (userid, bytes)) :
    HandsOut userid bytes id move ∨
      move.before.handler.challenges.lookup id = some (userid, bytes) ∧ ¬ Evicts id move := by
  rw [hlabel] at h
  obtain ⟨hunknown, hhandler, -⟩ | ⟨-, s₁, hroom, hhandler, hreply⟩ := getChallenge_of_step h
  · rw [hhandler] at hafter
    refine .inr ⟨hafter, fun hevicts => hunknown ?_⟩
    have huser := hevicts.2.1
    rwa [hlabel] at huser
  · have hold : s₁.challenges.lookup id = some (userid, bytes) →
        move.before.handler.challenges.lookup id = some (userid, bytes) ∧ ¬ Evicts id move := by
      intro h₁
      obtain ⟨hbefore, hnot⟩ := lookup_of_makeRoom hroom h₁
      exact ⟨hbefore, fun hevicts => hnot hevicts.2.2⟩
    rw [hhandler, AuthHandler.addChallenge] at hafter
    by_cases hnew : id' ∈ s₁.challenges
    · rw [AList.insertNew_of_mem hnew] at hafter
      exact .inr (hold hafter)
    · rw [AList.insertNew_of_not_mem hnew, AList.lookup_insert_ite] at hafter
      by_cases heq : id = id'
      · subst heq
        rw [if_pos rfl] at hafter
        obtain ⟨rfl, rfl⟩ := Prod.mk.inj (Option.some.inj hafter)
        exact .inl ⟨hlabel, hreply⟩
      · rw [if_neg heq] at hafter
        exact .inr (hold hafter)

/-- With a response, a challenge in the map was there before and has not been looked up. -/
theorem lookup_of_verifyResponse
    (h : (authSystem verify creds validHours).step move.before move.label = some move.after)
    {userid' : String} {id' : UInt32} {sig : Signature} {sessionkey : SessionKey} {now : Int}
    (hlabel : move.label = .verifyResponse userid' id' sig sessionkey now)
    {id : UInt32} {c : String × Challenge}
    (hafter : move.after.handler.challenges.lookup id = some c) :
    move.before.handler.challenges.lookup id = some c ∧ ¬ LooksUp id move := by
  rw [hlabel] at h
  obtain ⟨hmissing, hhandler, -⟩ | ⟨credit, origuserid, bytes, s₁, r, -, -, htake, hverified,
      hhandler, -⟩ := verifyResponse_of_step h
  · rw [hhandler] at hafter
    refine ⟨hafter, ?_⟩
    rintro ⟨⟨_, _, _, _, hlabel'⟩, huser, hid⟩
    rw [hlabel] at hlabel' huser
    cases hlabel'
    exact hmissing.elim (fun hunknown => hunknown huser) fun hnone => hnone hid
  · obtain ⟨front, order, -, rfl⟩ := AuthHandler.takeChallenge_eq_some_iff.mp htake
    rw [hhandler, hverified.challenges_eq.1, AList.lookup_erase_ite] at hafter
    split at hafter
    · cases hafter
    · refine ⟨hafter, ?_⟩
      rintro ⟨⟨_, _, _, _, hlabel'⟩, -⟩
      rw [hlabel] at hlabel'
      cases hlabel'
      contradiction

/-- A challenge in the map has been handed out just now, or was there before and has not been
used. -/
theorem handsOut_or_lookup
    (h : (authSystem verify creds validHours).step move.before move.label = some move.after)
    {userid : String} {bytes : Challenge} {id : UInt32}
    (hafter : move.after.handler.challenges.lookup id = some (userid, bytes)) :
    HandsOut userid bytes id move ∨
      move.before.handler.challenges.lookup id = some (userid, bytes) ∧
        ¬ (LooksUp id move ∨ Evicts id move) := by
  cases hlabel : move.label with
  | getChallenge userid' bytes' id' =>
    have hnolookup : ¬ LooksUp id move := by
      rintro ⟨⟨_, _, _, _, hverify⟩, -⟩
      rw [hlabel] at hverify
      cases hverify
    refine (handsOut_or_lookup_of_getChallenge h hlabel hafter).imp_right ?_
    exact fun ⟨hbefore, hnoevict⟩ => ⟨hbefore, not_or.mpr ⟨hnolookup, hnoevict⟩⟩
  | verifyResponse userid' id' sig sessionkey now =>
    have hnoevict : ¬ Evicts id move := by
      rintro ⟨⟨_, _, _, hget⟩, -⟩
      rw [hlabel] at hget
      cases hget
    obtain ⟨hbefore, hnolookup⟩ := lookup_of_verifyResponse h hlabel hafter
    exact .inr ⟨hbefore, not_or.mpr ⟨hnolookup, hnoevict⟩⟩

/-- No call changes the credentials. -/
theorem creds_of_step {l : AuthCall Challenge Signature SessionKey}
    (h : (authSystem verify creds validHours).step s l = some s') :
    s'.handler.creds = s.handler.creds := by
  cases l with
  | getChallenge userid bytes id =>
    obtain ⟨-, hhandler, -⟩ | ⟨-, s₁, hroom, hhandler, -⟩ := getChallenge_of_step h
    · rw [hhandler]
    · rw [hhandler]
      obtain ⟨-, rfl⟩ | ⟨-, hevict⟩ := AuthHandler.makeRoom_cases hroom
      · rfl
      · obtain ⟨_, _, -, -, rfl⟩ := AuthHandler.evict_eq_some_iff.mp hevict
        rfl
  | verifyResponse userid id sig sessionkey now =>
    obtain ⟨-, hhandler, -⟩ | ⟨_, _, _, s₁, r, -, -, htake, hverified, hhandler, -⟩ :=
      verifyResponse_of_step h
    · rw [hhandler]
    · obtain ⟨_, _, -, rfl⟩ := AuthHandler.takeChallenge_eq_some_iff.mp htake
      rw [hhandler]
      exact hverified.challenges_eq.2.2

/-- What is accepted is a valid signature by the user of the challenge, who is logged in; and
otherwise the session keys stay. -/
theorem accepts_cases
    (h : (authSystem verify creds validHours).step move.before move.label = some move.after) :
    (¬ Accepts move ∧ move.after.handler.sessionkeys = move.before.handler.sessionkeys) ∨
      ∃ userid id sig sessionkey now credit bytes expiry,
        move.label = .verifyResponse userid id sig sessionkey now ∧
        move.before.handler.creds.lookup userid = some credit ∧
        move.before.handler.challenges.lookup id = some (userid, bytes) ∧
        (∃ key ∈ credit.keys, verify sig bytes key.2) ∧
        move.after.reply = some (.verdict ⟨true, credit.authlevel, some (expiry, sessionkey)⟩) ∧
        move.after.handler.sessionkeys = move.before.handler.sessionkeys.insertNew sessionkey
          ⟨userid, credit.authlevel, expiry⟩ := by
  have hrefused : (∀ v, move.after.reply = some (.verdict v) → v.verified = false) →
      ¬ Accepts move := by
    rintro hall ⟨v, hreply, hverified⟩
    rw [hall v hreply] at hverified
    cases hverified
  cases hlabel : move.label with
  | getChallenge userid bytes id =>
    rw [hlabel] at h
    obtain ⟨-, hhandler, e, hreply⟩ | ⟨-, s₁, hroom, hhandler, hreply⟩ := getChallenge_of_step h
    · exact .inl ⟨hrefused (by rw [hreply]; exact nofun), by rw [hhandler]⟩
    · refine .inl ⟨hrefused (by rw [hreply]; exact nofun), ?_⟩
      rw [hhandler]
      -- a challenge may evict another one, but no session key
      obtain ⟨-, rfl⟩ | ⟨-, hevict⟩ := AuthHandler.makeRoom_cases hroom
      · rfl
      · obtain ⟨_, _, -, -, rfl⟩ := AuthHandler.evict_eq_some_iff.mp hevict
        rfl
  | verifyResponse userid id sig sessionkey now =>
    rw [hlabel] at h
    obtain ⟨-, hhandler, e, hreply⟩ | ⟨credit, origuserid, bytes, s₁, r, hcred, hch, htake,
        hverified, hhandler, hreply⟩ := verifyResponse_of_step h
    · exact .inl ⟨hrefused (by rw [hreply]; exact nofun), by rw [hhandler]⟩
    · obtain ⟨_, _, -, rfl⟩ := AuthHandler.takeChallenge_eq_some_iff.mp htake
      rw [hhandler]
      -- the challenge is used up whatever the verdict is
      cases hverified with
      | mismatch huser => exact .inl ⟨hrefused (by rw [hreply]; exact nofun), rfl⟩
      | failed huser hkeys =>
        refine .inl ⟨hrefused fun v hv => ?_, rfl⟩
        rw [hreply] at hv
        cases hv
        rfl
      | login huser hkeys =>
        subst huser
        exact .inr ⟨userid, id, sig, sessionkey, now, credit, bytes, _, rfl, hcred, hch, hkeys,
          hreply, rfl⟩

/-! ### Every run -/

/-- The credentials stay through a run. -/
theorem creds_of_reachable (h : (authSystem verify creds validHours).Reachable s) :
    s.handler.creds = creds := by
  refine h.invariant (P := fun s => s.handler.creds = creds) rfl ?_
  intro s l s' _ hs _ hstep
  rw [creds_of_step hstep, hs]

/-- **Along every run of calls, a response authenticates.** -/
theorem authenticates {calls : List (AuthCall Challenge Signature SessionKey)}
    {earlier later : List (AuthMove Challenge Key SessionKey Signature)}
    (htrace : (authSystem verify creds validHours).trace
      (authSystem verify creds validHours).init calls = earlier ++ move :: later) :
    Authenticates verify creds earlier move := by
  have hmem : move ∈ (authSystem verify creds validHours).trace
      (authSystem verify creds validHours).init calls := by simp [htrace]
  have hreachable := TransitionSystem.reachable_of_mem_trace .init hmem
  obtain ⟨hstep, -⟩ := TransitionSystem.trace_split htrace
  obtain ⟨hrefused, hkeys⟩ | ⟨userid, id, sig, sessionkey, now, credit, bytes, expiry, hlabel,
    hcred, hch, hsigned, hreply, hkeys⟩ := accepts_cases hstep
  · exact ⟨fun h => absurd h hrefused, fun _ => hkeys⟩
  · refine ⟨fun _ => ?_, fun h => absurd ⟨_, hreply, rfl⟩ h⟩
    rw [creds_of_reachable hreachable] at hcred
    obtain ⟨before, m, since, hearlier, hhands, hsince⟩ := TransitionSystem.exists_origin
      (fun s : AuthRun Challenge Key SessionKey =>
        s.handler.challenges.lookup id = some (userid, bytes))
      (by simp [authSystem, AuthHandler.new])
      (fun m hm hafter => handsOut_or_lookup hm hafter) htrace hch
    refine ⟨userid, id, sig, sessionkey, now, credit, bytes, _, hlabel, hcred,
      ⟨before, m, since, hearlier, hhands, fun c hc => not_or.mp (hsince c hc)⟩, hsigned, hreply,
      rfl, fun hdraws => ?_⟩
    rw [hlabel] at hdraws
    refine ⟨hdraws, ⟨userid, credit.authlevel, expiry⟩, rfl, rfl, ?_⟩
    rw [hkeys]
    exact AList.insertNew_of_not_mem hdraws _

/-- A user logs in after another has failed to. -/
def aliceLogsIn : List (AuthCall ℕ ℕ ℕ) :=
  [.getChallenge "alice" 100 1, .getChallenge "bob" 200 2, .verifyResponse "bob" 2 221 7 0,
    .verifyResponse "alice" 1 110 8 0]

private theorem trace_aliceLogsIn_ne_nil :
    twoUsersSystem.trace twoUsersSystem.init aliceLogsIn ≠ [] := nofun

theorem authenticates_alice : ∃ earlier move,
    twoUsersSystem.trace twoUsersSystem.init aliceLogsIn = earlier ++ [move] ∧
    move.after.reply = some (.verdict ⟨true, 1, some (28800, 8)⟩) ∧
    DrawsNewKey move.before move.label ∧
    Authenticates (fun sig challenge key => decide (sig = challenge + key)) twoUsers earlier
      move := by
  have hreply : ((twoUsersSystem.trace twoUsersSystem.init aliceLogsIn).getLast
      trace_aliceLogsIn_ne_nil).after.reply = some (.verdict ⟨true, 1, some (28800, 8)⟩) := by
    decide +kernel
  have htrace := (List.dropLast_append_getLast trace_aliceLogsIn_ne_nil).symm
  exact ⟨_, _, htrace, hreply, by decide +kernel, authenticates htrace⟩

end Foxtrot
