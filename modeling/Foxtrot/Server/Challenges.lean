import Foxtrot.Server.AuthHandler

/-!
# The challenges that are out

The map and the queue of an `AuthHandler` should hold the challenges that are out, the queue oldest
first (`Booked`). The calls that keep them so (`OldestFirst`) are those that draw the id of no
challenge that is out, since the insertion into the map does not overwrite while the queue gets the
id twice, and those that verify a response to the **oldest** challenge, since `verify_response` pops
the front of the queue whatever id it has found. A run is booked throughout exactly if all its calls
are such (`keepsChallenges_iff`).

`get_challenge_binary` makes room and adds a challenge (`makeRoom`, `addChallenge`), and
`verify_response` looks the id up and takes the challenge (`takeChallenge`). For every part there is
an equivalence, that it keeps the map and the queue as they should be exactly if the id drawn is
new, or the id taken is that in front of the queue (`addChallenge_iff`, `takeChallenge_iff`). The
erase of an id that the map does not have, which a queue with an id twice leads to, has no result.
-/

namespace Foxtrot

variable {Challenge Key SessionKey Signature : Type*}

/-- The map and the queue hold the challenges that are out. -/
structure Booked (s : AuthHandler Challenge Key SessionKey)
    (outstanding : List (OutstandingChallenge Challenge)) : Prop where
  /-- The queue holds the ids, oldest first. -/
  order : s.challengeOrder = outstanding.map (·.id)
  /-- Each once. -/
  nodup : s.challengeOrder.Nodup
  /-- They are the keys of the map. -/
  keys : ∀ id, id ∈ s.challengeOrder ↔ id ∈ s.challenges
  /-- The map has each challenge under its id. -/
  denotes : ∀ id userid bytes, s.challenges.lookup id = some (userid, bytes) ↔
    ⟨id, userid, bytes⟩ ∈ outstanding
  bound : s.challengeOrder.length ≤ maxChallenges

/-- **The challenges are kept**, by a move of the handler. -/
structure KeepsChallenges
    (move : TransitionSystem.Move (AuthRun Challenge Key SessionKey)
      (AuthCall Challenge Signature SessionKey)) : Prop where
  booked : Booked move.after.handler move.after.outstanding
  /-- An id that is returned denotes the bytes and the user it was returned with. -/
  returned : ∀ userid bytes id, move.label = .getChallenge userid bytes id →
    userid ∈ move.before.handler.creds →
      move.after.reply = some (.challenge bytes id) ∧
        move.after.handler.challenges.lookup id = some (userid, bytes)
  /-- At the limit the oldest challenge goes, and no other. -/
  evicts : ∀ userid bytes id, move.label = .getChallenge userid bytes id →
    userid ∈ move.before.handler.creds →
    move.before.handler.challenges.entries.length = maxChallenges →
      ∃ oldest younger, move.before.outstanding = oldest :: younger ∧
        oldest.id ∈ move.before.handler.challenges ∧
        ∀ id' ≠ id, move.after.handler.challenges.lookup id' =
          if id' = oldest.id then none else move.before.handler.challenges.lookup id'
  /-- A verification leaves the other challenges as they were. -/
  others : ∀ userid id sig sessionkey now,
    move.label = .verifyResponse userid id sig sessionkey now →
      ∀ id' ≠ id, move.after.handler.challenges.lookup id' =
        move.before.handler.challenges.lookup id'

/-- A known user draws an id of no challenge that stays, or verifies a response to the oldest
challenge. -/
def OldestFirst (s : AuthRun Challenge Key SessionKey) :
    AuthCall Challenge Signature SessionKey → Prop
  | .getChallenge userid _ id =>
    userid ∈ s.handler.creds → id ∉ (remaining s.outstanding).map (·.id)
  | .verifyResponse userid id _ _ _ =>
    userid ∈ s.handler.creds → id ∈ s.handler.challenges →
      (s.outstanding.map (·.id)).head? = some id

instance (s : AuthRun Challenge Key SessionKey) :
    ∀ l : AuthCall Challenge Signature SessionKey, Decidable (OldestFirst s l)
  | .getChallenge _ _ _ => inferInstanceAs (Decidable (_ → _))
  | .verifyResponse _ _ _ _ _ => inferInstanceAs (Decidable (_ → _ → _))

/-! ### The parts of a call -/

namespace Booked

variable {s s₁ : AuthHandler Challenge Key SessionKey}
  {outstanding : List (OutstandingChallenge Challenge)} {userid : String} {bytes : Challenge}
  {id : UInt32}

/-- Only the map and the queue matter. -/
theorem congr {s' : AuthHandler Challenge Key SessionKey}
    (hchallenges : s'.challenges = s.challenges) (horder : s'.challengeOrder = s.challengeOrder) :
    Booked s' outstanding ↔ Booked s outstanding := by
  constructor
  · intro h
    exact ⟨horder ▸ h.order, horder ▸ h.nodup, horder ▸ hchallenges ▸ h.keys,
      hchallenges ▸ h.denotes, horder ▸ h.bound⟩
  · intro h
    exact ⟨horder ▸ h.order, horder ▸ h.nodup, horder ▸ hchallenges ▸ h.keys,
      hchallenges ▸ h.denotes, horder ▸ h.bound⟩

/-- A challenge is booked exactly if it is outstanding. -/
theorem mem_iff (hb : Booked s outstanding) : id ∈ s.challenges ↔ id ∈ outstanding.map (·.id) := by
  rw [← hb.keys, hb.order]

/-- Map and queue are of one size. -/
theorem length_entries (hb : Booked s outstanding) :
    s.challenges.entries.length = outstanding.length := by
  have hperm : s.challenges.keys.Perm s.challengeOrder :=
    (List.perm_ext_iff_of_nodup s.challenges.keys_nodup hb.nodup).mpr fun id =>
      (hb.keys id).symm
  have hlength := hperm.length_eq
  rw [hb.order, List.length_map] at hlength
  rw [← hlength]
  exact (List.length_map _).symm

/-- The oldest challenge is found and erased. -/
theorem evict (hb : Booked s outstanding) {oldest : OutstandingChallenge Challenge}
    {younger : List (OutstandingChallenge Challenge)} (h : outstanding = oldest :: younger) :
    ∃ s₁, s.evict = some s₁ ∧ Booked s₁ younger ∧
      s₁.challenges = s.challenges.erase oldest.id := by
  subst h
  have horder : s.challengeOrder = oldest.id :: younger.map (·.id) := by rw [hb.order]; rfl
  have hmem : oldest.id ∈ s.challenges := (hb.keys _).mp (by rw [horder]; exact List.mem_cons_self)
  refine ⟨_, AuthHandler.evict_eq_some_iff.mpr ⟨_, _, horder, hmem, rfl⟩, ?_, rfl⟩
  have hnodup := hb.nodup
  rw [horder, List.nodup_cons] at hnodup
  refine ⟨rfl, hnodup.2, fun id => ?_, fun id userid bytes => ?_, ?_⟩
  · have hkeys := hb.keys id
    rw [horder, List.mem_cons] at hkeys
    rw [AList.mem_erase, ← hkeys]
    constructor
    · exact fun hid => ⟨fun heq => hnodup.1 (heq ▸ hid), .inr hid⟩
    · rintro ⟨hne, heq | hid⟩
      · exact absurd heq hne
      · exact hid
  · -- the others are under ids of their own
    have hdenotes := hb.denotes id userid bytes
    rw [List.mem_cons] at hdenotes
    rw [AList.lookup_erase_ite]
    by_cases heq : id = oldest.id
    · rw [if_pos heq]
      refine iff_of_false nofun fun hmem => hnodup.1 ?_
      exact heq ▸ List.mem_map_of_mem (f := (·.id)) hmem
    · rw [if_neg heq, hdenotes]
      constructor
      · rintro (rfl | hmem)
        · exact absurd rfl heq
        · exact hmem
      · exact .inr
  · have hbound := hb.bound
    rw [horder, List.length_cons] at hbound
    exact Nat.le_of_succ_le hbound

/-- There is room for another challenge, where the oldest goes only if it has to. -/
theorem makeRoom (hb : Booked s outstanding) :
    ∃ s₁, s.makeRoom = some s₁ ∧ Booked s₁ (remaining outstanding) ∧
      s₁.challengeOrder.length < maxChallenges ∧
      (outstanding.length = maxChallenges → ∃ oldest younger, outstanding = oldest :: younger ∧
        s₁.challenges = s.challenges.erase oldest.id) := by
  rw [AuthHandler.makeRoom, hb.length_entries, remaining]
  by_cases hfull : outstanding.length = maxChallenges
  · rw [if_pos hfull, if_pos hfull]
    cases houtstanding : outstanding with
    | nil => simp [houtstanding, maxChallenges] at hfull
    | cons oldest younger =>
      obtain ⟨s₁, hevict, hb₁, hchallenges⟩ := hb.evict houtstanding
      rw [houtstanding, List.length_cons] at hfull
      refine ⟨s₁, hevict, hb₁, ?_, fun _ => ⟨oldest, younger, rfl, hchallenges⟩⟩
      rw [hb₁.order, List.length_map]
      omega
  · rw [if_neg hfull, if_neg hfull]
    have hbound := hb.bound
    rw [hb.order, List.length_map] at hbound
    refine ⟨s, rfl, hb, ?_, fun h => absurd h hfull⟩
    rw [hb.order, List.length_map]
    omega

/-- A new challenge is kept exactly if its id is that of no other. -/
theorem addChallenge_iff (hb : Booked s outstanding)
    (hroom : s.challengeOrder.length < maxChallenges) (userid : String) (bytes : Challenge)
    (id : UInt32) :
    Booked (s.addChallenge userid bytes id) (outstanding ++ [⟨id, userid, bytes⟩]) ↔
      id ∉ outstanding.map (·.id) := by
  constructor
  · intro h hid
    have hnodup := h.nodup
    rw [h.order, List.map_append, List.nodup_append] at hnodup
    exact hnodup.2.2 id hid id (by simp) rfl
  · intro hid
    have hnew : id ∉ s.challenges := fun hmem => hid (hb.mem_iff.mp hmem)
    have hchallenges : (s.addChallenge userid bytes id).challenges =
        s.challenges.insert id (userid, bytes) := AList.insertNew_of_not_mem hnew _
    have horder : (s.addChallenge userid bytes id).challengeOrder = s.challengeOrder ++ [id] := rfl
    refine ⟨?_, ?_, fun id' => ?_, fun id' userid' bytes' => ?_, ?_⟩
    · rw [horder, hb.order]
      simp
    · rw [horder, List.nodup_append]
      refine ⟨hb.nodup, List.nodup_singleton _, fun a ha b hb' heq => hnew ((hb.keys _).mp ?_)⟩
      obtain rfl := List.mem_singleton.mp hb'
      exact heq ▸ ha
    · rw [horder, hchallenges, AList.mem_insert, ← hb.keys, List.mem_append, List.mem_singleton,
        or_comm]
    · rw [hchallenges, AList.lookup_insert_ite, List.mem_append, List.mem_singleton]
      by_cases heq : id' = id
      · subst heq
        have hold : ∀ u b, (⟨id', u, b⟩ : OutstandingChallenge Challenge) ∉ outstanding :=
          fun u b hmem => hid (List.mem_map_of_mem (f := (·.id)) hmem)
        simp [hold, eq_comm]
      · simp [heq, hb.denotes]
    · rw [horder, List.length_append]
      exact hroom

/-- A challenge is taken rightly exactly if it is the oldest. -/
theorem takeChallenge_iff (hb : Booked s outstanding) (hid : id ∈ s.challenges)
    (htake : s.takeChallenge id = some s₁) :
    Booked s₁ (outstanding.filter (·.id ≠ id)) ↔ (outstanding.map (·.id)).head? = some id := by
  obtain ⟨front, order, horder, rfl⟩ := AuthHandler.takeChallenge_eq_some_iff.mp htake
  have hnodup := hb.nodup
  rw [hb.order] at horder hnodup
  obtain ⟨oldest, younger, rfl, rfl, rfl⟩ := List.map_eq_cons_iff.mp horder
  rw [List.map_cons, List.nodup_cons] at hnodup
  have hothers : ∀ c ∈ younger, c.id ≠ oldest.id := fun c hc heq =>
    hnodup.1 (heq ▸ List.mem_map_of_mem (f := (·.id)) hc)
  by_cases heq : oldest.id = id
  · subst heq
    refine iff_of_true ?_ rfl
    obtain ⟨s₂, -, hb₂, hchallenges⟩ := hb.evict rfl
    have hfilter : (oldest :: younger).filter (·.id ≠ oldest.id) = younger := by
      rw [List.filter_cons_of_neg (by simp), List.filter_eq_self]
      simpa using hothers
    rw [hfilter]
    have horder₂ : s₂.challengeOrder = younger.map (·.id) := hb₂.order
    refine ⟨rfl, hnodup.2, ?_, ?_, ?_⟩
    · intro id'
      rw [← horder₂, hb₂.keys, hchallenges]
    · intro id' userid' bytes'
      rw [← hb₂.denotes, hchallenges]
    · rw [← horder₂]
      exact hb₂.bound
  · refine iff_of_false ?_ (by simp [heq])
    intro h
    have hfilter : (oldest :: younger).filter (·.id ≠ id) =
        oldest :: younger.filter (·.id ≠ id) := List.filter_cons_of_pos (by simp [heq])
    -- the queue has lost its front, but the challenge is another one
    have horder' : younger.map (·.id) = _ := h.order
    rw [hfilter, List.map_cons] at horder'
    exact hnodup.1 (by rw [horder']; exact List.mem_cons_self)

end Booked

/-! ### One call -/

variable [DecidableEq SessionKey] {verify : Signature → Challenge → Key → Bool}
  {creds : CredentialsMap Key} {validHours : Int} {s : AuthRun Challenge Key SessionKey}

/-- A call of an unknown user changes nothing. -/
theorem step_of_unknown {l : AuthCall Challenge Signature SessionKey}
    (huser : l.userid ∉ s.handler.creds) :
    (authSystem verify creds validHours).step s l =
      some ⟨s.handler, some (.thrown (.outOfRange "invalid userid")), s.outstanding⟩ := by
  cases l with
  | getChallenge userid bytes id =>
    have hunknown : userid ∉ s.handler.creds := huser
    simp [authSystem, AuthHandler.call, AuthHandler.getChallengeBinary, AuthCall.userid, hunknown,
      AuthReply.ofChallenge]
  | verifyResponse userid id sig sessionkey now =>
    have hunknown : userid ∉ s.handler.creds := huser
    simp [authSystem, AuthHandler.call, AuthHandler.verifyResponse, AuthCall.userid, hunknown,
      AList.lookup_eq_none.mpr hunknown, AuthReply.ofVerdict]

omit [DecidableEq SessionKey] in
/-- A user who is not known changes no challenge. -/
private theorem keepsChallenges_of_unknown (hb : Booked s.handler s.outstanding)
    {l : AuthCall Challenge Signature SessionKey} (huser : l.userid ∉ s.handler.creds)
    (reply : Option (AuthReply Challenge SessionKey)) :
    KeepsChallenges ⟨s, l, ⟨s.handler, reply, s.outstanding⟩⟩ where
  booked := hb
  returned := by
    rintro userid bytes id rfl hknown
    exact absurd hknown huser
  evicts := by
    rintro userid bytes id rfl hknown
    exact absurd hknown huser
  others _ _ _ _ _ _ _ _ := rfl

/-- A challenge for a known user. -/
theorem getChallenge_iff (hb : Booked s.handler s.outstanding) {userid : String}
    (huser : userid ∈ s.handler.creds) (bytes : Challenge) (id : UInt32) :
    ∃ s', (authSystem verify creds validHours).step s (.getChallenge userid bytes id) = some s' ∧
      (KeepsChallenges
          ⟨s, (.getChallenge userid bytes id : AuthCall Challenge Signature SessionKey), s'⟩ ↔
        id ∉ (remaining s.outstanding).map (·.id)) := by
  obtain ⟨s₁, hroom, hb₁, hlength, hfull⟩ := hb.makeRoom
  have hadd := hb₁.addChallenge_iff hlength userid bytes id
  refine ⟨⟨s₁.addChallenge userid bytes id, some (.challenge bytes id),
    remaining s.outstanding ++ [⟨id, userid, bytes⟩]⟩, ?_, ?_⟩
  · simp [authSystem, AuthHandler.call, AuthHandler.getChallengeBinary, AuthCall.userid, huser,
      hroom, AuthReply.ofChallenge, nextOutstanding]
  · refine ⟨fun h => hadd.mp h.booked, fun hid => ?_⟩
    have hafter := hadd.mpr hid
    have hnew : id ∉ s₁.challenges := fun hmem => hid (hb₁.mem_iff.mp hmem)
    refine ⟨hafter, ?_, ?_, by rintro _ _ _ _ _ ⟨⟩⟩
    · rintro _ _ _ ⟨⟩ -
      exact ⟨rfl, (hafter.denotes _ _ _).mpr (by simp)⟩
    · rintro _ _ _ ⟨⟩ - hlimit
      rw [hb.length_entries] at hlimit
      obtain ⟨oldest, younger, houtstanding, hchallenges⟩ := hfull hlimit
      refine ⟨oldest, younger, houtstanding, hb.mem_iff.mpr ?_, fun id' hne => ?_⟩
      · simp [houtstanding]
      · have hlookup : (s₁.addChallenge userid bytes id).challenges.lookup id' =
            s₁.challenges.lookup id' := by
          rw [AuthHandler.addChallenge, AList.insertNew_of_not_mem hnew, AList.lookup_insert_ite,
            if_neg hne]
        exact hlookup.trans
          (hchallenges ▸ AList.lookup_erase_ite id' oldest.id s.handler.challenges)

/-- A response of a known user to no challenge. -/
theorem verifyResponse_of_not_mem (hb : Booked s.handler s.outstanding) {userid : String}
    (huser : userid ∈ s.handler.creds) {id : UInt32} (hid : id ∉ s.handler.challenges)
    (sig : Signature) (sessionkey : SessionKey) (now : Int) :
    ∃ s', (authSystem verify creds validHours).step s
        (.verifyResponse userid id sig sessionkey now) = some s' ∧
      KeepsChallenges ⟨s, .verifyResponse userid id sig sessionkey now, s'⟩ := by
  have hkept : ∀ c ∈ s.outstanding, ¬ c.id = id := fun c hc heq =>
    hid (hb.mem_iff.mpr (heq ▸ List.mem_map_of_mem (f := (·.id)) hc))
  obtain ⟨credit, hcred⟩ := AList.mem_iff_exists_lookup.mp huser
  refine ⟨⟨s.handler, some (.thrown (.outOfRange "invalid challenge id")), s.outstanding⟩, ?_,
    ⟨hb, nofun, nofun, fun _ _ _ _ _ _ _ _ => rfl⟩⟩
  simp [authSystem, AuthHandler.call, AuthHandler.verifyResponse, AuthCall.userid, huser, hcred,
    AList.lookup_eq_none.mpr hid, AuthReply.ofVerdict, nextOutstanding]
  exact hkept

/-- A response of a known user to a challenge. -/
theorem verifyResponse_iff (hb : Booked s.handler s.outstanding) {userid : String}
    (huser : userid ∈ s.handler.creds) {id : UInt32} (hid : id ∈ s.handler.challenges)
    (sig : Signature) (sessionkey : SessionKey) (now : Int) :
    ∃ s', (authSystem verify creds validHours).step s
        (.verifyResponse userid id sig sessionkey now) = some s' ∧
      (KeepsChallenges ⟨s, .verifyResponse userid id sig sessionkey now, s'⟩ ↔
        (s.outstanding.map (·.id)).head? = some id) := by
  obtain ⟨front, order, horder⟩ := List.exists_cons_of_ne_nil
    (List.ne_nil_of_mem ((hb.keys id).mpr hid))
  obtain ⟨s₁, htake⟩ : ∃ s₁, s.handler.takeChallenge id = some s₁ :=
    ⟨_, AuthHandler.takeChallenge_eq_some_iff.mpr ⟨front, order, horder, rfl⟩⟩
  obtain ⟨r, hr⟩ := Option.isSome_iff_exists.mp
    (AuthHandler.verifyResponse_isSome verify sig sessionkey now huser hid htake)
  obtain ⟨hthrown, -⟩ | ⟨credit, origuserid, bytes, s₂, -, -, htake₂, hverified⟩ :=
    AuthHandler.verifyResponse_cases hr
  · exact absurd hthrown (by simp [huser, hid])
  · obtain rfl : s₁ = s₂ := Option.some.inj (htake.symm.trans htake₂)
    obtain ⟨hchallenges, horder₁, -⟩ := hverified.challenges_eq
    have hbooked : Booked r.1 (s.outstanding.filter (·.id ≠ id)) ↔
        (s.outstanding.map (·.id)).head? = some id :=
      (Booked.congr hchallenges horder₁).trans (hb.takeChallenge_iff hid htake)
    refine ⟨⟨r.1, some (.ofVerdict r.2), s.outstanding.filter (·.id ≠ id)⟩, ?_, ?_⟩
    · simp [authSystem, AuthHandler.call, AuthCall.userid, huser, hr, nextOutstanding]
    · refine ⟨fun h => hbooked.mp h.booked, fun holdest => ⟨hbooked.mpr holdest, nofun, nofun, ?_⟩⟩
      rintro _ _ _ _ _ ⟨⟩ id' hne
      have hlookup : r.1.challenges = s.handler.challenges.erase id := by
        obtain ⟨_, _, -, rfl⟩ := AuthHandler.takeChallenge_eq_some_iff.mp htake
        exact hchallenges
      rw [hlookup, AList.lookup_erase_ite, if_neg hne]

/-- A call keeps the challenges exactly if it is one of those that keep them in turn. -/
theorem oldestFirst_iff (hb : Booked s.handler s.outstanding)
    (l : AuthCall Challenge Signature SessionKey) :
    OldestFirst s l ↔ ∃ s', (authSystem verify creds validHours).step s l = some s' ∧
      KeepsChallenges ⟨s, l, s'⟩ := by
  have hsome : ∀ {s₁ : AuthRun Challenge Key SessionKey},
      (authSystem verify creds validHours).step s l = some s₁ →
        ((∃ s', (authSystem verify creds validHours).step s l = some s' ∧
          KeepsChallenges ⟨s, l, s'⟩) ↔ KeepsChallenges ⟨s, l, s₁⟩) := by
    intro s₁ h₁
    simp [h₁]
  by_cases huser : l.userid ∈ s.handler.creds
  · cases l with
    | getChallenge userid bytes id =>
      have hknown : userid ∈ s.handler.creds := huser
      obtain ⟨s', hstep, hiff⟩ := getChallenge_iff hb hknown bytes id
      rw [hsome hstep, hiff]
      exact ⟨fun h => h hknown, fun h _ => h⟩
    | verifyResponse userid id sig sessionkey now =>
      have hknown : userid ∈ s.handler.creds := huser
      by_cases hid : id ∈ s.handler.challenges
      · obtain ⟨s', hstep, hiff⟩ := verifyResponse_iff hb hknown hid sig sessionkey now
        rw [hsome hstep, hiff]
        exact ⟨fun h => h hknown hid, fun h _ _ => h⟩
      · -- an id that is not outstanding
        exact iff_of_true (fun _ hmem => absurd hmem hid)
          (verifyResponse_of_not_mem hb hknown hid sig sessionkey now)
  · rw [hsome (step_of_unknown huser)]
    refine iff_of_true ?_ (keepsChallenges_of_unknown hb huser _)
    cases l with
    | getChallenge => exact fun h => absurd h huser
    | verifyResponse => exact fun h => absurd h huser

/-! ### Every run -/

omit [DecidableEq SessionKey] in
private theorem booked_init :
    Booked (.new creds validHours : AuthHandler Challenge Key SessionKey) [] := by
  refine ⟨rfl, List.nodup_nil, fun id => ?_, fun id userid bytes => ?_, Nat.zero_le _⟩
  · simp [AuthHandler.new]
  · simp [AuthHandler.new]

/-- **A run of calls goes through and keeps the challenges throughout, exactly if** it draws no id
of a challenge that stays, and verifies responses to the oldest challenge only. -/
theorem keepsChallenges_iff (verify : Signature → Challenge → Key → Bool)
    (creds : CredentialsMap Key) (validHours : Int)
    (calls : List (AuthCall Challenge Signature SessionKey)) :
    let system := authSystem verify creds validHours
    ((system.run system.init calls).isSome ∧
        ∀ move ∈ system.trace system.init calls, KeepsChallenges move) ↔
      system.Guarded OldestFirst system.init calls :=
  (TransitionSystem.guarded_iff_forall_trace
    (fun s : AuthRun Challenge Key SessionKey => Booked s.handler s.outstanding)
    (fun _ l hb => oldestFirst_iff hb l) (fun _ _ _ _ _ h => h.booked) booked_init).symm

/-- The response to the second of two challenges takes the id of the first out of the queue. -/
theorem not_keepsChallenges :
    ∃ s, twoUsersSystem.run twoUsersSystem.init [.getChallenge "alice" 100 1,
        .getChallenge "bob" 200 2, .verifyResponse "bob" 2 220 7 0] = some s ∧
      s.handler.challengeOrder = [2] ∧ s.handler.challenges.keys = [1] ∧
      ¬ Booked s.handler s.outstanding :=
  ⟨_, rfl, by decide, by decide, fun h => absurd h.order (by decide)⟩

end Foxtrot
