import Foxtrot.Foundation.Recording
import Foxtrot.Server.Authentication
import Foxtrot.Server.CredentialsFile

/-!
# The credentials tool

`ftauth` (`server/src/ftauth.cpp`) makes pairs of keys for users (`createuser`), which it keeps in
credential stores of clients, exports the public keys (`exportuser`), and authorises users by their
public keys in the credential stores of servers (`authuser`). An exported file can be used like a
client's store that has no secret keys.

In every run of the tool (`auth_tool`), on any stores, a store that is named without a directory is
never written, and to create a user who has a secret key is refused. A public key in a client's
store is the one that was made or exported into it last, and the keys with which a server authorises
a user have all been made for this user. A server that is started with a store lets a user log in
exactly with a signature that one of these keys verifies, at the level of the last authorisation.

To authorise or export a user whom a store does not know is undefined: the tool dereferences an
empty optional.

A run is described by the record of its commands with what came of them: `publicKey`, `secretKey`
and `authorisations` read off it what each store has been given last. The invariant (`FilesFollow`)
says that the files are what the record says, clients' stores by `Keeps` and servers' by
`Authorises`, the latter through the round trip of the credentials file. Each command is one lemma
about both; what a server lets in is then a fact about the credentials that it loads
(`letsIn_of_holds`).
-/

namespace Foxtrot

open Fallible Histories TransitionSystem

/-! ### The stores of clients -/

/-- `crypto_sign_SECRETKEYBYTES`. -/
def secretKeyBytes : ℕ := 64

/-- `skarr`. -/
abbrev Skarr := { bytes : List UInt8 // bytes.length = secretKeyBytes }

/-- `keypair`. -/
structure Keypair where
  pk : Pkarr
  sk : Skarr

/-- `get_optional<std::string>`. -/
def CredsTree.getOptional (t : CredsTree) (text : String) : Option String :=
  (t.walk (path text)).map PropertyTree.data

/-- What `save_creds_to_file` makes of the tree of the file: the tree that is written, if the user
has no secret key yet. -/
def saveCreds (codec : TextCodec) (credsTree : CredsTree) (userid : String) (keys : Keypair) :
    Except PropertyError (Option CredsTree) :=
  match CredsTree.getOptional credsTree (userid ++ ".secretkey") with
  | none => do
    let credsTree ← credsTree.put (CredsTree.path (userid ++ ".publickey"))
      (codec.bin2base64 keys.pk.1)
    let credsTree ← credsTree.put (CredsTree.path (userid ++ ".secretkey"))
      (codec.bin2base64 keys.sk.1)
    return some credsTree
  | some _ => return none

/-- `save_creds_to_file`. -/
def saveCredsToFile (codec : TextCodec) (dirs : Directories) (fname : String)
    (file : Option CredsTree) (userid : String) (keys : Keypair) :
    Except Thrown (Option CredsTree) := do
  let credsTree ← readOrCreateUsersPtree dirs fname file
  (saveCreds codec credsTree userid keys).mapError .ofProperty

/-- `std::move` of as many bytes as the array has. -/
def moveBytes (size : ℕ) (bytes : List UInt8) :
    LoadM { bytes : List UInt8 // bytes.length = size } :=
  if h : size ≤ bytes.length then pure ⟨bytes.take size, List.length_take_of_le h⟩
  else ExceptT.mk none

/-- `get_creds_from_client_file`. Without a secret key the array is not initialised. -/
def getCredsFromClientFile (codec : TextCodec) (uninit : Skarr) (file : Option CredsTree)
    (userid : String) : LoadM Keypair :=
  match file with
  | none => throw (.outOfRange "file doesn't exist")
  | some credsTree =>
    match CredsTree.getOptional credsTree (userid ++ ".publickey") with
    | none => ExceptT.mk none
    | some pubkeyb64 => do
      let pubkeyvec ← base642bin codec pubkeyb64
      let pubkey ← moveBytes publicKeyBytes pubkeyvec
      match CredsTree.getOptional credsTree (userid ++ ".secretkey") with
      | none => pure ⟨pubkey, uninit⟩
      | some seckeyb64 =>
        let seckeyvec ← base642bin codec seckeyb64
        let seckey ← moveBytes secretKeyBytes seckeyvec
        pure ⟨pubkey, seckey⟩

/-- `export_pubkey`. The name of the key is not used. -/
def exportPubkey (codec : TextCodec) (dirs : Directories) (outfname : String)
    (outfile : Option CredsTree) (userid : String) (pk : Pkarr) : Except Thrown CredsTree := do
  let credsTree ← readOrCreateUsersPtree dirs outfname outfile
  (credsTree.put (CredsTree.path (userid ++ ".publickey"))
    (codec.bin2base64 pk.1)).mapError .ofProperty

/-! ### The tool -/

/-- A command, with the files that it is given, and the pair that is drawn. -/
inductive AuthCommand (F : Type) where
  | createuser (client : F) (userid : String) (keys : Keypair)
  | authuser (client server : F) (userid : String) (authlevel : Int32) (keyname : String)
  | exportuser (client exportfile : F) (userid : String)

/-- What comes of a command. -/
inductive AuthOutcome where
  /-- This public key was made, authorised or exported. -/
  | done (pk : Pkarr)
  /-- The user already exists. -/
  | refused
  | thrown (e : Thrown)

/-- The files that there are. -/
abbrev CredentialFiles (F : Type) := F → Option CredsTree

/-- Where the files are: their names, and the directories that there are. To create a directory
that is there does nothing, so that those which the tool creates need not be kept track of. -/
structure Places (F : Type) where
  fname : F → String
  dirs : Directories

namespace CredentialFiles

variable {F : Type} [DecidableEq F] (codec : TextCodec) (uninit : Skarr) (places : Places F)

/-- Write a tree to a file. -/
def write (files : CredentialFiles F) (f : F) (credsTree : CredsTree) : CredentialFiles F :=
  Function.update files f (some credsTree)

/-- `read_or_create_users_ptree` adds the file, if it can be created. -/
def readOrCreate (files : CredentialFiles F) (f : F) : CredentialFiles F :=
  match readOrCreateUsersPtree places.dirs (places.fname f) (files f) with
  | .ok credsTree => files.write f credsTree
  | .error _ => files

/-- A command that goes on with a public key that it reads from a store, if there is one. -/
def withPublicKey (files : CredentialFiles F) (client : F) (userid : String)
    (next : Pkarr → CredentialFiles F × AuthOutcome) :
    Option (CredentialFiles F × AuthOutcome) :=
  (getCredsFromClientFile codec uninit (files client) userid).run.map fun
    | .error e => (files, .thrown e)
    | .ok keys => next keys.pk

/-- `main`, if it is defined what it does. -/
def command (files : CredentialFiles F) :
    AuthCommand F → Option (CredentialFiles F × AuthOutcome)
  | .createuser client userid keys =>
    match saveCredsToFile codec places.dirs (places.fname client) (files client) userid keys with
    | .error e => some (files.readOrCreate places client, .thrown e)
    | .ok none => some (files.readOrCreate places client, .refused)
    | .ok (some credsTree) => some (files.write client credsTree, .done keys.pk)
  | .authuser client server userid authlevel keyname =>
    files.withPublicKey codec uninit client userid fun pk =>
      match authUserToFile codec places.dirs (places.fname server) (files server)
          ⟨userid, pk, authlevel, keyname⟩ with
      | .error e => (files.readOrCreate places server, .thrown e)
      | .ok credsTree => (files.write server credsTree, .done pk)
  | .exportuser client exportfile userid =>
    files.withPublicKey codec uninit client userid fun pk =>
      match exportPubkey codec places.dirs (places.fname exportfile) (files exportfile)
          userid pk with
      | .error e => (files.readOrCreate places exportfile, .thrown e)
      | .ok credsTree => (files.write exportfile credsTree, .done pk)

end CredentialFiles

section Runs

variable {F : Type} [DecidableEq F] (codec : TextCodec) (uninit : Skarr) (places : Places F)

/-- Runs of the tool, from no files. -/
def authTool : TransitionSystem (CredentialFiles F) (AuthCommand F) where
  init := fun _ => none
  step files c := (files.command codec uninit places c).map Prod.fst

/-- What is seen of a command. -/
def observeAuth (files : CredentialFiles F) (c : AuthCommand F) :
    Option (AuthCommand F × AuthOutcome) :=
  (files.command codec uninit places c).map fun r => (c, r.2)

end Runs

/-- A name is a path of its own. -/
def PlainName (name : String) : Prop := Dotless name ∧ name ≠ ""

instance (name : String) : Decidable (PlainName name) := inferInstanceAs (Decidable (_ ∧ _))

/-- The names of a command are paths of their own, and no store is used both as one of a client and
as one of a server. -/
def AuthCommand.Proper {F : Type} (isServer : F → Bool) : AuthCommand F → Prop
  | .createuser client userid _ => isServer client = false ∧ PlainName userid
  | .authuser client server userid _ keyname =>
    isServer client = false ∧ isServer server = true ∧ PlainName userid ∧ PlainName keyname
  | .exportuser client exportfile userid =>
    isServer client = false ∧ isServer exportfile = false ∧ PlainName userid

instance {F : Type} (isServer : F → Bool) (c : AuthCommand F) : Decidable (c.Proper isServer) := by
  cases c <;> exact inferInstanceAs (Decidable (_ ∧ _))

/-! ### What has been done -/

section Spec

variable {F : Type} [DecidableEq F]

/-- The public key that a command puts into a store of a client. -/
def publicEffect : AuthCommand F × AuthOutcome → F × String → Option (Option Pkarr)
  | (.createuser f userid _, .done pk), k | (.exportuser _ f userid, .done pk), k =>
    if k = (f, userid) then some (some pk) else none
  | _, _ => none

/-- The secret key. -/
def secretEffect : AuthCommand F × AuthOutcome → F × String → Option (Option Skarr)
  | (.createuser f userid keys, .done _), k =>
    if k = (f, userid) then some (some keys.sk) else none
  | _, _ => none

variable (log : List (AuthCommand F × AuthOutcome))

/-- The public key of a user in a client's store, as it was made or exported last. -/
def publicKey (f : F) (userid : String) : Option Pkarr := lastEffect publicEffect log (f, userid)

/-- The secret key. -/
def secretKey (f : F) (userid : String) : Option Skarr := lastEffect secretEffect log (f, userid)

/-- The authorisation in a server's store that a command is. -/
def authorisation (f : F) : AuthCommand F × AuthOutcome → Option AuthUser
  | (.authuser _ server userid authlevel keyname, .done pk) =>
    if server = f then some ⟨userid, pk, authlevel, keyname⟩ else none
  | _ => none

/-- All authorisations in a server's store. -/
def authorisations (f : F) : List AuthUser := log.filterMap (authorisation f)

/-- The pair was made for the user. -/
def MadeFor (userid : String) (keys : Keypair) : Prop :=
  ∃ f, (AuthCommand.createuser f userid keys, AuthOutcome.done keys.pk) ∈ log

/-- No key of the user has been exported into the store. -/
def NeverExported (f : F) (userid : String) : Prop :=
  ∀ w ∈ log, ∀ client, w.1 ≠ .exportuser client f userid

/-- A command is undefined: the client's store is there, but has no public key of the user. -/
def Undefined : AuthCommand F → Prop
  | .createuser _ _ _ => False
  | .authuser f _ userid _ _ | .exportuser f _ userid =>
    publicKey log f userid = none ∧ ∃ userid', publicKey log f userid' ≠ none

/-- **What comes of a command**, after the earlier ones. -/
def ToolConforms (places : Places F) (log : List (AuthCommand F × AuthOutcome)) :
    AuthCommand F × AuthOutcome → Prop
  | (.createuser f userid keys, out) =>
    out = if ¬ HasDirectory (places.fname f) then .thrown noDirectory
      else if (secretKey log f userid).isSome then .refused
      else .done keys.pk
  | (.authuser f written userid _ _, out) | (.exportuser f written userid, out) =>
    out = match publicKey log f userid with
      | some pk =>
        if HasDirectory (places.fname written) then .done pk else .thrown noDirectory
      | none => .thrown (.outOfRange "file doesn't exist")

/-- A server that has these credentials lets users log in exactly with the keys that were authorised
last, at the level of the last authorisation. -/
def LetsIn (calls : List AuthUser) (creds : CredentialsMap Pkarr) : Prop :=
  ∀ {Challenge Signature SessionKey : Type} [DecidableEq SessionKey]
    (verify : Signature → Challenge → Pkarr → Bool) (validHours : Int)
    (s : AuthRun Challenge Pkarr SessionKey) (userid : String) (id : UInt32) (sig : Signature)
    (sessionkey : SessionKey) (now : Int) (bytes : Challenge)
    (r : AuthHandler Challenge Pkarr SessionKey × Except Thrown (Verdict SessionKey)),
    (authSystem verify creds validHours).Reachable s →
      s.handler.challenges.lookup id = some (userid, bytes) →
        s.handler.verifyResponse verify userid id sig sessionkey now = some r →
          ∀ level, (∃ login, r.2 = .ok ⟨true, level, some login⟩) ↔
            (∃ keyname pk, lastKey calls userid keyname = some pk ∧ verify sig bytes pk = true) ∧
              (lastLevel calls userid).map Int32.toInt = some level

end Spec

/-! ### Names of stores -/

section Names

variable {codec : TextCodec} {dirs : Directories} {fname : String} {file : Option CredsTree}
  {userid : String}

/-- What can be saved is saved, if the file has a directory. -/
private theorem saveCredsToFile_of_ok {keys : Keypair} {saved : Option CredsTree}
    (hdir : HasDirectory fname) (h : saveCreds codec (file.getD .empty) userid keys = .ok saved) :
    saveCredsToFile codec dirs fname file userid keys = .ok saved :=
  bind_eq_ok_iff.mpr ⟨_, readOrCreateUsersPtree_eq_ok_iff.mpr ⟨fun _ => hdir, rfl⟩, by rw [h]; rfl⟩

/-- A new file without a directory is not written. -/
private theorem saveCredsToFile_none {keys : Keypair} (hdir : ¬ HasDirectory fname) :
    saveCredsToFile codec dirs fname none userid keys = .error noDirectory :=
  bind_eq_error_iff.mpr (.inl (readOrCreateUsersPtree_none hdir))

/-- A user is not authorised in a new file without a directory. -/
private theorem authUserToFile_none {c : AuthUser} (hdir : ¬ HasDirectory fname) :
    authUserToFile codec dirs fname none c = .error noDirectory :=
  bind_eq_error_iff.mpr (.inl (readOrCreateUsersPtree_none hdir))

/-- A public key is exported, if the file has a directory. -/
private theorem exportPubkey_of_ok {pk : Pkarr} {t : CredsTree} (hdir : HasDirectory fname)
    (h : (file.getD .empty).put (CredsTree.path (userid ++ ".publickey"))
      (codec.bin2base64 pk.1) = .ok t) :
    exportPubkey codec dirs fname file userid pk = .ok t :=
  bind_eq_ok_iff.mpr ⟨_, readOrCreateUsersPtree_eq_ok_iff.mpr ⟨fun _ => hdir, rfl⟩, by rw [h]; rfl⟩

/-- A public key is not exported to a new file without a directory. -/
private theorem exportPubkey_none {pk : Pkarr} (hdir : ¬ HasDirectory fname) :
    exportPubkey codec dirs fname none userid pk = .error noDirectory :=
  bind_eq_error_iff.mpr (.inl (readOrCreateUsersPtree_none hdir))

end Names

/-! ### A store of a client

The paths of a user's keys in it have two parts each, of plain names, so each key has its own node.
-/

section Stores

variable {codec : TextCodec} {uninit : Skarr} {userid : String}

/-- The path of a key of a user. -/
theorem path_child (huser : Dotless userid) (name : String) (hname : '.' ∉ name.toList)
    (hne : name ≠ "") :
    CredsTree.path (userid ++ (String.singleton '.' ++ name)) = .ofNames [userid] name := by
  rw [← String.append_assoc, CredsTree.path, PropertyPath.parse_append huser,
    PropertyPath.parse_of_not_mem hname hne]
  rfl

private theorem path_publickey (huser : Dotless userid) :
    CredsTree.path (userid ++ ".publickey") = .ofNames [userid] "publickey" :=
  path_child huser "publickey" (by decide) (by decide)

private theorem path_secretkey (huser : Dotless userid) :
    CredsTree.path (userid ++ ".secretkey") = .ofNames [userid] "secretkey" :=
  path_child huser "secretkey" (by decide) (by decide)

/-- A store of a client has these keys, and there is none without keys. -/
structure Keeps (codec : TextCodec) (file : Option CredsTree) (pub : String → Option Pkarr)
    (sec : String → Option Skarr) : Prop where
  isSome_iff : file.isSome ↔ ∃ userid, pub userid ≠ none
  paired : ∀ userid, sec userid ≠ none → pub userid ≠ none
  publickey : ∀ userid, Dotless userid →
    (file.getD .empty).getOptional (userid ++ ".publickey") =
      (pub userid).map fun pk => codec.bin2base64 pk.1
  secretkey : ∀ userid, Dotless userid →
    (file.getD .empty).getOptional (userid ++ ".secretkey") =
      (sec userid).map fun sk => codec.bin2base64 sk.1

private theorem keeps_none : Keeps codec none (fun _ => none) fun _ => none where
  isSome_iff := by simp
  paired _ h := absurd rfl h
  publickey userid huser := by
    rw [CredsTree.getOptional, path_publickey huser]
    rfl
  secretkey userid huser := by
    rw [CredsTree.getOptional, path_secretkey huser]
    rfl

/-- A key that is put is read, and the others stay. -/
theorem exists_put_key (userid name value : String) (credsTree : CredsTree) :
    ∃ t : CredsTree, credsTree.put (.ofNames [userid] name) value = .ok t ∧
      ∀ userid', Dotless userid' →
        t.getOptional (userid' ++ ".publickey") =
          (if userid' = userid ∧ "publickey" = name then some value
          else credsTree.getOptional (userid' ++ ".publickey")) ∧
        t.getOptional (userid' ++ ".secretkey") =
          if userid' = userid ∧ "secretkey" = name then some value
          else credsTree.getOptional (userid' ++ ".secretkey") := by
  obtain ⟨t, hput, hread⟩ := PropertyTree.exists_put [userid] name value credsTree
  refine ⟨t, hput, fun userid' huser' => ?_⟩
  simp only [CredsTree.getOptional, path_publickey huser', path_secretkey huser',
    hread [userid'] _ rfl, List.cons.injEq, and_true]

variable {file : Option CredsTree} {pub : String → Option Pkarr} {sec : String → Option Skarr}

/-- A new user gets a pair. -/
theorem Keeps.create (h : Keeps codec file pub sec) (huser : Dotless userid)
    (hnew : sec userid = none) (keys : Keypair) :
    ∃ t, saveCreds codec (file.getD .empty) userid keys = .ok (some t) ∧
      Keeps codec (some t) (Function.update pub userid (some keys.pk))
        (Function.update sec userid (some keys.sk)) := by
  obtain ⟨t₁, hput₁, hread₁⟩ := exists_put_key userid "publickey" (codec.bin2base64 keys.pk.1)
    (file.getD .empty)
  obtain ⟨t, hput, hread⟩ := exists_put_key userid "secretkey" (codec.bin2base64 keys.sk.1) t₁
  have hnone : (file.getD .empty).getOptional (userid ++ ".secretkey") = none := by
    rw [h.secretkey userid huser, hnew]
    rfl
  refine ⟨t, ?_, ⟨iff_of_true rfl ⟨userid, ?_⟩, fun userid' hsec => ?_,
    fun userid' huser' => ?_, fun userid' huser' => ?_⟩⟩
  · rw [saveCreds, path_publickey huser, path_secretkey huser, hnone]
    simp only [hput₁]
    exact bind_eq_ok_iff.mpr ⟨t₁, rfl, bind_eq_ok_iff.mpr ⟨t, hput, rfl⟩⟩
  · rw [Function.update_self]
    exact Option.some_ne_none _
  · rw [Function.update_apply] at hsec ⊢
    split_ifs at hsec ⊢ with heq
    · exact Option.some_ne_none _
    · exact h.paired userid' hsec
  · rw [Option.getD_some, (hread userid' huser').1, if_neg (by simp), (hread₁ userid' huser').1,
      h.publickey userid' huser', Function.update_apply]
    by_cases heq : userid' = userid <;> simp [heq]
  · have hpublic : ¬ (userid' = userid ∧ "secretkey" = "publickey") := by simp
    rw [Option.getD_some, (hread userid' huser').2, (hread₁ userid' huser').2, if_neg hpublic,
      h.secretkey userid' huser', Function.update_apply]
    by_cases heq : userid' = userid <;> simp [heq]

/-- A user who has a secret key is not created again. -/
theorem Keeps.refuse (h : Keeps codec file pub sec) (huser : Dotless userid)
    (hold : sec userid ≠ none) (keys : Keypair) :
    saveCreds codec (file.getD .empty) userid keys = .ok none := by
  obtain ⟨sk, hsk⟩ := Option.ne_none_iff_exists'.mp hold
  have hsome : (file.getD .empty).getOptional (userid ++ ".secretkey") =
      some (codec.bin2base64 sk.1) := by
    rw [h.secretkey userid huser, hsk]
    rfl
  rw [saveCreds, hsome]
  rfl

/-- A public key is exported. -/
theorem Keeps.exported (h : Keeps codec file pub sec) (huser : Dotless userid) (pk : Pkarr) :
    ∃ t : CredsTree, (file.getD .empty).put (CredsTree.path (userid ++ ".publickey"))
        (codec.bin2base64 pk.1) = .ok t ∧
      Keeps codec (some t) (Function.update pub userid (some pk)) sec := by
  obtain ⟨t, hput, hread⟩ := exists_put_key userid "publickey" (codec.bin2base64 pk.1)
    (file.getD .empty)
  refine ⟨t, ?_, ⟨iff_of_true rfl ⟨userid, ?_⟩, fun userid' hsec => ?_,
    fun userid' huser' => ?_, fun userid' huser' => ?_⟩⟩
  · rw [path_publickey huser, hput]
  · rw [Function.update_self]
    exact Option.some_ne_none _
  · rw [Function.update_apply]
    split_ifs
    · exact Option.some_ne_none _
    · exact h.paired userid' hsec
  · rw [Option.getD_some, (hread userid' huser').1, h.publickey userid' huser',
      Function.update_apply]
    by_cases heq : userid' = userid <;> simp [heq]
  · rw [Option.getD_some, (hread userid' huser').2, if_neg (by simp), h.secretkey userid' huser']

/-- Keys in base64 are read back. -/
theorem run_readKey (hcodec : codec.Lawful) {size : ℕ} (hsize : size ≤ 4096)
    (key : { bytes : List UInt8 // bytes.length = size }) :
    (base642bin codec (codec.bin2base64 key.1) >>= moveBytes size).run = some (.ok key) := by
  have hdecode := hcodec.base642bin_bin2base64 4096 key.1 (by rw [key.2]; exact hsize)
  rw [LoadM.run_bind_of_ok (run_base642bin_of_some hdecode), moveBytes, dif_pos key.2.ge]
  have htake : key.1.take size = key.1 := List.take_of_length_le key.2.le
  simp only [htake]
  rfl

/-- **What is read of a user whom a store knows.** -/
theorem Keeps.get (hcodec : codec.Lawful) (h : Keeps codec file pub sec) (huser : Dotless userid)
    {pk : Pkarr} (hpk : pub userid = some pk) :
    (getCredsFromClientFile codec uninit file userid).run =
      some (.ok ⟨pk, (sec userid).getD uninit⟩) := by
  obtain ⟨t, rfl⟩ := Option.isSome_iff_exists.mp
    (h.isSome_iff.mpr ⟨userid, by rw [hpk]; exact Option.some_ne_none pk⟩)
  have hpublic := h.publickey userid huser
  have hsecret := h.secretkey userid huser
  rw [hpk, Option.map_some, Option.getD_some] at hpublic
  rw [Option.getD_some] at hsecret
  obtain ⟨bytes, hbytes, hmove⟩ :=
    LoadM.run_bind_eq_ok_iff.mp (run_readKey hcodec (by decide) pk)
  rw [getCredsFromClientFile, hpublic]
  refine LoadM.run_bind_eq_ok_iff.mpr
    ⟨bytes, hbytes, LoadM.run_bind_eq_ok_iff.mpr ⟨pk, hmove, ?_⟩⟩
  rw [hsecret]
  cases sec userid with
  | none => rfl
  | some sk =>
    obtain ⟨bytes', hbytes', hmove'⟩ :=
      LoadM.run_bind_eq_ok_iff.mp (run_readKey hcodec (by decide) sk)
    exact LoadM.run_bind_eq_ok_iff.mpr
      ⟨bytes', hbytes', LoadM.run_bind_eq_ok_iff.mpr ⟨sk, hmove', rfl⟩⟩

/-- What is read of another user: nothing, if there is no store, and else it is undefined. -/
theorem Keeps.get_none (h : Keeps codec file pub sec) (huser : Dotless userid)
    (hpk : pub userid = none) :
    (getCredsFromClientFile codec uninit file userid).run =
      if file.isSome then none else some (.error (.outOfRange "file doesn't exist")) := by
  have hpublic := h.publickey userid huser
  rw [hpk, Option.map_none] at hpublic
  cases file with
  | none => rfl
  | some t =>
    rw [Option.getD_some] at hpublic
    rw [getCredsFromClientFile, hpublic]
    rfl

end Stores

/-! ### A store of a server -/

/-- A store of a server is there if there are authorisations, and has them. -/
structure Authorises (codec : TextCodec) (file : Option CredsTree) (calls : List AuthUser) :
    Prop where
  none_of_nil : calls = [] → file = none
  book : calls ≠ [] → ∃ b, file = some (bookTree codec b) ∧ Describes b calls

private theorem authorises_nil (codec : TextCodec) : Authorises codec none [] :=
  ⟨fun _ => rfl, fun h => absurd rfl h⟩

/-- A user is authorised. -/
theorem Authorises.authorise {codec : TextCodec} (hcodec : codec.Lawful)
    {file : Option CredsTree} {calls : List AuthUser} (h : Authorises codec file calls)
    {c : AuthUser} (huser : PlainName c.userid) (hkey : PlainName c.keyname) :
    ∃ t, authUser codec (file.getD .empty) c = .ok t ∧
      Authorises codec (some t) (calls ++ [c]) := by
  obtain ⟨b, hfile, hb⟩ : ∃ b, file.getD .empty = bookTree codec b ∧ Describes b calls := by
    by_cases hcalls : calls = []
    · rw [h.none_of_nil hcalls, hcalls]
      exact ⟨[], rfl, describes_nil⟩
    · obtain ⟨b, hfile, hb⟩ := h.book hcalls
      exact ⟨b, by rw [hfile, Option.getD_some], hb⟩
  refine ⟨bookTree codec (b.auth c), ?_, ⟨fun hnil => ?_, fun _ => ⟨_, rfl, hb.auth c⟩⟩⟩
  · rw [hfile]
    exact authUser_bookTree hcodec hb.complete huser.1 hkey.1 hkey.2 fun hempty =>
      absurd hempty huser.2
  · exact absurd hnil (List.append_ne_nil_of_right_ne_nil _ (List.cons_ne_nil _ _))

/-- What a server has loaded lets in those who have been authorised. -/
theorem letsIn_of_holds {calls : List AuthUser} {creds : CredentialsMap Pkarr}
    (h : Holds calls creds) : LetsIn calls creds := by
  intro Challenge Signature SessionKey _ verify validHours s userid id sig sessionkey now bytes r hs
    hid hr level
  have hcreds : s.handler.creds = creds := creds_of_reachable hs
  have hlevel := h.levels userid
  obtain ⟨hmissing, e, rfl⟩ | ⟨credit, origuserid, bytes', s₁, hcredit, hid', -, hverified⟩ :=
    AuthHandler.verifyResponse_cases hr
  · -- the challenge is there, so it is the user who is not
    have hunknown : userid ∉ s.handler.creds := hmissing.resolve_right fun hnone => by
      rw [← AList.lookup_eq_none, hid] at hnone
      cases hnone
    rw [hcreds] at hunknown
    rw [AList.lookup_eq_none.mpr hunknown, Option.map_none] at hlevel
    refine iff_of_false ?_ fun hin => ?_
    · rintro ⟨login, heq⟩
      cases heq
    · rw [← hlevel] at hin
      cases hin.2
  · rw [hid] at hid'
    obtain ⟨rfl, rfl⟩ := Prod.mk.inj (Option.some.inj hid')
    rw [hcreds] at hcredit
    rw [hcredit, Option.map_some] at hlevel
    have hkeys := h.keys userid credit hcredit
    cases hverified with
    | mismatch hne => exact absurd rfl hne
    | failed _ hnone =>
      refine iff_of_false ?_ fun hin => ?_
      · rintro ⟨login, heq⟩
        cases heq
      · obtain ⟨⟨keyname, pk, hlast, hsig⟩, -⟩ := hin
        exact hnone _ ((hkeys keyname pk).mpr hlast) hsig
    | login _ hsome =>
      obtain ⟨⟨keyname, pk⟩, hmem, hsig⟩ := hsome
      rw [← hlevel, Option.some_inj]
      constructor
      · rintro ⟨login, heq⟩
        exact ⟨⟨keyname, pk, (hkeys keyname pk).mp hmem, hsig⟩,
          congrArg Verdict.authlevel (Except.ok.inj heq)⟩
      · rintro ⟨-, rfl⟩
        exact ⟨_, rfl⟩

/-! ### The record

Facts about the record alone, by induction on the commands: a pair was drawn for the user for whom
it is made, and exports and authorisations only pass on what was there. -/

section Record

variable {F : Type} [DecidableEq F] {log : List (AuthCommand F × AuthOutcome)} {places : Places F}
  {w : AuthCommand F × AuthOutcome} {f client : F} {userid : String} {pk : Pkarr}

/-- An event that puts something under a user of a store. -/
theorem lastEffect_concat_of_puts {ω α : Type} {effect : ω → F × String → Option (Option α)}
    {ws : List ω} {v : ω} {a : α}
    (h : ∀ k, effect v k = if k = (client, userid) then some (some a) else none) (f : F) :
    (fun userid' => lastEffect effect (ws ++ [v]) (f, userid')) =
      if f = client then
        Function.update (fun userid' => lastEffect effect ws (f, userid')) userid (some a)
      else fun userid' => lastEffect effect ws (f, userid') := by
  funext userid'
  rw [lastEffect_concat, h]
  by_cases hf : f = client
  · by_cases huser : userid' = userid <;> simp [hf, huser]
  · simp [hf]

omit [DecidableEq F] in
/-- An event without effects leaves those before it. -/
private theorem lastEffect_concat_of_silent {ω α : Type}
    {effect : ω → F × String → Option (Option α)}
    {ws : List ω} {v : ω} (h : ∀ k, effect v k = none) (f : F) :
    (fun userid' => lastEffect effect (ws ++ [v]) (f, userid')) =
      fun userid' => lastEffect effect ws (f, userid') := by
  funext userid'
  rw [lastEffect_concat, h, Option.getD_none]

/-- The authorisations in a store, command by command. -/
private theorem authorisations_concat (f : F) :
    authorisations (log ++ [w]) f = authorisations log f ++ (authorisation f w).toList := by
  rw [authorisations, authorisations, List.filterMap_append]
  cases hw : authorisation f w <;> simp [hw]

omit [DecidableEq F] in
/-- Keys have been made for their user once and for all. -/
theorem MadeFor.concat {keys : Keypair} (h : MadeFor log userid keys)
    (w : AuthCommand F × AuthOutcome) : MadeFor (log ++ [w]) userid keys := by
  obtain ⟨f, hmem⟩ := h
  exact ⟨f, List.mem_append_left _ hmem⟩

/-- A command that has gone on with a key has found it. -/
theorem eq_some_of_done {found : Option Pkarr} {written : Prop} [Decidable written]
    (h : AuthOutcome.done pk = match found with
      | some pk => if written then .done pk else .thrown noDirectory
      | none => .thrown (.outOfRange "file doesn't exist")) : found = some pk := by
  cases found with
  | none => cases h
  | some pk' =>
    simp only at h
    split_ifs at h
    exact congrArg some (AuthOutcome.done.inj h).symm

/-- A pair that has been made is the one that was drawn. -/
theorem eq_of_created {keys : Keypair}
    (h : ToolConforms places log (.createuser f userid keys, .done pk)) : keys.pk = pk := by
  rw [ToolConforms] at h
  split_ifs at h
  exact (AuthOutcome.done.inj h).symm

/-- **Every public key in a store was made for its user.** -/
theorem made_of_conforms (h : Throughout (ToolConforms places) log) :
    publicKey log f userid = some pk → ∃ sk, MadeFor log userid ⟨pk, sk⟩ := by
  induction log using List.reverseRecOn generalizing f userid pk with
  | nil => exact fun hnone => absurd hnone.symm (Option.some_ne_none pk)
  | append_singleton log w ih =>
    obtain ⟨hlog, hw⟩ := throughout_concat.mp h
    intro hpk
    have hold : publicKey log f userid = some pk → ∃ sk, MadeFor (log ++ [w]) userid ⟨pk, sk⟩ := by
      intro hpk
      obtain ⟨sk, hmade⟩ := ih hlog hpk
      exact ⟨sk, hmade.concat w⟩
    rw [publicKey, lastEffect_concat] at hpk
    obtain ⟨c, out⟩ := w
    cases out with
    | refused | thrown => cases c <;> exact hold hpk
    | done pk' =>
      cases c with
      | authuser => exact hold hpk
      | createuser client userid' keys =>
        rw [publicEffect] at hpk
        split_ifs at hpk with hk
        · obtain ⟨rfl, rfl⟩ := Prod.mk.inj hk
          obtain rfl := Option.some.inj hpk
          obtain rfl := eq_of_created hw
          exact ⟨keys.sk, f, List.mem_append_right _ (List.mem_singleton.mpr rfl)⟩
        · exact hold hpk
      | exportuser client exportfile userid' =>
        rw [publicEffect] at hpk
        split_ifs at hpk with hk
        · obtain ⟨rfl, rfl⟩ := Prod.mk.inj hk
          obtain rfl := Option.some.inj hpk
          -- the key was in another store before
          obtain ⟨sk, hmade⟩ := ih hlog (eq_some_of_done hw)
          exact ⟨sk, hmade.concat _⟩
        · exact hold hpk

/-- **Every key that is authorised was made for its user.** -/
theorem made_of_authorised (h : Throughout (ToolConforms places) log) :
    ∀ c ∈ authorisations log f, ∃ sk, MadeFor log c.userid ⟨c.pk, sk⟩ := by
  induction log using List.reverseRecOn with
  | nil => exact fun c hc => absurd hc List.not_mem_nil
  | append_singleton log w ih =>
    obtain ⟨hlog, hw⟩ := throughout_concat.mp h
    intro c hc
    rw [authorisations_concat, List.mem_append] at hc
    obtain hc | hc := hc
    · obtain ⟨sk, hmade⟩ := ih hlog c hc
      exact ⟨sk, hmade.concat w⟩
    · rw [Option.mem_toList] at hc
      obtain ⟨command, out⟩ := w
      cases out with
      | refused | thrown => cases command <;> cases hc
      | done pk =>
        cases command with
        | createuser | exportuser => cases hc
        | authuser client server userid authlevel keyname =>
          rw [authorisation] at hc
          split_ifs at hc
          obtain rfl := Option.some.inj hc
          obtain ⟨sk, hmade⟩ := made_of_conforms hlog (eq_some_of_done hw)
          exact ⟨sk, hmade.concat _⟩

/-- **The keys in a store are a pair**, if nothing has been exported over it. -/
theorem paired_of_conforms {sk : Skarr} (h : Throughout (ToolConforms places) log)
    (hnever : NeverExported log f userid) : publicKey log f userid = some pk →
      secretKey log f userid = some sk → MadeFor log userid ⟨pk, sk⟩ := by
  induction log using List.reverseRecOn with
  | nil => exact fun hnone => absurd hnone.symm (Option.some_ne_none pk)
  | append_singleton log w ih =>
    obtain ⟨hlog, hw⟩ := throughout_concat.mp h
    intro hpk hsk
    have hold : publicKey log f userid = some pk → secretKey log f userid = some sk →
        MadeFor (log ++ [w]) userid ⟨pk, sk⟩ := fun hpk hsk =>
      (ih hlog (fun v hv => hnever v (List.mem_append_left _ hv)) hpk hsk).concat w
    have hlast := hnever w (List.mem_append_right _ (List.mem_singleton.mpr rfl))
    rw [publicKey, lastEffect_concat] at hpk
    rw [secretKey, lastEffect_concat] at hsk
    obtain ⟨c, out⟩ := w
    cases out with
    | refused | thrown => cases c <;> exact hold hpk hsk
    | done pk' =>
      cases c with
      | authuser => exact hold hpk hsk
      | createuser client userid' keys =>
        rw [publicEffect] at hpk
        rw [secretEffect] at hsk
        split_ifs at hpk hsk with hk
        · obtain ⟨rfl, rfl⟩ := Prod.mk.inj hk
          obtain rfl := Option.some.inj hpk
          obtain rfl := Option.some.inj hsk
          -- `createuser` writes both keys of the pair that it has drawn
          obtain rfl := eq_of_created hw
          exact ⟨f, List.mem_append_right _ (List.mem_singleton.mpr rfl)⟩
        · exact hold hpk hsk
      | exportuser client exportfile userid' =>
        rw [publicEffect] at hpk
        split_ifs at hpk with hk
        · obtain ⟨rfl, rfl⟩ := Prod.mk.inj hk
          -- only an export would write the public key without the secret one
          exact absurd rfl (hlast client)
        · exact hold hpk hsk

end Record

/-! ### What a command does -/

section Commands

variable {F : Type} [DecidableEq F] {codec : TextCodec} {uninit : Skarr} {isServer : F → Bool}
  {places : Places F} {files files' : CredentialFiles F}
  {log : List (AuthCommand F × AuthOutcome)}

/-- The files are what the commands have made of them. -/
structure FilesFollow (codec : TextCodec) (isServer : F → Bool) (places : Places F)
    (files : CredentialFiles F) (log : List (AuthCommand F × AuthOutcome)) : Prop where
  clients : ∀ f, isServer f = false →
    Keeps codec (files f) (publicKey log f) (secretKey log f)
  servers : ∀ f, isServer f = true → Authorises codec (files f) (authorisations log f)
  /-- No file has been created that is named without a directory. -/
  placed : ∀ f, ¬ HasDirectory (places.fname f) → files f = none

private theorem filesFollow_nil (codec : TextCodec) (isServer : F → Bool) (places : Places F) :
    FilesFollow codec isServer places (fun _ => none) [] :=
  ⟨fun _ _ => keeps_none, fun _ _ => authorises_nil codec, fun _ _ => rfl⟩

/-- A file that is there is not created. -/
theorem readOrCreate_of_some {f : F} {t : CredsTree} (h : files f = some t) :
    files.readOrCreate places f = files := by
  rw [CredentialFiles.readOrCreate, h]
  change files.write f t = files
  rw [CredentialFiles.write, ← h, Function.update_eq_self]

/-- A file that is named without a directory is not created either. -/
theorem FilesFollow.readOrCreate_of_not (h : FilesFollow codec isServer places files log) {f : F}
    (hdir : ¬ HasDirectory (places.fname f)) : files.readOrCreate places f = files := by
  rw [CredentialFiles.readOrCreate, h.placed f hdir, readOrCreateUsersPtree_none hdir]

/-- Files that are named with directories are written. -/
theorem FilesFollow.placed_write (h : FilesFollow codec isServer places files log) {f : F}
    (hdir : HasDirectory (places.fname f)) (t : CredsTree) :
    ∀ f', ¬ HasDirectory (places.fname f') → files.write f t f' = none := by
  intro f' hf'
  have hne : f' ≠ f := fun heq => hf' (heq ▸ hdir)
  rw [CredentialFiles.write, Function.update_of_ne hne]
  exact h.placed f' hf'

/-- A command that does nothing. -/
theorem FilesFollow.silent {w : AuthCommand F × AuthOutcome}
    (h : FilesFollow codec isServer places files log) (hpublic : ∀ k, publicEffect w k = none)
    (hsecret : ∀ k, secretEffect w k = none) (hauth : ∀ f, authorisation f w = none) :
    FilesFollow codec isServer places files (log ++ [w]) := by
  refine ⟨fun f hf => ?_, fun f hf => ?_, h.placed⟩
  · have hpub : publicKey (log ++ [w]) f = publicKey log f := lastEffect_concat_of_silent hpublic f
    have hsec : secretKey (log ++ [w]) f = secretKey log f := lastEffect_concat_of_silent hsecret f
    rw [hpub, hsec]
    exact h.clients f hf
  · rw [authorisations_concat, hauth, Option.toList_none, List.append_nil]
    exact h.servers f hf

/-- A command that writes a store of a client. -/
theorem FilesFollow.writeClient {w : AuthCommand F × AuthOutcome} {f : F} {t : CredsTree}
    (h : FilesFollow codec isServer places files log) (hf : isServer f = false)
    (hdir : HasDirectory (places.fname f)) (hauth : ∀ f', authorisation f' w = none)
    (hother : ∀ f', f' ≠ f → publicKey (log ++ [w]) f' = publicKey log f' ∧
      secretKey (log ++ [w]) f' = secretKey log f')
    (hkeeps : Keeps codec (some t) (publicKey (log ++ [w]) f) (secretKey (log ++ [w]) f)) :
    FilesFollow codec isServer places (files.write f t) (log ++ [w]) := by
  refine ⟨fun f' hf' => ?_, fun f' hf' => ?_, h.placed_write hdir t⟩
  · rw [CredentialFiles.write, Function.update_apply]
    split_ifs with heq
    · rw [heq]
      exact hkeeps
    · rw [(hother f' heq).1, (hother f' heq).2]
      exact h.clients f' hf'
  · have hne : f' ≠ f := fun heq => by rw [heq, hf] at hf'; cases hf'
    rw [CredentialFiles.write, Function.update_of_ne hne, authorisations_concat, hauth,
      Option.toList_none, List.append_nil]
    exact h.servers f' hf'

/-- What a command makes of the public key that it looks for. -/
theorem FilesFollow.withPublicKey (hcodec : codec.Lawful)
    (h : FilesFollow codec isServer places files log) {f : F} (hf : isServer f = false)
    {userid : String} (huser : PlainName userid)
    (next : Pkarr → CredentialFiles F × AuthOutcome) :
    files.withPublicKey codec uninit f userid next =
      match publicKey log f userid with
      | some pk => some (next pk)
      | none =>
        if (files f).isSome then none
        else some (files, .thrown (.outOfRange "file doesn't exist")) := by
  have hkeeps := h.clients f hf
  rw [CredentialFiles.withPublicKey]
  cases hpk : publicKey log f userid with
  | some pk =>
    rw [hkeeps.get hcodec huser.1 hpk]
    rfl
  | none =>
    rw [hkeeps.get_none huser.1 hpk]
    split_ifs <;> rfl

/-- A command that looks for a public key goes on with it, or throws and leaves the files. -/
theorem FilesFollow.withPublicKey_cases (hcodec : codec.Lawful)
    (h : FilesFollow codec isServer places files log) {f : F} (hf : isServer f = false)
    {userid : String} (huser : PlainName userid) {next : Pkarr → CredentialFiles F × AuthOutcome}
    {out : AuthOutcome}
    (hcommand : files.withPublicKey codec uninit f userid next = some (files', out)) :
    (∃ pk, publicKey log f userid = some pk ∧ next pk = (files', out)) ∨
      publicKey log f userid = none ∧ files = files' ∧
        AuthOutcome.thrown (.outOfRange "file doesn't exist") = out := by
  rw [h.withPublicKey hcodec hf huser] at hcommand
  cases hpk : publicKey log f userid with
  | some pk =>
    rw [hpk] at hcommand
    exact .inl ⟨pk, rfl, Option.some.inj hcommand⟩
  | none =>
    rw [hpk] at hcommand
    simp only at hcommand
    split_ifs at hcommand
    exact .inr ⟨rfl, Prod.mk.inj (Option.some.inj hcommand)⟩

/-- `createuser` refuses a user who has a secret key, and makes a pair for another one. -/
theorem FilesFollow.createuser (h : FilesFollow codec isServer places files log) {f : F}
    (hf : isServer f = false) {userid : String} (huser : PlainName userid) {keys : Keypair}
    {out : AuthOutcome}
    (hcommand : files.command codec uninit places (.createuser f userid keys) =
      some (files', out)) :
    ToolConforms places log (.createuser f userid keys, out) ∧
      FilesFollow codec isServer places files' (log ++ [(.createuser f userid keys, out)]) := by
  have hkeeps := h.clients f hf
  rw [CredentialFiles.command] at hcommand
  rw [ToolConforms]
  by_cases hdir : HasDirectory (places.fname f)
  · rw [if_neg (not_not.mpr hdir)]
    cases hsec : secretKey log f userid with
    | some sk =>
      have hne : secretKey log f userid ≠ none := by rw [hsec]; exact Option.some_ne_none sk
      obtain ⟨t, ht⟩ := Option.isSome_iff_exists.mp
        (hkeeps.isSome_iff.mpr ⟨userid, hkeeps.paired userid hne⟩)
      rw [saveCredsToFile_of_ok hdir (hkeeps.refuse huser.1 hne keys)] at hcommand
      obtain ⟨rfl, rfl⟩ := Prod.mk.inj (Option.some.inj hcommand)
      -- a store with keys is there, so that it is not created
      rw [readOrCreate_of_some ht]
      exact ⟨rfl, h.silent (fun _ => rfl) (fun _ => rfl) fun _ => rfl⟩
    | none =>
      obtain ⟨t, hsave, hnew⟩ := hkeeps.create huser.1 hsec keys
      rw [saveCredsToFile_of_ok hdir hsave] at hcommand
      obtain ⟨rfl, rfl⟩ := Prod.mk.inj (Option.some.inj hcommand)
      have hpub : ∀ f', publicKey (log ++ [(.createuser f userid keys, .done keys.pk)]) f' =
          if f' = f then Function.update (publicKey log f') userid (some keys.pk)
          else publicKey log f' := lastEffect_concat_of_puts fun _ => rfl
      have hsec' : ∀ f', secretKey (log ++ [(.createuser f userid keys, .done keys.pk)]) f' =
          if f' = f then Function.update (secretKey log f') userid (some keys.sk)
          else secretKey log f' := lastEffect_concat_of_puts fun _ => rfl
      refine ⟨rfl, h.writeClient hf hdir (fun _ => rfl) (fun f' hne => ?_) ?_⟩
      · rw [hpub, hsec', if_neg hne, if_neg hne]
        exact ⟨rfl, rfl⟩
      · rw [hpub, hsec', if_pos rfl, if_pos rfl]
        exact hnew
  · rw [h.placed f hdir, saveCredsToFile_none hdir] at hcommand
    obtain ⟨rfl, rfl⟩ := Prod.mk.inj (Option.some.inj hcommand)
    rw [if_pos hdir, h.readOrCreate_of_not hdir]
    exact ⟨rfl, h.silent (fun _ => rfl) (fun _ => rfl) fun _ => rfl⟩

/-- `authuser` authorises with the public key of the client's store. -/
theorem FilesFollow.authuser (hcodec : codec.Lawful)
    (h : FilesFollow codec isServer places files log) {f server : F} (hf : isServer f = false)
    (hserver : isServer server = true) {userid keyname : String} (huser : PlainName userid)
    (hkey : PlainName keyname) {authlevel : Int32} {out : AuthOutcome}
    (hcommand : files.command codec uninit places (.authuser f server userid authlevel keyname) =
      some (files', out)) :
    ToolConforms places log (.authuser f server userid authlevel keyname, out) ∧
      FilesFollow codec isServer places files'
        (log ++ [(.authuser f server userid authlevel keyname, out)]) := by
  rw [CredentialFiles.command] at hcommand
  rw [ToolConforms]
  obtain ⟨pk, hpk, hnext⟩ | ⟨hpk, rfl, rfl⟩ := h.withPublicKey_cases hcodec hf huser hcommand
  · rw [hpk]
    simp only at hnext ⊢
    split_ifs with hdir
    · obtain ⟨t, hauth, hnew⟩ := (h.servers server hserver).authorise hcodec
        (c := ⟨userid, pk, authlevel, keyname⟩) huser hkey
      rw [authUserToFile_eq_ok_iff.mpr ⟨fun _ => hdir, hauth⟩] at hnext
      obtain ⟨rfl, rfl⟩ := Prod.mk.inj hnext
      refine ⟨rfl, fun f' hf' => ?_, fun f' hf' => ?_, h.placed_write hdir t⟩
      · have hpub : publicKey
            (log ++ [(.authuser f server userid authlevel keyname, .done pk)]) f' =
              publicKey log f' := lastEffect_concat_of_silent (fun _ => rfl) f'
        have hsec : secretKey
            (log ++ [(.authuser f server userid authlevel keyname, .done pk)]) f' =
              secretKey log f' := lastEffect_concat_of_silent (fun _ => rfl) f'
        -- a store of a client is not the one that is written
        have hne : f' ≠ server := fun heq => by rw [heq, hserver] at hf'; cases hf'
        rw [hpub, hsec, CredentialFiles.write, Function.update_of_ne hne]
        exact h.clients f' hf'
      · rw [authorisations_concat, authorisation, CredentialFiles.write, Function.update_apply]
        by_cases heq : f' = server
        · rw [if_pos heq, if_pos heq.symm, heq]
          exact hnew
        · rw [if_neg heq, if_neg (Ne.symm heq), Option.toList_none, List.append_nil]
          exact h.servers f' hf'
    · -- the store is new, and its directory cannot be created
      rw [h.placed server hdir, authUserToFile_none hdir] at hnext
      obtain ⟨rfl, rfl⟩ := Prod.mk.inj hnext
      rw [h.readOrCreate_of_not hdir]
      exact ⟨rfl, h.silent (fun _ => rfl) (fun _ => rfl) fun _ => rfl⟩
  · rw [hpk]
    exact ⟨rfl, h.silent (fun _ => rfl) (fun _ => rfl) fun _ => rfl⟩

/-- `exportuser` exports the public key of the client's store. -/
theorem FilesFollow.exportuser (hcodec : codec.Lawful)
    (h : FilesFollow codec isServer places files log) {f exportfile : F} (hf : isServer f = false)
    (hexport : isServer exportfile = false) {userid : String} (huser : PlainName userid)
    {out : AuthOutcome}
    (hcommand : files.command codec uninit places (.exportuser f exportfile userid) =
      some (files', out)) :
    ToolConforms places log (.exportuser f exportfile userid, out) ∧
      FilesFollow codec isServer places files'
        (log ++ [(.exportuser f exportfile userid, out)]) := by
  rw [CredentialFiles.command] at hcommand
  rw [ToolConforms]
  obtain ⟨pk, hpk, hnext⟩ | ⟨hpk, rfl, rfl⟩ := h.withPublicKey_cases hcodec hf huser hcommand
  · rw [hpk]
    simp only at hnext ⊢
    split_ifs with hdir
    · obtain ⟨t, hput, hnew⟩ := (h.clients exportfile hexport).exported huser.1 pk
      rw [exportPubkey_of_ok hdir hput] at hnext
      obtain ⟨rfl, rfl⟩ := Prod.mk.inj hnext
      have hpub : ∀ f', publicKey (log ++ [(.exportuser f exportfile userid, .done pk)]) f' =
          if f' = exportfile then Function.update (publicKey log f') userid (some pk)
          else publicKey log f' := lastEffect_concat_of_puts fun _ => rfl
      have hsec : ∀ f', secretKey (log ++ [(.exportuser f exportfile userid, .done pk)]) f' =
          secretKey log f' := lastEffect_concat_of_silent fun _ => rfl
      refine ⟨rfl, h.writeClient hexport hdir (fun _ => rfl) (fun f' hne => ?_) ?_⟩
      · rw [hpub, hsec, if_neg hne]
        exact ⟨rfl, rfl⟩
      · rw [hpub, hsec, if_pos rfl]
        exact hnew
    · rw [h.placed exportfile hdir, exportPubkey_none hdir] at hnext
      obtain ⟨rfl, rfl⟩ := Prod.mk.inj hnext
      rw [h.readOrCreate_of_not hdir]
      exact ⟨rfl, h.silent (fun _ => rfl) (fun _ => rfl) fun _ => rfl⟩
  · rw [hpk]
    exact ⟨rfl, h.silent (fun _ => rfl) (fun _ => rfl) fun _ => rfl⟩

/-- **A command is as the earlier ones say, and leaves the files as they say then.** -/
theorem FilesFollow.command (hcodec : codec.Lawful)
    (h : FilesFollow codec isServer places files log) {c : AuthCommand F}
    (hc : c.Proper isServer) {out : AuthOutcome}
    (hcommand : files.command codec uninit places c = some (files', out)) :
    ToolConforms places log (c, out) ∧
      FilesFollow codec isServer places files' (log ++ [(c, out)]) := by
  cases c with
  | createuser => exact h.createuser hc.1 hc.2 hcommand
  | authuser => exact h.authuser hcodec hc.1 hc.2.1 hc.2.2.1 hc.2.2.2 hcommand
  | exportuser => exact h.exportuser hcodec hc.1 hc.2.1 hc.2.2 hcommand

/-- When a command is undefined. -/
theorem FilesFollow.command_eq_none_iff (hcodec : codec.Lawful)
    (h : FilesFollow codec isServer places files log) {c : AuthCommand F} (hc : c.Proper isServer) :
    files.command codec uninit places c = none ↔ Undefined log c := by
  have hread : ∀ {f : F} {userid : String} (next : Pkarr → CredentialFiles F × AuthOutcome),
      isServer f = false → PlainName userid →
      (files.withPublicKey codec uninit f userid next = none ↔
        publicKey log f userid = none ∧ ∃ userid', publicKey log f userid' ≠ none) := by
    intro f userid next hf huser
    rw [h.withPublicKey hcodec hf huser, ← (h.clients f hf).isSome_iff]
    cases publicKey log f userid with
    | some pk => exact iff_of_false (Option.some_ne_none _) fun h => Option.some_ne_none _ h.1
    | none => simp [Option.isSome_iff_ne_none]
  cases c with
  | createuser f userid keys =>
    refine iff_of_false ?_ id
    rw [CredentialFiles.command]
    split <;> exact Option.some_ne_none _
  | authuser f server userid authlevel keyname =>
    rw [CredentialFiles.command, Undefined]
    exact hread _ hc.1 hc.2.2.1
  | exportuser f exportfile userid =>
    rw [CredentialFiles.command, Undefined]
    exact hread _ hc.1 hc.2.2

end Commands

/-! ### Every run -/

section Main

variable {F : Type} [DecidableEq F]

/-- **The credentials are managed**: where the tool is after these commands. -/
structure Manages (codec : TextCodec) (uninit : Skarr) (isServer : F → Bool) (places : Places F)
    (files : CredentialFiles F) (log : List (AuthCommand F × AuthOutcome)) : Prop where
  undefined : ∀ c, c.Proper isServer →
    (files.command codec uninit places c = none ↔ Undefined log c)
  /-- A client finds its keys. -/
  client : ∀ f userid pk, isServer f = false → PlainName userid →
    publicKey log f userid = some pk →
      (getCredsFromClientFile codec uninit (files f) userid).run =
        some (.ok ⟨pk, (secretKey log f userid).getD uninit⟩)
  made : ∀ f userid pk, publicKey log f userid = some pk → ∃ sk, MadeFor log userid ⟨pk, sk⟩
  paired : ∀ f userid pk sk, NeverExported log f userid → publicKey log f userid = some pk →
    secretKey log f userid = some sk → MadeFor log userid ⟨pk, sk⟩
  /-- A server can be started with a store in which someone is authorised, and lets in with keys
  that have been made for their users. -/
  server : ∀ f, isServer f = true → authorisations log f ≠ [] →
    (∀ c ∈ authorisations log f, ∃ sk, MadeFor log c.userid ⟨c.pk, sk⟩) ∧
    ∀ uninitKey, ∃ creds, (loadCredsFromFile codec uninitKey (files f)).run = some (.ok creds) ∧
      LetsIn (authorisations log f) creds

/-- **In every run of the tool** commands come out as the earlier ones say, and the credentials are
managed. -/
theorem auth_tool {codec : TextCodec} (hcodec : codec.Lawful) {uninit : Skarr}
    {isServer : F → Bool} {places : Places F} {files : CredentialFiles F}
    {log : List (AuthCommand F × AuthOutcome)}
    (h : ((authTool codec uninit places).recorded (observeAuth codec uninit places)).ReachableWhile
      (fun _ c => AuthCommand.Proper isServer c) (files, log)) :
    Throughout (ToolConforms places) log ∧ Manages codec uninit isServer places files log := by
  obtain ⟨hfollow, hconforms⟩ :
      FilesFollow codec isServer places files log ∧ Throughout (ToolConforms places) log := by
    refine throughout_of_recorded (fun _ c => AuthCommand.Proper isServer c)
      (filesFollow_nil codec isServer places) ?_ ?_ h
    · intro files c files' log _ _ _ hstep hunseen
      obtain ⟨r, hcommand, -⟩ := Option.map_eq_some_iff.mp hstep
      rw [observeAuth, hcommand] at hunseen
      cases hunseen
    · intro files c files' log w _ hfollow hc hstep hseen
      obtain ⟨⟨files₁, out⟩, hcommand, rfl⟩ := Option.map_eq_some_iff.mp hstep
      rw [observeAuth, hcommand] at hseen
      obtain rfl := Option.some.inj hseen
      exact hfollow.command hcodec hc hcommand
  refine ⟨hconforms, ⟨fun c hc => hfollow.command_eq_none_iff hcodec hc,
    fun f userid pk hf huser hpk => (hfollow.clients f hf).get hcodec huser.1 hpk,
    fun f userid pk hpk => made_of_conforms hconforms hpk,
    fun f userid pk sk hnever => paired_of_conforms hconforms hnever, fun f hf hne => ?_⟩⟩
  obtain ⟨b, hfile, hb⟩ := (hfollow.servers f hf).book hne
  refine ⟨made_of_authorised hconforms, fun uninitKey => ?_⟩
  obtain ⟨creds, hload, hholds⟩ : ∃ creds,
      (loadCredsFromFile codec uninitKey (some (bookTree codec b))).run = some (.ok creds) ∧
        Holds (authorisations log f) creds := holds_of_describes hcodec hb
  exact ⟨creds, by rw [hfile]; exact hload, letsIn_of_holds hholds⟩

/-- A key of zeros. -/
def zeroSecret : Skarr := ⟨List.replicate 64 0, by decide⟩

/-- Stores that are named by their paths. -/
def homePlaces : Places String := ⟨id, homeDirectories⟩

/-- Alice makes a pair and exports her key, with which she is authorised; at last she names a store
without a directory. -/
def aliceTrace : List (AuthCommand String) :=
  [.createuser "/home/alice/keys" "alice" ⟨zeroKey, zeroSecret⟩,
    .exportuser "/home/alice/keys" "./export" "alice",
    .authuser "./export" "/etc/foxtrot/creds.json" "alice" 2 "default",
    .createuser "/home/alice/keys" "alice" ⟨zeroKey, zeroSecret⟩,
    .authuser "./nowhere" "/etc/foxtrot/creds.json" "alice" 3 "default",
    .createuser "keys" "alice" ⟨zeroKey, zeroSecret⟩]

/-- The file of Alice's server lets her in. -/
theorem auth_tool_aliceTrace : ∃ files log,
    log.map (fun w => (authorisation "/etc/foxtrot/creds.json" w).map AuthUser.userid) =
      [none, none, some "alice", none, none, none] ∧
    Throughout (ToolConforms homePlaces) log ∧
      Manages base64Codec zeroSecret (fun f : String => f = "/etc/foxtrot/creds.json") homePlaces
        files log := by
  let M : TransitionSystem (CredentialFiles String × _) (AuthCommand String) :=
    (authTool base64Codec zeroSecret homePlaces).recorded
      (observeAuth base64Codec zeroSecret homePlaces)
  have hrun : ((M.run M.init aliceTrace).map fun r =>
      r.2.map fun w => (authorisation "/etc/foxtrot/creds.json" w).map AuthUser.userid) =
        some [none, none, some "alice", none, none, none] := by decide +kernel
  obtain ⟨⟨files, log⟩, hrun, hlog⟩ := Option.map_eq_some_iff.mp hrun
  have hproper : ∀ c ∈ aliceTrace, c.Proper fun f : String => f = "/etc/foxtrot/creds.json" := by
    decide
  have hreach := ReachableWhile.init.run (Guarded.of_forall_mem hproper) hrun
  exact ⟨files, log, hlog, auth_tool base64Codec_lawful hreach⟩

end Main

end Foxtrot
