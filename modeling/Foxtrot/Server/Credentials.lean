import Foxtrot.Foundation.PropertyTree
import Foxtrot.Server.AuthHandler

/-!
# The credentials file

Credentials are kept in a JSON file, which is a property tree: for each user a node with the
children `keys`, which has the public keys in base64 by their names, and `authlevel`.
`auth_user_to_file` (`server/src/auth_utils.cpp`) adds a key to it, addressing nodes by dotted
paths, and `load_creds_from_file` (`server/src/AuthHandler.cpp`) reads it, going over the children.

A file that is not there is created, with its directory. A name without a directory has an empty
`parent_path`, which exists nowhere and cannot be created: under such a name there is never a new
file (`readOrCreateUsersPtree_eq_ok_iff`).

`load_creds_from_file` copies what it decodes into an array for a public key without looking at the
length. So it vets a file exactly if no key it comes to is of another length (`vets_iff`).
-/

namespace Foxtrot

/-- `crypto_sign_PUBLICKEYBYTES`. -/
def publicKeyBytes : ℕ := 32

/-- `pkarr`. -/
abbrev Pkarr := { bytes : List UInt8 // bytes.length = publicKeyBytes }

/-- What `libsodium` and the property trees make of bytes and numbers as text. -/
structure TextCodec where
  bin2base64 : List UInt8 → String
  /-- At most so many bytes, or none if the text is not base64 or stands for more. -/
  base642bin : ℕ → String → Option (List UInt8)
  putInt : Int32 → String
  getInt : String → Option Int32

/-- The tree of a file. -/
abbrev CredsTree := PropertyTree String String

/-- `ptree_bad_path` and `ptree_bad_data`, as exceptions. -/
def Thrown.ofProperty : PropertyError → Thrown
  | .badPath path => .exception ("No such node (" ++ path ++ ")")
  | .badData type => .exception ("conversion of data to type \"" ++ type ++ "\" failed")
  | .emptyPath => .unspecified

namespace CredsTree

/-- A dotted path. -/
def path (text : String) : PropertyPath String := .parse '.' text

/-- `get_child`. -/
def getChild (t : CredsTree) (text : String) : Except PropertyError CredsTree :=
  (t.walk (path text)).elim (.error (.badPath text)) .ok

/-- `get<int>`. -/
def getInt (codec : TextCodec) (t : CredsTree) (text : String) : Except PropertyError Int32 := do
  let child ← t.getChild text
  (codec.getInt child.data).elim (.error (.badData "i")) .ok

end CredsTree

/-! ### Finding the file -/

/-- `path(fname).parent_path()`: what is before the last slashes, or these themselves if nothing
is. -/
def parentPath (fname : String) : String :=
  let upToSlash := fname.toList.reverse.dropWhile (· ≠ '/')
  let above := upToSlash.dropWhile (· = '/')
  String.ofList (if above = [] then upToSlash else above).reverse

/-- The name of the file says in which directory it is. -/
def HasDirectory (fname : String) : Prop := parentPath fname ≠ ""

instance (fname : String) : Decidable (HasDirectory fname) := inferInstanceAs (Decidable (_ ≠ _))

/-- Which directories there are. There is none of the empty path. -/
structure Directories where
  has : String → Bool
  not_has_empty : has "" = false

/-- The `filesystem_error` of a directory without a name. -/
def noDirectory : Thrown :=
  .exception "filesystem error: cannot create directories: Invalid argument []"

/-- `std::filesystem::create_directories`. -/
def createDirectories (path : String) : Except Thrown Unit :=
  if path = "" then .error noDirectory else .ok ()

/-- `read_or_create_users_ptree`. A directory that is not there is created before the file. -/
def readOrCreateUsersPtree (dirs : Directories) (fname : String) :
    Option CredsTree → Except Thrown CredsTree
  | none =>
    if dirs.has (parentPath fname) then .ok .empty
    else (createDirectories (parentPath fname)).map fun _ => .empty
  | some credsTree => .ok credsTree

/-- What goes wrong with the name of a new file does not depend on the directories there are. -/
theorem readOrCreateUsersPtree_eq (dirs : Directories) (fname : String) (file : Option CredsTree) :
    readOrCreateUsersPtree dirs fname file =
      if file = none ∧ ¬ HasDirectory fname then .error noDirectory
      else .ok (file.getD .empty) := by
  cases file with
  | some credsTree => rfl
  | none =>
    have hcond : (none : Option CredsTree) = none ∧ ¬ HasDirectory fname ↔ parentPath fname = "" :=
      ⟨fun h => not_not.mp h.2, fun h => ⟨rfl, not_not.mpr h⟩⟩
    rw [readOrCreateUsersPtree, createDirectories, if_congr hcond rfl rfl]
    by_cases hdir : parentPath fname = ""
    · rw [hdir, dirs.not_has_empty]
      rfl
    · rw [if_neg hdir, if_neg hdir]
      split <;> rfl

/-- A new file without a directory is not created. -/
theorem readOrCreateUsersPtree_none {dirs : Directories} {fname : String}
    (h : ¬ HasDirectory fname) : readOrCreateUsersPtree dirs fname none = .error noDirectory := by
  rw [readOrCreateUsersPtree_eq, if_pos ⟨rfl, h⟩]

/-- A tree is read or created, unless the file is not there and its name has no directory. -/
theorem readOrCreateUsersPtree_eq_ok_iff {dirs : Directories} {fname : String}
    {file : Option CredsTree} {t : CredsTree} : readOrCreateUsersPtree dirs fname file = .ok t ↔
      (file = none → HasDirectory fname) ∧ file.getD .empty = t := by
  rw [readOrCreateUsersPtree_eq]
  split_ifs with h
  · exact iff_of_false nofun fun hdir => h.2 (hdir.1 h.1)
  · rw [Except.ok.injEq]
    exact (and_iff_right fun hnone => not_not.mp fun hdir => h ⟨hnone, hdir⟩).symm

/-! ### Writing -/

/-- The arguments of an `auth_user_to_file`. -/
structure AuthUser where
  userid : String
  pk : Pkarr
  authlevel : Int32
  keyname : String

/-- Write a key, by its path. -/
def putKey (codec : TextCodec) (credsTree : CredsTree) (c : AuthUser) :
    Except PropertyError CredsTree :=
  credsTree.put (CredsTree.path (c.userid ++ ".keys." ++ c.keyname)) (codec.bin2base64 c.pk.1)

/-- Write an authorisation level, by its path. -/
def putLevel (codec : TextCodec) (credsTree : CredsTree) (c : AuthUser) :
    Except PropertyError CredsTree :=
  credsTree.put (CredsTree.path (c.userid ++ ".authlevel")) (codec.putInt c.authlevel)

/-- The key of a known user is written if it is not among the keys of the user. -/
def updateKey (codec : TextCodec) (credsTree keytree : CredsTree) (c : AuthUser) :
    Except PropertyError CredsTree :=
  match keytree.find c.keyname with
  | none => putKey codec credsTree c
  | some key =>
    if key.data ≠ codec.bin2base64 c.pk.1 then putKey codec credsTree c else pure credsTree

/-- The authorisation level of a known user is written if it is another one. -/
def updateLevel (codec : TextCodec) (credsTree : CredsTree) (c : AuthUser) :
    Except PropertyError CredsTree := do
  let currentAuthlevel ← CredsTree.getInt codec credsTree (c.userid ++ ".authlevel")
  if currentAuthlevel ≠ c.authlevel then putLevel codec credsTree c else pure credsTree

/-- What `auth_user_to_file` makes of the tree of the file. -/
def authUser (codec : TextCodec) (credsTree : CredsTree) (c : AuthUser) :
    Except PropertyError CredsTree :=
  match credsTree.find c.userid with
  | none => do
    let credsTree ← putKey codec credsTree c
    putLevel codec credsTree c
  | some _ => do
    let usertree ← CredsTree.getChild credsTree c.userid
    let keytree ← CredsTree.getChild usertree "keys"
    let credsTree ← updateKey codec credsTree keytree c
    updateLevel codec credsTree c

/-- `auth_user_to_file`, on a file that may not be there yet. -/
def authUserToFile (codec : TextCodec) (dirs : Directories) (fname : String)
    (file : Option CredsTree) (c : AuthUser) : Except Thrown CredsTree := do
  let credsTree ← readOrCreateUsersPtree dirs fname file
  (authUser codec credsTree c).mapError .ofProperty

/-! ### Reading -/

/-- Code that may throw, or have undefined behaviour. -/
abbrev LoadM := ExceptT Thrown Option

/-- `detail::base642bin`. -/
def base642bin (codec : TextCodec) (base64str : String) : LoadM (List UInt8) :=
  (codec.base642bin 4096 base64str).elim
    (throw (.exception "couldn't decode base64 string!")) pure

/-- Copy bytes to an array for a public key, which is not initialised. -/
def moveToKey (uninit : Pkarr) (keyvec : List UInt8) : LoadM Pkarr :=
  if h : keyvec.length ≤ publicKeyBytes then
    pure ⟨keyvec ++ uninit.1.drop keyvec.length, by simp [uninit.2, h]⟩
  else ExceptT.mk none

/-- A key. -/
def loadKey (codec : TextCodec) (uninit : Pkarr) (keystr : String) : LoadM Pkarr := do
  let keyvec ← base642bin codec keystr
  moveToKey uninit keyvec

/-- The keys of a user. -/
def loadKeys (codec : TextCodec) (uninit : Pkarr) :
    List (String × CredsTree) → LoadM (List (String × Pkarr))
  | [] => pure []
  | (name, key) :: keytree => do
    let keyarr ← loadKey codec uninit key.data
    let keys ← loadKeys codec uninit keytree
    pure ((name, keyarr) :: keys)

/-- Throw what a property tree throws. -/
def liftTree {α : Type} (x : Except PropertyError α) : LoadM α :=
  match x with
  | .ok a => pure a
  | .error e => throw (.ofProperty e)

/-- A user. -/
def loadUser (codec : TextCodec) (uninit : Pkarr) (user : CredsTree) :
    LoadM (Credentials Pkarr) := do
  let keytree ← liftTree (CredsTree.getChild user "keys")
  let keys ← loadKeys codec uninit keytree.children
  let authlevel ← liftTree (CredsTree.getInt codec user "authlevel")
  pure ⟨keys, authlevel.toInt⟩

/-- The users of a file, whom `creds` gets if it has not got them. -/
def loadUsers (codec : TextCodec) (uninit : Pkarr) :
    List (String × CredsTree) → CredentialsMap Pkarr → LoadM (CredentialsMap Pkarr)
  | [], creds => pure creds
  | (userid, user) :: credstree, creds => do
    let credentials ← loadUser codec uninit user
    loadUsers codec uninit credstree (creds.insertNew userid credentials)

/-- `load_creds_from_file`, of a new handler. -/
def loadCredsFromFile (codec : TextCodec) (uninit : Pkarr) (file : Option CredsTree) :
    LoadM (CredentialsMap Pkarr) :=
  match file with
  | none => throw (.outOfRange "credentials file couldn't be found!")
  | some credstree => loadUsers codec uninit credstree.children ∅

/-! ### Code that has undefined behaviour, or returns -/

namespace LoadM

variable {α β : Type} {x : LoadM α} {f : α → LoadM β}

/-- A sequence goes on after a value. -/
theorem run_bind_of_ok {a : α} (h : x.run = some (.ok a)) : (x >>= f).run = (f a).run := by
  rw [ExceptT.run_bind, h]
  rfl

private theorem run_bind_of_error {e : Thrown} (h : x.run = some (.error e)) :
    (x >>= f).run = some (.error e) := by
  rw [ExceptT.run_bind, h]
  rfl

/-- A sequence is undefined where its first part is. -/
private theorem run_bind_of_none (h : x.run = none) : (x >>= f).run = none := by
  rw [ExceptT.run_bind, h]
  rfl

/-- Code in sequence returns if its parts do. -/
theorem run_bind_eq_ok_iff {b : β} : (x >>= f).run = some (.ok b) ↔
    ∃ a, x.run = some (.ok a) ∧ (f a).run = some (.ok b) := by
  cases hx : x.run with
  | none => simp [run_bind_of_none hx]
  | some r =>
    cases r with
    | error e => simp [run_bind_of_error hx]
    | ok a => simp [run_bind_of_ok hx]

/-- Code in sequence is undefined where its first part is, or after that where its second is. -/
theorem run_bind_eq_none_iff :
    (x >>= f).run = none ↔ x.run = none ∨ ∃ a, x.run = some (.ok a) ∧ (f a).run = none := by
  cases hx : x.run with
  | none => simp [run_bind_of_none hx]
  | some r =>
    cases r with
    | error e => simp [run_bind_of_error hx]
    | ok a => simp [run_bind_of_ok hx]

end LoadM

/-! ### Which keys are vetted -/

variable {codec : TextCodec} {uninit : Pkarr}

/-- What a user in a file has to have: keys in base64, and an authorisation level. -/
def LoadableUser (codec : TextCodec) (user : CredsTree) : Prop :=
  (∃ keytree, CredsTree.getChild user "keys" = .ok keytree ∧
    ∀ key ∈ keytree.children, (codec.base642bin 4096 key.2.data).isSome) ∧
  ∃ level, CredsTree.getInt codec user "authlevel" = .ok level

/-- The load comes to the key: nothing before it in the file makes it throw. -/
def ComesTo (codec : TextCodec) (file : CredsTree) (keystr : String) : Prop :=
  ∃ users₁ userid user users₂ keytree keys₁ name key keys₂,
    file.children = users₁ ++ (userid, user) :: users₂ ∧ (∀ u ∈ users₁, LoadableUser codec u.2) ∧
    CredsTree.getChild user "keys" = .ok keytree ∧
    keytree.children = keys₁ ++ (name, key) :: keys₂ ∧
    (∀ k ∈ keys₁, (codec.base642bin 4096 k.2.data).isSome) ∧ key.data = keystr

/-- **A file is vetted**: nothing is copied outside the array of a key, and a key that the load
comes to is rejected if it decodes to another length. -/
structure Vets (codec : TextCodec) (uninit : Pkarr) (file : CredsTree) : Prop where
  inside : (loadCredsFromFile codec uninit (some file)).run ≠ none
  rejects : ∀ keystr, ComesTo codec file keystr → ∀ bytes,
    codec.base642bin 4096 keystr = some bytes → bytes.length ≠ publicKeyBytes →
      ∃ e, (loadKey codec uninit keystr).run = some (.error e)

/-- Every key that the load comes to decodes to the right length. -/
def KeysFit (codec : TextCodec) (file : CredsTree) : Prop :=
  ∀ keystr, ComesTo codec file keystr → ∀ bytes, codec.base642bin 4096 keystr = some bytes →
    bytes.length = publicKeyBytes

/-- A text in base 64 is decoded. -/
theorem run_base642bin_of_some {keystr : String} {bytes : List UInt8}
    (h : codec.base642bin 4096 keystr = some bytes) :
    (base642bin codec keystr).run = some (.ok bytes) := by
  rw [base642bin, h]
  rfl

/-- A key in base64 that fits is loaded. -/
theorem run_loadKey {keystr : String} {bytes : List UInt8}
    (h : codec.base642bin 4096 keystr = some bytes) (hlength : bytes.length = publicKeyBytes) :
    (loadKey codec uninit keystr).run = some (.ok ⟨bytes, hlength⟩) := by
  have hdrop : bytes ++ uninit.1.drop bytes.length = bytes := by
    rw [List.drop_eq_nil_of_le (by rw [uninit.2, hlength]), List.append_nil]
  rw [loadKey, LoadM.run_bind_of_ok (run_base642bin_of_some h), moveToKey, dif_pos hlength.le]
  simp only [hdrop]
  rfl

/-- No key in base64 is rejected. -/
theorem loadKey_ne_error {keystr : String} {bytes : List UInt8}
    (h : codec.base642bin 4096 keystr = some bytes) (e : Thrown) :
    (loadKey codec uninit keystr).run ≠ some (.error e) := by
  rw [loadKey, LoadM.run_bind_of_ok (run_base642bin_of_some h), moveToKey]
  split
  · exact nofun
  · exact nofun

/-- A key is copied outside its array only if it is too long. -/
theorem length_of_loadKey_eq_none {keystr : String} (h : (loadKey codec uninit keystr).run = none) :
    ∃ bytes, codec.base642bin 4096 keystr = some bytes ∧ publicKeyBytes < bytes.length := by
  cases hdecode : codec.base642bin 4096 keystr with
  | none =>
    rw [loadKey, base642bin, hdecode] at h
    cases h
  | some bytes =>
    rw [loadKey, LoadM.run_bind_of_ok (run_base642bin_of_some hdecode), moveToKey] at h
    split at h
    · cases h
    · exact ⟨bytes, rfl, by omega⟩

/-- Where keys are loaded they are in base64. -/
theorem isSome_of_loadKey {keystr : String} {key : Pkarr}
    (h : (loadKey codec uninit keystr).run = some (.ok key)) :
    (codec.base642bin 4096 keystr).isSome := by
  cases hdecode : codec.base642bin 4096 keystr with
  | none =>
    rw [loadKey, base642bin, hdecode] at h
    cases h
  | some bytes => rfl

private theorem isSome_of_loadKeys {keytree : List (String × CredsTree)}
    {keys : List (String × Pkarr)}
    (h : (loadKeys codec uninit keytree).run = some (.ok keys)) :
    ∀ key ∈ keytree, (codec.base642bin 4096 key.2.data).isSome := by
  induction keytree generalizing keys with
  | nil => exact nofun
  | cons k keytree ih =>
    obtain ⟨name, key⟩ := k
    rw [loadKeys] at h
    obtain ⟨keyarr, hkey, h⟩ := LoadM.run_bind_eq_ok_iff.mp h
    obtain ⟨keys', hkeys, -⟩ := LoadM.run_bind_eq_ok_iff.mp h
    exact List.forall_mem_cons.mpr ⟨isSome_of_loadKey hkey, ih hkeys⟩

/-- Loading keys is undefined at the first that is too long. -/
theorem exists_of_loadKeys_eq_none {keytree : List (String × CredsTree)}
    (h : (loadKeys codec uninit keytree).run = none) :
    ∃ keys₁ name key keys₂ bytes, keytree = keys₁ ++ (name, key) :: keys₂ ∧
      (∀ k ∈ keys₁, (codec.base642bin 4096 k.2.data).isSome) ∧
      codec.base642bin 4096 key.data = some bytes ∧ publicKeyBytes < bytes.length := by
  induction keytree with
  | nil => cases h
  | cons k keytree ih =>
    obtain ⟨name, key⟩ := k
    rw [loadKeys] at h
    obtain hkey | ⟨keyarr, hkey, h⟩ := LoadM.run_bind_eq_none_iff.mp h
    · obtain ⟨bytes, hdecode, hlong⟩ := length_of_loadKey_eq_none hkey
      exact ⟨[], name, key, keytree, bytes, rfl, nofun, hdecode, hlong⟩
    · obtain hrest | ⟨keys, -, hpure⟩ := LoadM.run_bind_eq_none_iff.mp h
      · obtain ⟨keys₁, name', key', keys₂, bytes, rfl, hkeys₁, hdecode, hlong⟩ := ih hrest
        exact ⟨(name, key) :: keys₁, name', key', keys₂, bytes, rfl,
          List.forall_mem_cons.mpr ⟨isSome_of_loadKey hkey, hkeys₁⟩, hdecode, hlong⟩
      · cases hpure

/-- What a tree returns has been found there. -/
theorem run_liftTree {α : Type} {x : Except PropertyError α} {a : α}
    (h : (liftTree x).run = some (.ok a)) : x = .ok a := by
  cases x with
  | error e => cases h
  | ok b =>
    obtain rfl : b = a := by simpa [liftTree] using h
    rfl

/-- What is found in a tree is returned. -/
theorem run_liftTree_ok {α : Type} {x : Except PropertyError α} {a : α} (h : x = .ok a) :
    (liftTree x).run = some (.ok a) := by
  rw [h]
  rfl

private theorem run_liftTree_ne_none {α : Type} (x : Except PropertyError α) :
    (liftTree x).run ≠ none := by
  cases x <;> exact nofun

private theorem loadableUser_of_loadUser {user : CredsTree} {credentials : Credentials Pkarr}
    (h : (loadUser codec uninit user).run = some (.ok credentials)) : LoadableUser codec user := by
  rw [loadUser] at h
  obtain ⟨keytree, hkeytree, h⟩ := LoadM.run_bind_eq_ok_iff.mp h
  obtain ⟨keys, hkeys, h⟩ := LoadM.run_bind_eq_ok_iff.mp h
  obtain ⟨level, hlevel, -⟩ := LoadM.run_bind_eq_ok_iff.mp h
  exact ⟨⟨keytree, run_liftTree hkeytree, isSome_of_loadKeys hkeys⟩, level, run_liftTree hlevel⟩

/-- Loading a user is undefined at the first key that is too long. -/
theorem exists_of_loadUser_eq_none {user : CredsTree}
    (h : (loadUser codec uninit user).run = none) :
    ∃ keytree keys₁ name key keys₂ bytes, CredsTree.getChild user "keys" = .ok keytree ∧
      keytree.children = keys₁ ++ (name, key) :: keys₂ ∧
      (∀ k ∈ keys₁, (codec.base642bin 4096 k.2.data).isSome) ∧
      codec.base642bin 4096 key.data = some bytes ∧ publicKeyBytes < bytes.length := by
  rw [loadUser] at h
  obtain hlift | ⟨keytree, hkeytree, h⟩ := LoadM.run_bind_eq_none_iff.mp h
  · exact absurd hlift (run_liftTree_ne_none _)
  · obtain hkeys | ⟨keys, -, h⟩ := LoadM.run_bind_eq_none_iff.mp h
    · obtain ⟨keys₁, name, key, keys₂, bytes, hsplit, hrest⟩ := exists_of_loadKeys_eq_none hkeys
      exact ⟨keytree, keys₁, name, key, keys₂, bytes, run_liftTree hkeytree, hsplit, hrest⟩
    · obtain hlevel | ⟨level, -, hpure⟩ := LoadM.run_bind_eq_none_iff.mp h
      · exact absurd hlevel (run_liftTree_ne_none _)
      · cases hpure

/-- Loading users is undefined at the first key that is too long. -/
theorem exists_of_loadUsers_eq_none {users : List (String × CredsTree)}
    {creds : CredentialsMap Pkarr} (h : (loadUsers codec uninit users creds).run = none) :
    ∃ users₁ userid user users₂, users = users₁ ++ (userid, user) :: users₂ ∧
      (∀ u ∈ users₁, LoadableUser codec u.2) ∧ (loadUser codec uninit user).run = none := by
  induction users generalizing creds with
  | nil => cases h
  | cons u users ih =>
    obtain ⟨userid, user⟩ := u
    rw [loadUsers] at h
    obtain huser | ⟨credentials, huser, h⟩ := LoadM.run_bind_eq_none_iff.mp h
    · exact ⟨[], userid, user, users, rfl, nofun, huser⟩
    · obtain ⟨users₁, userid', user', users₂, rfl, husers₁, huser'⟩ := ih h
      exact ⟨(userid, user) :: users₁, userid', user', users₂, rfl,
        List.forall_mem_cons.mpr ⟨loadableUser_of_loadUser huser, husers₁⟩, huser'⟩

/-- A file is vetted exactly if every key that the load comes to decodes to the right length. -/
theorem vets_iff (file : CredsTree) : Vets codec uninit file ↔ KeysFit codec file := by
  constructor
  · intro h keystr hcomes bytes hdecode
    by_contra hlength
    obtain ⟨e, herror⟩ := h.rejects keystr hcomes bytes hdecode hlength
    exact loadKey_ne_error hdecode e herror
  · intro h
    refine ⟨fun hnone => ?_, fun keystr hcomes bytes hdecode hlength =>
      absurd (h keystr hcomes bytes hdecode) hlength⟩
    obtain ⟨users₁, userid, user, users₂, husers, husers₁, huser⟩ :=
      exists_of_loadUsers_eq_none hnone
    obtain ⟨keytree, keys₁, name, key, keys₂, bytes, hkeytree, hkeys, hkeys₁, hdecode, hlong⟩ :=
      exists_of_loadUser_eq_none huser
    have hlength := h key.data ⟨users₁, userid, user, users₂, keytree, keys₁, name, key, keys₂,
      husers, husers₁, hkeytree, hkeys, hkeys₁, rfl⟩ bytes hdecode
    omega

end Foxtrot
