import Foxtrot.Foundation.Base64
import Foxtrot.Foundation.Decimal
import Foxtrot.Foundation.Fallible
import Foxtrot.Server.Credentials

/-!
# The round trip of the credentials file

What `load_creds_from_file` reads from a file that `auth_user_to_file` has written are the last
authorisation level of each user and the last key of each name. The writer addresses nodes by dotted
paths, so that holds exactly of names without dots, of key names that are not empty, and, since the
writer takes the path of an empty user id for the whole tree, of an empty user id only as long as it
is written once, or a user called `keys` is there; and the name of the file itself has to have a
directory, since otherwise the file is not created (`roundTrips_iff`).

Under these names the file is the tree of a **book**, a list of users with their keys
(`authUserToFile_bookTree`), and the book describes the calls (`Describes`).

The first half of the proof is that such names are enough. A call on the tree of a book leads to the
tree of the next book (`authUser_bookTree`): each of its two paths has three or two parts, which
lead to the nodes meant. So calls one after the other write the tree of a book that describes them
(`exists_book`), and to load that tree is to read the book.

The second half is that they are needed. Every name that is loaded stands in the file, and every
name in the file is a part of a path of some call (`namedBy_authUserToFile`). A name with a dot is
no part of any path, so it is not loaded, though the round trip wants it to be
(`dotless_of_roundTrips`).
-/

namespace Foxtrot

open Fallible

/-- What is documented of `libsodium` and of numbers in property trees. -/
structure TextCodec.Lawful (codec : TextCodec) : Prop where
  base642bin_bin2base64 : ∀ maxlen bytes, bytes.length ≤ maxlen →
    codec.base642bin maxlen (codec.bin2base64 bytes) = some bytes
  getInt_putInt : ∀ n, codec.getInt (codec.putInt n) = some n
  /-- `sodium_base64_encoded_len`, without the terminating null. -/
  length_bin2base64 : ∀ bytes, bytes.length = publicKeyBytes →
    (codec.bin2base64 bytes).length = 43
  length_putInt : ∀ n, (codec.putInt n).length ≤ 11

/-- One `auth_user_to_file` after another. -/
def authUsersToFile (codec : TextCodec) (dirs : Directories) (fname : String) :
    Option CredsTree → List AuthUser → Except Thrown (Option CredsTree)
  | file, [] => .ok file
  | file, c :: calls => do
    let credsTree ← authUserToFile codec dirs fname file c
    authUsersToFile codec dirs fname (some credsTree) calls

/-- The authorisation level of the last call for a user. -/
def lastLevel (calls : List AuthUser) (userid : String) : Option Int32 :=
  (calls.reverse.find? (·.userid = userid)).map (·.authlevel)

/-- The key of the last call for a user and a key name. -/
def lastKey (calls : List AuthUser) (userid keyname : String) : Option Pkarr :=
  (calls.reverse.find? fun c => c.userid = userid ∧ c.keyname = keyname).map (·.pk)

/-- The credentials are what the calls have written. -/
structure Holds (calls : List AuthUser) (creds : CredentialsMap Pkarr) : Prop where
  levels : ∀ userid, (creds.lookup userid).map (·.authlevel) =
    (lastLevel calls userid).map Int32.toInt
  keys : ∀ userid credentials, creds.lookup userid = some credentials → ∀ keyname pk,
    (keyname, pk) ∈ credentials.keys ↔ lastKey calls userid keyname = some pk

/-- **The credentials make the round trip**: the calls write a file of this name, and what is loaded
from it is what they have written. -/
def RoundTrips (codec : TextCodec) (uninit : Pkarr) (dirs : Directories) (fname : String)
    (calls : List AuthUser) : Prop :=
  ∃ file, authUsersToFile codec dirs fname none calls = .ok file ∧ ∀ credsTree ∈ file, ∃ creds,
    (loadCredsFromFile codec uninit (some credsTree)).run = some (.ok creds) ∧ Holds calls creds

/-- A name is no path. -/
def Dotless (name : String) : Prop := '.' ∉ name.toList

instance (name : String) : Decidable (Dotless name) := inferInstanceAs (Decidable (¬ _))

/-- The names of a call, after others, are addressed rightly. -/
structure NamesWork (earlier : List AuthUser) (c : AuthUser) : Prop where
  userid : Dotless c.userid
  keyname : Dotless c.keyname
  keyname_ne : c.keyname ≠ ""
  empty : c.userid = "" → (∃ c' ∈ earlier, c'.userid = "") → ∃ c' ∈ earlier, c'.userid = "keys"

/-! ### Books -/

/-- What is known of a user. -/
structure UserEntry where
  keys : List (String × Pkarr)
  authlevel : Option Int32

/-- The users, in the order in which they came. -/
abbrev CredsBook := List (String × UserEntry)

/-- Add a key to a user, who may be new. -/
def UserEntry.addKey (keyname : String) (pk : Pkarr) (e : Option UserEntry) : UserEntry :=
  let e := e.getD ⟨[], none⟩
  { e with keys := e.keys.upsert keyname fun _ => pk }

/-- Set the authorisation level of a user. -/
def UserEntry.setLevel (authlevel : Int32) (e : Option UserEntry) : UserEntry :=
  { e.getD ⟨[], none⟩ with authlevel := some authlevel }

/-- What a call does to the book. -/
def CredsBook.auth (b : CredsBook) (c : AuthUser) : CredsBook :=
  b.upsert c.userid fun e =>
    UserEntry.setLevel c.authlevel (some (UserEntry.addKey c.keyname c.pk e))

/-- The tree of a user. -/
def entryTree (codec : TextCodec) (e : UserEntry) : CredsTree :=
  .node "" (("keys", .node "" (e.keys.map (Prod.map id fun pk => .leaf (codec.bin2base64 pk.1)))) ::
    (e.authlevel.map fun n => ("authlevel", PropertyTree.leaf (codec.putInt n))).toList)

/-- The tree of a book. -/
def bookTree (codec : TextCodec) (b : CredsBook) : CredsTree :=
  .node "" (b.map (Prod.map id (entryTree codec)))

/-! ### The paths of a call

A dotless name is one part of its path, so the path of a key has the parts user, `keys` and key
name, and that of the level the parts user and `authlevel`. An empty path has no part at all. -/

section Paths

variable {userid keyname : String}

private theorem path_userid (hdot : Dotless userid) (hne : userid ≠ "") :
    CredsTree.path userid = .single userid :=
  PropertyPath.parse_of_not_mem hdot hne

private theorem path_authlevel (hdot : Dotless userid) :
    CredsTree.path (userid ++ ".authlevel") = .step userid (.single "authlevel") := by
  have happend : userid ++ ".authlevel" = userid ++ String.singleton '.' ++ "authlevel" := by
    rw [String.append_assoc]
    rfl
  rw [CredsTree.path, happend, PropertyPath.parse_append hdot,
    PropertyPath.parse_of_not_mem (by decide) (by decide)]

/-- The path of a user's key, whatever its name. -/
private theorem path_keys (hdot : Dotless userid) (keyname : String) :
    CredsTree.path (userid ++ ".keys." ++ keyname) =
      .step userid (.step "keys" (CredsTree.path keyname)) := by
  have happend : userid ++ ".keys." ++ keyname =
      userid ++ String.singleton '.' ++ ("keys" ++ String.singleton '.' ++ keyname) := by
    simp only [← String.append_assoc]
    congr 1
    simp only [String.append_assoc]
    rfl
  rw [CredsTree.path, happend, PropertyPath.parse_append hdot,
    PropertyPath.parse_append (by decide)]
  rfl

private theorem path_key (hdot : Dotless userid) (hkey : Dotless keyname) (hne : keyname ≠ "") :
    CredsTree.path (userid ++ ".keys." ++ keyname) =
      .step userid (.step "keys" (.single keyname)) := by
  rw [path_keys hdot, path_userid hkey hne]

end Paths

/-! ### Putting values into the tree of a book -/

section Put

variable {codec : TextCodec} {b : CredsBook} {e : UserEntry} {userid : String}

/-- The users are the children of the tree. -/
@[simp]
theorem find_bookTree : (bookTree codec b).find userid = (b.lookup userid).map (entryTree codec) :=
  List.lookup_map userid b

/-- The keys of a user, in base 64. -/
@[simp]
theorem find_entryTree_keys : (entryTree codec e).find "keys" =
    some (.node "" (e.keys.map (Prod.map id fun pk => .leaf (codec.bin2base64 pk.1)))) := rfl

/-- The level of a user, printed. -/
@[simp]
theorem find_entryTree_authlevel : (entryTree codec e).find "authlevel" =
    e.authlevel.map fun n => .leaf (codec.putInt n) := by
  obtain ⟨keys, authlevel⟩ := e
  cases authlevel <;> rfl

/-- Put a key into the tree of the keys of a user. -/
theorem put_keyname (keys : List (String × Pkarr)) (keyname : String) (pk : Pkarr) :
    PropertyTree.put (.single keyname) (codec.bin2base64 pk.1)
        (.node "" (keys.map (Prod.map id fun pk => .leaf (codec.bin2base64 pk.1)))) =
      .ok (.node "" ((keys.upsert keyname fun _ => pk).map
        (Prod.map id fun pk => .leaf (codec.bin2base64 pk.1)))) := by
  rw [PropertyTree.put_single, PropertyTree.upsert, PropertyTree.children_node,
    PropertyTree.data_node, List.upsertM_map (f := fun _ => pk)]
  · rfl
  · cases keys.lookup keyname <;> rfl

/-- Put a key into the tree of a user. -/
theorem put_entryTree_keys (keyname : String) (pk : Pkarr) (o : Option UserEntry) :
    ((o.map (entryTree codec)).getD .empty).put (.step "keys" (.single keyname))
        (codec.bin2base64 pk.1) =
      .ok (entryTree codec (UserEntry.addKey keyname pk o)) := by
  have hrest : PropertyPath.single keyname ≠ .done := nofun
  rw [PropertyTree.put_step hrest]
  cases o with
  | none =>
    have hput := @put_keyname codec [] keyname pk
    have hempty : (PropertyTree.empty : CredsTree) = .node "" [] := rfl
    simp only [List.map_nil] at hput
    simp [hempty, PropertyTree.upsert, List.upsertM, hput, Except.map, entryTree, UserEntry.addKey]
  | some e =>
    simp [PropertyTree.upsert, entryTree, List.upsertM, put_keyname, Except.map, UserEntry.addKey]

/-- Put an authorisation level into the tree of a user. -/
theorem put_entryTree_authlevel (n : Int32) (e : UserEntry) :
    (entryTree codec e).put (.single "authlevel") (codec.putInt n) =
      .ok (entryTree codec (UserEntry.setLevel n (some e))) := by
  obtain ⟨keys, authlevel⟩ := e
  rw [PropertyTree.put_single]
  cases authlevel <;>
    simp [PropertyTree.upsert, entryTree, List.upsertM, Except.map, UserEntry.setLevel,
      PropertyTree.setData, PropertyTree.leaf, PropertyTree.children]

/-- Put a key into the tree of a book. -/
theorem put_bookTree_keys (userid keyname : String) (pk : Pkarr) :
    (bookTree codec b).put (.step userid (.step "keys" (.single keyname)))
        (codec.bin2base64 pk.1) =
      .ok (bookTree codec (b.upsert userid (UserEntry.addKey keyname pk))) := by
  have hrest : PropertyPath.step "keys" (.single keyname) ≠ .done := nofun
  rw [PropertyTree.put_step hrest, PropertyTree.upsert, bookTree, PropertyTree.children_node,
    PropertyTree.data_node, List.upsertM_map (f := UserEntry.addKey keyname pk)]
  · rfl
  · exact put_entryTree_keys keyname pk _

/-- Put an authorisation level into the tree of a book, of a user who is in it. -/
theorem put_bookTree_authlevel (n : Int32) (h : b.lookup userid = some e) :
    (bookTree codec b).put (.step userid (.single "authlevel")) (codec.putInt n) =
      .ok (bookTree codec (b.upsert userid (UserEntry.setLevel n))) := by
  have hrest : PropertyPath.single "authlevel" ≠ .done := nofun
  rw [PropertyTree.put_step hrest, PropertyTree.upsert, bookTree, PropertyTree.children_node,
    PropertyTree.data_node, List.upsertM_map (f := UserEntry.setLevel n)]
  · rfl
  · rw [h]
    exact put_entryTree_authlevel n e

end Put

/-! ### A call on a file

A file that is there is read, and one that is not is started from an empty tree, if its directory
can be made. In either case the rest of the call is a matter of the tree alone. -/

section File

variable {codec : TextCodec} {dirs : Directories} {fname : String}

/-- A call goes through if the file can be found or created, and its tree changed. -/
theorem authUserToFile_eq_ok_iff {file : Option CredsTree} {c : AuthUser} {t : CredsTree} :
    authUserToFile codec dirs fname file c = .ok t ↔
      (file = none → HasDirectory fname) ∧ authUser codec (file.getD .empty) c = .ok t := by
  have hmap : ∀ x : Except PropertyError CredsTree,
      x.mapError Thrown.ofProperty = .ok t ↔ x = .ok t := by
    rintro (e | t') <;> simp [Except.mapError]
  rw [authUserToFile, bind_eq_ok_iff]
  constructor
  · rintro ⟨t₀, hfile, hcall⟩
    obtain ⟨hdir, rfl⟩ := readOrCreateUsersPtree_eq_ok_iff.mp hfile
    exact ⟨hdir, (hmap _).mp hcall⟩
  · rintro ⟨hdir, hcall⟩
    exact ⟨_, readOrCreateUsersPtree_eq_ok_iff.mpr ⟨hdir, rfl⟩, (hmap _).mpr hcall⟩

/-- Calls that find no file go on as from the tree of no users, if the file can be created. -/
theorem authUsersToFile_none_iff {c : AuthUser} {calls : List AuthUser} {file : Option CredsTree} :
    authUsersToFile codec dirs fname none (c :: calls) = .ok file ↔ HasDirectory fname ∧
      authUsersToFile codec dirs fname (some (bookTree codec [])) (c :: calls) = .ok file := by
  have hnone : ∀ t, authUserToFile codec dirs fname none c = .ok t ↔ HasDirectory fname ∧
      authUserToFile codec dirs fname (some (bookTree codec [])) c = .ok t := by
    intro t
    rw [authUserToFile_eq_ok_iff, authUserToFile_eq_ok_iff]
    exact ⟨fun h => ⟨h.1 rfl, nofun, h.2⟩, fun h => ⟨fun _ => h.1, h.2.2⟩⟩
  rw [authUsersToFile, authUsersToFile, bind_eq_ok_iff, bind_eq_ok_iff]
  constructor
  · rintro ⟨t, hcall, hrest⟩
    exact ⟨((hnone t).mp hcall).1, t, ((hnone t).mp hcall).2, hrest⟩
  · rintro ⟨hdir, t, hcall, hrest⟩
    exact ⟨t, (hnone t).mpr ⟨hdir, hcall⟩, hrest⟩

end File

/-! ### A call on the tree of a book -/

/-- Every user in the book has a level, and keys of different names. -/
def CredsBook.Complete (b : CredsBook) : Prop :=
  ∀ e ∈ b, e.2.authlevel.isSome ∧ (e.2.keys.map Prod.fst).Nodup

/-- A user of a complete book has a level, and keys with different names. -/
theorem CredsBook.Complete.lookup {b : CredsBook} (hb : b.Complete) {userid : String}
    {e : UserEntry} (h : b.lookup userid = some e) :
    e.authlevel.isSome ∧ (e.keys.map Prod.fst).Nodup := by
  induction b with
  | nil => simp at h
  | cons p b ih =>
    obtain ⟨userid', e'⟩ := p
    rw [List.lookup_cons_ite] at h
    split at h
    · obtain rfl := Option.some.inj h
      exact hb _ List.mem_cons_self
    · exact ih (fun p hp => hb p (List.mem_cons_of_mem _ hp)) h

/-- An authorisation keeps a book complete. -/
theorem CredsBook.Complete.auth {b : CredsBook} (hb : b.Complete) (c : AuthUser) :
    (b.auth c).Complete := by
  refine List.forall_mem_upsert hb fun o ho => ⟨rfl, ?_⟩
  cases o with
  | none => exact List.nodup_upsert List.nodup_nil
  | some e => exact List.nodup_upsert (ho e rfl).2

section Call

variable {codec : TextCodec} {b : CredsBook} {c : AuthUser}

private theorem getChild_keys_entryTree (e : UserEntry) :
    CredsTree.getChild (entryTree codec e) "keys" =
    .ok (.node "" (e.keys.map (Prod.map id fun pk => .leaf (codec.bin2base64 pk.1)))) := by
  have hpath : CredsTree.path "keys" = .single "keys" :=
    PropertyPath.parse_of_not_mem (by decide) (by decide)
  rw [CredsTree.getChild, hpath, PropertyTree.walk, find_entryTree_keys]
  rfl

/-- The level of a user in a book. -/
theorem getInt_bookTree (hcodec : codec.Lawful) {userid : String} (hdot : Dotless userid)
    {e : UserEntry} {n : Int32} (he : b.lookup userid = some e) (hn : e.authlevel = some n) :
    CredsTree.getInt codec (bookTree codec b) (userid ++ ".authlevel") = .ok n := by
  rw [CredsTree.getInt, CredsTree.getChild, path_authlevel hdot, PropertyTree.walk, find_bookTree,
    he, Option.map_some, Option.bind_some, PropertyTree.walk, find_entryTree_authlevel, hn]
  have hint : (codec.getInt (codec.putInt n)).elim (.error (.badData "i")) .ok =
      (.ok n : Except PropertyError Int32) := by
    rw [hcodec.getInt_putInt]
    rfl
  exact hint

/-- A key is put into the tree of a book by the names of the call. -/
theorem putKey_bookTree (huser : Dotless c.userid) (hkey : Dotless c.keyname)
    (hne : c.keyname ≠ "") : putKey codec (bookTree codec b) c =
      .ok (bookTree codec (b.upsert c.userid (UserEntry.addKey c.keyname c.pk))) := by
  rw [putKey, path_key huser hkey hne, put_bookTree_keys]

/-- The level of a known user is put in its place. -/
private theorem putLevel_bookTree (huser : Dotless c.userid) {e : UserEntry}
    (he : b.lookup c.userid = some e) : putLevel codec (bookTree codec b) c =
      .ok (bookTree codec (b.upsert c.userid (UserEntry.setLevel c.authlevel))) := by
  rw [putLevel, path_authlevel huser, put_bookTree_authlevel _ he]

/-- To find the key there is to find nothing to write. -/
theorem updateKey_of_entry (hcodec : codec.Lawful) (huser : Dotless c.userid)
    (hkey : Dotless c.keyname) (hne : c.keyname ≠ "") {e : UserEntry}
    (he : b.lookup c.userid = some e) :
    updateKey codec (bookTree codec b)
        (.node "" (e.keys.map (Prod.map id fun pk => .leaf (codec.bin2base64 pk.1)))) c =
      .ok (bookTree codec (b.upsert c.userid (UserEntry.addKey c.keyname c.pk))) := by
  rw [updateKey, PropertyTree.find, PropertyTree.children_node, List.lookup_map]
  cases hold : e.keys.lookup c.keyname with
  | none => exact putKey_bookTree huser hkey hne
  | some pk =>
    by_cases hsame : codec.bin2base64 pk.1 = codec.bin2base64 c.pk.1
    · have hpk : pk = c.pk := by
        have hdecode := hcodec.base642bin_bin2base64 publicKeyBytes pk.1 pk.2.le
        rw [hsame, hcodec.base642bin_bin2base64 publicKeyBytes c.pk.1 c.pk.2.le] at hdecode
        exact Subtype.ext (Option.some.inj hdecode).symm
      have hkept : UserEntry.addKey c.keyname c.pk (some e) = e := by
        rw [UserEntry.addKey, Option.getD_some, List.upsert_eq_self hold hpk.symm]
      rw [List.upsert_eq_self he hkept]
      exact if_neg (not_not.mpr hsame)
    · exact (if_pos hsame).trans (putKey_bookTree huser hkey hne)

/-- What stands in the tree of a user is no key. -/
theorem updateKey_of_user (hcodec : codec.Lawful) (huser : Dotless c.userid)
    (hkey : Dotless c.keyname) (hne : c.keyname ≠ "") (e : UserEntry) :
    updateKey codec (bookTree codec b) (entryTree codec e) c =
      .ok (bookTree codec (b.upsert c.userid (UserEntry.addKey c.keyname c.pk))) := by
  have hput := @putKey_bookTree codec b c huser hkey hne
  have hlength := hcodec.length_bin2base64 c.pk.1 c.pk.2
  rw [updateKey]
  cases hfind : (entryTree codec e).find c.keyname with
  | none => exact hput
  | some key =>
    refine (if_pos fun hdata => ?_).trans hput
    rw [← hdata] at hlength
    obtain ⟨keys, authlevel⟩ := e
    rw [entryTree, PropertyTree.find, PropertyTree.children_node, List.lookup_cons_ite] at hfind
    split at hfind
    · obtain rfl := Option.some.inj hfind
      simp at hlength
    · cases authlevel with
      | none => simp at hfind
      | some n =>
        rw [Option.map_some, Option.toList_some, List.lookup_cons_ite] at hfind
        split at hfind
        · obtain rfl := Option.some.inj hfind
          have hshort := hcodec.length_putInt n
          rw [PropertyTree.leaf, PropertyTree.data_node] at hlength
          omega
        · simp at hfind

/-- The level of a user in a book is written. -/
theorem updateLevel_bookTree (hcodec : codec.Lawful) (huser : Dotless c.userid) {e : UserEntry}
    (he : b.lookup c.userid = some e) (hlevel : e.authlevel.isSome) :
    updateLevel codec (bookTree codec b) c =
      .ok (bookTree codec (b.upsert c.userid (UserEntry.setLevel c.authlevel))) := by
  obtain ⟨n, hn⟩ := Option.isSome_iff_exists.mp hlevel
  rw [updateLevel, getInt_bookTree hcodec huser he hn]
  by_cases hsame : n = c.authlevel
  · have hkept : UserEntry.setLevel c.authlevel (some e) = e := by
      obtain ⟨keys, authlevel⟩ := e
      simp only at hn
      rw [UserEntry.setLevel, Option.getD_some, hn, hsame]
    rw [List.upsert_eq_self he hkept]
    exact if_neg (not_not.mpr hsame)
  · exact (if_pos hsame).trans (putLevel_bookTree huser he)

private theorem lookup_addKey (b : CredsBook) (c : AuthUser) :
    (b.upsert c.userid (UserEntry.addKey c.keyname c.pk)).lookup c.userid =
      some (UserEntry.addKey c.keyname c.pk (b.lookup c.userid)) := by
  rw [List.lookup_upsert, if_pos rfl]

/-- An authorisation adds a key and sets the level. -/
private theorem auth_eq (b : CredsBook) (c : AuthUser) : b.auth c =
    (b.upsert c.userid (UserEntry.addKey c.keyname c.pk)).upsert c.userid
      (UserEntry.setLevel c.authlevel) :=
  (List.upsert_upsert _ _ _ _).symm

/-- **A call on the tree of a book leads to the tree of the next book.** -/
theorem authUser_bookTree (hcodec : codec.Lawful) (hb : b.Complete)
    (huser : Dotless c.userid) (hkey : Dotless c.keyname) (hne : c.keyname ≠ "")
    (hempty : c.userid = "" → (b.lookup "").isSome → (b.lookup "keys").isSome) :
    authUser codec (bookTree codec b) c = .ok (bookTree codec (b.auth c)) := by
  have hlookup := lookup_addKey b c
  rw [authUser, find_bookTree, auth_eq]
  cases he : b.lookup c.userid with
  | none =>
    rw [Option.map_none]
    exact bind_eq_ok_iff.mpr
      ⟨_, putKey_bookTree huser hkey hne, putLevel_bookTree huser hlookup⟩
  | some e =>
    have hlevel : (UserEntry.addKey c.keyname c.pk (b.lookup c.userid)).authlevel.isSome := by
      rw [he]
      exact (hb.lookup he).1
    have hupdate := updateLevel_bookTree hcodec huser hlookup hlevel
    rw [Option.map_some]
    by_cases hname : c.userid = ""
    · obtain ⟨e', he'⟩ := Option.isSome_iff_exists.mp (hempty hname (by rw [← hname, he]; rfl))
      -- an empty path is the tree itself, whose `keys` is then a user
      have hroot : CredsTree.getChild (bookTree codec b) c.userid = .ok (bookTree codec b) := by
        rw [hname]
        rfl
      have hkeys : CredsTree.getChild (bookTree codec b) "keys" = .ok (entryTree codec e') := by
        rw [CredsTree.getChild, path_userid (by decide) (by decide), PropertyTree.walk,
          find_bookTree, he']
        rfl
      exact bind_eq_ok_iff.mpr ⟨_, hroot, bind_eq_ok_iff.mpr ⟨_, hkeys,
        bind_eq_ok_iff.mpr ⟨_, updateKey_of_user hcodec huser hkey hne e', hupdate⟩⟩⟩
    · have hchild : CredsTree.getChild (bookTree codec b) c.userid = .ok (entryTree codec e) := by
        rw [CredsTree.getChild, path_userid huser hname, PropertyTree.walk, find_bookTree, he]
        rfl
      exact bind_eq_ok_iff.mpr ⟨_, hchild, bind_eq_ok_iff.mpr
        ⟨_, getChild_keys_entryTree e, bind_eq_ok_iff.mpr
          ⟨_, updateKey_of_entry hcodec huser hkey hne he, hupdate⟩⟩⟩

/-- An empty user id is taken for the whole tree, which has no `keys`. -/
theorem authUser_empty (hname : c.userid = "") (hsome : (b.lookup "").isSome)
    (hkeys : b.lookup "keys" = none) :
    ∃ e, authUser codec (bookTree codec b) c = .error e := by
  obtain ⟨e, he⟩ := Option.isSome_iff_exists.mp hsome
  have hroot : CredsTree.getChild (bookTree codec b) "" = .ok (bookTree codec b) := rfl
  have hmissing : CredsTree.getChild (bookTree codec b) "keys" = .error (.badPath "keys") := by
    rw [CredsTree.getChild, path_userid (by decide) (by decide), PropertyTree.walk, find_bookTree,
      hkeys]
    rfl
  refine ⟨.badPath "keys", ?_⟩
  rw [authUser, find_bookTree, hname, he, Option.map_some]
  exact bind_eq_error_iff.mpr
    (.inr ⟨_, hroot, bind_eq_error_iff.mpr (.inl hmissing)⟩)

end Call

/-! ### The book describes the calls

`lastLevel` and `lastKey` look at the calls from the last one back, and the book is built from the
first one on; they agree after every call. -/

/-- The next authorisation sets the level of its user. -/
private theorem lastLevel_append (calls : List AuthUser) (c : AuthUser) (userid : String) :
    lastLevel (calls ++ [c]) userid =
      if c.userid = userid then some c.authlevel else lastLevel calls userid := by
  by_cases h : c.userid = userid <;> simp [lastLevel, h]

/-- The next authorisation sets the key of its name. -/
private theorem lastKey_append (calls : List AuthUser) (c : AuthUser) (userid keyname : String) :
    lastKey (calls ++ [c]) userid keyname =
      if c.userid = userid ∧ c.keyname = keyname then some c.pk
      else lastKey calls userid keyname := by
  by_cases h : c.userid = userid ∧ c.keyname = keyname <;> simp [lastKey, h]

/-- A user without a level has not been authorised. -/
private theorem lastLevel_eq_none_iff {calls : List AuthUser} {userid : String} :
    lastLevel calls userid = none ↔ ∀ c ∈ calls, c.userid ≠ userid := by
  simp [lastLevel]

private theorem lastKey_of_lastLevel_eq_none {calls : List AuthUser} {userid : String}
    (h : lastLevel calls userid = none) (keyname : String) :
    lastKey calls userid keyname = none := by
  have hne := lastLevel_eq_none_iff.mp h
  simp only [lastKey, Option.map_eq_none_iff, List.find?_eq_none, List.mem_reverse,
    decide_eq_true_iff]
  exact fun c hc hboth => hne c hc hboth.1

/-- The book has what the calls have written. -/
structure Describes (b : CredsBook) (calls : List AuthUser) : Prop where
  complete : b.Complete
  level : ∀ userid, (b.lookup userid).map (·.authlevel) = (lastLevel calls userid).map some
  key : ∀ userid e, b.lookup userid = some e → ∀ keyname,
    e.keys.lookup keyname = lastKey calls userid keyname

/-- Without an authorisation the book is empty. -/
theorem describes_nil : Describes [] [] :=
  ⟨nofun, fun _ => rfl, nofun⟩

/-- The next authorisation is described as well. -/
theorem Describes.auth {b : CredsBook} {calls : List AuthUser} (h : Describes b calls)
    (c : AuthUser) : Describes (b.auth c) (calls ++ [c]) := by
  refine ⟨h.complete.auth c, fun userid => ?_, fun userid e he keyname => ?_⟩
  · rw [CredsBook.auth, List.lookup_upsert, lastLevel_append]
    by_cases huser : userid = c.userid
    · rw [if_pos huser, if_pos huser.symm]
      rfl
    · rw [if_neg huser, if_neg (Ne.symm huser), h.level]
  · rw [CredsBook.auth, List.lookup_upsert] at he
    rw [lastKey_append]
    by_cases huser : userid = c.userid
    · subst huser
      rw [if_pos rfl] at he
      obtain rfl := Option.some.inj he
      have hold : ((b.lookup c.userid).getD ⟨[], none⟩).keys.lookup keyname =
          lastKey calls c.userid keyname := by
        cases hb : b.lookup c.userid with
        | none =>
          have hlevel := h.level c.userid
          rw [hb] at hlevel
          rw [lastKey_of_lastLevel_eq_none (by simpa using hlevel.symm)]
          rfl
        | some e => exact h.key c.userid e hb keyname
      rw [UserEntry.setLevel, Option.getD_some, UserEntry.addKey, List.lookup_upsert, hold]
      by_cases hkey : keyname = c.keyname
      · simp [hkey]
      · simp [hkey, Ne.symm hkey]
    · rw [if_neg huser] at he
      rw [if_neg (fun hboth => huser hboth.1.symm)]
      exact h.key userid e he keyname

/-- The users of the book are those who have been authorised. -/
private theorem Describes.isSome_lookup_iff {b : CredsBook} {calls : List AuthUser}
    (h : Describes b calls)
    (userid : String) : (b.lookup userid).isSome ↔ ∃ c ∈ calls, c.userid = userid := by
  have hlevel := h.level userid
  rw [← not_iff_not, Bool.not_eq_true, Option.isSome_eq_false_iff, Option.isNone_iff_eq_none]
  constructor
  · intro hnone
    rw [hnone] at hlevel
    have hcalls := lastLevel_eq_none_iff.mp (by simpa using hlevel.symm)
    rintro ⟨c, hc, heq⟩
    exact hcalls c hc heq
  · intro hcalls
    rw [lastLevel_eq_none_iff.mpr fun c hc heq => hcalls ⟨c, hc, heq⟩] at hlevel
    simpa using hlevel

/-! ### Loading the tree of a book -/

section Load

variable {codec : TextCodec} {uninit : Pkarr}

/-- What is loaded of a user. -/
def UserEntry.credentials (e : UserEntry) : Credentials Pkarr :=
  ⟨e.keys, (e.authlevel.getD 0).toInt⟩

private theorem run_loadKeys (hcodec : codec.Lawful) (keys : List (String × Pkarr)) :
    (loadKeys codec uninit
      (keys.map (Prod.map id fun pk => .leaf (codec.bin2base64 pk.1)))).run = some (.ok keys) := by
  induction keys with
  | nil => rfl
  | cons k keys ih =>
    obtain ⟨name, pk⟩ := k
    have hdecode := hcodec.base642bin_bin2base64 4096 pk.1 (by rw [pk.2]; decide)
    rw [List.map_cons, Prod.map_apply, loadKeys]
    exact LoadM.run_bind_eq_ok_iff.mpr
      ⟨pk, run_loadKey hdecode pk.2, LoadM.run_bind_eq_ok_iff.mpr ⟨keys, ih, rfl⟩⟩

private theorem run_loadUser (hcodec : codec.Lawful) {e : UserEntry} (he : e.authlevel.isSome) :
    (loadUser codec uninit (entryTree codec e)).run = some (.ok e.credentials) := by
  obtain ⟨n, hn⟩ := Option.isSome_iff_exists.mp he
  have hpath : CredsTree.path "authlevel" = .single "authlevel" :=
    path_userid (by decide) (by decide)
  have hlevel : CredsTree.getInt codec (entryTree codec e) "authlevel" = .ok n := by
    refine bind_eq_ok_iff.mpr ⟨.leaf (codec.putInt n), ?_, ?_⟩
    · rw [CredsTree.getChild, hpath, PropertyTree.walk, find_entryTree_authlevel, hn]
      rfl
    · have hint : (codec.getInt (codec.putInt n)).elim (.error (.badData "i")) .ok =
          (.ok n : Except PropertyError Int32) := by
        rw [hcodec.getInt_putInt]
        rfl
      exact hint
  have hcredentials : e.credentials = ⟨e.keys, n.toInt⟩ := by
    rw [UserEntry.credentials, hn]
    rfl
  rw [loadUser, hcredentials]
  exact LoadM.run_bind_eq_ok_iff.mpr ⟨_, run_liftTree_ok (getChild_keys_entryTree e),
    LoadM.run_bind_eq_ok_iff.mpr ⟨_, run_loadKeys hcodec e.keys,
      LoadM.run_bind_eq_ok_iff.mpr ⟨n, run_liftTree_ok hlevel, rfl⟩⟩⟩

/-- The first user of a name is loaded. -/
theorem run_loadUsers (hcodec : codec.Lawful) {b : CredsBook} (hb : b.Complete)
    (creds : CredentialsMap Pkarr) : ∃ creds',
    (loadUsers codec uninit (b.map (Prod.map id (entryTree codec))) creds).run = some (.ok creds') ∧
      ∀ userid, creds'.lookup userid =
        (creds.lookup userid).or ((b.lookup userid).map UserEntry.credentials) := by
  induction b generalizing creds with
  | nil => exact ⟨creds, rfl, fun userid => by simp⟩
  | cons p b ih =>
    obtain ⟨userid', e⟩ := p
    obtain ⟨creds', hrun, hlookup⟩ := ih (fun p hp => hb p (List.mem_cons_of_mem _ hp))
      (creds.insertNew userid' e.credentials)
    refine ⟨creds', ?_, fun userid => ?_⟩
    · rw [List.map_cons, Prod.map_apply, loadUsers,
        LoadM.run_bind_of_ok (run_loadUser hcodec (hb _ List.mem_cons_self).1)]
      exact hrun
    · rw [hlookup, List.lookup_cons_ite]
      by_cases hmem : userid' ∈ creds
      · rw [AList.insertNew_of_mem hmem]
        by_cases heq : userid = userid'
        · subst heq
          obtain ⟨c, hc⟩ := AList.mem_iff_exists_lookup.mp hmem
          rw [hc]
          rfl
        · rw [if_neg heq]
      · rw [AList.insertNew_of_not_mem hmem, AList.lookup_insert_ite]
        by_cases heq : userid = userid'
        · subst heq
          rw [if_pos rfl, if_pos rfl, AList.lookup_eq_none.mpr hmem]
          rfl
        · rw [if_neg heq, if_neg heq]

/-- What is loaded from the tree of a book is what the calls have written. -/
theorem holds_of_describes (hcodec : codec.Lawful) {b : CredsBook} {calls : List AuthUser}
    (h : Describes b calls) : ∃ creds,
    (loadCredsFromFile codec uninit (some (bookTree codec b))).run = some (.ok creds) ∧
      Holds calls creds := by
  obtain ⟨creds, hrun, hlookup⟩ := run_loadUsers hcodec h.complete ∅
  have hcreds : ∀ userid, creds.lookup userid = (b.lookup userid).map UserEntry.credentials :=
    fun userid => by rw [hlookup, AList.lookup_empty, Option.none_or]
  refine ⟨creds, hrun, fun userid => ?_, fun userid credentials hc keyname pk => ?_⟩
  · have hlevel := h.level userid
    rw [hcreds]
    cases hb : b.lookup userid with
    | none =>
      rw [hb] at hlevel
      have hnone : lastLevel calls userid = none := by simpa using hlevel.symm
      rw [hnone]
      rfl
    | some e =>
      rw [hb, Option.map_some] at hlevel
      obtain ⟨n, hn, he⟩ := Option.map_eq_some_iff.mp hlevel.symm
      rw [hn, Option.map_some, Option.map_some, Option.map_some, UserEntry.credentials, ← he]
      rfl
  · rw [hcreds] at hc
    obtain ⟨e, he, rfl⟩ := Option.map_eq_some_iff.mp hc
    rw [← h.key userid e he keyname]
    exact List.mem_iff_lookup (h.complete.lookup he).2

end Load

/-! ### The names that work are enough -/

section Sufficient

variable {codec : TextCodec} {dirs : Directories} {fname : String}

/-- Calls with names that work write the tree of a book that describes them. -/
theorem exists_book (hcodec : codec.Lawful) {calls earlier : List AuthUser} {b : CredsBook}
    (hb : Describes b earlier)
    (h : ∀ calls₁ c calls₂, calls = calls₁ ++ c :: calls₂ → NamesWork (earlier ++ calls₁) c) :
    ∃ b', authUsersToFile codec dirs fname (some (bookTree codec b)) calls =
        .ok (some (bookTree codec b')) ∧ Describes b' (earlier ++ calls) := by
  induction calls generalizing earlier b with
  | nil => exact ⟨b, rfl, by rwa [List.append_nil]⟩
  | cons c calls ih =>
    have hc : NamesWork earlier c := by simpa using h [] c calls rfl
    have hempty : c.userid = "" → (b.lookup "").isSome → (b.lookup "keys").isSome := by
      intro hname hsome
      exact (hb.isSome_lookup_iff "keys").mpr
        (hc.empty hname ((hb.isSome_lookup_iff "").mp hsome))
    have hcall : authUserToFile codec dirs fname (some (bookTree codec b)) c =
        .ok (bookTree codec (b.auth c)) := authUserToFile_eq_ok_iff.mpr
      ⟨nofun, authUser_bookTree hcodec hb.complete hc.userid hc.keyname hc.keyname_ne hempty⟩
    obtain ⟨b', hrun, hb'⟩ := ih (hb.auth c) fun calls₁ c' calls₂ hsplit => by
      have hnames := h (c :: calls₁) c' calls₂ (by rw [hsplit]; rfl)
      rwa [List.append_assoc]
    refine ⟨b', bind_eq_ok_iff.mpr ⟨_, hcall, hrun⟩, ?_⟩
    rwa [List.append_assoc] at hb'

end Sufficient

/-! ### They are needed -/

section Necessary

variable {codec : TextCodec} {uninit : Pkarr} {dirs : Directories} {fname : String}

/-- Calls that go through take an empty user id for the whole tree only with a user `keys`. -/
theorem namesWork_of_run (hcodec : codec.Lawful) {calls earlier : List AuthUser} {b : CredsBook}
    (hb : Describes b earlier)
    (hnames : ∀ c ∈ calls, Dotless c.userid ∧ Dotless c.keyname ∧ c.keyname ≠ "")
    {file : Option CredsTree}
    (hrun : authUsersToFile codec dirs fname (some (bookTree codec b)) calls = .ok file) :
    ∀ calls₁ c calls₂, calls = calls₁ ++ c :: calls₂ → NamesWork (earlier ++ calls₁) c := by
  induction calls generalizing earlier b with
  | nil => simp
  | cons c calls ih =>
    obtain ⟨⟨huser, hkey, hne⟩, hrest⟩ := List.forall_mem_cons.mp hnames
    obtain ⟨credsTree, hcall, hrun⟩ := bind_eq_ok_iff.mp hrun
    obtain ⟨-, hcall⟩ := authUserToFile_eq_ok_iff.mp hcall
    rw [Option.getD_some] at hcall
    have hempty : c.userid = "" → (b.lookup "").isSome → (b.lookup "keys").isSome := by
      intro hname hsome
      by_contra hkeys
      rw [Bool.not_eq_true, Option.isSome_eq_false_iff, Option.isNone_iff_eq_none] at hkeys
      -- without a user `keys` the call would have failed
      obtain ⟨e, herror⟩ := @authUser_empty codec b c hname hsome hkeys
      rw [hcall] at herror
      cases herror
    rw [authUser_bookTree hcodec hb.complete huser hkey hne hempty] at hcall
    obtain rfl := Except.ok.inj hcall
    intro calls₁ c' calls₂ hsplit
    cases calls₁ with
    | nil =>
      obtain ⟨rfl, -⟩ := List.cons.inj hsplit
      refine ⟨huser, hkey, hne, fun hname hsome => ?_⟩
      rw [List.append_nil] at hsome ⊢
      exact (hb.isSome_lookup_iff "keys").mp (hempty hname ((hb.isSome_lookup_iff "").mpr hsome))
    | cons c₁ calls₁ =>
      obtain ⟨rfl, htail⟩ := List.cons.inj hsplit
      have hnext := ih (hb.auth c) hrest hrun calls₁ c' calls₂ htail
      rwa [List.append_assoc] at hnext

/-- The names that a call adds to a file are those of its two paths. -/
theorem namedBy_authUserToFile {p : ℕ → String → Prop} {file : Option CredsTree} {c : AuthUser}
    {t : CredsTree} (hfile : ∀ t ∈ file, PropertyTree.NamedBy p 0 t)
    (hkeys : (CredsTree.path (c.userid ++ ".keys." ++ c.keyname)).NamedBy p 0)
    (hlevel : (CredsTree.path (c.userid ++ ".authlevel")).NamedBy p 0)
    (h : authUserToFile codec dirs fname file c = .ok t) : PropertyTree.NamedBy p 0 t := by
  have hstart : PropertyTree.NamedBy p 0 (file.getD .empty) := by
    cases file with
    | none => exact .leaf default
    | some t => exact hfile t rfl
  have hputKey : ∀ {t t' : CredsTree}, t.NamedBy p 0 → putKey codec t c = .ok t' → t'.NamedBy p 0 :=
    fun ht h => ht.put hkeys h
  have hputLevel : ∀ {t t' : CredsTree}, t.NamedBy p 0 → putLevel codec t c = .ok t' →
      t'.NamedBy p 0 :=
    fun ht h => ht.put hlevel h
  replace h := (authUserToFile_eq_ok_iff.mp h).2
  rw [authUser] at h
  split at h
  · obtain ⟨t₁, h₁, h₂⟩ := bind_eq_ok_iff.mp h
    exact hputLevel (hputKey hstart h₁) h₂
  · obtain ⟨usertree, -, h⟩ := bind_eq_ok_iff.mp h
    obtain ⟨keytree, -, h⟩ := bind_eq_ok_iff.mp h
    obtain ⟨t₁, h₁, h⟩ := bind_eq_ok_iff.mp h
    -- the key is put, or is there already
    have ht₁ : t₁.NamedBy p 0 := by
      rw [updateKey] at h₁
      split at h₁
      · exact hputKey hstart h₁
      · split at h₁
        · exact hputKey hstart h₁
        · obtain rfl := Except.ok.inj h₁
          exact hstart
    obtain ⟨current, -, h⟩ := bind_eq_ok_iff.mp h
    split at h
    · exact hputLevel ht₁ h
    · obtain rfl := Except.ok.inj h
      exact ht₁

/-- The names in the file are those of its calls. -/
private theorem namedBy_authUsersToFile {p : ℕ → String → Prop} {calls : List AuthUser}
    (hpaths : ∀ c ∈ calls, (CredsTree.path (c.userid ++ ".keys." ++ c.keyname)).NamedBy p 0 ∧
      (CredsTree.path (c.userid ++ ".authlevel")).NamedBy p 0)
    {file file' : Option CredsTree} (hfile : ∀ t ∈ file, PropertyTree.NamedBy p 0 t)
    (h : authUsersToFile codec dirs fname file calls = .ok file') :
    ∀ t ∈ file', PropertyTree.NamedBy p 0 t := by
  induction calls generalizing file with
  | nil =>
    obtain rfl := Except.ok.inj h
    exact hfile
  | cons c calls ih =>
    obtain ⟨⟨hkeys, hlevel⟩, hrest⟩ := List.forall_mem_cons.mp hpaths
    obtain ⟨t, hcall, h⟩ := bind_eq_ok_iff.mp h
    refine ih hrest ?_ h
    rintro _ ⟨⟩
    exact namedBy_authUserToFile hfile hkeys hlevel hcall

/-- A user who is loaded stands in the file. -/
theorem mem_of_loadUsers {users : List (String × CredsTree)} {creds creds' : CredentialsMap Pkarr}
    (h : (loadUsers codec uninit users creds).run = some (.ok creds')) {userid : String}
    {c : Credentials Pkarr} (hc : creds'.lookup userid = some c) :
    creds.lookup userid = some c ∨
      ∃ user, (userid, user) ∈ users ∧ (loadUser codec uninit user).run = some (.ok c) := by
  induction users generalizing creds with
  | nil =>
    obtain rfl : creds = creds' := by simpa [loadUsers] using h
    exact .inl hc
  | cons u users ih =>
    obtain ⟨userid', user⟩ := u
    rw [loadUsers] at h
    obtain ⟨credentials, huser, h⟩ := LoadM.run_bind_eq_ok_iff.mp h
    obtain hold | ⟨user', hmem, hload⟩ := ih h
    · by_cases hnew : userid' ∈ creds
      · rw [AList.insertNew_of_mem hnew] at hold
        exact .inl hold
      · rw [AList.insertNew_of_not_mem hnew, AList.lookup_insert_ite] at hold
        split at hold
        · next heq =>
          subst heq
          obtain rfl := Option.some.inj hold
          exact .inr ⟨user, List.mem_cons_self, huser⟩
        · exact .inl hold
    · exact .inr ⟨user', List.mem_cons_of_mem _ hmem, hload⟩

/-- A key that is loaded stands in the file. -/
theorem mem_of_loadKeys {keytree : List (String × CredsTree)} {keys : List (String × Pkarr)}
    (h : (loadKeys codec uninit keytree).run = some (.ok keys)) {name : String} {pk : Pkarr}
    (hmem : (name, pk) ∈ keys) : ∃ key, (name, key) ∈ keytree := by
  induction keytree generalizing keys with
  | nil =>
    obtain rfl : [] = keys := by simpa [loadKeys] using h
    cases hmem
  | cons k keytree ih =>
    obtain ⟨name', key⟩ := k
    rw [loadKeys] at h
    obtain ⟨keyarr, -, h⟩ := LoadM.run_bind_eq_ok_iff.mp h
    obtain ⟨keys', hkeys, h⟩ := LoadM.run_bind_eq_ok_iff.mp h
    obtain rfl : (name', keyarr) :: keys' = keys := by simpa using h
    rcases List.mem_cons.mp hmem with heq | hrest
    · obtain ⟨rfl, -⟩ := Prod.mk.inj heq
      exact ⟨key, List.mem_cons_self⟩
    · obtain ⟨key', hkey'⟩ := ih hkeys hrest
      exact ⟨key', List.mem_cons_of_mem _ hkey'⟩

/-- The names that are loaded are names of the file. -/
theorem names_of_load {p : ℕ → String → Prop} {t : CredsTree} (ht : t.NamedBy p 0)
    {creds : CredentialsMap Pkarr}
    (hload : (loadCredsFromFile codec uninit (some t)).run = some (.ok creds)) {userid : String}
    {c : Credentials Pkarr} (hc : creds.lookup userid = some c) :
    p 0 userid ∧ ∀ keyname pk, (keyname, pk) ∈ c.keys → p 2 keyname := by
  obtain hempty | ⟨user, hmem, huser⟩ := mem_of_loadUsers hload hc
  · rw [AList.lookup_empty] at hempty
    cases hempty
  · refine ⟨ht.names _ hmem, fun keyname pk hkey => ?_⟩
    rw [loadUser] at huser
    obtain ⟨keytree, hkeytree, huser⟩ := LoadM.run_bind_eq_ok_iff.mp huser
    obtain ⟨keys, hkeys, huser⟩ := LoadM.run_bind_eq_ok_iff.mp huser
    obtain ⟨level, -, huser⟩ := LoadM.run_bind_eq_ok_iff.mp huser
    obtain rfl : ⟨keys, level.toInt⟩ = c := by simpa using huser
    obtain ⟨key, hkeymem⟩ := mem_of_loadKeys hkeys hkey
    have hchild : ("keys", keytree) ∈ user.children := by
      have hget := run_liftTree hkeytree
      rw [CredsTree.getChild, path_userid (by decide) (by decide), PropertyTree.walk] at hget
      cases hfind : user.find "keys" with
      | none =>
        rw [hfind] at hget
        cases hget
      | some keytree' =>
        rw [hfind] at hget
        obtain rfl := Except.ok.inj hget
        obtain ⟨l₁, l₂, hsplit, -⟩ := List.lookup_eq_some_iff.mp hfind
        rw [hsplit]
        exact List.mem_append_right _ List.mem_cons_self
    exact ((ht.subtrees _ hmem).subtrees _ hchild).names _ hkeymem

/-- A file that is there stays. -/
theorem exists_of_authUsersToFile {calls : List AuthUser} {t : CredsTree} {file : Option CredsTree}
    (h : authUsersToFile codec dirs fname (some t) calls = .ok file) : ∃ t', file = some t' := by
  induction calls generalizing t with
  | nil => exact ⟨t, (Except.ok.inj h).symm⟩
  | cons c calls ih =>
    obtain ⟨t₁, -, hrest⟩ := bind_eq_ok_iff.mp h
    exact ih hrest

/-- Names in the file of calls that make the round trip are names of the calls. -/
theorem names_of_roundTrips {p : ℕ → String → Prop} {calls : List AuthUser}
    (h : RoundTrips codec uninit dirs fname calls)
    (hpaths : ∀ c ∈ calls, (CredsTree.path (c.userid ++ ".keys." ++ c.keyname)).NamedBy p 0 ∧
      (CredsTree.path (c.userid ++ ".authlevel")).NamedBy p 0) :
    ∀ c ∈ calls, p 0 c.userid ∧ p 2 c.keyname := by
  intro c hc
  obtain ⟨file, hrun, hfile⟩ := h
  obtain ⟨t, rfl⟩ : ∃ t, file = some t := by
    cases calls with
    | nil => cases hc
    | cons c₁ calls =>
      obtain ⟨t₁, -, hrest⟩ := bind_eq_ok_iff.mp hrun
      exact exists_of_authUsersToFile hrest
  obtain ⟨creds, hload, hholds⟩ := hfile t rfl
  have ht := namedBy_authUsersToFile hpaths (by simp) hrun t rfl
  have hlevel := hholds.levels c.userid
  cases hlast : lastLevel calls c.userid with
  | none => exact absurd rfl (lastLevel_eq_none_iff.mp hlast c hc)
  | some n =>
    rw [hlast] at hlevel
    obtain ⟨credentials, hcredentials, -⟩ := Option.map_eq_some_iff.mp hlevel
    obtain ⟨huser, hkeys⟩ := names_of_load ht hload hcredentials
    refine ⟨huser, ?_⟩
    cases hkey : lastKey calls c.userid c.keyname with
    | none =>
      simp only [lastKey, Option.map_eq_none_iff, List.find?_eq_none, List.mem_reverse] at hkey
      exact absurd (decide_eq_true ⟨rfl, rfl⟩) (hkey c hc)
    | some pk =>
      exact hkeys c.keyname pk ((hholds.keys _ _ hcredentials _ _).mpr hkey)

/-- The names of calls that make the round trip are no paths. -/
theorem dotless_of_roundTrips {calls : List AuthUser}
    (h : RoundTrips codec uninit dirs fname calls) :
    ∀ c ∈ calls, Dotless c.userid ∧ Dotless c.keyname ∧ c.keyname ≠ "" := by
  have hdotless := names_of_roundTrips (p := fun _ name => Dotless name) h fun c _ =>
    ⟨PropertyPath.namedBy_parse _ _ _, PropertyPath.namedBy_parse _ _ _⟩
  have hnonempty := names_of_roundTrips (p := fun n name => n = 2 → name ≠ "") h fun c hc => by
    obtain ⟨huser, hkey⟩ := hdotless c hc
    rw [path_authlevel huser, path_keys huser]
    refine ⟨⟨nofun, nofun, ?_⟩, nofun, nofun⟩
    by_cases hne : c.keyname = ""
    · rw [hne]
      trivial
    · rw [path_userid hkey hne]
      exact fun _ => hne
  exact fun c hc => ⟨(hdotless c hc).1, (hdotless c hc).2, (hnonempty c hc).2 rfl⟩

end Necessary

/-- Calls make the round trip exactly if the file can be created and their names work. -/
theorem roundTrips_iff {codec : TextCodec} (hcodec : codec.Lawful) (uninit : Pkarr)
    (dirs : Directories) (fname : String) (calls : List AuthUser) :
    RoundTrips codec uninit dirs fname calls ↔ (calls ≠ [] → HasDirectory fname) ∧
      ∀ earlier c later, calls = earlier ++ c :: later → NamesWork earlier c := by
  cases calls with
  | nil => exact iff_of_true ⟨none, rfl, by simp⟩ ⟨fun h => absurd rfl h, by simp⟩
  | cons c calls =>
    constructor
    · intro h
      have hnames := dotless_of_roundTrips h
      obtain ⟨file, hrun, -⟩ := h
      obtain ⟨hdir, hrun⟩ := authUsersToFile_none_iff.mp hrun
      refine ⟨fun _ => hdir, fun earlier c' later hsplit => ?_⟩
      simpa using namesWork_of_run hcodec describes_nil hnames hrun earlier c' later hsplit
    · rintro ⟨hdir, h⟩
      obtain ⟨b, hrun, hb⟩ := exists_book hcodec describes_nil (by simpa using h)
      obtain ⟨creds, hload, hholds⟩ := holds_of_describes hcodec hb
      refine ⟨some (bookTree codec b), authUsersToFile_none_iff.mpr ⟨hdir nofun, hrun⟩, ?_⟩
      rintro _ ⟨⟩
      exact ⟨creds, hload, hholds⟩

/-- **The credentials file**: calls make the round trip exactly if the file can be created and their
names work, and any file is vetted exactly if the keys that the load comes to are of the right
length. -/
theorem credentialsFile_iff {codec : TextCodec} (hcodec : codec.Lawful) (uninit : Pkarr) :
    (∀ dirs fname calls, RoundTrips codec uninit dirs fname calls ↔
      (calls ≠ [] → HasDirectory fname) ∧
        ∀ earlier c later, calls = earlier ++ c :: later → NamesWork earlier c) ∧
    ∀ file, Vets codec uninit file ↔ KeysFit codec file :=
  ⟨roundTrips_iff hcodec uninit, vets_iff⟩

/-! ### A codec -/

/-- Base64 without padding, and decimal numbers. -/
def base64Codec : TextCodec where
  bin2base64 bytes := String.ofList (Base64.encode (bytes.map UInt8.toNat))
  base642bin maxlen text :=
    ((Base64.decode text.toList).filter fun bytes => bytes.length ≤ maxlen).map
      (List.map UInt8.ofNat)
  putInt n := n.toInt.repr
  getInt text :=
    ((Decimal.readInt text.toList).filter fun n => -2 ^ 31 ≤ n ∧ n < 2 ^ 31).map Int32.ofInt

/-- Base 64 is decoded to what has been encoded. -/
theorem base64Codec_lawful : base64Codec.Lawful where
  base642bin_bin2base64 maxlen bytes hlength := by
    have hdecode : Base64.decode (Base64.encode (bytes.map UInt8.toNat)) =
        some (bytes.map UInt8.toNat) :=
      Base64.decode_encode (by simpa using fun a _ => a.toNat_lt)
    have hbytes : UInt8.ofNat ∘ UInt8.toNat = id := funext fun _ => UInt8.ofNat_toNat
    simp [base64Codec, hdecode, hlength, hbytes]
  getInt_putInt n := by
    have hrange : -2 ^ 31 ≤ n.toInt ∧ n.toInt < 2 ^ 31 := ⟨n.le_toInt, n.toInt_lt⟩
    simp only [base64Codec, Decimal.readInt_repr, Option.filter_some, decide_eq_true hrange,
      if_true, Option.map_some, Int32.ofInt_toInt]
  length_bin2base64 bytes hlength := by
    simp [base64Codec, Base64.length_encode, hlength, publicKeyBytes]
  length_putInt n := by
    have hlow := n.le_toInt
    have hhigh := n.toInt_lt
    exact Decimal.length_repr_le (by decide) (by omega) (by omega)

/-- A key of zeros. -/
def zeroKey : Pkarr := ⟨List.replicate 32 0, List.length_replicate⟩

/-- A home directory. -/
def homeDirectories : Directories where
  has path := path = "/home/alice"
  not_has_empty := by decide

/-- A user gets two keys, and another level with the second, in a file whose directory is new. -/
theorem credentialsFile_two_keys :
    RoundTrips base64Codec zeroKey homeDirectories "/home/alice/.foxtrot/creds.json"
      [⟨"alice", zeroKey, 1, "default"⟩, ⟨"alice", zeroKey, 2, "laptop"⟩] := by
  refine ((credentialsFile_iff base64Codec_lawful zeroKey).1 _ _ _).mpr
    ⟨fun _ => by decide, fun earlier c later h => ?_⟩
  have hmem : c ∈ [⟨"alice", zeroKey, 1, "default"⟩, ⟨"alice", zeroKey, 2, "laptop"⟩] := by
    rw [h]
    exact List.mem_append_right _ List.mem_cons_self
  have hnames : c.userid = "alice" ∧ Dotless c.keyname ∧ c.keyname ≠ "" := by
    rcases List.mem_cons.mp hmem with rfl | hmem
    · exact ⟨rfl, by decide, by decide⟩
    · obtain rfl := List.mem_singleton.mp hmem
      exact ⟨rfl, by decide, by decide⟩
  refine ⟨by rw [hnames.1]; decide, hnames.2.1, hnames.2.2, fun hempty => ?_⟩
  rw [hnames.1] at hempty
  exact absurd hempty (by decide)

/-- A file whose only key is of one byte. -/
def shortKeyFile : CredsTree :=
  .node "" [("alice", .node "" [("keys", .node "" [("default", .leaf "AA")]),
    ("authlevel", .leaf "1")])]

/-- A dot in the name of a key makes the key unreadable, a file without a directory in its name is
not created, and a stored key of one byte is taken. -/
theorem not_credentialsFile :
    ¬ RoundTrips base64Codec zeroKey homeDirectories "/home/alice/creds.json"
        [⟨"alice", zeroKey, 1, "a.b"⟩] ∧
      ¬ RoundTrips base64Codec zeroKey homeDirectories "creds.json"
        [⟨"alice", zeroKey, 1, "default"⟩] ∧
      ¬ Vets base64Codec zeroKey shortKeyFile := by
  refine ⟨fun h => ?_, fun h => ?_, fun h => ?_⟩
  · have hnames := ((roundTrips_iff base64Codec_lawful zeroKey _ _ _).mp h).2 [] _ [] rfl
    exact absurd hnames.keyname (by decide)
  · have hdir := ((roundTrips_iff base64Codec_lawful zeroKey _ _ _).mp h).1 (List.cons_ne_nil _ _)
    exact absurd hdir (by decide)
  · have hcomes : ComesTo base64Codec shortKeyFile "AA" :=
      ⟨[], "alice", _, [], .node "" [("default", .leaf "AA")], [], "default", .leaf "AA", [], rfl,
        nofun, rfl, rfl, nofun, rfl⟩
    have hlength := (vets_iff shortKeyFile).mp h "AA" hcomes [0] (by decide)
    exact absurd hlength (by decide)

end Foxtrot
