import Foxtrot.Archon.Configuration
import Foxtrot.Foundation.Fallible
import Foxtrot.Foundation.Hexadecimal
import Mathlib.Data.Fintype.Basic
import Mathlib.Tactic.FinCases

/-!
# The modules of an Archon controller

The handler makes an object for each module (`devices/archon/archon_modules.cpp`) from the entries
of the module's slot in the reply to SYSTEM. Positions are counted from zero, and slots from one.
The names of variables are made for the next slot, and so is that of the entry that chooses the
class of the object, but the constructor of the object takes its identity from the entries with the
number of the position. So an object has the identity of its own slot exactly if that of the slot
before reads the same (`ownSlots_iff`).

The constructor of the handler is a loop over the positions, in which each turn throws, makes an
object or passes over the slot (`moduleAt_of_supported`, `supported_of_moduleAt`). It comes to its
end exactly if the entries that it reads are there and are numbers (`Readable`), and then each
object is made from the entries with the number of its position.
-/

namespace Foxtrot

open Text

/-- `ssmap`. -/
abbrev Ssmap := AList fun _ : String => String

/-- `std::map::at`. -/
def Ssmap.valueAt (map : Ssmap) (key : String) : Except Thrown String :=
  match map.lookup key with
  | none => .error (.outOfRange "map::at")
  | some val => .ok val

/-- An entry is read exactly if it is there. -/
theorem Ssmap.valueAt_eq_ok_iff {map : Ssmap} {key val : String} :
    map.valueAt key = .ok val ↔ map.lookup key = some val := by
  rw [valueAt]
  cases map.lookup key <;> simp

/-- `std::stoi`, with what it throws. -/
def readInt (text : String) : Except Thrown ℤ :=
  (stoi text).mapError (thrownByNumber "stoi")

/-- The same with the base 16. -/
def readIntHex (text : String) : Except Thrown ℤ :=
  (stoiHex text).mapError (thrownByNumber "stoi")

/-- The key of an entry for a buffer, in the reply to FRAME. -/
def bufKey (buf : ℤ) (name : String) : String := "BUF" ++ buf.repr ++ name

/-- The key of an entry of a slot. -/
def slotKey (slot : ℕ) (delim name : String) : String := "MOD" ++ slot.repr ++ delim ++ name

/-- `get_module_variable_string`, which goes from a position to its slot. -/
def getModuleVariableString (modpos : ℕ) (name : String) (map : Ssmap) (delim : String) :
    Except Thrown String :=
  map.valueAt (slotKey (modpos + 1) delim name)

/-- `extract_module_variable`, for an integer. -/
def extractModuleVariable (modpos : ℕ) (name : String) (map : Ssmap) (delim : String) :
    Except Thrown ℤ :=
  getModuleVariableString modpos name map delim >>= readInt

/-! ### The objects -/

/-- The classes of modules. -/
inductive ModuleClass where
  | heaterX
  | lvx
  | hvx
  | ad
  | xv
  | driver
  deriving DecidableEq

/-- The class that the constructor of the handler chooses for a value of `archon_module_types`. -/
def ModuleClass.ofType : UInt16 → Option ModuleClass
  | 11 => some .heaterX
  | 9 => some .lvx
  | 8 => some .hvx
  | 2 => some .ad
  | 12 => some .xv
  | 1 => some .driver
  | _ => none

/-- The members of `ArchonModule` that come from the entries of a slot. -/
structure SlotIdentity where
  modtype : UInt16
  rev : UInt16
  version : Int8 × Int8 × Int8
  id : String
  deriving DecidableEq

/-- `std::getline` up to a point: what it reads, and what it leaves. -/
def getlinePoint (text : List Char) : List Char × List Char :=
  (text.takeWhile (· ≠ '.'), (text.dropWhile (· ≠ '.')).tail)

/-- The three numbers of a version. -/
def readVersion (text : String) : Except Thrown (Int8 × Int8 × Int8) := do
  let (major, rest) := getlinePoint text.toList
  let (minor, rest) := getlinePoint rest
  let (build, _) := getlinePoint rest
  let major ← readInt (String.ofList major)
  let minor ← readInt (String.ofList minor)
  let build ← readInt (String.ofList build)
  return (Int8.ofInt major, Int8.ofInt minor, Int8.ofInt build)

/-- The type of the module in a slot. -/
def slotType (system : Ssmap) (slot : ℕ) : Except Thrown UInt16 := do
  let modtype ← system.valueAt (slotKey slot "_" "TYPE")
  let modtype ← readInt modtype
  return UInt16.ofInt modtype

/-- The identity of the module in a slot. -/
def slotIdentity (system : Ssmap) (slot : ℕ) : Except Thrown SlotIdentity := do
  let modtype ← slotType system slot
  let rev ← system.valueAt (slotKey slot "_" "REV")
  let rev ← readInt rev
  let version ← system.valueAt (slotKey slot "_" "VERSION")
  let version ← readVersion version
  let id ← system.valueAt (slotKey slot "_" "ID")
  return ⟨modtype, UInt16.ofInt rev, version, id⟩

/-- The members of `ArchonHeaterX` that come from the status. -/
structure HeaterVariables (F : Type) where
  heaterAOutput : F
  heaterBOutput : F
  tempA : F
  tempB : F
  tempC : F
  heaterAP : ℤ
  heaterAI : ℤ
  heaterAD : ℤ
  heaterBP : ℤ
  heaterBI : ℤ
  heaterBD : ℤ
  gpio : List Bool

/-- A module object. -/
structure ArchonModule (F : Type) where
  cls : ModuleClass
  modpos : ℕ
  identity : SlotIdentity
  heater : Option (HeaterVariables F)

namespace ArchonModule

variable {F : Type}

/-- The slot whose variables the module uses. -/
def slot (m : ArchonModule F) : ℕ := m.modpos + 1

/-- `readConfigKey`. -/
def readConfigKey (m : ArchonModule F) (subkey : String) : ArchonM String :=
  Archon.readKeyValue (slotKey m.slot "/" subkey)

/-- `writeConfigKey`. -/
def writeConfigKey (m : ArchonModule F) (key val : String) : ArchonM Unit :=
  Archon.writeKeyValue (slotKey m.slot "/" key) val

end ArchonModule

section Construction

variable {F : Type} (stof : String → Except Thrown F) (system status : Ssmap)

/-- `ArchonHeaterX::update_variables`. The inputs are the codes of characters, as numbers; behind
the last character that is `-1`. -/
def updateVariables (modpos : ℕ) : Except Thrown (HeaterVariables F) := do
  let real (name : String) := getModuleVariableString modpos name status "/" >>= stof
  let int (name : String) := extractModuleVariable modpos name status "/"
  let heaterAOutput ← real "HEATERAOUTPUT"
  let heaterBOutput ← real "HEATERBOUTPUT"
  let tempA ← real "TEMPA"
  let tempB ← real "TEMPB"
  let tempC ← real "TEMPC"
  let heaterAP ← int "HEATERAP"
  let heaterAI ← int "HEATERAI"
  let heaterAD ← int "HEATERAD"
  let heaterBP ← int "HEATERBP"
  let heaterBI ← int "HEATERBI"
  let heaterBD ← int "HEATERBD"
  let gpiostr ← getModuleVariableString modpos "DINPUTS" status "/"
  return {
    heaterAOutput, heaterBOutput, tempA, tempB, tempC
    heaterAP, heaterAI, heaterAD, heaterBP, heaterBI, heaterBD
    gpio := (List.range 8).map fun i => gpiostr.toList[i]?.all fun c => c.toNat ≠ 0 }

/-- What the constructor of a class reads of the status. -/
def statusVariables (modpos : ℕ) : ModuleClass → Except Thrown (Option (HeaterVariables F))
  | .heaterX => some <$> updateVariables stof status modpos
  | _ => return none

/-- `constructModule` of a class. -/
def constructModule (cls : ModuleClass) (modpos : ℕ) : Except Thrown (ArchonModule F) := do
  let identity ← slotIdentity system modpos
  let heater ← statusVariables stof status modpos cls
  return ⟨cls, modpos, identity, heater⟩

/-- `modules_installed`. -/
def modulesInstalled : Except Thrown ℤ := system.valueAt "MOD_PRESENT" >>= readIntHex

/-- `mod_present`. -/
def modPresent (installed : ℤ) (i : ℕ) : Prop :=
  ((1 <<< i) &&& BitVec.ofInt 32 installed) >>> i ≠ 0

instance (installed : ℤ) (i : ℕ) : Decidable (modPresent installed i) :=
  inferInstanceAs (Decidable (_ ≠ _))

/-- A turn of the loop over the positions. -/
def moduleAt (installed : ℤ) (i : ℕ) : Except Thrown (Option (ArchonModule F)) :=
  if modPresent installed i then do
    let modtype ← extractModuleVariable i "TYPE" system "_"
    match ModuleClass.ofType (UInt16.ofInt modtype) with
    | none => return none
    | some cls => some <$> constructModule stof system status cls i
  else
    return none

/-- The modules that the constructor of `archon` makes, by their positions. -/
def archonModules : Except Thrown (Fin 12 → Option (ArchonModule F)) := do
  let installed ← modulesInstalled system
  Fallible.collect fun i : Fin 12 => moduleAt stof system status installed i

end Construction

/-! ### The slot of an object -/

/-- An object is made from the entries of a slot. -/
structure BuiltFromSlot {F : Type} (system : Ssmap) (slot : ℕ) (m : ArchonModule F) : Prop where
  cls : ∃ modtype, slotType system slot = .ok modtype ∧ ModuleClass.ofType modtype = some m.cls
  identity : slotIdentity system slot = .ok m.identity

/-- **Each object is made from the entries of its own slot**, which is that of its position. -/
def OwnSlots {F : Type} (system : Ssmap) (modules : Fin 12 → Option (ArchonModule F)) : Prop :=
  ∀ i m, modules i = some m → m.slot = i + 1 ∧ BuiltFromSlot system m.slot m

/-- There is a module at a position, of a type that the handler has a class for. -/
def Supported (system : Ssmap) (i : ℕ) (cls : ModuleClass) : Prop :=
  ∃ installed modtype, modulesInstalled system = .ok installed ∧ modPresent installed i ∧
    slotType system (i + 1) = .ok modtype ∧ ModuleClass.ofType modtype = some cls

/-- The entries are there that the constructor of the handler reads, and they are numbers where
these are read. -/
structure Readable {F : Type} (stof : String → Except Thrown F) (system status : Ssmap) : Prop where
  installed : ∃ installed, modulesInstalled system = .ok installed
  types : ∀ installed, modulesInstalled system = .ok installed → ∀ i : Fin 12,
    modPresent installed i → ∃ modtype, slotType system (i + 1) = .ok modtype
  identities : ∀ (i : Fin 12) cls, Supported system i cls →
    ∃ identity, slotIdentity system i = .ok identity
  heaters : ∀ i : Fin 12, Supported system i .heaterX →
    ∃ heater, updateVariables stof status i = .ok heater

/-- The slot before that of a supported module has the same identity, as it is read. -/
def SameIdentities (system : Ssmap) : Prop :=
  ∀ (i : Fin 12) cls, Supported system i cls → slotIdentity system i = slotIdentity system (i + 1)

section Slots

variable {F : Type} {stof : String → Except Thrown F} {system status : Ssmap} {installed : ℤ}
  {i : ℕ} {cls : ModuleClass} {m : ArchonModule F} {modules : Fin 12 → Option (ArchonModule F)}

/-- The entry that chooses the class is that of the slot of the position. -/
theorem extractModuleVariable_type {α : Type} (f : UInt16 → Except Thrown α) :
    (extractModuleVariable i "TYPE" system "_" >>= fun modtype => f (UInt16.ofInt modtype)) =
      slotType system (i + 1) >>= f := by
  simp only [extractModuleVariable, getModuleVariableString, slotType, bind_assoc, pure_bind]

/-- The object has the identity of the slot with the number of the position. -/
theorem of_constructModule (h : constructModule stof system status cls i = .ok m) :
    m.cls = cls ∧ m.modpos = i ∧ slotIdentity system i = .ok m.identity := by
  rw [constructModule, Fallible.bind_eq_ok_iff] at h
  obtain ⟨identity, hidentity, h⟩ := h
  rw [Fallible.bind_eq_ok_iff] at h
  obtain ⟨heater, -, ⟨⟩⟩ := h
  exact ⟨rfl, rfl, hidentity⟩

/-- A module is constructed exactly if its entries can be read. -/
private theorem constructModule_returns_iff :
    (∃ m, constructModule stof system status cls i = .ok m) ↔
      (∃ identity, slotIdentity system i = .ok identity) ∧
        (cls = .heaterX → ∃ heater, updateVariables stof status i = .ok heater) := by
  have hstatus : (∃ heater, statusVariables stof status i cls = .ok heater) ↔
      (cls = .heaterX → ∃ heater, updateVariables stof status i = .ok heater) := by
    cases cls
    case heaterX =>
      rw [statusVariables, map_eq_pure_bind, Fallible.map_returns_iff]
      exact ⟨fun h _ => h, fun h => h rfl⟩
    all_goals exact iff_of_true ⟨none, rfl⟩ nofun
  rw [constructModule, Fallible.bind_returns_iff, ← hstatus]
  simp only [Fallible.map_returns_iff]
  exact exists_and_right

/-- Where no module is present, none is constructed. -/
private theorem moduleAt_of_not_present (h : ¬ modPresent installed i) :
    moduleAt stof system status installed i = .ok none :=
  if_neg h

/-- Where one is present, its class is that of the type in the next slot. -/
private theorem moduleAt_of_present (h : modPresent installed i) :
    moduleAt stof system status installed i = slotType system (i + 1) >>= fun modtype =>
      match ModuleClass.ofType modtype with
      | none => return none
      | some cls => some <$> constructModule stof system status cls i :=
  (if_pos h).trans <| extractModuleVariable_type fun modtype =>
    match ModuleClass.ofType modtype with
    | none => return none
    | some cls => some <$> constructModule stof system status cls i

/-- Where there is a supported module, an object is made. -/
theorem moduleAt_of_supported (hinstalled : modulesInstalled system = .ok installed)
    (h : Supported system i cls) : moduleAt stof system status installed i =
      some <$> constructModule stof system status cls i := by
  obtain ⟨installed', modtype, hinstalled', hpresent, htype, hcls⟩ := h
  obtain rfl := Except.ok.inj (hinstalled.symm.trans hinstalled')
  rw [moduleAt_of_present hpresent, Fallible.bind_of_ok htype, hcls]

/-- An object is made only where there is a supported module. -/
theorem supported_of_moduleAt (hinstalled : modulesInstalled system = .ok installed)
    (h : moduleAt stof system status installed i = .ok (some m)) :
    ∃ cls, Supported system i cls ∧ constructModule stof system status cls i = .ok m := by
  by_cases hpresent : modPresent installed i
  · rw [moduleAt_of_present hpresent, Fallible.bind_eq_ok_iff] at h
    obtain ⟨modtype, htype, h⟩ := h
    cases hcls : ModuleClass.ofType modtype with
    | none =>
      rw [hcls] at h
      cases h
    | some cls =>
      rw [hcls] at h
      simp only [map_eq_pure_bind, Fallible.bind_eq_ok_iff] at h
      obtain ⟨m', hm, ⟨⟩⟩ := h
      exact ⟨cls, ⟨installed, modtype, hinstalled, hpresent, htype, hcls⟩, hm⟩
  · rw [moduleAt_of_not_present hpresent] at h
    cases h

/-- The modules are constructed exactly if each position is. -/
theorem archonModules_eq_ok_iff :
    archonModules stof system status = .ok modules ↔ ∃ installed,
      modulesInstalled system = .ok installed ∧
        ∀ i : Fin 12, moduleAt stof system status installed i = .ok (modules i) := by
  rw [archonModules, Fallible.bind_eq_ok_iff]
  exact exists_congr fun installed => and_congr_right fun _ => Fallible.collect_eq_ok_iff

/-- The constructor comes to its end when the entries can be read. -/
theorem exists_archonModules (h : Readable stof system status) :
    ∃ modules, archonModules stof system status = .ok modules := by
  obtain ⟨installed, hinstalled⟩ := h.installed
  have hall : ∀ i : Fin 12, ∃ found, moduleAt stof system status installed i = .ok found := by
    intro i
    by_cases hpresent : modPresent installed i
    · obtain ⟨modtype, htype⟩ := h.types installed hinstalled i hpresent
      cases hcls : ModuleClass.ofType modtype with
      | none =>
        exact ⟨none, by rw [moduleAt_of_present hpresent, Fallible.bind_of_ok htype, hcls]; rfl⟩
      | some cls =>
        have hsupported : Supported system i cls :=
          ⟨installed, modtype, hinstalled, hpresent, htype, hcls⟩
        obtain ⟨m, hm⟩ := constructModule_returns_iff.mpr ⟨h.identities i cls hsupported,
          fun hheater => h.heaters i (hheater ▸ hsupported)⟩
        exact ⟨some m, by rw [moduleAt_of_supported hinstalled hsupported, hm]; rfl⟩
    · exact ⟨none, moduleAt_of_not_present hpresent⟩
  choose modules hmodules using hall
  exact ⟨modules, archonModules_eq_ok_iff.mpr ⟨installed, hinstalled, hmodules⟩⟩

/-- It comes to its end only then. -/
theorem readable_of_archonModules (h : archonModules stof system status = .ok modules) :
    Readable stof system status := by
  obtain ⟨installed, hinstalled, hall⟩ := archonModules_eq_ok_iff.mp h
  have hconstruct : ∀ (i : Fin 12) cls, Supported system i cls →
      ∃ m, constructModule stof system status cls i = .ok m := by
    intro i cls hsupported
    have hat := hall i
    rw [moduleAt_of_supported hinstalled hsupported, map_eq_pure_bind,
      Fallible.bind_eq_ok_iff] at hat
    exact hat.imp fun _ => And.left
  refine ⟨⟨installed, hinstalled⟩, fun installed' hinstalled' i hpresent => ?_,
    fun i cls hs => (constructModule_returns_iff.mp (hconstruct i cls hs)).1,
    fun i hs => (constructModule_returns_iff.mp (hconstruct i .heaterX hs)).2 rfl⟩
  obtain rfl := Except.ok.inj (hinstalled.symm.trans hinstalled')
  have hat := hall i
  rw [moduleAt_of_present hpresent, Fallible.bind_eq_ok_iff] at hat
  exact hat.imp fun _ => And.left

end Slots

/-- **The identity of modules**: each object is made from the entries of its own slot exactly if
those of the slot before read the same, for each supported module, or the entries cannot be read. -/
theorem ownSlots_iff {F : Type} (stof : String → Except Thrown F) (system status : Ssmap) :
    (∀ modules, archonModules stof system status = .ok modules → OwnSlots system modules) ↔
      (Readable stof system status → SameIdentities system) := by
  constructor
  · intro hown hreadable i cls hsupported
    obtain ⟨modules, hmodules⟩ := exists_archonModules hreadable
    obtain ⟨installed, hinstalled, hall⟩ := archonModules_eq_ok_iff.mp hmodules
    have hat := hall i
    rw [moduleAt_of_supported hinstalled hsupported, map_eq_pure_bind,
      Fallible.bind_eq_ok_iff] at hat
    obtain ⟨m, hm, hfound⟩ := hat
    obtain ⟨hslot, hbuilt⟩ := hown modules hmodules i m (Except.ok.inj hfound).symm
    rw [(of_constructModule hm).2.2, ← hslot, hbuilt.identity]
  · intro hsame modules hmodules i m hfound
    obtain ⟨installed, hinstalled, hall⟩ := archonModules_eq_ok_iff.mp hmodules
    have hat := hall i
    rw [hfound] at hat
    obtain ⟨cls, hsupported, hm⟩ := supported_of_moduleAt hinstalled hat
    obtain ⟨rfl, hmodpos, hidentity⟩ := of_constructModule hm
    have hslot : m.slot = i + 1 := congrArg (· + 1) hmodpos
    obtain ⟨_, modtype, -, -, htype, hcls⟩ := id hsupported
    refine ⟨hslot, ⟨modtype, hslot ▸ htype, hcls⟩, ?_⟩
    rw [hslot, ← hsame (readable_of_archonModules hmodules) i m.cls hsupported, hidentity]

/-- A controller with an A/D module in its second slot. -/
def secondSlot : Ssmap :=
  [("MOD_PRESENT", "2"),
    ("MOD1_TYPE", "0"), ("MOD1_REV", "0"), ("MOD1_VERSION", "0.0.0"), ("MOD1_ID", "0000"),
    ("MOD2_TYPE", "2"), ("MOD2_REV", "1"), ("MOD2_VERSION", "1.0.7"), ("MOD2_ID", "01AB")].foldr
    (fun entry map => map.insert entry.1 entry.2) ∅

/-- The module has the identity of the empty slot before it. -/
theorem not_ownSlots : ¬ ∀ modules, archonModules (F := String) .ok secondSlot ∅ = .ok modules →
    OwnSlots secondSlot modules := by
  intro hown
  let m : ArchonModule String := ⟨.ad, 1, ⟨0, 0, (0, 0, 0), "0000"⟩, none⟩
  have hmodules : archonModules .ok secondSlot ∅ =
      .ok fun i => if i = 1 then some m else none := by
    refine archonModules_eq_ok_iff.mpr ⟨2, by rfl, fun i => ?_⟩
    fin_cases i <;> rfl
  have hidentity := (hown _ hmodules 1 m rfl).2.identity
  have hother : slotIdentity secondSlot 2 = .ok ⟨2, 1, (1, 0, 7), "01AB"⟩ := by rfl
  exact absurd (Except.ok.inj (hother.symm.trans hidentity)) (by decide)

end Foxtrot
