import Foxtrot.Archon.Settings
import Foxtrot.Foundation.Recording

/-!
# Setting the modules

All modules of a controller keep their settings in the one configuration, next to the parameters
and whatever else is written there. To the callers each setting is a variable of its own
(`module_settings`): in every run in which no line is lost, the getter returns what the setter has
been given last, as far as the text of a `double` tells it, whatever has been done with other
settings, channels and modules, or with parameters. A call with a bad channel or value changes
nothing. Before the first call of the setter, and after the configuration has been cleared, the
getter throws.

Only `writeConfigKey`, which takes any key, gets at a setting in another way.

The proof looks at the entries of the slots only, which are the keys that begin with the number of a
module's slot. Any call changes at most one of them (`effect`), its own if it is a setter and the
one of its key if it writes a raw key, or it clears them all; everything else, parameters included,
leaves the slots alone (`SlotsKept`). As a setting is told by its key (`eq_of_hasKey`), a call that
does not touch a setting has no effect on its entry.

What the getter returns follows from the entry: it was printed by the setter, so it is decoded to
what the class makes of the printed text.
-/

namespace Foxtrot

open Stateful Text TransitionSystem Histories

/-! ### Runs -/

/-- A module of the controller. -/
structure Installed {F : Type} (modules : Fin 12 → Option (ArchonModule F)) where
  pos : Fin 12
  m : ArchonModule F
  at_pos : modules pos = some m

/-- A setting of a class, and a channel. -/
structure SettingPlace {F : Type} (r : SettingReals F) (cls : ModuleClass) where
  setting : Setting F
  mem : setting ∈ cls.settings r
  channel : setting.channels.Arg

namespace SettingPlace

variable {F : Type} {r : SettingReals F} {cls : ModuleClass} (p : SettingPlace r cls)

/-- The type of the values. -/
abbrev Val : Type := p.setting.kind.Val F

/-- The number in the key. -/
def number : Except Thrown (Option ℤ) := p.setting.channels.number p.channel

/-- The key in the slot, if there is such a channel. -/
def HasKey (key : String) : Prop :=
  ∃ number, p.number = .ok number ∧ key = keyText p.setting.word number

/-- The text of a value. -/
def print (v : p.Val) : String := p.setting.kind.print r v

/-- Why the setter refuses a value, if it does. -/
def refusal (v : p.Val) : Option Thrown :=
  match p.number, p.setting.check v with
  | .error e, _ => some e
  | .ok _, .error e => some e
  | .ok _, .ok _ => none

end SettingPlace

section System

variable {F : Type} (r : SettingReals F) (modules : Fin 12 → Option (ArchonModule F))

/-- A call of a function of a module, or of one of the controller. -/
inductive SettingsCall where
  | set (inst : Installed modules) (p : SettingPlace r inst.m.cls) (v : p.Val)
  | get (inst : Installed modules) (p : SettingPlace r inst.m.cls)
  | writeConfigKey (inst : Installed modules) (key : ConfigName) (val : ConfigText)
  | readConfigKey (inst : Installed modules) (key : ConfigName)
  | store (call : StoreCall)

/-- What a call returns. -/
inductive SettingsReply (F : Type) where
  | done
  | value (k : SettingKind) (v : k.Val F)
  | text (val : String)
  | store (reply : StoreReply)

/-- A call, and how its commands fail. -/
structure SettingsLabel where
  call : SettingsCall r modules
  faults : List (Option CommandFault)

/-- A call in a run: the number of lines that were in use, and what it came to. -/
structure SettingsObserved extends SettingsLabel r modules where
  lines : ℕ
  reply : Except Thrown (SettingsReply F)

/-- A rig, and the values of the parameters. -/
abbrev SettingsState := ArchonRig × AList fun _ : String => UInt32

variable {r modules}

/-- The function that is called. -/
def SettingsCall.perform : SettingsCall r modules → ArchonM (SettingsReply F)
  | set inst p v => p.setting.set r inst.m p.channel v >>= fun _ => pure .done
  | get inst p => p.setting.get r inst.m p.channel >>= fun v => pure (.value _ v)
  | writeConfigKey inst key val => inst.m.writeConfigKey key.1 val.1 >>= fun _ => pure .done
  | readConfigKey inst key => inst.m.readConfigKey key.1 >>= fun val => pure (.text val)
  | store call => call.perform >>= fun reply => pure (.store reply)

variable (r modules)

/-- The runs of a new handler with these modules. -/
def settingsSystem (lines : ℕ → String) :
    TransitionSystem SettingsState (SettingsLabel r modules) where
  init := (⟨Archon.new, lines, [], []⟩, ∅)
  step s l :=
    match l.call with
    | .store call => ((storeSystem lines).step ⟨s.1, s.2, .ok .done⟩ ⟨call, l.faults⟩).map
        fun s' => (s'.rig, s'.params)
    | call => some ((on call.perform { s.1 with faults := l.faults }).2, s.2)

variable {r modules}

/-- The call loses no line and writes what can be read, and it leaves the entries of the parameters
alone. -/
def SettingsUndisturbed (s : SettingsState) (l : SettingsLabel r modules) : Prop :=
  match l.call with
  | .set inst p v => p.refusal v = none → Printable (p.print v) ∧ ∀ key, p.HasKey key →
      TakesLine s.1.host (slotKey inst.m.slot "/" key) (p.print v) l.faults
  | .writeConfigKey inst key val =>
    TakesLine s.1.host (slotKey inst.m.slot "/" key.1) val.1 l.faults
  | .get _ _ | .readConfigKey _ _ => True
  | .store call => Undisturbed ⟨s.1, s.2, .ok .done⟩ ⟨call, l.faults⟩

namespace SettingsObserved

variable (w : SettingsObserved r modules)

/-- The call has returned. -/
def Returned : Prop := ∃ reply, w.reply = .ok reply

/-- The call may have changed the setting: it is its setter, or it writes its key as such, or it
clears the configuration. -/
def Touches (inst : Installed modules) (p : SettingPlace r inst.m.cls) : Prop :=
  w.Returned ∧ ((∃ v, w.call = .set inst p v) ∨
    (∃ key val, w.call = .writeConfigKey inst key val ∧ p.HasKey key.1) ∨
    (∃ key val name, w.call = .store (.writeKeyValue key val) ∧ p.HasKey name ∧
      key.1 = slotKey inst.m.slot "/" name) ∨
    w.call = .store .clearConfig)

/-- **A setting is a variable**, by a call after the earlier ones. -/
structure Conforms (earlier : List (SettingsObserved r modules)) : Prop where
  refused : ∀ inst p v e, w.call = .set inst p v → p.refusal v = some e → w.reply = .error e
  accepted : ∀ inst p v key, w.call = .set inst p v → p.refusal v = none → p.HasKey key →
    w.lines < 2047 → (join (slotKey inst.m.slot "/" key) (p.print v)).length < 2047 →
      w.faults.head?.join = none → w.reply = .ok .done
  /-- The getter returns what has been set last. -/
  got : ∀ inst p, w.call = .get inst p → w.faults.head?.join = none →
    ∀ before between v u, earlier = before ++ u :: between → u.call = .set inst p v → u.Returned →
      (∀ u ∈ between, ¬ u.Touches inst p) →
        w.reply = (p.setting.kind.settled r v).map (.value p.setting.kind)
  /-- Or what has been written there otherwise. -/
  gotRaw : ∀ inst p, w.call = .get inst p → w.faults.head?.join = none →
    ∀ before between key val u, earlier = before ++ u :: between →
      u.call = .writeConfigKey inst key val → p.HasKey key.1 → u.Returned →
        (∀ u ∈ between, ¬ u.Touches inst p) →
          w.reply = (p.setting.kind.read r val.1).map (.value p.setting.kind)
  /-- It throws if nothing has. -/
  unset : ∀ inst p key, w.call = .get inst p → p.HasKey key →
    ∀ before between, earlier = before ++ between →
      (before = [] ∨ ∃ first u, before = first ++ [u] ∧ u.call = .store .clearConfig ∧
        u.Returned) → (∀ u ∈ between, ¬ u.Touches inst p) →
          w.reply = .error (.exception ("the key " ++ slotKey inst.m.slot "/" key ++
            " is not registered with this archon handler"))
  /-- So it does for a bad channel. -/
  badChannel : ∀ inst p e, w.call = .get inst p → p.number = .error e → w.reply = .error e

end SettingsObserved

/-! ### One call -/

section Calls

variable {rig : ArchonRig} {params : AList fun _ : String => UInt32}

namespace SettingPlace

variable {cls : ModuleClass} {p : SettingPlace r cls} {v : p.Val} {m : ArchonModule F}
  {key key' : String}

/-- The key of a setting is printable and without `=`. -/
private theorem plain_of_hasKey (h : p.HasKey key) : Printable key ∧ '=' ∉ key.toList := by
  obtain ⟨number, -, rfl⟩ := h
  exact plain_keyText (cls.keyWord_of_mem r p.mem) number

/-- A setting has one key. -/
theorem HasKey.unique (h : p.HasKey key) (h' : p.HasKey key') : key = key' := by
  obtain ⟨number, hnumber, rfl⟩ := h
  obtain ⟨number', hnumber', rfl⟩ := h'
  rw [Except.ok.inj (hnumber.symm.trans hnumber')]

/-- A setter that refuses its arguments does nothing. -/
theorem set_of_refusal {e : Thrown} (h : p.refusal v = some e) :
    on (p.setting.set r m p.channel v) rig = (.error e, rig) := by
  unfold refusal number at h
  unfold Setting.set
  cases hnumber : p.setting.channels.number p.channel with
  | error e' =>
    rw [hnumber] at h
    obtain rfl := Option.some.inj h
    rfl
  | ok number =>
    cases hcheck : p.setting.check v with
    | error e' =>
      rw [hnumber, hcheck] at h
      obtain rfl := Option.some.inj h
      rfl
    | ok _ =>
      rw [hnumber, hcheck] at h
      cases h

/-- Otherwise it writes its entry. -/
theorem set_of_admitted (h : p.refusal v = none) : ∃ key, p.HasKey key ∧
    p.setting.set r m p.channel v = Archon.writeKeyValue (slotKey m.slot "/" key) (p.print v) := by
  unfold refusal number at h
  cases hnumber : p.setting.channels.number p.channel with
  | error e =>
    rw [hnumber] at h
    cases h
  | ok number =>
    cases hcheck : p.setting.check v with
    | error e =>
      rw [hnumber, hcheck] at h
      cases h
    | ok _ =>
      refine ⟨_, ⟨number, hnumber, rfl⟩, ?_⟩
      rw [Setting.set, hnumber, hcheck, ofExcept_ok_bind, ofExcept_ok_bind]
      rfl

end SettingPlace

/-! ### What a call writes

Clearing writes the first entries of an empty configuration, of which none is in a slot. -/

/-- Values are not changed by what only reads. -/
theorem value_of_reads {A : Type} {m : ArchonM A}
    (hm : ∀ {P : ArchonRig → Prop}, (∀ rig n, P rig → P (rig.accept (.rconfig n))) →
      (∀ rig n, P rig → P (rig.refuse (.rconfig n))) → Maintains P m) :
    (on m rig).2.value = rig.value :=
  hm (P := fun rig' => rig'.value = rig.value)
    (fun _ _ h => (ArchonRig.value_of_eq rfl rfl).trans h)
    (fun _ _ h => (ArchonRig.value_of_eq rfl rfl).trans h) rig rfl

/-- The entries of the slots are what they have been. -/
def SlotsKept (before after : ArchonRig) : Prop :=
  ∀ slot name, after.value (slotKey slot "/" name) = before.value (slotKey slot "/" name)

/-- A parameter's entry is not one of a slot. -/
theorem maintains_writeParameter (before : ArchonRig) {key val : String} (hkey : '=' ∉ key.toList)
    (hparam : IsParameterKey key) :
    Maintains (fun rig => rig.Sound ∧ SlotsKept before rig) (Archon.writeKeyValue key val) := by
  rintro rig ⟨hsound, hkept⟩
  obtain ⟨-, -, hon⟩ | ⟨fault, -, -, hon⟩ | ⟨e, -, hon⟩ :=
    Archon.writeKeyValue_cases hsound key val
  · rw [hon]
    refine ⟨hsound.written hkey val, fun slot name => ?_⟩
    have hne : slotKey slot "/" name ≠ key :=
      fun heq => not_isParameterKey_slotKey slot name (heq ▸ hparam)
    rw [hsound.value_written hkey, Function.update_of_ne hne, hkept]
  · rw [hon]
    refine ⟨hsound.unwritten key val, fun slot name => ?_⟩
    rw [ArchonRig.value_unwritten, hkept]
  · rw [hon]
    exact ⟨hsound, hkept⟩

private theorem slotsKept_setParam (hsound : rig.Sound) (name : String) (val : UInt32) :
    SlotsKept rig (on (Archon.setParam name val) rig).2 := by
  let P : ArchonRig → Prop := fun rig' => rig'.Sound ∧ SlotsKept rig rig'
  have hnames : ∀ f : AList (fun _ : String => ℤ) → AList fun _ : String => ℤ,
      Maintains P (Archon.setHost (Archon.parameters.update f)) := by
    rintro f rig' ⟨hsound', hkept⟩
    exact ⟨hsound'.of_eq rfl rfl rfl, fun slot name => hkept slot name⟩
  have hcount : ∀ n, Maintains P (Archon.setParameters n) := fun n =>
    maintains_writeParameter rig (by decide) (.inl rfl)
  have hget : Maintains P Archon.getParameters :=
    Archon.maintains_getCount (fun _ _ h => ⟨h.1.accept_rconfig _, h.2⟩)
      (fun _ _ h => ⟨h.1.refuse _, h.2⟩) _
  have hconfnum : Maintains P (Archon.parameters.confnum name) := by
    refine (Archon.maintains_host P).bind fun s => ?_
    cases (Archon.parameters.names s).lookup name with
    | some i => exact Maintains.pure i
    | none => exact hget.bind fun n => (hnames _).bind fun _ => (hcount _).bind fun _ =>
        Maintains.pure n
  have hset : Maintains P (Archon.setParam name val) := hconfnum.bind fun i =>
    maintains_writeParameter rig (plain_entry i).2 (.inr ⟨i, rfl⟩)
  exact (hset rig ⟨hsound, fun _ _ => rfl⟩).2

/-- Nothing is in the slots of a configuration that has just been cleared. -/
theorem value_clearConfig (hfaults : ∀ fault ∈ rig.faults.take 6, fault = none) (slot : ℕ)
    (name : String) :
    (on Archon.clearConfig rig).2.value (slotKey slot "/" name) = none := by
  have hkeys : ∀ kv ∈ Archon.clearedEntries, '=' ∉ kv.1.toList :=
    fun kv hkv => (Archon.plain_clearedEntries kv hkv).1.2
  have hnot : slotKey slot "/" name ∉ Archon.clearedEntries.map Prod.fst :=
    slotKey_not_mem (by decide) slot name
  rw [Archon.clearConfig_of_accepted hfaults]
  exact ((Archon.sound_cleared rig).value_writtenAll_of_not_mem hkeys hnot).trans
    (Archon.value_cleared rig _)

end Calls

/-! ### Every call -/

/-- The entry that a call writes. -/
def SettingsCall.writes? : SettingsCall r modules → Option (String × String)
  | set inst p v => p.number.toOption.map fun number =>
      (slotKey inst.m.slot "/" (keyText p.setting.word number), p.print v)
  | writeConfigKey inst key val => some (slotKey inst.m.slot "/" key.1, val.1)
  | store (.writeKeyValue key val) => some (key.1, val.1)
  | _ => none

namespace SettingsObserved

/-- What becomes of an entry of a slot by a call. -/
def effect (w : SettingsObserved r modules) (key : String) : Option (Option String) :=
  match w.reply, w.call with
  | .error _, _ => none
  | .ok _, .store .clearConfig => some none
  | .ok _, call => call.writes?.bind fun entry =>
      if key = entry.1 then some (some entry.2) else none

variable {w : SettingsObserved r modules}

private theorem effect_of_error {e : Thrown} (h : w.reply = .error e) (key : String) :
    w.effect key = none := by
  rw [effect, h]

/-- A call that writes has its effect under its own key. -/
private theorem effect_of_writes {entry : String × String} (hreply : w.Returned)
    (hentry : w.call.writes? = some entry) (key : String) :
    w.effect key = if key = entry.1 then some (some entry.2) else none := by
  obtain ⟨reply, hreply⟩ := hreply
  obtain ⟨⟨call, faults⟩, lines, reply'⟩ := w
  obtain rfl : reply' = .ok reply := hreply
  have hentry : call.writes? = some entry := hentry
  have hcall : effect ⟨⟨call, faults⟩, lines, .ok reply⟩ key = call.writes?.bind fun entry =>
      if key = entry.1 then some (some entry.2) else none := by
    cases call with
    | store call =>
      cases call with
      | clearConfig => cases hentry
      | _ => rfl
    | _ => rfl
  rw [hcall, hentry]
  rfl

/-- A call that does not write has no effect, unless it clears the configuration. -/
private theorem effect_of_none (hentry : w.call.writes? = none)
    (hclear : w.call ≠ .store .clearConfig)
    (key : String) : w.effect key = none := by
  obtain ⟨⟨call, faults⟩, lines, reply⟩ := w
  have hentry : call.writes? = none := hentry
  cases reply with
  | error e => rfl
  | ok reply =>
    have hcall : effect ⟨⟨call, faults⟩, lines, .ok reply⟩ key = call.writes?.bind fun entry =>
        if key = entry.1 then some (some entry.2) else none := by
      cases call with
      | store call =>
        cases call with
        | clearConfig => exact absurd rfl hclear
        | _ => rfl
      | _ => rfl
    rw [hcall, hentry]
    rfl

end SettingsObserved

section Step

variable {lines : ℕ → String} {s s' : SettingsState} {l : SettingsLabel r modules}
  {call : SettingsCall r modules} {faults : List (Option CommandFault)}

/-- The rig that a call finds. -/
abbrev SettingsState.rigWith (s : SettingsState) (faults : List (Option CommandFault)) :
    ArchonRig :=
  { s.1 with faults := faults }

/-- What fails next does not matter to what is kept. -/
private theorem keeps_rigWith (h : s.1.Keeps s.2) (faults : List (Option CommandFault)) :
    (s.rigWith faults).Keeps s.2 :=
  ⟨h.1.withFaults faults, h.2⟩

/-- What is seen of a call. -/
abbrev observed (s : SettingsState) (call : SettingsCall r modules)
    (faults : List (Option CommandFault)) : SettingsObserved r modules :=
  ⟨⟨call, faults⟩, s.1.host.configLines, (on call.perform (s.rigWith faults)).1⟩

/-- A call does to the entries of the slots what its effect says. -/
def EntriesAfter (s : SettingsState) (call : SettingsCall r modules)
    (faults : List (Option CommandFault)) : Prop :=
  ∀ slot name, (on call.perform (s.rigWith faults)).2.value (slotKey slot "/" name) =
    ((observed s call faults).effect (slotKey slot "/" name)).getD
      (s.1.value (slotKey slot "/" name))

/-- A call that writes an entry. -/
theorem entriesAfter_write (h : s.1.Keeps s.2) {key val : String} {reply : SettingsReply F}
    (hwrites : call.writes? = some (key, val))
    (hperform : call.perform = Archon.writeKeyValue key val >>= fun _ => pure reply)
    (hkey : Printable key ∧ '=' ∉ key.toList) (hval : Printable val)
    (htake : TakesLine s.1.host key val faults) : EntriesAfter s call faults := by
  obtain ⟨-, -, hcases⟩ := inStep_writeKeyValue (h.1.withFaults faults) hkey hval htake
  have hon : on call.perform (s.rigWith faults) =
      ((on (Archon.writeKeyValue key val) (s.rigWith faults)).1.map fun _ => reply,
        (on (Archon.writeKeyValue key val) (s.rigWith faults)).2) := by
    rw [hperform, on_bind_pure]
  have hreply : (observed s call faults).reply =
      (on (Archon.writeKeyValue key val) (s.rigWith faults)).1.map fun _ => reply :=
    congrArg Prod.fst hon
  have hsame : (s.rigWith faults).value = s.1.value := ArchonRig.value_of_eq rfl rfl
  intro slot name
  rw [hon]
  obtain ⟨hok, hvalue⟩ | ⟨⟨e, herror⟩, -, hvalue⟩ := hcases
  · rw [hok] at hreply
    rw [SettingsObserved.effect_of_writes ⟨reply, hreply⟩ hwrites, hvalue, hsame,
      Function.update_apply]
    split_ifs <;> rfl
  · rw [herror] at hreply
    rw [SettingsObserved.effect_of_error hreply, hvalue, hsame]
    rfl

/-- A call that changes no entry of a slot. -/
theorem entriesAfter_other (heffect : ∀ key, (observed s call faults).effect key = none)
    (hsame : SlotsKept (s.rigWith faults) (on call.perform (s.rigWith faults)).2) :
    EntriesAfter s call faults := by
  intro slot name
  rw [heffect, hsame]
  rfl

/-- A call that only reads. -/
theorem entriesAfter_read (hwrites : call.writes? = none) (hclear : call ≠ .store .clearConfig)
    (hreads : ∀ {P : ArchonRig → Prop}, (∀ rig n, P rig → P (rig.accept (.rconfig n))) →
      (∀ rig n, P rig → P (rig.refuse (.rconfig n))) → Maintains P call.perform) :
    EntriesAfter s call faults :=
  entriesAfter_other (SettingsObserved.effect_of_none hwrites hclear) fun _ _ =>
    congrFun (value_of_reads hreads) _

/-- A setter writes the printed value under its key. -/
private theorem writes_set {inst : Installed modules} {p : SettingPlace r inst.m.cls} {key : String}
    (hkey : p.HasKey key) (v : p.Val) :
    (SettingsCall.set inst p v).writes? = some (slotKey inst.m.slot "/" key, p.print v) := by
  obtain ⟨number, hnumber, rfl⟩ := hkey
  rw [SettingsCall.writes?, hnumber]
  rfl

private theorem perform_set (inst : Installed modules) (p : SettingPlace r inst.m.cls) (v : p.Val) :
    (SettingsCall.set inst p v).perform =
      p.setting.set r inst.m p.channel v >>= fun _ => pure .done := rfl

private theorem reads_get (inst : Installed modules) (p : SettingPlace r inst.m.cls)
    {P : ArchonRig → Prop} (haccept : ∀ rig n, P rig → P (rig.accept (.rconfig n)))
    (hrefuse : ∀ rig n, P rig → P (rig.refuse (.rconfig n))) :
    Maintains P (SettingsCall.get inst p).perform := by
  refine Maintains.bind ?_ fun _ => Maintains.pure _
  exact (Maintains.ofExcept _).bind fun _ =>
    (Archon.maintains_readKeyValue haccept hrefuse _).bind fun _ => Maintains.ofExcept _

private theorem reads_readConfigKey (inst : Installed modules) (key : ConfigName)
    {P : ArchonRig → Prop}
    (haccept : ∀ rig n, P rig → P (rig.accept (.rconfig n)))
    (hrefuse : ∀ rig n, P rig → P (rig.refuse (.rconfig n))) :
    Maintains P (SettingsCall.readConfigKey inst key : SettingsCall r modules).perform :=
  (Archon.maintains_readKeyValue haccept hrefuse _).bind fun _ => Maintains.pure _

/-- **What any call does to the entries.** -/
theorem entriesAfter (h : s.1.Keeps s.2) (hl : SettingsUndisturbed s ⟨call, faults⟩) :
    EntriesAfter s call faults := by
  cases call with
  | set inst p v =>
    cases hrefusal : p.refusal v with
    | some e =>
      have hon : on (SettingsCall.set inst p v).perform (s.rigWith faults) =
          (.error e, s.rigWith faults) :=
        on_bind_of_error (SettingPlace.set_of_refusal hrefusal) _
      refine entriesAfter_other (SettingsObserved.effect_of_error (congrArg Prod.fst hon)) ?_
      rw [hon]
      exact fun _ _ => rfl
    | none =>
      -- an admitted value is written under the key of the place
      obtain ⟨key, hkey, hset⟩ := SettingPlace.set_of_admitted (m := inst.m) hrefusal
      obtain ⟨hprintable, htake⟩ := hl hrefusal
      exact entriesAfter_write h (writes_set hkey v) (by rw [perform_set, hset])
        (plain_slotKey _ (SettingPlace.plain_of_hasKey hkey)) hprintable (htake key hkey)
  | get inst p => exact entriesAfter_read rfl (by rintro ⟨⟩) (reads_get inst p)
  | writeConfigKey inst key val =>
    exact entriesAfter_write h rfl rfl (plain_slotKey _ key.2) val.2 hl
  | readConfigKey inst key =>
    exact entriesAfter_read rfl (by rintro ⟨⟩) (reads_readConfigKey inst key)
  | store call =>
    cases call with
    | writeKeyValue key val =>
      have hperform : (SettingsCall.store (.writeKeyValue key val) :
          SettingsCall r modules).perform = Archon.writeKeyValue key.1 val.1 >>= fun _ =>
            pure (.store .done) := by
        simp only [SettingsCall.perform, StoreCall.perform, bind_assoc, pure_bind]
      exact entriesAfter_write h rfl hperform key.2 val.2 hl.1
    | readKeyValue key =>
      exact entriesAfter_read rfl (by rintro ⟨⟩) fun haccept hrefuse =>
        ((Archon.maintains_readKeyValue haccept hrefuse _).bind fun _ => Maintains.pure _).bind
          fun _ => Maintains.pure _
    | getParam name =>
      exact entriesAfter_read rfl (by rintro ⟨⟩) fun haccept hrefuse =>
        ((Archon.maintains_getParam haccept hrefuse _).bind fun _ => Maintains.pure _).bind
          fun _ => Maintains.pure _
    | setParam name val =>
      refine entriesAfter_other (SettingsObserved.effect_of_none rfl (by rintro ⟨⟩)) ?_
      -- parameters are lines as well, but none of a slot
      have hkept := slotsKept_setParam (h.1.withFaults faults).sound name.1 val
      simp only [SettingsCall.perform, StoreCall.perform, on_bind_pure]
      exact hkept
    | clearConfig =>
      have hon : on (SettingsCall.store .clearConfig : SettingsCall r modules).perform
          (s.rigWith faults) = ((on Archon.clearConfig (s.rigWith faults)).1.map fun _ =>
            .store .done, (on Archon.clearConfig (s.rigWith faults)).2) := by
        simp only [SettingsCall.perform, StoreCall.perform, on_bind_pure]
        cases (on Archon.clearConfig (s.rigWith faults)).1 <;> rfl
      cases hfault : faults.head?.join with
      | none =>
        have hall : ∀ fault ∈ (s.rigWith faults).faults.take 6, fault = none := hl hfault
        have hreply : (observed s (.store .clearConfig : SettingsCall r modules) faults).reply =
            .ok (.store .done) := by
          refine (congrArg Prod.fst hon).trans ?_
          rw [Archon.clearConfig_of_accepted hall]
          rfl
        intro slot name
        rw [hon, value_clearConfig hall]
        unfold SettingsObserved.effect
        rw [hreply]
        rfl
      -- a refused `CLEARCONFIG` leaves all lines
      | some fault =>
        have hclear : on Archon.clearConfig (s.rigWith faults) =
            (.error fault.thrown, (s.rigWith faults).refuse .clearconfig) := by
          have hnext : (s.rigWith faults).nextFault = some fault := hfault
          rw [Archon.clearConfig_eq, on_bind_of_error (Archon.cmd_of_refused hnext _)]
        rw [hclear] at hon
        refine entriesAfter_other (SettingsObserved.effect_of_error (congrArg Prod.fst hon)) ?_
        rw [hon]
        exact fun _ _ => rfl

/-- The next state has the rig that the call leaves. -/
theorem rig_of_step (hstep : (settingsSystem r modules lines).step s ⟨call, faults⟩ = some s') :
    s'.1 = (on call.perform (s.rigWith faults)).2 := by
  cases call with
  | store call =>
    obtain rfl := Option.some.inj hstep
    rw [SettingsCall.perform, on_bind_pure]
  | _ =>
    obtain rfl := Option.some.inj hstep
    rfl

/-- A call keeps the store. -/
theorem keeps_settingsStep (h : s.1.Keeps s.2) (hl : SettingsUndisturbed s ⟨call, faults⟩)
    (hstep : (settingsSystem r modules lines).step s ⟨call, faults⟩ = some s') :
    s'.1.Keeps s'.2 := by
  have hrig := rig_of_step hstep
  have hfound := keeps_rigWith h faults
  cases call with
  | store call =>
    obtain rfl := Option.some.inj hstep
    have hstep' : (storeSystem lines).step ⟨s.1, s.2, .ok .done⟩ ⟨call, faults⟩ = some _ := rfl
    exact keeps_step h hl hstep'
  | get inst p =>
    obtain rfl := Option.some.inj hstep
    exact keeps_read hfound (reads_get inst p)
  | readConfigKey inst key =>
    obtain rfl := Option.some.inj hstep
    exact keeps_read hfound (reads_readConfigKey (r := r) inst key)
  | writeConfigKey inst key val =>
    obtain rfl := Option.some.inj hstep
    rw [hrig, SettingsCall.perform, on_bind_pure]
    -- a key of a slot is not one of a parameter
    exact keeps_writeKeyValue hfound (plain_slotKey _ key.2) val.2 hl
      (not_isParameterKey_slotKey _ _)
  | set inst p v =>
    obtain rfl := Option.some.inj hstep
    rw [hrig, perform_set, on_bind_pure]
    cases hrefusal : p.refusal v with
    | some e =>
      rw [SettingPlace.set_of_refusal hrefusal]
      exact hfound
    | none =>
      obtain ⟨key, hkey, hset⟩ := SettingPlace.set_of_admitted (m := inst.m) hrefusal
      obtain ⟨hprintable, htake⟩ := hl hrefusal
      rw [hset]
      exact keeps_writeKeyValue hfound (plain_slotKey _ (SettingPlace.plain_of_hasKey hkey))
        hprintable (htake key hkey) (not_isParameterKey_slotKey _ _)

/-! ### Replies -/

section Replies

variable {inst : Installed modules} {p : SettingPlace r inst.m.cls} {v : p.Val} {key text : String}
  {e : Thrown}

/-- The reply to a setter says only that it has returned. -/
private theorem reply_set_eq (inst : Installed modules) (p : SettingPlace r inst.m.cls)
    (v : p.Val) :
    (observed s (.set inst p v) faults).reply =
      (on (p.setting.set r inst.m p.channel v) (s.rigWith faults)).1.map fun _ => .done :=
  congrArg Prod.fst (on_bind_pure _ _ _)

private theorem reply_set_of_refusal (h : p.refusal v = some e) :
    (observed s (.set inst p v) faults).reply = .error e := by
  rw [reply_set_eq, SettingPlace.set_of_refusal h]
  rfl

end Replies

/-! ### Settings are variables -/

/-- The entries are what the calls have made of them, and no setter has returned that refuses its
arguments. -/
structure SettingsInv (s : SettingsState) (log : List (SettingsObserved r modules)) : Prop where
  keeps : s.1.Keeps s.2
  entries : ∀ slot name, s.1.value (slotKey slot "/" name) =
    lastEffect SettingsObserved.effect log (slotKey slot "/" name)
  admitted : ∀ u ∈ log, ∀ inst p v, u.call = .set inst p v → u.Returned → p.refusal v = none

variable {log : List (SettingsObserved r modules)}

/-- **An undisturbed call** keeps what is stored in accord with what has been set. -/
theorem SettingsInv.step (h : SettingsInv s log) (hl : SettingsUndisturbed s ⟨call, faults⟩)
    (hstep : (settingsSystem r modules lines).step s ⟨call, faults⟩ = some s') :
    SettingsInv s' (log ++ [observed s call faults]) := by
  refine ⟨keeps_settingsStep h.keeps hl hstep, fun slot name => ?_, fun u hu => ?_⟩
  · rw [rig_of_step hstep, entriesAfter h.keeps hl, lastEffect_concat, h.entries]
  · obtain hu | hu := List.mem_append.mp hu
    · exact h.admitted u hu
    · obtain rfl := List.mem_singleton.mp hu
      rintro inst p v rfl ⟨reply, hreply⟩
      cases hrefusal : p.refusal v with
      | none => rfl
      | some e => cases hreply.symm.trans (reply_set_of_refusal hrefusal)

end Step

end System

/-! ### A clamp -/

/-- Thousandths, of which the integers are printed. -/
private def thousandths : SettingReals ℤ where
  const n k := n * 1000 / 10 ^ k
  lt a b := a < b
  ofInt n := n * 1000
  toString n := (n / 1000).repr ++ ".000000"
  precise n := (n / 1000).repr
  stod str := (readInt str).map (· * 1000)
  printable_toString n := (printable_repr _).append (by decide)
  printable_precise n := printable_repr _

/-- An A/D module in the second slot. -/
private def adModule : ArchonModule ℤ := ⟨.ad, 1, ⟨0, 0, (0, 0, 0), "0000"⟩, none⟩

private def oneModule (i : Fin 12) : Option (ArchonModule ℤ) :=
  if i = 1 then some adModule else none

private def ad : Installed oneModule := ⟨1, adModule, rfl⟩

private def gain : SettingPlace thousandths ad.m.cls :=
  ⟨ArchonAD.preampGain, List.mem_cons_of_mem _ List.mem_cons_self, ()⟩

end Foxtrot
