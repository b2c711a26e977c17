import Foxtrot.Archon.IndexedLists

/-!
# Lists that stay in step

The proof that calls with `KeepsLists` keep the lists in step. The values of the keys are all that
matters: lines that belong to no key are empty (`ArchonRig.Held`), so a value is stored
(`ArchonRig.Held.stored`). The keys of a list are those of no other one
(`ListFamily.eq_of_touches`), so a call that writes only keys of its own list (`Changes`) leaves the
others as they are (`ListFamily.Kept.of_changes`).

What a call does to its own list is one lemma for each function.

The five families are the timing script, the timing states, the constants, the parameters and the
tap lines. Each has a counter and entries with numbered keys in the stored configuration, and
members of the handler beside them. A call is proved to keep its family in three outcomes: it goes
through, it fails before anything is written, or it stops after some of its writes (`KeepsFamily`).

Parameters and constants share one argument, made once for a table of names (`TableOf`). The tap
lines have a map of channels on top, which only `settap` changes (`ChannelsKept`).
-/

namespace Foxtrot

open Stateful Text

/-! ### Lines that belong to no key

The controller may be asked for any line. What is on the lines of no key has to be known as well,
because a new key takes the next line and a failed write leaves it empty. -/

namespace ArchonRig

/-- The handler knows which line has which key, and the other lines are empty. -/
structure Held (rig : ArchonRig) : Prop where
  sound : rig.Sound
  lt : ∀ {key n}, rig.host.configlinemap.lookup key = some n → n < controllerLines
  empty : ∀ n, (∀ key, rig.host.configlinemap.lookup key ≠ some n) → rig.lines n = ""

variable {rig rig' : ArchonRig} {key val : String}

/-- The invariant is a matter of the keys, the count and the lines. -/
theorem Held.of_eq (h : rig.Held) (hmap : rig'.host.configlinemap = rig.host.configlinemap)
    (hcount : rig'.host.configLines = rig.host.configLines) (hlines : rig'.lines = rig.lines) :
    rig'.Held := by
  refine ⟨h.sound.of_eq hmap hcount hlines, fun {k n} hk => ?_, fun n hn => ?_⟩
  · rw [hmap] at hk
    exact h.lt hk
  · rw [hmap] at hn
    rw [hlines]
    exact h.empty n hn

/-- A value that fits keeps the invariant. -/
theorem Held.written (h : rig.Held) (hkey : '=' ∉ key.toList)
    (hfits : rig.host.Fits (join key val)) : (rig.written key val).Held := by
  have hmap : ∀ k, (rig.written key val).host.configlinemap.lookup k =
      if k = key then some (rig.host.lineOf key) else rig.host.configlinemap.lookup k :=
    lookup_register rig.host key
  have hlines : (rig.written key val).lines =
      Function.update rig.lines (rig.host.lineOf key) (join key val) := rfl
  refine ⟨h.sound.written hkey val, fun {k n} hk => ?_, fun n hn => ?_⟩
  · rw [hmap] at hk
    split_ifs at hk with heq
    · have hle := Archon.lineOf_le h.sound key
      have hlt := hfits.1
      obtain rfl := Option.some.inj hk
      rw [controllerLines]
      omega
    · exact h.lt hk
  · have hne : n ≠ rig.host.lineOf key := by
      rintro rfl
      exact hn key (by rw [hmap, if_pos rfl])
    rw [hlines, Function.update_of_ne hne]
    refine h.empty n fun k hk => ?_
    by_cases heq : k = key
    · rw [heq] at hk
      exact hne (by rw [Archon.lineOf, hk, Option.getD_some])
    · exact hn k (by rw [hmap, if_neg heq, hk])

/-- A write that fails keeps the invariant. -/
theorem Held.unwritten (h : rig.Held) (key val : String) : (rig.unwritten key val).Held := by
  have hmap := unwritten_configlinemap rig key val
  refine ⟨h.sound.unwritten key val, fun {k n} hk => ?_, fun n hn => ?_⟩
  · rw [hmap] at hk
    exact h.lt hk
  · rw [hmap] at hn
    exact h.empty n hn

/-- Entries that can be written keep the invariant. -/
theorem Held.writtenAll (h : rig.Held) {kvs : List (String × String)}
    (hkeys : ∀ kv ∈ kvs, '=' ∉ kv.1.toList) (hcan : rig.host.CanWrite kvs rig.faults) :
    (rig.writtenAll kvs).Held :=
  writtenAll_induction h hcan fun _ kv hkv hrig hfits _ => hrig.written (hkeys kv hkv) hfits

/-- **The value of a key is stored**, and no other one. -/
theorem Held.stored (h : rig.Held) (hvalue : rig.value key = some val) :
    Stored rig.lines key val := by
  obtain ⟨n, hn, hline⟩ := h.sound.value_eq_some_iff.mp hvalue
  have hkey := (h.sound.holds hn).1
  refine fun val' => ⟨?_, ?_⟩
  · rintro ⟨m, -, hm⟩
    have hmapped : ∃ k, rig.host.configlinemap.lookup k = some m := by
      by_contra hnone
      rw [h.empty m fun k hk => hnone ⟨k, hk⟩] at hm
      exact join_ne_empty key val' hm.symm
    obtain ⟨k, hk⟩ := hmapped
    obtain ⟨hplain, val'', hline'⟩ := h.sound.holds hk
    obtain ⟨rfl, -⟩ := join_inj hplain hkey (hline'.symm.trans hm)
    obtain rfl := Option.some.inj (hk.symm.trans hn)
    exact join_left_inj (hm.symm.trans hline)
  · rintro rfl
    exact ⟨n, h.lt hn, hline⟩

end ArchonRig

/-- A value that is stored is the only one. -/
theorem Stored.unique {lines : ℕ → String} {key val val' : String} (h : Stored lines key val)
    (h' : Stored lines key val') : val = val' :=
  (h' val).mp ((h val).mpr rfl)

/-! ### The keys of a list -/

namespace ListFamily

/-- The word of the keys. -/
def word : ListFamily → String
  | lines => "LINE"
  | states => "STATE"
  | parameters => "PARAMETER"
  | constants => "CONSTANT"
  | taplines => "TAPLINE"

/-- The key is one of the list. -/
def Touches (f : ListFamily) (key : String) : Prop :=
  family key = f.word.toList ∨ family key = (f.word ++ "S").toList

/-- The words of the families are in upper case. -/
private theorem isUpper_word (f : ListFamily) : f.word.toList.all Char.isUpper := by
  cases f <;> decide

private theorem touches_counter (f : ListFamily) : f.Touches (f.word ++ "S") := by
  cases f <;> exact .inr (by decide)

private theorem touches_numbered (f : ListFamily) (i : ℤ) : f.Touches (numbered f.word i) :=
  .inl (family_numbered f.isUpper_word i)

private theorem plain_counter (f : ListFamily) : '=' ∉ (f.word ++ "S").toList := by
  cases f <;> decide

private theorem plain_numbered (f : ListFamily) (i : ℤ) : '=' ∉ (numbered f.word i).toList := by
  have hword : '=' ∉ f.word.toList := by cases f <;> decide
  exact not_mem_numbered hword (by decide) (by decide) i

private theorem numbered_ne_counter (f : ListFamily) (i : ℤ) :
    numbered f.word i ≠ f.word ++ "S" := by
  intro h
  have hfamily := family_numbered f.isUpper_word i
  rw [h] at hfamily
  revert hfamily
  cases f <;> decide

/-- **A key is one of at most one list.** -/
theorem eq_of_touches {f f' : ListFamily} {key : String} (h : f.Touches key)
    (h' : f'.Touches key) : f = f' := by
  have hwords : f ≠ f' → f.word.toList ≠ f'.word.toList ∧
      f.word.toList ≠ (f'.word ++ "S").toList ∧ (f.word ++ "S").toList ≠ f'.word.toList ∧
        (f.word ++ "S").toList ≠ (f'.word ++ "S").toList := by
    cases f <;> cases f' <;> decide
  by_contra hne
  obtain ⟨h₁, h₂, h₃, h₄⟩ := hwords hne
  obtain h | h := h <;> obtain h' | h' := h'
  · exact h₁ (h.symm.trans h')
  · exact h₂ (h.symm.trans h')
  · exact h₃ (h.symm.trans h')
  · exact h₄ (h.symm.trans h')

/-! ### Calls that change one list

What a call leaves alone: the members of the other lists, what has been given for them, and the
values of their keys. `Kept` reads only these, so it carries over. -/

/-- The handler's members for a list are the same. -/
def SameMembers (f : ListFamily) (s s' : Archon) : Prop :=
  match f with
  | lines => True
  | states => s'.statenames = s.statenames
  | parameters => s'.parammap = s.parammap
  | constants => s'.constantmap = s.constantmap
  | taplines => s'.taplines = s.taplines ∧ s'.adTaplinemap = s.adTaplinemap

/-- What has been given for a list is the same. -/
def SameGiven (f : ListFamily) (g g' : GivenLists) : Prop :=
  match f with
  | lines => g'.script = g.script
  | states => g'.states = g.states
  | parameters => g'.params = g.params
  | constants => g'.constants = g.constants
  | taplines => g'.taps = g.taps ∧ g'.channels = g.channels

/-- Where all lists stay, that of the family does. -/
private theorem sameMembers_of_sameLists {s s' : Archon} (h : s.SameLists s') (f : ListFamily) :
    f.SameMembers s s' := by
  cases f with
  | lines => trivial
  | states => exact h.statenames
  | parameters => exact h.parammap
  | constants => exact h.constantmap
  | taplines => exact ⟨h.taplines, h.adTaplinemap⟩

/-- The list of a family stays through several steps. -/
theorem SameMembers.trans {f : ListFamily} {s s' s'' : Archon} (h : f.SameMembers s s')
    (h' : f.SameMembers s' s'') : f.SameMembers s s'' := by
  cases f with
  | lines => trivial
  | taplines => exact ⟨Eq.trans h'.1 h.1, Eq.trans h'.2 h.2⟩
  | _ => exact Eq.trans h' h

/-- The key has the value. -/
def Has (value : String → Option String) (key val : String) : Prop := value key = some val

/-- The list is in step, by the values of the keys. -/
def Kept (f : ListFamily) (rig : ArchonRig) (g : GivenLists) : Prop :=
  f.InStep (Has rig.value) rig.host g

/-- Only the list changes, and no name of a state is added. -/
structure Changes (f : ListFamily) (rig rig' : ArchonRig) : Prop where
  held : rig'.Held
  outside : ∀ key, ¬ f.Touches key → rig'.value key = rig.value key
  members : ∀ f', f' ≠ f → f'.SameMembers rig.host rig'.host
  statenames : rig'.host.statenames = rig.host.statenames

/-- What the keys of a list have is all that the list depends on. -/
theorem InStep.imp {f : ListFamily} {holds holds' : String → String → Prop} {s : Archon}
    {g : GivenLists} (h : f.InStep holds s g)
    (himp : ∀ key val, holds key val → f.Touches key → holds' key val) : f.InStep holds' s g := by
  cases f with
  | lines =>
    exact ⟨himp _ _ h.counted (touches_counter lines),
      fun i line hi => himp _ _ (h.entries i line hi) (touches_numbered lines i)⟩
  | states =>
    refine ⟨himp _ _ h.counted (touches_counter states), h.nodup, h.known, h.below, fun i hi => ?_⟩
    obtain ⟨name, vals, hname, hvals, hentries⟩ := h.entries i hi
    refine ⟨name, vals, hname, hvals, fun key val hval => himp _ _ (hentries key val hval) ?_⟩
    rw [String.append_assoc]
    exact .inl (family_numbered_append (isUpper_word states) i _)
  | parameters =>
    refine ⟨himp _ _ h.counted (touches_counter parameters), h.injective, h.known, h.below,
      fun i hi => ?_⟩
    obtain ⟨name, val, hname, hval, hentry⟩ := h.entries i hi
    exact ⟨name, val, hname, hval, himp _ _ hentry (touches_numbered parameters i)⟩
  | constants =>
    refine ⟨himp _ _ h.counted (touches_counter constants), h.injective, h.known, h.below,
      fun i hi => ?_⟩
    obtain ⟨name, val, hname, hval, hentry⟩ := h.entries i hi
    exact ⟨name, val, hname, hval, himp _ _ hentry (touches_numbered constants i)⟩
  | taplines =>
    exact ⟨himp _ _ h.counted (touches_counter taplines), h.taplines, h.injective, h.known,
      h.below, h.given,
      fun n text hn => himp _ _ (h.entries n text hn) (touches_numbered taplines n)⟩

/-- The list depends on its own members and on what is given for it. -/
theorem InStep.congr {f : ListFamily} {holds : String → String → Prop} {s s' : Archon}
    {g g' : GivenLists} (h : f.InStep holds s g) (hmembers : f.SameMembers s s')
    (hgiven : f.SameGiven g g') : f.InStep holds s' g' := by
  cases f with
  | lines =>
    have hscript : g'.script = g.script := hgiven
    rw [InStep, hscript]
    exact h
  | states =>
    have hnames : s'.statenames = s.statenames := hmembers
    have hstates : g'.states = g.states := hgiven
    rw [InStep, hnames, hstates]
    exact h
  | parameters =>
    have hnames : s'.parammap = s.parammap := hmembers
    have hparams : g'.params = g.params := hgiven
    rw [InStep, hnames, hparams]
    exact h
  | constants =>
    have hnames : s'.constantmap = s.constantmap := hmembers
    have hconstants : g'.constants = g.constants := hgiven
    rw [InStep, hnames, hconstants]
    exact h
  | taplines =>
    rw [InStep, hmembers.1, hmembers.2, hgiven.1, hgiven.2]
    exact h

/-- **The other lists are kept.** -/
theorem Kept.of_changes {f f' : ListFamily} {rig rig' : ArchonRig} {g g' : GivenLists}
    (h : f'.Kept rig g) (hchanges : f.Changes rig rig') (hne : f' ≠ f)
    (hgiven : f'.SameGiven g g') : f'.Kept rig' g' := by
  refine InStep.congr (InStep.imp h fun key val hval htouches => ?_) (hchanges.members f' hne)
    hgiven
  have houtside := hchanges.outside key fun htouches' => hne (eq_of_touches htouches htouches')
  exact houtside.trans hval

/-- What is kept is stored on the lines of the controller. -/
theorem Kept.stored {f : ListFamily} {rig : ArchonRig} {g : GivenLists} (h : f.Kept rig g)
    (hheld : rig.Held) : f.InStep (Stored rig.lines) rig.host g :=
  InStep.imp h fun _ _ hval _ => hheld.stored hval

/-! ### Writes of one list -/

namespace Changes

variable {f : ListFamily} {rig rig' rig'' : ArchonRig} {key val : String}

/-- Nothing has changed. -/
theorem refl (h : rig.Held) : f.Changes rig rig :=
  ⟨h, fun _ _ => rfl, fun f' _ => sameMembers_of_sameLists (Archon.SameLists.refl _) f', rfl⟩

/-- What is outside the family stays through several steps. -/
theorem trans (h : f.Changes rig rig') (h' : f.Changes rig' rig'') : f.Changes rig rig'' where
  held := h'.held
  outside key hkey := (h'.outside key hkey).trans (h.outside key hkey)
  members f' hne := (h.members f' hne).trans (h'.members f' hne)
  statenames := h'.statenames.trans h.statenames

/-- A rig with the same values and the same members. -/
theorem of_eq (hheld : rig'.Held) (hvalue : rig'.value = rig.value)
    (hsame : rig.host.SameLists rig'.host) : f.Changes rig rig' :=
  ⟨hheld, fun key _ => congrFun hvalue key, fun f' _ => sameMembers_of_sameLists hsame f',
    hsame.statenames⟩

/-- A write of the family changes nothing outside it. -/
theorem written (h : rig.Held) (hkey : '=' ∉ key.toList) (htouches : f.Touches key)
    (hfits : rig.host.Fits (join key val)) : f.Changes rig (rig.written key val) := by
  have hsame : rig.host.SameLists (rig.written key val).host :=
    Archon.sameLists_register rig.host key
  refine ⟨h.written hkey hfits, fun k hk => ?_, fun f' _ => sameMembers_of_sameLists hsame f',
    hsame.statenames⟩
  have hne : k ≠ key := fun heq => hk (heq ▸ htouches)
  rw [h.sound.value_written hkey, Function.update_of_ne hne]

/-- Writes of keys of the list do not touch the others. -/
theorem value_writtenAll (h : rig.Sound) {kvs : List (String × String)}
    (hkeys : ∀ kv ∈ kvs, '=' ∉ kv.1.toList) (htouches : ∀ kv ∈ kvs, f.Touches kv.1)
    (hkey : ¬ f.Touches key) : (rig.writtenAll kvs).value key = rig.value key := by
  refine h.value_writtenAll_of_not_mem hkeys fun hmem => ?_
  obtain ⟨kv, hkv, rfl⟩ := List.mem_map.mp hmem
  exact hkey (htouches kv hkv)

/-- Writes of the family change nothing outside it. -/
theorem writtenAll (h : rig.Held) {kvs : List (String × String)}
    (hkeys : ∀ kv ∈ kvs, '=' ∉ kv.1.toList) (htouches : ∀ kv ∈ kvs, f.Touches kv.1)
    (hcan : rig.host.CanWrite kvs rig.faults) : f.Changes rig (rig.writtenAll kvs) :=
  ⟨h.writtenAll hkeys hcan, fun _ hkey => value_writtenAll h.sound hkeys htouches hkey,
    fun f' _ => sameMembers_of_sameLists (ArchonRig.sameLists_writtenAll rig kvs) f',
    (ArchonRig.sameLists_writtenAll rig kvs).statenames⟩

/-- A write that fails changes nothing outside the family. -/
theorem unwritten (h : rig.Held) (key val : String) : f.Changes rig (rig.unwritten key val) :=
  of_eq (h.unwritten key val) (ArchonRig.value_unwritten rig key val)
    (Archon.sameLists_takeLine rig.host key)

end Changes

/-- **The outcomes of a write**: the key has its value, or nothing has changed. -/
theorem changes_writeKeyValue (f : ListFamily) {rig : ArchonRig} (h : rig.Held) {key : String}
    (hkey : '=' ∉ key.toList) (htouches : f.Touches key) (val : String) :
    ∃ rig', f.Changes rig rig' ∧ rig.host.SameLists rig'.host ∧
      (on (Archon.writeKeyValue key val) rig = (.ok (), rig') ∧
          rig'.value = Function.update rig.value key (some val) ∨
        ∃ e, on (Archon.writeKeyValue key val) rig = (.error e, rig') ∧
          rig'.value = rig.value) := by
  obtain ⟨hfits, -, hon⟩ | ⟨fault, -, -, hon⟩ | ⟨e, -, hon⟩ :=
    Archon.writeKeyValue_cases h.sound key val
  · exact ⟨_, Changes.written h hkey htouches hfits, Archon.sameLists_register rig.host key,
      .inl ⟨hon, h.sound.value_written hkey val⟩⟩
  · exact ⟨_, Changes.unwritten h key val, Archon.sameLists_takeLine rig.host key,
      .inr ⟨_, hon, ArchonRig.value_unwritten rig key val⟩⟩
  · exact ⟨rig, Changes.refl h, Archon.SameLists.refl _, .inr ⟨e, hon, rfl⟩⟩

end ListFamily

/-- Writes that cannot all be done stop after some of them. -/
theorem writeAll_interrupted {rig : ArchonRig} (h : rig.Held) {kvs : List (String × String)}
    (hkeys : ∀ kv ∈ kvs, '=' ∉ kv.1.toList) (hcan : ¬ rig.host.CanWrite kvs rig.faults) :
    ∃ k e rig', k < kvs.length ∧ rig.host.CanWrite (kvs.take k) rig.faults ∧
      on (Archon.writeAll kvs) rig = (.error e, rig') ∧ rig'.Held ∧
        rig'.value = (rig.writtenAll (kvs.take k)).value ∧ rig.host.SameLists rig'.host := by
  induction kvs generalizing rig with
  | nil => exact absurd trivial hcan
  | cons kv kvs ih =>
    rw [List.forall_mem_cons] at hkeys
    rw [Archon.writeAll_cons]
    obtain ⟨hfits, hfault, hon⟩ | ⟨fault, -, -, hon⟩ | ⟨e, -, hon⟩ :=
      Archon.writeKeyValue_cases h.sound kv.1 kv.2
    · have hrest : ¬ (rig.written kv.1 kv.2).host.CanWrite kvs (rig.written kv.1 kv.2).faults :=
        fun hrest => hcan ⟨hfits, hfault, hrest⟩
      obtain ⟨k, e, rig', hk, hdone, hwrite, hheld, hvalue, hsame⟩ :=
        ih (h.written hkeys.1 hfits) hkeys.2 hrest
      refine ⟨k + 1, e, rig', Nat.succ_lt_succ hk, ⟨hfits, hfault, hdone⟩, ?_, hheld, hvalue,
        (Archon.sameLists_register rig.host kv.1).trans hsame⟩
      rw [on_bind_of_ok hon]
      exact hwrite
    · exact ⟨0, _, _, Nat.zero_lt_succ _, trivial, on_bind_of_error hon _, h.unwritten kv.1 kv.2,
        ArchonRig.value_unwritten rig kv.1 kv.2, Archon.sameLists_takeLine rig.host kv.1⟩
    · exact ⟨0, e, rig, Nat.zero_lt_succ _, trivial, on_bind_of_error hon _, h, rfl,
        Archon.SameLists.refl rig.host⟩

/-- What a call has to do for its list: to keep it with what has been given, if it succeeds, and as
it was otherwise. -/
def KeepsFamily (f : ListFamily) (m : ArchonM Unit) (rig : ArchonRig) (g g' : GivenLists) : Prop :=
  ∃ rig', f.Changes rig rig' ∧ (on m rig = (.ok (), rig') ∧ f.Kept rig' g' ∨
    ∃ e, on m rig = (.error e, rig') ∧ f.Kept rig' g)

/-! ### The timing script

The lines are written one after another and their number last. If a write fails in between, the list
is in step only where the lines already written are those that were there before. -/

section Script

variable {script old : List String}

/-- Each line of the script is under its number. -/
private theorem scriptEntries_getElem? (i : ℕ) :
    (scriptEntries script)[i]? = script[i]?.map fun line => (numbered "LINE" i, line) := by
  rw [scriptEntries, List.getElem?_map, List.getElem?_zipIdx]
  cases script[i]? with
  | none => rfl
  | some line => simp

/-- There are as many entries as lines of the script. -/
private theorem length_scriptEntries : (scriptEntries script).length = script.length := by
  rw [scriptEntries, List.length_map, List.length_zipIdx]

private theorem mem_scriptEntries {kv : String × String} (h : kv ∈ scriptEntries script) :
    ∃ i : ℕ, script[i]? = some kv.2 ∧ kv.1 = numbered "LINE" i := by
  obtain ⟨i, hi⟩ := List.mem_iff_getElem?.mp h
  rw [scriptEntries_getElem?] at hi
  obtain ⟨line, hline, rfl⟩ := Option.map_eq_some_iff.mp hi
  exact ⟨i, hline, rfl⟩

/-- What is written are the lines of the script and their counter. -/
private theorem mem_scriptWrites {kv : String × String} (h : kv ∈ scriptWrites script) :
    (∃ i : ℕ, kv.1 = numbered "LINE" i) ∨ kv.1 = "LINES" := by
  rcases List.mem_append.mp h with hentry | hcount
  · obtain ⟨i, -, hkey⟩ := mem_scriptEntries hentry
    exact .inl ⟨i, hkey⟩
  · exact .inr (congrArg Prod.fst (List.mem_singleton.mp hcount))

private theorem plain_scriptWrites : ∀ kv ∈ scriptWrites script, '=' ∉ kv.1.toList := by
  intro kv hkv
  obtain ⟨i, hkey⟩ | hkey := mem_scriptWrites hkv
  · rw [hkey]
    exact ListFamily.plain_numbered .lines i
  · rw [hkey]
    decide

private theorem touches_scriptWrites :
    ∀ kv ∈ scriptWrites script, ListFamily.lines.Touches kv.1 := by
  intro kv hkv
  obtain ⟨i, hkey⟩ | hkey := mem_scriptWrites hkv
  · rw [hkey]
    exact ListFamily.touches_numbered .lines i
  · rw [hkey]
    exact ListFamily.touches_counter .lines

private theorem nodup_scriptEntries : ((scriptEntries script).map Prod.fst).Nodup := by
  rw [List.nodup_iff_getElem?_ne_getElem?]
  intro i j hij hj heq
  rw [List.getElem?_map, List.getElem?_map, scriptEntries_getElem?, scriptEntries_getElem?] at heq
  rw [List.length_map, length_scriptEntries] at hj
  rw [List.getElem?_eq_getElem hj, List.getElem?_eq_getElem (hij.trans hj)] at heq
  have hkeys : numbered "LINE" (i : ℤ) = numbered "LINE" (j : ℤ) := Option.some.inj heq
  have hcast := numbered_inj hkeys
  omega

/-- No line of a script has the key of the counter. -/
private theorem lines_not_mem_scriptEntries : "LINES" ∉ (scriptEntries script).map Prod.fst := by
  intro hmem
  obtain ⟨kv, hkv, hkey⟩ := List.mem_map.mp hmem
  obtain ⟨i, -, hentry⟩ := mem_scriptEntries hkv
  exact ListFamily.numbered_ne_counter .lines i (hentry.symm.trans hkey)

private theorem nodup_scriptWrites : ((scriptWrites script).map Prod.fst).Nodup := by
  rw [scriptWrites, List.map_append, List.map_singleton]
  refine List.nodup_append.mpr ⟨nodup_scriptEntries, List.nodup_singleton _, ?_⟩
  rintro key hkey _ hcount rfl
  rw [List.mem_singleton.mp hcount] at hkey
  exact lines_not_mem_scriptEntries hkey

/-- A script is loaded by writing its lines and their counter. -/
private theorem loadTimingScript_eq (text : String) :
    Archon.loadTimingScript text = Archon.writeAll (scriptWrites (getlines text)) := by
  rw [scriptWrites, Archon.writeAll_append, Archon.writeAll_singleton, scriptEntries,
    Archon.writeAll, List.forM_map]
  rfl

variable {rig : ArchonRig} {g : GivenLists}

/-- A script that is loaded as a whole is what the list has. -/
theorem kept_scriptWrites (h : rig.Held) :
    ListFamily.lines.Kept (rig.writtenAll (scriptWrites script)) { g with script := script } := by
  refine ⟨h.sound.value_writtenAll plain_scriptWrites nodup_scriptWrites ?_,
    fun i line hline => h.sound.value_writtenAll plain_scriptWrites nodup_scriptWrites ?_⟩
  · exact List.mem_append_right _ List.mem_cons_self
  · refine List.mem_append_left _ (List.mem_iff_getElem?.mpr ⟨i, ?_⟩)
    have hscript : script[i]? = some line := hline
    rw [scriptEntries_getElem?, hscript, Option.map_some]

/-- The first entries of a script, which are those of the script before as far as that goes, leave
the list as it was. -/
theorem kept_scriptEntries (h : rig.Held) (hkept : ListFamily.lines.Kept rig g) {k : ℕ}
    (hsame : ∀ (i : ℕ) line line', i < k → g.script[i]? = some line → script[i]? = some line' →
      line' = line) {rig' : ArchonRig}
    (hvalue : rig'.value = (rig.writtenAll ((scriptEntries script).take k)).value) :
    ListFamily.lines.Kept rig' g := by
  have hplain : ∀ kv ∈ (scriptEntries script).take k, '=' ∉ kv.1.toList :=
    fun kv hkv => plain_scriptWrites kv (List.mem_append_left _ (List.mem_of_mem_take hkv))
  have hnodup : (((scriptEntries script).take k).map Prod.fst).Nodup := by
    rw [List.map_take]
    exact nodup_scriptEntries.sublist (List.take_sublist k _)
  constructor
  · have hnot : "LINES" ∉ ((scriptEntries script).take k).map Prod.fst := by
      rw [List.map_take]
      exact fun hmem => lines_not_mem_scriptEntries (List.mem_of_mem_take hmem)
    rw [ListFamily.Has, hvalue, h.sound.value_writtenAll_of_not_mem hplain hnot]
    exact hkept.counted
  · intro i line hline
    have hold : rig.value (numbered "LINE" i) = some line := hkept.entries i line hline
    rw [ListFamily.Has, hvalue]
    by_cases hmem : numbered "LINE" i ∈ ((scriptEntries script).take k).map Prod.fst
    · obtain ⟨⟨key, line'⟩, hkv, rfl⟩ := List.mem_map.mp hmem
      obtain ⟨j, hj⟩ := List.mem_iff_getElem?.mp hkv
      have hjk : j < k := lt_of_lt_of_le (List.getElem?_eq_some_iff.mp hj).1
        (List.length_take_le k _)
      have hentry := hj
      rw [List.getElem?_take_of_lt hjk, scriptEntries_getElem?] at hentry
      obtain ⟨line'', hline', heq⟩ := Option.map_eq_some_iff.mp hentry
      obtain ⟨hkey, rfl⟩ := Prod.mk.inj heq
      -- it is overwritten by the line at the same place of the new script
      have hij : (j : ℤ) = i := numbered_inj hkey
      obtain rfl : j = i := by omega
      rw [h.sound.value_writtenAll hplain hnodup hkv, hsame j line line'' hjk hline hline']
    · rw [h.sound.value_writtenAll_of_not_mem hplain hmem, hold]

/-- **`load_timing_script`.** -/
theorem keepsFamily_loadTimingScript (h : rig.Held) (hkept : ListFamily.lines.Kept rig g)
    (text : String) (hloads : LoadsScript rig.host g.script (getlines text) rig.faults) :
    KeepsFamily .lines (Archon.loadTimingScript text) rig g
      { g with script := getlines text } := by
  rw [KeepsFamily, loadTimingScript_eq]
  by_cases hcan : rig.host.CanWrite (scriptWrites (getlines text)) rig.faults
  · exact ⟨_, ListFamily.Changes.writtenAll h plain_scriptWrites touches_scriptWrites hcan,
      .inl ⟨Archon.writeAll_of_canWrite h.sound plain_scriptWrites hcan, kept_scriptWrites h⟩⟩
  · obtain ⟨k, e, rig', hk, hdone, hon, hheld, hvalue, hsame⟩ :=
      writeAll_interrupted h plain_scriptWrites hcan
    have hk' : k ≤ (scriptEntries (getlines text)).length := by
      rw [scriptWrites, List.length_append, List.length_singleton] at hk
      omega
    have htake : (scriptWrites (getlines text)).take k =
        (scriptEntries (getlines text)).take k := by
      rw [scriptWrites, List.take_append_of_le_length hk']
    have htouches : ∀ kv ∈ (scriptWrites (getlines text)).take k,
        ListFamily.lines.Touches kv.1 :=
      fun kv hkv => touches_scriptWrites kv (List.mem_of_mem_take hkv)
    have hplain : ∀ kv ∈ (scriptWrites (getlines text)).take k, '=' ∉ kv.1.toList :=
      fun kv hkv => plain_scriptWrites kv (List.mem_of_mem_take hkv)
    refine ⟨rig', ⟨hheld, fun key hkey => ?_,
      fun f' _ => ListFamily.sameMembers_of_sameLists hsame f', hsame.statenames⟩,
      .inr ⟨e, hon, ?_⟩⟩
    · rw [hvalue, ListFamily.Changes.value_writtenAll h.sound hplain htouches hkey]
    · rw [htake] at hvalue hdone
      refine kept_scriptEntries h hkept (fun i line line' hi hline hline' => ?_) hvalue
      -- the first lines of those that have been written have been written
      refine hloads.resolve_left hcan i line line' hline hline' ?_
      exact Archon.canWrite_of_prefix (List.take_prefix_take_left hi) hdone

end Script

/-! ### Timing states -/

section States

variable {rig : ArchonRig} {g : GivenLists}

/-- The key of a line of a timing state. -/
def stateKey (i : ℕ) (configkey : String) : String := numbered "STATE" i ++ "/" ++ configkey

/-- The entries of a state belong to the family of states. -/
private theorem family_stateKey (i : ℕ) (configkey : String) :
    family (stateKey i configkey) = "STATE".toList := by
  rw [stateKey, String.append_assoc]
  exact family_numbered_append (ListFamily.isUpper_word .states) i _

/-- No entry of a state has the key of the counter. -/
private theorem stateKey_ne (i : ℕ) (configkey : String) : "STATES" ≠ stateKey i configkey := by
  intro h
  have hfamily := family_stateKey i configkey
  rw [← h] at hfamily
  exact absurd hfamily (by decide)

/-- The key of a state's entry is without `=`, if its own word is. -/
private theorem plain_stateKey {configkey : String} (h : '=' ∉ configkey.toList) (i : ℕ) :
    '=' ∉ (stateKey i configkey).toList := by
  rw [stateKey, String.toList_append, String.toList_append, List.mem_append, List.mem_append,
    not_or, not_or]
  exact ⟨⟨ListFamily.plain_numbered .states i, by decide⟩, h⟩

/-- Lines that have been written are well formed, and written one after another. -/
theorem forM_writeStateLine_eq_ok {i : ℕ} {lines : List String} {rig rig' : ArchonRig}
    (h : on (forM lines (Archon.writeStateLine i)) rig = (.ok (), rig')) :
    ∃ kvs, lines.mapM (splitFirst '=') = some kvs ∧ (∀ kv ∈ kvs, '=' ∉ kv.1.toList) ∧
      on (Archon.writeAll (kvs.map fun kv => (stateKey i kv.1, kv.2))) rig = (.ok (), rig') := by
  induction lines generalizing rig with
  | nil => exact ⟨[], rfl, nofun, h⟩
  | cons line lines ih =>
    rw [List.forM_cons] at h
    obtain ⟨_, rig₁, hline, hrest⟩ := on_bind_eq_ok_iff.mp h
    obtain ⟨kvs, hkvs, hplain, hwrites⟩ := ih hrest
    rw [Archon.writeStateLine] at hline
    cases hsplit : splitFirst '=' line with
    | none =>
      rw [hsplit] at hline
      cases congrArg Prod.fst hline
    | some kv =>
      rw [hsplit] at hline
      refine ⟨kv :: kvs, by rw [List.mapM_cons, hsplit, hkvs]; rfl,
        List.forall_mem_cons.mpr ⟨not_mem_of_splitFirst hsplit, hplain⟩, ?_⟩
      rw [List.map_cons, Archon.writeAll_cons]
      exact (on_bind_of_ok hline _).trans hwrites

/-- A line of a timing state changes entries of states, and not their number. -/
theorem maintains_writeStateLine (rig : ArchonRig) (i : ℕ) (line : String) :
    Maintains (fun rig' => ListFamily.states.Changes rig rig' ∧
      rig'.value "STATES" = rig.value "STATES") (Archon.writeStateLine i line) := by
  rintro rig₁ ⟨hchanges, hnumber⟩
  rw [Archon.writeStateLine]
  cases hsplit : splitFirst '=' line with
  | none => exact ⟨hchanges, hnumber⟩
  | some kv =>
    obtain ⟨rig₂, hchanges₂, -, ⟨hon, hvalue⟩ | ⟨e, hon, hvalue⟩⟩ :=
      ListFamily.changes_writeKeyValue .states hchanges.held
        (plain_stateKey (not_mem_of_splitFirst hsplit) i)
        (.inl (family_stateKey i kv.1)) kv.2
    · have hwrite : on (Archon.writeKeyValue (numbered "STATE" i ++ "/" ++ kv.1) kv.2) rig₁ =
        (.ok (), rig₂) := hon
      rw [hwrite]
      refine ⟨hchanges.trans hchanges₂, ?_⟩
      rw [hvalue, Function.update_of_ne (stateKey_ne i kv.1), hnumber]
    · have hwrite : on (Archon.writeKeyValue (numbered "STATE" i ++ "/" ++ kv.1) kv.2) rig₁ =
        (.error e, rig₂) := hon
      rw [hwrite]
      refine ⟨hchanges.trans hchanges₂, ?_⟩
      rw [hvalue, hnumber]

/-- Without states only their number matters. -/
theorem kept_states_of_nil {rig' : ArchonRig} (hkept : ListFamily.states.Kept rig g)
    (hnames : rig.host.statenames = []) (hnames' : rig'.host.statenames = [])
    (hnumber : rig'.value "STATES" = rig.value "STATES") : ListFamily.states.Kept rig' g := by
  have hstates : StatesInStep (ListFamily.Has rig.value) rig.host.statenames g.states := hkept
  rw [hnames] at hstates
  have hnone : StatesInStep (ListFamily.Has rig'.value) [] g.states := by
    refine ⟨hnumber.trans hstates.counted, hstates.nodup, hstates.known, hstates.below,
      fun i hi => ?_⟩
    obtain ⟨name, vals, hname, -⟩ := hstates.entries i hi
    cases hname
  rw [← hnames'] at hnone
  exact hnone

/-- A state whose lines and whose number have been written goes through. -/
theorem writesNewState_of_ok (h : rig.Sound) {names : List String}
    (hnames : rig.host.statenames = names) {state : String} {rig₁ rig₂ : ArchonRig}
    (hlines : on (forM (getlines state) (Archon.writeStateLine names.length)) rig = (.ok (), rig₁))
    (hnumber : on (Archon.setStates names.length) rig₁ = (.ok (), rig₂)) :
    WritesNewState rig.host state rig.faults := by
  obtain ⟨kvs, hkvs, hplain, hwrites⟩ := forM_writeStateLine_eq_ok hlines
  subst hnames
  refine ⟨kvs.map fun kv => (stateKey rig.host.statenames.length kv.1, kv.2), ?_, ?_⟩
  · rw [stateEntries, hkvs]
    rfl
  · have hwriteAll : on (Archon.writeAll
        (kvs.map (fun kv => (stateKey rig.host.statenames.length kv.1, kv.2)) ++
          [("STATES", rig.host.statenames.length.repr)])) rig = (.ok (), rig₂) := by
      rw [Archon.writeAll_append, on_bind_of_ok hwrites, Archon.writeAll_singleton]
      exact hnumber
    refine Archon.canWrite_of_writeAll h (fun kv hkv => ?_) hwriteAll
    rcases List.mem_append.mp hkv with hentry | hcount
    · obtain ⟨kv', hkv', rfl⟩ := List.mem_map.mp hentry
      exact plain_stateKey (hplain kv' hkv') _
    · rw [List.mem_singleton.mp hcount]
      exact ListFamily.plain_counter .states

/-- **`write_timing_state`**, where it does not go through. -/
theorem keepsFamily_writeTimingState (h : rig.Held) (hkept : ListFamily.states.Kept rig g)
    (hnames : rig.host.statenames = []) (name state : String)
    (hfails : name ∉ rig.host.statenames → ¬ WritesNewState rig.host state rig.faults)
    (g' : GivenLists) :
    KeepsFamily .states (Archon.writeTimingState name state) rig g g' := by
  have hnew : ¬ WritesNewState rig.host state rig.faults :=
    hfails (hnames ▸ List.not_mem_nil)
  have hcall : on (Archon.writeTimingState name state) rig =
      on (forM (getlines state) (Archon.writeStateLine 0) >>= fun _ => Archon.setStates 0 >>=
        fun _ => Archon.setHost fun s => { s with statenames := s.statenames ++ [name] }) rig := by
    rw [Archon.writeTimingState, on_bind_of_ok (Archon.on_host rig), hnames]
    rfl
  -- the lines of a state are numbered otherwise than `STATES`
  have hlines : Maintains (fun rig' => ListFamily.states.Changes rig rig' ∧
      rig'.value "STATES" = rig.value "STATES")
      (forM (getlines state) (Archon.writeStateLine 0)) :=
    Maintains.forM fun line _ => maintains_writeStateLine rig 0 line
  have hafter := hlines rig ⟨ListFamily.Changes.refl h, rfl⟩
  rw [KeepsFamily, hcall]
  obtain ⟨_, rig₁, hon⟩ | ⟨e, rig₁, hon⟩ :=
    on_cases (forM (getlines state) (Archon.writeStateLine 0)) rig
  · rw [hon] at hafter
    obtain ⟨hchanges, hnumber⟩ := hafter
    obtain ⟨rig₂, hchanges₂, -, ⟨hset, -⟩ | ⟨e, hset, hvalue⟩⟩ :=
      ListFamily.changes_writeKeyValue .states hchanges.held (ListFamily.plain_counter .states)
        (ListFamily.touches_counter .states) "0"
    · exact absurd (writesNewState_of_ok h.sound hnames hon hset) hnew
    · have herror : on (Archon.setStates 0) rig₁ = (.error e, rig₂) := hset
      -- `set_states` fails, so the name is not entered
      have hsame : rig₂.host.statenames = [] := by
        rw [hchanges₂.statenames, hchanges.statenames, hnames]
      refine ⟨rig₂, hchanges.trans hchanges₂, .inr ⟨e, ?_, ?_⟩⟩
      · rw [on_bind_of_ok hon, on_bind_of_error herror]
      · exact kept_states_of_nil hkept hnames hsame (hvalue ▸ hnumber)
  · rw [hon] at hafter
    obtain ⟨hchanges, hnumber⟩ := hafter
    refine ⟨rig₁, hchanges, .inr ⟨e, on_bind_of_error hon _, ?_⟩⟩
    exact kept_states_of_nil hkept hnames (hchanges.statenames.trans hnames) hnumber

end States

/-! ### Named values

A name that is known is written under its number. A new one takes the number that is stored and is
put into the handler's table; then the counter is written, and then the entry. -/

namespace NamesInStep

variable {value : String → Option String} {word : String} {names : AList fun _ : String => ℤ}
  {given : AList fun _ : String => String} {name : String} {i : ℤ}

/-- A name that has a number has been given. -/
theorem mem_given (h : NamesInStep (ListFamily.Has value) word names given)
    (hi : names.lookup name = some i) : name ∈ given :=
  (h.known name).mp (AList.mem_of_lookup hi)

/-- The entry of a name is written. -/
theorem set (h : NamesInStep (ListFamily.Has value) word names given)
    (hcounter : ∀ i, numbered word i ≠ word ++ "S") (hi : names.lookup name = some i)
    (val : String) :
    NamesInStep (ListFamily.Has (Function.update value (numbered word i) (some (join name val))))
      word names (given.insert name val) := by
  have hlength := AList.length_keys_insert_of_mem (h.mem_given hi) val
  refine ⟨?_, h.injective, fun name' => ?_, fun name' j hj => ?_, fun j hj => ?_⟩
  · rw [hlength, ListFamily.Has, Function.update_of_ne (hcounter i).symm]
    exact h.counted
  · rw [AList.mem_insert, h.known]
    refine ⟨.inr, ?_⟩
    rintro (rfl | hmem)
    · exact h.mem_given hi
    · exact hmem
  · rw [hlength]
    exact h.below name' j hj
  · rw [hlength] at hj
    obtain ⟨name', val', hname, hval, hentry⟩ := h.entries j hj
    by_cases heq : name' = name
    · subst heq
      obtain rfl := Option.some.inj (hi.symm.trans hname)
      exact ⟨name', val, hname, AList.lookup_insert _, Function.update_self ..⟩
    · have hne : (j : ℤ) ≠ i := fun hji => heq (h.injective name' name i (hji ▸ hname) hi)
      refine ⟨name', val', hname, by rw [AList.lookup_insert_ne heq, hval], ?_⟩
      rw [ListFamily.Has, Function.update_of_ne fun hkey => hne (numbered_inj hkey)]
      exact hentry

/-- A new name gets the next number, and its entry. -/
theorem add (h : NamesInStep (ListFamily.Has value) word names given)
    (hcounter : ∀ i, numbered word i ≠ word ++ "S") (hnone : names.lookup name = none)
    (val : String) :
    NamesInStep (ListFamily.Has (Function.update
        (Function.update value (word ++ "S") (some (given.keys.length + 1).repr))
        (numbered word given.keys.length) (some (join name val))))
      word (names.insert name given.keys.length) (given.insert name val) := by
  have hnew : name ∉ given := by
    rw [← h.known]
    exact AList.lookup_eq_none.mp hnone
  have hlength := AList.length_keys_insert_of_not_mem hnew val
  have hfresh : ∀ name', names.lookup name' ≠ some (given.keys.length : ℤ) :=
    fun name' hi => Int.lt_irrefl _ (h.below name' _ hi).2
  refine ⟨?_, AList.lookup_insert_injective h.injective hfresh, fun name' => ?_,
    fun name' i hi => ?_, fun j hj => ?_⟩
  · rw [hlength, ListFamily.Has, Function.update_of_ne (hcounter _).symm, Function.update_self]
  · rw [AList.mem_insert, AList.mem_insert, h.known]
  · rw [AList.lookup_insert_ite] at hi
    rw [hlength]
    split_ifs at hi
    · obtain rfl := Option.some.inj hi
      omega
    · have hbelow := h.below name' i hi
      omega
  · rw [hlength] at hj
    by_cases hlast : j = given.keys.length
    · subst hlast
      exact ⟨name, val, AList.lookup_insert _, AList.lookup_insert _, Function.update_self ..⟩
    · obtain ⟨name', val', hname, hval, hentry⟩ := h.entries j (by omega)
      have hne : name' ≠ name := by
        rintro rfl
        exact absurd (hnone.symm.trans hname) (Option.some_ne_none _).symm
      refine ⟨name', val', by rw [AList.lookup_insert_ne hne, hname],
        by rw [AList.lookup_insert_ne hne, hval], ?_⟩
      -- an entry that was there is not written over
      have hkey : numbered word (j : ℤ) ≠ numbered word (given.keys.length : ℤ) := by
        intro hkey
        have hcast := numbered_inj hkey
        omega
      rw [ListFamily.Has, Function.update_of_ne hkey, Function.update_of_ne (hcounter _)]
      exact hentry

end NamesInStep

/-- A table of the handler is that of a list. -/
structure TableOf (f : ListFamily) (table : Archon.NameTable) : Prop where
  word : table.word = f.word
  getNumber : table.getNumber = Archon.getCount (f.word ++ "S")
  setNumber : ∀ n, table.setNumber n = Archon.writeKeyValue (f.word ++ "S") n.repr
  names_update : ∀ u s, table.names (table.update u s) = u (table.names s)
  names_of_sameLists : ∀ s s', s.SameLists s' → table.names s' = table.names s
  configlinemap : ∀ u s, (table.update u s).configlinemap = s.configlinemap
  configLines : ∀ u s, (table.update u s).configLines = s.configLines
  statenames : ∀ u s, (table.update u s).statenames = s.statenames
  members : ∀ u s f', f' ≠ f → f'.SameMembers s (table.update u s)

private theorem tableOf_parameters : TableOf .parameters Archon.parameters where
  word := rfl
  getNumber := rfl
  setNumber _ := rfl
  names_update _ _ := rfl
  names_of_sameLists _ _ h := h.parammap
  configlinemap _ _ := rfl
  configLines _ _ := rfl
  statenames _ _ := rfl
  members u s f' hne := by
    cases f' with
    | lines => trivial
    | parameters => exact absurd rfl hne
    | taplines => exact ⟨rfl, rfl⟩
    | _ => exact rfl

private theorem tableOf_constants : TableOf .constants Archon.constants where
  word := rfl
  getNumber := rfl
  setNumber _ := rfl
  names_update _ _ := rfl
  names_of_sameLists _ _ h := h.constantmap
  configlinemap _ _ := rfl
  configLines _ _ := rfl
  statenames _ _ := rfl
  members u s f' hne := by
    cases f' with
    | lines => trivial
    | constants => exact absurd rfl hne
    | taplines => exact ⟨rfl, rfl⟩
    | _ => exact rfl

section Names

variable {f : ListFamily} {table : Archon.NameTable} {rig : ArchonRig}
  {given : AList fun _ : String => String} {name val : String}

/-- The list of a table, by the values of a rig. -/
def NamesKept (f : ListFamily) (table : Archon.NameTable) (rig : ArchonRig)
    (given : AList fun _ : String => String) : Prop :=
  NamesInStep (ListFamily.Has rig.value) f.word (table.names rig.host) given

/-- A call of the table leads to a rig with the name, or to one without a change of the list. -/
def SetsName (f : ListFamily) (table : Archon.NameTable) (rig : ArchonRig)
    (given : AList fun _ : String => String) (name val : String) : Prop :=
  ∃ rig', f.Changes rig rig' ∧
    (on (table.set name val) rig = (.ok (), rig') ∧
        NamesKept f table rig' (given.insert name val) ∨
      ∃ e, on (table.set name val) rig = (.error e, rig') ∧ NamesKept f table rig' given)

/-- A table is a matter of its values and its list. -/
private theorem namesKept_of_eq (ht : TableOf f table) (h : NamesKept f table rig given)
    {rig' : ArchonRig}
    (hvalue : rig'.value = rig.value) (hsame : rig.host.SameLists rig'.host) :
    NamesKept f table rig' given := by
  rw [NamesKept, hvalue, ht.names_of_sameLists _ _ hsame]
  exact h

/-- A name that has a number is set by writing its entry. -/
theorem setsName_of_known (ht : TableOf f table) (h : rig.Held)
    (hkept : NamesKept f table rig given) {i : ℤ}
    (hi : (table.names rig.host).lookup name = some i) : SetsName f table rig given name val := by
  have hconfnum : on (table.confnum name) rig = (.ok i, rig) := by
    rw [Archon.NameTable.confnum, on_bind_of_ok (Archon.on_host rig), hi]
    rfl
  have hset : on (table.set name val) rig =
      on (Archon.writeKeyValue (numbered f.word i) (join name val)) rig := by
    rw [Archon.NameTable.set, on_bind_of_ok hconfnum, ht.word]
  rw [SetsName, hset]
  obtain ⟨rig', hchanges, hsame, ⟨hon, hvalue⟩ | ⟨e, hon, hvalue⟩⟩ :=
    ListFamily.changes_writeKeyValue f h (f.plain_numbered i) (f.touches_numbered i) (join name val)
  · refine ⟨rig', hchanges, .inl ⟨hon, ?_⟩⟩
    rw [NamesKept, hvalue, ht.names_of_sameLists _ _ hsame]
    exact NamesInStep.set hkept f.numbered_ne_counter hi val
  · exact ⟨rig', hchanges, .inr ⟨e, hon, namesKept_of_eq ht hkept hvalue hsame⟩⟩

/-- What is done for a new name. -/
theorem set_of_new (ht : TableOf f table) (hnone : (table.names rig.host).lookup name = none) :
    on (table.set name val) rig = on (Archon.getCount (f.word ++ "S") >>= fun n =>
      Archon.setHost (table.update fun names => names.insert name n) >>= fun _ =>
        Archon.writeAll
          [(f.word ++ "S", (n + 1).repr), (numbered f.word n, join name val)]) rig := by
  have hconfnum : on (table.confnum name) rig = on (table.getNumber >>= fun n =>
      Archon.setHost (table.update fun names => names.insert name n) >>= fun _ =>
        table.setNumber (n + 1) >>= fun _ => pure n) rig := by
    rw [Archon.NameTable.confnum, on_bind_of_ok (Archon.on_host rig), hnone]
  rw [Archon.NameTable.set, on_bind, hconfnum, ← on_bind, ht.getNumber, ht.word]
  simp only [bind_assoc, pure_bind, ht.setNumber, Archon.writeAll_pair]

/-- A name without a number gets one and its entry, if the number can be read. -/
theorem setsName_of_new (ht : TableOf f table) (h : rig.Held)
    (hkept : NamesKept f table rig given) (hnone : (table.names rig.host).lookup name = none)
    (hnew : SetsNewName table rig name val rig.faults) : SetsName f table rig given name val := by
  have hcounted : rig.value (f.word ++ "S") = some given.keys.length.repr := hkept.counted
  rw [SetsName, set_of_new ht hnone]
  obtain ⟨n, rig₁, hget⟩ | ⟨e, rig₁, hget⟩ := on_cases (Archon.getCount (f.word ++ "S")) rig
  · have hprint : ∀ text, rig.value (f.word ++ "S") = some text →
        Printable (join (f.word ++ "S") text) := by
      intro text htext
      obtain rfl := Option.some.inj (hcounted.symm.trans htext)
      have hword : Printable (f.word ++ "S") := by cases f <;> decide
      exact hword.join (printable_repr given.keys.length)
    obtain ⟨⟨text, htext, hstoi⟩, hfault, num, rfl⟩ :=
      Archon.getCount_eq_ok h.sound hprint hget
    obtain rfl := Option.some.inj (hcounted.symm.trans htext)
    obtain rfl : (given.keys.length : ℤ) = n :=
      Option.some.inj ((number_repr given.keys.length).symm.trans (stoi_eq_ok_iff.mp hstoi).1)
    -- the number is taken in the map before anything is written
    let rig₂ : ArchonRig := { rig.accept (.rconfig num) with
      host := table.update (fun names => names.insert name given.keys.length) rig.host }
    have hheld : rig₂.Held := h.of_eq (ht.configlinemap _ _) (ht.configLines _ _) rfl
    have hvalue : rig₂.value = rig.value := ArchonRig.value_of_eq (ht.configlinemap _ _) rfl
    have hcan := hnew hnone hfault given.keys.length
      (by rw [ht.word]; exact h.stored hcounted)
    rw [ht.word] at hcan
    have hcan₂ : rig₂.host.CanWrite _ rig₂.faults :=
      Archon.canWrite_congr (ht.configlinemap _ _) (ht.configLines _ _) hcan
    have hplain : ∀ kv ∈ [(f.word ++ "S", (given.keys.length + 1).repr),
        (numbered f.word given.keys.length, join name val)], '=' ∉ kv.1.toList := by
      simp only [List.forall_mem_cons, List.not_mem_nil, false_implies, implies_true, and_true]
      exact ⟨f.plain_counter, f.plain_numbered _⟩
    have htouches : ∀ kv ∈ [(f.word ++ "S", (given.keys.length + 1).repr),
        (numbered f.word given.keys.length, join name val)], f.Touches kv.1 := by
      simp only [List.forall_mem_cons, List.not_mem_nil, false_implies, implies_true, and_true]
      exact ⟨f.touches_counter, f.touches_numbered _⟩
    have hfirst : f.Changes rig rig₂ :=
      ⟨hheld, fun key _ => congrFun hvalue key, fun f' hne => ht.members _ _ f' hne,
        ht.statenames _ _⟩
    refine ⟨_, hfirst.trans (ListFamily.Changes.writtenAll hheld hplain htouches hcan₂),
      .inl ⟨?_, ?_⟩⟩
    · rw [on_bind_of_ok hget, on_bind_of_ok (Archon.on_setHost _ _)]
      exact Archon.writeAll_of_canWrite hheld.sound hplain hcan₂
    -- after both writes the entry has the name, and the counter is one more
    · have hnames := ht.names_of_sameLists _ _ (ArchonRig.sameLists_writtenAll rig₂
        [(f.word ++ "S", (given.keys.length + 1).repr),
          (numbered f.word given.keys.length, join name val)])
      have hfits := hcan₂.1
      have hsound₁ := (hheld.written f.plain_counter hfits).sound
      have hvalue₁ := hheld.sound.value_written f.plain_counter (given.keys.length + 1).repr
      have hvalue₂ := hsound₁.value_written (f.plain_numbered given.keys.length) (join name val)
      rw [hvalue₁, hvalue] at hvalue₂
      rw [NamesKept, hnames, ht.names_update]
      have hadd := NamesInStep.add hkept f.numbered_ne_counter hnone val
      rw [← hvalue₂] at hadd
      exact hadd
  · -- the counter could not be read, and nothing has been changed
    have hread := Archon.maintains_getCount
      (P := fun rig' => rig'.Held ∧ rig'.value = rig.value ∧ rig.host.SameLists rig'.host)
      (fun rig' _ hrig' => ⟨hrig'.1.of_eq rfl rfl rfl, hrig'.2⟩)
      (fun rig' _ hrig' => ⟨hrig'.1.of_eq rfl rfl rfl, hrig'.2⟩) (f.word ++ "S") rig
      ⟨h, rfl, Archon.SameLists.refl _⟩
    rw [hget] at hread
    obtain ⟨hheld, hvalue, hsame⟩ := hread
    exact ⟨rig₁, ListFamily.Changes.of_eq hheld hvalue hsame,
      .inr ⟨e, on_bind_of_error hget _, namesKept_of_eq ht hkept hvalue hsame⟩⟩

/-- **`setParam` and `setConstant`.** -/
theorem setsName (ht : TableOf f table) (h : rig.Held) (hkept : NamesKept f table rig given)
    (hnew : SetsNewName table rig name val rig.faults) : SetsName f table rig given name val := by
  cases hi : (table.names rig.host).lookup name with
  | some i => exact setsName_of_known ht h hkept hi
  | none => exact setsName_of_new ht h hkept hi hnew

end Names

/-! ### Tap lines -/

/-- The tap lines without their channels. -/
structure TapLinesKept (value : String → Option String) (taplines : ℕ)
    (taps : AList fun _ : ℤ => String) : Prop where
  counted : value "TAPLINES" = some taps.keys.length.repr
  taplines : taplines = taps.keys.length
  given : ∀ n, n ∈ taps ↔ 0 ≤ n ∧ n < taps.keys.length
  entries : ∀ n text, taps.lookup n = some text → value (numbered "TAPLINE" n) = some text

namespace TapLinesKept

variable {value : String → Option String} {taplines : ℕ} {taps : AList fun _ : ℤ => String} {n : ℤ}

private theorem numbered_ne (n : ℤ) : numbered "TAPLINE" n ≠ "TAPLINES" :=
  ListFamily.numbered_ne_counter .taplines n

/-- What the entries are after one has been written. -/
private theorem entries_update (h : TapLinesKept value taplines taps) (tapline : String)
    {m : ℤ} {text : String} (hm : (taps.insert n tapline).lookup m = some text) :
    Function.update value (numbered "TAPLINE" n) (some tapline) (numbered "TAPLINE" m) =
      some text := by
  rw [AList.lookup_insert_ite] at hm
  split_ifs at hm with heq
  · rw [heq, Function.update_self, hm]
  · rw [Function.update_of_ne fun hkey => heq (numbered_inj hkey)]
    exact h.entries m text hm

/-- A tap line that is there is written. -/
theorem set (h : TapLinesKept value taplines taps) (hn : 0 ≤ n ∧ n < taplines) (tapline : String) :
    TapLinesKept (Function.update value (numbered "TAPLINE" n) (some tapline)) taplines
      (taps.insert n tapline) := by
  have hmem : n ∈ taps := (h.given n).mpr (by rw [← h.taplines]; exact hn)
  have hlength := AList.length_keys_insert_of_mem hmem tapline
  refine ⟨?_, hlength ▸ h.taplines, fun m => ?_, fun m text => h.entries_update tapline⟩
  · rw [hlength, Function.update_of_ne (numbered_ne n).symm]
    exact h.counted
  · rw [AList.mem_insert, hlength, h.given]
    refine ⟨?_, .inr⟩
    rintro (rfl | hm)
    · exact (h.given m).mp hmem
    · exact hm

/-- The next tap line is written, and their number. -/
theorem append (h : TapLinesKept value taplines taps) (tapline : String) :
    TapLinesKept
      (Function.update (Function.update value (numbered "TAPLINE" taplines) (some tapline))
        "TAPLINES" (some (taplines + 1).repr)) (taplines + 1) (taps.insert taplines tapline) := by
  have htaplines := h.taplines
  have hnew : (taplines : ℤ) ∉ taps := by
    rw [h.given]
    omega
  have hlength := AList.length_keys_insert_of_not_mem hnew tapline
  refine ⟨?_, by omega, fun m => ?_, fun m text hm => ?_⟩
  · rw [hlength, Function.update_self, h.taplines]
  · rw [AList.mem_insert, hlength, h.given]
    omega
  · rw [Function.update_of_ne (numbered_ne m)]
    exact h.entries_update tapline hm

end TapLinesKept

section Taps

variable {rig : ArchonRig} {taps : AList fun _ : ℤ => String} {n : ℤ} {tapline : String}

/-- The tap lines of a rig. -/
def TapsKept (rig : ArchonRig) (taps : AList fun _ : ℤ => String) : Prop :=
  TapLinesKept rig.value rig.host.taplines taps

/-- A call of `settapline` leads to a rig with the tap line, or to one without a change of the tap
lines. The channels are left as they are. -/
def SetsTap (rig : ArchonRig) (taps : AList fun _ : ℤ => String) (n : ℤ) (tapline : String) :
    Prop :=
  ∃ rig', ListFamily.taplines.Changes rig rig' ∧
    rig'.host.adTaplinemap = rig.host.adTaplinemap ∧
      (on (Archon.settapline n tapline) rig = (.ok (), rig') ∧
          TapsKept rig' (taps.insert n tapline) ∨
        ∃ e, on (Archon.settapline n tapline) rig = (.error e, rig') ∧ TapsKept rig' taps)

/-- The tap lines are a matter of their values and their list. -/
private theorem tapsKept_of_eq (h : TapsKept rig taps) {rig' : ArchonRig}
    (hvalue : rig'.value = rig.value)
    (hsame : rig.host.SameLists rig'.host) : TapsKept rig' taps := by
  rw [TapsKept, hvalue, hsame.taplines]
  exact h

/-- What is done for a tap line that is not beyond the next one. -/
theorem settapline_of_le (hle : n ≤ rig.host.taplines) (tapline : String) :
    on (Archon.settapline n tapline) rig =
      on (Archon.writeKeyValue (numbered "TAPLINE" n) tapline >>= fun _ =>
        if n = rig.host.taplines then
          Archon.setHost (fun s => { s with taplines := s.taplines + 1 }) >>= fun _ =>
            Archon.writeKeyValue "TAPLINES" (rig.host.taplines + 1).repr
        else pure ()) rig := by
  rw [Archon.settapline, on_bind_of_ok (Archon.on_host rig), on_ite, if_neg (by omega)]

/-- The entry of a tap line is written, or not. -/
theorem setsTap_of_lt (h : rig.Held) (hkept : TapsKept rig taps) (hlt : n < rig.host.taplines)
    (hneg : n < 0 → ¬ rig.host.CanWrite [(numbered "TAPLINE" n, tapline)] rig.faults) :
    SetsTap rig taps n tapline := by
  have hcall := settapline_of_le (Int.le_of_lt hlt) tapline
  rw [if_neg (by omega)] at hcall
  rw [SetsTap, hcall]
  obtain ⟨rig', hchanges, hsame, ⟨hon, hvalue⟩ | ⟨e, hon, hvalue⟩⟩ :=
    ListFamily.changes_writeKeyValue .taplines h (ListFamily.plain_numbered .taplines n)
      (ListFamily.touches_numbered .taplines n) tapline
  · have hcan : rig.host.CanWrite [(numbered "TAPLINE" n, tapline)] rig.faults := by
      obtain ⟨hfits, -, hfault, -⟩ := Archon.writeKeyValue_eq_ok hon
      exact ⟨hfits, hfault, trivial⟩
    have hn : 0 ≤ n ∧ n < rig.host.taplines := ⟨by by_contra hn; exact hneg (by omega) hcan, hlt⟩
    refine ⟨rig', hchanges, hsame.adTaplinemap, .inl ⟨(on_bind_of_ok hon _).trans rfl, ?_⟩⟩
    rw [TapsKept, hvalue, hsame.taplines]
    exact hkept.set hn tapline
  · exact ⟨rig', hchanges, hsame.adTaplinemap,
      .inr ⟨e, on_bind_of_error hon _, tapsKept_of_eq hkept hvalue hsame⟩⟩

/-- The next tap line is written, with their number. -/
theorem settapline_next (h : rig.Held) (hkept : TapsKept rig taps)
    (hcan : rig.host.CanWrite (tapWrites rig.host tapline) rig.faults) :
    ∃ rig', ListFamily.taplines.Changes rig rig' ∧
      rig'.host.adTaplinemap = rig.host.adTaplinemap ∧
        on (Archon.settapline rig.host.taplines tapline) rig = (.ok (), rig') ∧
          TapsKept rig' (taps.insert rig.host.taplines tapline) := by
  obtain ⟨hfits₁, hfault₁, hfits₂, hfault₂, -⟩ := hcan
  let key := numbered "TAPLINE" rig.host.taplines
  let count := (rig.host.taplines + 1).repr
  have hplain : '=' ∉ key.toList := ListFamily.plain_numbered .taplines rig.host.taplines
  have hplain' : '=' ∉ "TAPLINES".toList := ListFamily.plain_counter .taplines
  let rig₁ := rig.written key tapline
  have hwrite₁ : on (Archon.writeKeyValue key tapline) rig = (.ok (), rig₁) :=
    Archon.writeKeyValue_of_accepted h.sound hfits₁ hfault₁
  have hchanges₁ : ListFamily.taplines.Changes rig rig₁ :=
    ListFamily.Changes.written h hplain (ListFamily.touches_numbered .taplines _) hfits₁
  have hsame₁ : rig.host.SameLists rig₁.host := Archon.sameLists_register rig.host key
  have hvalue₁ : rig₁.value = Function.update rig.value key (some tapline) :=
    h.sound.value_written hplain tapline
  -- the number is counted up before it is written
  let rig₂ : ArchonRig :=
    { rig₁ with host := { rig₁.host with taplines := rig₁.host.taplines + 1 } }
  have hheld₂ : rig₂.Held := hchanges₁.held.of_eq rfl rfl rfl
  have hvalue₂ : rig₂.value = rig₁.value := ArchonRig.value_of_eq rfl rfl
  have hchanges₂ : ListFamily.taplines.Changes rig₁ rig₂ := by
    refine ⟨hheld₂, fun key _ => congrFun hvalue₂ key, fun f' hne => ?_, rfl⟩
    cases f' with
    | lines => trivial
    | taplines => exact absurd rfl hne
    | _ => exact rfl
  let rig₃ := rig₂.written "TAPLINES" count
  have hwrite₃ : on (Archon.writeKeyValue "TAPLINES" count) rig₂ = (.ok (), rig₃) :=
    Archon.writeKeyValue_of_accepted hheld₂.sound hfits₂ hfault₂
  have hchanges₃ : ListFamily.taplines.Changes rig₂ rig₃ :=
    ListFamily.Changes.written hheld₂ hplain' (ListFamily.touches_counter .taplines) hfits₂
  have hsame₃ : rig₂.host.SameLists rig₃.host := Archon.sameLists_register rig₂.host "TAPLINES"
  have hvalue₃ : rig₃.value = Function.update rig₂.value "TAPLINES" (some count) :=
    hheld₂.sound.value_written hplain' count
  have htaplines : rig₃.host.taplines = rig.host.taplines + 1 := by
    rw [hsame₃.taplines, ← hsame₁.taplines]
  refine ⟨rig₃, (hchanges₁.trans hchanges₂).trans hchanges₃,
    hsame₃.adTaplinemap.trans hsame₁.adTaplinemap, ?_, ?_⟩
  · rw [settapline_of_le (Int.le_refl _), on_bind_of_ok hwrite₁, if_pos rfl,
      on_bind_of_ok (Archon.on_setHost _ _)]
    exact hwrite₃
  · rw [TapsKept, htaplines, hvalue₃, hvalue₂, hvalue₁]
    exact hkept.append tapline

/-- **`settapline`.** -/
theorem setsTap (h : rig.Held) (hkept : TapsKept rig taps)
    (hsets : SetsTapline rig.host n tapline rig.faults) : SetsTap rig taps n tapline := by
  obtain hlt | rfl | hgt := Int.lt_trichotomy n rig.host.taplines
  · exact setsTap_of_lt h hkept hlt hsets.1
  · by_cases hfirst : rig.host.CanWrite [(numbered "TAPLINE" rig.host.taplines, tapline)] rig.faults
    · obtain ⟨rig', hchanges, hads, hon, hkept'⟩ := settapline_next h hkept (hsets.2 rfl hfirst)
      exact ⟨rig', hchanges, hads, .inl ⟨hon, hkept'⟩⟩
    · obtain ⟨rig', hchanges, hsame, ⟨hon, -⟩ | ⟨e, hon, hvalue⟩⟩ :=
        ListFamily.changes_writeKeyValue .taplines h (ListFamily.plain_numbered .taplines _)
          (ListFamily.touches_numbered .taplines _) tapline
      · obtain ⟨hfits, -, hfault, -⟩ := Archon.writeKeyValue_eq_ok hon
        exact absurd ⟨hfits, hfault, trivial⟩ hfirst
      · refine ⟨rig', hchanges, hsame.adTaplinemap,
          .inr ⟨e, ?_, tapsKept_of_eq hkept hvalue hsame⟩⟩
        rw [settapline_of_le (Int.le_refl _)]
        exact on_bind_of_error hon _
  · have hon : on (Archon.settapline n tapline) rig =
        (.error (.deviceError "invalid TAP line number"), rig) := by
      rw [Archon.settapline, on_bind_of_ok (Archon.on_host rig), on_ite, if_pos hgt]
      rfl
    exact ⟨rig, ListFamily.Changes.refl h, rfl, .inr ⟨_, hon, hkept⟩⟩

/-- The map of the channels is right. -/
structure ChannelsKept (ads : AList fun _ : UInt8 => UInt8) (count : ℕ)
    (channels : AList fun _ : UInt8 => ℤ) : Prop where
  injective : ∀ ad ad' i, ads.lookup ad = some i → ads.lookup ad' = some i → ad = ad'
  known : ∀ ad, (ads.lookup ad).map (fun i => (i.toNat : ℤ)) = channels.lookup ad
  below : ∀ ad i, ads.lookup ad = some i → i.toNat < count

/-- The family of tap lines is kept with the channels that have them. -/
private theorem kept_taplines_iff {g : GivenLists} : ListFamily.taplines.Kept rig g ↔
    TapsKept rig g.taps ∧ ChannelsKept rig.host.adTaplinemap g.taps.keys.length g.channels :=
  ⟨fun h => ⟨⟨h.counted, h.taplines, h.given, h.entries⟩, ⟨h.injective, h.known, h.below⟩⟩,
    fun h => ⟨h.1.counted, h.1.taplines, h.2.injective, h.2.known, h.2.below, h.1.given,
      h.1.entries⟩⟩

namespace ChannelsKept

variable {ads : AList fun _ : UInt8 => UInt8} {count : ℕ} {channels : AList fun _ : UInt8 => ℤ}
  {ad : UInt8}

/-- With more lines the channels keep theirs. -/
theorem mono (h : ChannelsKept ads count channels) {count' : ℕ} (hle : count ≤ count') :
    ChannelsKept ads count' channels :=
  ⟨h.injective, h.known, fun ad i hi => (h.below ad i hi).trans_le hle⟩

/-- A channel that is known keeps its tap line. -/
theorem insert_known (h : ChannelsKept ads count channels) {n : ℤ}
    (hn : channels.lookup ad = some n) : ChannelsKept ads count (channels.insert ad n) := by
  refine ⟨h.injective, fun ad' => ?_, h.below⟩
  rw [AList.lookup_insert_ite, h.known]
  split_ifs with heq
  · rw [heq, hn]
  · rfl

/-- A new channel gets the next tap line. -/
theorem insert_new (h : ChannelsKept ads count channels) (hcount : count < 256) :
    ChannelsKept (ads.insert ad (UInt8.ofNat count)) (count + 1) (channels.insert ad count) := by
  have hnat : (UInt8.ofNat count).toNat = count := UInt8.toNat_ofNat_of_lt' hcount
  have hfresh : ∀ ad', ads.lookup ad' ≠ some (UInt8.ofNat count) := by
    intro ad' hi
    have hlt := h.below ad' _ hi
    omega
  refine ⟨AList.lookup_insert_injective h.injective hfresh, fun ad' => ?_, fun ad' i hi => ?_⟩
  · rw [AList.lookup_insert_ite, AList.lookup_insert_ite]
    split_ifs
    · rw [Option.map_some, hnat]
    · exact h.known ad'
  · rw [AList.lookup_insert_ite] at hi
    split_ifs at hi
    · obtain rfl := Option.some.inj hi
      omega
    · have hlt := h.below ad' i hi
      omega

end ChannelsKept

variable {g : GivenLists}

/-- `settapline`, with the channels. -/
theorem keepsFamily_settapline (h : rig.Held) (hkept : ListFamily.taplines.Kept rig g)
    (hsets : SetsTapline rig.host n tapline rig.faults) :
    KeepsFamily .taplines (Archon.settapline n tapline) rig g
      { g with taps := g.taps.insert n tapline } := by
  obtain ⟨htaps, hchannels⟩ := kept_taplines_iff.mp hkept
  obtain ⟨rig', hchanges, hads, ⟨hon, htaps'⟩ | ⟨e, hon, htaps'⟩⟩ := setsTap h htaps hsets
  · refine ⟨rig', hchanges, .inl ⟨hon, kept_taplines_iff.mpr ⟨htaps', ?_⟩⟩⟩
    rw [hads]
    exact hchannels.mono (AList.length_keys_le_insert g.taps n tapline)
  · refine ⟨rig', hchanges, .inr ⟨e, hon, kept_taplines_iff.mpr ⟨htaps', ?_⟩⟩⟩
    rw [hads]
    exact hchannels

/-- **`settap`.** -/
theorem keepsFamily_settap (h : rig.Held) (hkept : ListFamily.taplines.Kept rig g) (ad : UInt8)
    (lr : Bool) (gain : String) (offset : UInt16)
    (hnew : rig.host.adTaplinemap.lookup ad = none → rig.host.taplines < 256 ∧
      rig.host.CanWrite (tapWrites rig.host (Archon.tapText ad lr gain offset)) rig.faults) :
    KeepsFamily .taplines (Archon.settap ad lr gain offset) rig g
      ((ListCall.settap ad lr gain offset).give g) := by
  obtain ⟨htaps, hchannels⟩ := kept_taplines_iff.mp hkept
  cases hlookup : rig.host.adTaplinemap.lookup ad with
  | some tline =>
    have hcall : on (Archon.settap ad lr gain offset) rig =
        on (Archon.settapline tline.toNat (Archon.tapText ad lr gain offset)) rig := by
      rw [Archon.settap, on_bind_of_ok (Archon.on_host rig), hlookup]
    have hlt := hchannels.below ad tline hlookup
    have hknown : g.channels.lookup ad = some (tline.toNat : ℤ) := by
      rw [← hchannels.known, hlookup, Option.map_some]
    have hsets :
        SetsTapline rig.host tline.toNat (Archon.tapText ad lr gain offset) rig.faults := by
      have htaplines := htaps.taplines
      exact ⟨fun hneg => absurd hneg (by omega), fun heq => absurd heq (by omega)⟩
    -- the tap line of the channel is written again
    obtain ⟨rig', hchanges, hads, hor⟩ := setsTap h htaps hsets
    have hgive : (ListCall.settap ad lr gain offset).give g = { g with
        taps := g.taps.insert tline.toNat (Archon.tapText ad lr gain offset)
        channels := g.channels.insert ad tline.toNat } := by
      rw [ListCall.give, hknown, Option.getD_some]
    rw [KeepsFamily, hcall, hgive]
    refine ⟨rig', hchanges, hor.imp (fun hok => ⟨hok.1, kept_taplines_iff.mpr ⟨hok.2, ?_⟩⟩) ?_⟩
    · rw [hads]
      exact (hchannels.insert_known hknown).mono (AList.length_keys_le_insert g.taps _ _)
    · rintro ⟨e, hon, htaps'⟩
      exact ⟨e, hon, kept_taplines_iff.mpr ⟨htaps', hads ▸ hchannels⟩⟩
  | none =>
    obtain ⟨hcount, hcan⟩ := hnew hlookup
    let rig₁ : ArchonRig := { rig with host := { rig.host with
      adTaplinemap := rig.host.adTaplinemap.insert ad (UInt8.ofNat rig.host.taplines) } }
    have hcall : on (Archon.settap ad lr gain offset) rig =
        on (Archon.settapline rig.host.taplines (Archon.tapText ad lr gain offset)) rig₁ := by
      rw [Archon.settap, on_bind_of_ok (Archon.on_host rig), hlookup]
      exact on_bind_of_ok (Archon.on_setHost _ _) _
    have hheld₁ : rig₁.Held := h.of_eq rfl rfl rfl
    have hvalue₁ : rig₁.value = rig.value := ArchonRig.value_of_eq rfl rfl
    have htaps₁ : TapsKept rig₁ g.taps := by
      rw [TapsKept, hvalue₁]
      exact htaps
    have hmap : rig₁.host.configlinemap = rig.host.configlinemap := rfl
    have hlines : rig₁.host.configLines = rig.host.configLines := rfl
    have hcan₁ : rig₁.host.CanWrite
        (tapWrites rig.host (Archon.tapText ad lr gain offset)) rig.faults :=
      Archon.canWrite_congr hmap hlines hcan
    -- the channel is put into the map first, and then the next tap line is written
    obtain ⟨rig₂, hchanges, hads, hon, htaps₂⟩ := settapline_next hheld₁ htaps₁ hcan₁
    have hfirst : ListFamily.taplines.Changes rig rig₁ := by
      refine ⟨hheld₁, fun key _ => congrFun hvalue₁ key, fun f' hne => ?_, rfl⟩
      cases f' with
      | lines => trivial
      | taplines => exact absurd rfl hne
      | _ => exact rfl
    have htaplines : rig.host.taplines = g.taps.keys.length := htaps.taplines
    have hnone : g.channels.lookup ad = none := by
      rw [← hchannels.known, hlookup, Option.map_none]
    have hgive : (ListCall.settap ad lr gain offset).give g = { g with
        taps := g.taps.insert rig.host.taplines (Archon.tapText ad lr gain offset)
        channels := g.channels.insert ad rig.host.taplines } := by
      rw [ListCall.give, hnone, Option.getD_none, htaplines]
    -- the numbers that were given are those below the count
    have hfresh : (rig.host.taplines : ℤ) ∉ g.taps := by
      rw [htaps.given]
      omega
    rw [KeepsFamily, hcall, hgive]
    refine ⟨rig₂, hfirst.trans hchanges, .inl ⟨hon, kept_taplines_iff.mpr ⟨htaps₂, ?_⟩⟩⟩
    rw [hads, AList.length_keys_insert_of_not_mem hfresh, ← htaplines]
    rw [← htaplines] at hchannels
    exact hchannels.insert_new hcount

end Taps

/-! ### Every run -/

/-- All lists are kept, and there is no state. -/
structure ListsKept (rig : ArchonRig) (g : GivenLists) : Prop where
  held : rig.Held
  kept : ∀ f : ListFamily, f.Kept rig g
  statenames : rig.host.statenames = []

/-- What fails next does not matter to what is kept. -/
theorem ListsKept.withFaults {rig : ArchonRig} {g : GivenLists} (h : ListsKept rig g)
    (faults : List (Option CommandFault)) : ListsKept { rig with faults := faults } g :=
  ⟨h.held.of_eq rfl rfl rfl, h.kept, h.statenames⟩

/-- The list that a call is about. -/
def ListCall.family : ListCall → ListFamily
  | loadTimingScript _ => .lines
  | writeTimingState _ _ => .states
  | setParam _ _ => .parameters
  | setConstant _ _ => .constants
  | settapline _ _ | settap _ _ _ _ => .taplines

/-- A call gives nothing to the other lists. -/
theorem ListCall.sameGiven (call : ListCall) (g : GivenLists) {f : ListFamily}
    (hne : f ≠ call.family) : f.SameGiven g (call.give g) := by
  cases call <;> cases f <;> first | exact absurd rfl hne | exact rfl | exact ⟨rfl, rfl⟩

private theorem sameGiven_refl (f : ListFamily) (g : GivenLists) : f.SameGiven g g := by
  cases f with
  | taplines => exact ⟨rfl, rfl⟩
  | _ => exact rfl

/-- What a call with `KeepsLists` does for its list. -/
theorem keepsFamily_perform {s : ListRun} {l : ListLabel} (h : ListsKept s.rig s.given)
    (hl : KeepsLists s l) :
    KeepsFamily l.call.family l.call.perform { s.rig with faults := l.faults }
      s.given (l.call.give s.given) := by
  obtain ⟨call, faults⟩ := l
  have hrig := h.withFaults faults
  cases call with
  | loadTimingScript script =>
    exact keepsFamily_loadTimingScript hrig.held (hrig.kept .lines) script hl
  | writeTimingState name state =>
    exact keepsFamily_writeTimingState hrig.held (hrig.kept .states) hrig.statenames name state hl _
  | setParam name val =>
    exact setsName tableOf_parameters hrig.held (hrig.kept .parameters) hl
  | setConstant name val =>
    exact setsName tableOf_constants hrig.held (hrig.kept .constants) hl
  | settapline n tapline => exact keepsFamily_settapline hrig.held (hrig.kept .taplines) hl
  | settap ad lr gain offset =>
    exact keepsFamily_settap hrig.held (hrig.kept .taplines) ad lr gain offset hl

/-- **A call with `KeepsLists` keeps all lists.** -/
theorem listsKept_step {rig : ArchonRig} {s s' : ListRun} {l : ListLabel}
    (h : ListsKept s.rig s.given) (hl : KeepsLists s l)
    (hstep : (listSystem rig).step s l = some s') : ListsKept s'.rig s'.given := by
  obtain rfl := Option.some.inj hstep
  have hrig := h.withFaults l.faults
  obtain ⟨rig', hchanges, hor⟩ := keepsFamily_perform h hl
  have hother : ∀ g', (∀ f, f ≠ l.call.family → f.SameGiven s.given g') →
      l.call.family.Kept rig' g' → ListsKept rig' g' := by
    intro g' hgiven hown
    refine ⟨hchanges.held, fun f => ?_, hchanges.statenames.trans hrig.statenames⟩
    by_cases hf : f = l.call.family
    · rw [hf]
      exact hown
    · exact (hrig.kept f).of_changes hchanges hf (hgiven f hf)
  obtain ⟨hon, hkept⟩ | ⟨e, hon, hkept⟩ := hor
  · simp only [hon]
    exact hother _ (fun _ hne => l.call.sameGiven s.given hne) hkept
  · simp only [hon]
    exact hother _ (fun f _ => sameGiven_refl f s.given) hkept

/-- Lists that are kept are in step. -/
theorem listsInStep_of_kept {s : ListRun} (h : ListsKept s.rig s.given) : ListsInStep s :=
  fun f => (h.kept f).stored h.held

/-- A configuration that has been cleared keeps its lists. -/
theorem listsKept_clearConfig {rig₀ rig : ArchonRig}
    (h : on Archon.clearConfig rig₀ = (.ok (), rig)) : ListsKept rig .none := by
  have hplain : ∀ kv ∈ Archon.clearedEntries, '=' ∉ kv.1.toList :=
    fun kv hkv => (Archon.plain_clearedEntries kv hkv).1.2
  have hsound := Archon.sound_cleared rig₀
  rw [Archon.clearConfig_eq] at h
  obtain ⟨_, rig₁, hclear, hrest⟩ := on_bind_eq_ok_iff.mp h
  obtain ⟨-, rfl⟩ := Archon.cmd_eq_ok hclear
  rw [on_bind_of_ok (Archon.on_setHost _ _)] at hrest
  have hwrites : on (Archon.writeAll Archon.clearedEntries) (Archon.cleared rig₀) = (.ok (), rig) :=
    hrest
  have hcan := Archon.canWrite_of_writeAll hsound hplain hwrites
  rw [Archon.writeAll_of_canWrite hsound hplain hcan] at hwrites
  obtain rfl := congrArg Prod.snd hwrites
  have hheld : (Archon.cleared rig₀).Held := ⟨hsound, nofun, fun _ _ => rfl⟩
  have hsame := ArchonRig.sameLists_writtenAll (Archon.cleared rig₀) Archon.clearedEntries
  -- every counter is written as 0
  have hzero : ∀ key, (key, "0") ∈ Archon.clearedEntries →
      ((Archon.cleared rig₀).writtenAll Archon.clearedEntries).value key = some "0" :=
    fun key hkey => hsound.value_writtenAll hplain (by decide) hkey
  refine ⟨hheld.writtenAll hplain hcan, fun f => ?_, hsame.statenames⟩
  refine ListFamily.InStep.congr ?_ (ListFamily.sameMembers_of_sameLists hsame f)
    (sameGiven_refl f .none)
  cases f with
  | lines => exact ⟨hzero _ (by decide), nofun⟩
  | states => exact ⟨hzero _ (by decide), List.nodup_nil, fun _ => Iff.rfl, nofun, nofun⟩
  | parameters => exact ⟨hzero _ (by decide), nofun, fun _ => Iff.rfl, nofun, nofun⟩
  | constants => exact ⟨hzero _ (by decide), nofun, fun _ => Iff.rfl, nofun, nofun⟩
  | taplines =>
    refine ⟨hzero _ (by decide), rfl, nofun, fun _ => rfl, nofun, fun n => ?_, nofun⟩
    exact ⟨nofun, fun hn => absurd hn (by simp [GivenLists.none])⟩

/-- **Indexed lists**: in a run from a configuration that has been cleared, whose calls leave no
list out of step, the lists are in step after every call. -/
theorem archonLists {rig₀ rig : ArchonRig} (hclear : on Archon.clearConfig rig₀ = (.ok (), rig))
    {ls : List ListLabel} (h : (listSystem rig).Guarded KeepsLists (listSystem rig).init ls) :
    ∀ move ∈ (listSystem rig).trace (listSystem rig).init ls, ListsInStep move.after :=
  TransitionSystem.Guarded.forall_mem_trace (fun s => ListsKept s.rig s.given)
    (fun _ _ _ hs hl hstep =>
      have hkept := listsKept_step hs hl hstep
      ⟨hkept, listsInStep_of_kept hkept⟩)
    (listsKept_clearConfig hclear) h

/-- A new handler with an empty controller. -/
def emptyRig : ArchonRig := ⟨Archon.new, fun _ => "", [], []⟩

/-- The same after its configuration has been cleared. -/
def clearedRig : ArchonRig := (on Archon.clearConfig emptyRig).2

/-- A run may begin with a cleared configuration. -/
private theorem clearConfig_emptyRig : on Archon.clearConfig emptyRig = (.ok (), clearedRig) := by
  have hfaults : ∀ fault ∈ emptyRig.faults.take 6, fault = none := nofun
  rw [clearedRig, Archon.clearConfig_of_accepted hfaults]

/-- A tap line is written, and then a script whose first command fails. -/
def tapAndScript : List ListLabel :=
  [⟨.settapline 0 "AD1L,1,0", []⟩, ⟨.loadTimingScript "A", [some .refused]⟩]

/-- Neither of them leaves a list out of step. -/
theorem archonLists_tapAndScript :
    (listSystem clearedRig).Guarded KeepsLists (listSystem clearedRig).init tapAndScript ∧
      ∀ move ∈ (listSystem clearedRig).trace (listSystem clearedRig).init tapAndScript,
        ListsInStep move.after := by
  have hguarded : (listSystem clearedRig).Guarded KeepsLists (listSystem clearedRig).init
      tapAndScript := by
    refine ⟨⟨fun hneg => absurd hneg (by decide), fun _ _ => by decide⟩, fun s hs => ⟨?_, ?_⟩⟩
    · obtain rfl := Option.some.inj hs
      exact .inr fun i line line' hold => by cases hold
    · exact fun _ _ => trivial
  exact ⟨hguarded, archonLists clearConfig_emptyRig hguarded⟩

/-- A number of states that is zero is wrong once a state has been given. -/
theorem not_listsInStep_of_line {s : ListRun} (hline : s.rig.lines 1 = join "STATES" "0")
    (hstates : s.given.states.keys.length.repr ≠ "0") : ¬ ListsInStep s := by
  intro h
  have hcounted : Stored s.rig.lines "STATES" s.given.states.keys.length.repr := (h .states).counted
  exact hstates ((hcounted "0").mp ⟨1, by decide, hline⟩).symm

/-- After the first timing state their number is still zero. -/
theorem not_archonLists : ¬ ∀ (rig₀ rig : ArchonRig) (ls : List ListLabel),
    on Archon.clearConfig rig₀ = (.ok (), rig) →
      ∀ move ∈ (listSystem rig).trace (listSystem rig).init ls,
        move.after.reply = .ok () → ListsInStep move.after := by
  intro h
  have hany : ((listSystem clearedRig).trace (listSystem clearedRig).init
      [⟨.writeTimingState "s" "A=1", []⟩]).any (fun move =>
        decide (move.after.reply = .ok ()) &&
          decide (move.after.rig.lines 1 = join "STATES" "0") &&
            decide (move.after.given.states.keys.length.repr ≠ "0")) = true := by
    decide +kernel
  obtain ⟨move, hmove, htest⟩ := List.any_eq_true.mp hany
  rw [Bool.and_eq_true, Bool.and_eq_true, decide_eq_true_eq, decide_eq_true_eq,
    decide_eq_true_eq] at htest
  exact not_listsInStep_of_line htest.1.2 htest.2
    (h emptyRig clearedRig _ clearConfig_emptyRig move hmove htest.1.1)

end Foxtrot
