import Foxtrot.Archon.Lines
import Mathlib.Data.Finset.Card
import Mathlib.Data.Finset.Range
import Mathlib.Data.Nat.Find

/-!
# Adopting the configuration of a controller

`read_parse_existing_config` writes `RAWSTARTPIXEL`, and then reads the lines up to the first empty
one and puts their keys into the map. It writes before it has read, where the handler's own map or
counter points to, and an entry that the map has already is kept.

So the configuration is adopted without loss (`Adopts`) exactly if the line written is the one after
the last, or has `RAWSTARTPIXEL=0` already, and what the handler believed before is right
(`Adoptable`).
-/

namespace Foxtrot

open Stateful Text

/-! ### First come -/

section FirstCome

variable {α : Type*} [DecidableEq α]

variable {N : ℕ} {name read : ℕ → Option α} {m m' : α → Option ℕ}

/-- The place of a name that is not known is the first one where it is read. -/
private theorem firstCome_of_none (hread : ∀ i, (read i).isSome ↔ i < N)
    (hm' : ∀ a, m' a = (m a).or ((List.range N).find? fun i => read i = some a)) {a : α}
    (hnone : m a = none) (i : ℕ) :
    m' a = some i ↔ read i = some a ∧ ∀ j < i, read j ≠ some a := by
  have hlt : read i = some a → i < N := fun h => (hread i).mp (by rw [h]; rfl)
  rw [hm', hnone, Option.none_or]
  simp only [List.find?_range_eq_some, decide_eq_true_eq, List.mem_range, Bool.not_eq_true',
    decide_eq_false_iff_not, ne_eq]
  exact ⟨fun h => ⟨h.1, h.2.2⟩, fun h => ⟨h.1, hlt h.1, h.2⟩⟩

/-- A map from names to places, which is extended by what is read at the places in turn, unless it
is known already, ends up as the map of the true names exactly if it was right, and each place is
read right, or else its name is known and what is read is known by then. -/
theorem firstCome_iff (hinj : ∀ i j a, name i = some a → name j = some a → i = j)
    (hname : ∀ i, (name i).isSome ↔ i < N) (hread : ∀ i, (read i).isSome ↔ i < N)
    (hm' : ∀ a, m' a = (m a).or ((List.range N).find? fun i => read i = some a)) :
    (∀ a i, m' a = some i ↔ name i = some a) ↔
      (∀ a i, m a = some i → name i = some a) ∧
        ∀ i a b, name i = some a → read i = some b →
          b = a ∨ m a ≠ none ∧ (m b ≠ none ∨ ∃ j < i, name j = some b) := by
  have hnew := fun {a} (h : m a = none) i => firstCome_of_none hread hm' h i
  have hboth : ∀ i, (∃ a, name i = some a) ↔ ∃ b, read i = some b := by
    intro i
    rw [← Option.isSome_iff_exists, ← Option.isSome_iff_exists, hname, hread]
  constructor
  · intro h
    refine ⟨fun a i ha => (h a i).mp (by rw [hm', ha, Option.some_or]), fun i a b ha hb => ?_⟩
    by_cases hba : b = a
    · exact .inl hba
    · refine .inr ⟨fun hnone => hba ?_, ?_⟩
      · have hfirst := ((hnew hnone i).mp ((h a i).mpr ha)).1
        rw [hb] at hfirst
        exact Option.some.inj hfirst
      · by_cases hnone : m b = none
        · -- the first place where `b` is read must be its own
          have hex : ∃ j, read j = some b := ⟨i, hb⟩
          have hfirst := Nat.find_spec hex
          have hle : Nat.find hex ≤ i := Nat.find_min' hex hb
          have htrue : name (Nat.find hex) = some b :=
            (h b _).mp ((hnew hnone _).mpr ⟨hfirst, fun j hj => Nat.find_min hex hj⟩)
          refine .inr ⟨Nat.find hex, lt_of_le_of_ne hle fun heq => hba ?_, htrue⟩
          rw [heq, ha] at htrue
          exact (Option.some.inj htrue).symm
        · exact .inl hnone
  · rintro ⟨hright, hcover⟩ a i
    -- a name is known from before, or from the first place where it is read
    cases hma : m a with
    | some k =>
      have hk := hright a k hma
      rw [hm', hma, Option.some_or]
      exact ⟨fun h => Option.some.inj h ▸ hk, fun h => congrArg some (hinj k i a hk h)⟩
    | none =>
      have htrue : ∀ j, name j = some a → read j = some a := by
        intro j hj
        obtain ⟨b, hb⟩ := (hboth j).mp ⟨a, hj⟩
        obtain rfl | ⟨hknown, -⟩ := hcover j a b hj hb
        · exact hb
        · exact absurd hma hknown
      rw [hnew hma]
      constructor
      · rintro ⟨hreads, hfirst⟩
        obtain ⟨c, hc⟩ := (hboth i).mpr ⟨a, hreads⟩
        obtain rfl | ⟨-, hknown | ⟨j, hj, hname⟩⟩ := hcover i c a hc hreads
        · exact hc
        · exact absurd hma hknown
        · exact absurd (htrue j hname) (hfirst j hj)
      · intro hi
        refine ⟨htrue i hi, fun j hj hreads => ?_⟩
        obtain ⟨c, hc⟩ := (hboth j).mpr ⟨a, hreads⟩
        obtain rfl | ⟨-, hknown | ⟨k, hk, hname⟩⟩ := hcover j c a hc hreads
        · exact hj.ne (hinj j i _ hc hi)
        · exact hknown hma
        · exact (hk.trans hj).ne (hinj k i a hname hi)

end FirstCome

/-! ### Stored configurations -/

/-- The lines that hold entries, from the first one on. -/
def linesOf (entries : List (String × String)) (i : ℕ) : String :=
  entries[i]?.elim "" fun e => join e.1 e.2

/-- A configuration with distinct keys that leaves a line of the controller free. -/
structure StoredConfig where
  entries : List (String × String)
  length_lt : entries.length < controllerLines
  plain : ∀ e ∈ entries, '=' ∉ e.1.toList
  nodup : (entries.map Prod.fst).Nodup

/-- **The configuration is adopted without loss.** -/
structure Adopts (c : StoredConfig) (rig : ArchonRig) : Prop where
  /-- Every key that was stored has its value. -/
  kept : ∀ e ∈ c.entries, ∃ i < controllerLines, rig.lines i = join e.1 e.2
  /-- The map has the keys that the controller holds, with their lines, and no others. -/
  mapped : ∀ key i, rig.host.configlinemap.lookup key = some i ↔
    i < controllerLines ∧ '=' ∉ key.toList ∧ ∃ val, rig.lines i = join key val
  /-- The counter is the number of lines in use. -/
  counted : rig.host.configLines =
    ((Finset.range controllerLines).filter fun i => rig.lines i ≠ "").card
  /-- A later write of a key that is held overwrites it. -/
  overwrites : ∀ key val i (faults : List (Option CommandFault)),
    rig.host.configlinemap.lookup key = some i → (join key val).length < 2047 →
      faults.head?.join = none → ∃ rig',
        on (Archon.writeKeyValue key val) { rig with faults := faults } = (.ok (), rig') ∧
          rig'.host = rig.host ∧ rig'.lines = Function.update rig.lines i (join key val)
  /-- A later write of a new key appends it after the last line. -/
  appends : ∀ key val (faults : List (Option CommandFault)),
    key ∉ rig.host.configlinemap → (join key val).length < 2047 → faults.head?.join = none →
      ∃ rig', on (Archon.writeKeyValue key val) { rig with faults := faults } = (.ok (), rig') ∧
        rig'.host.configlinemap.lookup key = some rig.host.configLines ∧
          rig'.lines = Function.update rig.lines rig.host.configLines (join key val) ∧
            ∀ i, i < controllerLines → (rig.lines i ≠ "" ↔ i < rig.host.configLines)

/-- The entry that `read_parse_existing_config` writes. -/
def rawStartPixel : String × String := ("RAWSTARTPIXEL", "0")

/-- What is written fits to what is stored, and what the handler believes is right. Keys are
printable; another one can only be known already, as must be what is left of it when it is read,
unless that has been read before. -/
structure Adoptable (s : Archon) (c : StoredConfig) : Prop where
  /-- The line written is the one after the last, and the key is new, or the line is there already.
  -/
  line : s.lineOf rawStartPixel.1 = c.entries.length ∧ rawStartPixel.1 ∉ c.entries.map Prod.fst ∨
    c.entries[s.lineOf rawStartPixel.1]? = some rawStartPixel
  /-- The configuration is not full then. -/
  room : c.entries.length < 2047 ∧ s.lineOf rawStartPixel.1 < 2046
  agrees : ∀ key i, s.configlinemap.lookup key = some i → key = rawStartPixel.1 ∨
    ∃ val : String, c.entries[i]? = some (key, val)
  readable : ∀ (i : ℕ) (key val : String), c.entries[i]? = some (key, val) → printable key = key ∨
    key ∈ s.configlinemap ∧ (printable key ∈ s.configlinemap ∨ printable key = rawStartPixel.1 ∨
      ∃ j < i, ∃ val' : String, c.entries[j]? = some (printable key, val'))

/-! ### The loop -/

/-- The key that is read off a line. -/
def parsedKey (line : String) : Option String := (splitFirst '=' (printable line)).map Prod.fst

/-- A line with a key is not empty when it has been made printable. -/
private theorem printable_ne_empty_of_parsedKey {line : String} (h : (parsedKey line).isSome) :
    printable line ≠ "" := by
  intro hempty
  rw [parsedKey, hempty] at h
  exact Bool.false_ne_true h

/-- What a loop that ends has read: the lines up to the first empty one, whose keys have been put
into the map. -/
theorem parseLines_eq_ok {remaining i j : ℕ} {rig rig' : ArchonRig}
    (h : on (Archon.parseLines remaining i) rig = (.ok j, rig')) :
    i ≤ j ∧ (∀ k, i ≤ k → k < j → (parsedKey (rig.lines k)).isSome) ∧
      (j < i + remaining → printable (rig.lines j) = "") ∧ j ≤ i + remaining ∧
      rig'.lines = rig.lines ∧
      ∀ key, rig'.host.configlinemap.lookup key = (rig.host.configlinemap.lookup key).or
        ((List.range' i (j - i)).find? fun k => parsedKey (rig.lines k) = some key) := by
  induction remaining generalizing i rig with
  | zero =>
    obtain ⟨hj, rfl⟩ := Prod.mk.inj h
    obtain rfl := Except.ok.inj hj
    refine ⟨le_rfl, fun k hk hlt => absurd hlt (not_lt.mpr hk), fun hlt => absurd hlt (lt_irrefl _),
      le_rfl, rfl, fun key => ?_⟩
    rw [Nat.sub_self, List.range'_zero, List.find?_nil, Option.or_none]
  | succ remaining ih =>
    obtain ⟨confline, rig₁, hread, h⟩ := on_bind_eq_ok_iff.mp h
    have hcmd : on (Archon.cmd (.rconfig i)) rig = (.ok confline, rig₁) := by
      rw [← hread, Archon.readConfigLine, on_bind_of_ok (Archon.on_host rig), on_ite,
        if_neg (by simp)]
    obtain ⟨rfl, rfl⟩ := Archon.cmd_eq_ok hcmd
    have hreply : ArchonCommand.reply rig.lines (.rconfig i) = rig.lines i := rfl
    rw [hreply] at h
    -- the loop ends at the first empty line
    by_cases hempty : printable (rig.lines i) = ""
    · rw [if_pos hempty] at h
      obtain ⟨hj, rfl⟩ := Prod.mk.inj h
      obtain rfl := Except.ok.inj hj
      refine ⟨le_rfl, fun k hk hlt => absurd hlt (not_lt.mpr hk), fun _ => hempty,
        Nat.le_add_right _ _, rfl, fun key => ?_⟩
      rw [Nat.sub_self, List.range'_zero, List.find?_nil, Option.or_none]
      rfl
    · rw [if_neg hempty] at h
      cases hsplit : splitFirst '=' (printable (rig.lines i)) with
      | none =>
        -- a line without "=" throws
        rw [hsplit] at h
        cases congrArg Prod.fst h
      | some kv =>
        rw [hsplit] at h
        have hkey : parsedKey (rig.lines i) = some kv.1 := by rw [parsedKey, hsplit]; rfl
        obtain ⟨hle, hkeys, hend, hbound, hlines, hmap⟩ := ih h
        refine ⟨Nat.le_of_succ_le hle, fun k hk hlt => ?_, fun hlt => hend (by omega), by omega,
          hlines, fun key => ?_⟩
        · obtain rfl | hk := hk.eq_or_lt
          · rw [hkey]
            rfl
          · exact hkeys k hk hlt
        · have hcount : j - i = j - (i + 1) + 1 := by omega
          have hinsert := AList.lookup_insertNew rig.host.configlinemap key kv.1 i
          have hfirst : rig'.host.configlinemap.lookup key =
              ((rig.host.configlinemap.insertNew kv.1 i).lookup key).or
                ((List.range' (i + 1) (j - (i + 1))).find? fun k =>
                  parsedKey (rig.lines k) = some key) := hmap key
          rw [hfirst, hinsert, hcount, List.range'_succ, List.find?_cons, hkey, Option.or_assoc]
          -- a key that is known keeps the line that it had
          by_cases heq : key = kv.1
          · simp [heq]
          · simp [heq, Ne.symm heq]

/-! ### Lines and entries -/

section Entries

variable {es : List (String × String)}

private theorem linesOf_of_getElem? {i : ℕ} {e : String × String} (h : es[i]? = some e) :
    linesOf es i = join e.1 e.2 := by
  rw [linesOf, h]
  rfl

private theorem linesOf_of_le {i : ℕ} (h : es.length ≤ i) : linesOf es i = "" := by
  rw [linesOf, List.getElem?_eq_none h]
  rfl

/-- Only the lines of the entries are not empty. -/
private theorem linesOf_ne_empty_iff {i : ℕ} : linesOf es i ≠ "" ↔ i < es.length := by
  constructor
  · intro h
    by_contra hle
    exact h (linesOf_of_le (not_lt.mp hle))
  · intro h
    rw [linesOf_of_getElem? (List.getElem?_eq_getElem h)]
    exact join_ne_empty _ _

private theorem linesOf_eq_join_iff (hplain : ∀ e ∈ es, '=' ∉ e.1.toList) {i : ℕ} {key val : String}
    (hkey : '=' ∉ key.toList) : linesOf es i = join key val ↔ es[i]? = some (key, val) := by
  constructor
  · intro h
    have hlt : i < es.length := linesOf_ne_empty_iff.mp (h ▸ join_ne_empty key val)
    have hget := List.getElem?_eq_getElem hlt
    rw [linesOf_of_getElem? hget] at h
    obtain ⟨rfl, rfl⟩ := join_inj (hplain _ (List.getElem_mem hlt)) hkey h
    exact hget
  · exact linesOf_of_getElem?

/-- The key of each entry is read from its line, as far as it is printable. -/
private theorem parsedKey_linesOf (hplain : ∀ e ∈ es, '=' ∉ e.1.toList) (i : ℕ) :
    parsedKey (linesOf es i) = es[i]?.map fun e => printable e.1 := by
  cases hget : es[i]? with
  | none =>
    rw [linesOf, hget]
    rfl
  | some e =>
    have hkey := not_mem_printable (hplain e (List.mem_of_getElem? hget))
    rw [linesOf_of_getElem? hget, parsedKey, printable_join, splitFirst_join hkey]
    rfl

/-- Distinct keys stand in distinct places. -/
theorem index_inj (hnodup : (es.map Prod.fst).Nodup) {i j : ℕ} {e e' : String × String}
    (hi : es[i]? = some e) (hj : es[j]? = some e') (heq : e.1 = e'.1) : i = j := by
  have hlt : i < (es.map Prod.fst).length := by
    rw [List.length_map]
    exact (List.getElem?_eq_some_iff.mp hi).1
  refine (List.getElem?_inj hlt hnodup).mp ?_
  rw [List.getElem?_map, List.getElem?_map, hi, hj, Option.map_some, Option.map_some, heq]

end Entries

/-! ### After the adoption -/

/-- What a successful adoption has done: it has written its line, and read up to the first empty
line. -/
theorem readParseExistingConfig_eq_ok {rig rig' : ArchonRig}
    (h : on Archon.readParseExistingConfig rig = (.ok (), rig')) :
    rig.host.configLines < 2047 ∧
      rig.host.lineOf rawStartPixel.1 ≤ rig.host.configLines ∧
      rig'.lines = Function.update rig.lines (rig.host.lineOf rawStartPixel.1)
        (join rawStartPixel.1 rawStartPixel.2) ∧
      (∀ k < rig'.host.configLines, (parsedKey (rig'.lines k)).isSome) ∧
      (rig'.host.configLines < controllerLines →
        printable (rig'.lines rig'.host.configLines) = "") ∧
      rig'.host.configLines ≤ controllerLines ∧
      ∀ key, rig'.host.configlinemap.lookup key =
        ((rig.host.register rawStartPixel.1).configlinemap.lookup key).or
          ((List.range rig'.host.configLines).find? fun k =>
            parsedKey (rig'.lines k) = some key) := by
  obtain ⟨_, rig₁, hwrite, h⟩ := on_bind_eq_ok_iff.mp h
  obtain ⟨hfits, hle, -, rfl⟩ := Archon.writeKeyValue_eq_ok hwrite
  obtain ⟨j, rig₂, hparse, h⟩ := on_bind_eq_ok_iff.mp h
  obtain ⟨-, hkeys, hend, hbound, hlines, hmap⟩ := parseLines_eq_ok hparse
  obtain rfl : { rig₂ with host := { rig₂.host with configLines := j } } = rig' :=
    congrArg Prod.snd h
  have hwritten : (rig.written "RAWSTARTPIXEL" "0").lines = Function.update rig.lines
      (rig.host.lineOf rawStartPixel.1) (join rawStartPixel.1 rawStartPixel.2) := rfl
  rw [Nat.zero_add] at hend hbound
  refine ⟨hfits.1, hle, hlines.trans hwritten, fun k hk => ?_, fun hlt => ?_, hbound, fun key => ?_⟩
  · exact hlines ▸ hkeys k (Nat.zero_le k) hk
  · exact hlines ▸ hend hlt
  · have hlookup := hmap key
    rw [Nat.sub_zero, ← List.range_eq_range', ← hlines] at hlookup
    exact hlookup

section Adoption

variable {c : StoredConfig} {rig rig' : ArchonRig} {es : List (String × String)}

/-- The key of the entry that is written is without `=`. -/
private theorem plain_rawStartPixel : '=' ∉ rawStartPixel.1.toList := by decide

/-- The key of the entry that is written is printable. -/
private theorem printable_rawStartPixel : printable rawStartPixel.1 = rawStartPixel.1 :=
  printable_eq_self (by decide)

/-- The entries after the line has been written, where it fits. -/
structure Fitting (c : StoredConfig) (w : ℕ) (es : List (String × String)) : Prop where
  lines : Function.update (linesOf c.entries) w (join rawStartPixel.1 rawStartPixel.2) = linesOf es
  plain : ∀ e ∈ es, '=' ∉ e.1.toList
  nodup : (es.map Prod.fst).Nodup
  length : es.length = max c.entries.length (w + 1)
  getElem? : ∀ i e, es[i]? = some e ↔ c.entries[i]? = some e ∨ i = w ∧ e = rawStartPixel

private theorem fitting_append (c : StoredConfig)
    (hnew : rawStartPixel.1 ∉ c.entries.map Prod.fst) :
    Fitting c c.entries.length (c.entries ++ [rawStartPixel]) := by
  -- the entries keep their places, and the new one is behind them
  have hget : ∀ i e, (c.entries ++ [rawStartPixel])[i]? = some e ↔
      c.entries[i]? = some e ∨ i = c.entries.length ∧ e = rawStartPixel := by
    intro i e
    rcases lt_trichotomy i c.entries.length with hlt | rfl | hgt
    · rw [List.getElem?_append_left hlt]
      simp [hlt.ne]
    · simp [eq_comm]
    · rw [List.getElem?_eq_none (by simp; omega), List.getElem?_eq_none hgt.le]
      simp [hgt.ne']
  refine ⟨?_, ?_, ?_, ?_, hget⟩
  · funext i
    by_cases hi : i = c.entries.length
    · rw [hi, Function.update_self, linesOf_of_getElem? ((hget _ _).mpr (.inr ⟨rfl, rfl⟩))]
    · rw [Function.update_of_ne hi]
      cases hold : c.entries[i]? with
      | none =>
        have hnone : (c.entries ++ [rawStartPixel])[i]? = none := by
          rw [Option.eq_none_iff_forall_ne_some]
          intro e he
          obtain hc | ⟨heq, -⟩ := (hget i e).mp he
          · rw [hold] at hc
            cases hc
          · exact hi heq
        rw [linesOf, linesOf, hold, hnone]
      | some e => rw [linesOf, linesOf, hold, (hget i e).mpr (.inl hold)]
  · intro e he
    rcases List.mem_append.mp he with hold | hnew
    · exact c.plain e hold
    · obtain rfl := List.mem_singleton.mp hnew
      exact plain_rawStartPixel
  · rw [List.map_append, List.map_singleton]
    exact List.nodup_append.mpr ⟨c.nodup, List.nodup_singleton _, fun a ha b hb heq =>
      hnew (List.mem_singleton.mp hb ▸ heq ▸ ha)⟩
  · rw [List.length_append, List.length_singleton]
    omega

private theorem fitting_same {w : ℕ} (hsame : c.entries[w]? = some rawStartPixel) :
    Fitting c w c.entries := by
  have hlt : w < c.entries.length := (List.getElem?_eq_some_iff.mp hsame).1
  refine ⟨?_, c.plain, c.nodup, by omega, fun i e => ?_⟩
  · rw [← linesOf_of_getElem? hsame]
    exact Function.update_eq_self w _
  · refine ⟨.inl, ?_⟩
    rintro (h | ⟨rfl, rfl⟩)
    · exact h
    · exact hsame

/-- Where the line fits, the counter ends up as the number of the entries. -/
theorem configLines_of_fitting (hlines : rig.lines = linesOf c.entries)
    (h : on Archon.readParseExistingConfig rig = (.ok (), rig'))
    (hfit : Fitting c (rig.host.lineOf rawStartPixel.1) es) :
    rig'.lines = linesOf es ∧ rig'.host.configLines = es.length := by
  obtain ⟨hcount, hle, hupdate, hkeys, hend, hbound, -⟩ := readParseExistingConfig_eq_ok h
  have hlines' : rig'.lines = linesOf es := by rw [hupdate, hlines, hfit.lines]
  have hlength := hfit.length
  have hstored : c.entries.length < 2048 := c.length_lt
  refine ⟨hlines', le_antisymm ?_ ?_⟩
  · by_contra hgt
    have hkey := hkeys es.length (not_le.mp hgt)
    rw [hlines', linesOf_of_le le_rfl] at hkey
    exact Bool.false_ne_true hkey
  · by_contra hlt
    rw [not_le] at hlt
    have hempty := hend (by rw [controllerLines]; omega)
    refine printable_ne_empty_of_parsedKey ?_ hempty
    rw [hlines', parsedKey_linesOf hfit.plain, List.getElem?_eq_getElem hlt]
    rfl

/-- The map is right about the entries. -/
theorem mapped_iff_name (hes : es.length ≤ controllerLines) (hplain : ∀ e ∈ es, '=' ∉ e.1.toList)
    (hlines : rig'.lines = linesOf es) (key : String) (i : ℕ) :
    (i < controllerLines ∧ '=' ∉ key.toList ∧ ∃ val, rig'.lines i = join key val) ↔
      es[i]?.map Prod.fst = some key := by
  rw [hlines, Option.map_eq_some_iff]
  constructor
  · rintro ⟨-, hkey, val, hval⟩
    exact ⟨(key, val), (linesOf_eq_join_iff hplain hkey).mp hval, rfl⟩
  · rintro ⟨⟨_, val⟩, hget, rfl⟩
    have hlt : i < es.length := (List.getElem?_eq_some_iff.mp hget).1
    exact ⟨hlt.trans_le hes, hplain _ (List.mem_of_getElem? hget), val, linesOf_of_getElem? hget⟩

/-- The keys that the handler has before it reads. -/
theorem lookup_register_rawStartPixel {s : Archon} {key : String} :
    (s.register rawStartPixel.1).configlinemap.lookup key ≠ none ↔
      key = rawStartPixel.1 ∨ key ∈ s.configlinemap := by
  rw [ArchonRig.lookup_register]
  split_ifs with h
  · simp [h]
  · simp [h, AList.lookup_eq_none]

/-- **The map is right exactly if the handler was right, and the keys are readable.** -/
theorem mapped_iff (hlines : rig.lines = linesOf c.entries)
    (h : on Archon.readParseExistingConfig rig = (.ok (), rig'))
    (hfit : Fitting c (rig.host.lineOf rawStartPixel.1) es) :
    (∀ key i, rig'.host.configlinemap.lookup key = some i ↔
      i < controllerLines ∧ '=' ∉ key.toList ∧ ∃ val, rig'.lines i = join key val) ↔
      (∀ key i, rig.host.configlinemap.lookup key = some i → key = rawStartPixel.1 ∨
        ∃ val : String, c.entries[i]? = some (key, val)) ∧
      ∀ (i : ℕ) (key val : String), c.entries[i]? = some (key, val) → printable key = key ∨
        key ∈ rig.host.configlinemap ∧ (printable key ∈ rig.host.configlinemap ∨
          printable key = rawStartPixel.1 ∨
            ∃ j < i, ∃ val' : String, c.entries[j]? = some (printable key, val')) := by
  obtain ⟨hlines', hcount⟩ := configLines_of_fitting hlines h hfit
  obtain ⟨hlt, hle, -, -, -, -, hmap⟩ := readParseExistingConfig_eq_ok h
  have hlength := hfit.length
  have hstored : c.entries.length < 2048 := c.length_lt
  have hes : es.length ≤ controllerLines := by rw [controllerLines]; omega
  have hfirst : ∀ key, rig'.host.configlinemap.lookup key =
      ((rig.host.register rawStartPixel.1).configlinemap.lookup key).or
        ((List.range es.length).find? fun i => es[i]?.map (fun e => printable e.1) = some key) := by
    intro key
    rw [hmap, hcount, hlines']
    simp only [parsedKey_linesOf hfit.plain]
  have hsome : ∀ (f : String × String → String) i, (es[i]?.map f).isSome ↔ i < es.length := by
    intro f i
    simp
  simp only [mapped_iff_name hes hfit.plain hlines']
  -- the places are the lines, with the keys as their names, and the printable part is read
  rw [firstCome_iff (fun i j a hi hj => ?_) (hsome Prod.fst) (hsome _) hfirst]
  · refine and_congr ⟨fun hright key i hi => ?_, fun hright key i hi => ?_⟩
      ⟨fun hcover i key val hget => ?_, fun hcover i key read hkey hread => ?_⟩
    · by_cases hraw : key = rawStartPixel.1
      · exact .inl hraw
      · obtain ⟨e, he, rfl⟩ := Option.map_eq_some_iff.mp
          (hright key i (by rw [ArchonRig.lookup_register, if_neg hraw, hi]))
        obtain hget | ⟨-, rfl⟩ := (hfit.getElem? i e).mp he
        · exact .inr ⟨e.2, hget⟩
        · exact .inl rfl
    · rw [ArchonRig.lookup_register] at hi
      by_cases hraw : key = rawStartPixel.1
      · rw [if_pos hraw] at hi
        obtain rfl := Option.some.inj hi
        rw [(hfit.getElem? _ _).mpr (.inr ⟨rfl, rfl⟩), hraw]
        rfl
      · rw [if_neg hraw] at hi
        obtain ⟨val, hget⟩ := (hright key i hi).resolve_left hraw
        rw [(hfit.getElem? i _).mpr (.inl hget)]
        rfl
    · have hes' := (hfit.getElem? i (key, val)).mpr (.inl hget)
      obtain heq | ⟨hknown, hread⟩ := hcover i key (printable key) (by rw [hes']; rfl)
        (by rw [hes']; rfl)
      · exact .inl heq
      · obtain rfl | hknown := lookup_register_rawStartPixel.mp hknown
        · exact .inl printable_rawStartPixel
        · refine .inr ⟨hknown, ?_⟩
          obtain hread | ⟨j, hj, hname⟩ := hread
          · exact (lookup_register_rawStartPixel.mp hread).symm.imp_right .inl
          · obtain ⟨⟨_, val'⟩, he, rfl⟩ := Option.map_eq_some_iff.mp hname
            obtain hold | ⟨-, hraw⟩ := (hfit.getElem? j _).mp he
            · exact .inr (.inr ⟨j, hj, val', hold⟩)
            · exact .inr (.inl (congrArg Prod.fst hraw))
    · obtain ⟨⟨_, val⟩, he, rfl⟩ := Option.map_eq_some_iff.mp hkey
      rw [he] at hread
      obtain rfl := Option.some.inj hread
      -- an entry of the stored configuration, or the line that is written before reading
      obtain hold | ⟨-, hraw⟩ := (hfit.getElem? i _).mp he
      · obtain heq | ⟨hknown, hread⟩ := hcover i _ val hold
        · exact .inl heq
        · refine .inr ⟨lookup_register_rawStartPixel.mpr (.inr hknown), ?_⟩
          obtain hread | hraw | ⟨j, hj, val', hname⟩ := hread
          · exact .inl (lookup_register_rawStartPixel.mpr (.inr hread))
          · exact .inl (lookup_register_rawStartPixel.mpr (.inl hraw))
          · refine .inr ⟨j, hj, ?_⟩
            rw [(hfit.getElem? j _).mpr (.inl hname)]
            rfl
      · rw [hraw]
        exact .inl printable_rawStartPixel
  · obtain ⟨e, he, rfl⟩ := Option.map_eq_some_iff.mp hi
    obtain ⟨e', he', heq⟩ := Option.map_eq_some_iff.mp hj
    exact index_inj hfit.nodup he he' heq.symm

/-- The line that is written is a line of the controller, and has what has been written. -/
theorem lines_lineOf (h : on Archon.readParseExistingConfig rig = (.ok (), rig')) :
    rig.host.lineOf rawStartPixel.1 < 2047 ∧
      rig'.lines (rig.host.lineOf rawStartPixel.1) = join rawStartPixel.1 rawStartPixel.2 := by
  obtain ⟨hlt, hle, hupdate, -⟩ := readParseExistingConfig_eq_ok h
  exact ⟨by omega, by rw [hupdate, Function.update_self]⟩

/-- A line beyond the next one leaves a hole, where the count ends. -/
theorem le_length_of_counted (hlines : rig.lines = linesOf c.entries)
    (h : on Archon.readParseExistingConfig rig = (.ok (), rig'))
    (hcounted : rig'.host.configLines =
      ((Finset.range controllerLines).filter fun i => rig'.lines i ≠ "").card) :
    rig.host.lineOf rawStartPixel.1 ≤ c.entries.length := by
  by_contra hgt
  rw [not_le] at hgt
  obtain ⟨hlt, hline⟩ := lines_lineOf h
  obtain ⟨-, -, hupdate, hkeys, -⟩ := readParseExistingConfig_eq_ok h
  have hother : ∀ i, i ≠ rig.host.lineOf rawStartPixel.1 → rig'.lines i = linesOf c.entries i := by
    intro i hi
    rw [hupdate, Function.update_of_ne hi, hlines]
  -- the loop ends at the hole, but the filter counts the line behind it as well
  have hle : rig'.host.configLines ≤ c.entries.length := by
    by_contra hmore
    have hkey := hkeys c.entries.length (not_le.mp hmore)
    rw [hother _ hgt.ne, linesOf_of_le le_rfl] at hkey
    exact Bool.false_ne_true hkey
  have hsub : insert (rig.host.lineOf rawStartPixel.1) (Finset.range c.entries.length) ⊆
      (Finset.range controllerLines).filter fun i => rig'.lines i ≠ "" := by
    intro i hi
    rw [Finset.mem_filter, Finset.mem_range, controllerLines]
    rcases Finset.mem_insert.mp hi with rfl | hi
    · exact ⟨by omega, hline ▸ join_ne_empty _ _⟩
    · have hi := Finset.mem_range.mp hi
      refine ⟨by omega, ?_⟩
      rw [hother i (hi.trans hgt).ne]
      exact linesOf_ne_empty_iff.mpr hi
  have hcard := Finset.card_le_card hsub
  rw [Finset.card_insert_of_notMem (by simp [hgt.le]), Finset.card_range, ← hcounted] at hcard
  omega

/-- Without a loss the line fits. -/
theorem line_of_adopts (hlines : rig.lines = linesOf c.entries)
    (h : on Archon.readParseExistingConfig rig = (.ok (), rig')) (ha : Adopts c rig') :
    rig.host.lineOf rawStartPixel.1 = c.entries.length ∧
        rawStartPixel.1 ∉ c.entries.map Prod.fst ∨
      c.entries[rig.host.lineOf rawStartPixel.1]? = some rawStartPixel := by
  obtain ⟨hlt, hline⟩ := lines_lineOf h
  obtain ⟨-, -, hupdate, -⟩ := readParseExistingConfig_eq_ok h
  have hother : ∀ i, i ≠ rig.host.lineOf rawStartPixel.1 → rig'.lines i = linesOf c.entries i := by
    intro i hi
    rw [hupdate, Function.update_of_ne hi, hlines]
  obtain heq | hless := (le_length_of_counted hlines h ha.counted).eq_or_lt
  · refine .inl ⟨heq, fun hmem => ?_⟩
    -- then two lines have the key, and the map has only one of them
    obtain ⟨e, he, hkey⟩ := List.mem_map.mp hmem
    obtain ⟨j, hj⟩ := List.mem_iff_getElem?.mp he
    have hjlt : j < c.entries.length := (List.getElem?_eq_some_iff.mp hj).1
    have hstored : c.entries.length < 2048 := c.length_lt
    have hne : j ≠ rig.host.lineOf rawStartPixel.1 := by omega
    have hold : rig'.lines j = join rawStartPixel.1 e.2 := by
      rw [hother j hne, linesOf_of_getElem? hj, hkey]
    have hfirst := (ha.mapped rawStartPixel.1 j).mpr
      ⟨hjlt.trans c.length_lt, plain_rawStartPixel, e.2, hold⟩
    have hsecond := (ha.mapped rawStartPixel.1 _).mpr
      ⟨by rw [controllerLines]; omega, plain_rawStartPixel, _, hline⟩
    exact hne (Option.some.inj (hfirst.symm.trans hsecond))
  · refine .inr ?_
    have hget := List.getElem?_eq_getElem hless
    obtain ⟨i, -, hi⟩ := ha.kept _ (List.getElem_mem hless)
    have hplain := c.plain _ (List.getElem_mem hless)
    by_cases hiw : i = rig.host.lineOf rawStartPixel.1
    · rw [hiw, hline] at hi
      obtain ⟨hkey, hval⟩ := join_inj plain_rawStartPixel hplain hi
      rw [hget]
      exact congrArg some (Prod.ext hkey.symm hval.symm)
    · rw [hother i hiw, linesOf_eq_join_iff c.plain hplain] at hi
      exact absurd (index_inj c.nodup hi hget rfl) hiw

private theorem exists_fitting (hline : rig.host.lineOf rawStartPixel.1 = c.entries.length ∧
        rawStartPixel.1 ∉ c.entries.map Prod.fst ∨
      c.entries[rig.host.lineOf rawStartPixel.1]? = some rawStartPixel) :
    ∃ es, Fitting c (rig.host.lineOf rawStartPixel.1) es := by
  obtain ⟨heq, hnew⟩ | hsame := hline
  · rw [heq]
    exact ⟨_, fitting_append c hnew⟩
  · exact ⟨_, fitting_same hsame⟩

private theorem adoptable_of_adopts (hlines : rig.lines = linesOf c.entries)
    (h : on Archon.readParseExistingConfig rig = (.ok (), rig')) (ha : Adopts c rig') :
    Adoptable rig.host c := by
  have hline := line_of_adopts hlines h ha
  obtain ⟨es, hfit⟩ := exists_fitting hline
  obtain ⟨-, hcount⟩ := configLines_of_fitting hlines h hfit
  obtain ⟨hagrees, hreadable⟩ := (mapped_iff hlines h hfit).mp ha.mapped
  refine ⟨hline, ?_, hagrees, hreadable⟩
  -- there is room, since the line just written can be written again
  obtain ⟨hlt, hwritten⟩ := lines_lineOf h
  have hmapped := (ha.mapped rawStartPixel.1 _).mpr
    ⟨by rw [controllerLines]; omega, plain_rawStartPixel, _, hwritten⟩
  obtain ⟨rig'', hon, -⟩ := ha.overwrites _ rawStartPixel.2 _ [] hmapped (by decide) rfl
  obtain ⟨hfits, -⟩ := Archon.writeKeyValue_eq_ok hon
  have hroom : rig'.host.configLines < 2047 := hfits.1
  have hlength := hfit.length
  omega

/-- **What can be adopted is**: the handler knows the keys and the lines. -/
private theorem adopts_of_adoptable (hlines : rig.lines = linesOf c.entries)
    (h : on Archon.readParseExistingConfig rig = (.ok (), rig')) (ha : Adoptable rig.host c) :
    Adopts c rig' := by
  -- `es` are the entries together with the one that is written first
  obtain ⟨es, hfit⟩ := exists_fitting ha.line
  obtain ⟨hlines', hcount⟩ := configLines_of_fitting hlines h hfit
  have hlength := hfit.length
  have hstored : c.entries.length < 2048 := c.length_lt
  have hroom := ha.room
  have hmapped := (mapped_iff hlines h hfit).mpr ⟨ha.agrees, ha.readable⟩
  refine ⟨fun e he => ?_, hmapped, ?_, fun key val i faults hi hshort hfault => ?_,
    fun key val faults hnew hshort hfault => ?_⟩
  · obtain ⟨i, hi⟩ := List.mem_iff_getElem?.mp he
    have hilt : i < c.entries.length := (List.getElem?_eq_some_iff.mp hi).1
    refine ⟨i, hilt.trans c.length_lt, ?_⟩
    rw [hlines', linesOf_of_getElem? ((hfit.getElem? i e).mpr (.inl hi))]
  · have hfilter : ((Finset.range controllerLines).filter fun i => rig'.lines i ≠ "") =
        Finset.range es.length := by
      ext i
      rw [Finset.mem_filter, Finset.mem_range, Finset.mem_range, hlines', linesOf_ne_empty_iff,
        controllerLines]
      omega
    rw [hfilter, Finset.card_range, hcount]
  · -- a known key is written over, in its line
    obtain ⟨-, -, val', hval'⟩ := (hmapped key i).mp hi
    have hilt : i < es.length := by
      rw [hlines'] at hval'
      exact linesOf_ne_empty_iff.mp (hval' ▸ join_ne_empty key val')
    have hlineOf : rig'.host.lineOf key = i := by rw [Archon.lineOf, hi, Option.getD_some]
    have hregister : rig'.host.register key = rig'.host := if_pos (AList.mem_of_lookup hi)
    let rig₁ : ArchonRig := { rig' with faults := faults }
    have hlineOf₁ : rig₁.host.lineOf key = i := hlineOf
    have hcount₁ : rig₁.host.configLines = es.length := hcount
    have hfits : rig₁.host.Fits (join key val) := ⟨by omega, hshort⟩
    have hle : rig₁.host.lineOf key ≤ rig₁.host.configLines := by omega
    have hnone : rig₁.nextFault = none := hfault
    have hwrite := Archon.writeKeyValue_of_fits hle hfits
    rw [hnone] at hwrite
    refine ⟨rig₁.written key val, hwrite, hregister, ?_⟩
    rw [← hlineOf₁]
    rfl
  · -- a new key gets the line behind the last one
    have hnone : rig'.host.configlinemap.lookup key = none := AList.lookup_eq_none.mpr hnew
    have hlineOf : rig'.host.lineOf key = rig'.host.configLines := by
      rw [Archon.lineOf, hnone, Option.getD_none]
    let rig₁ : ArchonRig := { rig' with faults := faults }
    have hlineOf₁ : rig₁.host.lineOf key = rig₁.host.configLines := hlineOf
    have hcount₁ : rig₁.host.configLines = es.length := hcount
    have hfits : rig₁.host.Fits (join key val) := ⟨by omega, hshort⟩
    have hfault₁ : rig₁.nextFault = none := hfault
    have hwrite := Archon.writeKeyValue_of_fits hlineOf₁.le hfits
    rw [hfault₁] at hwrite
    refine ⟨rig₁.written key val, hwrite, ?_, ?_, fun i _ => ?_⟩
    · have hlookup := ArchonRig.lookup_register rig'.host key key
      rw [if_pos rfl, hlineOf] at hlookup
      exact hlookup
    · have hline : rig'.host.configLines = rig₁.host.lineOf key := hlineOf₁.symm
      rw [hline]
      rfl
    · rw [hlines', linesOf_ne_empty_iff, hcount]

end Adoption

/-! ### When the configuration is adopted -/

/-- **Adopting a configuration**: a call that succeeds adopts the stored configuration without loss
exactly if what it writes fits to what is stored, and what the handler believed is right. -/
theorem archonAdoption_iff (c : StoredConfig) {rig rig' : ArchonRig}
    (hlines : rig.lines = linesOf c.entries)
    (h : on Archon.readParseExistingConfig rig = (.ok (), rig')) :
    Adopts c rig' ↔ Adoptable rig.host c :=
  ⟨adoptable_of_adopts hlines h, adopts_of_adoptable hlines h⟩

/-- One line is stored. -/
def storedA : StoredConfig where
  entries := [("A", "1")]
  length_lt := by decide
  plain := by decide
  nodup := by decide

/-- A handler that knows no key, with a number of lines in use. -/
def rigA (configLines : ℕ) : ArchonRig where
  host := { Archon.new with configLines := configLines }
  lines := linesOf storedA.entries
  faults := []
  commands := []

/-- A call that succeeds ends with the rig after it. -/
theorem on_eq_ok_of_fst {rig : ArchonRig}
    (h : (on Archon.readParseExistingConfig rig).1 = .ok ()) :
    on Archon.readParseExistingConfig rig =
      (.ok (), (on Archon.readParseExistingConfig rig).2) :=
  Prod.ext h rfl

/-- A handler that counts the stored line adopts it. -/
theorem archonAdoption_counted :
    Adopts storedA (on Archon.readParseExistingConfig (rigA 1)).2 := by
  refine (archonAdoption_iff storedA rfl (on_eq_ok_of_fst (by decide +kernel))).mpr
    ⟨.inl (by decide), by decide, nofun, fun i key val hget => .inl ?_⟩
  have hmem : (key, val) ∈ storedA.entries := List.mem_of_getElem? hget
  obtain ⟨rfl, -⟩ := Prod.mk.inj (List.mem_singleton.mp hmem)
  decide

/-- A new handler overwrites the stored line. -/
theorem not_archonAdoption : ¬ ∀ (c : StoredConfig) (rig rig' : ArchonRig),
    rig.lines = linesOf c.entries → on Archon.readParseExistingConfig rig = (.ok (), rig') →
      Adopts c rig' := by
  intro h
  have hfst : (on Archon.readParseExistingConfig (rigA 0)).1 = .ok () := by decide +kernel
  have hon := on_eq_ok_of_fst hfst
  exact absurd (adoptable_of_adopts rfl hon (h storedA _ _ rfl hon)).line (by decide)

end Foxtrot
