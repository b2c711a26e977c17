import Foxtrot.Archon.Configuration

/-!
# Writing and reading lines

What the functions for keys and values do to a rig: a write is carried out (`written`), it is
refused by the controller (`unwritten`), or it is not tried. A write of a new key takes the next
line before the command, so one that is refused leaves the counter ahead of the map.

That the handler knows which line has which key (`Sound`) survives all of this, and `value` is then
the map from keys to values that the configuration stands for.

A rig is a handler together with the controller and the failures to come. Each function is described
by the rig after it, not by its steps: `written`, `unwritten` and `writtenAll` are rigs, and the
lemmas say which of them a call leads to (`writeKeyValue_cases`). What a later module wants to know
of a call is then a fact about these rigs.
-/

namespace Foxtrot

open Stateful Text

namespace Archon

@[simp]
theorem on_host (rig : ArchonRig) : on host rig = (.ok rig.host, rig) := rfl

@[simp]
theorem on_setHost (f : Archon → Archon) (rig : ArchonRig) :
    on (setHost f) rig = (.ok (), { rig with host := f rig.host }) := rfl

private theorem on_cmd (c : ArchonCommand) (rig : ArchonRig) :
    on (cmd c) rig = match rig.nextFault with
    | none => (.ok (printable (c.reply rig.lines)), rig.accept c)
    | some fault => (.error fault.thrown, rig.refuse c) := rfl

/-- A command that is accepted returns its reply. -/
private theorem cmd_of_accepted {rig : ArchonRig} (h : rig.nextFault = none) (c : ArchonCommand) :
    on (cmd c) rig = (.ok (printable (c.reply rig.lines)), rig.accept c) := by
  rw [on_cmd, h]

/-- A command that fails throws, and leaves the controller as it was. -/
theorem cmd_of_refused {rig : ArchonRig} {fault : CommandFault} (h : rig.nextFault = some fault)
    (c : ArchonCommand) : on (cmd c) rig = (.error fault.thrown, rig.refuse c) := by
  rw [on_cmd, h]

/-- A command that has succeeded has been carried out. -/
theorem cmd_eq_ok {rig rig' : ArchonRig} {c : ArchonCommand} {text : String}
    (h : on (cmd c) rig = (.ok text, rig')) :
    text = printable (c.reply rig.lines) ∧ rig' = rig.accept c := by
  cases hfault : rig.nextFault with
  | none =>
    rw [cmd_of_accepted hfault] at h
    obtain ⟨htext, rfl⟩ := Prod.mk.inj h
    exact ⟨(Except.ok.inj htext).symm, rfl⟩
  | some fault =>
    rw [cmd_of_refused hfault] at h
    cases congrArg Prod.fst h

/-! ### The outcomes of a write -/

/-- The checks of `writeConfigLine`. -/
def Fits (s : Archon) (line : String) : Prop := s.configLines < 2047 ∧ line.length < 2047

instance (s : Archon) (line : String) : Decidable (s.Fits line) :=
  inferInstanceAs (Decidable (_ ∧ _))

/-- The line of a key: a new key gets the next one. -/
def lineOf (s : Archon) (key : String) : ℕ := (s.configlinemap.lookup key).getD s.configLines

/-- The members after a write of a key. -/
def register (s : Archon) (key : String) : Archon :=
  if key ∈ s.configlinemap then s
  else { s with
    configlinemap := s.configlinemap.insert key s.configLines
    configLines := s.configLines + 1 }

/-- The members after a write of a key that the controller has refused. -/
def takeLine (s : Archon) (key : String) : Archon :=
  if key ∈ s.configlinemap then s else { s with configLines := s.configLines + 1 }

end Archon

namespace ArchonRig

/-- The command of a write. -/
def writeCommand (rig : ArchonRig) (key val : String) : ArchonCommand :=
  .wconfig (rig.host.lineOf key) (join key val)

/-- After a write. -/
def written (rig : ArchonRig) (key val : String) : ArchonRig :=
  { rig.accept (rig.writeCommand key val) with host := rig.host.register key }

/-- After a write that the controller has refused. -/
def unwritten (rig : ArchonRig) (key val : String) : ArchonRig :=
  { rig.refuse (rig.writeCommand key val) with host := rig.host.takeLine key }

/-- The handler knows which line has which key. -/
structure Sound (rig : ArchonRig) : Prop where
  lt : ∀ {key n}, rig.host.configlinemap.lookup key = some n → n < rig.host.configLines
  inj : ∀ {key key' n}, rig.host.configlinemap.lookup key = some n →
    rig.host.configlinemap.lookup key' = some n → key = key'
  holds : ∀ {key n}, rig.host.configlinemap.lookup key = some n →
    '=' ∉ key.toList ∧ ∃ val, rig.lines n = join key val

/-- The value of a key. -/
def value (rig : ArchonRig) (key : String) : Option String :=
  (rig.host.configlinemap.lookup key).bind fun n => (splitFirst '=' (rig.lines n)).map Prod.snd

end ArchonRig

namespace Archon

section Write

variable {rig : ArchonRig} {key val : String}

/-- A line that does not fit is refused before it is sent. -/
private theorem writeConfigLine_of_not_fits {line : String} (h : ¬ rig.host.Fits line)
    (num : Option ℕ) :
    ∃ e, on (writeConfigLine line num) rig = (.error e, rig) := by
  rw [Fits, not_and_or, not_lt, not_lt] at h
  rw [writeConfigLine, on_bind_of_ok (on_host rig), on_ite, on_ite]
  by_cases hfull : rig.host.configLines ≥ 2047
  · exact ⟨_, if_pos hfull⟩
  · rw [if_neg hfull, if_pos (h.resolve_left hfull)]
    exact ⟨_, rfl⟩

/-- A line that fits is written once it has its number. -/
theorem writeConfigLine_of_fits {line : String} (h : rig.host.Fits line) {num : Option ℕ} {n : ℕ}
    {rig' : ArchonRig} (hnum : on (lineNumber num) rig = (.ok n, rig')) :
    on (writeConfigLine line num) rig =
      on (cmd (.wconfig n line) >>= fun _ => pure n) rig' := by
  rw [writeConfigLine, on_bind_of_ok (on_host rig), on_ite, on_ite, if_neg (not_le.mpr h.1),
    if_neg (not_le.mpr h.2), on_bind_of_ok hnum]

/-- The number of a line that is there. -/
theorem lineNumber_some {n : ℕ} (h : n ≤ rig.host.configLines) :
    on (lineNumber (some n)) rig = (.ok n, rig) := by
  rw [lineNumber, on_bind_of_ok (on_host rig), on_ite, if_neg (not_lt.mpr h)]
  rfl

/-- A write that does not fit is not tried. -/
theorem writeKeyValue_of_not_fits (h : ¬ rig.host.Fits (join key val)) :
    ∃ e, on (writeKeyValue key val) rig = (.error e, rig) := by
  rw [writeKeyValue, on_bind_of_ok (on_host rig)]
  cases rig.host.configlinemap.lookup key with
  | none =>
    obtain ⟨e, hon⟩ := writeConfigLine_of_not_fits h none
    exact ⟨e, on_bind_of_error hon _⟩
  | some n =>
    obtain ⟨e, hon⟩ := writeConfigLine_of_not_fits h (some n)
    exact ⟨e, on_bind_of_error hon _⟩

private theorem not_mem_of_lookup {s : Archon} (h : s.configlinemap.lookup key = none) :
    key ∉ s.configlinemap :=
  AList.lookup_eq_none.mp h

/-- A write that fits is carried out, unless its command fails. -/
theorem writeKeyValue_of_fits (hle : rig.host.lineOf key ≤ rig.host.configLines)
    (hfits : rig.host.Fits (join key val)) :
    on (writeKeyValue key val) rig =
      match rig.nextFault with
      | none => (.ok (), rig.written key val)
      | some fault => (.error fault.thrown, rig.unwritten key val) := by
  rw [writeKeyValue, on_bind_of_ok (on_host rig)]
  cases hlookup : rig.host.configlinemap.lookup key with
  | none =>
    have hkey := not_mem_of_lookup hlookup
    have hregister : rig.host.register key = { rig.host with
        configlinemap := rig.host.configlinemap.insert key rig.host.configLines
        configLines := rig.host.configLines + 1 } := if_neg hkey
    have htake : rig.host.takeLine key =
        { rig.host with configLines := rig.host.configLines + 1 } := if_neg hkey
    have hlineOf : rig.host.lineOf key = rig.host.configLines := by
      rw [lineOf, hlookup, Option.getD_none]
    let rig₁ : ArchonRig :=
      { rig with host := { rig.host with configLines := rig.host.configLines + 1 } }
    -- the line is counted before it is written, so a refused write leaves it counted
    have hnum : on (lineNumber none) rig = (.ok rig.host.configLines, rig₁) := rfl
    have hline := writeConfigLine_of_fits hfits hnum
    rw [ArchonRig.written, ArchonRig.unwritten, ArchonRig.writeCommand, hregister, htake, hlineOf]
    cases hfault : rig.nextFault with
    | none =>
      have haccept : rig₁.nextFault = none := hfault
      rw [on_bind_of_ok (cmd_of_accepted haccept _), on_pure] at hline
      exact (on_bind_of_ok hline _).trans rfl
    | some fault =>
      have hrefuse : rig₁.nextFault = some fault := hfault
      rw [on_bind_of_error (cmd_of_refused hrefuse _)] at hline
      exact on_bind_of_error hline _
  | some n =>
    have hkey := AList.mem_of_lookup hlookup
    have hregister : rig.host.register key = rig.host := if_pos hkey
    have htake : rig.host.takeLine key = rig.host := if_pos hkey
    have hlineOf : rig.host.lineOf key = n := by rw [lineOf, hlookup, Option.getD_some]
    have hline := writeConfigLine_of_fits hfits (lineNumber_some (hlineOf ▸ hle))
    rw [ArchonRig.written, ArchonRig.unwritten, ArchonRig.writeCommand, hregister, htake, hlineOf]
    cases hfault : rig.nextFault with
    | none =>
      rw [on_bind_of_ok (cmd_of_accepted hfault _), on_pure] at hline
      exact (on_bind_of_ok hline _).trans rfl
    | some fault =>
      rw [on_bind_of_error (cmd_of_refused hfault _)] at hline
      exact on_bind_of_error hline _

/-- A line beyond the counter is not written. -/
theorem writeKeyValue_of_gt (hgt : rig.host.configLines < rig.host.lineOf key)
    (hfits : rig.host.Fits (join key val)) :
    ∃ e, on (writeKeyValue key val) rig = (.error e, rig) := by
  rw [writeKeyValue, on_bind_of_ok (on_host rig)]
  cases hlookup : rig.host.configlinemap.lookup key with
  | none =>
    rw [lineOf, hlookup, Option.getD_none] at hgt
    exact absurd hgt (lt_irrefl _)
  | some n =>
    rw [lineOf, hlookup, Option.getD_some] at hgt
    have hnum : ∃ e, on (lineNumber (some n)) rig = (.error e, rig) := by
      rw [lineNumber, on_bind_of_ok (on_host rig), on_ite, if_pos hgt]
      exact ⟨_, rfl⟩
    obtain ⟨e, hnum⟩ := hnum
    have hline : on (writeConfigLine (join key val) (some n)) rig = (.error e, rig) := by
      rw [writeConfigLine, on_bind_of_ok (on_host rig), on_ite, on_ite,
        if_neg (not_le.mpr hfits.1), if_neg (not_le.mpr hfits.2)]
      exact on_bind_of_error hnum _
    exact ⟨e, on_bind_of_error hline _⟩

/-- A write that has succeeded has been carried out. -/
theorem writeKeyValue_eq_ok {rig' : ArchonRig}
    (h : on (writeKeyValue key val) rig = (.ok (), rig')) :
    rig.host.Fits (join key val) ∧ rig.host.lineOf key ≤ rig.host.configLines ∧
      rig.nextFault = none ∧ rig' = rig.written key val := by
  by_cases hfits : rig.host.Fits (join key val)
  · by_cases hle : rig.host.lineOf key ≤ rig.host.configLines
    · rw [writeKeyValue_of_fits hle hfits] at h
      cases hfault : rig.nextFault with
      | none =>
        rw [hfault] at h
        exact ⟨hfits, hle, rfl, (congrArg Prod.snd h).symm⟩
      | some fault =>
        rw [hfault] at h
        cases congrArg Prod.fst h
    · obtain ⟨e, hon⟩ := writeKeyValue_of_gt (not_le.mp hle) hfits
      rw [hon] at h
      cases congrArg Prod.fst h
  · obtain ⟨e, hon⟩ := writeKeyValue_of_not_fits hfits
    rw [hon] at h
    cases congrArg Prod.fst h

/-- A key is written on a known line, or on the next one. -/
theorem lineOf_le (hsound : rig.Sound) (key : String) :
    rig.host.lineOf key ≤ rig.host.configLines := by
  rw [lineOf]
  cases hlookup : rig.host.configlinemap.lookup key with
  | none => exact le_rfl
  | some n => exact (hsound.lt hlookup).le

/-- A value that fits is written on the line of its key. -/
theorem writeKeyValue_of_accepted (hsound : rig.Sound) (hfits : rig.host.Fits (join key val))
    (haccept : rig.nextFault = none) :
    on (writeKeyValue key val) rig = (.ok (), rig.written key val) := by
  rw [writeKeyValue_of_fits (lineOf_le hsound key) hfits, haccept]

/-- A value whose command fails is not written, but a new line is counted. -/
private theorem writeKeyValue_of_refused (hsound : rig.Sound) (hfits : rig.host.Fits (join key val))
    {fault : CommandFault} (hrefuse : rig.nextFault = some fault) :
    on (writeKeyValue key val) rig = (.error fault.thrown, rig.unwritten key val) := by
  rw [writeKeyValue_of_fits (lineOf_le hsound key) hfits, hrefuse]

/-- **The outcomes of a write.** -/
theorem writeKeyValue_cases (hsound : rig.Sound) (key val : String) :
    (rig.host.Fits (join key val) ∧ rig.nextFault = none ∧
        on (writeKeyValue key val) rig = (.ok (), rig.written key val)) ∨
      (∃ fault, rig.host.Fits (join key val) ∧ rig.nextFault = some fault ∧
        on (writeKeyValue key val) rig = (.error fault.thrown, rig.unwritten key val)) ∨
      ∃ e, ¬ rig.host.Fits (join key val) ∧ on (writeKeyValue key val) rig = (.error e, rig) := by
  by_cases hfits : rig.host.Fits (join key val)
  · cases hfault : rig.nextFault with
    | none => exact .inl ⟨hfits, rfl, writeKeyValue_of_accepted hsound hfits hfault⟩
    | some fault =>
      exact .inr (.inl ⟨fault, hfits, rfl, writeKeyValue_of_refused hsound hfits hfault⟩)
  · obtain ⟨e, hon⟩ := writeKeyValue_of_not_fits hfits
    exact .inr (.inr ⟨e, hfits, hon⟩)

end Write

/-! ### The outcomes of a read -/

section Read

variable {rig : ArchonRig} {key val : String}

/-- A key that is not registered is not read. -/
theorem readKeyValue_of_none (h : rig.host.configlinemap.lookup key = none) :
    on (readKeyValue key) rig =
      (.error (.exception ("the key " ++ key ++ " is not registered with this archon handler")),
        rig) := by
  rw [readKeyValue, on_bind_of_ok (on_host rig), h]
  rfl

/-- The line of a registered key is read. -/
theorem readConfigLine_of_le {n : ℕ} (h : n ≤ rig.host.configLines) (overrideExisting : Bool) :
    on (readConfigLine n overrideExisting) rig = on (cmd (.rconfig n)) rig := by
  rw [readConfigLine, on_bind_of_ok (on_host rig), on_ite, if_neg fun hgt => not_lt.mpr h hgt.1]

private theorem readKeyValue_of_refused {n : ℕ} (hsound : rig.Sound)
    (hlookup : rig.host.configlinemap.lookup key = some n) {fault : CommandFault}
    (hrefuse : rig.nextFault = some fault) :
    on (readKeyValue key) rig = (.error fault.thrown, rig.refuse (.rconfig n)) := by
  have hline := readConfigLine_of_le (hsound.lt hlookup).le false
  rw [cmd_of_refused hrefuse] at hline
  rw [readKeyValue, on_bind_of_ok (on_host rig), hlookup]
  exact on_bind_of_error hline _

/-- A registered key with a printable line is read off the line. -/
theorem readKeyValue_of_accepted {n : ℕ} (hsound : rig.Sound)
    (hlookup : rig.host.configlinemap.lookup key = some n) (haccept : rig.nextFault = none)
    (hline : rig.lines n = join key val) (hprint : Printable (join key val)) :
    on (readKeyValue key) rig = (.ok val, rig.accept (.rconfig n)) := by
  have hread := readConfigLine_of_le (hsound.lt hlookup).le false
  have hreply : printable (ArchonCommand.reply rig.lines (.rconfig n)) = join key val := by
    rw [ArchonCommand.reply, hline, printable_eq_self hprint]
  rw [cmd_of_accepted haccept, hreply] at hread
  rw [readKeyValue, on_bind_of_ok (on_host rig), hlookup]
  refine (on_bind_of_ok hread _).trans ?_
  rw [splitFirst_join (hsound.holds hlookup).1]
  rfl

/-- A read that succeeds has read the value. -/
theorem readKeyValue_eq_ok {rig' : ArchonRig} (hsound : rig.Sound)
    (hprint : ∀ val, rig.value key = some val → Printable (join key val))
    (h : on (readKeyValue key) rig = (.ok val, rig')) :
    rig.value key = some val ∧ rig.nextFault = none ∧ ∃ n, rig' = rig.accept (.rconfig n) := by
  cases hlookup : rig.host.configlinemap.lookup key with
  | none =>
    rw [readKeyValue_of_none hlookup] at h
    cases congrArg Prod.fst h
  | some n =>
    obtain ⟨hkey, val', hline⟩ := hsound.holds hlookup
    have hvalue : rig.value key = some val' := by
      rw [ArchonRig.value, hlookup, Option.bind_some, hline, splitFirst_join hkey]
      rfl
    cases hfault : rig.nextFault with
    | none =>
      rw [readKeyValue_of_accepted hsound hlookup hfault hline (hprint val' hvalue)] at h
      obtain ⟨hval, rfl⟩ := Prod.mk.inj h
      obtain rfl := Except.ok.inj hval
      exact ⟨hvalue, rfl, n, rfl⟩
    | some fault =>
      rw [readKeyValue_of_refused hsound hlookup hfault] at h
      cases congrArg Prod.fst h

/-- A number that has been read is that in the configuration. -/
theorem getCount_eq_ok {rig' : ArchonRig} {n : ℤ} (hsound : rig.Sound)
    (hprint : ∀ val, rig.value key = some val → Printable (join key val))
    (h : on (getCount key) rig = (.ok n, rig')) :
    (∃ text, rig.value key = some text ∧ stoi text = .ok n) ∧ rig.nextFault = none ∧
      ∃ num, rig' = rig.accept (.rconfig num) := by
  obtain ⟨text, rig₁, hread, h⟩ := on_bind_eq_ok_iff.mp h
  obtain ⟨hvalue, hfault, num, rfl⟩ := readKeyValue_eq_ok hsound hprint hread
  cases hstoi : stoi text with
  | error e =>
    rw [hstoi] at h
    cases congrArg Prod.fst h
  | ok m =>
    rw [hstoi] at h
    obtain ⟨hm, rfl⟩ := Prod.mk.inj h
    obtain rfl : m = n := Except.ok.inj hm
    exact ⟨⟨text, hvalue, hstoi⟩, hfault, num, rfl⟩

variable {P : ArchonRig → Prop}

theorem maintains_host (P : ArchonRig → Prop) : Maintains P host := fun _ h => h

/-- A command maintains what it does when it is accepted, and when it fails. -/
private theorem maintains_cmd {c : ArchonCommand} (haccept : ∀ rig, P rig → P (rig.accept c))
    (hrefuse : ∀ rig, P rig → P (rig.refuse c)) : Maintains P (cmd c) := by
  intro rig h
  cases hfault : rig.nextFault with
  | none =>
    rw [cmd_of_accepted hfault]
    exact haccept rig h
  | some fault =>
    rw [cmd_of_refused hfault]
    exact hrefuse rig h

/-- To read a line maintains what the command does. -/
private theorem maintains_readConfigLine (haccept : ∀ rig n, P rig → P (rig.accept (.rconfig n)))
    (hrefuse : ∀ rig n, P rig → P (rig.refuse (.rconfig n))) (n : ℕ) (overrideExisting : Bool) :
    Maintains P (readConfigLine n overrideExisting) :=
  (maintains_host P).bind fun _ => Maintains.ite (fun _ => Maintains.throw _) fun _ =>
    maintains_cmd (fun rig h => haccept rig n h) (fun rig h => hrefuse rig n h)

/-- A read keeps what the commands that read keep. -/
theorem maintains_readKeyValue (haccept : ∀ rig n, P rig → P (rig.accept (.rconfig n)))
    (hrefuse : ∀ rig n, P rig → P (rig.refuse (.rconfig n))) (key : String) :
    Maintains P (readKeyValue key) := by
  refine (maintains_host P).bind fun s => ?_
  cases s.configlinemap.lookup key with
  | none => exact Maintains.throw _
  | some n =>
    refine (maintains_readConfigLine haccept hrefuse n false).bind fun line => ?_
    cases splitFirst '=' line with
    | none => exact Maintains.throw _
    | some kv => exact Maintains.pure _

/-- To read a counter maintains what the command does. -/
theorem maintains_getCount (haccept : ∀ rig n, P rig → P (rig.accept (.rconfig n)))
    (hrefuse : ∀ rig n, P rig → P (rig.refuse (.rconfig n))) (key : String) :
    Maintains P (getCount key) := by
  refine (maintains_readKeyValue haccept hrefuse key).bind fun val => ?_
  cases stoi val with
  | error e => exact Maintains.throw _
  | ok n => exact Maintains.pure _

/-- To read a parameter maintains what the command does. -/
theorem maintains_getParam (haccept : ∀ rig n, P rig → P (rig.accept (.rconfig n)))
    (hrefuse : ∀ rig n, P rig → P (rig.refuse (.rconfig n))) (name : String) :
    Maintains P (getParam name) := by
  refine (maintains_host P).bind fun s => ?_
  cases s.parammap.lookup name with
  | none => exact Maintains.throw _
  | some confnum =>
    refine (maintains_readKeyValue haccept hrefuse _).bind fun paramline => ?_
    cases paramValue paramline with
    | error e => exact Maintains.throw _
    | ok val => exact Maintains.pure _

end Read

end Archon

/-! ### Keys and values after a step -/

namespace ArchonRig

variable {rig rig' : ArchonRig} {key key' val : String}

/-- Soundness is a matter of the keys, the count and the lines. -/
theorem Sound.of_eq (h : rig.Sound)
    (hmap : rig'.host.configlinemap = rig.host.configlinemap)
    (hcount : rig'.host.configLines = rig.host.configLines) (hlines : rig'.lines = rig.lines) :
    rig'.Sound := by
  refine ⟨fun {k n} hk => ?_, fun {k k' n} hk hk' => ?_, fun {k n} hk => ?_⟩
  · rw [hmap] at hk
    exact hcount ▸ h.lt hk
  · rw [hmap] at hk hk'
    exact h.inj hk hk'
  · rw [hmap] at hk
    exact hlines ▸ h.holds hk

/-- What is under the keys is a matter of the keys and the lines. -/
theorem value_of_eq (hmap : rig'.host.configlinemap = rig.host.configlinemap)
    (hlines : rig'.lines = rig.lines) : rig'.value = rig.value := by
  funext key
  rw [value, value, hmap, hlines]

/-- Reading does not change what the configuration stands for. -/
theorem Sound.accept_rconfig (h : rig.Sound) (n : ℕ) : (rig.accept (.rconfig n)).Sound :=
  h.of_eq rfl rfl rfl

/-- A command that fails keeps the configuration sound. -/
theorem Sound.refuse (h : rig.Sound) (c : ArchonCommand) : (rig.refuse c).Sound :=
  h.of_eq rfl rfl rfl

/-- A value is under a key exactly if its line has both. -/
theorem Sound.value_eq_some_iff (h : rig.Sound) : rig.value key = some val ↔
    ∃ n, rig.host.configlinemap.lookup key = some n ∧ rig.lines n = join key val := by
  constructor
  · intro hvalue
    obtain ⟨n, hn, hsplit⟩ := Option.bind_eq_some_iff.mp hvalue
    obtain ⟨hkey, val', hline⟩ := h.holds hn
    rw [hline, splitFirst_join hkey] at hsplit
    obtain rfl : val' = val := Option.some.inj hsplit
    exact ⟨n, hn, hline⟩
  · rintro ⟨n, hn, hline⟩
    rw [value, hn, Option.bind_some, hline, splitFirst_join (h.holds hn).1]
    rfl

/-- Nothing is under a key exactly if it has no line. -/
theorem Sound.value_eq_none_iff (h : rig.Sound) :
    rig.value key = none ↔ rig.host.configlinemap.lookup key = none := by
  cases hlookup : rig.host.configlinemap.lookup key with
  | none => simp [value, hlookup]
  | some n =>
    obtain ⟨-, val, hline⟩ := h.holds hlookup
    simp [h.value_eq_some_iff.mpr ⟨n, hlookup, hline⟩]

/-! ### After a write

`configlinemap` gets the key with its line, the controller gets the text on that line, and every
other key and line stays. After a refused write of a new key only the counter is ahead. -/

/-- A key is registered with its line, and the others keep theirs. -/
theorem lookup_register (s : Archon) (key key' : String) :
    (s.register key).configlinemap.lookup key' =
      if key' = key then some (s.lineOf key) else s.configlinemap.lookup key' := by
  rw [Archon.register, Archon.lineOf]
  by_cases hkey : key ∈ s.configlinemap
  · obtain ⟨n, hn⟩ := AList.mem_iff_exists_lookup.mp hkey
    rw [if_pos hkey]
    split_ifs with h
    · rw [h, hn, Option.getD_some]
    · rfl
  · rw [if_neg hkey, AList.lookup_insert_ite, AList.lookup_eq_none.mpr hkey, Option.getD_none]

/-- The line of a key is counted when it has been registered. -/
theorem lineOf_lt (hsound : rig.Sound) (key : String) :
    rig.host.lineOf key < (rig.host.register key).configLines := by
  rw [Archon.lineOf, Archon.register]
  by_cases hkey : key ∈ rig.host.configlinemap
  · obtain ⟨n, hn⟩ := AList.mem_iff_exists_lookup.mp hkey
    rw [if_pos hkey, hn, Option.getD_some]
    exact hsound.lt hn
  · rw [if_neg hkey, AList.lookup_eq_none.mpr hkey, Option.getD_none]
    exact Nat.lt_succ_self _

private theorem configLines_le_register (s : Archon) (key : String) :
    s.configLines ≤ (s.register key).configLines := by
  rw [Archon.register]
  split_ifs
  · exact le_rfl
  · exact Nat.le_succ _

/-- The line of a key is not the line of another. -/
theorem lineOf_ne (hsound : rig.Sound) (hne : key' ≠ key) {n : ℕ}
    (hn : rig.host.configlinemap.lookup key' = some n) : n ≠ rig.host.lineOf key := by
  rintro rfl
  rw [Archon.lineOf] at hn
  cases hlookup : rig.host.configlinemap.lookup key with
  | none =>
    rw [hlookup, Option.getD_none] at hn
    exact lt_irrefl _ (hsound.lt hn)
  | some m =>
    rw [hlookup, Option.getD_some] at hn
    exact hne (hsound.inj hn hlookup)

/-- A write keeps the handler's knowledge of the lines. -/
theorem Sound.written (h : rig.Sound) (hkey : '=' ∉ key.toList) (val : String) :
    (rig.written key val).Sound := by
  have hmap : ∀ k, (rig.written key val).host.configlinemap.lookup k =
      if k = key then some (rig.host.lineOf key) else rig.host.configlinemap.lookup k :=
    lookup_register rig.host key
  have hlines : (rig.written key val).lines =
      Function.update rig.lines (rig.host.lineOf key) (join key val) := rfl
  refine ⟨fun {k n} hk => ?_, fun {k k' n} hk hk' => ?_, fun {k n} hk => ?_⟩
  · rw [hmap] at hk
    split_ifs at hk with heq
    · obtain rfl := Option.some.inj hk
      exact lineOf_lt h key
    · exact lt_of_lt_of_le (h.lt hk) (configLines_le_register rig.host key)
  · rw [hmap] at hk hk'
    split_ifs at hk hk' with heq heq' heq'
    · rw [heq, heq']
    · exact absurd (Option.some.inj hk).symm (lineOf_ne h heq' hk')
    · exact absurd (Option.some.inj hk').symm (lineOf_ne h heq hk)
    · exact h.inj hk hk'
  · rw [hmap] at hk
    rw [hlines]
    split_ifs at hk with heq
    · obtain rfl := Option.some.inj hk
      rw [heq, Function.update_self]
      exact ⟨hkey, val, rfl⟩
    · rw [Function.update_of_ne (lineOf_ne h heq hk)]
      exact h.holds hk

/-- **A write changes the value of its key.** -/
theorem Sound.value_written (h : rig.Sound) (hkey : '=' ∉ key.toList) (val : String) :
    (rig.written key val).value = Function.update rig.value key (some val) := by
  funext k
  have hmap : (rig.written key val).host.configlinemap.lookup k =
      if k = key then some (rig.host.lineOf key) else rig.host.configlinemap.lookup k :=
    lookup_register rig.host key k
  have hlines : (rig.written key val).lines =
      Function.update rig.lines (rig.host.lineOf key) (join key val) := rfl
  by_cases heq : k = key
  · subst heq
    rw [Function.update_self, (h.written hkey val).value_eq_some_iff]
    rw [if_pos rfl] at hmap
    exact ⟨_, hmap, by rw [hlines, Function.update_self]⟩
  · rw [if_neg heq] at hmap
    rw [Function.update_of_ne heq, value, value, hmap, hlines]
    cases hn : rig.host.configlinemap.lookup k with
    | none => rfl
    | some n => rw [Option.bind_some, Option.bind_some, Function.update_of_ne (lineOf_ne h heq hn)]

/-- A write that fails registers no key. -/
theorem unwritten_configlinemap (rig : ArchonRig) (key val : String) :
    (rig.unwritten key val).host.configlinemap = rig.host.configlinemap := by
  have hhost : (rig.unwritten key val).host = rig.host.takeLine key := rfl
  rw [hhost, Archon.takeLine]
  split_ifs <;> rfl

private theorem configLines_le_unwritten (rig : ArchonRig) (key val : String) :
    rig.host.configLines ≤ (rig.unwritten key val).host.configLines := by
  have hhost : (rig.unwritten key val).host = rig.host.takeLine key := rfl
  rw [hhost, Archon.takeLine]
  split_ifs
  · exact le_rfl
  · exact Nat.le_succ _

/-- A write that is refused keeps the handler's knowledge of the lines, and the values. -/
theorem Sound.unwritten (h : rig.Sound) (key val : String) : (rig.unwritten key val).Sound := by
  have hmap := unwritten_configlinemap rig key val
  refine ⟨fun {k n} hk => ?_, fun {k k' n} hk hk' => ?_, fun {k n} hk => ?_⟩
  · rw [hmap] at hk
    exact lt_of_lt_of_le (h.lt hk) (configLines_le_unwritten rig key val)
  · rw [hmap] at hk hk'
    exact h.inj hk hk'
  · rw [hmap] at hk
    exact h.holds hk

/-- A write that fails changes no value. -/
theorem value_unwritten (rig : ArchonRig) (key val : String) :
    (rig.unwritten key val).value = rig.value :=
  value_of_eq (unwritten_configlinemap rig key val) rfl

end ArchonRig

namespace Archon

/-! ### The other members -/

/-- The members that do not number the lines are the same. -/
structure SameLists (s s' : Archon) : Prop where
  statenames : s'.statenames = s.statenames
  parammap : s'.parammap = s.parammap
  constantmap : s'.constantmap = s.constantmap
  adTaplinemap : s'.adTaplinemap = s.adTaplinemap
  taplines : s'.taplines = s.taplines

theorem SameLists.refl (s : Archon) : s.SameLists s := ⟨rfl, rfl, rfl, rfl, rfl⟩

/-- The lists stay through several steps. -/
theorem SameLists.trans {s s' s'' : Archon} (h : s.SameLists s') (h' : s'.SameLists s'') :
    s.SameLists s'' :=
  ⟨h'.statenames.trans h.statenames, h'.parammap.trans h.parammap,
    h'.constantmap.trans h.constantmap, h'.adTaplinemap.trans h.adTaplinemap,
    h'.taplines.trans h.taplines⟩

/-- A registration changes no list. -/
theorem sameLists_register (s : Archon) (key : String) : s.SameLists (s.register key) := by
  rw [register]
  split_ifs
  · exact SameLists.refl s
  · exact ⟨rfl, rfl, rfl, rfl, rfl⟩

/-- To take a line changes no list. -/
theorem sameLists_takeLine (s : Archon) (key : String) : s.SameLists (s.takeLine key) := by
  rw [takeLine]
  split_ifs
  · exact SameLists.refl s
  · exact ⟨rfl, rfl, rfl, rfl, rfl⟩

/-! ### One write after another

`clear_config` and the lists of the controller write several entries. If their keys differ and none
is lost, each key has its own value in the end; if a write fails, those before it have been done. -/

/-- One write after another. -/
def writeAll (kvs : List (String × String)) : ArchonM Unit :=
  forM kvs fun kv => writeKeyValue kv.1 kv.2

/-- The writes pass the checks and their commands do not fail. -/
def CanWrite (s : Archon) : List (String × String) → List (Option CommandFault) → Prop
  | [], _ => True
  | kv :: kvs, faults => s.Fits (join kv.1 kv.2) ∧ faults.head?.join = none ∧
    (s.register kv.1).CanWrite kvs faults.tail

instance decidableCanWrite : ∀ (s : Archon) (kvs : List (String × String))
    (faults : List (Option CommandFault)), Decidable (s.CanWrite kvs faults)
  | _, [], _ => inferInstanceAs (Decidable True)
  | s, kv :: kvs, faults =>
    have := decidableCanWrite (s.register kv.1) kvs faults.tail
    inferInstanceAs (Decidable (_ ∧ _ ∧ _))

/-- Where all entries can be written, the first ones can. -/
theorem canWrite_of_prefix {s : Archon} {kvs kvs' : List (String × String)}
    {faults : List (Option CommandFault)} (hpre : kvs' <+: kvs) (h : s.CanWrite kvs faults) :
    s.CanWrite kvs' faults := by
  obtain ⟨rest, rfl⟩ := hpre
  induction kvs' generalizing s faults with
  | nil => trivial
  | cons kv kvs' ih => exact ⟨h.1, h.2.1, ih h.2.2⟩

/-- Only the map and the counter of the lines matter. -/
theorem canWrite_congr {s s' : Archon} (hmap : s'.configlinemap = s.configlinemap)
    (hcount : s'.configLines = s.configLines) {kvs : List (String × String)}
    {faults : List (Option CommandFault)} (h : s.CanWrite kvs faults) : s'.CanWrite kvs faults := by
  induction kvs generalizing s s' faults with
  | nil => trivial
  | cons kv kvs ih =>
    have hregister : (s'.register kv.1).configlinemap = (s.register kv.1).configlinemap ∧
        (s'.register kv.1).configLines = (s.register kv.1).configLines := by
      rw [register, register, hmap, hcount]
      split_ifs
      · exact ⟨hmap, hcount⟩
      · exact ⟨rfl, rfl⟩
    exact ⟨⟨hcount ▸ h.1.1, h.1.2⟩, h.2.1, ih hregister.1 hregister.2 h.2.2⟩

/-- Short lines can be written while there is room for all of them to be new. -/
theorem canWrite_of_room {s : Archon} {kvs : List (String × String)}
    {faults : List (Option CommandFault)} (hroom : s.configLines + kvs.length ≤ 2047)
    (hshort : ∀ kv ∈ kvs, (join kv.1 kv.2).length < 2047)
    (hfaults : ∀ fault ∈ faults.take kvs.length, fault = none) : s.CanWrite kvs faults := by
  induction kvs generalizing s faults with
  | nil => trivial
  | cons kv kvs ih =>
    rw [List.length_cons] at hroom hfaults
    rw [List.forall_mem_cons] at hshort
    have hcount : (s.register kv.1).configLines ≤ s.configLines + 1 := by
      rw [register]
      split_ifs
      · exact Nat.le_succ _
      · exact le_rfl
    have hhead : faults.head?.join = none := by
      cases faults with
      | nil => rfl
      | cons fault faults => exact hfaults fault List.mem_cons_self
    refine ⟨⟨by omega, hshort.1⟩, hhead, ih (by omega) hshort.2 fun fault hfault => ?_⟩
    cases faults with
    | nil => simp at hfault
    | cons fault' faults => exact hfaults fault (List.mem_cons_of_mem fault' hfault)

end Archon

namespace ArchonRig

/-- After one write after another. -/
def writtenAll (rig : ArchonRig) (kvs : List (String × String)) : ArchonRig :=
  kvs.foldl (fun rig kv => rig.written kv.1 kv.2) rig

private theorem writtenAll_cons (rig : ArchonRig) (kv : String × String)
    (kvs : List (String × String)) :
    rig.writtenAll (kv :: kvs) = (rig.written kv.1 kv.2).writtenAll kvs := rfl

/-- What each write that is carried out keeps is kept by one after another. -/
theorem writtenAll_induction {P : ArchonRig → Prop} {kvs : List (String × String)}
    {rig : ArchonRig} (h : P rig) (hcan : rig.host.CanWrite kvs rig.faults)
    (hstep : ∀ (rig : ArchonRig), ∀ kv ∈ kvs, P rig → rig.host.Fits (join kv.1 kv.2) →
      rig.nextFault = none → P (rig.written kv.1 kv.2)) : P (rig.writtenAll kvs) := by
  induction kvs generalizing rig with
  | nil => exact h
  | cons kv kvs ih =>
    rw [writtenAll_cons]
    exact ih (hstep rig kv List.mem_cons_self h hcan.1 hcan.2.1) hcan.2.2
      fun rig kv' hkv' => hstep rig kv' (List.mem_cons_of_mem kv hkv')

/-- Entries with keys without `=` keep the configuration sound. -/
theorem Sound.writtenAll {rig : ArchonRig} (h : rig.Sound) {kvs : List (String × String)}
    (hkeys : ∀ kv ∈ kvs, '=' ∉ kv.1.toList) : (rig.writtenAll kvs).Sound := by
  induction kvs generalizing rig with
  | nil => exact h
  | cons kv kvs ih =>
    rw [List.forall_mem_cons] at hkeys
    exact ih (h.written hkeys.1 kv.2) hkeys.2

/-- To write entries changes no list. -/
theorem sameLists_writtenAll (rig : ArchonRig) (kvs : List (String × String)) :
    rig.host.SameLists (rig.writtenAll kvs).host := by
  induction kvs generalizing rig with
  | nil => exact Archon.SameLists.refl rig.host
  | cons kv kvs ih =>
    exact (Archon.sameLists_register rig.host kv.1).trans (ih (rig.written kv.1 kv.2))

/-- Keys that are not written keep their values. -/
theorem Sound.value_writtenAll_of_not_mem {rig : ArchonRig} (h : rig.Sound)
    {kvs : List (String × String)} (hkeys : ∀ kv ∈ kvs, '=' ∉ kv.1.toList) {key : String}
    (hkey : key ∉ kvs.map Prod.fst) : (rig.writtenAll kvs).value key = rig.value key := by
  induction kvs generalizing rig with
  | nil => rfl
  | cons kv kvs ih =>
    rw [List.forall_mem_cons] at hkeys
    rw [List.map_cons, List.mem_cons, not_or] at hkey
    rw [writtenAll_cons, ih (h.written hkeys.1 kv.2) hkeys.2 hkey.2,
      h.value_written hkeys.1, Function.update_of_ne hkey.1]

/-- A key that is written once has its value then. -/
theorem Sound.value_writtenAll {rig : ArchonRig} (h : rig.Sound) {kvs : List (String × String)}
    (hkeys : ∀ kv ∈ kvs, '=' ∉ kv.1.toList) (hnodup : (kvs.map Prod.fst).Nodup)
    {key val : String} (hmem : (key, val) ∈ kvs) : (rig.writtenAll kvs).value key = some val := by
  induction kvs generalizing rig with
  | nil => cases hmem
  | cons kv kvs ih =>
    rw [List.forall_mem_cons] at hkeys
    rw [List.map_cons, List.nodup_cons] at hnodup
    have hsound := h.written hkeys.1 kv.2
    rw [writtenAll_cons]
    rcases List.mem_cons.mp hmem with rfl | hrest
    · rw [hsound.value_writtenAll_of_not_mem hkeys.2 hnodup.1, h.value_written hkeys.1,
        Function.update_self]
    · exact ih hsound hkeys.2 hnodup.2 hrest

end ArchonRig

namespace Archon

/-- Entries are written from the first one. -/
theorem writeAll_cons (kv : String × String) (kvs : List (String × String)) :
    writeAll (kv :: kvs) = writeKeyValue kv.1 kv.2 >>= fun _ => writeAll kvs :=
  List.forM_cons ..

/-- **Writes that can be done are done.** -/
theorem writeAll_of_canWrite {rig : ArchonRig} (h : rig.Sound) {kvs : List (String × String)}
    (hkeys : ∀ kv ∈ kvs, '=' ∉ kv.1.toList) (hcan : rig.host.CanWrite kvs rig.faults) :
    on (writeAll kvs) rig = (.ok (), rig.writtenAll kvs) := by
  induction kvs generalizing rig with
  | nil => rfl
  | cons kv kvs ih =>
    rw [List.forall_mem_cons] at hkeys
    rw [writeAll_cons, on_bind_of_ok (writeKeyValue_of_accepted h hcan.1 hcan.2.1)]
    exact ih (h.written hkeys.1 kv.2) hkeys.2 hcan.2.2

/-- Writes that are done could be done. -/
theorem canWrite_of_writeAll {rig rig' : ArchonRig} (h : rig.Sound) {kvs : List (String × String)}
    (hkeys : ∀ kv ∈ kvs, '=' ∉ kv.1.toList) (hon : on (writeAll kvs) rig = (.ok (), rig')) :
    rig.host.CanWrite kvs rig.faults := by
  induction kvs generalizing rig with
  | nil => trivial
  | cons kv kvs ih =>
    rw [List.forall_mem_cons] at hkeys
    rw [writeAll_cons] at hon
    obtain ⟨_, rig₁, hfirst, hrest⟩ := on_bind_eq_ok_iff.mp hon
    obtain ⟨hfits, hfault, hwrite⟩ | ⟨fault, -, -, hwrite⟩ | ⟨e, -, hwrite⟩ :=
      writeKeyValue_cases h kv.1 kv.2
    · rw [hwrite] at hfirst
      obtain rfl : rig.written kv.1 kv.2 = rig₁ := congrArg Prod.snd hfirst
      exact ⟨hfits, hfault, ih (h.written hkeys.1 kv.2) hkeys.2 hrest⟩
    · rw [hwrite] at hfirst
      cases congrArg Prod.fst hfirst
    · rw [hwrite] at hfirst
      cases congrArg Prod.fst hfirst

/-- Entries are written in two parts. -/
theorem writeAll_append (kvs kvs' : List (String × String)) :
    writeAll (kvs ++ kvs') = writeAll kvs >>= fun _ => writeAll kvs' := by
  induction kvs with
  | nil => exact (pure_bind _ _).symm
  | cons kv kvs ih =>
    rw [List.cons_append, writeAll_cons, writeAll_cons, ih, bind_assoc]

/-- A single entry. -/
theorem writeAll_singleton (kv : String × String) : writeAll [kv] = writeKeyValue kv.1 kv.2 := by
  rw [writeAll_cons]
  exact bind_pure_unit

/-- Two entries, one after the other. -/
theorem writeAll_pair (kv kv' : String × String) :
    writeAll [kv, kv'] = writeKeyValue kv.1 kv.2 >>= fun _ => writeKeyValue kv'.1 kv'.2 := by
  rw [writeAll_cons, writeAll_singleton]

/-- What `clear_config` writes. -/
def clearedEntries : List (String × String) :=
  [("LINES", "0"), ("STATES", "0"), ("PARAMETERS", "0"), ("CONSTANTS", "0"), ("TAPLINES", "0")]

/-- `clear_config` sends the command, forgets what it knows, and writes the entries that it begins
with. -/
theorem clearConfig_eq : clearConfig =
    cmd .clearconfig >>= fun _ => setHost (fun _ => new) >>= fun _ => writeAll clearedEntries := by
  rw [clearedEntries, writeAll_cons, writeAll_cons, writeAll_cons, writeAll_cons,
    writeAll_singleton]
  rfl

/-- The entries in the beginning are printable, with keys without `=`. -/
theorem plain_clearedEntries : ∀ kv ∈ clearedEntries,
    (Printable kv.1 ∧ '=' ∉ kv.1.toList) ∧ Printable kv.2 := by
  decide

/-- A rig whose controller has just been cleared. -/
def cleared (rig : ArchonRig) : ArchonRig := { rig.accept .clearconfig with host := new }

/-- A cleared configuration is sound. -/
theorem sound_cleared (rig : ArchonRig) : (cleared rig).Sound := ⟨nofun, nofun, nofun⟩

/-- Nothing is in a cleared configuration. -/
theorem value_cleared (rig : ArchonRig) (key : String) : (cleared rig).value key = none := rfl

/-- A controller that has been cleared has room for the first entries. -/
theorem canWrite_clearedEntries {rig : ArchonRig}
    (h : ∀ fault ∈ rig.faults.take 6, fault = none) :
    (cleared rig).host.CanWrite clearedEntries (cleared rig).faults := by
  have hroom : (cleared rig).host.configLines + clearedEntries.length ≤ 2047 := by
    have hcount : (cleared rig).host.configLines = 0 := rfl
    rw [hcount]
    decide
  refine canWrite_of_room hroom (by decide) fun fault hfault => h fault ?_
  have hfaults : (cleared rig).faults = rig.faults.tail := rfl
  rw [hfaults] at hfault
  cases hrig : rig.faults with
  | nil => simp [hrig] at hfault
  | cons fault' faults =>
    rw [hrig] at hfault
    exact List.mem_cons_of_mem fault' hfault

/-- To clear the configuration without a failure is to write the first entries. -/
theorem clearConfig_of_accepted {rig : ArchonRig}
    (h : ∀ fault ∈ rig.faults.take 6, fault = none) :
    on clearConfig rig = (.ok (), (cleared rig).writtenAll clearedEntries) := by
  have hfault : rig.nextFault = none := by
    rw [ArchonRig.nextFault]
    cases hrig : rig.faults with
    | nil => rfl
    | cons fault faults =>
      rw [hrig] at h
      exact h fault List.mem_cons_self
  have hkeys : ∀ kv ∈ clearedEntries, '=' ∉ kv.1.toList :=
    fun kv hkv => (plain_clearedEntries kv hkv).1.2
  rw [clearConfig_eq, on_bind_of_ok (cmd_of_accepted hfault _), on_bind_of_ok (on_setHost _ _)]
  exact writeAll_of_canWrite (sound_cleared rig) hkeys (canWrite_clearedEntries h)

end Archon

end Foxtrot
