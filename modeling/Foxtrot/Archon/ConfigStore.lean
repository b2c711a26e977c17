import Foxtrot.Archon.Lines
import Foxtrot.Foundation.Trace

/-!
# The configuration as a store

To its callers the configuration is a store: `readKeyValue` returns what has been written last, and
`getParam` what has been set last (`StoreConforms`). That holds along every run in which nothing
comes between taking a line for a new key and writing it, in which nothing is overwritten while all
lines are in use, and in which the entries of the parameters are left to `setParam` (`Undisturbed`).

Otherwise the counter of the lines gets ahead of the map, or two parameters get the same entry.

The invariant has two parts. The first (`ArchonRig.InStep`) is about single keys: the handler's map
and the lines of the controller are in step, and what is under a key is what the commands have
written for it last. The second (`ParamsKept`) is about parameters, each of which has an entry of
its own under a number, with its name in the text: the numbers are given in the order in which the
names came, so a new name gets one that no other has.

A call is one of writing, reading, setting or getting a parameter, and clearing; for each there is a
lemma that it keeps both parts, whether its commands succeed or not. The replies are then read off
the invariant in the state before the call.
-/

namespace Foxtrot

open Stateful Text

/-! ### Runs -/

/-- A printable text without `=`. -/
abbrev ConfigName := { text : String // Printable text ∧ '=' ∉ text.toList }

/-- A printable text. -/
abbrev ConfigText := { text : String // Printable text }

/-- A call. -/
inductive StoreCall where
  | writeKeyValue (key : ConfigName) (val : ConfigText)
  | readKeyValue (key : ConfigName)
  | setParam (name : ConfigName) (val : UInt32)
  | getParam (name : ConfigName)
  | clearConfig

/-- What a call returns. -/
inductive StoreReply where
  | done
  | text (val : String)
  | number (val : UInt32)
  deriving DecidableEq

/-- A call, and how its commands fail. -/
structure StoreLabel where
  call : StoreCall
  faults : List (Option CommandFault)

/-- A rig along a run. The values of the parameters are those of the last `setParam` of each name
that has succeeded since the configuration was cleared. -/
structure StoreRun where
  rig : ArchonRig
  params : AList fun _ : String => UInt32
  reply : Except Thrown StoreReply

/-- The function that is called. -/
def StoreCall.perform : StoreCall → ArchonM StoreReply
  | writeKeyValue key val => Archon.writeKeyValue key.1 val.1 >>= fun _ => pure .done
  | readKeyValue key => Archon.readKeyValue key.1 >>= fun val => pure (.text val)
  | setParam name val => Archon.setParam name.1 val >>= fun _ => pure .done
  | getParam name => Archon.getParam name.1 >>= fun val => pure (.number val)
  | clearConfig => Archon.clearConfig >>= fun _ => pure .done

/-- The values of the parameters after a call with this reply. -/
def StoreRun.nextParams (s : StoreRun) (l : StoreLabel) (reply : Except Thrown StoreReply) :
    AList fun _ : String => UInt32 :=
  match l.call, reply with
  | .setParam name val, .ok _ => s.params.insert name.1 val
  | .clearConfig, _ => if l.faults.head?.join = none then ∅ else s.params
  | _, _ => s.params

/-- The runs of a new handler. -/
def storeSystem (lines : ℕ → String) : TransitionSystem StoreRun StoreLabel where
  init := ⟨⟨Archon.new, lines, [], []⟩, ∅, .ok .done⟩
  step s l :=
    let result := on l.call.perform { s.rig with faults := l.faults }
    some ⟨result.2, s.nextParams l result.1, result.1⟩

/-- A move of a run. -/
abbrev StoreMove := TransitionSystem.Move StoreRun StoreLabel

/-! ### The store

The store is defined from the commands that were sent to the controller and accepted, so it does not
mention the handler. -/

/-- The value that the commands, the latest first, have written last for a key since the
configuration was cleared. -/
def lastWrite (key : String) : List (ArchonCommand × Bool) → Option String
  | [] => none
  | (.clearconfig, true) :: _ => none
  | (.wconfig _ line, true) :: commands =>
    match splitFirst '=' line with
    | some (key', val) => if key = key' then some val else lastWrite key commands
    | none => lastWrite key commands
  | _ :: commands => lastWrite key commands

/-- **The configuration is a store**, by a move. -/
structure StoreConforms (move : StoreMove) : Prop where
  injective : ∀ key key' n, move.after.rig.host.configlinemap.lookup key = some n →
    move.after.rig.host.configlinemap.lookup key' = some n → key = key'
  image : ∀ n, (∃ key, move.after.rig.host.configlinemap.lookup key = some n) ↔
    n < move.after.rig.host.configLines
  /-- Without a failure of its command, `readKeyValue` returns what has been written last. -/
  reads : ∀ (key : ConfigName) (faults : List (Option CommandFault)), faults.head?.join = none →
    ∃ e, (on (Archon.readKeyValue key.1) { move.after.rig with faults := faults }).1 =
      (lastWrite key.1 move.after.rig.commands).elim (.error e) .ok
  /-- Without a failure of its command, `getParam` returns what has been set last. -/
  params : ∀ name val (faults : List (Option CommandFault)),
    move.after.params.lookup name = some val → faults.head?.join = none →
      (on (Archon.getParam name) { move.after.rig with faults := faults }).1 = .ok val
  /-- A `writeKeyValue` that returns has written. -/
  written : ∀ key val, move.label.call = .writeKeyValue key val → move.after.reply = .ok .done →
    lastWrite key.1 move.after.rig.commands = some val.1
  /-- A `writeKeyValue` whose command fails leaves the handler as it was. -/
  failed : ∀ key val fault, move.label.call = .writeKeyValue key val →
    move.label.faults.head?.join = some fault → move.after.rig.host = move.before.rig.host
  /-- A short line is written over an existing one, also if all lines are in use. -/
  overwrites : ∀ key val, move.label.call = .writeKeyValue key val →
    key.1 ∈ move.before.rig.host.configlinemap → (join key.1 val.1).length < 2047 →
      move.label.faults.head?.join = none → move.after.reply = .ok .done
  /-- So is the entry of a parameter. -/
  resets : ∀ name val i, move.label.call = .setParam name val →
    move.before.rig.host.parammap.lookup name.1 = some i →
      numbered "PARAMETER" i ∈ move.before.rig.host.configlinemap →
        (join (numbered "PARAMETER" i) (join name.1 val.toNat.repr)).length < 2047 →
          move.label.faults.head?.join = none → move.after.reply = .ok .done
  /-- The lines that are written are lines of the controller. -/
  numbers : ∀ num line done, (ArchonCommand.wconfig num line, done) ∈ move.after.rig.commands →
    num < controllerLines

/-! ### When it is one -/

/-- A key that `setParam` writes. -/
def IsParameterKey (key : String) : Prop :=
  key = "PARAMETERS" ∨ ∃ i : ℤ, key = numbered "PARAMETER" i

/-- The command of a write does not fail if the key is new and the command is given. -/
def TakesLine (s : Archon) (key val : String) (faults : List (Option CommandFault)) : Prop :=
  key ∉ s.configlinemap → s.Fits (join key val) → faults.head?.join = none

/-- Nothing comes between the steps of a new parameter once its number has been read. -/
def SetsNewParam (s : Archon) (n : ℤ) (name val : String) (faults : List (Option CommandFault)) :
    Prop :=
  s.configLines < 2047 ∧ faults.head?.join = none ∧
    ((join (numbered "PARAMETER" n) (join name val)).length < 2047 →
      faults.tail.head?.join = none)

/-- The call neither loses a line, nor overwrites one while all lines are in use, nor interferes
with the entries of the parameters. -/
def Undisturbed (s : StoreRun) (l : StoreLabel) : Prop :=
  match l.call with
  | .writeKeyValue key val => TakesLine s.rig.host key.1 val.1 l.faults ∧
      (key.1 ∈ s.rig.host.configlinemap → s.rig.host.configLines < 2047) ∧ ¬ IsParameterKey key.1
  | .setParam name val =>
    (∀ i, s.rig.host.parammap.lookup name.1 = some i →
      TakesLine s.rig.host (numbered "PARAMETER" i) (join name.1 val.toNat.repr) l.faults ∧
        (numbered "PARAMETER" i ∈ s.rig.host.configlinemap → s.rig.host.configLines < 2047)) ∧
    (s.rig.host.parammap.lookup name.1 = none → l.faults.head?.join = none →
      ∀ text n, s.rig.value "PARAMETERS" = some text → stoi text = .ok n →
        SetsNewParam s.rig.host n name.1 val.toNat.repr l.faults.tail)
  | .clearConfig => l.faults.head?.join = none → ∀ fault ∈ l.faults.take 6, fault = none
  | .readKeyValue _ | .getParam _ => True

/-! ### The lines of a rig

`lineOf` says on which line a key is written: its own, or the next one for a new key. The invariant
is kept by a write on the line of its key, and by a refused write over a line that exists; a refused
write of a new key is what loses a line. -/

/-- The map and the lines are in step, and hold what the commands have written. -/
structure ArchonRig.InStep (rig : ArchonRig) : Prop where
  sound : rig.Sound
  full : ∀ n, n < rig.host.configLines → ∃ key, rig.host.configlinemap.lookup key = some n
  le : rig.host.configLines ≤ 2047
  last : ∀ key, rig.value key = lastWrite key rig.commands
  numbers : ∀ num line done, (ArchonCommand.wconfig num line, done) ∈ rig.commands →
    num < controllerLines
  printable : ∀ key val, rig.value key = some val → Printable key ∧ Printable val

namespace ArchonRig.InStep

variable {rig : ArchonRig} {key val : String}

/-- A rig with other failures to come. -/
theorem withFaults (h : rig.InStep) (faults : List (Option CommandFault)) :
    ({ rig with faults := faults } : ArchonRig).InStep where
  sound := h.sound.of_eq rfl rfl rfl
  full := h.full
  le := h.le
  last := h.last
  numbers := h.numbers
  printable := h.printable

/-- Members that do not number the lines do not matter. -/
theorem withHost (h : rig.InStep) {host : Archon}
    (hmap : host.configlinemap = rig.host.configlinemap)
    (hcount : host.configLines = rig.host.configLines) :
    ({ rig with host := host } : ArchonRig).InStep := by
  have hvalue : ({ rig with host := host } : ArchonRig).value = rig.value :=
    ArchonRig.value_of_eq hmap rfl
  refine ⟨h.sound.of_eq hmap hcount rfl, ?_, hcount.trans_le h.le, ?_, h.numbers, ?_⟩
  · rw [hmap, hcount]
    exact h.full
  · rw [hvalue]
    exact h.last
  · rw [hvalue]
    exact h.printable

/-- A command that writes nothing. -/
theorem command (h : rig.InStep) {rig' : ArchonRig} (hhost : rig'.host = rig.host)
    (hlines : rig'.lines = rig.lines) {c : ArchonCommand} {done : Bool}
    (hcommands : rig'.commands = (c, done) :: rig.commands)
    (hlast : ∀ key, lastWrite key ((c, done) :: rig.commands) = lastWrite key rig.commands)
    (hnum : ∀ num line, c = .wconfig num line → num < controllerLines) : rig'.InStep := by
  have hvalue : rig'.value = rig.value :=
    ArchonRig.value_of_eq (congrArg Archon.configlinemap hhost) hlines
  refine ⟨h.sound.of_eq (congrArg Archon.configlinemap hhost) (congrArg Archon.configLines hhost)
    hlines, ?_, hhost ▸ h.le, fun key => ?_, fun num line done' hmem => ?_, ?_⟩
  · rw [hhost]
    exact h.full
  · rw [hvalue, hcommands, hlast, h.last]
  · rw [hcommands] at hmem
    rcases List.mem_cons.mp hmem with heq | hmem
    · exact hnum num line (Prod.mk.inj heq).1.symm
    · exact h.numbers num line done' hmem
  · rw [hvalue]
    exact h.printable

/-- To read a line changes nothing that matters to the invariant. -/
theorem accept_rconfig (h : rig.InStep) (n : ℕ) : (rig.accept (.rconfig n)).InStep :=
  h.command rfl rfl rfl (fun _ => rfl) nofun

private theorem refuse_rconfig (h : rig.InStep) (n : ℕ) : (rig.refuse (.rconfig n)).InStep :=
  h.command rfl rfl rfl (fun _ => rfl) nofun

/-- While there is room, a key is written on a line of the controller. -/
theorem lineOf_lt (h : rig.InStep) (hfits : rig.host.configLines < 2047) (key : String) :
    rig.host.lineOf key < controllerLines := by
  have hle := Archon.lineOf_le h.sound key
  rw [controllerLines]
  omega

/-- A write that is carried out. -/
theorem written (h : rig.InStep) (hkey : Printable key ∧ '=' ∉ key.toList) (hval : Printable val)
    (hfits : rig.host.Fits (join key val)) : (rig.written key val).InStep := by
  have hvalue := h.sound.value_written hkey.2 val
  have hlookup := ArchonRig.lookup_register rig.host key
  have hmem : key ∈ rig.host.configlinemap → rig.host.register key = rig.host :=
    fun hkey => if_pos hkey
  have hnew : key ∉ rig.host.configlinemap →
      (rig.host.register key).configLines = rig.host.configLines + 1 ∧
        rig.host.lineOf key = rig.host.configLines := by
    intro hkey
    rw [Archon.register, if_neg hkey, Archon.lineOf, AList.lookup_eq_none.mpr hkey]
    exact ⟨rfl, rfl⟩
  refine ⟨h.sound.written hkey.2 val, fun n hn => ?_, ?_, fun k => ?_, fun num line done hin => ?_,
    fun k v hv => ?_⟩
  · -- each line has a key: the new line has the new key
    have hhost : (rig.written key val).host = rig.host.register key := rfl
    rw [hhost] at hn ⊢
    by_cases hkey : key ∈ rig.host.configlinemap
    · rw [hmem hkey] at hn ⊢
      exact h.full n hn
    · obtain ⟨hcount, hline⟩ := hnew hkey
      by_cases hlt : n < rig.host.configLines
      · obtain ⟨k, hk⟩ := h.full n hlt
        refine ⟨k, ?_⟩
        have hne : k ≠ key := fun heq => hkey (heq ▸ AList.mem_of_lookup hk)
        rw [hlookup, if_neg hne, hk]
      · refine ⟨key, ?_⟩
        rw [hlookup, if_pos rfl, hline]
        congr 1
        omega
  · have hhost : (rig.written key val).host = rig.host.register key := rfl
    have hlt := hfits.1
    rw [hhost]
    by_cases hkey : key ∈ rig.host.configlinemap
    · rw [hmem hkey]
      exact h.le
    · rw [(hnew hkey).1]
      omega
  · have hcommands : (rig.written key val).commands =
        (.wconfig (rig.host.lineOf key) (join key val), true) :: rig.commands := rfl
    -- the last write of the key is this one
    rw [hvalue, hcommands, lastWrite, splitFirst_join hkey.2]
    by_cases heq : k = key
    · rw [heq, Function.update_self]
      exact (if_pos rfl).symm
    · rw [Function.update_of_ne heq, h.last]
      exact (if_neg heq).symm
  · have hcommands : (rig.written key val).commands =
        (.wconfig (rig.host.lineOf key) (join key val), true) :: rig.commands := rfl
    rw [hcommands] at hin
    rcases List.mem_cons.mp hin with heq | hin
    · obtain ⟨rfl, -⟩ := ArchonCommand.wconfig.inj (Prod.mk.inj heq).1
      exact h.lineOf_lt hfits.1 key
    · exact h.numbers num line done hin
  · rw [hvalue] at hv
    by_cases heq : k = key
    · rw [heq, Function.update_self] at hv
      obtain rfl := Option.some.inj hv
      exact heq ▸ ⟨hkey.1, hval⟩
    · rw [Function.update_of_ne heq] at hv
      exact h.printable k v hv

/-- A write over an existing line that is refused. -/
theorem unwritten (h : rig.InStep) (hkey : key ∈ rig.host.configlinemap)
    (hfits : rig.host.Fits (join key val)) : (rig.unwritten key val).InStep := by
  have hhost : (rig.unwritten key val).host = rig.host := if_pos hkey
  refine h.command hhost rfl rfl (fun _ => rfl) fun num line heq => ?_
  obtain ⟨rfl, -⟩ := ArchonCommand.wconfig.inj heq
  exact h.lineOf_lt hfits.1 key

/-- Writes one after another. -/
theorem writtenAll (h : rig.InStep) {kvs : List (String × String)}
    (hkvs : ∀ kv ∈ kvs, (Printable kv.1 ∧ '=' ∉ kv.1.toList) ∧ Printable kv.2)
    (hcan : rig.host.CanWrite kvs rig.faults) : (rig.writtenAll kvs).InStep :=
  ArchonRig.writtenAll_induction h hcan fun _ kv hkv hrig hfits _ =>
    hrig.written (hkvs kv hkv).1 (hkvs kv hkv).2 hfits

end ArchonRig.InStep

/-! ### The parameters -/

/-- Each parameter that has been set has an entry of its own with its value. -/
structure ParamsKept (names : AList fun _ : String => ℤ) (value : String → Option String)
    (params : AList fun _ : String => UInt32) : Prop where
  number : ∀ text, value "PARAMETERS" = some text →
    ∃ n : ℤ, text = n.repr ∧ ∀ name i, names.lookup name = some i → i < n
  counted : ∀ name i, names.lookup name = some i → value "PARAMETERS" ≠ none
  injective : ∀ name name' i, names.lookup name = some i → names.lookup name' = some i →
    name = name'
  named : ∀ i, value (numbered "PARAMETER" i) ≠ none → ∃ name, names.lookup name = some i
  given : ∀ name val, params.lookup name = some val → '=' ∉ name.toList ∧
    ∃ i, names.lookup name = some i ∧
      value (numbered "PARAMETER" i) = some (join name val.toNat.repr)

private theorem numbered_ne_parameters (i : ℤ) : numbered "PARAMETER" i ≠ "PARAMETERS" := by
  intro h
  have hfamily : family (numbered "PARAMETER" i) = "PARAMETER".toList :=
    family_numbered (by decide) i
  rw [h] at hfamily
  exact absurd hfamily (by decide)

namespace ParamsKept

variable {names : AList fun _ : String => ℤ} {value : String → Option String}
  {params : AList fun _ : String => UInt32} {name : String}

/-- Nothing is set in an empty configuration. -/
theorem empty (hvalue : ∀ i, value (numbered "PARAMETER" i) = none)
    (hnumber : ∀ text, value "PARAMETERS" = some text → ∃ n : ℤ, text = n.repr) :
    ParamsKept ∅ value ∅ where
  number text h := by
    obtain ⟨n, hn⟩ := hnumber text h
    exact ⟨n, hn, nofun⟩
  counted := nofun
  injective := nofun
  named i h := absurd (hvalue i) h
  given := nofun

/-- Another key is written. -/
theorem write (h : ParamsKept names value params) {key : String} (hkey : ¬ IsParameterKey key)
    (val : Option String) : ParamsKept names (Function.update value key val) params := by
  rw [IsParameterKey, not_or, not_exists] at hkey
  have hnumber : Function.update value key val "PARAMETERS" = value "PARAMETERS" :=
    Function.update_of_ne (Ne.symm hkey.1) _ _
  have hentry : ∀ i, Function.update value key val (numbered "PARAMETER" i) =
      value (numbered "PARAMETER" i) := fun i => Function.update_of_ne (Ne.symm (hkey.2 i)) _ _
  refine ⟨?_, ?_, h.injective, fun i => ?_, ?_⟩
  · rw [hnumber]
    exact h.number
  · rw [hnumber]
    exact h.counted
  · rw [hentry]
    exact h.named i
  · simp only [hentry]
    exact h.given

/-- The entry of a name is written. -/
theorem set (h : ParamsKept names value params) (hname : '=' ∉ name.toList) {i : ℤ}
    (hi : names.lookup name = some i) (val : UInt32) :
    ParamsKept names (Function.update value (numbered "PARAMETER" i)
      (some (join name val.toNat.repr))) (params.insert name val) := by
  have hnumber : ∀ text, Function.update value (numbered "PARAMETER" i) text "PARAMETERS" =
      value "PARAMETERS" := fun text => Function.update_of_ne (numbered_ne_parameters i).symm _ _
  refine ⟨?_, ?_, h.injective, fun j hj => ?_, fun name' val' hlookup => ?_⟩
  · rw [hnumber]
    exact h.number
  · rw [hnumber]
    exact h.counted
  · by_cases hij : j = i
    · exact ⟨name, hij ▸ hi⟩
    · rw [Function.update_of_ne fun heq => hij (numbered_inj heq)] at hj
      exact h.named j hj
  · rw [AList.lookup_insert_ite] at hlookup
    split_ifs at hlookup with heq
    · obtain rfl := Option.some.inj hlookup
      subst heq
      exact ⟨hname, i, hi, Function.update_self ..⟩
    · obtain ⟨hplain, j, hj, hentry⟩ := h.given name' val' hlookup
      refine ⟨hplain, j, hj, ?_⟩
      have hij : j ≠ i := fun hij => heq (h.injective name' name i (hij ▸ hj) hi)
      rw [Function.update_of_ne fun heq => hij (numbered_inj heq), hentry]

/-- A name gets the next number. -/
theorem assign (h : ParamsKept names value params) {n : ℤ}
    (hn : value "PARAMETERS" = some n.repr) (hnone : names.lookup name = none) :
    ParamsKept (names.insert name n)
      (Function.update value "PARAMETERS" (some (n + 1).repr)) params := by
  -- the stored number is above all that are taken
  have hbelow : ∀ name' i, names.lookup name' = some i → i < n := by
    obtain ⟨m, hm, hlt⟩ := h.number n.repr hn
    have hread := number_repr n
    rw [hm, number_repr] at hread
    obtain rfl := Option.some.inj hread
    exact hlt
  have hentry : ∀ text i, Function.update value "PARAMETERS" text (numbered "PARAMETER" i) =
      value (numbered "PARAMETER" i) :=
    fun text i => Function.update_of_ne (numbered_ne_parameters i) _ _
  have hfresh : ∀ name', names.lookup name' ≠ some n :=
    fun name' hn' => Int.lt_irrefl n (hbelow name' n hn')
  refine ⟨fun text htext => ?_, fun _ _ _ => ?_, AList.lookup_insert_injective h.injective hfresh,
    fun i hi => ?_, fun name' val hval => ?_⟩
  · rw [Function.update_self] at htext
    refine ⟨n + 1, (Option.some.inj htext).symm, fun name' i hi => ?_⟩
    rw [AList.lookup_insert_ite] at hi
    split_ifs at hi
    · obtain rfl := Option.some.inj hi
      exact Int.lt_succ n
    · exact Int.lt_trans (hbelow name' i hi) (Int.lt_succ n)
  · rw [Function.update_self]
    exact Option.some_ne_none _
  · rw [hentry] at hi
    obtain ⟨name', hname'⟩ := h.named i hi
    refine ⟨name', ?_⟩
    rw [AList.lookup_insert_ite, if_neg, hname']
    rintro rfl
    rw [hnone] at hname'
    cases hname'
  · obtain ⟨hplain, i, hi, hvalue⟩ := h.given name' val hval
    refine ⟨hplain, i, ?_, by rw [hentry, hvalue]⟩
    rw [AList.lookup_insert_ite, if_neg, hi]
    rintro rfl
    rw [hnone] at hi
    cases hi

end ParamsKept

/-! ### One call -/

section Calls

variable {rig : ArchonRig} {params : AList fun _ : String => UInt32}

/-- The rig is in step, and so are its parameters. -/
def ArchonRig.Keeps (rig : ArchonRig) (params : AList fun _ : String => UInt32) : Prop :=
  rig.InStep ∧ ParamsKept rig.host.parammap rig.value params

/-- The values of the parameters after a name has been set, or not. -/
def paramsAfter {A : Type} (params : AList fun _ : String => UInt32) (name : String)
    (val : UInt32) :
    Except Thrown A → AList fun _ : String => UInt32
  | .ok _ => params.insert name val
  | .error _ => params

/-- What only reads lines keeps the configuration. -/
theorem keeps_read (h : rig.Keeps params) {A : Type} {m : ArchonM A}
    (hm : ∀ {P : ArchonRig → Prop}, (∀ rig n, P rig → P (rig.accept (.rconfig n))) →
      (∀ rig n, P rig → P (rig.refuse (.rconfig n))) → Maintains P m) :
    (on m rig).2.Keeps params :=
  hm (P := fun rig' => rig'.Keeps params)
    (fun _ n h' => ⟨h'.1.accept_rconfig n, h'.2⟩)
    (fun _ n h' => ⟨h'.1.refuse_rconfig n, h'.2⟩) rig h

/-- A write that takes its line keeps the lines in step: it changes the value of its key or nothing.
-/
theorem inStep_writeKeyValue (h : rig.InStep) {key val : String}
    (hkey : Printable key ∧ '=' ∉ key.toList) (hval : Printable val)
    (htake : TakesLine rig.host key val rig.faults) :
    (on (Archon.writeKeyValue key val) rig).2.InStep ∧
      rig.host.SameLists (on (Archon.writeKeyValue key val) rig).2.host ∧
      ((on (Archon.writeKeyValue key val) rig).1 = .ok () ∧
          (on (Archon.writeKeyValue key val) rig).2.value =
            Function.update rig.value key (some val) ∨
        (∃ e, (on (Archon.writeKeyValue key val) rig).1 = .error e) ∧
          (on (Archon.writeKeyValue key val) rig).2.host = rig.host ∧
          (on (Archon.writeKeyValue key val) rig).2.value = rig.value) := by
  obtain ⟨hfits, -, hon⟩ | ⟨fault, hfits, hfault, hon⟩ | ⟨e, -, hon⟩ :=
    Archon.writeKeyValue_cases h.sound key val
  · rw [hon]
    exact ⟨h.written hkey hval hfits, Archon.sameLists_register rig.host key,
      .inl ⟨rfl, h.sound.value_written hkey.2 val⟩⟩
  · have hmem : key ∈ rig.host.configlinemap := by
      by_contra hnew
      have hnone := htake hnew hfits
      rw [ArchonRig.nextFault, hnone] at hfault
      cases hfault
    have hhost : (rig.unwritten key val).host = rig.host := if_pos hmem
    rw [hon]
    exact ⟨h.unwritten hmem hfits, Archon.sameLists_takeLine rig.host key,
      .inr ⟨⟨_, rfl⟩, hhost, ArchonRig.value_unwritten rig key val⟩⟩
  · rw [hon]
    exact ⟨h, Archon.SameLists.refl _, .inr ⟨⟨e, rfl⟩, rfl, rfl⟩⟩

/-- A key that is not a parameter's is written. -/
theorem keeps_writeKeyValue (h : rig.Keeps params) {key val : String}
    (hkey : Printable key ∧ '=' ∉ key.toList) (hval : Printable val)
    (htake : TakesLine rig.host key val rig.faults) (hother : ¬ IsParameterKey key) :
    (on (Archon.writeKeyValue key val) rig).2.Keeps params := by
  obtain ⟨hstep, hsame, ⟨-, hvalue⟩ | ⟨-, -, hvalue⟩⟩ := inStep_writeKeyValue h.1 hkey hval htake
  · refine ⟨hstep, ?_⟩
    rw [hsame.parammap, hvalue]
    exact h.2.write hother _
  · refine ⟨hstep, ?_⟩
    rw [hsame.parammap, hvalue]
    exact h.2

/-- The key of a parameter is printable and without `=`. -/
theorem plain_entry (i : ℤ) : Printable (numbered "PARAMETER" i) ∧
    '=' ∉ (numbered "PARAMETER" i).toList :=
  ⟨Printable.numbered (by decide) i, not_mem_numbered (by decide) (by decide) (by decide) i⟩

/-- The entry of a parameter is written. -/
theorem keeps_entry (h : rig.Keeps params) {name : String}
    (hname : Printable name ∧ '=' ∉ name.toList) {i : ℤ}
    (hi : rig.host.parammap.lookup name = some i) (val : UInt32)
    (htake : TakesLine rig.host (numbered "PARAMETER" i) (join name val.toNat.repr) rig.faults) :
    (on (Archon.writeKeyValue (numbered "PARAMETER" i) (join name val.toNat.repr)) rig).2.Keeps
      (paramsAfter params name val
        (on (Archon.writeKeyValue (numbered "PARAMETER" i) (join name val.toNat.repr)) rig).1) := by
  have hval : Printable (join name val.toNat.repr) := hname.1.join (printable_repr val.toNat)
  obtain ⟨hstep, hsame, ⟨hok, hvalue⟩ | ⟨⟨e, herror⟩, -, hvalue⟩⟩ :=
    inStep_writeKeyValue h.1 (plain_entry i) hval htake
  · refine ⟨hstep, ?_⟩
    rw [hsame.parammap, hvalue, hok]
    exact h.2.set hname.2 hi val
  · refine ⟨hstep, ?_⟩
    rw [hsame.parammap, hvalue, herror]
    exact h.2

private theorem printable_join_of_inStep (h : rig.InStep) {key val : String}
    (hvalue : rig.value key = some val) : Printable (join key val) :=
  (h.printable key val hvalue).1.join (h.printable key val hvalue).2

/-- A number that has been read as one prints short. -/
theorem length_repr_succ {text : String} {n : ℤ} (h : stoi text = .ok n) :
    (n + 1).repr.length ≤ 11 := by
  obtain ⟨-, hlow, hhigh⟩ := stoi_eq_ok_iff.mp h
  exact Decimal.length_repr_le (k := 10) (by decide) (by omega) (by omega)

/-- A new name gets a number, if nothing comes between. -/
theorem confnum_of_new (h : rig.Keeps params) {name : String}
    (hnone : rig.host.parammap.lookup name = none) {val : String}
    (hnew : rig.nextFault = none → ∀ text n, rig.value "PARAMETERS" = some text →
      stoi text = .ok n → SetsNewParam rig.host n name val rig.faults.tail) :
    (∃ e rig', on (Archon.parameters.confnum name) rig = (.error e, rig') ∧ rig'.Keeps params) ∨
      ∃ n rig', on (Archon.parameters.confnum name) rig = (.ok n, rig') ∧ rig'.Keeps params ∧
        rig'.host.parammap.lookup name = some n ∧
        TakesLine rig'.host (numbered "PARAMETER" n) (join name val) rig'.faults := by
  have hconfnum : on (Archon.parameters.confnum name) rig = on (Archon.getParameters >>= fun n =>
      Archon.setHost (fun s => { s with parammap := s.parammap.insert name n }) >>= fun _ =>
        Archon.setParameters (n + 1) >>= fun _ => pure n) rig := by
    rw [Archon.NameTable.confnum, on_bind_of_ok (Archon.on_host rig)]
    have hlookup : (Archon.parameters.names rig.host).lookup name = none := hnone
    rw [hlookup]
    rfl
  rw [hconfnum]
  obtain ⟨n, rig₁, hget⟩ | ⟨e, rig₁, hget⟩ := on_cases Archon.getParameters rig
  · obtain ⟨⟨text, hvalue, hstoi⟩, hfault, num, rfl⟩ :=
      Archon.getCount_eq_ok h.1.sound (fun val hval => printable_join_of_inStep h.1 hval) hget
    obtain ⟨hroom, hsecond, hthird⟩ := hnew hfault text n hvalue hstoi
    obtain ⟨m, rfl, -⟩ := h.2.number text hvalue
    obtain rfl : m = n := by
      have hnumber := (stoi_eq_ok_iff.mp hstoi).1
      rw [number_repr] at hnumber
      exact Option.some.inj hnumber
    -- the number is taken, and then written with the next one in its place
    let rig₂ : ArchonRig := { rig.accept (.rconfig num) with host := { rig.host with
      parammap := rig.host.parammap.insert name m } }
    have hstep₂ : rig₂.InStep := (h.1.accept_rconfig num).withHost rfl rfl
    have hvalue₂ : rig₂.value = rig.value := ArchonRig.value_of_eq rfl rfl
    have hshort : (join "PARAMETERS" (m + 1).repr).length < 2047 := by
      have hlength := length_repr_succ hstoi
      have hword : "PARAMETERS".length = 10 := rfl
      rw [length_join, hword]
      omega
    have hfits₂ : rig₂.host.Fits (join "PARAMETERS" (m + 1).repr) := ⟨hroom, hshort⟩
    have hwrite : on (Archon.setParameters (m + 1)) rig₂ =
        (.ok (), rig₂.written "PARAMETERS" (m + 1).repr) :=
      Archon.writeKeyValue_of_accepted hstep₂.sound hfits₂ hsecond
    have hsame := Archon.sameLists_register rig₂.host "PARAMETERS"
    have hnames : (rig₂.written "PARAMETERS" (m + 1).repr).host.parammap =
        rig.host.parammap.insert name m := hsame.parammap
    refine .inr ⟨m, rig₂.written "PARAMETERS" (m + 1).repr, ?_, ⟨?_, ?_⟩, ?_, ?_⟩
    · rw [on_bind_of_ok hget, on_bind_of_ok (Archon.on_setHost _ _)]
      exact (on_bind_of_ok hwrite _).trans rfl
    · exact hstep₂.written (by decide) (printable_repr (m + 1)) hfits₂
    · rw [hnames, hstep₂.sound.value_written (by decide), hvalue₂]
      exact h.2.assign hvalue hnone
    · rw [hnames, AList.lookup_insert]
    · exact fun _ hfits => hthird hfits.2
  · have hkeeps := keeps_read h (m := Archon.getParameters)
      fun haccept hrefuse => Archon.maintains_getCount haccept hrefuse _
    rw [hget] at hkeeps
    exact .inl ⟨e, rig₁, on_bind_of_error hget _, hkeeps⟩

/-- A name that has a number is set by writing its entry. -/
theorem setParam_of_known {name : String} {i : ℤ}
    (hlookup : rig.host.parammap.lookup name = some i) (val : UInt32) :
    on (Archon.setParam name val) rig =
      on (Archon.writeKeyValue (numbered "PARAMETER" i) (join name val.toNat.repr)) rig := by
  have hset : Archon.setParam name val = Archon.parameters.confnum name >>= fun i =>
      Archon.writeKeyValue (numbered "PARAMETER" i) (join name val.toNat.repr) := rfl
  have hconfnum : on (Archon.parameters.confnum name) rig = (.ok i, rig) := by
    have hnames : (Archon.parameters.names rig.host).lookup name = some i := hlookup
    rw [Archon.NameTable.confnum, on_bind_of_ok (Archon.on_host rig), hnames]
    rfl
  rw [hset, on_bind_of_ok hconfnum]

/-- `setParam` sets the parameter, or leaves them all as they are. -/
theorem keeps_setParam (h : rig.Keeps params) {name : String}
    (hname : Printable name ∧ '=' ∉ name.toList) {val : UInt32}
    (hknown : ∀ i, rig.host.parammap.lookup name = some i →
      TakesLine rig.host (numbered "PARAMETER" i) (join name val.toNat.repr) rig.faults)
    (hnew : rig.host.parammap.lookup name = none → rig.nextFault = none →
      ∀ text n, rig.value "PARAMETERS" = some text → stoi text = .ok n →
        SetsNewParam rig.host n name val.toNat.repr rig.faults.tail) :
    (on (Archon.setParam name val) rig).2.Keeps
      (paramsAfter params name val (on (Archon.setParam name val) rig).1) := by
  cases hlookup : rig.host.parammap.lookup name with
  | some i =>
    rw [setParam_of_known hlookup]
    exact keeps_entry h hname hlookup val (hknown i hlookup)
  | none =>
    have hset : Archon.setParam name val = Archon.parameters.confnum name >>= fun i =>
        Archon.writeKeyValue (numbered "PARAMETER" i) (join name val.toNat.repr) := rfl
    rw [hset]
    obtain ⟨e, rig', hon, hkeeps⟩ | ⟨n, rig', hon, hkeeps, hn, htake⟩ :=
      confnum_of_new h hlookup (hnew hlookup)
    · rw [on_bind_of_error hon]
      exact hkeeps
    · rw [on_bind_of_ok hon]
      exact keeps_entry hkeeps hname hn val htake

/-- `clear_config` empties the store, or leaves it as it is. -/
theorem keeps_clearConfig (h : rig.Keeps params)
    (hfaults : rig.nextFault = none → ∀ fault ∈ rig.faults.take 6, fault = none) :
    (on Archon.clearConfig rig).2.Keeps (if rig.nextFault = none then ∅ else params) := by
  cases hfault : rig.nextFault with
  | some fault =>
    have hon : on Archon.clearConfig rig = (.error fault.thrown, rig.refuse .clearconfig) := by
      rw [Archon.clearConfig_eq, on_bind_of_error (Archon.cmd_of_refused hfault _)]
    rw [hon, if_neg (Option.some_ne_none fault)]
    exact ⟨h.1.command rfl rfl rfl (fun _ => rfl) nofun, h.2⟩
  | none =>
    -- with no lines in use and no names known, there is nothing to be out of step
    have hcleared : (Archon.cleared rig).InStep := by
      refine ⟨Archon.sound_cleared rig, fun n hn => absurd hn (Nat.not_lt_zero n), Nat.zero_le _,
        fun key => rfl, fun num line done hmem => ?_, nofun⟩
      rcases List.mem_cons.mp hmem with heq | hmem
      · cases heq
      · exact h.1.numbers num line done hmem
    have hkeys : ∀ kv ∈ Archon.clearedEntries, '=' ∉ kv.1.toList :=
      fun kv hkv => (Archon.plain_clearedEntries kv hkv).1.2
    rw [Archon.clearConfig_of_accepted (hfaults hfault), if_pos rfl]
    refine ⟨hcleared.writtenAll Archon.plain_clearedEntries
      (Archon.canWrite_clearedEntries (hfaults hfault)), ?_⟩
    rw [(ArchonRig.sameLists_writtenAll _ _).parammap]
    -- none of the entries that are written is a parameter, and `PARAMETERS` is 0
    refine ParamsKept.empty (fun i => ?_) fun text htext => ⟨0, ?_⟩
    · have hnot : numbered "PARAMETER" i ∉ Archon.clearedEntries.map Prod.fst :=
        numbered_not_mem (by decide) (by decide) i
      rw [hcleared.sound.value_writtenAll_of_not_mem hkeys hnot]
      exact Archon.value_cleared rig _
    · have hzero : ((Archon.cleared rig).writtenAll Archon.clearedEntries).value "PARAMETERS" =
          some "0" := hcleared.sound.value_writtenAll hkeys (by decide) (by decide)
      rw [hzero] at htext
      exact (Option.some.inj htext).symm

/-! ### Reading the store -/

/-- A key reads as what has been written last. -/
theorem readKeyValue_of_keeps (h : rig.Keeps params) (key : String)
    {faults : List (Option CommandFault)} (hfault : faults.head?.join = none) :
    ∃ e, (on (Archon.readKeyValue key) { rig with faults := faults }).1 =
      (lastWrite key rig.commands).elim (.error e) .ok := by
  have hrig := h.1.withFaults faults
  rw [← h.1.last key]
  cases hvalue : rig.value key with
  | none =>
    have hlookup : ({ rig with faults := faults } : ArchonRig).host.configlinemap.lookup key =
      none := h.1.sound.value_eq_none_iff.mp hvalue
    exact ⟨_, congrArg Prod.fst (Archon.readKeyValue_of_none hlookup)⟩
  | some val =>
    obtain ⟨n, hn, hline⟩ := h.1.sound.value_eq_some_iff.mp hvalue
    exact ⟨.unspecified, congrArg Prod.fst (Archon.readKeyValue_of_accepted hrig.sound hn hfault
      hline (printable_join_of_inStep h.1 hvalue))⟩

/-- The number in the entry of a parameter. -/
theorem paramValue_join {name : String} (hname : '=' ∉ name.toList) (val : UInt32) :
    Archon.paramValue (join name val.toNat.repr) = .ok val := by
  have hlt : val.toNat < 2 ^ 64 := val.toNat_lt.trans (by decide)
  have hquote : String.ofList (val.toNat.repr.toList.takeWhile (· ≠ '"')) = val.toNat.repr := by
    have hall : ∀ c ∈ val.toNat.repr.toList, decide (c ≠ '"') = true := by
      intro c hc
      have hc' : c ∈ (val.toNat : ℤ).repr.toList := hc
      obtain rfl | hdigit := of_mem_repr hc'
      · decide
      · rw [decide_eq_true_eq]
        rintro rfl
        exact absurd hdigit (by decide)
    rw [← List.append_nil val.toNat.repr.toList, List.takeWhile_append_of_pos hall,
      List.takeWhile_nil, List.append_nil, String.ofList_toList]
  simp only [Archon.paramValue, splitFirst_join hname, hquote, stoul_repr hlt, UInt32.ofNat_toNat]

/-- A parameter reads as what has been set last. -/
theorem getParam_of_keeps (h : rig.Keeps params) {name : String} {val : UInt32}
    (hname : params.lookup name = some val) {faults : List (Option CommandFault)}
    (hfault : faults.head?.join = none) :
    (on (Archon.getParam name) { rig with faults := faults }).1 = .ok val := by
  obtain ⟨hplain, i, hi, hvalue⟩ := h.2.given name val hname
  have hrig := h.1.withFaults faults
  obtain ⟨n, hn, hline⟩ := h.1.sound.value_eq_some_iff.mp hvalue
  have hread := Archon.readKeyValue_of_accepted hrig.sound hn hfault hline
    (printable_join_of_inStep h.1 hvalue)
  have hlookup : ({ rig with faults := faults } : ArchonRig).host.parammap.lookup name =
    some i := hi
  rw [Archon.getParam, on_bind_of_ok (Archon.on_host _), hlookup]
  refine (congrArg Prod.fst (on_bind_of_ok hread _)).trans ?_
  rw [paramValue_join hplain]
  rfl

end Calls

/-! ### Every run -/

variable {lines : ℕ → String} {s s' : StoreRun} {l : StoreLabel}

/-- An undisturbed call keeps the store. -/
theorem keeps_step (h : s.rig.Keeps s.params) (hl : Undisturbed s l)
    (hstep : (storeSystem lines).step s l = some s') : s'.rig.Keeps s'.params := by
  obtain ⟨call, faults⟩ := l
  obtain rfl := Option.some.inj hstep
  have hrig : ({ s.rig with faults := faults } : ArchonRig).Keeps s.params :=
    ⟨h.1.withFaults faults, h.2⟩
  cases call with
  | writeKeyValue key val =>
    have hkeeps := keeps_writeKeyValue hrig key.2 val.2 hl.1 hl.2.2
    simp only [StoreCall.perform, on_bind_pure]
    exact hkeeps
  | readKeyValue key =>
    have hkeeps := keeps_read hrig (m := Archon.readKeyValue key.1)
      fun haccept hrefuse => Archon.maintains_readKeyValue haccept hrefuse key.1
    simp only [StoreCall.perform, on_bind_pure]
    exact hkeeps
  | setParam name val =>
    have hkeeps := keeps_setParam hrig name.2 (fun i hi => (hl.1 i hi).1) hl.2
    simp only [StoreCall.perform, on_bind_pure]
    -- the books of the parameters change only if the call returns
    revert hkeeps
    cases (on (Archon.setParam name.1 val) { s.rig with faults := faults }).1 <;> exact id
  | getParam name =>
    have hkeeps := keeps_read hrig (m := Archon.getParam name.1)
      fun haccept hrefuse => Archon.maintains_getParam haccept hrefuse name.1
    simp only [StoreCall.perform, on_bind_pure]
    exact hkeeps
  | clearConfig =>
    have hkeeps := keeps_clearConfig hrig hl
    simp only [StoreCall.perform, on_bind_pure]
    exact hkeeps

/-- The outcomes of a call of `writeKeyValue` in a run. -/
theorem writeKeyValue_of_step (h : s.rig.Keeps s.params) {key : ConfigName} {val : ConfigText}
    {faults : List (Option CommandFault)}
    (hstep : (storeSystem lines).step s ⟨.writeKeyValue key val, faults⟩ = some s') :
    s.rig.host.Fits (join key.1 val.1) ∧ faults.head?.join = none ∧ s'.reply = .ok .done ∧
        s'.rig = ArchonRig.written { s.rig with faults := faults } key.1 val.1 ∨
      (∃ e fault, s.rig.host.Fits (join key.1 val.1) ∧ faults.head?.join = some fault ∧
        s'.reply = .error e ∧ s'.rig.host = s.rig.host.takeLine key.1) ∨
      ∃ e, ¬ s.rig.host.Fits (join key.1 val.1) ∧ s'.reply = .error e ∧
        s'.rig.host = s.rig.host := by
  obtain rfl := Option.some.inj hstep
  have hsound := (h.1.withFaults faults).sound
  simp only [StoreCall.perform, on_bind_pure]
  obtain ⟨hfits, hfault, hon⟩ | ⟨fault, hfits, hfault, hon⟩ | ⟨e, hfits, hon⟩ :=
    Archon.writeKeyValue_cases hsound key.1 val.1
  · rw [hon]
    exact .inl ⟨hfits, hfault, rfl, rfl⟩
  · rw [hon]
    exact .inr (.inl ⟨_, fault, hfits, hfault, rfl, rfl⟩)
  · rw [hon]
    exact .inr (.inr ⟨e, hfits, rfl, rfl⟩)

/-- An undisturbed call conforms. -/
theorem conforms_of_step (h : s.rig.Keeps s.params) (hl : Undisturbed s l)
    (hstep : (storeSystem lines).step s l = some s') : StoreConforms ⟨s, l, s'⟩ := by
  have hkeeps := keeps_step h hl hstep
  have hstep' := hkeeps.1
  obtain ⟨call, faults⟩ := l
  refine ⟨fun key key' n hn hn' => hstep'.sound.inj hn hn', fun n => ⟨?_, hstep'.full n⟩,
    fun key faults hfault => readKeyValue_of_keeps hkeeps key.1 hfault,
    fun name val faults hname hfault => getParam_of_keeps hkeeps hname hfault, ?_, ?_, ?_, ?_,
    hstep'.numbers⟩
  · rintro ⟨key, hkey⟩
    exact hstep'.sound.lt hkey
  · rintro key val rfl hreply
    obtain ⟨-, -, -, hrig⟩ | ⟨e, fault, -, -, herror, -⟩ | ⟨e, -, herror, -⟩ :=
      writeKeyValue_of_step h hstep
    · have hvalue : s'.rig.value key.1 = some val.1 := by
        rw [hrig, (h.1.withFaults faults).sound.value_written key.2.2, Function.update_self]
      rw [hstep'.last key.1] at hvalue
      exact hvalue
    · cases herror.symm.trans hreply
    · cases herror.symm.trans hreply
  · rintro key val fault rfl hfault
    obtain ⟨-, hnone, -⟩ | ⟨e, fault', hfits, -, -, hhost⟩ | ⟨e, -, -, hhost⟩ :=
      writeKeyValue_of_step h hstep
    · cases hnone.symm.trans hfault
    · have hmem : key.1 ∈ s.rig.host.configlinemap := by
        -- a new key is registered before its command fails: the condition shuts that out
        by_contra hnew
        cases (hl.1 hnew hfits).symm.trans hfault
      exact hhost.trans (if_pos hmem)
    · exact hhost
  · rintro key val rfl hmem hshort hfault
    have hfits : s.rig.host.Fits (join key.1 val.1) := ⟨hl.2.1 hmem, hshort⟩
    obtain ⟨-, -, hreply, -⟩ | ⟨e, fault, -, hsome, -⟩ | ⟨e, hnot, -⟩ :=
      writeKeyValue_of_step h hstep
    · exact hreply
    · cases hfault.symm.trans hsome
    · exact absurd hfits hnot
  · rintro name val i rfl hlookup hmem hshort hfault
    have hrig := (h.1.withFaults faults).sound
    have hfits : s.rig.host.Fits (join (numbered "PARAMETER" i) (join name.1 val.toNat.repr)) :=
      ⟨(hl.1 i hlookup).2 hmem, hshort⟩
    have hnumber : ({ s.rig with faults := faults } : ArchonRig).host.parammap.lookup name.1 =
      some i := hlookup
    have hset := setParam_of_known hnumber val
    rw [Archon.writeKeyValue_of_accepted hrig hfits hfault] at hset
    obtain rfl := Option.some.inj hstep
    simp only [StoreCall.perform, on_bind_pure, hset]
    rfl

/-- **The configuration store**: in a run of undisturbed calls, every call conforms. -/
theorem archonStore (lines : ℕ → String) {ls : List StoreLabel}
    (h : (storeSystem lines).Guarded Undisturbed (storeSystem lines).init ls) :
    ∀ move ∈ (storeSystem lines).trace (storeSystem lines).init ls, StoreConforms move := by
  have hinit : (storeSystem lines).init.rig.Keeps (storeSystem lines).init.params := by
    refine ⟨⟨⟨nofun, nofun, nofun⟩, fun n hn => absurd hn (Nat.not_lt_zero n), Nat.zero_le _,
      fun _ => rfl, nofun, nofun⟩, ParamsKept.empty (fun _ => rfl) nofun⟩
  exact TransitionSystem.Guarded.forall_mem_trace (fun s => s.rig.Keeps s.params)
    (fun _ _ _ hs hl hstep => ⟨keeps_step hs hl hstep, conforms_of_step hs hl hstep⟩) hinit h

/-- A key of one letter. -/
def keyA : ConfigName := ⟨"A", by decide⟩

/-- The configuration is cleared, and a key is written. -/
def clearAndWrite (faults : List (Option CommandFault)) : List StoreLabel :=
  [⟨.clearConfig, []⟩, ⟨.writeKeyValue keyA ⟨"1", by decide⟩, faults⟩]

/-- A key of another family is no key of a parameter. -/
theorem not_isParameterKey {key : String} (hkey : key ≠ "PARAMETERS")
    (hfamily : family key ≠ "PARAMETER".toList) : ¬ IsParameterKey key := by
  rintro (heq | ⟨i, rfl⟩)
  · exact hkey heq
  · exact hfamily (family_numbered (by decide) i)

/-- Nothing disturbs a run without failures. -/
theorem archonStore_clearAndWrite :
    (storeSystem fun _ => "").Guarded Undisturbed (storeSystem fun _ => "").init
        (clearAndWrite []) ∧
      ∀ move ∈ (storeSystem fun _ => "").trace (storeSystem fun _ => "").init (clearAndWrite []),
        StoreConforms move := by
  have hguarded : (storeSystem fun _ => "").Guarded Undisturbed (storeSystem fun _ => "").init
      (clearAndWrite []) := by
    refine ⟨fun _ => by simp, fun s hs => ⟨⟨fun _ _ => rfl, ?_, ?_⟩, ?_⟩⟩
    · obtain rfl := Option.some.inj hs
      exact fun _ => by decide
    · exact not_isParameterKey (by decide) (by decide)
    · exact fun _ _ => trivial
  exact ⟨hguarded, archonStore (fun _ => "") hguarded⟩

/-- After a write whose command fails, the last line in use has no key. -/
theorem not_archonStore : ¬ ∀ move ∈ (storeSystem fun _ => "").trace (storeSystem fun _ => "").init
    (clearAndWrite [some .refused]), StoreConforms move := by
  intro h
  have hany : ((storeSystem fun _ => "").trace (storeSystem fun _ => "").init
      (clearAndWrite [some .refused])).any (fun move =>
        decide (5 < move.after.rig.host.configLines) &&
          move.after.rig.host.configlinemap.entries.all fun e => decide (e.2 ≠ 5)) = true := by
    decide
  obtain ⟨move, hmove, htest⟩ := List.any_eq_true.mp hany
  obtain ⟨hlt, hall⟩ := Bool.and_eq_true_iff.mp htest
  obtain ⟨key, hkey⟩ := ((h move hmove).image 5).mpr (of_decide_eq_true hlt)
  exact of_decide_eq_true (List.all_eq_true.mp hall _ (AList.mk_mem_entries_iff.mpr hkey)) rfl

end Foxtrot
