import Foxtrot.Foundation.Histories
import Foxtrot.Foundation.TransitionSystem
import Foxtrot.Server.Handler
import Mathlib.Algebra.Group.Int.Defs
import Mathlib.Data.Int.Notation

/-!
# Registers on an I2C bus

The class `i2c` (`protocols/src/i2c.cpp`) reads and writes the registers of a device by transfers of
the SMBus driver. `write_byte_data` fills in the value where the number of the register belongs, so
it writes every value to the register with the number of that value. `read_block_data` does not
check the length it is asked for. The driver rejects some of the others, as it sees their lowest
byte.

So a device behaves as a file of registers, in a run of calls, exactly if each write is one that
makes no difference, and each length that is out of range is rejected by the driver
(`registers_faithful_iff`).

While all calls have been faithful the registers are those of the record (`regs_of_faithful`), so
each call can be judged by itself: a write puts its value into the register with that number, which
makes no difference exactly if this is the register that was meant or both hold the value already
(`faithful_write_iff`), and a read returns the registers from the first one on as long as its length
is in range (`faithful_read_iff`).
-/

namespace Foxtrot

namespace I2c

open Histories

/-! ### Transfers -/

/-- The registers of a device. -/
abbrev Registers := UInt8 → UInt8

/-- `i2c_smbus_data`. The block is its length, at most 32 bytes, and one more byte. -/
abbrev SmbusData := Fin 34 → UInt8

/-- `read_write`. -/
inductive ReadWrite where
  | read
  | write

/-- The kind of a transfer. -/
inductive Size where
  | byteData
  | i2cBlockData

/-- `i2c_smbus_ioctl_data`. -/
structure SmbusIoctlData where
  readWrite : ReadWrite
  command : UInt8
  size : Size
  data : SmbusData

/-- What the driver does with the device. The class makes no other transfers. -/
def smbus (regs : Registers) (ioc : SmbusIoctlData) : Option (Registers × SmbusData) :=
  match ioc.readWrite, ioc.size with
  | .write, .byteData => some (Function.update regs ioc.command (ioc.data 0), ioc.data)
  | .read, .i2cBlockData =>
    if 32 < ioc.data 0 then
      none
    else
      some (regs, fun i =>
        if 1 ≤ i.val ∧ i.val ≤ (ioc.data 0).toNat then
          regs (ioc.command + UInt8.ofNat (i.val - 1))
        else
          ioc.data i)
  | _, _ => none

/-- How a call fails. -/
inductive Fault where
  | thrown (e : Thrown)
  /-- It uses memory outside of the block. The behaviour is undefined. -/
  | outOfBounds
  deriving DecidableEq

/-- The bytes from `dat.block + 1` to `dat.block + len + 1`. -/
def blockRange (dat : SmbusData) (len : ℤ) : Except Fault (List UInt8) :=
  if h : 0 ≤ len ∧ len + 1 ≤ 34 then
    .ok (List.ofFn fun i : Fin len.toNat => dat ⟨i.val + 1, by omega⟩)
  else
    .error .outOfBounds

/-- What a call finds on its way. -/
structure Circumstances where
  /-- The transfer fails. -/
  fails : Bool
  /-- What its `dat` holds before it is filled in. -/
  dat : SmbusData

/-- `ioctl(_fd, I2C_SMBUS, &ioc)`. -/
def ioctl (c : Circumstances) (regs : Registers) (ioc : SmbusIoctlData) :
    Option (Registers × SmbusData) :=
  if c.fails then none else smbus regs ioc

/-- `read_block_data`. An `int` is stored as its lowest byte. -/
def readBlockData (c : Circumstances) (regs : Registers) (cmd : UInt8) (len : ℤ) :
    Except Fault (List UInt8) × Registers :=
  let dat := Function.update c.dat 0 (UInt8.ofNat (len % 2 ^ 8).toNat)
  match ioctl c regs ⟨.read, cmd, .i2cBlockData, dat⟩ with
  | none => (.error (.thrown (.protocolError "ioctl failed...")), regs)
  | some (regs, dat) => (blockRange dat len, regs)

/-- `write_byte_data`. The number of the register is not used. -/
def writeByteData (c : Circumstances) (regs : Registers) (_reg val : UInt8) :
    Except Fault Unit × Registers :=
  let dat := Function.update c.dat 0 val
  match ioctl c regs ⟨.write, val, .byteData, dat⟩ with
  | none => (.error (.thrown (.protocolError "ioctl failed in write_byte_data")), regs)
  | some (regs, _) => (.ok (), regs)

/-! ### Runs of calls -/

/-- A call on the object. -/
inductive Call where
  | readBlockData (cmd : UInt8) (len : ℤ)
  | writeByteData (reg val : UInt8)

/-- What a call comes to: the bytes that it has read. -/
def Call.run (c : Circumstances) (regs : Registers) :
    Call → Except Fault (List UInt8) × Registers
  | readBlockData cmd len => I2c.readBlockData c regs cmd len
  | writeByteData reg val => (I2c.writeByteData c regs reg val).map (·.map fun _ => []) id

/-- A call, and what it finds. -/
structure Turn where
  call : Call
  circumstances : Circumstances

/-- A call that has ended. -/
structure Outcome where
  turn : Turn
  result : Except Fault (List UInt8)
  before : Registers
  after : Registers

/-- The outcome of a call. -/
def Turn.outcome (t : Turn) (regs : Registers) : Outcome :=
  let ended := t.call.run t.circumstances regs
  ⟨t, ended.1, regs, ended.2⟩

/-- The registers, and the calls so far. -/
structure BusState where
  regs : Registers
  outcomes : List Outcome

/-- The state after one more call. -/
def BusState.after (s : BusState) (t : Turn) : BusState :=
  ⟨(t.outcome s.regs).after, s.outcomes ++ [t.outcome s.regs]⟩

/-- The calls for a device with these registers. -/
def calls (initial : Registers) : TransitionSystem BusState Turn where
  init := ⟨initial, []⟩
  step s t := some (s.after t)

/-! ### A file of registers -/

/-- The register that a call has been asked to write, and the value, if it has not failed. -/
def Outcome.written (o : Outcome) : Option (UInt8 × UInt8) :=
  match o.turn.call, o.result with
  | .writeByteData reg val, .ok _ => some (reg, val)
  | _, _ => none

/-- The value written last to a register, or its initial value. -/
def expected (initial : Registers) (outcomes : List Outcome) : Registers := fun reg =>
  (lastWritten Outcome.written outcomes reg).getD (initial reg)

/-- The length of a block. -/
def InRange (len : ℤ) : Prop := 1 ≤ len ∧ len ≤ 32

instance (len : ℤ) : Decidable (InRange len) :=
  inferInstanceAs (Decidable (1 ≤ len ∧ len ≤ 32))

/-- A call has treated the device as a file of registers, after the calls before it. -/
structure Outcome.Faithful (initial : Registers) (earlier : List Outcome) (o : Outcome) : Prop where
  read : ∀ cmd len, o.turn.call = .readBlockData cmd len → InRange len →
    o.turn.circumstances.fails = false → o.result = .ok ((List.range len.toNat).map fun i =>
      expected initial earlier (cmd + UInt8.ofNat i))
  /-- A write puts the value into its register, and changes no other. -/
  write : ∀ reg val, o.turn.call = .writeByteData reg val → ∀ done, o.result = .ok done →
    o.after = Function.update o.before reg val
  kept : o.written = none → o.after = o.before
  inside : o.result ≠ .error .outOfBounds
  rejected : ∀ cmd len, o.turn.call = .readBlockData cmd len → ¬ InRange len →
    ∃ e, o.result = .error e

/-- **The device behaves as a file of registers** in all calls. -/
def Faithful (initial : Registers) (outcomes : List Outcome) : Prop :=
  Throughout (Outcome.Faithful initial) outcomes

/-- Nothing comes of the number of the register, or of the length, that is wrong: the value is in
its own register already and in the one to be written, or it is the number of the register; the
length is in range, or the driver rejects its lowest byte. Or the transfer fails. -/
def Harmless (s : BusState) (t : Turn) : Prop :=
  match t.call with
  | .writeByteData reg val =>
    t.circumstances.fails = false → reg = val ∨ s.regs reg = val ∧ s.regs val = val
  | .readBlockData _ len => InRange len ∨ 32 < len % 2 ^ 8 ∨ t.circumstances.fails = true

/-! ### One call -/

section Call

variable {c : Circumstances} {regs : Registers} {cmd reg val : UInt8} {len : ℤ}

private theorem readBlockData_of_fails (h : c.fails = true) : readBlockData c regs cmd len =
    (.error (.thrown (.protocolError "ioctl failed...")), regs) := by
  rw [readBlockData, ioctl, h]
  rfl

private theorem toNat_length (len : ℤ) :
    (UInt8.ofNat (len % 2 ^ 8).toNat).toNat = (len % 2 ^ 8).toNat := by
  rw [UInt8.toNat_ofNat']
  exact Nat.mod_eq_of_lt (by omega)

/-- The driver rejects a block that is too long. -/
theorem readBlockData_of_rejected (h : 32 < len % 2 ^ 8) : readBlockData c regs cmd len =
    (.error (.thrown (.protocolError "ioctl failed...")), regs) := by
  cases hfails : c.fails with
  | true => exact readBlockData_of_fails hfails
  | false =>
    have hlong : 32 < UInt8.ofNat (len % 2 ^ 8).toNat := by
      rw [UInt8.lt_iff_toNat_lt, toNat_length]
      exact (Int.lt_toNat).mpr h
    simp only [readBlockData, ioctl, hfails, smbus, Function.update_self, if_pos hlong,
      Bool.false_eq_true, if_false]

/-- A block of another length is read into the buffer, whatever is then made of it. -/
theorem readBlockData_of_accepted (regs : Registers) (cmd : UInt8) (hfails : c.fails = false)
    (h : len % 2 ^ 8 ≤ 32) :
    ∃ dat, readBlockData c regs cmd len = (blockRange dat len, regs) ∧
      ∀ i : Fin 34, 1 ≤ i.val → (i.val : ℤ) ≤ len % 2 ^ 8 →
        dat i = regs (cmd + UInt8.ofNat (i.val - 1)) := by
  have hshort : ¬ 32 < UInt8.ofNat (len % 2 ^ 8).toNat := by
    rw [UInt8.lt_iff_toNat_lt, toNat_length]
    exact not_lt.mpr (Int.toNat_le.mpr h)
  simp only [readBlockData, ioctl, hfails, smbus, Function.update_self, if_neg hshort,
    Bool.false_eq_true, if_false]
  refine ⟨_, rfl, fun i hpos hle => if_pos ⟨hpos, ?_⟩⟩
  rw [toNat_length]
  omega

private theorem readBlockData_regs : (readBlockData c regs cmd len).2 = regs := by
  by_cases hfails : c.fails = true
  · rw [readBlockData_of_fails hfails]
  · by_cases h : len % 2 ^ 8 ≤ 32
    · obtain ⟨dat, hread, -⟩ := readBlockData_of_accepted regs cmd
        (Bool.eq_false_iff.mpr hfails) h
      rw [hread]
    · rw [readBlockData_of_rejected (Int.not_le.mp h)]

/-- A block of a length in range holds the registers from the first one on. -/
theorem readBlockData_of_inRange (regs : Registers) (cmd : UInt8) (hfails : c.fails = false)
    (h : InRange len) :
    (readBlockData c regs cmd len).1 =
      .ok ((List.range len.toNat).map fun i => regs (cmd + UInt8.ofNat i)) := by
  obtain ⟨hlow, hhigh⟩ := h
  have hmod : len % 2 ^ 8 = len := Int.emod_eq_of_lt (by omega) (by omega)
  obtain ⟨dat, hread, hdat⟩ := readBlockData_of_accepted regs cmd hfails
    (hmod.trans_le hhigh)
  rw [hread, blockRange, dif_pos ⟨by omega, by omega⟩]
  refine congrArg Except.ok (List.ext_getElem (by simp) fun i hi hi' => ?_)
  rw [List.getElem_ofFn, List.getElem_map, List.getElem_range]
  rw [List.length_ofFn] at hi
  exact hdat _ (Nat.le_add_left 1 i) (by rw [hmod]; push_cast; omega)

/-- A length out of range that the driver accepts is not rejected by an exception. -/
theorem readBlockData_of_outside (regs : Registers) (cmd : UInt8) (hfails : c.fails = false)
    (h : len % 2 ^ 8 ≤ 32) (hrange : ¬ InRange len) : (readBlockData c regs cmd len).1 = .ok [] ∨
      (readBlockData c regs cmd len).1 = .error .outOfBounds := by
  obtain ⟨dat, hread, -⟩ := readBlockData_of_accepted regs cmd hfails h
  rw [hread]
  by_cases hzero : len = 0
  · subst hzero
    exact .inl rfl
  · refine .inr (dif_neg ?_)
    unfold InRange at hrange
    omega

private theorem writeByteData_of_fails (h : c.fails = true) : writeByteData c regs reg val =
    (.error (.thrown (.protocolError "ioctl failed in write_byte_data")), regs) := by
  rw [writeByteData, ioctl, h]
  rfl

/-- A write puts the value into the register with its number. -/
theorem writeByteData_of_succeeds (h : c.fails = false) :
    writeByteData c regs reg val = (.ok (), Function.update regs val val) := by
  simp only [writeByteData, ioctl, h, smbus, Function.update_self, Bool.false_eq_true, if_false]

/-- Writing a value to its own register instead of another one makes no difference exactly if both
are the same register, or hold the value. -/
theorem update_self_eq_update_iff :
    Function.update regs val val = Function.update regs reg val ↔
      reg = val ∨ regs reg = val ∧ regs val = val := by
  constructor
  · intro h
    by_cases heq : reg = val
    · exact .inl heq
    · have hreg := congrFun h reg
      have hval := congrFun h val
      rw [Function.update_of_ne heq, Function.update_self] at hreg
      rw [Function.update_self, Function.update_of_ne (Ne.symm heq)] at hval
      exact .inr ⟨hreg, hval.symm⟩
  · rintro (rfl | ⟨hreg, hval⟩)
    · rfl
    · rw [Function.update_eq_self_iff.mpr hval.symm, Function.update_eq_self_iff.mpr hreg.symm]

end Call

/-! ### Whole runs -/

section Runs

variable {initial : Registers} {s s' : BusState} {t : Turn} {o : Outcome} {outcomes : List Outcome}
  {reg val : UInt8}

/-- A call that writes nothing changes nothing that is expected. -/
private theorem expected_concat_of_none (h : o.written = none) :
    expected initial (outcomes ++ [o]) = expected initial outcomes := by
  funext r
  change (lastWritten Outcome.written (outcomes ++ [o]) r).getD (initial r) = _
  rw [lastWritten_concat_of_none h]
  rfl

/-- A write changes what is expected of its register. -/
private theorem expected_concat_of_some (h : o.written = some (reg, val)) :
    expected initial (outcomes ++ [o]) = Function.update (expected initial outcomes) reg val := by
  funext r
  change (lastWritten Outcome.written (outcomes ++ [o]) r).getD (initial r) = _
  rw [lastWritten_concat_of_some h, Function.update_apply, Function.update_apply]
  by_cases hr : r = reg
  · rw [if_pos hr, if_pos hr, Option.getD_some]
  · rw [if_neg hr, if_neg hr]
    rfl

/-- A call has written exactly if it is a write that returned. -/
private theorem written_eq_some_iff : o.written = some (reg, val) ↔
    o.turn.call = .writeByteData reg val ∧ ∃ done, o.result = .ok done := by
  constructor
  · intro h
    rw [Outcome.written] at h
    split at h
    case h_1 reg' val' done hcall hresult =>
      obtain ⟨rfl, rfl⟩ := Prod.mk.inj (Option.some.inj h)
      exact ⟨hcall, done, hresult⟩
    case h_2 => cases h
  · rintro ⟨hcall, done, hresult⟩
    rw [Outcome.written, hcall, hresult]

private theorem step_calls : (calls initial).step s t = some s' ↔ s' = s.after t :=
  Option.some_inj.trans eq_comm

/-- While the device behaves as a file of registers, each has the value written last to it. -/
theorem regs_of_faithful (hs : (calls initial).Reachable s) (h : Faithful initial s.outcomes) :
    s.regs = expected initial s.outcomes := by
  refine hs.invariant (P := fun s => Faithful initial s.outcomes →
    s.regs = expected initial s.outcomes) (fun _ => rfl) ?_ h
  rintro s t s' - ih - hstep hfaith
  obtain rfl := step_calls.mp hstep
  obtain ⟨hbefore, hlast⟩ := throughout_concat.mp hfaith
  have hregs := ih hbefore
  change (t.outcome s.regs).after = expected initial (s.outcomes ++ [t.outcome s.regs])
  cases hwritten : (t.outcome s.regs).written with
  | none =>
    rw [hlast.kept hwritten, expected_concat_of_none hwritten]
    exact hregs
  | some e =>
    obtain ⟨reg, val⟩ := e
    obtain ⟨hcall, done, hresult⟩ := written_eq_some_iff.mp hwritten
    rw [hlast.write reg val hcall done hresult, expected_concat_of_some hwritten]
    exact congrArg (Function.update · reg val) hregs

/-- A read treats the device as a file of registers exactly if its length is rejected where it is
out of range. -/
theorem faithful_read_iff (hregs : s.regs = expected initial s.outcomes) {cmd : UInt8} {len : ℤ}
    {c : Circumstances} :
    ((⟨.readBlockData cmd len, c⟩ : Turn).outcome s.regs).Faithful initial s.outcomes ↔
      InRange len ∨ 32 < len % 2 ^ 8 ∨ c.fails = true := by
  have hresult : ((⟨.readBlockData cmd len, c⟩ : Turn).outcome s.regs).result =
      (readBlockData c s.regs cmd len).1 := rfl
  have hafter : ((⟨.readBlockData cmd len, c⟩ : Turn).outcome s.regs).after = s.regs :=
    readBlockData_regs
  constructor
  · intro h
    by_contra hnot
    obtain ⟨hrange, hnot⟩ := not_or.mp hnot
    obtain ⟨haccepted, hfails⟩ := not_or.mp hnot
    -- a length out of range must be rejected, but the driver takes it
    obtain ⟨e, he⟩ := h.rejected cmd len rfl hrange
    obtain hok | hout := readBlockData_of_outside s.regs cmd
      (Bool.eq_false_iff.mpr hfails) (Int.not_lt.mp haccepted) hrange
    · rw [hresult, hok] at he
      cases he
    · exact h.inside (hresult.trans hout)
  · intro h
    by_cases hfails : c.fails = true ∨ 32 < len % 2 ^ 8
    · -- the driver refuses more than 32 in the eight bits of the length
      have hthrown : (readBlockData c s.regs cmd len).1 =
          .error (.thrown (.protocolError "ioctl failed...")) := by
        obtain hfails | hlong := hfails
        · rw [readBlockData_of_fails hfails]
        · rw [readBlockData_of_rejected hlong]
      refine ⟨?_, fun _ _ hcall => (nomatch hcall), fun _ => hafter, ?_, ?_⟩
      · rintro _ _ ⟨⟩ hrange hsucceeds
        obtain hfails | hlong := hfails
        · cases hfails.symm.trans hsucceeds
        · unfold InRange at hrange
          omega
      · rw [hresult, hthrown]
        exact fun heq => nomatch heq
      · exact fun _ _ _ _ => ⟨_, hresult.trans hthrown⟩
    · obtain ⟨hsucceeds, haccepted⟩ := not_or.mp hfails
      have hrange : InRange len := h.resolve_right fun h => hfails h.symm
      have hread := readBlockData_of_inRange s.regs cmd
        (Bool.eq_false_iff.mpr hsucceeds) hrange
      refine ⟨?_, fun _ _ hcall => (nomatch hcall), fun _ => hafter, ?_, ?_⟩
      · rintro _ _ ⟨⟩ - -
        rw [hresult, hread, hregs]
      · rw [hresult, hread]
        exact fun heq => nomatch heq
      · rintro _ _ ⟨⟩ hout
        exact absurd hrange hout

/-- A write treats the device as a file of registers exactly if it makes no difference that the
value is taken for the number of the register. -/
theorem faithful_write_iff {c : Circumstances} :
    ((⟨.writeByteData reg val, c⟩ : Turn).outcome s.regs).Faithful initial s.outcomes ↔
      (c.fails = false → reg = val ∨ s.regs reg = val ∧ s.regs val = val) := by
  cases hfails : c.fails with
  | true =>
    have hout : (⟨.writeByteData reg val, c⟩ : Turn).outcome s.regs =
        ⟨⟨.writeByteData reg val, c⟩,
          .error (.thrown (.protocolError "ioctl failed in write_byte_data")), s.regs, s.regs⟩ := by
      rw [Turn.outcome, Call.run, writeByteData_of_fails hfails]
      rfl
    rw [hout]
    refine iff_of_true ⟨?_, ?_, fun _ => rfl, ?_, ?_⟩ (fun h => nomatch h)
    · exact fun _ _ hcall => nomatch hcall
    · exact fun _ _ _ _ hresult => nomatch hresult
    · exact fun heq => nomatch heq
    · exact fun _ _ hcall => nomatch hcall
  | false =>
    have hout : (⟨.writeByteData reg val, c⟩ : Turn).outcome s.regs =
        ⟨⟨.writeByteData reg val, c⟩, .ok [], s.regs, Function.update s.regs val val⟩ := by
      rw [Turn.outcome, Call.run, writeByteData_of_succeeds hfails]
      rfl
    rw [hout, forall_prop_of_true rfl, ← update_self_eq_update_iff]
    constructor
    · exact fun h => h.write reg val rfl [] rfl
    · refine fun h => ⟨?_, ?_, ?_, ?_, ?_⟩
      · exact fun _ _ hcall => nomatch hcall
      · rintro _ _ ⟨⟩ _ -
        exact h
      · exact fun hwritten => nomatch hwritten
      · exact fun heq => nomatch heq
      · exact fun _ _ hcall => nomatch hcall

/-- **The device behaves as a file of registers** exactly if nothing comes of the number of the
register, or of the length, that is wrong. -/
theorem registers_faithful_iff {turns : List Turn}
    (hrun : (calls initial).run (calls initial).init turns = some s) :
    Faithful initial s.outcomes ↔ (calls initial).Guarded Harmless (calls initial).init turns := by
  refine TransitionSystem.run_iff_guarded (P := fun s => Faithful initial s.outcomes)
    (show Faithful initial [] from throughout_nil) (fun s t s' hs hstep => ?_) hrun
  obtain rfl := step_calls.mp hstep
  refine throughout_concat.trans (and_congr_right fun h => ?_)
  obtain ⟨call, c⟩ := t
  cases call with
  | readBlockData cmd len => exact faithful_read_iff (regs_of_faithful hs h)
  | writeByteData reg val => exact faithful_write_iff

end Runs

/-- The registers of a device that holds zeros. -/
def zeros : Registers := fun _ => 0

/-- A transfer that succeeds. -/
def succeeds : Circumstances := ⟨false, fun _ => 0⟩

/-- A register that is given its own number is read back. -/
theorem registers_faithful_iff_own_number : Faithful zeros
    (((calls zeros).run (calls zeros).init [⟨.writeByteData 7 7, succeeds⟩,
      ⟨.readBlockData 6 3, succeeds⟩, ⟨.readBlockData 6 40, succeeds⟩]).get rfl).outcomes := by
  refine (registers_faithful_iff (Option.some_get rfl).symm).mpr ⟨fun _ => .inl rfl, ?_⟩
  rintro _ ⟨⟩
  refine ⟨.inl (by decide), ?_⟩
  rintro _ ⟨⟩
  exact ⟨.inr (.inl (by decide)), fun _ _ => trivial⟩

/-- The value 5 is written to register 1, and register 5 has it. -/
theorem written_to_its_own_number : ∃ s,
    (calls zeros).run (calls zeros).init [⟨.writeByteData 1 5, succeeds⟩,
      ⟨.readBlockData 1 5, succeeds⟩] = some s ∧
      s.outcomes.map Outcome.result = [.ok [], .ok [0, 0, 0, 0, 5]] ∧
      ¬ Faithful zeros s.outcomes := by
  refine ⟨_, rfl, by decide, fun h => ?_⟩
  obtain ⟨⟨-, hwrite⟩, -⟩ := (throughout_concat.mp h).imp_left throughout_concat.mp
  have hafter := congrFun (hwrite.write 1 5 rfl [] rfl) 1
  revert hafter
  decide

end I2c

end Foxtrot
