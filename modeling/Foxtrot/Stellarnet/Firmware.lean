import Foxtrot.Foundation.Fallible
import Foxtrot.Foundation.IntelHex
import Foxtrot.Foundation.Stateful
import Foxtrot.Server.Handler

/-!
# The firmware of the Stellarnet spectrometer

`load_stellarnet_firmware_payload` (`devices/stellarnet/stellarnet.cpp`) reads an Intel HEX file
line by line. It looks at neither the type of a record nor its checksum, so **the record that ends
the file replaces the data at address 0**, and a wrong checksum goes unseen. Where a line has fewer
digits than its count says, it reads past the end of the text, whose outcome is not defined
(`LoadError.undefined`).

`upload_stellarnet_device_firmware` sends what has been loaded, entry by entry, between the
transfers that put the CPU into reset and release it.

So a file is loaded and sent as it should be if and only if each byte of a record that is replaced
is also in one that stays, and, where a line is malformed, the first line that cannot be read throws
(`right_iff`).

What is read of a line is characterised for any line, record or not: the fields are at fixed places,
`substr` past the end throws, and a byte that is cut off by the end of the text is where the reading
becomes undefined. For a file of data records the loaded table is the one of the records that no
later record at the same address replaces, in which the last record counts as one at address 0; the
table is then sent in the order of the addresses, one transfer for each entry (`sent_of_upload`).
-/

namespace Foxtrot

namespace Stellarnet

open Text IntelHex Hexadecimal

/-! ### Loading -/

/-- Why a file is not loaded. -/
inductive LoadError where
  | thrown (e : Thrown)
  /-- A text has been read past its end. -/
  | undefined
  deriving DecidableEq

/-- `std::stoi` with the base 16. -/
def readHex (text : String) : Except LoadError ℤ :=
  (stoiHex text).mapError fun e => .thrown (thrownByNumber "stoi" e)

/-- `std::string::substr`. -/
def substrOrThrow (line : String) (pos n : ℕ) : Except LoadError String :=
  (substr line pos n).elim (.error (.thrown (.outOfRange "basic_string::substr"))) .ok

/-- The loop over the payload. A byte is read from two characters, and cut to an `unsigned char`. -/
def readPayload : ℕ → List Char → Except LoadError (List ℕ)
  | 0, _ => .ok []
  | n + 1, c :: c' :: cs => do
    let byte ← readHex (String.ofList [c, c'])
    let payload ← readPayload n cs
    return (byte % 2 ^ 8).toNat :: payload
  | _ + 1, _ => .error .undefined

/-- The address and the payload of a line. -/
def readLine (line : String) : Except LoadError (ℕ × List ℕ) := do
  let count ← readHex (← substrOrThrow line 1 2)
  let addr ← readHex (← substrOrThrow line 3 4)
  let payloadstr ← substrOrThrow line 9 (sizeT (count * 2))
  if count < 0 then
    .error (.thrown (.exception "vector::_M_default_append"))
  else do
    let payload ← readPayload count.toNat payloadstr.toList
    return ((addr % 2 ^ 32).toNat, payload)

/-- The loop over the lines. -/
def readLines (out : Store) : List String → Except LoadError Store
  | [] => .ok out
  | line :: lines => do
    let (addr, payload) ← readLine line
    readLines (out.insert addr payload) lines

/-- `load_stellarnet_firmware_payload`, of a file that may not be there. -/
def loadStellarnetFirmwarePayload : Option String → Except LoadError Store
  | none => .error (.thrown (.deviceError "couldn't open Stellarnet firmware file!"))
  | some text => readLines ∅ (getlines text)

/-! ### Uploading -/

/-- A transfer to the device. -/
structure ControlTransfer where
  bmRequestType : ℕ
  bRequest : ℕ
  wValue : ℕ
  wIndex : ℕ
  data : List ℕ
  deriving DecidableEq

/-- A transfer to the FX2. The address is cut to a `std::uint16_t`. -/
def fx2Transfer (wValue : ℕ) (data : List ℕ) : ControlTransfer :=
  ⟨0x40, 0xA0, wValue % 2 ^ 16, 0, data⟩

/-- The transfer that puts the CPU into reset, or releases it. -/
def resetTransfer (reset : ℕ) : ControlTransfer := fx2Transfer 0xE600 [reset]

/-- The device, with what it has been sent. -/
structure LibUsbDevice where
  isOpen : Bool
  configuration : ℕ
  sent : List ControlTransfer

abbrev UploadM := Stateful LibUsbDevice LoadError

/-- The entries of the firmware, in the order of their addresses. -/
def visit (fw : Store) : List (ℕ × List ℕ) :=
  (fw.entries.map fun e => (e.1, e.2)).mergeSort fun e e' => e.1 ≤ e'.1

section Upload

/- What `libusb` reports of the transfer after these, if it fails. -/
variable (fails : List ControlTransfer → Option String)

/-- `blocking_control_transfer_send`. -/
def blockingControlTransferSend (transfer : ControlTransfer) : UploadM Unit :=
  ExceptT.mk fun dev =>
    match fails dev.sent with
    | some what => (.error (.thrown (.protocolError what)), dev)
    | none => (.ok (), { dev with sent := dev.sent ++ [transfer] })

/-- `upload_stellarnet_device_firmware`. -/
def uploadStellarnetDeviceFirmware (fw : Store) : UploadM Unit := do
  (ExceptT.mk fun dev => (.ok (), { dev with isOpen := true, configuration := 1 }) : UploadM Unit)
  blockingControlTransferSend fails (resetTransfer 1)
  (visit fw).forM fun e => blockingControlTransferSend fails (fx2Transfer e.1 e.2)
  blockingControlTransferSend fails (resetTransfer 0)
  (ExceptT.mk fun dev => (.ok (), { dev with isOpen := false }) : UploadM Unit)

/-- What is loaded of the file. The device is left alone. -/
def load (file : Option String) : UploadM Store :=
  ExceptT.mk fun dev => (loadStellarnetFirmwarePayload file, dev)

/-- The file is loaded, and what has been loaded is uploaded, as the constructor does it. -/
def install (file : Option String) : UploadM Unit := do
  uploadStellarnetDeviceFirmware fails (← load file)

end Upload

/-! ### What is asked of a file -/

/-- **The firmware is that of the file**: the data bytes of a file of data records are loaded at
their addresses, and each entry is sent once between reset and release. A malformed file is rejected
before anything is sent. -/
structure Right (text : String) : Prop where
  loaded : ∀ rs, File (getlines text) rs → ∃ fw,
    loadStellarnetFirmwarePayload (some text) = .ok fw ∧
    (∀ a b, IntelHex.Holds fw a b ↔ ∃ r ∈ rs, r.Holds a b) ∧
    ∃ payloads, payloads.Perm (fw.entries.map fun e => ⟨0x40, 0xA0, e.1, 0, e.2⟩) ∧
      (∀ fails dev dev', (install fails (some text)).on dev = (.ok (), dev') →
        dev'.sent = dev.sent ++ resetTransfer 1 :: (payloads ++ [resetTransfer 0])) ∧
      ∀ dev, ((install (fun _ => none) (some text)).on dev).1 = .ok ()
  rejected : Malformed (getlines text) → ∃ e, ∀ fails dev,
    (install fails (some text)).on dev = (.error (.thrown e), dev)

/-- Each byte of a record is also in a record that no later one replaces, nor the one that ends the
file. -/
def Covered (rs : List Record) : Prop :=
  ∀ r ∈ rs, ∀ a b, r.Holds a b → ∃ r', Stays rs r' ∧ r'.address ≠ 0 ∧ r'.Holds a b

/-- The digits of the count. -/
def countField (line : String) : String := String.ofList ((line.toList.drop 1).take 2)

/-- The digits of the address. -/
def addressField (line : String) : String := String.ofList ((line.toList.drop 3).take 4)

/-- The digits of a data byte. -/
def dataField (text : List Char) (k : ℕ) : String := String.ofList ((text.drop (2 * k)).take 2)

/-- The data bytes can be read. -/
def DataReadable (count : ℕ) (text : List Char) : Prop :=
  2 * count ≤ text.length ∧ ∀ k < count, ∃ n, stoiHex (dataField text k) = .ok n

/-- The first data byte that cannot be read has both its digits. -/
def DataUnreadable (count : ℕ) (text : List Char) : Prop :=
  ∃ k < count, 2 * k + 2 ≤ text.length ∧ (∀ j < k, ∃ n, stoiHex (dataField text j) = .ok n) ∧
    ∃ e, stoiHex (dataField text k) = .error e

/-- All fields of the line can be read. -/
def Readable (line : String) : Prop :=
  9 ≤ line.length ∧ (∃ n, stoiHex (addressField line) = .ok n) ∧
    ∃ count : ℕ, stoiHex (countField line) = .ok (count : ℤ) ∧
      DataReadable count (line.toList.drop 9)

/-- The first field of the line that cannot be read is one that throws. -/
inductive Unreadable (line : String) : Prop
  | short (h : line.length < 9)
  | count {e : NumberError} (h : stoiHex (countField line) = .error e)
  | address {e : NumberError} (h : stoiHex (addressField line) = .error e)
  | negative {n : ℤ} (h : stoiHex (countField line) = .ok n) (hn : n < 0)
  | data {count : ℕ} (hcount : stoiHex (countField line) = .ok (count : ℤ))
      (h : DataUnreadable count (line.toList.drop 9))

/-- The first line that cannot be read throws. -/
def Rejects (lines : List String) : Prop :=
  ∃ before line after, lines = before ++ line :: after ∧ (∀ l ∈ before, Readable l) ∧
    Unreadable line

/-! ### What is read of a line -/

section Reading

variable {line text : String} {cs : List Char} {c c' : Char} {n count : ℕ}

/-- The computation throws. -/
def Throws {A : Type} (x : Except LoadError A) : Prop := ∃ e, x = .error (.thrown e)

/-- A sequence throws where one of its parts does. -/
private theorem throws_bind_iff {A A' : Type} {x : Except LoadError A}
    {f : A → Except LoadError A'} :
    Throws (x >>= f) ↔ Throws x ∨ ∃ a, x = .ok a ∧ Throws (f a) := by
  simp only [Throws, Fallible.bind_eq_error_iff]
  constructor
  · rintro ⟨e, he | ⟨a, ha, he⟩⟩
    · exact .inl ⟨e, he⟩
    · exact .inr ⟨a, ha, e, he⟩
  · rintro (⟨e, he⟩ | ⟨a, ha, e, he⟩)
    · exact ⟨e, .inl he⟩
    · exact ⟨e, .inr ⟨a, ha, he⟩⟩

private theorem not_throws_ok {A : Type} (a : A) : ¬ Throws (.ok a) := by
  rintro ⟨e, ⟨⟩⟩

private theorem readHex_eq_ok_iff {v : ℤ} : readHex text = .ok v ↔ stoiHex text = .ok v :=
  Fallible.mapError_eq_ok_iff

private theorem throws_readHex_iff : Throws (readHex text) ↔ ∃ e, stoiHex text = .error e := by
  rw [Throws, readHex]
  cases stoiHex text with
  | ok v => exact iff_of_false (not_throws_ok v) (by simp)
  | error e => exact iff_of_true ⟨_, rfl⟩ ⟨e, rfl⟩

/-- Within the line `substr` gives what is there. -/
private theorem substrOrThrow_of_le {pos : ℕ} (h : pos ≤ line.length) (n : ℕ) :
    substrOrThrow line pos n = .ok (String.ofList ((line.toList.drop pos).take n)) := by
  rw [substrOrThrow, substr_eq_some h]
  rfl

private theorem substrOrThrow_of_lt {pos : ℕ} (h : line.length < pos) (n : ℕ) :
    substrOrThrow line pos n = .error (.thrown (.outOfRange "basic_string::substr")) := by
  rw [substrOrThrow, substr, if_pos h]
  rfl

/-- Data can be read if its first byte can, and the others. -/
private theorem dataReadable_cons_iff : DataReadable (n + 1) (c :: c' :: cs) ↔
    (∃ v, stoiHex (String.ofList [c, c']) = .ok v) ∧ DataReadable n cs := by
  have hlength : 2 * (n + 1) ≤ (c :: c' :: cs).length ↔ 2 * n ≤ cs.length := by
    simp only [List.length_cons]
    omega
  rw [DataReadable, Nat.forall_lt_succ_left, hlength, and_left_comm]
  rfl

/-- Data throws at the first byte that cannot be read. -/
private theorem dataUnreadable_cons_iff : DataUnreadable (n + 1) (c :: c' :: cs) ↔
    (∃ e, stoiHex (String.ofList [c, c']) = .error e) ∨
      (∃ v, stoiHex (String.ofList [c, c']) = .ok v) ∧ DataUnreadable n cs := by
  have hlength : ∀ k, 2 * (k + 1) + 2 ≤ (c :: c' :: cs).length ↔ 2 * k + 2 ≤ cs.length := by
    intro k
    simp only [List.length_cons]
    omega
  constructor
  · rintro ⟨k, hk, hle, hbefore, herror⟩
    cases k with
    | zero => exact .inl herror
    | succ k =>
      rw [Nat.forall_lt_succ_left] at hbefore
      exact .inr ⟨hbefore.1, k, Nat.lt_of_succ_lt_succ hk, (hlength k).mp hle, hbefore.2, herror⟩
  · rintro (herror | ⟨hfirst, k, hk, hle, hbefore, herror⟩)
    · exact ⟨0, Nat.succ_pos n, by simp, nofun, herror⟩
    · exact ⟨k + 1, Nat.succ_lt_succ hk, (hlength k).mpr hle,
        Nat.forall_lt_succ_left.mpr ⟨hfirst, hbefore⟩, herror⟩

private theorem not_dataReadable_of_length_lt (h : cs.length < 2) : ¬ DataReadable (n + 1) cs :=
  fun hreadable => by
    have hle := hreadable.1
    omega

/-- Nor does it throw, where there is no further pair. -/
private theorem not_dataUnreadable_of_length_lt (h : cs.length < 2) : ¬ DataUnreadable n cs := by
  rintro ⟨k, -, hle, -⟩
  omega

/-- There is a further pair of characters, or there is not. -/
private theorem length_lt_or_eq_cons (cs : List Char) :
    cs.length < 2 ∨ ∃ c c' cs', cs = c :: c' :: cs' := by
  match cs with
  | [] | [_] => exact .inl (by simp)
  | c :: c' :: cs => exact .inr ⟨c, c', cs, rfl⟩

/-- To read beyond the end of the data is undefined. -/
private theorem readPayload_of_length_lt (h : cs.length < 2) :
    readPayload (n + 1) cs = .error .undefined := by
  match cs, h with
  | [], _ | [_], _ => rfl

/-- The payload is read if its bytes can be read. -/
theorem readPayload_returns_iff (n : ℕ) (cs : List Char) :
    (∃ payload, readPayload n cs = .ok payload) ↔ DataReadable n cs := by
  induction n generalizing cs with
  | zero => exact iff_of_true ⟨[], rfl⟩ ⟨Nat.zero_le _, nofun⟩
  | succ n ih =>
    obtain hlt | ⟨c, c', cs, rfl⟩ := length_lt_or_eq_cons cs
    · refine iff_of_false ?_ (not_dataReadable_of_length_lt hlt)
      rw [readPayload_of_length_lt hlt]
      rintro ⟨payload, ⟨⟩⟩
    · rw [dataReadable_cons_iff, ← ih, readPayload, Fallible.bind_returns_iff]
      simp only [readHex_eq_ok_iff, Fallible.map_returns_iff, exists_and_right]

/-- The reading of the payload throws at the first byte that cannot be read, if both its digits are
there. -/
theorem throws_readPayload_iff (n : ℕ) (cs : List Char) :
    Throws (readPayload n cs) ↔ DataUnreadable n cs := by
  induction n generalizing cs with
  | zero => exact iff_of_false (not_throws_ok []) fun ⟨_, hk, _⟩ => absurd hk (Nat.not_lt_zero _)
  | succ n ih =>
    obtain hlt | ⟨c, c', cs, rfl⟩ := length_lt_or_eq_cons cs
    · refine iff_of_false ?_ (not_dataUnreadable_of_length_lt hlt)
      rw [readPayload_of_length_lt hlt]
      rintro ⟨e, ⟨⟩⟩
    · rw [dataUnreadable_cons_iff, ← ih, readPayload, throws_bind_iff, throws_readHex_iff]
      simp only [readHex_eq_ok_iff, throws_bind_iff, not_throws_ok, and_false, exists_false,
        or_false, exists_and_right, pure, Except.pure]

/-- A line without a payload throws. -/
theorem throws_readLine_of_short (h : line.length < 9) : Throws (readLine line) := by
  have hpayload : ∀ n, Throws (substrOrThrow line 9 n) :=
    fun n => ⟨_, substrOrThrow_of_lt h n⟩
  -- whatever comes of the fields before, the payload cannot be cut out
  have hfield : ∀ pos n, Throws (substrOrThrow line pos n) ∨
      ∃ field, substrOrThrow line pos n = .ok field := by
    intro pos n
    obtain hlt | hle := lt_or_ge line.length pos
    · exact .inl ⟨_, substrOrThrow_of_lt hlt n⟩
    · exact .inr ⟨_, substrOrThrow_of_le hle n⟩
  have hread : ∀ field, Throws (readHex field) ∨ ∃ v, readHex field = .ok v := by
    intro field
    cases hfield : stoiHex field with
    | error e => exact .inl (throws_readHex_iff.mpr ⟨e, hfield⟩)
    | ok v => exact .inr ⟨v, readHex_eq_ok_iff.mpr hfield⟩
  rw [readLine, throws_bind_iff]
  refine (hfield 1 2).imp id fun ⟨field, hcount⟩ => ⟨field, hcount, ?_⟩
  rw [throws_bind_iff]
  refine (hread field).imp id fun ⟨count, hcount⟩ => ⟨count, hcount, ?_⟩
  rw [throws_bind_iff]
  refine (hfield 3 4).imp id fun ⟨field, haddr⟩ => ⟨field, haddr, ?_⟩
  rw [throws_bind_iff]
  refine (hread field).imp id fun ⟨addr, haddr⟩ => ⟨addr, haddr, ?_⟩
  rw [throws_bind_iff]
  exact .inl (hpayload _)

/-- A line with a payload is read field by field. -/
theorem readLine_of_le (h : 9 ≤ line.length) : readLine line = do
    let count ← readHex (countField line)
    let addr ← readHex (addressField line)
    if count < 0 then
      .error (.thrown (.exception "vector::_M_default_append"))
    else do
      let payload ← readPayload count.toNat ((line.toList.drop 9).take (sizeT (count * 2)))
      return ((addr % 2 ^ 32).toNat, payload) := by
  rw [readLine, Fallible.bind_of_ok (substrOrThrow_of_le (by omega) 2)]
  refine bind_congr fun count => ?_
  rw [Fallible.bind_of_ok (substrOrThrow_of_le (by omega) 4)]
  refine bind_congr fun addr => ?_
  rw [Fallible.bind_of_ok (substrOrThrow_of_le h _), String.toList_ofList]

/-- A field of the data is within the characters that belong to it. -/
private theorem dataField_take {k : ℕ} (hk : k < n) :
    dataField (cs.take (2 * n)) k = dataField cs k := by
  have hmin : min 2 (2 * n - 2 * k) = 2 := by omega
  rw [dataField, List.drop_take, List.take_take, hmin, dataField]

/-- What follows the data does not matter to whether it can be read. -/
private theorem dataReadable_take_iff : DataReadable n (cs.take (2 * n)) ↔ DataReadable n cs := by
  have hlength : 2 * n ≤ (cs.take (2 * n)).length ↔ 2 * n ≤ cs.length := by
    rw [List.length_take]
    omega
  rw [DataReadable, hlength, DataReadable]
  refine and_congr_right' (forall₂_congr fun k hk => ?_)
  rw [dataField_take hk]

/-- What follows the data does not matter to whether it throws. -/
private theorem dataUnreadable_take_iff :
    DataUnreadable n (cs.take (2 * n)) ↔ DataUnreadable n cs := by
  refine exists_congr fun k => and_congr_right fun hk => ?_
  have hlength : 2 * k + 2 ≤ (cs.take (2 * n)).length ↔ 2 * k + 2 ≤ cs.length := by
    rw [List.length_take]
    omega
  rw [hlength, dataField_take hk]
  refine and_congr_right' (and_congr_left' (forall₂_congr fun j hj => ?_))
  rw [dataField_take (hj.trans hk)]

private theorem sizeT_mul_two (n : ℕ) : sizeT ((n : ℤ) * 2) = 2 * n := by
  rw [sizeT, if_pos (by omega)]
  omega

/-- A line is read if all its fields can be read. -/
theorem readLine_returns_iff : (∃ v, readLine line = .ok v) ↔ Readable line := by
  obtain hlt | hle := lt_or_ge line.length 9
  · obtain ⟨e, he⟩ := throws_readLine_of_short hlt
    rw [he]
    exact iff_of_false (by simp) fun h => absurd h.1 (not_le.mpr hlt)
  rw [readLine_of_le hle, Readable, and_iff_right hle]
  simp only [Fallible.bind_returns_iff, readHex_eq_ok_iff]
  constructor
  · rintro ⟨count, hcount, addr, haddr, v, hv⟩
    split_ifs at hv with hneg
    lift count to ℕ using not_lt.mp hneg
    obtain ⟨payload, hpayload, -⟩ := Fallible.bind_eq_ok_iff.mp hv
    rw [sizeT_mul_two, Int.toNat_natCast] at hpayload
    exact ⟨⟨addr, haddr⟩, count, hcount, dataReadable_take_iff.mp
      ((readPayload_returns_iff _ _).mp ⟨payload, hpayload⟩)⟩
  · rintro ⟨⟨addr, haddr⟩, count, hcount, hdata⟩
    obtain ⟨payload, hpayload⟩ :=
      (readPayload_returns_iff _ _).mpr (dataReadable_take_iff.mpr hdata)
    refine ⟨count, hcount, addr, haddr, ((addr % 2 ^ 32).toNat, payload), ?_⟩
    rw [if_neg (by omega), sizeT_mul_two, Int.toNat_natCast, hpayload]
    rfl

/-- A line throws if the first of its fields that cannot be read is one that throws. -/
theorem throws_readLine_iff : Throws (readLine line) ↔ Unreadable line := by
  obtain hlt | hle := lt_or_ge line.length 9
  · exact iff_of_true (throws_readLine_of_short hlt) (.short hlt)
  rw [readLine_of_le hle]
  simp only [throws_bind_iff, throws_readHex_iff, readHex_eq_ok_iff]
  constructor
  · rintro (⟨e, he⟩ | ⟨count, hcount, ⟨e, he⟩ | ⟨addr, -, h⟩⟩)
    · exact .count he
    · exact .address he
    · split_ifs at h with hneg
      · exact .negative hcount hneg
      · lift count to ℕ using not_lt.mp hneg
        rw [sizeT_mul_two, Int.toNat_natCast, throws_bind_iff] at h
        obtain h | ⟨payload, -, h⟩ := h
        · exact .data hcount (dataUnreadable_take_iff.mp ((throws_readPayload_iff _ _).mp h))
        · exact absurd h (not_throws_ok _)
  · intro h
    -- the count is read before the address, so it is the first to throw
    cases haddr : stoiHex (addressField line) with
    | error e =>
      cases hcount : stoiHex (countField line) with
      | error e => exact .inl ⟨e, rfl⟩
      | ok count => exact .inr ⟨count, rfl, .inl ⟨e, rfl⟩⟩
    | ok addr =>
      cases h with
      | short h => exact absurd h (not_lt.mpr hle)
      | count h => exact .inl ⟨_, h⟩
      | address h =>
        rw [haddr] at h
        cases h
      | negative h hn =>
        refine .inr ⟨_, h, .inr ⟨addr, rfl, ?_⟩⟩
        rw [if_pos hn]
        exact ⟨_, rfl⟩
      | @data count hcount h =>
        refine .inr ⟨_, hcount, .inr ⟨addr, rfl, ?_⟩⟩
        rw [if_neg (by omega), sizeT_mul_two, Int.toNat_natCast, throws_bind_iff]
        exact .inl ((throws_readPayload_iff _ _).mpr (dataUnreadable_take_iff.mpr h))

/-- The lines are read until one throws. -/
theorem throws_readLines_iff {lines : List String} (out : Store) :
    Throws (readLines out lines) ↔ Rejects lines := by
  induction lines generalizing out with
  | nil =>
    refine iff_of_false (not_throws_ok out) ?_
    rintro ⟨before, line, after, heq, -⟩
    simp at heq
  | cons line lines ih =>
    rw [readLines, throws_bind_iff, throws_readLine_iff]
    constructor
    · rintro (h | ⟨v, hv, h⟩)
      · exact ⟨[], line, lines, rfl, nofun, h⟩
      · obtain ⟨before, line', after, rfl, hbefore, hline⟩ := (ih _).mp h
        exact ⟨line :: before, line', after, rfl,
          List.forall_mem_cons.mpr ⟨readLine_returns_iff.mp ⟨v, hv⟩, hbefore⟩, hline⟩
    · rintro ⟨before, line', after, heq, hbefore, hline⟩
      cases before with
      | nil =>
        obtain ⟨rfl, rfl⟩ := List.cons.inj heq
        exact .inl hline
      | cons first before =>
        obtain ⟨rfl, rfl⟩ := List.cons.inj heq
        rw [List.forall_mem_cons] at hbefore
        obtain ⟨v, hv⟩ := readLine_returns_iff.mpr hbefore.1
        exact .inr ⟨v, hv, (ih _).mpr ⟨before, line', after, rfl, hbefore.2, hline⟩⟩

end Reading

/-! ### Files of data records -/

section Files

variable {line : String} {r : Record} {rs : List Record} {text : String}

private theorem readHex_of_digits {cs : List Char} {n : ℕ} (h : readNat cs = some n)
    (hn : n < 2 ^ 31) :
    readHex (String.ofList cs) = .ok n :=
  readHex_eq_ok_iff.mpr (stoiHex_of_digits (by rwa [String.toList_ofList]) hn)

/-- The payload of a record. -/
theorem readPayload_of_pairs {cs : List Char} {data : List ℕ} (h : pairs cs = some data)
    (hdigits : cs.all isxdigit) : readPayload data.length cs = .ok data := by
  induction data generalizing cs with
  | nil => rfl
  | cons b data ih =>
    obtain ⟨c, c', cs, rfl, hb, hcs⟩ := exists_of_pairs_eq_cons h
    rw [List.all_cons, List.all_cons, Bool.and_eq_true, Bool.and_eq_true] at hdigits
    obtain ⟨hc, hc', hdigits⟩ := hdigits
    have hread : readNat [c, c'] = some b := by
      rw [← hb]
      exact if_pos ⟨List.cons_ne_nil _ _, by simp [hc, hc']⟩
    have hlt : b < 16 ^ 2 := lt_of_readNat hread
    have hbyte : ((b : ℤ) % 2 ^ 8).toNat = b := by omega
    rw [List.length_cons, readPayload, Fallible.bind_of_ok (readHex_of_digits hread (by omega)),
      Fallible.bind_of_ok (ih hcs hdigits), hbyte]
    rfl

/-- A line that is a record is read as that record. -/
theorem readLine_of_decode (h : decode line = .ok r) : readLine line = .ok (r.address, r.data) := by
  obtain ⟨count, address, type, data, rest, hline⟩ := exists_fields_of_decode h
  have hdata : data.length = 2 * r.data.length := length_of_pairs hline.pairs
  have hlength : 9 ≤ line.length := by
    rw [← String.length_toList, hline.text]
    simp only [List.length_cons, List.length_append, hline.length_count, hline.length_address,
      hline.length_type]
    omega
  have hcount : countField line = String.ofList count := by
    rw [countField, hline.text, List.drop_one, List.tail_cons, List.take_left' hline.length_count]
  have haddress : addressField line = String.ofList address := by
    have htext : line.toList = (':' :: count) ++ (address ++ (type ++ (data ++ rest))) := hline.text
    rw [addressField, htext, List.drop_left' (by rw [List.length_cons, hline.length_count]),
      List.take_left' hline.length_address]
  -- the payload begins behind the nine characters of the header
  have hpayload : (line.toList.drop 9).take (2 * r.data.length) = data := by
    have htext : line.toList = (':' :: (count ++ address ++ type)) ++ (data ++ rest) := by
      simp [hline.text]
    have hheader : (':' :: (count ++ address ++ type)).length = 9 := by
      rw [List.length_cons, List.length_append, List.length_append, hline.length_count,
        hline.length_address, hline.length_type]
    rw [htext, List.drop_left' hheader, List.take_left' hdata]
  have hcount_lt : r.data.length < 16 ^ 2 := hline.length_count ▸ lt_of_readNat hline.count
  have haddress_lt : r.address < 16 ^ 4 := hline.length_address ▸ lt_of_readNat hline.address
  have hmod : ((r.address : ℤ) % 2 ^ 32).toNat = r.address := by omega
  rw [readLine_of_le hlength, hcount, haddress,
    Fallible.bind_of_ok (readHex_of_digits hline.count (by omega)),
    Fallible.bind_of_ok (readHex_of_digits hline.address (by omega)), if_neg (by omega),
    sizeT_mul_two, Int.toNat_natCast, hpayload,
    Fallible.bind_of_ok (readPayload_of_pairs hline.pairs hline.digits), hmod]
  rfl

/-- The lines of a file of records are stored one after the other. -/
theorem readLines_of_decode {lines : List String} (h : lines.map decode = rs.map Except.ok)
    (out : Store) :
    readLines out lines = .ok (rs.foldl (fun m r => m.insert r.address r.data) out) := by
  induction lines generalizing rs out with
  | nil =>
    obtain rfl := List.map_eq_nil_iff.mp h.symm
    rfl
  | cons line lines ih =>
    obtain ⟨r, rs, rfl, hr, hrs⟩ := List.map_eq_cons_iff.mp h.symm
    rw [readLines, Fallible.bind_of_ok (readLine_of_decode hr.symm)]
    exact ih hrs.symm _

/-- A file of records is loaded as these records, with the last one. -/
private theorem load_of_file (h : File (getlines text) rs) :
    loadStellarnetFirmwarePayload (some text) = .ok (store (rs ++ [endOfFile])) :=
  readLines_of_decode h.2 ∅

/-- **What is loaded of a file**: the records that stay, without those at address 0. -/
theorem holds_loaded_iff {a b : ℕ} : IntelHex.Holds (store (rs ++ [endOfFile])) a b ↔
    ∃ r, Stays rs r ∧ r.address ≠ 0 ∧ r.Holds a b := by
  rw [holds_store_iff]
  constructor
  · rintro ⟨r, hstays, hbyte⟩
    obtain rfl | ⟨hstays, hne⟩ := stays_concat_iff.mp hstays
    · obtain ⟨i, hi, -⟩ := hbyte
      cases hi
    · exact ⟨r, hstays, hne, hbyte⟩
  · rintro ⟨r, hstays, hne, hbyte⟩
    exact ⟨r, stays_concat_iff.mpr (.inr ⟨hstays, hne⟩), hbyte⟩

/-- All data bytes are loaded if each is in a record that stays. -/
theorem forall_holds_loaded_iff : (∀ a b, IntelHex.Holds (store (rs ++ [endOfFile])) a b ↔
    ∃ r ∈ rs, r.Holds a b) ↔ Covered rs := by
  constructor
  · exact fun h r hr a b hbyte => holds_loaded_iff.mp ((h a b).mpr ⟨r, hr, hbyte⟩)
  · intro h a b
    rw [holds_loaded_iff]
    constructor
    · rintro ⟨r, hstays, -, hbyte⟩
      exact ⟨r, mem_of_stays hstays, hbyte⟩
    · rintro ⟨r, hr, hbyte⟩
      exact h r hr a b hbyte

private theorem address_lt_of_file {lines : List String} (h : File lines rs) :
    ∀ r ∈ rs ++ [endOfFile], r.address < 2 ^ 16 := by
  intro r hr
  have hmem : Except.ok r ∈ lines.map decode := h.2 ▸ List.mem_map_of_mem hr
  obtain ⟨line, -, hline⟩ := List.mem_map.mp hmem
  obtain ⟨count, address, type, data, rest, hfields⟩ := exists_fields_of_decode hline
  have hlt := lt_of_readNat hfields.address
  rw [hfields.length_address] at hlt
  exact hlt

end Files

/-! ### Uploading -/

section Uploads

variable {fails : List ControlTransfer → Option String} {fw : Store} {dev dev' : LibUsbDevice}
  {text : String}

private theorem send_eq_ok {transfer : ControlTransfer}
    (h : (blockingControlTransferSend fails transfer).on dev = (.ok (), dev')) :
    dev' = { dev with sent := dev.sent ++ [transfer] } := by
  change (match fails dev.sent with
    | some what => (Except.error (LoadError.thrown (.protocolError what)), dev)
    | none => (.ok (), { dev with sent := dev.sent ++ [transfer] })) = _ at h
  cases hfails : fails dev.sent with
  | some what => rw [hfails] at h; cases h
  | none => rw [hfails] at h; cases h; rfl

/-- Where all transfers succeed, they have been sent in order. -/
private theorem forM_send_eq_ok {es : List (ℕ × List ℕ)} (h : (es.forM fun e =>
    blockingControlTransferSend fails (fx2Transfer e.1 e.2)).on dev = (.ok (), dev')) :
    dev' = { dev with sent := dev.sent ++ es.map fun e => fx2Transfer e.1 e.2 } := by
  induction es generalizing dev with
  | nil =>
    cases h
    rw [List.map_nil, List.append_nil]
  | cons e es ih =>
    obtain ⟨⟨⟩, dev₁, hfirst, hrest⟩ := Stateful.on_bind_eq_ok_iff.mp h
    obtain rfl := send_eq_ok hfirst
    rw [ih hrest, List.map_cons, List.append_assoc]
    rfl

private theorem forM_send_of_none (es : List (ℕ × List ℕ)) (dev : LibUsbDevice) :
    (es.forM fun e => blockingControlTransferSend (fun _ => none) (fx2Transfer e.1 e.2)).on dev =
      (.ok (), { dev with sent := dev.sent ++ es.map fun e => fx2Transfer e.1 e.2 }) := by
  induction es generalizing dev with
  | nil =>
    rw [List.map_nil, List.append_nil]
    rfl
  | cons e es ih =>
    refine (ih _).trans ?_
    rw [List.map_cons, List.append_assoc]
    rfl

/-- **An upload** sends each entry once, between reset and release. -/
theorem sent_of_upload (h : (uploadStellarnetDeviceFirmware fails fw).on dev = (.ok (), dev')) :
    dev'.sent = dev.sent ++ resetTransfer 1 ::
      ((visit fw).map (fun e => fx2Transfer e.1 e.2) ++ [resetTransfer 0]) := by
  obtain ⟨⟨⟩, dev₁, hopen, h⟩ := Stateful.on_bind_eq_ok_iff.mp h
  obtain ⟨⟨⟩, dev₂, hreset, h⟩ := Stateful.on_bind_eq_ok_iff.mp h
  obtain ⟨⟨⟩, dev₃, hpayload, h⟩ := Stateful.on_bind_eq_ok_iff.mp h
  obtain ⟨⟨⟩, dev₄, hrelease, h⟩ := Stateful.on_bind_eq_ok_iff.mp h
  cases hopen
  obtain rfl := send_eq_ok hreset
  obtain rfl := forM_send_eq_ok hpayload
  obtain rfl := send_eq_ok hrelease
  cases h
  simp

/-- Where no transfer fails, the upload succeeds. -/
theorem upload_of_none (fw : Store) (dev : LibUsbDevice) :
    ((uploadStellarnetDeviceFirmware (fun _ => none) fw).on dev).1 = .ok () := by
  have hforM := forM_send_of_none (visit fw)
    { dev with isOpen := true, configuration := 1, sent := dev.sent ++ [resetTransfer 1] }
  have hupload : (uploadStellarnetDeviceFirmware (fun _ => none) fw).on dev = _ :=
    Stateful.on_bind_of_ok hforM _
  rw [hupload]
  rfl

/-- The order in which a table is visited leaves none of its entries out. -/
theorem visit_perm (fw : Store) : ((visit fw).map fun e => fx2Transfer e.1 e.2).Perm
    (fw.entries.map fun e => fx2Transfer e.1 e.2) := by
  have hperm := (List.mergeSort_perm (fw.entries.map fun e => (e.1, e.2))
    fun e e' => decide (e.1 ≤ e'.1)).map fun e => fx2Transfer e.1 e.2
  rwa [List.map_map] at hperm

private theorem install_of_load (h : loadStellarnetFirmwarePayload (some text) = .ok fw)
    (dev : LibUsbDevice) : (install fails (some text)).on dev =
      (uploadStellarnetDeviceFirmware fails fw).on dev := by
  have hload : (load (some text)).on dev = (.ok fw, dev) := congrArg (·, dev) h
  exact Stateful.on_bind_of_ok hload _

/-- A file that cannot be loaded is not uploaded, and the device stays. -/
private theorem install_of_error {e : LoadError}
    (h : loadStellarnetFirmwarePayload (some text) = .error e) (dev : LibUsbDevice) :
    (install fails (some text)).on dev = (.error e, dev) := by
  have hload : (load (some text)).on dev = (.error e, dev) := congrArg (·, dev) h
  exact Stateful.on_bind_of_error hload _

/-- A file is rejected before anything is sent if the loading of it throws. -/
theorem rejected_iff :
    (∃ e, ∀ fails dev, (install fails (some text)).on dev = (.error (.thrown e), dev)) ↔
      Rejects (getlines text) := by
  rw [← throws_readLines_iff ∅]
  constructor
  · rintro ⟨e, he⟩
    have hinstall := he (fun _ => none) ⟨false, 0, []⟩
    cases hload : loadStellarnetFirmwarePayload (some text) with
    | ok fw =>
      rw [install_of_load hload] at hinstall
      have hupload := upload_of_none fw ⟨false, 0, []⟩
      rw [hinstall] at hupload
      cases hupload
    | error e' =>
      rw [install_of_error hload] at hinstall
      obtain rfl := Except.error.inj (Prod.mk.inj hinstall).1
      exact ⟨e, hload⟩
  · rintro ⟨e, he⟩
    exact ⟨e, fun fails dev => install_of_error he dev⟩

end Uploads

/-- **A file is installed as it should be if and only if** its data is not replaced by a later
record or by the one that ends the file, unless it is there again; and, if it is malformed, the
first line that cannot be read throws. -/
theorem right_iff {text : String} : Right text ↔
    (∀ rs, File (getlines text) rs → Covered rs) ∧
      (Malformed (getlines text) → Rejects (getlines text)) := by
  constructor
  · intro h
    refine ⟨fun rs hrs => ?_, fun hmalformed => rejected_iff.mp (h.rejected hmalformed)⟩
    obtain ⟨fw, hload, hholds, -⟩ := h.loaded rs hrs
    rw [load_of_file hrs] at hload
    obtain rfl := Except.ok.inj hload
    exact forall_holds_loaded_iff.mp hholds
  · rintro ⟨hcovered, hrejects⟩
    refine ⟨fun rs hrs => ?_, fun hmalformed => rejected_iff.mpr (hrejects hmalformed)⟩
    have hload := load_of_file hrs
    refine ⟨_, hload, forall_holds_loaded_iff.mpr (hcovered rs hrs),
      (visit (store (rs ++ [endOfFile]))).map fun e => fx2Transfer e.1 e.2, ?_,
      fun fails dev dev' h => ?_, fun dev => ?_⟩
    · refine (visit_perm _).trans (.of_eq (List.map_congr_left fun e he => ?_))
      obtain ⟨r, hstays, haddress, -⟩ :=
        lookup_store_eq_some_iff.mp (AList.mk_mem_entries_iff.mp he)
      -- an address of a file has 16 bits, so the cast of the transfer keeps it
      have hlt := address_lt_of_file hrs r (mem_of_stays hstays)
      rw [fx2Transfer, Nat.mod_eq_of_lt (haddress ▸ hlt)]
    · rw [install_of_load hload] at h
      exact sent_of_upload h
    · rw [install_of_load hload]
      exact upload_of_none _ dev

/-- A byte at address 0 is lost, since the end of the file is stored there. A file with a wrong
checksum is loaded. -/
theorem firmware_wrong :
    (File (getlines ":0100000055AA\n:00000001FF\n") [⟨0, 0, [0x55]⟩] ∧
      ¬ Right ":0100000055AA\n:00000001FF\n") ∧
    (Malformed (getlines ":0100100055AA\n:00000001FF\n") ∧
      ¬ Right ":0100100055AA\n:00000001FF\n") := by
  have hfile : File (getlines ":0100000055AA\n:00000001FF\n") [⟨0, 0, [0x55]⟩] :=
    ⟨List.forall_mem_singleton.mpr rfl, by decide⟩
  refine ⟨⟨hfile, fun h => ?_⟩, by decide, fun h => ?_⟩
  · obtain ⟨fw, hload, hholds, -⟩ := h.loaded _ hfile
    rw [load_of_file hfile] at hload
    obtain rfl := Except.ok.inj hload
    obtain ⟨r, hstays, hne, -⟩ := forall_holds_loaded_iff.mp hholds _
      (List.mem_singleton.mpr rfl) 0 0x55 ⟨0, rfl, rfl⟩
    obtain rfl := List.mem_singleton.mp (mem_of_stays hstays)
    exact hne rfl
  · obtain ⟨e, he⟩ := h.rejected (by decide)
    obtain ⟨fw, hload⟩ : ∃ fw, loadStellarnetFirmwarePayload
        (some ":0100100055AA\n:00000001FF\n") = .ok fw := ⟨_, rfl⟩
    have hinstall := he (fun _ => none) ⟨false, 0, []⟩
    have hupload := upload_of_none fw ⟨false, 0, []⟩
    rw [install_of_load hload] at hinstall
    rw [hinstall] at hupload
    cases hupload

end Stellarnet

end Foxtrot
