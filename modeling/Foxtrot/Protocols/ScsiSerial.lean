import Foxtrot.Foundation.LittleEndian
import Foxtrot.Foundation.MachineArithmetic
import Foxtrot.Server.Handler

/-!
# Serial lines over SCSI

`scsiserial` reads and writes the blocks of a SCSI device as a serial line. A transfer names a
number of blocks in its command, and has a buffer of its own length. A read asks for one block into
its buffer, however many it names. A write counts the blocks of the data, but transfers them behind
their length, in two more bytes, and pads them to one block at most. So the blocks that are named
cover a read only of at most a block, and a write only if the length and the data fit in a block or
fill a number of them (`transfers_cover_iff`).
-/

namespace Foxtrot

/-- `scsidirection`. -/
inductive ScsiDirection where
  | none
  | toDev
  | fromDev
  deriving DecidableEq

/-- `sg_io_hdr_t`, as far as `get_req_struct` sets it, without the buffer for sense data. -/
structure SgIoHdr where
  interfaceId : Char
  dxferDirection : ScsiDirection
  iovecCount : UInt16
  timeout : UInt32
  /-- What the buffer of the transfer holds. -/
  dxferp : List UInt8
  dxferLen : UInt32
  cmdp : List UInt8
  cmdLen : UInt8

/-- `scsiserial`. -/
structure ScsiSerial where
  timeout : UInt32
  lba : UInt32
  /-- `_blen`, a positive `int`. -/
  blen : { n : ℕ // 0 < n ∧ n < 2 ^ 31 }

namespace ScsiSerial

/-- `get_req_struct`. -/
def getReqStruct (s : ScsiSerial) (cmd reply : List UInt8) (dir : ScsiDirection) : SgIoHdr where
  interfaceId := 'S'
  dxferDirection := dir
  iovecCount := 0
  timeout := s.timeout
  dxferp := reply
  dxferLen := UInt32.ofNat reply.length
  cmdp := cmd
  cmdLen := UInt8.ofNat cmd.length

/-- The ten bytes of a command for blocks. -/
def blockCommand (opcode : UInt8) (lba : UInt32) (numLbas : UInt16) : List UInt8 :=
  [opcode, 0] ++ (LittleEndian.bytes 4 lba.toNat).reverse ++ [0] ++
    (LittleEndian.bytes 2 numLbas.toNat).reverse ++ [0]

/-- The request of `scsi_read10`. -/
def scsiRead10 (s : ScsiSerial) (numLbas : UInt16) (lba len : UInt32) : SgIoHdr :=
  s.getReqStruct (blockCommand 0x28 lba numLbas) (List.replicate len.toNat 0) .fromDev

/-- The request of `scsi_write10`. Of the number of blocks, two bytes are written. -/
def scsiWrite10 (s : ScsiSerial) (data : List UInt8) (lba numLbas : UInt32) : SgIoHdr :=
  s.getReqStruct (blockCommand 0x2A lba numLbas.toUInt16) data .toDev

/-- `prepend_length_chrs`. -/
def prependLengthChrs (req : List UInt8) : List UInt8 := LittleEndian.bytes 2 req.length ++ req

/-- `num_lbas` of `read` and of `write`: the quotient of the lengths as floating-point numbers,
rounded up. -/
def numLbas (fl : Rounding) (s : ScsiSerial) (len : ℕ) : UInt32 :=
  UInt32.ofNat ⌈fl.round (len / s.blen.1)⌉₊

/-- The transfer of `read`. -/
def readRequest (fl : Rounding) (s : ScsiSerial) (len : UInt32) : SgIoHdr :=
  s.scsiRead10 (s.numLbas fl len.toNat).toUInt16 s.lba (UInt32.ofNat s.blen.1)

/-- `read`. The device answers with what the buffer holds after the transfer, or the call throws. -/
def read (fl : Rounding) (s : ScsiSerial) (performIoctl : SgIoHdr → Except Thrown (List UInt8))
    (len : UInt32) : Except Thrown (List UInt8) := do
  let repl ← performIoctl (s.readRequest fl len)
  return repl.takeWhile (· ≠ 0)

/-- The transfer of `write`. -/
def writeRequest (fl : Rounding) (s : ScsiSerial) (data : List UInt8) : SgIoHdr :=
  let datavec := prependLengthChrs data
  s.scsiWrite10
    (if datavec.length < s.blen.1 then datavec ++ List.replicate (s.blen.1 - datavec.length) 0
      else datavec)
    s.lba (s.numLbas fl data.length)

/-- `write`. -/
def write (fl : Rounding) (s : ScsiSerial) (performIoctl : SgIoHdr → Except Thrown Unit)
    (data : List UInt8) : Except Thrown Unit :=
  performIoctl (s.writeRequest fl data)

end ScsiSerial

/-! ### Covering the data -/

/-- The number of blocks in a command for blocks. -/
def SgIoHdr.blocksNamed (req : SgIoHdr) : ℕ :=
  LittleEndian.value ((req.cmdp.drop 7).take 2).reverse

namespace ScsiSerial

/-- **A write covers its data**: the blocks that are named are what is transferred, which has room
for the length and the data, and begins with them. -/
structure WriteCovers (s : ScsiSerial) (data : List UInt8) (req : SgIoHdr) : Prop where
  blocks : req.blocksNamed * s.blen.1 = req.dxferLen.toNat
  enough : data.length + 2 ≤ req.dxferLen.toNat
  starts : LittleEndian.bytes 2 data.length ++ data <+: req.dxferp

/-- **A read covers its length**: the blocks that are named are what is transferred, which is as
much as is asked for. -/
structure ReadCovers (s : ScsiSerial) (len : UInt32) (req : SgIoHdr) : Prop where
  blocks : req.blocksNamed * s.blen.1 = req.dxferLen.toNat
  enough : len.toNat ≤ req.dxferLen.toNat

/-- The length and the data fit in a block, and there are data; or they fill a number of blocks. -/
def FitsBlocks (s : ScsiSerial) (data : List UInt8) : Prop :=
  3 ≤ s.blen.1 ∧ (s.blen.1 ∣ data.length + 2 ∨ 1 ≤ data.length ∧ data.length + 2 ≤ s.blen.1)

variable {fl : Rounding} {s : ScsiSerial} {data : List UInt8}

/-- The command names the blocks that it is given. -/
theorem blocksNamed_getReqStruct (s : ScsiSerial) (opcode : UInt8) (lba : UInt32) (numLbas : UInt16)
    (reply : List UInt8) (dir : ScsiDirection) :
    (s.getReqStruct (blockCommand opcode lba numLbas) reply dir).blocksNamed = numLbas.toNat := by
  have hfront : ([opcode, 0] ++ (LittleEndian.bytes 4 lba.toNat).reverse ++ [0]).length = 7 := by
    simp [LittleEndian.length_bytes]
  have htwo : (LittleEndian.bytes 2 numLbas.toNat).reverse.length = 2 := by
    rw [List.length_reverse, LittleEndian.length_bytes]
  have hbytes : (((blockCommand opcode lba numLbas).drop 7).take 2).reverse =
      LittleEndian.bytes 2 numLbas.toNat := by
    rw [blockCommand, List.append_assoc _ _ [0], List.drop_left' hfront, List.take_left' htwo,
      List.reverse_reverse]
  have hvalue := LittleEndian.value_bytes (w := 2) numLbas.toNat_lt
  rwa [SgIoHdr.blocksNamed, getReqStruct, hbytes]

private theorem toNat_numLbas {len : ℕ} (hlen : len < 2 ^ 32) :
    (s.numLbas fl len).toNat = Pieces.count s.blen.1 len := by
  have hle := Pieces.count_le s.blen.2.1 len
  rw [numLbas, fl.ceil_round_div s.blen.2.1 (hlen.trans (by norm_num)), UInt32.toNat_ofNat']
  exact Nat.mod_eq_of_lt (hle.trans_lt hlen)

private theorem length_prependLengthChrs (req : List UInt8) :
    (prependLengthChrs req).length = req.length + 2 := by
  rw [prependLengthChrs, List.length_append, LittleEndian.length_bytes, Nat.add_comm]

/-- A write transfers a block at least. -/
theorem writeRequest_eq (fl : Rounding) (s : ScsiSerial) (data : List UInt8) :
    ∃ padding, s.writeRequest fl data =
        s.scsiWrite10 (prependLengthChrs data ++ padding) s.lba (s.numLbas fl data.length) ∧
      (prependLengthChrs data ++ padding).length = max (data.length + 2) s.blen.1 := by
  have hlength := length_prependLengthChrs data
  by_cases hshort : (prependLengthChrs data).length < s.blen.1
  · refine ⟨List.replicate (s.blen.1 - (prependLengthChrs data).length) 0, ?_, ?_⟩
    · rw [writeRequest, if_pos hshort]
    · rw [List.length_append, List.length_replicate]
      omega
  · refine ⟨[], ?_, ?_⟩
    · rw [writeRequest, if_neg hshort, List.append_nil]
    · rw [List.append_nil]
      omega

/-- A write covers the data exactly if they fit in their blocks. -/
private theorem writeCovers_iff (hdata : data.length < 65536 - 2) :
    s.WriteCovers data (s.writeRequest fl data) ↔ s.FitsBlocks data := by
  obtain ⟨padding, hrequest, hlength⟩ := writeRequest_eq fl s data
  have hblen := s.blen.2
  have hcount := Pieces.count_le s.blen.2.1 data.length
  have hnamed : (s.writeRequest fl data).blocksNamed = Pieces.count s.blen.1 data.length := by
    rw [hrequest, scsiWrite10, blocksNamed_getReqStruct, UInt32.toNat_toUInt16,
      toNat_numLbas (by omega)]
    exact Nat.mod_eq_of_lt (by omega)
  have hlen : (s.writeRequest fl data).dxferLen.toNat = max (data.length + 2) s.blen.1 := by
    rw [hrequest, scsiWrite10, getReqStruct, hlength, UInt32.toNat_ofNat']
    exact Nat.mod_eq_of_lt (by omega)
  have hstarts : LittleEndian.bytes 2 data.length ++ data <+: (s.writeRequest fl data).dxferp := by
    rw [hrequest]
    exact List.prefix_append _ _
  have hblocks : Pieces.count s.blen.1 data.length * s.blen.1 = max (data.length + 2) s.blen.1 ↔
      s.FitsBlocks data := by
    rw [Pieces.count_mul_eq_iff s.blen.2.1, FitsBlocks]
    -- the request has one block at least, and the length in front counts as data
    obtain hle | hlt := le_or_gt (data.length + 2) s.blen.1
    · rw [max_eq_right hle]
      constructor
      · rintro ⟨-, -, hpos⟩
        exact ⟨by omega, .inr ⟨by omega, hle⟩⟩
      · rintro ⟨hthree, hdvd | ⟨hpos, -⟩⟩
        · have hge := Nat.le_of_dvd (by omega) hdvd
          exact ⟨dvd_rfl, by omega, by omega⟩
        · exact ⟨dvd_rfl, by omega, by omega⟩
    · rw [max_eq_left hlt.le]
      constructor
      · rintro ⟨hdvd, -, hpos⟩
        exact ⟨by omega, .inl hdvd⟩
      · rintro ⟨hthree, hdvd | ⟨-, hle⟩⟩
        · exact ⟨hdvd, by omega, by omega⟩
        · omega
  constructor
  · intro h
    rw [← hblocks, ← hnamed, ← hlen]
    exact h.blocks
  · intro h
    exact ⟨by rw [hnamed, hlen, hblocks]; exact h, by rw [hlen]; exact le_max_left _ _, hstarts⟩

/-- A read covers what is asked for exactly if that is one block at most. -/
private theorem readCovers_iff {len : UInt32} :
    s.ReadCovers len (s.readRequest fl len) ↔ 1 ≤ len.toNat ∧ len.toNat ≤ s.blen.1 := by
  have hblen := s.blen.2
  have hnamed : (s.readRequest fl len).blocksNamed =
      Pieces.count s.blen.1 len.toNat % 2 ^ 16 := by
    rw [readRequest, scsiRead10, blocksNamed_getReqStruct, UInt32.toNat_toUInt16,
      toNat_numLbas len.toNat_lt]
  have hlen : (s.readRequest fl len).dxferLen.toNat = s.blen.1 := by
    rw [readRequest, scsiRead10, getReqStruct, List.length_replicate, UInt32.toNat_ofNat',
      UInt32.toNat_ofNat']
    omega
  -- at most one block is counted where the length fits in a block
  have hsmall : len.toNat ≤ s.blen.1 →
      Pieces.count s.blen.1 len.toNat % 2 ^ 16 = Pieces.count s.blen.1 len.toNat := by
    intro hle
    have hlt := Pieces.count_mul_lt s.blen.2.1 len.toNat
    have hcount : Pieces.count s.blen.1 len.toNat < 2 :=
      Nat.lt_of_mul_lt_mul_right (a := s.blen.1) (by omega)
    exact Nat.mod_eq_of_lt (by omega)
  constructor
  · rintro ⟨hblocks, henough⟩
    rw [hlen] at henough
    rw [hnamed, hlen, hsmall henough, Pieces.count_mul_eq_iff s.blen.2.1] at hblocks
    exact ⟨by omega, henough⟩
  · rintro ⟨hpos, hle⟩
    refine ⟨?_, by rwa [hlen]⟩
    rw [hnamed, hlen, hsmall hle, Pieces.count_mul_eq_iff s.blen.2.1]
    exact ⟨dvd_rfl, hle, by omega⟩

/-- **Serial lines over SCSI**: a write covers its data exactly if they fit in a block with their
length, or fill a number of blocks with it, and a read covers its length exactly if that is a block
at most, and not zero. -/
theorem transfers_cover_iff (fl : Rounding) (s : ScsiSerial) :
    (∀ data : { data : List UInt8 // data.length < 65536 - 2 },
      s.WriteCovers data.1 (s.writeRequest fl data.1) ↔ s.FitsBlocks data.1) ∧
    ∀ len : UInt32, s.ReadCovers len (s.readRequest fl len) ↔
      1 ≤ len.toNat ∧ len.toNat ≤ s.blen.1 :=
  ⟨fun data => writeCovers_iff data.2, fun _ => readCovers_iff⟩

/-- A device with blocks of 512 bytes. -/
def disk : ScsiSerial := ⟨1000, 0, 512, by decide⟩

/-- One block is named for 513 bytes. -/
theorem not_transfers_cover : ¬ disk.WriteCovers (List.replicate 511 0)
    (disk.writeRequest .exact (List.replicate 511 0)) := by
  have hlength : (List.replicate 511 (0 : UInt8)).length = 511 := List.length_replicate
  rw [writeCovers_iff (by rw [hlength]; norm_num), FitsBlocks, hlength]
  decide

end ScsiSerial

end Foxtrot
