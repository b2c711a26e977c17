import Foxtrot.Apt.Messages

/-!
# The framing of APT messages

`receive_sync_common` reads back what `transmit_message` has written, and takes just the bytes of
the message, with one exception: the length of the data is put together from signed characters. If
the lower byte of the length is 128 or more, then its sign fills the upper byte (`toNat_dlen`), so
too many bytes are awaited or taken unless the upper byte is full anyway. Without that, any sequence
of messages is received as it has been transmitted, and with it none is (`aptFraming_iff`).
-/

namespace Foxtrot

open Framing

/-! ### Messages -/

/-- A message, in one of the two forms of `transmit_message`. -/
inductive AptMessage where
  | header (opcode : Bsc203Opcodes) (p1 p2 : UInt8) (dest src : Destination)
  | data (opcode : Bsc203Opcodes) (payload : { bytes : List UInt8 // bytes.length < 65536 })
    (dest src : Destination)

namespace AptMessage

def opcode : AptMessage → Bsc203Opcodes
  | header opcode _ _ _ _ | data opcode _ _ _ => opcode

def source : AptMessage → Destination
  | header _ _ _ _ src | data _ _ _ src => src

/-- The bytes that the transmission writes. -/
def transmitted : AptMessage → List UInt8
  | header opcode p1 p2 dest src => Apt.transmitHeader opcode p1 p2 dest src
  | data opcode payload dest src => Apt.transmitData opcode payload.1 dest src

/-- The reply that carries the parameters or the data. -/
def reply : AptMessage → Apt.AptReply
  | header _ p1 p2 _ _ => ⟨p1, p2, none⟩
  | data _ payload _ _ =>
    ⟨UInt8.ofNat payload.1.length, UInt8.ofNat (payload.1.length / 256), some payload.1⟩

/-- A message is received as itself: what is received has its identifier and its payload, and what
follows it is left. -/
def Framed (m : AptMessage) : Prop :=
  Frames (Apt.receiveSyncCommon m.source) m.transmitted (m.reply, m.opcode.code)

/-- Messages that are transmitted one after the other are received as the same sequence. -/
def AllFramed (ms : List AptMessage) : Prop :=
  Frames (ms.mapM fun m => Apt.receiveSyncCommon m.source) (ms.flatMap transmitted)
    (ms.map fun m => (m.reply, m.opcode.code))

/-- The length of the data is not lost in the sign of its lower byte. -/
def LengthKept : AptMessage → Prop
  | header _ _ _ _ _ => True
  | data _ payload _ _ => payload.1.length % 256 < 128 ∨ payload.1.length / 256 = 255

instance (m : AptMessage) : Decidable m.LengthKept := by
  cases m <;> unfold LengthKept <;> infer_instance

end AptMessage

/-! ### Reading what has been transmitted -/

namespace Destination

private theorem code_ne_zero (dest : Destination) : dest.code ≠ 0 := by
  cases dest <;> decide

/-- A destination has the highest bit clear. -/
theorem code_and (dest : Destination) : dest.code &&& 0x80 ≠ 0x80 := by
  cases dest <;> decide

/-- A destination with the highest bit is not zero. -/
private theorem code_or_ne_zero (dest : Destination) : dest.code ||| 0x80 ≠ 0 := by
  cases dest <;> decide

/-- A destination with the highest bit says that data follow. -/
theorem code_or_and (dest : Destination) : (dest.code ||| 0x80) &&& 0x80 = 0x80 := by
  cases dest <;> decide

end Destination

namespace SerialPort

/-- To read as many bytes as there are in front is to take them. -/
theorem frames_readDefinite {len : ℕ} (bytes : Vector UInt8 len) :
    Frames (readDefinite len) bytes.toList bytes := by
  intro rest
  have hlength : bytes.toList.length = len := bytes.length_toList
  have hle : len ≤ (bytes.toList ++ rest).length := by
    rw [List.length_append, hlength]
    exact Nat.le_add_right len rest.length
  have hon : Stateful.on (readDefinite len) (bytes.toList ++ rest) =
      (.ok ⟨((bytes.toList ++ rest).take len).toArray, by simp⟩,
        (bytes.toList ++ rest).drop len) := dif_pos hle
  have htake : (bytes.toList ++ rest).take len = bytes.toList := List.take_left' hlength
  have hdrop : (bytes.toList ++ rest).drop len = rest := List.drop_left' hlength
  rw [hon, hdrop]
  congr 2
  rw [← Vector.toList_inj, Vector.toList_mk, List.toList_toArray, htake]

end SerialPort

namespace Apt

/-- The six bytes of a header. -/
def headerOf (opcode : Bsc203Opcodes) (p1 p2 dest src : UInt8) : Vector UInt8 6 :=
  #v[UInt8.ofNat opcode.code.toNat, UInt8.ofNat (opcode.code.toNat / 256), p1, p2, dest, src]

/-- A message without data is its header. -/
theorem transmitHeader_eq (opcode : Bsc203Opcodes) (p1 p2 : UInt8) (dest src : Destination) :
    transmitHeader opcode p1 p2 dest src = (headerOf opcode p1 p2 dest.code src.code).toList := by
  rw [transmitHeader, LittleEndian.bytes_two]
  rfl

/-- A message with data has their length in its header, and the data behind. -/
theorem transmitData_eq (opcode : Bsc203Opcodes) (data : List UInt8) (dest src : Destination) :
    transmitData opcode data dest src =
      (headerOf opcode (UInt8.ofNat data.length) (UInt8.ofNat (data.length / 256))
        (dest.code ||| 0x80) src.code).toList ++ data := by
  rw [transmitData, LittleEndian.bytes_two, LittleEndian.bytes_two]
  rfl

/-- The opcode is read back from a header. -/
theorem recvOpcode_headerOf (opcode : Bsc203Opcodes) (p1 p2 dest src : UInt8) :
    recvOpcode (headerOf opcode p1 p2 dest src) = opcode.code := by
  have hlt := opcode.code.toNat_lt
  have hlo : (headerOf opcode p1 p2 dest src)[0] = UInt8.ofNat opcode.code.toNat := rfl
  have hhi : (headerOf opcode p1 p2 dest src)[1] = UInt8.ofNat (opcode.code.toNat / 256) := rfl
  rw [← UInt16.toNat_inj, toNat_recvOpcode, hlo, hhi, UInt8.toNat_ofNat', UInt8.toNat_ofNat']
  omega

/-- **The length is read back exactly if its lower byte has no sign, or the upper one is full.** -/
theorem dlen_headerOf_iff (opcode : Bsc203Opcodes) {len : ℕ} (hlen : len < 65536)
    (dest src : UInt8) :
    (dlen (headerOf opcode (UInt8.ofNat len) (UInt8.ofNat (len / 256)) dest src)).toNat = len ↔
      len % 256 < 128 ∨ len / 256 = 255 := by
  have hlo : (headerOf opcode (UInt8.ofNat len) (UInt8.ofNat (len / 256)) dest src)[2] =
      UInt8.ofNat len := rfl
  have hhi : (headerOf opcode (UInt8.ofNat len) (UInt8.ofNat (len / 256)) dest src)[3] =
      UInt8.ofNat (len / 256) := rfl
  rw [toNat_dlen, hlo, hhi, UInt8.toNat_ofNat', UInt8.toNat_ofNat']
  split_ifs <;> omega

section Header

variable {header : Vector UInt8 6} {src : Destination}

/-- A header with a destination, from the source that is expected, passes the checks. -/
theorem frames_checkHeader (hdest : headerDest header ≠ 0) (hsrc : headerSource header = src.code) :
    Frames (checkHeader src header) [] () := by
  have hzeros : ¬ header.all (· = 0) := by
    rw [Vector.all_eq_true]
    exact fun hall => hdest (of_decide_eq_true (hall 4 (by decide)))
  rw [checkHeader, if_neg hdest, if_neg hzeros, if_neg (not_not.mpr hsrc)]
  exact Frames.pure ()

private theorem frames_readData_none (hbit : headerDest header &&& 0x80 ≠ 0x80) :
    Frames (readData header) [] none := by
  rw [readData, if_neg hbit]
  exact Frames.pure none

/-- With it as many are read as the header says. -/
private theorem frames_readData_some (hbit : headerDest header &&& 0x80 = 0x80) {data : List UInt8}
    (hlength : (dlen header).toNat = data.length) :
    Frames (readData header) data (some data) := by
  have hsize : data.toArray.size = (dlen header).toNat := by
    rw [List.size_toArray, hlength]
  have hread := SerialPort.frames_readDefinite ⟨data.toArray, hsize⟩
  rw [Vector.toList_mk, List.toList_toArray] at hread
  have hdata := hread.bind (f := fun bytes => pure (some bytes.toList)) (Frames.pure _)
  rw [List.append_nil] at hdata
  rw [readData, if_pos hbit]
  exact hdata

/-- What is read is as long as the header says. -/
theorem length_of_readData {received rest data : List UInt8}
    (h : Stateful.on (readData header) received = (.ok (some data), rest)) :
    data.length = (dlen header).toNat := by
  by_cases hbit : headerDest header &&& 0x80 = 0x80
  · rw [readData, if_pos hbit] at h
    obtain ⟨bytes, left, -, h⟩ := Stateful.on_bind_eq_ok_iff.mp h
    obtain rfl : bytes.toList = data := Option.some.inj (Except.ok.inj (Prod.mk.inj h).1)
    exact bytes.length_toList
  · rw [readData, if_neg hbit] at h
    cases (Except.ok.inj (Prod.mk.inj h).1)

/-- A header that passes, and data as it announces them, are received. -/
theorem frames_receiveSyncCommon (hdest : headerDest header ≠ 0)
    (hsrc : headerSource header = src.code) {bytes : List UInt8} {data : Option (List UInt8)}
    (hdata : Frames (readData header) bytes data) :
    Frames (receiveSyncCommon src) (header.toList ++ bytes)
      (⟨headerP1 header, headerP2 header, data⟩, recvOpcode header) := by
  have hrest : Frames (readData header >>= fun data =>
      pure (⟨headerP1 header, headerP2 header, data⟩, recvOpcode header)) (bytes ++ [])
      ((⟨headerP1 header, headerP2 header, data⟩ : AptReply), recvOpcode header) :=
    hdata.bind (Frames.pure _)
  rw [List.append_nil] at hrest
  exact (SerialPort.frames_readDefinite header).bind
    ((frames_checkHeader hdest hsrc).bind hrest)

/-- Data that are not as long as the header says are missed. -/
theorem misses_receiveSyncCommon {bytes data : List UInt8} {p1 p2 : UInt8} {opcode : UInt16}
    (hlength : (dlen header).toNat ≠ data.length) :
    Misses (receiveSyncCommon src) (header.toList ++ bytes) (⟨p1, p2, some data⟩, opcode) := by
  intro rest hok
  have hon : Stateful.on (receiveSyncCommon src) (header.toList ++ bytes ++ rest) =
      (.ok (⟨p1, p2, some data⟩, opcode),
        (Stateful.on (receiveSyncCommon src) (header.toList ++ bytes ++ rest)).2) :=
    Prod.ext hok rfl
  rw [List.append_assoc] at hon
  obtain ⟨header', left, hheader, hon⟩ := Stateful.on_bind_eq_ok_iff.mp hon
  rw [SerialPort.frames_readDefinite] at hheader
  obtain rfl : header = header' := Except.ok.inj (Prod.mk.inj hheader).1
  obtain ⟨-, left', -, hon⟩ := Stateful.on_bind_eq_ok_iff.mp hon
  obtain ⟨data', left', hdata, hon⟩ := Stateful.on_bind_eq_ok_iff.mp hon
  obtain ⟨hreply, -⟩ := Prod.mk.inj (Except.ok.inj (Prod.mk.inj hon).1)
  obtain rfl : data' = some data := congrArg AptReply.data hreply
  exact hlength (length_of_readData hdata).symm

end Header

end Apt

/-! ### The framing of messages -/

namespace AptMessage

/-- A message whose length is kept is framed. -/
theorem framed_of_lengthKept {m : AptMessage} (h : m.LengthKept) : m.Framed := by
  cases m with
  | header opcode p1 p2 dest src =>
    have hdata : Frames (Apt.readData (Apt.headerOf opcode p1 p2 dest.code src.code)) [] none :=
      Apt.frames_readData_none dest.code_and
    have hframes := Apt.frames_receiveSyncCommon dest.code_ne_zero rfl hdata
    rw [List.append_nil, Apt.recvOpcode_headerOf, ← Apt.transmitHeader_eq] at hframes
    exact hframes
  | data opcode payload dest src =>
    have hdata := Apt.frames_readData_some dest.code_or_and
      ((Apt.dlen_headerOf_iff opcode payload.2 (dest.code ||| 0x80) src.code).mpr h)
    have hframes := Apt.frames_receiveSyncCommon dest.code_or_ne_zero rfl hdata
    rw [Apt.recvOpcode_headerOf, ← Apt.transmitData_eq] at hframes
    exact hframes

/-- A message whose length is not kept is missed. -/
theorem misses_of_not_lengthKept {m : AptMessage} (h : ¬ m.LengthKept) :
    Misses (Apt.receiveSyncCommon m.source) m.transmitted (m.reply, m.opcode.code) := by
  cases m with
  | header opcode p1 p2 dest src => exact absurd trivial h
  | data opcode payload dest src =>
    have hlength := mt (Apt.dlen_headerOf_iff opcode payload.2 (dest.code ||| 0x80) src.code).mp h
    rw [transmitted, Apt.transmitData_eq]
    exact Apt.misses_receiveSyncCommon hlength

/-- **A message is read back** exactly if its length is kept in the header. -/
private theorem framed_iff (m : AptMessage) : m.Framed ↔ m.LengthKept := by
  refine ⟨fun hframed => ?_, framed_of_lengthKept⟩
  by_contra hkept
  exact hframed.not_misses (misses_of_not_lengthKept hkept)

/-- Messages one after the other are read back exactly if all their lengths are kept. -/
private theorem allFramed_iff (ms : List AptMessage) : AllFramed ms ↔ ∀ m ∈ ms, m.LengthKept := by
  have hcases : ∀ m : AptMessage, m.Framed ∨
      Misses (Apt.receiveSyncCommon m.source) m.transmitted (m.reply, m.opcode.code) :=
    fun m => (em m.LengthKept).imp framed_of_lengthKept misses_of_not_lengthKept
  exact (frames_mapM_iff fun m _ => hcases m).trans (forall₂_congr fun m _ => framed_iff m)

end AptMessage

/-- **The framing of APT messages**: a message is received as itself, and messages one after the
other are received as the same sequence, exactly if the lengths are kept. -/
theorem aptFraming_iff (m : AptMessage) (ms : List AptMessage) :
    (m.Framed ↔ m.LengthKept) ∧ (AptMessage.AllFramed ms ↔ ∀ m ∈ ms, m.LengthKept) :=
  ⟨m.framed_iff, AptMessage.allFramed_iff ms⟩

/-- 128 bytes of data. -/
def longData : AptMessage :=
  .data .motSetLimswitchparams ⟨List.replicate 128 0, by rw [List.length_replicate]; decide⟩
    .host .rack

/-- The length of 128 bytes is read as 65408. -/
theorem not_aptFraming : ¬ longData.Framed := by
  rw [AptMessage.framed_iff, longData, AptMessage.LengthKept, List.length_replicate]
  decide

end Foxtrot
