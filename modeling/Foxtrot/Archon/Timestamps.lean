import Foxtrot.Archon.Modules

/-!
# The time stamps of frames

The timer of an Archon controller counts units of 10 ns. The handler (`devices/archon/archon.cpp`)
synchronises with it by noting its count and the time of the system, and tells the time of a frame
from the count in the status of the frame. Counts are hexadecimal, but that of the synchronisation
is read as a decimal number, the key of the one in the status is misspelt, and what is returned is
the time of the synchronisation. So a time stamp is right exactly if the frame is not later than
that by a microsecond, and none of these mistakes makes the call fail (`rightStamp_iff`).

Times are in microseconds.
-/

namespace Foxtrot

open Text Hexadecimal

/-- `boost::posix_time::to_iso_extended_string`, by which different times have different texts. -/
structure IsoFormat where
  text : ℤ → String
  injective : Function.Injective text

/-- How the functions for the timer fail. -/
inductive TimerFault where
  | thrown (e : Thrown)
  /-- A character behind the end of a string is used. -/
  | outOfBounds
  deriving DecidableEq

/-- `_arch_tmr` and `_sys_tmr`. -/
structure ArchonTimer where
  archTmr : UInt64
  sysTmr : ℤ

/-- `sync_archon_timer`, from the reply to TIMER and the time of the system. -/
def syncArchonTimer (reply : String) (now : ℤ) : Except TimerFault ArchonTimer :=
  match splitFirst '=' reply with
  | none => .error .outOfBounds
  | some (_, count) => do
    let archTmr ← (stoul count).mapError fun e => .thrown (thrownByNumber "stoull" e)
    return ⟨UInt64.ofNat archTmr, now⟩

/-- `get_tstamp`. -/
def getTstamp (iso : IsoFormat) (timer : ArchonTimer) (frame : Ssmap) (buf : ℤ) :
    Except Thrown String := do
  let tstamp ← frame.valueAt (bufKey buf "TIEMSTAMP")
  let tstamp ← (stoulHex tstamp).mapError (thrownByNumber "stoul")
  let archontdiff := UInt64.ofNat tstamp - timer.archTmr
  let _frametime := timer.sysTmr + archontdiff.toNat / 10
  return iso.text timer.sysTmr

/-! ### Right time stamps -/

/-- A synchronisation, and the status of a frame that is not before it. -/
structure TimedFrame where
  /-- What the controller replies to TIMER, around the count. -/
  key : String
  count : String
  /-- The time of the system at the synchronisation. -/
  now : ℤ
  frame : Ssmap
  buf : ℤ
  stamp : String
  /-- The counts at the synchronisation, and of the frame. -/
  start : ℕ
  stop : ℕ
  key_ok : '=' ∉ key.toList
  count_eq : readNat count.toList = some start
  stamp_eq : readNat stamp.toList = some stop
  lookup_stamp : frame.lookup (bufKey buf "TIMESTAMP") = some stamp
  start_le : start ≤ stop
  stop_lt : stop < 2 ^ 64

namespace TimedFrame

variable {iso : IsoFormat} {t : TimedFrame}

/-- **The time stamp is right**: the synchronisation and the call succeed, and the text denotes the
time of the system at the synchronisation, later by the counts of 10 ns in between. -/
def RightStamp (iso : IsoFormat) (t : TimedFrame) : Prop :=
  ∃ timer, syncArchonTimer (join t.key t.count) t.now = .ok timer ∧
    getTstamp iso timer t.frame t.buf =
      .ok (iso.text (t.now + (((t.stop - t.start) * 10 / 1000 : ℕ) : ℤ)))

/-- The text of the count can be read as a decimal number. -/
def CountReadable (t : TimedFrame) : Prop := t.count.toList.head?.any Char.isDigit

/-- There is an entry for the misspelt key, and it can be read. -/
def MisspeltReadable (t : TimedFrame) : Prop :=
  ∃ text n, t.frame.lookup (bufKey t.buf "TIEMSTAMP") = some text ∧ stoulHex text = .ok n

/-- The synchronisation succeeds if the count can be read as a decimal number. -/
theorem syncArchonTimer_returns_iff :
    (∃ timer, syncArchonTimer (join t.key t.count) t.now = .ok timer) ↔ t.CountReadable := by
  rw [CountReadable, ← stoul_hexadecimal_returns_iff t.count_eq (t.start_le.trans_lt t.stop_lt),
    syncArchonTimer, splitFirst_join t.key_ok]
  simp only [Fallible.map_returns_iff, Fallible.mapError_eq_ok_iff]

/-- The synchronisation notes the time of the system. -/
theorem sysTmr_of_sync {timer : ArchonTimer}
    (h : syncArchonTimer (join t.key t.count) t.now = .ok timer) : timer.sysTmr = t.now := by
  rw [syncArchonTimer, splitFirst_join t.key_ok] at h
  obtain ⟨archTmr, -, ⟨⟩⟩ := Fallible.bind_eq_ok_iff.mp h
  rfl

/-- A call returns the time of the synchronisation, or fails. -/
theorem getTstamp_eq_ok_iff {timer : ArchonTimer} {text : String} :
    getTstamp iso timer t.frame t.buf = .ok text ↔
      t.MisspeltReadable ∧ text = iso.text timer.sysTmr := by
  rw [getTstamp, Fallible.bind_eq_ok_iff]
  constructor
  · rintro ⟨tstamp, hlookup, h⟩
    obtain ⟨n, hread, ⟨⟩⟩ := Fallible.bind_eq_ok_iff.mp h
    exact ⟨⟨tstamp, n, Ssmap.valueAt_eq_ok_iff.mp hlookup, Fallible.mapError_eq_ok_iff.mp hread⟩,
      rfl⟩
  · rintro ⟨⟨tstamp, n, hlookup, hread⟩, rfl⟩
    refine ⟨tstamp, Ssmap.valueAt_eq_ok_iff.mpr hlookup, ?_⟩
    rw [Fallible.bind_of_ok (Fallible.mapError_eq_ok_iff.mpr hread)]
    rfl

/-- **Time stamps of frames**: a time stamp is right exactly if the frame is less than a microsecond
later than the synchronisation, the count of which begins with a decimal digit, and the misspelt
entry is there. -/
theorem rightStamp_iff (iso : IsoFormat) (t : TimedFrame) :
    t.RightStamp iso ↔ t.CountReadable ∧ t.MisspeltReadable ∧ t.stop - t.start < 100 := by
  have hdenotes : iso.text (t.now + (((t.stop - t.start) * 10 / 1000 : ℕ) : ℤ)) = iso.text t.now ↔
      t.stop - t.start < 100 := by
    rw [iso.injective.eq_iff]
    omega
  rw [← syncArchonTimer_returns_iff]
  constructor
  · rintro ⟨timer, hsync, hstamp⟩
    obtain ⟨hmisspelt, heq⟩ := getTstamp_eq_ok_iff.mp hstamp
    rw [sysTmr_of_sync hsync] at heq
    exact ⟨⟨timer, hsync⟩, hmisspelt, hdenotes.mp heq⟩
  · rintro ⟨⟨timer, hsync⟩, hmisspelt, hlt⟩
    refine ⟨timer, hsync, getTstamp_eq_ok_iff.mpr ⟨hmisspelt, ?_⟩⟩
    rw [sysTmr_of_sync hsync]
    exact hdenotes.mpr hlt

end TimedFrame

/-- Times as numbers. -/
def IsoFormat.plain : IsoFormat where
  text n := n.repr
  injective m n h := by
    have hread := Decimal.readInt_repr m
    rw [show m.repr = n.repr from h, Decimal.readInt_repr] at hread
    exact (Option.some.inj hread).symm

/-- A frame two microseconds after the synchronisation. -/
def laterFrame : TimedFrame where
  key := "TIMER"
  count := "0000000000000000"
  now := 0
  frame := (∅ : Ssmap).insert "BUF1TIMESTAMP" "00000000000000C8"
  buf := 1
  stamp := "00000000000000C8"
  start := 0
  stop := 200
  key_ok := by decide
  count_eq := by rfl
  stamp_eq := by rfl
  lookup_stamp := by rfl
  start_le := by decide
  stop_lt := by decide

/-- The frame has no time stamp. -/
theorem not_rightStamp : ¬ laterFrame.RightStamp .plain := by
  rw [TimedFrame.rightStamp_iff]
  rintro ⟨-, -, hlt⟩
  exact absurd hlt (by decide)

end Foxtrot
