import Foxtrot.Foundation.FiniteMap
import Foxtrot.Foundation.TransitionSystem
import Mathlib.Algebra.Group.Nat.Defs
import Mathlib.Data.List.Nodup

/-!
# The devices of a harness

`DeviceHarness` (`core/src/DeviceHarness.cpp`) keeps the devices in a vector and hands out ids
from a counter: `AddDevice` returns the value of the counter and puts the device at the end,
`GetDevice`, `RemoveDevice` and `GetDevMap` take an id **for a position in the vector**. Besides,
there is a mutex for each device that has none of its own, kept in a map. `AddDevice` registers it
under the id, `lock_device_contentious` looks for it under the position.

`HarnessState` is this data with the accesses that the operations make to it, each as one
function: the whole of `AddDevice` and `GetDevice`, the two ways of `RemoveDevice`, the choice of a
mutex in `lock_device_contentious`. Taking and releasing the mutexes is not part of it.

A device with a lock of its own is one built with `GlobalDeviceLock`, whose lock is a mutex inside
the device. Devices and mutexes are told apart by numbers given to them when they are made; the
code tells them apart by their addresses. Indexing the vector out of range with `[]` is undefined
behaviour and has no outcome (`none`).
-/

namespace Foxtrot

/-- A device in a harness. -/
structure HarnessDevice where
  serial : ℕ
  hasLockImplementation : Bool
  deriving DecidableEq

/-- A mutex that guards a device. -/
inductive DeviceMutex where
  /-- A mutex of the harness. -/
  | ofHarness (serial : ℕ)
  /-- The mutex inside a device. -/
  | ofDevice (serial : ℕ)
  deriving DecidableEq

/-- The data of a `DeviceHarness`. -/
structure HarnessState where
  /-- `_id`. -/
  nextId : ℕ
  /-- `_devvec`. -/
  devvec : List HarnessDevice
  /-- `_devmutexes`. -/
  devmutexes : AList fun _ : Int => ℕ
  /-- How many mutexes the harness has made. -/
  mutexesMade : ℕ
  /-- How many devices have been handed to the harness. -/
  devicesSeen : ℕ

/-- Why an operation of the harness fails. -/
inductive HarnessError where
  /-- `std::out_of_range`, from the vector or from the map. -/
  | outOfRange (what : String)
  /-- What `load_capability_map` throws. -/
  | loadFailed
  /-- `ContentionError`. -/
  | contention
  deriving DecidableEq

namespace HarnessState

/-- A harness without devices. -/
def new : HarnessState := ⟨0, [], ∅, 0, 0⟩

/-- The device at a position, if there is one. -/
def deviceAt (s : HarnessState) (id : Int) : Option HarnessDevice :=
  if 0 ≤ id then s.devvec[id.toNat]? else none

/-- `GetDevice`. -/
def getDevice (s : HarnessState) (id : Int) : Except HarnessError HarnessDevice :=
  match s.deviceAt id with
  | some dev => .ok dev
  | none => .error (.outOfRange "vector::_M_range_check")

/-- `GetDevMap`: the devices with their positions. -/
def getDevMap (s : HarnessState) : List (Int × HarnessDevice) :=
  s.devvec.zipIdx.map fun p => ((p.2 : Int), p.1)

/-- Make a mutex under a key, unless there is one. -/
def ensureMutex (s : HarnessState) (key : Int) : HarnessState :=
  if key ∈ s.devmutexes then s
  else { s with
    devmutexes := s.devmutexes.insert key s.mutexesMade
    mutexesMade := s.mutexesMade + 1 }

/-- `AddDevice`, of a device with or without a lock of its own. `loads` is whether
`load_capability_map` returns. -/
def addDevice (s : HarnessState) (hasLock loads : Bool) :
    HarnessState × Except HarnessError Int :=
  let dev : HarnessDevice := ⟨s.devicesSeen, hasLock⟩
  let thisid := s.nextId
  let s := { s with nextId := s.nextId + 1, devicesSeen := s.devicesSeen + 1 }
  let s := if dev.hasLockImplementation then s else s.ensureMutex thisid
  if loads then ({ s with devvec := s.devvec ++ [dev] }, .ok thisid)
  else (s, .error .loadFailed)

/-- The device at a position goes, and so does the mutex under the position. -/
def eraseDevice (s : HarnessState) (id : Int) : HarnessState :=
  { s with devvec := s.devvec.eraseIdx id.toNat, devmutexes := s.devmutexes.erase id }

/-- `RemoveDevice`, where nobody else holds a mutex. A device **with** a lock of its own needs a
mutex under its position. -/
def removeDevice (s : HarnessState) (id : Int) :
    Option (HarnessState × Except HarnessError Unit) :=
  match s.deviceAt id with
  | none => none
  | some dev =>
    if !dev.hasLockImplementation then some (s.eraseDevice id, .ok ())
    else if id ∈ s.devmutexes then some (s.eraseDevice id, .ok ())
    else some (s, .error (.outOfRange "map::at"))

/-- The mutex that `lock_device_contentious` takes for the device at a position. -/
def mutexFor (s : HarnessState) (id : Int) (dev : HarnessDevice) : HarnessState × DeviceMutex :=
  if dev.hasLockImplementation then (s, .ofDevice dev.serial)
  else
    match s.devmutexes.lookup id with
    | some m => (s, .ofHarness m)
    | none => (s.ensureMutex id, .ofHarness s.mutexesMade)

/-- `ClearDevices`, where nobody else holds a mutex: every device is locked, then all go. The
mutex map stays, and so does the counter. A mutex inside a device is destroyed while it is
locked, which is undefined behaviour. -/
def clearDevices (s : HarnessState) : Option HarnessState :=
  if s.devvec.any HarnessDevice.hasLockImplementation then none
  else
    let s := (List.range s.devvec.length).foldl (fun s i => s.ensureMutex (i : Int)) s
    some { s with devvec := [] }

/-! ### What the accesses leave alone -/

variable {s : HarnessState} {key id : Int} {hasLock loads : Bool}

/-- A mutex changes no device. -/
@[simp]
theorem ensureMutex_devvec : (s.ensureMutex key).devvec = s.devvec := by
  rw [ensureMutex]
  split <;> rfl

/-- A mutex does not change the next number. -/
@[simp]
theorem ensureMutex_nextId : (s.ensureMutex key).nextId = s.nextId := by
  rw [ensureMutex]
  split <;> rfl

/-- A mutex is no device. -/
@[simp]
theorem ensureMutex_devicesSeen : (s.ensureMutex key).devicesSeen = s.devicesSeen := by
  rw [ensureMutex]
  split <;> rfl

/-- A key has a mutex then. -/
@[simp]
theorem mem_ensureMutex {key' : Int} :
    key' ∈ (s.ensureMutex key).devmutexes ↔ key' = key ∨ key' ∈ s.devmutexes := by
  rw [ensureMutex]
  split
  · exact ⟨.inr, fun h => h.elim (fun heq => heq ▸ ‹key ∈ s.devmutexes›) fun hmem => hmem⟩
  · exact AList.mem_insert _

/-- Each device takes a number, also one that is not loaded. -/
theorem addDevice_nextId (s : HarnessState) (hasLock loads : Bool) :
    (s.addDevice hasLock loads).1.nextId = s.nextId + 1 := by
  cases hasLock <;> cases loads <;> simp [addDevice]

/-- Each device is seen once. -/
theorem addDevice_devicesSeen (s : HarnessState) (hasLock loads : Bool) :
    (s.addDevice hasLock loads).1.devicesSeen = s.devicesSeen + 1 := by
  cases hasLock <;> cases loads <;> simp [addDevice]

/-- An added device comes last. -/
theorem addDevice_devvec (s : HarnessState) (hasLock loads : Bool) :
    (s.addDevice hasLock loads).1.devvec =
      if loads then s.devvec ++ [⟨s.devicesSeen, hasLock⟩] else s.devvec := by
  cases hasLock <;> cases loads <;> simp [addDevice]

/-- A device without a lock of its own gets a mutex under its id. -/
theorem mem_addDevice_devmutexes {key : Int} : key ∈ (s.addDevice hasLock loads).1.devmutexes ↔
    key ∈ s.devmutexes ∨ (hasLock = false ∧ key = (s.nextId : Int)) := by
  cases hasLock <;> cases loads <;> simp [addDevice, or_comm]

/-- The number of a device is returned, if it is loaded. -/
theorem addDevice_result (s : HarnessState) (hasLock loads : Bool) :
    (s.addDevice hasLock loads).2 =
      if loads then .ok (s.nextId : Int) else .error .loadFailed := by
  cases loads <;> simp [addDevice]

/-- A device is at its place in the list. -/
theorem deviceAt_eq_some_iff {dev : HarnessDevice} :
    s.deviceAt id = some dev ↔ 0 ≤ id ∧ s.devvec[id.toNat]? = some dev := by
  rw [deviceAt]
  by_cases hid : 0 ≤ id <;> simp [hid]

/-- A number that is not negative is a place in the list. -/
theorem deviceAt_natCast (i : ℕ) : s.deviceAt (i : Int) = s.devvec[i]? := by
  simp [deviceAt]

/-- A device is returned exactly if it is there. -/
theorem getDevice_eq_ok_iff {dev : HarnessDevice} :
    s.getDevice id = .ok dev ↔ s.deviceAt id = some dev := by
  rw [getDevice]
  split <;> simp_all

/-- The device map and the vector say the same. -/
theorem mem_getDevMap_iff {dev : HarnessDevice} :
    (id, dev) ∈ s.getDevMap ↔ s.deviceAt id = some dev := by
  rw [getDevMap, List.mem_map, deviceAt_eq_some_iff]
  constructor
  · rintro ⟨⟨dev', i⟩, hmem, heq⟩
    obtain ⟨rfl, rfl⟩ := Prod.mk.inj heq
    exact ⟨Int.natCast_nonneg i, by simpa using List.mem_zipIdx_iff_getElem?.mp hmem⟩
  · rintro ⟨hid, hdev⟩
    refine ⟨(dev, id.toNat), List.mem_zipIdx_iff_getElem?.mpr hdev, ?_⟩
    rw [Int.toNat_of_nonneg hid]

/-- What `RemoveDevice` does: the device at the position goes and nothing else, or, for want of
a mutex, nothing happens. -/
theorem removeDevice_cases {r : HarnessState × Except HarnessError Unit}
    (h : s.removeDevice id = some r) : ∃ dev, s.deviceAt id = some dev ∧
      (((dev.hasLockImplementation = true → id ∈ s.devmutexes) ∧ r = (s.eraseDevice id, .ok ())) ∨
        (dev.hasLockImplementation = true ∧ id ∉ s.devmutexes ∧
          r = (s, .error (.outOfRange "map::at")))) := by
  rw [removeDevice] at h
  rcases hdev : s.deviceAt id with _ | dev <;> simp only [hdev] at h
  · cases h
  · refine ⟨dev, rfl, ?_⟩
    cases hlock : dev.hasLockImplementation <;> simp only [hlock] at h
    · exact .inl ⟨by simp, (Option.some.inj h).symm⟩
    · by_cases hmem : id ∈ s.devmutexes
      · exact .inl ⟨fun _ => hmem, by simpa [hmem] using h.symm⟩
      · exact .inr ⟨rfl, hmem, by simpa [hmem] using h.symm⟩

/-- Making mutexes under many keys. -/
theorem foldl_ensureMutex (is : List ℕ) (s : HarnessState) :
    (is.foldl (fun s i => s.ensureMutex (i : Int)) s).nextId = s.nextId ∧
      (is.foldl (fun s i => s.ensureMutex (i : Int)) s).devicesSeen = s.devicesSeen ∧
      ∀ key, key ∈ (is.foldl (fun s i => s.ensureMutex (i : Int)) s).devmutexes ↔
        key ∈ s.devmutexes ∨ ∃ i ∈ is, key = (i : Int) := by
  induction is generalizing s with
  | nil => simp
  | cons i is ih =>
    obtain ⟨hid, hseen, hkeys⟩ := ih (s.ensureMutex (i : Int))
    refine ⟨hid.trans ensureMutex_nextId, hseen.trans ensureMutex_devicesSeen, fun key => ?_⟩
    rw [List.foldl_cons, hkeys, mem_ensureMutex]
    simp only [List.mem_cons, exists_eq_or_imp]
    tauto

/-- `ClearDevices` empties the vector, keeps the counters, and makes the mutexes that were
missing. -/
theorem clearDevices_cases {s' : HarnessState} (h : s.clearDevices = some s') :
    s'.devvec = [] ∧ s'.nextId = s.nextId ∧ s'.devicesSeen = s.devicesSeen ∧
      ∀ key, key ∈ s'.devmutexes ↔ key ∈ s.devmutexes ∨ ∃ i < s.devvec.length, key = (i : Int) := by
  obtain ⟨hid, hseen, hkeys⟩ := foldl_ensureMutex (List.range s.devvec.length) s
  rw [clearDevices] at h
  split at h
  · cases h
  · obtain rfl := Option.some.inj h
    refine ⟨rfl, hid, hseen, fun key => (hkeys key).trans ?_⟩
    simp only [List.mem_range]

end HarnessState

end Foxtrot
