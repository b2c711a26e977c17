import Foxtrot.Devices.Harness

/-!
# Device ids

The id that `AddDevice` returns should denote the device for as long as it is in the harness, and
nothing afterwards: `HarnessHistory.Stable` says so of a harness with the ids it has handed out,
also that removing a device by its id removes that device and no other, as a camera does that
removes itself (`AravisCamera::destroy_self`).

Ids come from a counter and are used as positions, so they are stable as long as counter and length
agree when a device comes, and no device goes from before another: `Ordered`
(`stable_of_ordered`). Besides, the device must not have a lock of its own, since `RemoveDevice`
asks for a mutex of the harness for exactly those, which `AddDevice` registers for the others
only. Each of the three breaks the ids at once (`not_stable_of_add`,
`not_stable_of_remove`, `not_stable_of_ownLock`).

The invariant (`HarnessHistory.InPlace`) is stated for the numbers handed out: the device with
number `i` stands at position `i`, or it is gone and the vector ends before `i`. A removal from the
end and a clear shorten the vector, and a device that comes in step with the counter goes to the
position that has its number. That each part of the condition is needed is proved from any reachable
state, for which the counter is known to be ahead of the vector (`HarnessHistory.Bounded`).
-/

namespace Foxtrot

open HarnessState

/-- A harness with the ids it has handed out. -/
structure HarnessHistory where
  state : HarnessState
  issued : List (Int × HarnessDevice)

/-- An operation on a harness. -/
inductive HarnessLabel where
  | add (hasLock loads : Bool)
  | remove (id : Int)
  | clear
  deriving DecidableEq

/-- One operation. The counter of ids is an `int`, and its overflow undefined. -/
def HarnessHistory.step (s : HarnessHistory) : HarnessLabel → Option HarnessHistory
  | .add hasLock loads =>
    if s.state.nextId + 1 < 2 ^ 31 then
      match s.state.addDevice hasLock loads with
      | (state, .ok id) => some ⟨state, s.issued ++ [(id, ⟨s.state.devicesSeen, hasLock⟩)]⟩
      | (state, .error _) => some ⟨state, s.issued⟩
    else none
  | .remove id => (s.state.removeDevice id).map fun r => ⟨r.1, s.issued⟩
  | .clear => s.state.clearDevices.map fun state => ⟨state, s.issued⟩

/-- A new harness. -/
def harnessSystem : TransitionSystem HarnessHistory HarnessLabel where
  init := ⟨.new, []⟩
  step := HarnessHistory.step

/-- **The ids are stable.** -/
structure HarnessHistory.Stable (s : HarnessHistory) : Prop where
  /-- The id of a device that is there denotes it. -/
  denotes : ∀ id dev, (id, dev) ∈ s.issued → dev ∈ s.state.devvec →
    s.state.getDevice id = .ok dev ∧ ∀ dev', (id, dev') ∈ s.state.getDevMap ↔ dev' = dev
  /-- The id of a device that is gone denotes nothing. -/
  gone : ∀ id dev, (id, dev) ∈ s.issued → dev ∉ s.state.devvec →
    s.state.getDevice id = .error (.outOfRange "vector::_M_range_check") ∧
      ∀ dev', (id, dev') ∉ s.state.getDevMap
  /-- A device that is there can be removed by its id, and no other goes with it. -/
  removes : ∀ id dev, (id, dev) ∈ s.issued → dev ∈ s.state.devvec →
    ∃ state, s.state.removeDevice id = some (state, .ok ()) ∧
      ∀ dev', dev' ∈ state.devvec ↔ dev' ∈ s.state.devvec ∧ dev' ≠ dev

/-- A device comes only while the counter is the length of the vector, and without a lock of its
own; and only the last device goes alone. -/
def Ordered (s : HarnessHistory) : HarnessLabel → Prop
  | .add hasLock loads =>
    loads = true → hasLock = false ∧ s.state.nextId = s.state.devvec.length
  | .remove id => id + 1 = s.state.devvec.length
  | .clear => True

instance Ordered.decidable (s : HarnessHistory) : ∀ l, Decidable (Ordered s l)
  | .add _ _ => inferInstanceAs (Decidable (_ → _ ∧ _))
  | .remove _ => inferInstanceAs (Decidable (_ = _))
  | .clear => inferInstanceAs (Decidable True)

/-! ### The invariant -/

/-- The device with id `i` stands at position `i`, or it is gone and the vector ends before
`i`. -/
structure HarnessHistory.InPlace (s : HarnessHistory) : Prop where
  nodup : s.state.devvec.Nodup
  /-- The serial numbers of the devices that come are new. -/
  serial_lt : ∀ id dev, (id, dev) ∈ s.issued → dev.serial < s.state.devicesSeen
  issued_of_mem : ∀ dev ∈ s.state.devvec, ∃ id, (id, dev) ∈ s.issued
  noLock : ∀ dev ∈ s.state.devvec, dev.hasLockImplementation = false
  id_lt : ∀ id dev, (id, dev) ∈ s.issued → 0 ≤ id ∧ id < s.state.nextId
  place : ∀ id dev, (id, dev) ∈ s.issued → s.state.deviceAt id = some dev ∨
    (dev ∉ s.state.devvec ∧ s.state.devvec.length ≤ id)

section Place

variable {s s' : HarnessHistory} {id : Int} {hasLock loads : Bool} {dev : HarnessDevice}

/-- A device is at most at one position. -/
theorem HarnessHistory.InPlace.deviceAt_of_mem (hs : s.InPlace) (hid : (id, dev) ∈ s.issued)
    (hdev : dev ∈ s.state.devvec) : s.state.deviceAt id = some dev :=
  (hs.place id dev hid).resolve_right fun h => h.1 hdev

private theorem mem_devvec_of_deviceAt (h : s.state.deviceAt id = some dev) :
    dev ∈ s.state.devvec :=
  List.mem_of_getElem? (deviceAt_eq_some_iff.mp h).2

private theorem deviceAt_eq_none_of_length_le (h : s.state.devvec.length ≤ id) :
    s.state.deviceAt id = none := by
  rw [deviceAt]
  split
  · exact List.getElem?_eq_none (by omega)
  · rfl

/-- Where the ids are in place, they are stable. -/
theorem HarnessHistory.InPlace.stable (hs : s.InPlace) : s.Stable := by
  constructor
  · intro id dev hid hdev
    have hat := hs.deviceAt_of_mem hid hdev
    refine ⟨getDevice_eq_ok_iff.mpr hat, fun dev' => ?_⟩
    rw [mem_getDevMap_iff, hat, Option.some.injEq]
    exact eq_comm
  · intro id dev hid hdev
    obtain hat | ⟨-, hlen⟩ := hs.place id dev hid
    · exact absurd (mem_devvec_of_deviceAt hat) hdev
    · have hnone := deviceAt_eq_none_of_length_le hlen
      refine ⟨by rw [getDevice, hnone], fun dev' hmem => ?_⟩
      rw [mem_getDevMap_iff, hnone] at hmem
      cases hmem
  · intro id dev hid hdev
    have hat := hs.deviceAt_of_mem hid hdev
    refine ⟨s.state.eraseDevice id, ?_, fun dev' => ?_⟩
    · rw [removeDevice, hat]
      simp [hs.noLock dev hdev]
    · obtain ⟨hlt, hget⟩ := List.getElem?_eq_some_iff.mp (deviceAt_eq_some_iff.mp hat).2
      change dev' ∈ s.state.devvec.eraseIdx id.toNat ↔ _
      rw [← hs.nodup.erase_getElem _ hlt, hget, hs.nodup.mem_erase_iff, and_comm]

/-- A device that does not load moves the counter on, and nothing else. -/
theorem HarnessHistory.InPlace.skip (hs : s.InPlace) {state : HarnessState}
    (hvec : state.devvec = s.state.devvec) (hid : state.nextId = s.state.nextId + 1)
    (hseen : state.devicesSeen = s.state.devicesSeen + 1) :
    (⟨state, s.issued⟩ : HarnessHistory).InPlace := by
  refine ⟨hvec ▸ hs.nodup, fun id dev hmem => ?_, hvec ▸ hs.issued_of_mem, hvec ▸ hs.noLock,
    fun id dev hmem => ?_, fun id dev hmem => ?_⟩
  · exact (hs.serial_lt id dev hmem).trans (by simp [hseen])
  · obtain ⟨hnn, hlt⟩ := hs.id_lt id dev hmem
    exact ⟨hnn, by simp only [hid]; omega⟩
  · have hplace := hs.place id dev hmem
    rwa [deviceAt, ← hvec] at hplace

/-- A device without a lock of its own goes to the end, under the counter. -/
theorem HarnessHistory.InPlace.append (hs : s.InPlace) {state : HarnessState}
    (hlen : s.state.nextId = s.state.devvec.length)
    (hvec : state.devvec = s.state.devvec ++ [⟨s.state.devicesSeen, false⟩])
    (hid : state.nextId = s.state.nextId + 1)
    (hseen : state.devicesSeen = s.state.devicesSeen + 1) :
    (⟨state, s.issued ++ [((s.state.nextId : Int), ⟨s.state.devicesSeen, false⟩)]⟩ :
      HarnessHistory).InPlace := by
  -- the new serial number is above all that have been issued
  have hfresh : ∀ dev ∈ s.state.devvec, dev.serial ≠ s.state.devicesSeen := by
    intro dev hdev
    obtain ⟨id, hmem⟩ := hs.issued_of_mem dev hdev
    exact (hs.serial_lt id dev hmem).ne
  refine ⟨?_, fun id dev hmem => ?_, fun dev hdev => ?_, fun dev hdev => ?_, fun id dev hmem => ?_,
    fun id dev hmem => ?_⟩
  · simp only [hvec]
    refine List.nodup_append.mpr ⟨hs.nodup, List.nodup_singleton _, fun dev hdev dev' hdev' => ?_⟩
    rw [List.mem_singleton.mp hdev']
    exact fun heq => hfresh dev hdev (by rw [heq])
  · simp only [hseen]
    obtain hmem | hmem := List.mem_append.mp hmem
    · exact (hs.serial_lt id dev hmem).trans (Nat.lt_succ_self _)
    · obtain ⟨-, rfl⟩ := Prod.mk.inj (List.mem_singleton.mp hmem)
      exact Nat.lt_succ_self _
  · simp only [hvec] at hdev
    obtain hdev | hdev := List.mem_append.mp hdev
    · obtain ⟨id, hmem⟩ := hs.issued_of_mem dev hdev
      exact ⟨id, List.mem_append_left _ hmem⟩
    · rw [List.mem_singleton.mp hdev]
      exact ⟨_, List.mem_append_right _ (List.mem_singleton_self _)⟩
  · simp only [hvec] at hdev
    obtain hdev | hdev := List.mem_append.mp hdev
    · exact hs.noLock dev hdev
    · rw [List.mem_singleton.mp hdev]
  · simp only [hid]
    obtain hmem | hmem := List.mem_append.mp hmem
    · obtain ⟨hnn, hlt⟩ := hs.id_lt id dev hmem
      omega
    · obtain ⟨rfl, -⟩ := Prod.mk.inj (List.mem_singleton.mp hmem)
      omega
  · obtain hmem | hmem := List.mem_append.mp hmem
    · -- all earlier ids are below the length, so nobody is gone
      have hlt := hs.id_lt id dev hmem
      obtain hat | ⟨-, hge⟩ := hs.place id dev hmem
      · obtain ⟨hnn, hget⟩ := deviceAt_eq_some_iff.mp hat
        refine .inl (deviceAt_eq_some_iff.mpr ⟨hnn, ?_⟩)
        simp only [hvec]
        rw [List.getElem?_append_left (List.getElem?_eq_some_iff.mp hget).1, hget]
      · omega
    · obtain ⟨rfl, rfl⟩ := Prod.mk.inj (List.mem_singleton.mp hmem)
      refine .inl (deviceAt_eq_some_iff.mpr ⟨Int.natCast_nonneg _, ?_⟩)
      simp only [hvec, Int.toNat_natCast, hlen]
      exact List.getElem?_concat_length

/-- Adding a device at the end, under the counter. -/
theorem HarnessHistory.InPlace.add (hs : s.InPlace) (hl : Ordered s (.add hasLock loads))
    (h : s.step (.add hasLock loads) = some s') : s'.InPlace := by
  rw [HarnessHistory.step] at h
  split at h
  swap
  · cases h
  rcases hadd : s.state.addDevice hasLock loads with ⟨state, res⟩
  have hid : state.nextId = s.state.nextId + 1 := by rw [← addDevice_nextId, hadd]
  have hseen : state.devicesSeen = s.state.devicesSeen + 1 := by
    rw [← addDevice_devicesSeen, hadd]
  have hvec := addDevice_devvec s.state hasLock loads
  have hres := addDevice_result s.state hasLock loads
  rw [hadd] at h hvec hres
  cases loads with
  | false =>
    simp only [Bool.false_eq_true, if_false] at hvec hres
    subst hres
    obtain rfl := Option.some.inj h
    exact hs.skip hvec hid hseen
  | true =>
    obtain ⟨rfl, hlen⟩ := hl rfl
    simp only [if_true] at hvec hres
    subst hres
    obtain rfl := Option.some.inj h
    exact hs.append hlen hvec hid hseen

/-- Removing the last device. -/
theorem HarnessHistory.InPlace.remove (hs : s.InPlace) (hl : Ordered s (.remove id))
    (h : s.step (.remove id) = some s') : s'.InPlace := by
  obtain ⟨r, hr, rfl⟩ := Option.map_eq_some_iff.mp h
  obtain ⟨dev, hat, ⟨-, rfl⟩ | ⟨hlock, -⟩⟩ := removeDevice_cases hr
  swap
  · rw [hs.noLock dev (mem_devvec_of_deviceAt hat)] at hlock
    cases hlock
  have hlast : id + 1 = s.state.devvec.length := hl
  have hsub : (s.state.devvec.eraseIdx id.toNat).Sublist s.state.devvec :=
    List.eraseIdx_sublist _ _
  obtain ⟨hid, hget⟩ := deviceAt_eq_some_iff.mp hat
  obtain ⟨hlt, hget⟩ := List.getElem?_eq_some_iff.mp hget
  have hlen : (s.state.devvec.eraseIdx id.toNat).length = id.toNat := by
    rw [List.length_eraseIdx_of_lt hlt]
    omega
  have herase : s.state.devvec.eraseIdx id.toNat = s.state.devvec.erase dev := by
    rw [← hs.nodup.erase_getElem _ hlt, hget]
  refine ⟨hs.nodup.sublist hsub, hs.serial_lt, fun dev hdev => ?_, fun dev hdev => ?_, hs.id_lt,
    fun id' dev' hmem => ?_⟩
  · exact hs.issued_of_mem dev (hsub.subset hdev)
  · exact hs.noLock dev (hsub.subset hdev)
  · change (s.state.eraseDevice id).deviceAt id' = some dev' ∨
      (dev' ∉ s.state.devvec.eraseIdx id.toNat ∧
        ((s.state.devvec.eraseIdx id.toNat).length : Int) ≤ id')
    obtain hat' | ⟨hgone, hle⟩ := hs.place id' dev' hmem
    · obtain ⟨hnn, hget'⟩ := deviceAt_eq_some_iff.mp hat'
      by_cases heq : id' = id
      -- the device that was removed
      · obtain rfl : dev = dev' := Option.some.inj (hat.symm.trans (heq ▸ hat'))
        refine .inr ⟨?_, by omega⟩
        rw [herase, hs.nodup.mem_erase_iff]
        exact fun hmem => hmem.1 rfl
      -- a device before it
      · have hlt' := (List.getElem?_eq_some_iff.mp hget').1
        refine .inl (deviceAt_eq_some_iff.mpr ⟨hnn, ?_⟩)
        change (s.state.devvec.eraseIdx id.toNat)[id'.toNat]? = _
        rw [List.getElem?_eraseIdx_of_lt (by omega), hget']
    · exact .inr ⟨fun hmem => hgone (hsub.subset hmem), by omega⟩

/-- After a clear every id is gone. -/
theorem HarnessHistory.InPlace.clear (hs : s.InPlace) (h : s.step .clear = some s') :
    s'.InPlace := by
  obtain ⟨state, hclear, rfl⟩ := Option.map_eq_some_iff.mp h
  obtain ⟨hvec, hid, hseen, -⟩ := clearDevices_cases hclear
  refine ⟨?_, ?_, ?_, ?_, ?_, ?_⟩
  · simp [hvec]
  · exact fun id dev hmem => hseen ▸ hs.serial_lt id dev hmem
  · simp [hvec]
  · simp [hvec]
  · exact fun id dev hmem => hid ▸ hs.id_lt id dev hmem
  · intro id dev hmem
    exact .inr ⟨by simp [hvec], by simpa [hvec] using (hs.id_lt id dev hmem).1⟩

/-- In ordered runs each device is in its place. -/
private theorem inPlace_of_ordered (h : harnessSystem.ReachableWhile Ordered s) : s.InPlace := by
  refine h.invariant (P := HarnessHistory.InPlace) ?_ ?_
  · constructor <;> simp [harnessSystem, HarnessState.new]
  · rintro s (⟨hasLock, loads⟩ | id | _) s' - hs hl hstep
    · exact hs.add hl hstep
    · exact hs.remove hl hstep
    · exact hs.clear hstep

/-- **The ids are stable** in every run in which devices come in step with the counter and go
from the end. -/
theorem stable_of_ordered (h : harnessSystem.ReachableWhile Ordered s) : s.Stable :=
  (inPlace_of_ordered h).stable

/-! ### Every part of the condition is needed -/

/-- The counter is ahead of the length, and of the keys of the mutexes. -/
def HarnessHistory.Bounded (s : HarnessHistory) : Prop :=
  s.state.devvec.length ≤ s.state.nextId ∧ ∀ key ∈ s.state.devmutexes, key < s.state.nextId

/-- A step keeps the numbers bounded. -/
theorem HarnessHistory.Bounded.step (hs : s.Bounded) {l : HarnessLabel}
    (h : s.step l = some s') : s'.Bounded := by
  obtain ⟨hlen, hkeys⟩ := hs
  rcases l with ⟨hasLock, loads⟩ | id | _
  · -- a mutex is stored under the id that is issued
    have hadd : (s.state.addDevice hasLock loads).1.devvec.length ≤ s.state.nextId + 1 ∧
        ∀ key ∈ (s.state.addDevice hasLock loads).1.devmutexes,
          key < ((s.state.nextId + 1 : ℕ) : Int) := by
      refine ⟨?_, fun key hmem => ?_⟩
      · rw [addDevice_devvec]
        split
        · simpa using hlen
        · omega
      · rcases mem_addDevice_devmutexes.mp hmem with hmem | ⟨-, rfl⟩
        · have := hkeys key hmem
          omega
        · omega
    rw [HarnessHistory.step] at h
    split at h
    · have hid := addDevice_nextId s.state hasLock loads
      rcases hres : s.state.addDevice hasLock loads with ⟨state, e | id⟩
      all_goals
        rw [hres] at h hadd hid
        obtain rfl := Option.some.inj h
        exact ⟨hid ▸ hadd.1, hid ▸ hadd.2⟩
    · cases h
  · obtain ⟨r, hr, rfl⟩ := Option.map_eq_some_iff.mp h
    obtain ⟨dev, -, ⟨-, rfl⟩ | ⟨-, -, rfl⟩⟩ := removeDevice_cases hr
    · exact ⟨(List.length_eraseIdx_le _ _).trans hlen, fun key hmem =>
        hkeys key (AList.mem_erase.mp hmem).2⟩
    · exact ⟨hlen, hkeys⟩
  · obtain ⟨state, hclear, rfl⟩ := Option.map_eq_some_iff.mp h
    obtain ⟨hvec, hid, -, hmutexes⟩ := clearDevices_cases hclear
    refine ⟨by simp [hvec], fun key hmem => ?_⟩
    simp only [hid]
    rcases (hmutexes key).mp hmem with hmem | ⟨i, hi, rfl⟩
    · exact hkeys key hmem
    · omega

private theorem bounded_of_reachable (h : harnessSystem.Reachable s) : s.Bounded :=
  h.invariant (P := HarnessHistory.Bounded) ⟨le_rfl, by simp [harnessSystem, new]⟩
    fun _ _ _ _ hs _ hstep => hs.step hstep

/-- A device that comes is issued the counter. -/
theorem step_add_loads (h : s.step (.add hasLock true) = some s') :
    (s'.issued = s.issued ++ [((s.state.nextId : Int), ⟨s.state.devicesSeen, hasLock⟩)]) ∧
      s'.state = (s.state.addDevice hasLock true).1 := by
  rw [HarnessHistory.step] at h
  split at h
  · have hres := addDevice_result s.state hasLock true
    rcases hadd : s.state.addDevice hasLock true with ⟨state, res⟩
    rw [hadd] at h hres
    simp only [if_true] at hres
    subst hres
    obtain rfl := Option.some.inj h
    exact ⟨rfl, rfl⟩
  · cases h

/-- **A device that comes out of step** with the counter gets an id that does not denote it. -/
theorem not_stable_of_add (hs : harnessSystem.Reachable s)
    (hne : s.state.nextId ≠ s.state.devvec.length)
    (h : s.step (.add hasLock true) = some s') : ¬ s'.Stable := by
  intro hstable
  obtain ⟨hissued, hstate⟩ := step_add_loads h
  have hvec : s'.state.devvec = s.state.devvec ++ [⟨s.state.devicesSeen, hasLock⟩] := by
    rw [hstate, addDevice_devvec, if_pos rfl]
  obtain ⟨hget, -⟩ := hstable.denotes s.state.nextId ⟨s.state.devicesSeen, hasLock⟩
    (by simp [hissued]) (by simp [hvec])
  have hle := (bounded_of_reachable hs).1
  have hnone : s'.state.deviceAt s.state.nextId = none :=
    deviceAt_eq_none_of_length_le (by simp [hvec]; omega)
  rw [getDevice, hnone] at hget
  cases hget

/-- **A removal in the middle** leaves the devices behind it with ids that do not denote them. -/
theorem not_stable_of_remove (hs : harnessSystem.ReachableWhile Ordered s)
    (hlt : id + 1 < s.state.devvec.length) (h : s.step (.remove id) = some s') : ¬ s'.Stable := by
  intro hstable
  have hplace := inPlace_of_ordered hs
  obtain ⟨r, hr, rfl⟩ := Option.map_eq_some_iff.mp h
  obtain ⟨dev, hat, ⟨-, rfl⟩ | ⟨hlock, -⟩⟩ := removeDevice_cases hr
  swap
  · rw [hplace.noLock dev (mem_devvec_of_deviceAt hat)] at hlock
    cases hlock
  obtain ⟨hid, hget⟩ := deviceAt_eq_some_iff.mp hat
  have hlt' : id.toNat + 1 < s.state.devvec.length := by omega
  -- the device behind the one removed: it had the next id, and now stands at `id`
  obtain ⟨id', hissued⟩ := hplace.issued_of_mem _ (List.getElem_mem hlt')
  have hnext : (s.state.eraseDevice id).devvec[id.toNat]? =
      some (s.state.devvec[id.toNat + 1]) := by
    change (s.state.devvec.eraseIdx id.toNat)[id.toNat]? = _
    rw [List.getElem?_eraseIdx_of_ge le_rfl, List.getElem?_eq_getElem hlt']
  have hold := hplace.deviceAt_of_mem hissued (List.getElem_mem hlt')
  obtain ⟨hid', hget'⟩ := deviceAt_eq_some_iff.mp hold
  have heq : id'.toNat = id.toNat + 1 := by
    have hlt'' := (List.getElem?_eq_some_iff.mp hget').1
    have := (List.getElem?_eq_some_iff.mp hget').2
    exact (hplace.nodup.getElem_inj_iff).mp this
  obtain ⟨hnow, -⟩ := hstable.denotes id' _ hissued (List.mem_of_getElem? hnext)
  have hnow := (deviceAt_eq_some_iff.mp (getDevice_eq_ok_iff.mp hnow)).2
  have hnodup : (s.state.eraseDevice id).devvec.Nodup :=
    hplace.nodup.sublist (List.eraseIdx_sublist _ _)
  obtain ⟨hi, hgeti⟩ := List.getElem?_eq_some_iff.mp hnow
  obtain ⟨hj, hgetj⟩ := List.getElem?_eq_some_iff.mp hnext
  have := hnodup.getElem_inj_iff.mp (hgeti.trans hgetj.symm)
  omega

/-- **A device with a lock of its own** cannot be removed by its id. -/
theorem not_stable_of_ownLock (hs : harnessSystem.ReachableWhile Ordered s)
    (h : s.step (.add true true) = some s') : ¬ s'.Stable := by
  intro hstable
  obtain ⟨hissued, hstate⟩ := step_add_loads h
  have hbound := bounded_of_reachable (hs.mono fun _ _ _ _ => trivial)
  have hvec : s'.state.devvec = s.state.devvec ++ [⟨s.state.devicesSeen, true⟩] := by
    rw [hstate, addDevice_devvec, if_pos rfl]
  obtain ⟨hget, -⟩ := hstable.denotes s.state.nextId ⟨s.state.devicesSeen, true⟩
    (by simp [hissued]) (by simp [hvec])
  obtain ⟨state, hremove, -⟩ := hstable.removes s.state.nextId ⟨s.state.devicesSeen, true⟩
    (by simp [hissued]) (by simp [hvec])
  have hkey : (s.state.nextId : Int) ∉ s'.state.devmutexes := by
    intro hmem
    rw [hstate] at hmem
    rcases mem_addDevice_devmutexes.mp hmem with hmem | ⟨hlock, -⟩
    · exact absurd (hbound.2 _ hmem) (Int.lt_irrefl _)
    · cases hlock
  rw [removeDevice, getDevice_eq_ok_iff.mp hget] at hremove
  simp [hkey] at hremove

end Place

/-- Two devices, of which the last is removed, and then a clear. -/
def orderedTrace : List HarnessLabel := [.add false true, .add false true, .remove 1, .clear]

theorem stable_of_ordered_orderedTrace : ∃ s, harnessSystem.run harnessSystem.init orderedTrace =
    some s ∧ s.issued = [(0, ⟨0, false⟩), (1, ⟨1, false⟩)] ∧ s.Stable := by
  have hrun : (harnessSystem.run harnessSystem.init orderedTrace).map (·.issued) =
      some [(0, ⟨0, false⟩), (1, ⟨1, false⟩)] := by decide
  obtain ⟨s, hs, hissued⟩ := Option.map_eq_some_iff.mp hrun
  have hreach : harnessSystem.ReachableWhile Ordered s :=
    TransitionSystem.ReachableWhile.init.run (by decide) hs
  exact ⟨s, hs, hissued, stable_of_ordered hreach⟩

/-- **Ids are not stable**: after the first of two devices has been removed, its id denotes the
second one. -/
theorem removed_id_denotes_other : ∃ s, harnessSystem.Reachable s ∧ ¬ s.Stable := by
  have hrun : (harnessSystem.run harnessSystem.init
      [.add false true, .add false true, .remove 0]).map (fun s =>
        (s.issued, s.state.devvec)) =
      some ([(0, ⟨0, false⟩), (1, ⟨1, false⟩)], [⟨1, false⟩]) := by decide
  obtain ⟨s, hs, hfacts⟩ := Option.map_eq_some_iff.mp hrun
  obtain ⟨hissued, hvec⟩ := Prod.mk.inj hfacts
  refine ⟨s, TransitionSystem.reachable_of_run hs, fun hstable => ?_⟩
  obtain ⟨hget, -⟩ := hstable.gone 0 ⟨0, false⟩ (by simp [hissued]) (by simp [hvec])
  simp [getDevice, deviceAt, hvec] at hget

end Foxtrot
