import Foxtrot.Devices.Locks

/-!
# Nobody shares a device

A device harness has a list of devices and a map from **positions** in it to mutexes. A device that
implements `lock` brings its own mutex; for any other one the mutex is found under its position. So
a lock is for the right device as long as no removal moves the devices that somebody has or waits
for, which is what `Careful` asks of a removal and of `ClearDevices`.

The invariant (`Locking.Consistent`) is that every request of a call is served by the harness
(`HarnessState.Serves`): its mutex is the one that guards its device, and the device is still at its
position unless it is gone. Two requests for one device are then for one mutex, and a mutex has one
holder. From this come exclusion (`Consistent.exclusive`), that no device is destroyed while it is
in use (`Consistent.spares`), and that a mutex is there when it is asked for.
-/

namespace Foxtrot

open HarnessState

/-! ### Harnesses

What each change of the harness does to a request that is already under way: a new device or mutex
changes nothing for it, a removal nothing at the positions before it, and a clear nothing if no
device has a lock of its own. -/

/-- The devices and the mutexes of a harness are told apart by their numbers. -/
structure HarnessState.WellFormed (s : HarnessState) : Prop where
  nodup : (s.devvec.map HarnessDevice.serial).Nodup
  serial_lt : ∀ dev ∈ s.devvec, dev.serial < s.devicesSeen
  mutex_lt : ∀ key m, s.devmutexes.lookup key = some m → m < s.mutexesMade
  mutex_inj : ∀ key key' m, s.devmutexes.lookup key = some m →
    s.devmutexes.lookup key' = some m → key = key'

/-- The request is for the lock that guards its device. -/
structure HarnessState.Serves (s : HarnessState) (req : LockRequest) : Prop where
  /-- A device with a lock of its own is there, and its lock is meant. -/
  own : req.dev.hasLockImplementation = true →
    req.mutex = .ofDevice req.dev.serial ∧ req.dev ∈ s.devvec
  /-- For another, the mutex under its position. -/
  ofHarness : req.dev.hasLockImplementation = false →
    ∃ m, req.mutex = .ofHarness m ∧ s.devmutexes.lookup req.pos = some m
  /-- The device is at the position, unless it is gone. -/
  place : req.dev ∈ s.devvec → s.deviceAt req.pos = some req.dev
  seen : req.dev.serial < s.devicesSeen

/-- What a call has or waits for is there. -/
structure HarnessState.ServesCall (s : HarnessState) (pc : CallPc) : Prop where
  requests : ∀ req ∈ pc.requests, s.Serves req
  removing : ∀ id m, pc = .removing id m →
    ∃ n, m = .ofHarness n ∧ s.devmutexes.lookup id = some n

section Harness

variable {s : HarnessState} {req : LockRequest} {id key : Int} {hasLock loads : Bool}
  {dev : HarnessDevice} {pc : CallPc}

private theorem lookup_ensureMutex (s : HarnessState) (key key' : Int) :
    (s.ensureMutex key).devmutexes.lookup key' =
      if key' = key ∧ key ∉ s.devmutexes then some s.mutexesMade
      else s.devmutexes.lookup key' := by
  rw [ensureMutex]
  split
  · simp [*]
  · rw [AList.lookup_insert_ite]
    simp [*]

namespace HarnessState

/-- No device goes, and no mutex. -/
structure Grows (s s' : HarnessState) : Prop where
  devvec : s.devvec ⊆ s'.devvec
  devmutexes : ∀ key m, s.devmutexes.lookup key = some m → s'.devmutexes.lookup key = some m

private theorem Grows.isLive {s' : HarnessState} (h : s.Grows s') {m : DeviceMutex}
    (hm : s.IsLive m) :
    s'.IsLive m := by
  cases m with
  | ofHarness n =>
    obtain ⟨key, hkey⟩ := hm
    exact ⟨key, h.devmutexes key n hkey⟩
  | ofDevice n =>
    obtain ⟨dev, hmem, hdev⟩ := hm
    exact ⟨dev, h.devvec hmem, hdev⟩

private theorem grows_ensureMutex (s : HarnessState) (key : Int) : s.Grows (s.ensureMutex key) := by
  refine ⟨by simp, fun key' m hm => ?_⟩
  rw [lookup_ensureMutex, if_neg, hm]
  rintro ⟨rfl, hkey⟩
  exact hkey (AList.mem_of_lookup hm)

private theorem grows_addDevice (s : HarnessState) (hasLock loads : Bool) :
    s.Grows (s.addDevice hasLock loads).1 := by
  have hensure := grows_ensureMutex
    { s with nextId := s.nextId + 1, devicesSeen := s.devicesSeen + 1 } s.nextId
  refine ⟨?_, ?_⟩
  · rw [addDevice_devvec]
    split
    · exact List.subset_append_left _ _
    · exact List.Subset.refl _
  · cases hasLock <;> cases loads
    · exact hensure.devmutexes
    · exact hensure.devmutexes
    · exact fun _ _ hm => hm
    · exact fun _ _ hm => hm

private theorem grows_mutexFor (s : HarnessState) (id : Int) (dev : HarnessDevice) :
    s.Grows (s.mutexFor id dev).1 := by
  have hrefl : s.Grows s := ⟨List.Subset.refl _, fun _ _ hm => hm⟩
  rw [mutexFor]
  split
  · exact hrefl
  · split
    · exact hrefl
    · exact grows_ensureMutex s id

/-- A mutex keeps the harness well formed. -/
theorem WellFormed.ensureMutex (hs : s.WellFormed) (key : Int) :
    (s.ensureMutex key).WellFormed := by
  by_cases hkey : key ∈ s.devmutexes
  · rwa [HarnessState.ensureMutex, if_pos hkey]
  have hlookup : ∀ key', (s.ensureMutex key).devmutexes.lookup key' =
      if key' = key then some s.mutexesMade else s.devmutexes.lookup key' := by
    intro key'
    rw [lookup_ensureMutex]
    simp [hkey]
  have hmade : (s.ensureMutex key).mutexesMade = s.mutexesMade + 1 := by
    rw [HarnessState.ensureMutex, if_neg hkey]
  refine ⟨by simpa using hs.nodup, by simpa using hs.serial_lt, fun k m hm => ?_,
    fun k k' m hm hm' => ?_⟩
  · rw [hlookup] at hm
    rw [hmade]
    split at hm
    · obtain rfl := Option.some.inj hm
      exact Nat.lt_succ_self _
    · exact (hs.mutex_lt k m hm).trans (Nat.lt_succ_self _)
  · rw [hlookup] at hm hm'
    -- the new number is larger than all numbers given before
    split at hm <;> split at hm'
    · exact ‹k = key›.trans ‹k' = key›.symm
    · obtain rfl := Option.some.inj hm
      exact absurd (hs.mutex_lt k' _ hm') (Nat.lt_irrefl _)
    · obtain rfl := Option.some.inj hm'
      exact absurd (hs.mutex_lt k _ hm) (Nat.lt_irrefl _)
    · exact hs.mutex_inj k k' m hm hm'

/-- A request is served as before when a mutex has been made. -/
theorem Serves.ensureMutex (hs : s.Serves req) (key : Int) : (s.ensureMutex key).Serves req := by
  refine ⟨by simpa using hs.own, fun hlock => ?_, ?_, by simpa using hs.seen⟩
  · obtain ⟨m, hm, hlookup⟩ := hs.ofHarness hlock
    exact ⟨m, hm, (grows_ensureMutex s key).devmutexes _ m hlookup⟩
  · simpa [deviceAt] using hs.place

/-- The harness while `AddDevice` runs: the counters have moved on. -/
theorem WellFormed.count (hs : s.WellFormed) :
    ({ s with nextId := s.nextId + 1, devicesSeen := s.devicesSeen + 1 } :
      HarnessState).WellFormed :=
  ⟨hs.nodup, fun dev hdev => (hs.serial_lt dev hdev).trans (Nat.lt_succ_self _), hs.mutex_lt,
    hs.mutex_inj⟩

/-- A new device keeps the harness well formed. -/
theorem WellFormed.concat (hs : s.WellFormed) (hnew : dev.serial < s.devicesSeen)
    (hne : ∀ dev' ∈ s.devvec, dev'.serial ≠ dev.serial) :
    ({ s with devvec := s.devvec ++ [dev] } : HarnessState).WellFormed := by
  refine ⟨?_, fun dev' hdev' => ?_, hs.mutex_lt, hs.mutex_inj⟩
  · rw [List.map_append]
    refine List.nodup_append.mpr ⟨hs.nodup, List.nodup_singleton _, fun n hn n' hn' => ?_⟩
    obtain ⟨d, hd, rfl⟩ := List.mem_map.mp hn
    obtain rfl := List.mem_singleton.mp hn'
    exact hne d hd
  · rcases List.mem_append.mp hdev' with hmem | hmem
    · exact hs.serial_lt dev' hmem
    · rwa [List.mem_singleton.mp hmem]

/-- A request is served as before when a device has been added. -/
theorem Serves.concat (hs : s.Serves req) (hne : req.dev.serial ≠ dev.serial) :
    ({ s with devvec := s.devvec ++ [dev] } : HarnessState).Serves req := by
  refine ⟨fun hlock => ⟨(hs.own hlock).1, List.mem_append_left _ (hs.own hlock).2⟩,
    hs.ofHarness, fun hmem => ?_, hs.seen⟩
  rcases List.mem_append.mp hmem with hmem | hmem
  · obtain ⟨hpos, hget⟩ := deviceAt_eq_some_iff.mp (hs.place hmem)
    refine deviceAt_eq_some_iff.mpr ⟨hpos, ?_⟩
    change (s.devvec ++ [dev])[req.pos.toNat]? = _
    rw [List.getElem?_append_left (List.getElem?_eq_some_iff.mp hget).1, hget]
  · exact absurd (by rw [List.mem_singleton.mp hmem]) hne

/-- To add a device keeps the harness well formed. -/
theorem WellFormed.addDevice (hs : s.WellFormed) : (s.addDevice hasLock loads).1.WellFormed := by
  have hne : ∀ dev ∈ s.devvec, dev.serial ≠ s.devicesSeen :=
    fun dev hdev => (hs.serial_lt dev hdev).ne
  have hensure := hs.count.ensureMutex s.nextId
  cases hasLock <;> cases loads
  · exact hensure
  · exact hensure.concat (by simp) (by simpa using hne)
  · exact hs.count
  · exact hs.count.concat (Nat.lt_succ_self _) hne

/-- To add a device changes nothing for a request. -/
theorem Serves.addDevice (hs : s.Serves req) : (s.addDevice hasLock loads).1.Serves req := by
  have hcount : ({ s with nextId := s.nextId + 1, devicesSeen := s.devicesSeen + 1 } :
      HarnessState).Serves req :=
    ⟨hs.own, hs.ofHarness, hs.place, hs.seen.trans (Nat.lt_succ_self _)⟩
  have hensure := hcount.ensureMutex s.nextId
  cases hasLock <;> cases loads
  · exact hensure
  · exact hensure.concat hs.seen.ne
  · exact hcount
  · exact hcount.concat hs.seen.ne

/-- To look for a mutex keeps the harness well formed. -/
theorem WellFormed.mutexFor (hs : s.WellFormed) : (s.mutexFor id dev).1.WellFormed := by
  rw [HarnessState.mutexFor]
  split
  · exact hs
  · split
    · exact hs
    · exact hs.ensureMutex id

/-- To look for a mutex changes nothing for a request. -/
theorem Serves.mutexFor (hs : s.Serves req) : (s.mutexFor id dev).1.Serves req := by
  rw [HarnessState.mutexFor]
  split
  · exact hs
  · split
    · exact hs
    · exact hs.ensureMutex id

/-- To look for a mutex changes no device. -/
@[simp]
theorem mutexFor_devvec : (s.mutexFor id dev).1.devvec = s.devvec := by
  rw [HarnessState.mutexFor]
  split
  · rfl
  · split
    · rfl
    · exact ensureMutex_devvec

/-- The mutex chosen for the device at a position is the one that guards it. -/
theorem serves_mutexFor (hs : s.WellFormed) (hat : s.deviceAt id = some dev) :
    (s.mutexFor id dev).1.Serves ⟨id, dev, (s.mutexFor id dev).2⟩ := by
  have hmem : dev ∈ s.devvec := List.mem_of_getElem? (deviceAt_eq_some_iff.mp hat).2
  have hseen : (s.mutexFor id dev).1.devicesSeen = s.devicesSeen := by
    rw [HarnessState.mutexFor]
    split
    · rfl
    · split
      · rfl
      · exact ensureMutex_devicesSeen
  refine ⟨fun hlock => ?_, fun hlock => ?_, fun _ => ?_, hseen ▸ hs.serial_lt dev hmem⟩
  · refine ⟨?_, by simpa using hmem⟩
    rw [HarnessState.mutexFor, if_pos hlock]
  · rw [HarnessState.mutexFor, if_neg (by simpa using hlock)]
    split
    · exact ⟨_, rfl, ‹_›⟩
    · refine ⟨_, rfl, ?_⟩
      rw [lookup_ensureMutex, if_pos ⟨rfl, AList.lookup_eq_none.mp ‹_›⟩]
  · rw [deviceAt, mutexFor_devvec]
    exact hat

/-- To remove a device keeps the harness well formed. -/
theorem WellFormed.eraseDevice (hs : s.WellFormed) : (s.eraseDevice id).WellFormed := by
  have hlookup : ∀ key m, (s.eraseDevice id).devmutexes.lookup key = some m →
      s.devmutexes.lookup key = some m := by
    intro key m hm
    change (s.devmutexes.erase id).lookup key = some m at hm
    rw [AList.lookup_erase_ite] at hm
    split at hm
    · cases hm
    · exact hm
  have hsub : (s.devvec.eraseIdx id.toNat).Sublist s.devvec := List.eraseIdx_sublist _ _
  exact ⟨hs.nodup.sublist (hsub.map _), fun dev hdev => hs.serial_lt dev (hsub.subset hdev),
    fun key m hm => hs.mutex_lt key m (hlookup key m hm),
    fun key key' m hm hm' => hs.mutex_inj key key' m (hlookup key m hm) (hlookup key' m hm')⟩

/-- The devices in front of a removed one stay where they are. -/
theorem deviceAt_eraseDevice {pos : Int} (hlt : pos < id) (hat : s.deviceAt pos = some dev) :
    (s.eraseDevice id).deviceAt pos = some dev := by
  obtain ⟨hpos, hget⟩ := deviceAt_eq_some_iff.mp hat
  refine deviceAt_eq_some_iff.mpr ⟨hpos, ?_⟩
  change (s.devvec.eraseIdx id.toNat)[pos.toNat]? = _
  rw [List.getElem?_eraseIdx_of_lt (by omega), hget]

/-- A removal behind the position of a request. -/
theorem Serves.eraseDevice (hs : s.Serves req) (hlt : req.pos < id) :
    (s.eraseDevice id).Serves req := by
  have hplace : req.dev ∈ s.devvec → (s.eraseDevice id).deviceAt req.pos = some req.dev :=
    fun hmem => deviceAt_eraseDevice hlt (hs.place hmem)
  have hsub : (s.devvec.eraseIdx id.toNat).Sublist s.devvec := List.eraseIdx_sublist _ _
  refine ⟨fun hlock => ?_, fun hlock => ?_, fun hmem => hplace (hsub.subset hmem), hs.seen⟩
  · obtain ⟨hm, hmem⟩ := hs.own hlock
    exact ⟨hm, List.mem_of_getElem? (deviceAt_eq_some_iff.mp (hplace hmem)).2⟩
  · obtain ⟨m, hm, hlookup⟩ := hs.ofHarness hlock
    refine ⟨m, hm, ?_⟩
    change (s.devmutexes.erase id).lookup req.pos = some m
    rw [AList.lookup_erase_ne hlt.ne, hlookup]

/-- To clear the devices keeps the harness well formed. -/
theorem WellFormed.clear (hs : s.WellFormed) :
    ({ s with devvec := [] } : HarnessState).WellFormed :=
  ⟨List.nodup_nil, by simp, hs.mutex_lt, hs.mutex_inj⟩

/-- A clear, while no device has a lock of its own. -/
theorem Serves.clear (hs : s.Serves req)
    (hnone : ∀ dev ∈ s.devvec, dev.hasLockImplementation = false) :
    ({ s with devvec := [] } : HarnessState).Serves req := by
  refine ⟨fun hlock => ?_, hs.ofHarness, by simp, hs.seen⟩
  have := hnone req.dev (hs.own hlock).2
  rw [hlock] at this
  cases this

/-- To add a device changes nothing for a call. -/
theorem ServesCall.addDevice (hs : s.ServesCall pc) :
    (s.addDevice hasLock loads).1.ServesCall pc := by
  refine ⟨fun req hreq => (hs.requests req hreq).addDevice, fun id m hpc => ?_⟩
  obtain ⟨n, hm, hlookup⟩ := hs.removing id m hpc
  exact ⟨n, hm, (grows_addDevice s hasLock loads).devmutexes id n hlookup⟩

/-- To look for a mutex changes nothing for a call. -/
theorem ServesCall.mutexFor (hs : s.ServesCall pc) : (s.mutexFor id dev).1.ServesCall pc := by
  refine ⟨fun req hreq => (hs.requests req hreq).mutexFor, fun id' m hpc => ?_⟩
  obtain ⟨n, hm, hlookup⟩ := hs.removing id' m hpc
  exact ⟨n, hm, (grows_mutexFor s id dev).devmutexes id' n hlookup⟩

/-- To remove a device changes nothing for a call at the devices before it. -/
theorem ServesCall.eraseDevice (hs : s.ServesCall pc) (hlt : ∀ pos ∈ pc.positions, pos < id) :
    (s.eraseDevice id).ServesCall pc := by
  refine ⟨fun req hreq => (hs.requests req hreq).eraseDevice (hlt _ ?_), fun id' m hpc => ?_⟩
  · cases pc with
    | removing => cases hreq
    | _ => exact List.mem_map_of_mem hreq
  · obtain ⟨n, hm, hlookup⟩ := hs.removing id' m hpc
    subst hpc
    refine ⟨n, hm, ?_⟩
    change (s.devmutexes.erase id).lookup id' = some n
    rw [AList.lookup_erase_ne (hlt id' (List.mem_singleton_self _)).ne, hlookup]

/-- To clear changes nothing for a call, if no device has a lock of its own. -/
theorem ServesCall.clear (hs : s.ServesCall pc)
    (hnone : ∀ dev ∈ s.devvec, dev.hasLockImplementation = false) :
    ({ s with devvec := [] } : HarnessState).ServesCall pc :=
  ⟨fun req hreq => (hs.requests req hreq).clear hnone, hs.removing⟩

/-- The mutex of a request that is served lives. -/
private theorem Serves.isLive (hs : s.Serves req) : s.IsLive req.mutex := by
  cases hlock : req.dev.hasLockImplementation with
  | true =>
    obtain ⟨hm, hmem⟩ := hs.own hlock
    rw [hm]
    exact ⟨req.dev, hmem, rfl, hlock⟩
  | false =>
    obtain ⟨m, hm, hlookup⟩ := hs.ofHarness hlock
    rw [hm]
    exact ⟨req.pos, hlookup⟩

private theorem ServesCall.isLive (hs : s.ServesCall pc) : ∀ m ∈ pc.mutexes, s.IsLive m := by
  intro m hm
  cases pc with
  | removing id mutex =>
    obtain rfl := List.mem_singleton.mp hm
    obtain ⟨n, rfl, hlookup⟩ := hs.removing id m rfl
    exact ⟨id, hlookup⟩
  | _ =>
    obtain ⟨req, hreq, rfl⟩ := List.mem_map.mp hm
    exact (hs.requests req hreq).isLive

end HarnessState

end Harness

/-! ### The invariant

A step of a call either changes the harness and keeps all requests (`Consistent.withHarness`), or
moves one call on and keeps the harness (`Consistent.update`). The steps of the four operations are
put together from these two. -/

/-- Every request that is held or waited for is for the lock that guards its device, and the
mutexes are held as the calls say. -/
structure Locking.Consistent {ι : Type} (s : Locking ι) : Prop where
  wellFormed : s.harness.WellFormed
  serves : ∀ t, s.harness.ServesCall (s.calls t)
  same_pos : ∀ t t', ∀ req ∈ (s.calls t).requests, ∀ req' ∈ (s.calls t').requests,
    req.dev = req'.dev → req.pos = req'.pos
  holder_iff : ∀ m t, s.holder m = some t ↔ ∃ req ∈ (s.calls t).held, req.mutex = m
  /-- `ClearDevices` goes through the positions from the first one. -/
  covers : ∀ t held req timed, s.calls t = .clearing held req timed →
    req.pos = held.length ∧ ∀ p < held.length, ∃ req' ∈ held, req'.pos = p
  calm : ∀ t, s.calls t ≠ .ready (some .noMutex)

private theorem CallPc.held_subset_requests (pc : CallPc) : pc.held ⊆ pc.requests := by
  rcases pc with _ | _ | _ | _ | ⟨held, req, timed⟩ | _
  all_goals first
    | exact List.Subset.refl _
    | exact List.nil_subset _
    | exact List.subset_append_left _ _

/-- A device that is there is at one position. -/
theorem HarnessState.Serves.pos_eq {s : HarnessState} {req req' : LockRequest}
    (hwf : s.WellFormed) (hs : s.Serves req) (hs' : s.Serves req') (hdev : req.dev = req'.dev)
    (hmem : req.dev ∈ s.devvec) : req.pos = req'.pos := by
  obtain ⟨hpos, hget⟩ := deviceAt_eq_some_iff.mp (hs.place hmem)
  obtain ⟨hpos', hget'⟩ := deviceAt_eq_some_iff.mp (hs'.place (hdev ▸ hmem))
  obtain ⟨hlt, hget⟩ := List.getElem?_eq_some_iff.mp hget
  obtain ⟨hlt', hget'⟩ := List.getElem?_eq_some_iff.mp hget'
  have := (List.Nodup.of_map _ hwf.nodup).getElem_inj_iff.mp (hget.trans (hdev.trans hget'.symm))
  omega

/-- Requests for one device are for one mutex. -/
theorem HarnessState.Serves.mutex_eq {s : HarnessState} {req req' : LockRequest}
    (hs : s.Serves req) (hs' : s.Serves req') (hdev : req.dev = req'.dev)
    (hpos : req.pos = req'.pos) : req.mutex = req'.mutex := by
  cases hlock : req.dev.hasLockImplementation with
  | true => rw [(hs.own hlock).1, (hs'.own (hdev ▸ hlock)).1, hdev]
  | false =>
    obtain ⟨m, hm, hlookup⟩ := hs.ofHarness hlock
    obtain ⟨m', hm', hlookup'⟩ := hs'.ofHarness (hdev ▸ hlock)
    rw [hpos, hlookup'] at hlookup
    rw [hm, hm', Option.some.inj hlookup]

section Consistent

variable {ι : Type} [DecidableEq ι] {s s' : Locking ι} {t : ι} {pc : CallPc}
  {harness : HarnessState} {holder : DeviceMutex → Option ι}

namespace Locking

omit [DecidableEq ι] in
/-- A change of the harness keeps consistency, if it serves the calls. -/
private theorem Consistent.withHarness (hs : s.Consistent) (hwf : harness.WellFormed)
    (hserves : ∀ t, harness.ServesCall (s.calls t)) :
    ({ s with harness } : Locking ι).Consistent :=
  ⟨hwf, hserves, hs.same_pos, hs.holder_iff, hs.covers, hs.calm⟩

/-- A call goes on, keeping the requests it has or adding one for a device that is there. -/
theorem Consistent.update (hs : s.Consistent) (hpc : s.harness.ServesCall pc)
    (hreq : ∀ req ∈ pc.requests, req ∈ (s.calls t).requests ∨ req.dev ∈ s.harness.devvec)
    (hself : ∀ m, holder m = some t ↔ ∃ req ∈ pc.held, req.mutex = m)
    (hother : ∀ m t', t' ≠ t → (holder m = some t' ↔ s.holder m = some t'))
    (hcovers : ∀ held req timed, pc = .clearing held req timed →
      req.pos = held.length ∧ ∀ p < held.length, ∃ req' ∈ held, req'.pos = p)
    (hcalm : pc ≠ .ready (some .noMutex)) :
    (⟨s.harness, Function.update s.calls t pc, holder⟩ : Locking ι).Consistent := by
  -- every request was there before, or is for a device that is there
  have hold : ∀ t', ∀ req ∈ (Function.update s.calls t pc t').requests,
      (∃ t₀, req ∈ (s.calls t₀).requests) ∨ req.dev ∈ s.harness.devvec := by
    intro t' req hmem
    by_cases ht : t' = t
    · subst ht
      rw [Function.update_self] at hmem
      exact (hreq req hmem).imp_left fun h => ⟨t', h⟩
    · rw [Function.update_of_ne ht] at hmem
      exact .inl ⟨t', hmem⟩
  have hserves : ∀ t', s.harness.ServesCall (Function.update s.calls t pc t') := by
    intro t'
    by_cases ht : t' = t
    · subst ht
      rwa [Function.update_self]
    · rw [Function.update_of_ne ht]
      exact hs.serves t'
  refine ⟨hs.wellFormed, hserves, ?_, ?_, ?_, ?_⟩
  · intro t₁ t₂ req hmem req' hmem' hdev
    have h₁ := (hserves t₁).requests req hmem
    have h₂ := (hserves t₂).requests req' hmem'
    -- two requests for one device: a new one has the position of the device
    obtain ⟨t₁', hold₁⟩ | hdev₁ := hold t₁ req hmem
    · obtain ⟨t₂', hold₂⟩ | hdev₂ := hold t₂ req' hmem'
      · exact hs.same_pos t₁' t₂' req hold₁ req' hold₂ hdev
      · exact (h₂.pos_eq hs.wellFormed h₁ hdev.symm hdev₂).symm
    · exact h₁.pos_eq hs.wellFormed h₂ hdev hdev₁
  · intro m t'
    change holder m = some t' ↔ ∃ req ∈ (Function.update s.calls t pc t').held, req.mutex = m
    by_cases ht : t' = t
    · subst ht
      rw [Function.update_self]
      exact hself m
    · rw [Function.update_of_ne ht]
      exact (hother m t' ht).trans (hs.holder_iff m t')
  · intro t' held req timed hcall
    change Function.update s.calls t pc t' = _ at hcall
    by_cases ht : t' = t
    · subst ht
      rw [Function.update_self] at hcall
      exact hcovers held req timed hcall
    · rw [Function.update_of_ne ht] at hcall
      exact hs.covers t' held req timed hcall
  · intro t'
    change Function.update s.calls t pc t' ≠ _
    by_cases ht : t' = t
    · subst ht
      rw [Function.update_self]
      exact hcalm
    · rw [Function.update_of_ne ht]
      exact hs.calm t'

/-- A call that keeps its locks. -/
theorem Consistent.setPc (hs : s.Consistent) (hheld : pc.held = (s.calls t).held)
    (hpc : s.harness.ServesCall pc)
    (hreq : ∀ req ∈ pc.requests, req ∈ (s.calls t).requests ∨ req.dev ∈ s.harness.devvec)
    (hcovers : ∀ held req timed, pc = .clearing held req timed →
      req.pos = held.length ∧ ∀ p < held.length, ∃ req' ∈ held, req'.pos = p)
    (hcalm : pc ≠ .ready (some .noMutex)) :
    (s.setPc t pc).Consistent :=
  hs.update hpc hreq (fun m => hheld ▸ hs.holder_iff m t) (fun _ _ _ => Iff.rfl) hcovers hcalm

/-- The call that ends has no lock any more, and the others keep theirs. -/
theorem Consistent.finish (hs : s.Consistent) {res : CallResult} (hres : res ≠ .noMutex) :
    (s.finish t res).Consistent := by
  have hholder : ∀ m, (s.finish t res).holder m =
      if s.holder m = some t then none else s.holder m := by
    intro m
    refine if_congr ?_ rfl rfl
    rw [hs.holder_iff, List.mem_map]
  change Consistent
    ⟨s.harness, Function.update s.calls t (.ready (some res)), (s.finish t res).holder⟩
  refine hs.update ⟨by simp [CallPc.requests], by simp⟩ (by simp [CallPc.requests])
    (fun m => ?_) (fun m t' ht => ?_) (by simp) (by simpa using hres)
  · by_cases hm : s.holder m = some t
    · simp [CallPc.held, hholder, hm]
    · simp [CallPc.held, hholder, hm]
  · by_cases hm : s.holder m = some t
    · simp [hholder, hm, ht.symm]
    · simp [hholder, hm]

omit [DecidableEq ι] in
/-- A mutex that nobody has goes to a call. -/
theorem Consistent.holder_take (hs : s.Consistent) {held : List LockRequest}
    {req : LockRequest} (hheld : (s.calls t).held = held) (hfree : s.holder req.mutex = none) :
    (∀ m, (s.take t req.mutex).holder m = some t ↔ ∃ req' ∈ held ++ [req], req'.mutex = m) ∧
      ∀ m t', t' ≠ t → ((s.take t req.mutex).holder m = some t' ↔ s.holder m = some t') := by
  constructor
  · intro m
    by_cases hm : m = req.mutex
    · subst hm
      simp [take]
    · have hne : req.mutex ≠ m := fun h => hm h.symm
      simp only [take, Function.update_of_ne hm, List.mem_append, List.mem_singleton]
      rw [hs.holder_iff, hheld]
      constructor
      · rintro ⟨req', hmem, hreq⟩
        exact ⟨req', .inl hmem, hreq⟩
      · rintro ⟨req', hmem | rfl, hreq⟩
        · exact ⟨req', hmem, hreq⟩
        · exact absurd hreq hne
  · intro m t' ht
    by_cases hm : m = req.mutex
    · subst hm
      simp [take, hfree, ht.symm]
    · simp [take, Function.update_of_ne hm]

omit [DecidableEq ι] in
/-- A request for a device is served. -/
theorem Consistent.request (hs : s.Consistent) {id : Int} {dev : HarnessDevice}
    (hat : s.harness.deviceAt id = some dev) : (s.request id dev).1.Consistent ∧
      (s.request id dev).1.harness.Serves (s.request id dev).2 ∧
      dev ∈ (s.request id dev).1.harness.devvec := by
  refine ⟨hs.withHarness hs.wellFormed.mutexFor fun t => (hs.serves t).mutexFor,
    serves_mutexFor hs.wellFormed hat, ?_⟩
  change dev ∈ (s.harness.mutexFor id dev).1.devvec
  rw [mutexFor_devvec]
  exact List.mem_of_getElem? (deviceAt_eq_some_iff.mp hat).2

/-- `ClearDevices` goes on to the next device, or ends the loop. -/
theorem Consistent.clearNext (hs : s.Consistent) {held : List LockRequest} (timed : Bool)
    (hheld : (s.calls t).held = held)
    (hcovers : ∀ p < held.length, ∃ req ∈ held, req.pos = p)
    (hlast : s.harness.devvec.length ≤ held.length →
      ∀ dev ∈ s.harness.devvec, dev.hasLockImplementation = false) :
    (s.clearNext t held timed).Consistent := by
  have hsub : ∀ req ∈ held, req ∈ (s.calls t).requests := fun req hreq =>
    (s.calls t).held_subset_requests (hheld ▸ hreq)
  obtain ⟨dev, hget, heq⟩ | ⟨hlen, heq⟩ := s.clearNext_cases t held timed
  · -- the next device is locked at the place behind those that are
    have hat : s.harness.deviceAt (held.length : Int) = some dev := by
      rw [deviceAt_natCast, hget]
    obtain ⟨hs', hserves, hmem⟩ := hs.request hat
    rw [heq]
    refine hs'.setPc hheld.symm ⟨?_, by simp⟩ ?_ ?_ (by simp)
    · intro req hreq
      rcases List.mem_append.mp hreq with hold | hnew
      · exact (hs'.serves t).requests req (hsub req hold)
      · rwa [List.mem_singleton.mp hnew]
    · intro req hreq
      rcases List.mem_append.mp hreq with hold | hnew
      · exact .inl (hsub req hold)
      · rw [List.mem_singleton.mp hnew]
        exact .inr hmem
    · rintro held' req timed' ⟨⟩
      exact ⟨rfl, hcovers⟩
  · rw [heq]
    -- all devices have been locked: the vector is cleared
    have hs' : ({ s with harness := { s.harness with devvec := [] } } : Locking ι).Consistent :=
      hs.withHarness hs.wellFormed.clear fun t => (hs.serves t).clear (hlast hlen)
    refine hs'.setPc hheld.symm ⟨?_, by simp⟩ ?_ (by simp) (by simp)
    · exact fun req hreq => (hs'.serves t).requests req (hsub req hreq)
    · exact fun req hreq => .inl (hsub req hreq)

/-- The step of an acquisition: the mutex changes hands, the requests stay. -/
theorem Consistent.acquire (hs : s.Consistent) {held : List LockRequest} {req : LockRequest}
    (hheld : (s.calls t).held = held) (hmem : req ∈ (s.calls t).requests)
    (hfree : s.holder req.mutex = none) (hpc : pc.requests = pc.held)
    (hnew : pc.held = held ++ [req]) (hpc' : ∀ held req timed, pc ≠ .clearing held req timed)
    (hcalm : pc ≠ .ready (some .noMutex) ∧ ∀ id m, pc ≠ .removing id m) :
    ((s.take t req.mutex).setPc t pc).Consistent := by
  obtain ⟨hself, hother⟩ := hs.holder_take hheld hfree
  have hsub : ∀ req' ∈ pc.requests, req' ∈ (s.calls t).requests := by
    intro req' hreq'
    rw [hpc, hnew] at hreq'
    rcases List.mem_append.mp hreq' with hold | hlast
    · exact (s.calls t).held_subset_requests (hheld ▸ hold)
    · rwa [List.mem_singleton.mp hlast]
  refine hs.update ⟨fun req' hreq' => (hs.serves t).requests req' (hsub req' hreq'), ?_⟩
    (fun req' hreq' => .inl (hsub req' hreq')) (fun m => hnew ▸ hself m) hother ?_ hcalm.1
  · exact fun id m hrem => absurd hrem (hcalm.2 id m)
  · exact fun held' req' timed hclear => absurd hclear (hpc' held' req' timed)

private theorem setPc_setPc (s : Locking ι) (t : ι) (pc pc' : CallPc) :
    (s.setPc t pc).setPc t pc' = s.setPc t pc' := by
  simp [setPc]

/-- While the holder is already changed, the call counts as `cleared`. -/
theorem clearNext_setPc (s : Locking ι) (t : ι) (pc : CallPc) (held : List LockRequest)
    (timed : Bool) : (s.setPc t pc).clearNext t held timed = s.clearNext t held timed := by
  have hharness : (s.setPc t pc).harness = s.harness := rfl
  simp only [clearNext, hharness]
  split
  · next dev _ => exact setPc_setPc (s.request held.length dev).1 t pc _
  · exact setPc_setPc { s with harness := { s.harness with devvec := [] } } t pc _

/-- A device is removed while the positions from its own on are vacant. -/
theorem Consistent.eraseDevice (hs : s.Consistent) {id : Int} (hvacant : s.Vacant t id) :
    ({ s with harness := s.harness.eraseDevice id }.finish t .done).Consistent := by
  -- the call itself is over first: then every position is in front
  have hfin : (s.finish t .done).Consistent := hs.finish (by simp)
  refine hfin.withHarness hs.wellFormed.eraseDevice fun t' => (hfin.serves t').eraseDevice ?_
  intro pos hmem
  change pos ∈ (Function.update s.calls t (.ready (some .done)) t').positions at hmem
  by_cases ht : t' = t
  · subst ht
    rw [Function.update_self] at hmem
    cases hmem
  · rw [Function.update_of_ne ht] at hmem
    exact hvacant t' ht pos hmem

/-- **A careful step** keeps the locks consistent. -/
theorem Consistent.step (hs : s.Consistent) {l : LockLabel ι} (hl : Careful s l)
    (h : s.step l = some s') : s'.Consistent := by
  obtain ⟨hasLock, loads⟩ | ⟨_, _, hpc⟩ | ⟨timed, hpc, hat⟩ | ⟨hpc, hfree⟩ | ⟨hpc, hfree⟩ |
    ⟨hpc, _⟩ | ⟨_⟩ | ⟨_, _⟩ | ⟨hpc, hat, hlock⟩ | ⟨hpc, hat, _, hm⟩ | ⟨_, hat, hlock, hm⟩ |
    ⟨timed, hpc⟩ := stepped_of_step h
  · exact hs.withHarness hs.wellFormed.addDevice fun t => (hs.serves t).addDevice
  · refine hs.setPc (by simp [hpc, CallPc.held]) ⟨?_, ?_⟩ ?_ ?_ ?_
    all_goals simp [CallPc.requests]
  · obtain ⟨hs', hserves, hmem⟩ := hs.request hat
    refine hs'.setPc ?_ ⟨fun req hreq => ?_, by simp⟩ (fun req hreq => .inr ?_) (by simp) (by simp)
    · exact (congrArg CallPc.held hpc).symm
    · rwa [List.mem_singleton.mp hreq]
    · rwa [List.mem_singleton.mp hreq]
  · exact hs.acquire (congrArg CallPc.held hpc) (by simp [hpc, CallPc.requests]) hfree rfl rfl
      (by simp) (by simp)
  · next t held req timed =>
    -- the call has the new lock as well, and goes on from there
    have hs' : ((s.take t req.mutex).setPc t (.cleared (held ++ [req]))).Consistent :=
      hs.acquire (congrArg CallPc.held hpc) (by simp [hpc, CallPc.requests]) hfree rfl rfl
        (by simp) (by simp)
    rw [← clearNext_setPc _ t (.cleared (held ++ [req]))]
    refine hs'.clearNext timed (by simp [Locking.setPc, CallPc.held]) (fun p hp => ?_)
      fun hlen => ?_
    rotate_left
    · rw [List.length_append, List.length_singleton] at hlen
      exact hl.2 held.length (by simp [hpc, CallPc.locksSoFar]) hlen
    obtain ⟨hpos, hcovers⟩ := hs.covers t held req timed hpc
    rw [List.length_append, List.length_singleton] at hp
    obtain hlt | rfl := Nat.lt_succ_iff_lt_or_eq.mp hp
    · obtain ⟨req', hreq', hp'⟩ := hcovers p hlt
      exact ⟨req', List.mem_append_left _ hreq', hp'⟩
    · exact ⟨req, List.mem_append_right _ (List.mem_singleton_self req), hpos⟩
  · exact hs.eraseDevice (hl.1 _ (by simp [hpc, CallPc.removes]))
  · exact hs.finish (by simp)
  · exact hs.finish (by simp)
  · have hvacant := hl _ hat
    rw [if_neg (by simp [hlock])] at hvacant
    exact hs.eraseDevice hvacant
  · refine hs.setPc (by simp [hpc, CallPc.held]) ⟨by simp [CallPc.requests], ?_⟩ ?_ ?_ ?_
    · rintro id m ⟨⟩
      exact ⟨_, rfl, hm⟩
    all_goals simp [CallPc.requests]
  · -- a mutex is registered
    have hmem := hl _ hat
    rw [if_pos hlock] at hmem
    exact absurd hmem (AList.lookup_eq_none.mp hm)
  · exact hs.clearNext timed (congrArg CallPc.held hpc) (by simp) fun hlen => by
      simp [List.length_eq_zero_iff.mp (Nat.le_zero.mp hlen)]

/-! ### What the invariant gives -/

omit [DecidableEq ι] in
/-- Nobody but the holder of the mutex is inside. -/
theorem Consistent.exclusive (hs : s.Consistent) {t' : ι} {req req' : LockRequest}
    (hpc : s.calls t = .inside req) (hpc' : s.calls t' = .inside req')
    (hdev : req.dev = req'.dev) : t = t' := by
  have hreq : req ∈ (s.calls t).requests := by simp [hpc, CallPc.requests]
  have hreq' : req' ∈ (s.calls t').requests := by simp [hpc', CallPc.requests]
  have hpos := hs.same_pos t t' req hreq req' hreq' hdev
  have hmutex := ((hs.serves t).requests req hreq).mutex_eq ((hs.serves t').requests req' hreq')
    hdev hpos
  have hholder := (hs.holder_iff req.mutex t).mpr ⟨req, by simp [hpc, CallPc.held], rfl⟩
  have hholder' := (hs.holder_iff req.mutex t').mpr
    ⟨req', by simp [hpc', CallPc.held], hmutex.symm⟩
  exact Option.some.inj (hholder.symm.trans hholder')

/-- The other calls stay where they are. -/
theorem Stepped.calls_eq {l : LockLabel ι} (h : s.Stepped l s') (ht : l.caller ≠ some t) :
    s'.calls t = s.calls t := by
  have hne : ∀ {t₀}, some t₀ ≠ some t → t ≠ t₀ := fun h heq => h (congrArg some heq.symm)
  have hnext : ∀ {s : Locking ι} {t₀ held timed}, t ≠ t₀ →
      (s.clearNext t₀ held timed).calls t = s.calls t := by
    intro s t₀ held timed hne
    obtain ⟨dev, -, heq⟩ | ⟨-, heq⟩ := s.clearNext_cases t₀ held timed
    all_goals rw [heq]; exact Function.update_of_ne hne _ _
  cases h with
  | add => rfl
  | acquireNext hpc => exact hnext (hne ht)
  | clear timed hpc => exact hnext (hne ht)
  | _ => exact Function.update_of_ne (hne ht) _ _

/-- A call with a timeout gets its lock or reports contention. -/
theorem Stepped.timed {l : LockLabel ι} {req : LockRequest} (h : s.Stepped l s')
    (hpc : s.calls t = .locking req true) : s'.calls t = .locking req true ∨
      s'.calls t = .inside req ∨ s'.calls t = .ready (some .contention) := by
  by_cases ht : l.caller = some t
  · cases h with
    | add => cases ht
    | acquire hpc' =>
      obtain rfl := Option.some.inj ht
      rw [hpc] at hpc'
      cases hpc'
      exact .inr (.inl (Function.update_self _ _ _))
    | timeout =>
      obtain rfl := Option.some.inj ht
      exact .inr (.inr (Function.update_self _ _ _))
    | release hpc' hheld =>
      obtain rfl := Option.some.inj ht
      exact absurd (hpc'.symm.trans hpc) (hheld req true)
    | noDevice _ _ hpc' | lock _ hpc' | acquireNext hpc' | removeLocked hpc'
    | remove hpc' | removing hpc' | noMutex hpc' | clear _ hpc' =>
      -- the call is at another point
      obtain rfl := Option.some.inj ht
      rw [hpc] at hpc'
      cases hpc'
  · exact .inl ((h.calls_eq ht).trans hpc)

/-- Where the locks are consistent, the devices are guarded. -/
private theorem Consistent.guarded (hs : s.Consistent) : s.Guarded where
  exclusive _ _ _ _ hpc hpc' hdev := hs.exclusive hpc hpc' hdev
  registered := hs.calm
  live t := (hs.serves t).isLive
  timed t req hpc := by
    refine ⟨by simp [Locking.step, hpc], fun l s' h => ?_⟩
    exact (stepped_of_step h).timed hpc

/-! ### What a step destroys

A removal destroys the device and the mutex under its position, a clear destroys all devices. None
of them is in use: a careful removal finds the positions from its own on vacant, and a clear has the
lock of every position when it destroys. -/

omit [DecidableEq ι] in
private theorem Spares.of_grows (h : s.harness.Grows s'.harness) : s.Spares s' where
  devices _ hmem hgone := absurd (h.devvec hmem) hgone
  mutexes _ hm hgone := absurd (h.isLive hm) hgone

omit [DecidableEq ι] in
/-- Where the harness stays, no device goes. -/
theorem Spares.of_eq (h : s'.harness = s.harness) : s.Spares s' :=
  .of_grows (h ▸ ⟨List.Subset.refl _, fun _ _ hm => hm⟩)

/-- The devices and mutexes of the other calls survive a removal behind them. -/
theorem Consistent.spares_eraseDevice (hs : s.Consistent) {id : Int} (hvacant : s.Vacant t id)
    (hheld : (s.calls t).held = []) :
    s.Spares ({ s with harness := s.harness.eraseDevice id }.finish t .done) where
  devices dev hmem hgone t' req hpc hdev := by
    have hne : t' ≠ t := by
      rintro rfl
      simp [hpc, CallPc.held] at hheld
    have hreq : req ∈ (s.calls t').requests := by simp [hpc, CallPc.requests]
    have hlt := hvacant t' hne req.pos (by simp [hpc, CallPc.positions, CallPc.requests])
    have hat := deviceAt_eraseDevice hlt (((hs.serves t').requests req hreq).place (hdev ▸ hmem))
    exact hgone (hdev ▸ List.mem_of_getElem? (deviceAt_eq_some_iff.mp hat).2)
  mutexes m _ hgone := by
    by_contra hholder
    obtain ⟨t', ht'⟩ := Option.ne_none_iff_exists'.mp hholder
    obtain ⟨req, hreq, rfl⟩ := (hs.holder_iff m t').mp ht'
    have hne : t' ≠ t := by
      rintro rfl
      rw [hheld] at hreq
      cases hreq
    refine hgone (((hs.serves t').eraseDevice (hvacant t' hne)).requests req ?_).isLive
    exact (s.calls t').held_subset_requests hreq

omit [DecidableEq ι] in
/-- `ClearDevices` has a lock at every position, and nobody else can be inside. -/
theorem Consistent.spares_clear (hs : s.Consistent)
    (hnone : ∀ dev ∈ s.harness.devvec, dev.hasLockImplementation = false)
    (hcovers : ∀ p < s.harness.devvec.length, ∃ req', s.harness.Serves req' ∧ req'.pos = (p : Int) ∧
      ∀ t' req, s.calls t' = .inside req → req.mutex ≠ req'.mutex)
    (h : s'.harness = { s.harness with devvec := [] }) : s.Spares s' where
  devices dev hmem _ t' req hpc hdev := by
    have hreq : req ∈ (s.calls t').requests := by simp [hpc, CallPc.requests]
    have hserves := (hs.serves t').requests req hreq
    obtain ⟨hpos, hget⟩ := deviceAt_eq_some_iff.mp (hserves.place (hdev ▸ hmem))
    obtain ⟨req', hserves', hpos', hne⟩ :=
      hcovers req.pos.toNat (List.getElem?_eq_some_iff.mp hget).1
    rw [Int.toNat_of_nonneg hpos] at hpos'
    -- neither device has a lock of its own, so both requests are for the mutex of the position
    obtain ⟨m, hm, hlookup⟩ := hserves.ofHarness (hdev ▸ hnone dev hmem)
    have hlock' : req'.dev.hasLockImplementation = false := by
      by_contra hlock
      have hlock : req'.dev.hasLockImplementation = true := by simpa using hlock
      have := hnone req'.dev (hserves'.own hlock).2
      rw [hlock] at this
      cases this
    obtain ⟨m', hm', hlookup'⟩ := hserves'.ofHarness hlock'
    rw [hpos', hlookup] at hlookup'
    exact hne t' req hpc (by rw [hm, hm', Option.some.inj hlookup'])
  mutexes m hlive hgone := by
    cases m with
    | ofHarness n => exact absurd (by simpa [h, HarnessState.IsLive] using hlive) hgone
    | ofDevice n =>
      obtain ⟨dev, hmem, -, hlock⟩ := hlive
      have := hnone dev hmem
      rw [hlock] at this
      cases this

/-- The loop of `ClearDevices` destroys nothing before the devices are locked. -/
theorem spares_clearNext {s₀ : Locking ι} (hharness : s.harness = s₀.harness)
    {held : List LockRequest} (timed : Bool)
    (hclear : s.harness.devvec.length ≤ held.length →
      s₀.Spares { s with harness := { s.harness with devvec := [] } }) :
    s₀.Spares (s.clearNext t held timed) := by
  obtain ⟨dev, -, heq⟩ | ⟨hlen, heq⟩ := s.clearNext_cases t held timed
  · rw [heq]
    refine .of_grows ?_
    rw [← hharness]
    exact grows_mutexFor s.harness held.length dev
  · rw [heq]
    exact ⟨(hclear hlen).devices, (hclear hlen).mutexes⟩

/-- A careful step spares the devices that are in use. -/
private theorem Consistent.spares (hs : s.Consistent) {l : LockLabel ι} (hl : Careful s l)
    (h : s.step l = some s') : s.Spares s' := by
  obtain ⟨hasLock, loads⟩ | ⟨_, _, hpc⟩ | ⟨timed, hpc, hat⟩ | ⟨hpc, hfree⟩ | ⟨hpc, hfree⟩ |
    ⟨hpc, _⟩ | ⟨_⟩ | ⟨_, _⟩ | ⟨hpc, hat, hlock⟩ | ⟨_, _, _, _⟩ | ⟨_, _, _, _⟩ | ⟨timed, hpc⟩ :=
    stepped_of_step h
  · exact .of_grows (grows_addDevice _ _ _)
  · exact .of_eq rfl
  · exact .of_grows (grows_mutexFor _ _ _)
  · exact .of_eq rfl
  · next t held req timed =>
    have hharness : (s.take t req.mutex).harness = s.harness := rfl
    refine spares_clearNext hharness timed fun hlen => ?_
    rw [List.length_append, List.length_singleton] at hlen
    obtain ⟨hpos, hcovers⟩ := hs.covers t held req timed hpc
    have hserves : ∀ req' ∈ held ++ [req], s.harness.Serves req' := fun req' hreq' =>
      (hs.serves t).requests req' (by simpa [hpc, CallPc.requests] using hreq')
    have hlast := hl.2 held.length (by simp [hpc, CallPc.locksSoFar]) hlen
    refine hs.spares_clear hlast (fun p hp => ?_) rfl
    obtain hlt | rfl := Nat.lt_succ_iff_lt_or_eq.mp (hp.trans_le hlen)
    · -- a lock that the call has
      obtain ⟨req', hreq', hp'⟩ := hcovers p hlt
      refine ⟨req', hserves req' (List.mem_append_left _ hreq'), hp', fun t' req₁ hpc' heq => ?_⟩
      have hholder := (hs.holder_iff req'.mutex t).mpr
        ⟨req', by simpa [hpc, CallPc.held] using hreq', rfl⟩
      have hholder' := (hs.holder_iff req'.mutex t').mpr ⟨req₁, by simp [hpc', CallPc.held], heq⟩
      obtain rfl := Option.some.inj (hholder.symm.trans hholder')
      rw [hpc] at hpc'
      cases hpc'
    · -- the lock that the call has just got
      refine ⟨req, hserves req (by simp), hpos, fun t' req₁ hpc' heq => ?_⟩
      have hholder' := (hs.holder_iff req.mutex t').mpr ⟨req₁, by simp [hpc', CallPc.held], heq⟩
      rw [hfree] at hholder'
      cases hholder'
  · -- `RemoveDevice` has the mutex of the device, so it spares those whose mutex another call has
    exact hs.spares_eraseDevice (hl.1 _ (by simp [hpc, CallPc.removes])) (congrArg CallPc.held hpc)
  · exact .of_eq rfl
  · exact .of_eq rfl
  · have hvacant := hl _ hat
    rw [if_neg (by simp [hlock])] at hvacant
    exact hs.spares_eraseDevice hvacant (congrArg CallPc.held hpc)
  · exact .of_eq rfl
  · exact .of_eq rfl
  · refine spares_clearNext rfl timed fun hlen => ?_
    -- there was no device to clear
    have hnil := List.length_eq_zero_iff.mp (Nat.le_zero.mp hlen)
    exact hs.spares_clear (by simp [hnil]) (by simp [hnil]) rfl

end Locking

private theorem consistent_init : (lockSystem ι).init.Consistent where
  wellFormed := ⟨List.nodup_nil, by simp [lockSystem, new], by simp [lockSystem, new],
    by simp [lockSystem, new]⟩
  serves t := ⟨by simp [lockSystem, CallPc.requests], by simp [lockSystem]⟩
  same_pos := by simp [lockSystem, CallPc.requests]
  holder_iff := by simp [lockSystem, CallPc.held]
  covers := by simp [lockSystem]
  calm := by simp [lockSystem]

/-- While devices are removed and cleared with care, no device is used by two threads at once,
none is destroyed under a thread, no mutex is missing, and a timeout ends in the lock or in
contention. -/
theorem guarded_of_careful {s : Locking ι} (h : (lockSystem ι).ReachableWhile Careful s) :
    s.Guarded ∧ ∀ l s', Careful s l → s.step l = some s' → s.Spares s' := by
  have hs : s.Consistent :=
    h.invariant consistent_init fun _ _ _ _ hs hl hstep => hs.step hl hstep
  exact ⟨hs.guarded, fun l s' hl hstep => hs.spares hl hstep⟩

end Consistent

/-- The first thread uses one of two devices, the second waits for the same device and gives up,
then removes the other device. -/
def carefulTrace : List (LockLabel (Fin 2)) :=
  [.add false true, .add false true, .lock 0 0 false, .acquire 0, .lock 1 0 true, .timeout 1,
    .remove 1 1]

theorem guarded_of_careful_carefulTrace : ∃ s,
    (lockSystem (Fin 2)).run (lockSystem (Fin 2)).init carefulTrace = some s ∧
      s.harness.devvec = [⟨0, false⟩] ∧ s.calls 0 = .inside ⟨0, ⟨0, false⟩, .ofHarness 0⟩ ∧
      s.Guarded ∧ ∀ l s', Careful s l → s.step l = some s' → s.Spares s' := by
  have hrun : ((lockSystem (Fin 2)).run (lockSystem (Fin 2)).init carefulTrace).map
      (fun s => (s.harness.devvec, s.calls 0)) =
      some ([⟨0, false⟩], .inside ⟨0, ⟨0, false⟩, .ofHarness 0⟩) := by decide
  obtain ⟨s, hs, hfacts⟩ := Option.map_eq_some_iff.mp hrun
  obtain ⟨hvec, hcall⟩ := Prod.mk.inj hfacts
  have hreach : (lockSystem (Fin 2)).ReachableWhile Careful s :=
    TransitionSystem.ReachableWhile.init.run (by decide) hs
  exact ⟨s, hs, hvec, hcall, guarded_of_careful hreach⟩

/-- **Two threads use one device**: the second of two devices is in use when the first is
removed, and a second thread finds the device at the first position, with another mutex. -/
theorem removal_shares_device : ∃ s, (lockSystem (Fin 2)).Reachable s ∧ ¬ s.Guarded := by
  have hrun : ((lockSystem (Fin 2)).run (lockSystem (Fin 2)).init
      [.add false true, .add false true, .lock 0 1 false, .acquire 0, .remove 1 0,
        .lock 1 0 false, .acquire 1]).map (fun s => (s.calls 0, s.calls 1)) =
      some (.inside ⟨1, ⟨1, false⟩, .ofHarness 1⟩, .inside ⟨0, ⟨1, false⟩, .ofHarness 2⟩) := by
    decide
  obtain ⟨s, hs, hfacts⟩ := Option.map_eq_some_iff.mp hrun
  obtain ⟨hcall, hcall'⟩ := Prod.mk.inj hfacts
  refine ⟨s, TransitionSystem.reachable_of_run hs, fun hguarded => ?_⟩
  exact absurd (hguarded.exclusive 0 1 _ _ hcall hcall' rfl) (by decide)

end Foxtrot
