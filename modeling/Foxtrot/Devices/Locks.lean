import Foxtrot.Devices.Harness
import Mathlib.Data.Fintype.Basic

/-!
# The locks of the devices

Threads take a lock of a device for as long as they use it (`lock_device_contentious`), while
others add devices, remove them or clear the harness. `Locking` is a harness with the calls that are
going on, `ι` of them at most at a time, and the holders of the mutexes. Between two acquisitions
of a mutex a call makes its accesses to the harness in one step.

A lock is good for one device and destroyed only with nobody inside, if three things are observed
(`Careful`). A device is removed only while no other call holds or waits for a mutex at its
position or behind it: the devices behind move up, but their mutexes do not, and the lock of the
removed one is not taken. A device with a lock of its own is removed only where a mutex happens to
be registered under its position. And the last device that `ClearDevices` locks is locked only
while no device has a lock of its own, since the mutex inside a device is destroyed while
`ClearDevices` holds it. Then **no device is used by two threads at once** (`guarded_of_careful`).
-/

namespace Foxtrot

open HarnessState

/-- A lock that is asked for: the position, the device there, and the mutex. -/
structure LockRequest where
  pos : Int
  dev : HarnessDevice
  mutex : DeviceMutex
  deriving DecidableEq

/-- How a call ended. -/
inductive CallResult where
  | done
  /-- `ContentionError`. -/
  | contention
  /-- `std::out_of_range` from the map: no mutex is registered. -/
  | noMutex
  /-- `std::out_of_range` from the vector. -/
  | noDevice
  deriving DecidableEq

/-- Where a call stands. -/
inductive CallPc where
  /-- No call is going on; how the last one ended. -/
  | ready (last : Option CallResult)
  /-- In `lock_device_contentious`, about to lock, with or without a timeout. -/
  | locking (req : LockRequest) (timed : Bool)
  /-- With the lock. -/
  | inside (req : LockRequest)
  /-- In `RemoveDevice`, about to lock the mutex under the id. -/
  | removing (id : Int) (mutex : DeviceMutex)
  /-- In `ClearDevices`, with the first locks, about to take the next. -/
  | clearing (held : List LockRequest) (req : LockRequest) (timed : Bool)
  /-- In `ClearDevices`, the devices are gone, about to release the locks. -/
  | cleared (held : List LockRequest)
  deriving DecidableEq

/-- The locks a call has. -/
def CallPc.held : CallPc → List LockRequest
  | .inside req => [req]
  | .clearing held _ _ | .cleared held => held
  | .ready _ | .locking _ _ | .removing _ _ => []

/-- The locks a call has or waits for. -/
def CallPc.requests : CallPc → List LockRequest
  | .locking req _ | .inside req => [req]
  | .clearing held req _ => held ++ [req]
  | .cleared held => held
  | .ready _ | .removing _ _ => []

/-- The positions whose mutexes a call has or waits for. -/
def CallPc.positions : CallPc → List Int
  | .removing id _ => [id]
  | pc => pc.requests.map LockRequest.pos

/-- The mutexes that a call has or waits for. -/
def CallPc.mutexes : CallPc → List DeviceMutex
  | .removing _ mutex => [mutex]
  | pc => pc.requests.map LockRequest.mutex

/-- How many locks `ClearDevices` has. -/
def CallPc.locksSoFar : CallPc → Option ℕ
  | .clearing held _ _ => some held.length
  | _ => none

/-- The position that `RemoveDevice` waits to clear. -/
def CallPc.removes : CallPc → Option Int
  | .removing id _ => some id
  | _ => none

/-- A harness with the calls going on. -/
structure Locking (ι : Type) where
  harness : HarnessState
  calls : ι → CallPc
  holder : DeviceMutex → Option ι

/-- A step of a call. -/
inductive LockLabel (ι : Type) where
  /-- `AddDevice`. -/
  | add (hasLock loads : Bool)
  /-- `lock_device_contentious` is called. -/
  | lock (t : ι) (id : Int) (timed : Bool)
  /-- The call gets the mutex it waits for, and goes on. -/
  | acquire (t : ι)
  /-- The timeout of the call ends. -/
  | timeout (t : ι)
  /-- The locks of the call are released. -/
  | release (t : ι)
  /-- `RemoveDevice` is called. -/
  | remove (t : ι) (id : Int)
  /-- `ClearDevices` is called. -/
  | clear (t : ι) (timed : Bool)

/-- The call that a step is a step of. -/
def LockLabel.caller {ι : Type} : LockLabel ι → Option ι
  | .add _ _ => none
  | .lock t _ _ | .acquire t | .timeout t | .release t | .remove t _ | .clear t _ => some t

/-- The mutex exists. -/
def HarnessState.IsLive (s : HarnessState) : DeviceMutex → Prop
  | .ofHarness m => ∃ key, s.devmutexes.lookup key = some m
  | .ofDevice n => ∃ dev ∈ s.devvec, dev.serial = n ∧ dev.hasLockImplementation = true

namespace Locking

variable {ι : Type} [DecidableEq ι]

/-- A call goes on. -/
def setPc (s : Locking ι) (t : ι) (pc : CallPc) : Locking ι :=
  { s with calls := Function.update s.calls t pc }

/-- A call gets a mutex. -/
def take (s : Locking ι) (t : ι) (m : DeviceMutex) : Locking ι :=
  { s with holder := Function.update s.holder m (some t) }

/-- A call ends, and releases its locks. -/
def finish (s : Locking ι) (t : ι) (res : CallResult) : Locking ι :=
  { s.setPc t (.ready (some res)) with
    holder := fun m =>
      if m ∈ (s.calls t).held.map LockRequest.mutex then none else s.holder m }

/-- `GetDevice` has found the device, and its mutex is chosen. -/
def request (s : Locking ι) (id : Int) (dev : HarnessDevice) : Locking ι × LockRequest :=
  let (harness, mutex) := s.harness.mutexFor id dev
  ({ s with harness }, ⟨id, dev, mutex⟩)

/-- The head of the loop of `ClearDevices`. -/
def clearNext (s : Locking ι) (t : ι) (held : List LockRequest) (timed : Bool) : Locking ι :=
  match s.harness.devvec[held.length]? with
  | some dev =>
    let (s, req) := s.request held.length dev
    s.setPc t (.clearing held req timed)
  | none => { s with harness := { s.harness with devvec := [] } }.setPc t (.cleared held)

/-- One step of the calls. -/
def step (s : Locking ι) : LockLabel ι → Option (Locking ι)
  | .add hasLock loads =>
    if s.harness.nextId + 1 < 2 ^ 31 then
      some { s with harness := (s.harness.addDevice hasLock loads).1 }
    else none
  | .lock t id timed =>
    match s.calls t with
    | .ready _ =>
      match s.harness.deviceAt id with
      | none => some (s.setPc t (.ready (some .noDevice)))
      | some dev =>
        let (s, req) := s.request id dev
        some (s.setPc t (.locking req timed))
    | _ => none
  | .acquire t =>
    match s.calls t with
    | .locking req _ =>
      if s.holder req.mutex = none then some ((s.take t req.mutex).setPc t (.inside req)) else none
    | .clearing held req timed =>
      if s.holder req.mutex = none then
        some ((s.take t req.mutex).clearNext t (held ++ [req]) timed)
      else none
    -- `RemoveDevice` erases what is at the place by now; to erase at the end is undefined
    | .removing id mutex =>
      if s.holder mutex = none ∧ s.harness.deviceAt id ≠ none then
        some ({ s with harness := s.harness.eraseDevice id }.finish t .done)
      else none
    | _ => none
  | .timeout t =>
    match s.calls t with
    | .locking _ true | .clearing _ _ true => some (s.finish t .contention)
    | _ => none
  | .release t =>
    match s.calls t with
    | .inside _ | .cleared _ => some (s.finish t .done)
    | _ => none
  | .remove t id =>
    match s.calls t with
    | .ready _ =>
      match s.harness.deviceAt id with
      | none => none
      | some dev =>
        -- without a lock of its own the device is removed at once
        if !dev.hasLockImplementation then
          some ({ s with harness := s.harness.eraseDevice id }.finish t .done)
        else
          match s.harness.devmutexes.lookup id with
          | some m => some (s.setPc t (.removing id (.ofHarness m)))
          | none => some (s.finish t .noMutex)
    | _ => none
  | .clear t timed =>
    match s.calls t with
    | .ready _ => some (s.clearNext t [] timed)
    | _ => none

/-- What a step does. -/
inductive Stepped (s : Locking ι) : LockLabel ι → Locking ι → Prop
  | add (hasLock loads : Bool) :
    Stepped s (.add hasLock loads) { s with harness := (s.harness.addDevice hasLock loads).1 }
  | noDevice {t last} (id : Int) (timed : Bool) (hpc : s.calls t = .ready last) :
    Stepped s (.lock t id timed) (s.setPc t (.ready (some .noDevice)))
  | lock {t last id dev} (timed : Bool) (hpc : s.calls t = .ready last)
    (hat : s.harness.deviceAt id = some dev) :
    Stepped s (.lock t id timed)
      ((s.request id dev).1.setPc t (.locking (s.request id dev).2 timed))
  | acquire {t req timed} (hpc : s.calls t = .locking req timed)
    (hfree : s.holder req.mutex = none) :
    Stepped s (.acquire t) ((s.take t req.mutex).setPc t (.inside req))
  | acquireNext {t held req timed} (hpc : s.calls t = .clearing held req timed)
    (hfree : s.holder req.mutex = none) :
    Stepped s (.acquire t) ((s.take t req.mutex).clearNext t (held ++ [req]) timed)
  | removeLocked {t id mutex dev} (hpc : s.calls t = .removing id mutex)
    (hat : s.harness.deviceAt id = some dev) :
    Stepped s (.acquire t) ({ s with harness := s.harness.eraseDevice id }.finish t .done)
  | timeout {t pc} (hpc : s.calls t = pc) : Stepped s (.timeout t) (s.finish t .contention)
  | release {t pc} (hpc : s.calls t = pc) (hheld : ∀ req timed, pc ≠ .locking req timed) :
    Stepped s (.release t) (s.finish t .done)
  | remove {t last id dev} (hpc : s.calls t = .ready last)
    (hat : s.harness.deviceAt id = some dev) (hlock : dev.hasLockImplementation = false) :
    Stepped s (.remove t id) ({ s with harness := s.harness.eraseDevice id }.finish t .done)
  | removing {t last id dev m} (hpc : s.calls t = .ready last)
    (hat : s.harness.deviceAt id = some dev) (hlock : dev.hasLockImplementation = true)
    (hm : s.harness.devmutexes.lookup id = some m) :
    Stepped s (.remove t id) (s.setPc t (.removing id (.ofHarness m)))
  | noMutex {t last id dev} (hpc : s.calls t = .ready last)
    (hat : s.harness.deviceAt id = some dev) (hlock : dev.hasLockImplementation = true)
    (hm : s.harness.devmutexes.lookup id = none) :
    Stepped s (.remove t id) (s.finish t .noMutex)
  | clear {t last} (timed : Bool) (hpc : s.calls t = .ready last) :
    Stepped s (.clear t timed) (s.clearNext t [] timed)

/-- What a step can do. -/
theorem stepped_of_step {s s' : Locking ι} {l : LockLabel ι} (h : s.step l = some s') :
    s.Stepped l s' := by
  cases l with
  | add hasLock loads =>
    simp only [step, Option.ite_none_right_eq_some, Option.some.injEq] at h
    obtain ⟨-, rfl⟩ := h
    exact .add hasLock loads
  | lock t id timed =>
    simp only [step] at h
    split at h
    · next hpc =>
      split at h
      · obtain rfl := Option.some.inj h
        exact .noDevice id timed hpc
      · next hat =>
        obtain rfl := Option.some.inj h
        exact .lock timed hpc hat
    · cases h
  | acquire t =>
    simp only [step] at h
    split at h
    -- who waits here: for one device, for the next of all, or to remove a device
    · next hpc =>
      obtain ⟨hfree, h⟩ := Option.ite_none_right_eq_some.mp h
      obtain rfl := Option.some.inj h
      exact .acquire hpc hfree
    · next hpc =>
      obtain ⟨hfree, h⟩ := Option.ite_none_right_eq_some.mp h
      obtain rfl := Option.some.inj h
      exact .acquireNext hpc hfree
    · next hpc =>
      obtain ⟨⟨-, hat⟩, h⟩ := Option.ite_none_right_eq_some.mp h
      obtain ⟨dev, hat⟩ := Option.ne_none_iff_exists'.mp hat
      obtain rfl := Option.some.inj h
      exact .removeLocked hpc hat
    · cases h
  | timeout t =>
    simp only [step] at h
    split at h
    · obtain rfl := Option.some.inj h
      exact .timeout rfl
    · obtain rfl := Option.some.inj h
      exact .timeout rfl
    · cases h
  | release t =>
    simp only [step] at h
    split at h
    · next hpc =>
      obtain rfl := Option.some.inj h
      exact .release hpc (by simp)
    · next hpc =>
      obtain rfl := Option.some.inj h
      exact .release hpc (by simp)
    · cases h
  | remove t id =>
    simp only [step] at h
    split at h
    · next hpc =>
      split at h
      · cases h
      · next dev hat =>
        split at h
        · next hlock =>
          obtain rfl := Option.some.inj h
          exact .remove hpc hat (by simpa using hlock)
        · next hlock =>
          -- the device is removed under a mutex of the harness, if there is one
          have hlock : dev.hasLockImplementation = true := by simpa using hlock
          split at h
          · next hm =>
            obtain rfl := Option.some.inj h
            exact .removing hpc hat hlock hm
          · next hm =>
            obtain rfl := Option.some.inj h
            exact .noMutex hpc hat hlock hm
    · cases h
  | clear t timed =>
    simp only [step] at h
    split at h
    · next hpc =>
      obtain rfl := Option.some.inj h
      exact .clear timed hpc
    · cases h

/-- The next device is locked, or all have been and are cleared. -/
theorem clearNext_cases (s : Locking ι) (t : ι) (held : List LockRequest) (timed : Bool) :
    (∃ dev, s.harness.devvec[held.length]? = some dev ∧
      s.clearNext t held timed = (s.request held.length dev).1.setPc t
        (.clearing held (s.request held.length dev).2 timed)) ∨
    (s.harness.devvec.length ≤ held.length ∧ s.clearNext t held timed =
      { s with harness := { s.harness with devvec := [] } }.setPc t (.cleared held)) := by
  rw [clearNext]
  split
  · next dev hdev => exact .inl ⟨dev, hdev, rfl⟩
  · next hdev => exact .inr ⟨List.getElem?_eq_none_iff.mp hdev, rfl⟩

end Locking

/-- A new harness, with no call going on. -/
def lockSystem (ι : Type) [DecidableEq ι] : TransitionSystem (Locking ι) (LockLabel ι) where
  init := ⟨.new, fun _ => .ready none, fun _ => none⟩
  step := Locking.step

section Safety

variable {ι : Type} [DecidableEq ι]

/-- What the locks are for, in one state. -/
structure Locking.Guarded (s : Locking ι) : Prop where
  /-- No two threads use a device at once. -/
  exclusive : ∀ t t' req req', s.calls t = .inside req → s.calls t' = .inside req' →
    req.dev = req'.dev → t = t'
  /-- No call fails for want of a mutex. -/
  registered : ∀ t, s.calls t ≠ .ready (some .noMutex)
  /-- A mutex that a call has or waits for exists. -/
  live : ∀ t, ∀ m ∈ (s.calls t).mutexes, s.harness.IsLive m
  /-- A call with a timeout can give up at any time; it gets the lock or reports contention. -/
  timed : ∀ t req, s.calls t = .locking req true → (s.step (.timeout t)).isSome ∧
    ∀ l s', s.step l = some s' → s'.calls t = .locking req true ∨ s'.calls t = .inside req ∨
      s'.calls t = .ready (some .contention)

/-- A step destroys no device that a thread is using, and no mutex that is locked. -/
structure Locking.Spares (s s' : Locking ι) : Prop where
  devices : ∀ dev ∈ s.harness.devvec, dev ∉ s'.harness.devvec →
    ∀ t req, s.calls t = .inside req → req.dev ≠ dev
  mutexes : ∀ m, s.harness.IsLive m → ¬ s'.harness.IsLive m → s.holder m = none

/-- No other call has or waits for a mutex at a position or behind it. -/
def Locking.Vacant (s : Locking ι) (t : ι) (id : Int) : Prop :=
  ∀ t', t' ≠ t → ∀ pos ∈ (s.calls t').positions, pos < id

/-- When the device at a position is removed, the position and those behind it are vacant; a
device with a lock of its own is removed only where a mutex is registered; and `ClearDevices`
takes its last lock only while no device has a lock of its own. -/
def Careful (s : Locking ι) : LockLabel ι → Prop
  | .remove t id => ∀ dev ∈ s.harness.deviceAt id,
      if dev.hasLockImplementation then id ∈ s.harness.devmutexes else s.Vacant t id
  | .acquire t => (∀ id ∈ (s.calls t).removes, s.Vacant t id) ∧
      ∀ n ∈ (s.calls t).locksSoFar, s.harness.devvec.length ≤ n + 1 →
        ∀ dev ∈ s.harness.devvec, dev.hasLockImplementation = false
  | .add _ _ | .lock _ _ _ | .timeout _ | .release _ | .clear _ _ => True

instance Locking.Vacant.decidable [Fintype ι] (s : Locking ι) (t : ι) (id : Int) :
    Decidable (s.Vacant t id) :=
  inferInstanceAs (Decidable (∀ t', t' ≠ t → ∀ pos ∈ (s.calls t').positions, pos < id))

instance Careful.decidable [Fintype ι] (s : Locking ι) : ∀ l, Decidable (Careful s l)
  | .remove t id => inferInstanceAs (Decidable (∀ dev ∈ s.harness.deviceAt id,
      if dev.hasLockImplementation then id ∈ s.harness.devmutexes else s.Vacant t id))
  | .acquire t => inferInstanceAs (Decidable ((∀ id ∈ (s.calls t).removes, s.Vacant t id) ∧
      ∀ n ∈ (s.calls t).locksSoFar, s.harness.devvec.length ≤ n + 1 →
        ∀ dev ∈ s.harness.devvec, dev.hasLockImplementation = false))
  | .add _ _ | .lock _ _ _ | .timeout _ | .release _ | .clear _ _ =>
    inferInstanceAs (Decidable True)

end Safety

end Foxtrot
