import Foxtrot.Foundation.FiniteMap
import Foxtrot.Foundation.TransitionSystem
import Foxtrot.Server.Handler

/-!
# The image store of the Aravis cameras

An `AravisCameraFactory` (`devices/aravis_camera/aravis_camera.cpp`) keeps the images that its
cameras have taken until they are dropped, at most `max_image_store` of them. A deposited image
gets the handle after the greatest one **in the store**, so the handles depend on what has been
dropped: where the image deposited last is not there any more, the next one gets a handle that a
client has already been given.

Handles denote their images for ever exactly if each image that is stored is deposited while the
one deposited before it is still in the store, and the handles do not wrap around
(`handles_lasting_iff`).

The handle of the next image is the greatest one in the store plus one, so it is new exactly as long
as the image deposited last is still there (`nextHandle_fresh_iff`). While all handles have been new
the store and the record of the calls agree (`Kept`): the images that are stored are those deposited
and not dropped, under the handles that were returned for them.
-/

namespace Foxtrot

namespace Aravis

/-- `_stored_images`. The handles are values of `std::size_t`. -/
abbrev StoredImages := AList fun _ : ℕ => List UInt8

/-- The handle that `deposit_image` gives to an image. -/
def nextHandle (images : StoredImages) : ℕ :=
  match images.keys.max? with
  | none => 0
  | some last => (last + 1) % 2 ^ 64

/-- `deposit_image`. `emplace` keeps an entry that is there. -/
def depositImage (maxImageStore : ℕ) (data : List UInt8) (images : StoredImages) :
    Except Thrown ℕ × StoredImages :=
  if images.keys.length = maxImageStore then
    (.error (.exception "image store is full! Drop some images first!"), images)
  else
    (.ok (nextHandle images), images.insertNew (nextHandle images) data)

/-- `retrieve_image_data`. -/
def retrieveImageData (imhandle : ℕ) (images : StoredImages) : Except Thrown (List UInt8) :=
  match images.lookup imhandle with
  | some dat => .ok dat
  | none => .error (.outOfRange "map::at")

/-- `drop_image_data`. -/
def dropImageData (imhandle : ℕ) (images : StoredImages) : Except Thrown Unit × StoredImages :=
  if imhandle ∈ images then
    (.ok (), images.erase imhandle)
  else
    (.error (.outOfRange "can't find image handle in data store"), images)

/-! ### Runs of calls -/

/-- A call on the image store. -/
inductive Call where
  | depositImage (data : List UInt8)
  | retrieveImageData (imhandle : ℕ)
  | dropImageData (imhandle : ℕ)
  | clearImageData

/-- What a call returns. -/
inductive Value where
  | handle (imhandle : ℕ)
  | image (data : List UInt8)
  | done

/-- What a call comes to, and what is stored after it. -/
def Call.run (maxImageStore : ℕ) (images : StoredImages) :
    Call → Except Thrown Value × StoredImages
  | depositImage data => (Aravis.depositImage maxImageStore data images).map (·.map .handle) id
  | retrieveImageData imhandle => ((Aravis.retrieveImageData imhandle images).map .image, images)
  | dropImageData imhandle => (Aravis.dropImageData imhandle images).map (·.map fun _ => .done) id
  | clearImageData => (.ok .done, ∅)

/-- A call that has ended. -/
structure Outcome where
  call : Call
  result : Except Thrown Value
  before : StoredImages
  after : StoredImages

/-- The outcome of a call. -/
def Call.outcome (maxImageStore : ℕ) (images : StoredImages) (call : Call) : Outcome :=
  let ended := call.run maxImageStore images
  ⟨call, ended.1, images, ended.2⟩

/-- The store, and the calls on it so far, the latest first. -/
structure StoreState where
  images : StoredImages
  outcomes : List Outcome

/-- The state after one more call. -/
def StoreState.after (maxImageStore : ℕ) (s : StoreState) (call : Call) : StoreState :=
  let outcome := call.outcome maxImageStore s.images
  ⟨outcome.after, outcome :: s.outcomes⟩

/-- The calls of all clients, in any order. -/
def imageStore (maxImageStore : ℕ) : TransitionSystem StoreState Call where
  init := ⟨∅, []⟩
  step s call := some (s.after maxImageStore call)

/-- The handle that a call has returned. -/
def Outcome.handle? (o : Outcome) : Option ℕ :=
  match o.result with
  | .ok (.handle imhandle) => some imhandle
  | _ => none

/-- The handles that the calls have returned, the latest first. -/
def issued (outcomes : List Outcome) : List ℕ := outcomes.filterMap Outcome.handle?

/-- The image that a handle denotes after the calls: the one deposited by the call that returned
it, until it is dropped or cleared. -/
def denoted : List Outcome → ℕ → Option (List UInt8)
  | [] => fun _ => none
  | o :: earlier =>
    match o.call, o.result with
    | .depositImage data, .ok (.handle imhandle) =>
      Function.update (denoted earlier) imhandle (some data)
    | .dropImageData imhandle, _ => Function.update (denoted earlier) imhandle none
    | .clearImageData, _ => fun _ => none
    | _, _ => denoted earlier

/-- The call has failed and has changed nothing. -/
def Outcome.Refused (o : Outcome) : Prop := (∃ e, o.result = .error e) ∧ o.after = o.before

/-- A call has treated handles as names of images, after the calls before it. -/
structure Outcome.Lasting (maxImageStore : ℕ) (earlier : List Outcome) (o : Outcome) : Prop where
  image : ∀ imhandle data, o.call = .retrieveImageData imhandle →
    denoted earlier imhandle = some data → o.result = .ok (.image data)
  fresh : ∀ imhandle ∈ o.handle?, imhandle ∉ issued earlier
  unknown : ∀ imhandle, o.call = .retrieveImageData imhandle ∨ o.call = .dropImageData imhandle →
    denoted earlier imhandle = none → o.Refused
  bounded : o.after.keys.length ≤ maxImageStore
  full : ∀ data, o.call = .depositImage data → o.before.keys.length = maxImageStore → o.Refused

/-- **Handles denote their images for ever**: every call has treated them so. -/
def Lasting (maxImageStore : ℕ) : List Outcome → Prop
  | [] => True
  | o :: earlier => Lasting maxImageStore earlier ∧ o.Lasting maxImageStore earlier

/-- If the call stores an image, then the image deposited last is still in the store, and its handle
is not the greatest one. -/
def NewestStored (maxImageStore : ℕ) (s : StoreState) (call : Call) : Prop :=
  ∀ data, call = .depositImage data → s.images.keys.length ≠ maxImageStore →
    ∀ newest ∈ (issued s.outcomes).head?, newest ∈ s.images ∧ newest + 1 < 2 ^ 64

/-! ### The next handle -/

section NextHandle

variable {images : StoredImages}

private theorem nextHandle_of_greatest {last : ℕ} (hmem : last ∈ images)
    (hle : ∀ h ∈ images, h ≤ last) :
    nextHandle images = (last + 1) % 2 ^ 64 := by
  have hmax : images.keys.max? = some last := List.max?_eq_some_iff.mpr ⟨hmem, hle⟩
  rw [nextHandle, hmax]

/-- The next handle is the first one, or comes after one that is in the store. -/
theorem nextHandle_cases (images : StoredImages) :
    nextHandle images = 0 ∨ ∃ last ∈ images, nextHandle images = (last + 1) % 2 ^ 64 := by
  rw [nextHandle]
  cases hmax : images.keys.max? with
  | none => exact .inl rfl
  | some last => exact .inr ⟨last, (List.max?_eq_some_iff.mp hmax).1, rfl⟩

end NextHandle

/-! ### What holds while the handles last -/

/-- What holds of the store after calls that have treated handles as names of images. -/
structure Kept (maxImageStore : ℕ) (s : StoreState) : Prop where
  lookup : ∀ h, s.images.lookup h = denoted s.outcomes h
  stored : ∀ h ∈ s.images, h ∈ issued s.outcomes
  /-- The handles have been given out in order. -/
  ordered : ∀ h, h ∈ issued s.outcomes ↔ h < (issued s.outcomes).length
  newest : ∀ h ∈ (issued s.outcomes).head?, h + 1 = (issued s.outcomes).length
  size_t : (issued s.outcomes).length ≤ 2 ^ 64
  bounded : s.images.keys.length ≤ maxImageStore

variable {maxImageStore : ℕ} {s : StoreState}

private theorem kept_init : Kept maxImageStore (imageStore maxImageStore).init where
  lookup _ := AList.lookup_empty _
  stored _ h := absurd h (AList.notMem_empty _)
  ordered _ := iff_of_false List.not_mem_nil (Nat.not_lt_zero _)
  newest _ h := nomatch h
  size_t := Nat.zero_le _
  bounded := Nat.zero_le _

namespace Kept

/-- While the image deposited last is in the store, the next handle is a new one. -/
theorem nextHandle_eq (hk : Kept maxImageStore s)
    (h : ∀ newest ∈ (issued s.outcomes).head?, newest ∈ s.images ∧ newest + 1 < 2 ^ 64) :
    nextHandle s.images = (issued s.outcomes).length := by
  cases hissued : issued s.outcomes with
  | nil =>
    obtain heq | ⟨last, hlast, -⟩ := nextHandle_cases s.images
    · exact heq
    · exact absurd (hissued ▸ hk.stored last hlast) List.not_mem_nil
  | cons newest rest =>
    have hhead : newest ∈ (issued s.outcomes).head? := by rw [hissued]; rfl
    have hlen := hk.newest newest hhead
    obtain ⟨hmem, hlt⟩ := h newest hhead
    have hle : ∀ h ∈ s.images, h ≤ newest := fun h hh => by
      have hbelow := (hk.ordered h).mp (hk.stored h hh)
      omega
    rw [nextHandle_of_greatest hmem hle, Nat.mod_eq_of_lt hlt, hlen, hissued]

/-- The next handle is a new one exactly while the image deposited last is in the store. -/
theorem nextHandle_fresh_iff (hk : Kept maxImageStore s) :
    nextHandle s.images ∉ issued s.outcomes ↔
      ∀ newest ∈ (issued s.outcomes).head?, newest ∈ s.images ∧ newest + 1 < 2 ^ 64 := by
  constructor
  · intro hfresh newest hhead
    have hlen := hk.newest newest hhead
    have hsize := hk.size_t
    rw [hk.ordered] at hfresh
    obtain heq | ⟨last, hlast, heq⟩ := nextHandle_cases s.images
    · omega
    · have hbelow := (hk.ordered last).mp (hk.stored last hlast)
      -- only the handle before the first new one is followed by a new one
      obtain rfl : last = newest := by omega
      exact ⟨hlast, by omega⟩
  · intro h hmem
    rw [hk.nextHandle_eq h, hk.ordered] at hmem
    exact lt_irrefl _ hmem

end Kept

/-! ### One call -/

/-- A call that gives out no handle keeps what holds, if the store agrees with the calls still. -/
theorem Kept.after_of_unissued (hk : Kept maxImageStore s) {call : Call}
    (hissue : (call.outcome maxImageStore s.images).handle? = none)
    (hlookup : ∀ h, (s.after maxImageStore call).images.lookup h =
      denoted (s.after maxImageStore call).outcomes h)
    (hstored : ∀ h ∈ (s.after maxImageStore call).images, h ∈ s.images)
    (hsize : (s.after maxImageStore call).images.keys.length ≤ s.images.keys.length) :
    Kept maxImageStore (s.after maxImageStore call) := by
  have hissued : issued (s.after maxImageStore call).outcomes = issued s.outcomes :=
    List.filterMap_cons_none hissue
  refine ⟨hlookup, fun h hh => ?_, ?_, ?_, ?_, hsize.trans hk.bounded⟩
  · rw [hissued]; exact hk.stored h (hstored h hh)
  · rw [hissued]; exact hk.ordered
  · rw [hissued]; exact hk.newest
  · rw [hissued]; exact hk.size_t

/-- An image that is retrieved is what was stored, and stays. -/
private theorem lasting_retrieve (hk : Kept maxImageStore s) (imhandle : ℕ) :
    ((Call.retrieveImageData imhandle).outcome maxImageStore s.images).Lasting maxImageStore
        s.outcomes ∧
      Kept maxImageStore (s.after maxImageStore (.retrieveImageData imhandle)) := by
  have hrun : (Call.retrieveImageData imhandle).run maxImageStore s.images =
      ((retrieveImageData imhandle s.images).map .image, s.images) := rfl
  have hissue : ((Call.retrieveImageData imhandle).outcome maxImageStore s.images).handle? =
      none := by
    rw [Call.outcome, hrun, retrieveImageData]
    cases s.images.lookup imhandle <;> rfl
  refine ⟨⟨?_, ?_, ?_, hk.bounded, fun data hdata => nomatch hdata⟩,
    hk.after_of_unissued hissue (fun h => hk.lookup h) (fun h hh => hh) le_rfl⟩
  · rintro h data ⟨⟩ hdenoted
    rw [Call.outcome, hrun, retrieveImageData, hk.lookup, hdenoted]
    rfl
  · intro h hh
    rw [hissue] at hh
    cases hh
  · rintro h (⟨⟨⟩⟩ | ⟨⟨⟩⟩) hdenoted
    refine ⟨⟨.outOfRange "map::at", ?_⟩, rfl⟩
    rw [Call.outcome, hrun, retrieveImageData, hk.lookup, hdenoted]
    rfl

/-- A call that is refused leaves everything as it was. -/
theorem lasting_of_refused (hk : Kept maxImageStore s) {call : Call} {e : Thrown}
    (hout : call.outcome maxImageStore s.images = ⟨call, .error e, s.images, s.images⟩)
    (hcall : ∀ imhandle, call ≠ .retrieveImageData imhandle)
    (hdenoted : denoted (⟨call, .error e, s.images, s.images⟩ :: s.outcomes) = denoted s.outcomes) :
    (call.outcome maxImageStore s.images).Lasting maxImageStore s.outcomes ∧
      Kept maxImageStore (s.after maxImageStore call) := by
  have hafter : s.after maxImageStore call =
      ⟨s.images, ⟨call, .error e, s.images, s.images⟩ :: s.outcomes⟩ := by
    rw [StoreState.after, hout]
  constructor
  · rw [hout]
    exact ⟨fun h _ heq => absurd heq (hcall h), fun h hh => (nomatch hh),
      fun _ _ _ => ⟨⟨_, rfl⟩, rfl⟩, hk.bounded, fun _ _ _ => ⟨⟨_, rfl⟩, rfl⟩⟩
  · refine hk.after_of_unissued (by rw [hout]; rfl) (fun h => ?_) (fun h hh => ?_) (by rw [hafter])
    · rw [hafter, hdenoted]
      exact hk.lookup h
    · rwa [hafter] at hh

/-- An image that is dropped has been stored, and is there no more. -/
private theorem lasting_drop (hk : Kept maxImageStore s) (imhandle : ℕ) :
    ((Call.dropImageData imhandle).outcome maxImageStore s.images).Lasting maxImageStore
        s.outcomes ∧
      Kept maxImageStore (s.after maxImageStore (.dropImageData imhandle)) := by
  by_cases hmem : imhandle ∈ s.images
  · have hout : (Call.dropImageData imhandle).outcome maxImageStore s.images =
        ⟨.dropImageData imhandle, .ok .done, s.images, s.images.erase imhandle⟩ := by
      rw [Call.outcome, Call.run, dropImageData, if_pos hmem]
      rfl
    have hafter : s.after maxImageStore (.dropImageData imhandle) =
        ⟨s.images.erase imhandle,
          ⟨.dropImageData imhandle, .ok .done, s.images, s.images.erase imhandle⟩ ::
            s.outcomes⟩ := by
      rw [StoreState.after, hout]
    have hsize : (s.images.erase imhandle).keys.length ≤ s.images.keys.length := by
      rw [AList.keys_erase]
      exact List.length_erase_le
    constructor
    · rw [hout]
      refine ⟨fun h data heq => (nomatch heq), fun h hh => (nomatch hh), ?_,
        hsize.trans hk.bounded, fun data hdata => nomatch hdata⟩
      rintro h (⟨⟨⟩⟩ | ⟨⟨⟩⟩) hdenoted
      -- a handle that is stored denotes something
      obtain ⟨data, hdata⟩ := AList.mem_iff_exists_lookup.mp hmem
      rw [hk.lookup, hdenoted] at hdata
      cases hdata
    · refine hk.after_of_unissued (by rw [hout]; rfl) ?_ ?_ (by rw [hafter]; exact hsize)
      · intro h
        rw [hafter]
        change (s.images.erase imhandle).lookup h =
          Function.update (denoted s.outcomes) imhandle none h
        rw [AList.lookup_erase_ite, Function.update_apply, hk.lookup]
      · intro h hh
        rw [hafter] at hh
        exact (AList.mem_erase.mp hh).2
  · have hnone : s.images.lookup imhandle = none := AList.lookup_eq_none.mpr hmem
    refine lasting_of_refused hk (e := .outOfRange "can't find image handle in data store") ?_
      nofun (Function.update_eq_self_iff.mpr (hnone.symm.trans (hk.lookup imhandle)))
    rw [Call.outcome, Call.run, dropImageData, if_neg hmem]
    rfl

private theorem lasting_clear (hk : Kept maxImageStore s) :
    (Call.clearImageData.outcome maxImageStore s.images).Lasting maxImageStore s.outcomes ∧
      Kept maxImageStore (s.after maxImageStore .clearImageData) := by
  refine ⟨⟨?_, fun h hh => (nomatch hh), ?_, Nat.zero_le _, fun data hdata => (nomatch hdata)⟩,
    hk.after_of_unissued rfl (fun h => AList.lookup_empty h) ?_ (Nat.zero_le _)⟩
  · exact fun h data heq => nomatch heq
  · rintro h (⟨⟨⟩⟩ | ⟨⟨⟩⟩)
  · exact fun h hh => absurd hh (AList.notMem_empty h)

/-- A deposit into a full store is refused. -/
theorem lasting_deposit_of_full (hk : Kept maxImageStore s) (data : List UInt8)
    (hfull : s.images.keys.length = maxImageStore) :
    ((Call.depositImage data).outcome maxImageStore s.images).Lasting maxImageStore s.outcomes ∧
      Kept maxImageStore (s.after maxImageStore (.depositImage data)) := by
  refine lasting_of_refused hk
    (e := .exception "image store is full! Drop some images first!") ?_ nofun rfl
  rw [Call.outcome, Call.run, depositImage, if_pos hfull]
  rfl

section Deposit

variable (data : List UInt8) (hroom : s.images.keys.length ≠ maxImageStore)

include hroom

/-- Where there is room, the image gets the next handle. -/
private theorem outcome_deposit_of_room : (Call.depositImage data).outcome maxImageStore s.images =
    ⟨.depositImage data, .ok (.handle (nextHandle s.images)), s.images,
      s.images.insertNew (nextHandle s.images) data⟩ := by
  rw [Call.outcome, Call.run, depositImage, if_neg hroom]
  rfl

/-- A deposit that is stored treats handles as names of images exactly if its handle is new. -/
theorem lasting_deposit_iff (hk : Kept maxImageStore s) :
    ((Call.depositImage data).outcome maxImageStore s.images).Lasting maxImageStore s.outcomes ↔
      nextHandle s.images ∉ issued s.outcomes := by
  rw [outcome_deposit_of_room data hroom]
  constructor
  · exact fun h => h.fresh _ rfl
  · intro hfresh
    refine ⟨fun h data' heq => (nomatch heq), ?_, ?_, ?_, fun _ _ hfull => absurd hfull hroom⟩
    · rintro h ⟨⟩
      exact hfresh
    · rintro h (⟨⟨⟩⟩ | ⟨⟨⟩⟩)
    · have hnew : nextHandle s.images ∉ s.images := fun hmem => hfresh (hk.stored _ hmem)
      have hbound := hk.bounded
      change (s.images.insertNew (nextHandle s.images) data).keys.length ≤ maxImageStore
      rw [AList.insertNew_of_not_mem hnew, AList.length_keys_insert_of_not_mem hnew]
      omega

/-- After a deposit with a new handle, what holds still holds. -/
theorem Kept.after_deposit (hk : Kept maxImageStore s)
    (hnewest : ∀ newest ∈ (issued s.outcomes).head?, newest ∈ s.images ∧ newest + 1 < 2 ^ 64) :
    Kept maxImageStore (s.after maxImageStore (.depositImage data)) := by
  have hlen := hk.nextHandle_eq hnewest
  have hfresh := hk.nextHandle_fresh_iff.mpr hnewest
  have hnew : nextHandle s.images ∉ s.images := fun hmem => hfresh (hk.stored _ hmem)
  have hafter : s.after maxImageStore (.depositImage data) =
      ⟨s.images.insert (nextHandle s.images) data,
        ⟨.depositImage data, .ok (.handle (nextHandle s.images)), s.images,
          s.images.insert (nextHandle s.images) data⟩ :: s.outcomes⟩ := by
    rw [StoreState.after, outcome_deposit_of_room data hroom, AList.insertNew_of_not_mem hnew]
  have hissued : issued (s.after maxImageStore (.depositImage data)).outcomes =
      nextHandle s.images :: issued s.outcomes := by
    rw [hafter]
    rfl
  refine ⟨fun h => ?_, fun h hh => ?_, fun h => ?_, fun h hh => ?_, ?_, ?_⟩
  · rw [hafter]
    change (s.images.insert (nextHandle s.images) data).lookup h =
      Function.update (denoted s.outcomes) (nextHandle s.images) (some data) h
    rw [AList.lookup_insert_ite, Function.update_apply, hk.lookup]
  · rw [hissued, List.mem_cons]
    rw [hafter] at hh
    exact (AList.mem_insert s.images |>.mp hh).imp id (hk.stored h)
  · rw [hissued, List.mem_cons, hk.ordered, hlen, List.length_cons]
    omega
  · rw [hissued] at hh ⊢
    obtain rfl := Option.some.inj hh
    rw [hlen, List.length_cons]
  · rw [hissued, List.length_cons]
    cases hcons : issued s.outcomes with
    | nil => exact Nat.le_of_lt (by decide)
    | cons newest rest =>
      -- handles are given in order, so the newest says how many there have been
      have hhead : newest ∈ (issued s.outcomes).head? := by rw [hcons]; rfl
      have hlast := hk.newest newest hhead
      have hlt := (hnewest newest hhead).2
      rw [hcons] at hlast
      omega
  · rw [hafter]
    have hbound := hk.bounded
    rw [AList.length_keys_insert_of_not_mem hnew]
    omega

end Deposit

/-- A call treats handles as names of images exactly if, where it stores an image, the image
deposited last is in the store. -/
theorem lasting_iff_newestStored (hk : Kept maxImageStore s) (call : Call) :
    (call.outcome maxImageStore s.images).Lasting maxImageStore s.outcomes ↔
      NewestStored maxImageStore s call := by
  cases call with
  | depositImage data =>
    by_cases hfull : s.images.keys.length = maxImageStore
    · exact iff_of_true (lasting_deposit_of_full hk data hfull).1
        fun _ _ hroom => absurd hfull hroom
    · rw [lasting_deposit_iff data hfull hk, hk.nextHandle_fresh_iff]
      refine ⟨fun h _ _ _ => h, fun h => h data rfl hfull⟩
  | retrieveImageData imhandle =>
    exact iff_of_true (lasting_retrieve hk imhandle).1 fun _ heq => nomatch heq
  | dropImageData imhandle =>
    exact iff_of_true (lasting_drop hk imhandle).1 fun _ heq => nomatch heq
  | clearImageData => exact iff_of_true (lasting_clear hk).1 fun _ heq => nomatch heq

/-- A call keeps the store in accord with its history, if an image is stored under the newest
handle. -/
theorem Kept.after (hk : Kept maxImageStore s) {call : Call}
    (h : NewestStored maxImageStore s call) : Kept maxImageStore (s.after maxImageStore call) := by
  cases call with
  | depositImage data =>
    by_cases hfull : s.images.keys.length = maxImageStore
    · exact (lasting_deposit_of_full hk data hfull).2
    · exact hk.after_deposit data hfull (h data rfl hfull)
  | retrieveImageData imhandle => exact (lasting_retrieve hk imhandle).2
  | dropImageData imhandle => exact (lasting_drop hk imhandle).2
  | clearImageData => exact (lasting_clear hk).2

private theorem step_imageStore {s' : StoreState} {call : Call} :
    (imageStore maxImageStore).step s call = some s' ↔ s' = s.after maxImageStore call :=
  Option.some_inj.trans eq_comm

/-- A store whose handles last is in accord with its history. -/
private theorem kept_of_lasting (hs : (imageStore maxImageStore).Reachable s)
    (h : Lasting maxImageStore s.outcomes) : Kept maxImageStore s := by
  refine hs.invariant (P := fun s => Lasting maxImageStore s.outcomes → Kept maxImageStore s)
    (fun _ => kept_init) ?_ h
  rintro s call s' - ih - hstep
  obtain rfl := step_imageStore.mp hstep
  rintro ⟨hbefore, hlast⟩
  have hk := ih hbefore
  exact hk.after ((lasting_iff_newestStored hk call).mp hlast)

/-- **Handles denote their images for ever** exactly if each image that is stored is deposited while
the image deposited before it is still in the store, and its handle is not the greatest one. -/
theorem handles_lasting_iff {calls : List Call}
    (hrun : (imageStore maxImageStore).run (imageStore maxImageStore).init calls = some s) :
    Lasting maxImageStore s.outcomes ↔ (imageStore maxImageStore).Guarded
      (NewestStored maxImageStore) (imageStore maxImageStore).init calls := by
  refine TransitionSystem.run_iff_guarded (P := fun s => Lasting maxImageStore s.outcomes)
    (show Lasting maxImageStore [] from trivial) (fun s call s' hs hstep => ?_) hrun
  obtain rfl := step_imageStore.mp hstep
  exact and_congr_right fun h => lasting_iff_newestStored (kept_of_lasting hs h) call

/-- The handle of an image that is dropped after the next one has been deposited is not reused. -/
theorem handles_lasting_iff_dropped_later : Lasting 50
    (((imageStore 50).run (imageStore 50).init [.depositImage [1], .depositImage [2],
      .dropImageData 0, .depositImage [3]]).get rfl).outcomes := by
  refine (handles_lasting_iff (Option.some_get rfl).symm).mpr ⟨?_, ?_⟩
  · exact fun _ _ _ _ hhead => nomatch hhead
  · rintro _ ⟨⟩
    refine ⟨by rintro _ - - _ ⟨⟩; decide, ?_⟩
    rintro _ ⟨⟩
    refine ⟨fun _ heq => (nomatch heq), ?_⟩
    rintro _ ⟨⟩
    exact ⟨by rintro _ - - _ ⟨⟩; decide, fun _ _ => trivial⟩

/-- The newest image is dropped, and the next one gets its handle: a client that asks for the
first image by its handle gets the second one. -/
theorem handle_reused : ∃ s, (imageStore 50).run (imageStore 50).init
    [.depositImage [1], .dropImageData 0, .depositImage [2], .retrieveImageData 0] = some s ∧
      issued s.outcomes = [0, 0] ∧
      s.outcomes.head?.map Outcome.result = some (.ok (.image [2])) ∧
      ¬ Lasting 50 s.outcomes := by
  refine ⟨_, rfl, rfl, rfl, ?_⟩
  rintro ⟨⟨-, hdeposit⟩, -⟩
  exact hdeposit.fresh 0 rfl (List.mem_singleton.mpr rfl)

end Aravis

end Foxtrot
