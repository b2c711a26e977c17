import Mathlib.Data.List.AList
import Mathlib.Data.List.ReduceOption
import Foxtrot.Server.Harness
import Foxtrot.Python.RoundTrip

/-!
# The arguments of a call in the Python client

`python/pyfoxtrot/Client.py`: `_construct_args` places the arguments of a call in a list, first
those that are passed by keyword, each under the index of its name, then those that are passed by
position, and `construct_request` makes the request of them.

A call that passes its first arguments by position and the others by keyword should build the
request of the call that passes all of them by position, in which the arguments stand in order
(`InPlace`), and a call with a missing, duplicated, surplus or unknown argument should raise
(`CallsAgree`). But the branch for keywords gives the index to a field `pos`, while the field of
`capability_argument` is `position`, so the constructor raises: no call with an argument by keyword
builds a request (`constructArgs_keyword`). The calls agree exactly if there is no argument by
keyword, or the call that passes all by position raises as well (`callsAgree_iff`).

The two halves are independent. A call with a keyword never gets to a request, whatever else it
passes, since the constructor of the message is given a field that it does not have. A call by
position fills the list from its first place on (`placePositionals_start`), so its request has the
arguments in order exactly if there are as many as types and each value passes the tests of the type
at its place.
-/

namespace Foxtrot.Python

open Fallible

/-! ### Calls and requests -/

/-- `Capability`, as far as requests are made of it. The server describes every argument by a name
and a type. -/
structure Capability where
  captp : CapabilityType
  capname : String
  argnames : List String
  argtypes : List VariantDescriptor
  described : argtypes.length = argnames.length
  msgid : ℕ
  devid : BitVec 32
  chunksize : ℤ

/-- `capability_argument`. -/
structure CapabilityArgument where
  position : ℕ
  value : FtVariant

/-- `capability_request`, or `chunk_request` if there is a size of chunks. -/
structure Request where
  msgid : BitVec 32
  devid : BitVec 32
  capname : String
  args : List CapabilityArgument
  chunksize : Option (BitVec 32)

/-- Arguments by keyword, in the order of the call. -/
abbrev Kwargs := AList fun _ : String => PyValue

/-- `l[idx]`. -/
def getItem {α : Type} (l : List α) (idx : ℕ) : Except PyException α :=
  match l[idx]? with
  | some a => .ok a
  | none => .error (.indexError "list index out of range")

/-- The constructor of `capability_argument`, which is given the position as the field `field`. -/
def newCapabilityArgument (field : String) (pos : ℕ) (value : FtVariant) :
    Except PyException CapabilityArgument :=
  if field = "position" then .ok ⟨pos, value⟩
  else .error (.valueError
    ("Protocol message capability_argument has no \"" ++ field ++ "\" field."))

/-- The body of the loop over the arguments by keyword. -/
def placeKeyword (cap : Capability) (rawargs : List (Option CapabilityArgument))
    (item : (_ : String) × PyValue) : Except PyException (List (Option CapabilityArgument)) :=
  if item.1 ∈ cap.argnames then do
    let pos := cap.argnames.idxOf item.1
    let argdesc ← getItem cap.argtypes pos
    let value ← ftVariantFromValue argdesc item.2
    return rawargs.set pos (some (← newCapabilityArgument "pos" pos value))
  else .error (.valueError ("no such argument with name: " ++ item.1 ++ " in capability"))

/-- The body of the loop over the arguments by position. -/
def placePositional (cap : Capability) (rawargs : List (Option CapabilityArgument)) (idx : ℕ)
    (val : PyValue) : Except PyException (List (Option CapabilityArgument)) := do
  match ← getItem rawargs idx with
  | some _ => .error (.indexError "conflicting positional and keyword arguments")
  | none => do
    let desc ← getItem cap.argtypes idx
    let value ← ftVariantFromValue desc val
    return rawargs.set idx (some (← newCapabilityArgument "position" idx value))

/-- The loop over the arguments by position, from the index `idx`. -/
def placePositionals (cap : Capability) :
    List (Option CapabilityArgument) → ℕ → List PyValue →
      Except PyException (List (Option CapabilityArgument))
  | rawargs, _, [] => .ok rawargs
  | rawargs, idx, val :: vals => do
    placePositionals cap (← placePositional cap rawargs idx val) (idx + 1) vals

/-- `_construct_args`. -/
def constructArgs (cap : Capability) (args : List PyValue) (kwargs : Kwargs) :
    Except PyException (List CapabilityArgument) := do
  let rawargs ← kwargs.entries.foldlM (placeKeyword cap)
    (List.replicate cap.argnames.length none)
  if rawargs.length < args.length + kwargs.entries.length then
    .error (.valueError "too many arguments provided")
  else do
    let rawargs ← placePositionals cap rawargs 0 args
    if rawargs.any Option.isNone then .error (.indexError "not all arguments filled in")
    else .ok rawargs.reduceOption

/-- A call without arguments of a property that can be written: it is a read. -/
def readsProperty (cap : Capability) (args : List PyValue) (kwargs : Kwargs) : Bool :=
  cap.captp = .valueReadwrite && args.isEmpty && kwargs.entries.isEmpty

/-- The assignment to a field of 32 bits. -/
def assignUint32 (n : ℤ) : Except PyException (BitVec 32) :=
  if 0 ≤ n ∧ n < 2 ^ 32 then .ok (BitVec.ofNat 32 n.toNat) else .error (outOfRange n)

/-- The arguments of a request. -/
def capargs (cap : Capability) (args : List PyValue) (kwargs : Kwargs) :
    Except PyException (List CapabilityArgument) :=
  if readsProperty cap args kwargs then .ok [] else constructArgs cap args kwargs

/-- The request as it is constructed. -/
def newRequest (cap : Capability) (args : List PyValue) (kwargs : Kwargs) :
    Except PyException Request := do
  let args ← capargs cap args kwargs
  let msgid ← assignUint32 cap.msgid
  return { msgid := msgid, devid := cap.devid, capname := cap.capname, args := args,
           chunksize := none }

/-- The request of a stream has a size of chunks. -/
def setChunksize (cap : Capability) (req : Request) : Except PyException Request :=
  if cap.captp = .stream then do
    return { req with chunksize := some (← assignUint32 cap.chunksize) }
  else .ok req

/-- `construct_request`, with what it leaves of the object. -/
def constructRequest (cap : Capability) (args : List PyValue) (kwargs : Kwargs) :
    Except PyException Request × Capability :=
  match newRequest cap args kwargs with
  | .error e => (.error e, cap)
  | .ok req => (setChunksize cap req, { cap with msgid := cap.msgid + 1 })

/-! ### Calls that agree -/

/-- The arguments of a request, each converted to the type at its place, in order from the
position `idx`. -/
inductive InPlace : ℕ → List VariantDescriptor → List PyValue → List CapabilityArgument → Prop
  | nil {idx : ℕ} : InPlace idx [] [] []
  | cons {idx : ℕ} {ty : VariantDescriptor} {types : List VariantDescriptor} {val : PyValue}
      {vals : List PyValue} {m : FtVariant} {args : List CapabilityArgument}
      (hval : ftVariantFromValue ty val = .ok m) (hvals : InPlace (idx + 1) types vals args) :
      InPlace idx (ty :: types) (val :: vals) (⟨idx, m⟩ :: args)

/-- An argument is missing, passed twice, surplus or unknown. -/
inductive Malformed (cap : Capability) (args : List PyValue) (kwargs : Kwargs) : Prop
  | missing (i : ℕ) (hi : i < cap.argnames.length) (hargs : args.length ≤ i)
      (hkwargs : ∀ name ∈ kwargs.keys, cap.argnames.idxOf name ≠ i)
  | duplicated (name : String) (hname : name ∈ kwargs.keys)
      (hargs : cap.argnames.idxOf name < args.length)
  | surplus (hargs : cap.argnames.length < args.length)
  | unknown (name : String) (hname : name ∈ kwargs.keys) (hunknown : name ∉ cap.argnames)

/-- The call with the first `k` arguments by position and the others by keyword builds the same
request as the one with all of them by position, in which they stand in order; and a malformed call
raises. -/
structure CallsAgree (cap : Capability) (vals : List PyValue) (k : ℕ) (kwargs : Kwargs) :
    Prop where
  positional : ∀ req, (constructRequest cap vals ∅).1 = .ok req →
    InPlace 0 cap.argtypes vals req.args
  split : ∀ req, (constructRequest cap (vals.take k) kwargs).1 = .ok req ↔
    (constructRequest cap vals ∅).1 = .ok req
  malformed : ∀ args' kwargs', Malformed cap args' kwargs' →
    readsProperty cap args' kwargs' = false → ∃ e, (constructRequest cap args' kwargs').1 = .error e

/-! ### Arguments by keyword -/

section Placing

variable {cap : Capability} {vals : List PyValue} {kwargs : Kwargs}

private theorem placeKeyword_ne_ok {rawargs rawargs' : List (Option CapabilityArgument)}
    {item : (_ : String) × PyValue} : placeKeyword cap rawargs item ≠ .ok rawargs' := by
  intro h
  rw [placeKeyword] at h
  split_ifs at h
  obtain ⟨argdesc, -, h⟩ := bind_eq_ok_iff.mp h
  obtain ⟨value, -, h⟩ := bind_eq_ok_iff.mp h
  obtain ⟨arg, harg, -⟩ := bind_eq_ok_iff.mp h
  -- the field of a `capability_argument` has another name
  cases harg

/-- **No list of arguments is made** of a call with an argument by keyword. -/
theorem constructArgs_keyword {capargs : List CapabilityArgument} (hkwargs : kwargs.entries ≠ []) :
    constructArgs cap vals kwargs ≠ .ok capargs := by
  intro h
  obtain ⟨rawargs, hraw, -⟩ := bind_eq_ok_iff.mp h
  cases hentries : kwargs.entries with
  | nil => exact hkwargs hentries
  | cons item items =>
    rw [hentries, List.foldlM_cons] at hraw
    obtain ⟨rawargs', hitem, -⟩ := bind_eq_ok_iff.mp hraw
    exact placeKeyword_ne_ok hitem

/-! ### Arguments by position -/

private theorem getItem_append {α : Type} (l l' : List α) (a : α) :
    getItem (l ++ a :: l') l.length = .ok a := by
  rw [getItem, List.getElem?_append_right le_rfl, Nat.sub_self]
  rfl

/-- The first place that is not filled is filled. -/
theorem placePositional_eq_ok_iff {idx : ℕ} {before more : List VariantDescriptor}
    {ty : VariantDescriptor} {val : PyValue} {filled : List CapabilityArgument}
    {tail rawargs : List (Option CapabilityArgument)}
    (hcap : cap.argtypes = before ++ ty :: more) (hbefore : before.length = idx)
    (hfilled : filled.length = idx) :
    placePositional cap (filled.map some ++ none :: tail) idx val = .ok rawargs ↔
      ∃ m, ftVariantFromValue ty val = .ok m ∧
        rawargs = (filled ++ [CapabilityArgument.mk idx m]).map some ++ tail := by
  have hitem : getItem (filled.map some ++ none :: tail) idx = .ok none := by
    have hidx : idx = (filled.map some).length := by rw [List.length_map, hfilled]
    rw [hidx]
    exact getItem_append _ tail none
  have hdesc : getItem cap.argtypes idx = .ok ty := by
    rw [hcap, ← hbefore]
    exact getItem_append before more ty
  have hset : ∀ arg : CapabilityArgument, (filled.map some ++ none :: tail).set idx (some arg) =
      (filled ++ [arg]).map some ++ tail := by
    intro arg
    rw [← hfilled, List.set_append_right _ _ (by simp)]
    simp
  rw [placePositional, hitem]
  change (getItem cap.argtypes idx >>= _) = _ ↔ _
  rw [hdesc]
  change (ftVariantFromValue ty val >>= _) = _ ↔ _
  rw [bind_eq_ok_iff]
  refine exists_congr fun m => and_congr_right fun _ => ?_
  rw [← hset]
  exact pure_eq_ok_iff

/-- The places after those that are filled are filled in order. -/
theorem placePositionals_eq_ok_iff {idx : ℕ} {before types more : List VariantDescriptor}
    {filled : List CapabilityArgument} {tail rawargs : List (Option CapabilityArgument)}
    (hcap : cap.argtypes = before ++ (types ++ more)) (hbefore : before.length = idx)
    (hfilled : filled.length = idx) (hlen : types.length = vals.length) :
    placePositionals cap (filled.map some ++ (List.replicate vals.length none ++ tail)) idx vals =
        .ok rawargs ↔
      ∃ args, InPlace idx types vals args ∧ rawargs = (filled ++ args).map some ++ tail := by
  induction vals generalizing idx before types filled rawargs with
  | nil =>
    obtain rfl := List.eq_nil_of_length_eq_zero hlen
    rw [placePositionals, Except.ok.injEq]
    constructor
    · rintro rfl
      exact ⟨[], .nil, by simp⟩
    · rintro ⟨_, ⟨⟩, rfl⟩
      simp
  | cons val vals ih =>
    obtain _ | ⟨ty, types⟩ := types
    · cases hlen
    -- the induction is on the values, with those before them filled in
    have hrest : ∀ m rawargs, placePositionals cap ((filled ++ [CapabilityArgument.mk idx m]).map
        some ++ (List.replicate vals.length none ++ tail)) (idx + 1) vals = .ok rawargs ↔
          ∃ args, InPlace (idx + 1) types vals args ∧
            rawargs = (filled ++ [CapabilityArgument.mk idx m] ++ args).map some ++ tail := by
      intro m rawargs
      have hcap' : cap.argtypes = (before ++ [ty]) ++ (types ++ more) := by simpa using hcap
      have hbefore' : (before ++ [ty]).length = idx + 1 := by simpa using hbefore
      have hfilled' : (filled ++ [CapabilityArgument.mk idx m]).length = idx + 1 := by
        simpa using hfilled
      exact ih hcap' hbefore' hfilled' (by simpa using hlen)
    rw [placePositionals, bind_eq_ok_iff, List.length_cons, List.replicate_succ, List.cons_append]
    constructor
    · rintro ⟨rawargs', hraw, h⟩
      obtain ⟨m, hm, rfl⟩ := (placePositional_eq_ok_iff hcap hbefore hfilled).mp hraw
      obtain ⟨args, hargs, rfl⟩ := (hrest m rawargs).mp h
      exact ⟨⟨idx, m⟩ :: args, .cons hm hargs, by simp⟩
    · rintro ⟨_, hargs, rfl⟩
      cases hargs with
      | cons hm hargs =>
        refine ⟨_, (placePositional_eq_ok_iff hcap hbefore hfilled).mpr ⟨_, hm, rfl⟩, ?_⟩
        exact (hrest _ _).mpr ⟨_, hargs, by simp⟩

/-- Without keywords, the arguments are placed in order. -/
private theorem constructArgs_positional :
    constructArgs cap vals ∅ = (if cap.argnames.length < vals.length then
        .error (.valueError "too many arguments provided")
      else do
        let rawargs ← placePositionals cap (List.replicate cap.argnames.length none) 0 vals
        if rawargs.any Option.isNone then .error (.indexError "not all arguments filled in")
        else .ok rawargs.reduceOption) := by
  have hlen : (List.replicate cap.argnames.length (none : Option CapabilityArgument)).length =
      cap.argnames.length := List.length_replicate
  rw [constructArgs]
  change (if (List.replicate cap.argnames.length (none : Option CapabilityArgument)).length <
    vals.length + 0 then _ else _) = _
  rw [hlen, Nat.add_zero]

/-- All places but the last `n - vals.length` are filled. -/
theorem placePositionals_start (hle : vals.length ≤ cap.argtypes.length)
    {rawargs : List (Option CapabilityArgument)} :
    placePositionals cap (List.replicate cap.argnames.length none) 0 vals = .ok rawargs ↔
      ∃ args, InPlace 0 (cap.argtypes.take vals.length) vals args ∧
        rawargs = args.map some ++ List.replicate (cap.argtypes.length - vals.length) none := by
  have hstart : List.replicate cap.argnames.length (none : Option CapabilityArgument) =
      ([] : List CapabilityArgument).map some ++ (List.replicate vals.length none ++
        List.replicate (cap.argtypes.length - vals.length) none) := by
    rw [List.map_nil, List.nil_append, List.replicate_append_replicate,
      Nat.add_sub_cancel' hle, cap.described]
  have hcap : cap.argtypes = [] ++
      (cap.argtypes.take vals.length ++ cap.argtypes.drop vals.length) := by simp
  rw [hstart]
  exact placePositionals_eq_ok_iff hcap rfl rfl (List.length_take_of_le hle)

/-- There are as many arguments as types. -/
theorem InPlace.length_eq {idx : ℕ} {types : List VariantDescriptor}
    {args : List CapabilityArgument} (h : InPlace idx types vals args) :
    vals.length = types.length := by
  induction h with
  | nil => rfl
  | cons _ _ ih => exact congrArg (· + 1) ih

/-- An argument is missing exactly if a place is left. -/
private theorem any_isNone_iff (args : List CapabilityArgument) (k : ℕ) :
    (args.map some ++ List.replicate k none).any Option.isNone = true ↔ 0 < k := by
  simp [List.any_eq_true, Nat.pos_iff_ne_zero]

/-- **A call by position** makes the list of its arguments in order. -/
theorem constructArgs_positional_eq_ok_iff {capargs : List CapabilityArgument} :
    constructArgs cap vals ∅ = .ok capargs ↔ InPlace 0 cap.argtypes vals capargs := by
  rw [constructArgs_positional, ← cap.described]
  split_ifs with hmany
  · exact iff_of_false (fun h => nomatch h) fun h => hmany.ne h.length_eq.symm
  have hle : vals.length ≤ cap.argtypes.length := Nat.not_lt.mp hmany
  rw [cap.described, bind_eq_ok_iff]
  simp only [placePositionals_start hle]
  constructor
  · rintro ⟨_, ⟨args, hargs, rfl⟩, h⟩
    split_ifs at h with hnone
    have hall : ¬ 0 < cap.argtypes.length - vals.length :=
      fun hpos => hnone ((any_isNone_iff args _).mpr hpos)
    obtain rfl := Except.ok.inj h
    rw [List.take_of_length_le (by omega)] at hargs
    have hreduced : (args.map some ++ List.replicate (cap.argtypes.length - vals.length)
        none).reduceOption = args := by
      rw [List.reduceOption_append, List.reduceOption_replicate_none, List.append_nil]
      simp [List.reduceOption]
    rwa [hreduced]
  · intro h
    have hzero : cap.argtypes.length - vals.length = 0 := by rw [h.length_eq, Nat.sub_self]
    refine ⟨_, ⟨capargs, ?_, rfl⟩, ?_⟩
    · rwa [h.length_eq, List.take_length]
    · rw [if_neg (by rw [any_isNone_iff, hzero]; exact Nat.lt_irrefl 0), hzero,
        List.replicate_zero, List.append_nil]
      simp [List.reduceOption]

/-- Every value is converted exactly if it passes the tests of the type at its place. -/
theorem inPlace_returns_iff (idx : ℕ) {types : List VariantDescriptor} :
    (∃ args, InPlace idx types vals args) ↔ List.Forall₂ Accepts types vals := by
  constructor
  · rintro ⟨args, h⟩
    induction h with
    | nil => exact .nil
    | cons hval _ ih => exact .cons (converts_iff_accepts.mp ⟨_, hval⟩) ih
  · intro h
    induction h generalizing idx with
    | nil => exact ⟨[], .nil⟩
    | cons hval _ ih =>
      obtain ⟨m, hm⟩ := converts_iff_accepts.mpr hval
      obtain ⟨args, hargs⟩ := ih (idx + 1)
      exact ⟨_, .cons hm hargs⟩

/-! ### Requests -/

/-- A request but for its arguments: they are those of no call in particular. -/
def Framed (cap : Capability) (req : Request) : Prop :=
  assignUint32 cap.msgid = .ok req.msgid ∧ req.devid = cap.devid ∧ req.capname = cap.capname ∧
    if cap.captp = .stream then
      ∃ size, assignUint32 cap.chunksize = .ok size ∧ req.chunksize = some size
    else req.chunksize = none

/-- The message id and the size of chunks fit their fields. -/
def FrameFits (cap : Capability) : Prop :=
  cap.msgid < 2 ^ 32 ∧ (cap.captp = .stream → 0 ≤ cap.chunksize ∧ cap.chunksize < 2 ^ 32)

/-- A number is assigned to a field of 32 bits if it fits. -/
private theorem assignUint32_returns_iff {n : ℤ} :
    (∃ x, assignUint32 n = .ok x) ↔ 0 ≤ n ∧ n < 2 ^ 32 := by
  rw [assignUint32]
  split_ifs with h
  · exact iff_of_true ⟨_, rfl⟩ h
  · exact iff_of_false (fun ⟨_, h'⟩ => nomatch h') h

/-- A request is framed exactly if its numbers fit. -/
private theorem framed_returns_iff (args : List CapabilityArgument) :
    (∃ req, Framed cap req ∧ req.args = args) ↔ FrameFits cap := by
  have hmsgid : (∃ x, assignUint32 cap.msgid = .ok x) ↔ cap.msgid < 2 ^ 32 := by
    rw [assignUint32_returns_iff]
    omega
  rw [FrameFits, ← hmsgid, ← assignUint32_returns_iff]
  constructor
  · rintro ⟨req, ⟨hid, -, -, hsize⟩, -⟩
    refine ⟨⟨_, hid⟩, fun hstream => ?_⟩
    rw [if_pos hstream] at hsize
    obtain ⟨size, hsize, -⟩ := hsize
    exact ⟨size, hsize⟩
  · rintro ⟨⟨msgid, hid⟩, hchunks⟩
    by_cases hstream : cap.captp = .stream
    · obtain ⟨size, hsize⟩ := hchunks hstream
      refine ⟨⟨msgid, cap.devid, cap.capname, args, some size⟩, ⟨hid, rfl, rfl, ?_⟩, rfl⟩
      rw [if_pos hstream]
      exact ⟨size, hsize, rfl⟩
    · refine ⟨⟨msgid, cap.devid, cap.capname, args, none⟩, ⟨hid, rfl, rfl, ?_⟩, rfl⟩
      rw [if_neg hstream]

/-- A request is its frame with the arguments. -/
theorem newRequest_eq_ok_iff {req : Request} :
    newRequest cap vals kwargs = .ok req ↔
      capargs cap vals kwargs = .ok req.args ∧ assignUint32 cap.msgid = .ok req.msgid ∧
        req.devid = cap.devid ∧ req.capname = cap.capname ∧ req.chunksize = none := by
  rw [newRequest, bind_eq_ok_iff]
  constructor
  · rintro ⟨capargs, hargs, h⟩
    obtain ⟨msgid, hid, h⟩ := bind_eq_ok_iff.mp h
    obtain rfl := pure_eq_ok_iff.mp h
    exact ⟨hargs, hid, rfl, rfl, rfl⟩
  · obtain ⟨msgid, devid, capname, args, chunksize⟩ := req
    rintro ⟨hargs, hid, rfl, rfl, rfl⟩
    exact ⟨args, hargs, bind_eq_ok_iff.mpr ⟨msgid, hid, rfl⟩⟩

/-- A request is built of the list of the arguments, or of none for a read. -/
theorem constructRequest_eq_ok_iff {req : Request} :
    (constructRequest cap vals kwargs).1 = .ok req ↔
      Framed cap req ∧ capargs cap vals kwargs = .ok req.args := by
  have hsplit : (constructRequest cap vals kwargs).1 = .ok req ↔
      ∃ req', newRequest cap vals kwargs = .ok req' ∧ setChunksize cap req' = .ok req := by
    rw [constructRequest]
    cases newRequest cap vals kwargs with
    | error e => exact iff_of_false (fun h => nomatch h) fun ⟨_, h, _⟩ => nomatch h
    | ok req' => simp
  rw [hsplit, Framed]
  simp only [newRequest_eq_ok_iff, setChunksize]
  by_cases hstream : cap.captp = .stream
  · simp only [if_pos hstream]
    constructor
    · rintro ⟨req', ⟨hargs, hid, hdev, hname, -⟩, h⟩
      obtain ⟨size, hsize, h⟩ := bind_eq_ok_iff.mp h
      obtain rfl := pure_eq_ok_iff.mp h
      exact ⟨⟨hid, hdev, hname, size, hsize, rfl⟩, hargs⟩
    · rintro ⟨⟨hid, hdev, hname, size, hsize, hsome⟩, hargs⟩
      refine ⟨{ req with chunksize := none }, ⟨hargs, hid, hdev, hname, rfl⟩, ?_⟩
      refine bind_eq_ok_iff.mpr ⟨size, hsize, ?_⟩
      rw [← hsome]
      rfl
  · simp only [if_neg hstream, Except.ok.injEq, exists_eq_right]
    constructor
    · rintro ⟨hargs, hid, hdev, hname, hnone⟩
      exact ⟨⟨hid, hdev, hname, hnone⟩, hargs⟩
    · rintro ⟨⟨hid, hdev, hname, hnone⟩, hargs⟩
      exact ⟨hargs, hid, hdev, hname, hnone⟩

/-- A call by position builds a request of its arguments in order. -/
theorem constructRequest_positional_iff (hvals : vals.length = cap.argnames.length)
    {req : Request} :
    (constructRequest cap vals ∅).1 = .ok req ↔
      Framed cap req ∧ InPlace 0 cap.argtypes vals req.args := by
  rw [constructRequest_eq_ok_iff]
  refine and_congr_right fun _ => ?_
  rw [capargs]
  split_ifs with hread
  · -- a property that is written has an argument
    have hnil : vals = [] := by simp_all [readsProperty]
    have htypes : cap.argtypes = [] := by
      rw [← List.length_eq_zero_iff, cap.described, ← hvals, hnil, List.length_nil]
    rw [hnil, htypes]
    constructor
    · intro h
      rw [← Except.ok.inj h]
      exact .nil
    · intro h
      cases hargs : req.args with
      | nil => rfl
      | cons arg args =>
        rw [hargs] at h
        cases h
  · exact constructArgs_positional_eq_ok_iff

/-- A call with an argument by keyword builds none. -/
theorem constructRequest_keyword (hkwargs : kwargs.entries ≠ []) {req : Request} :
    (constructRequest cap vals kwargs).1 ≠ .ok req := by
  intro h
  obtain ⟨-, hargs⟩ := constructRequest_eq_ok_iff.mp h
  have hread : readsProperty cap vals kwargs = false := by simp [readsProperty, hkwargs]
  rw [capargs, hread] at hargs
  exact constructArgs_keyword hkwargs hargs

end Placing

/-! ### Which calls agree -/

section Agreement

variable {cap : Capability} {vals : List PyValue} {kwargs : Kwargs} {k : ℕ}

private theorem error_of_forall_ne {α : Type} {x : Except PyException α} (h : ∀ a, x ≠ .ok a) :
    ∃ e, x = .error e := by
  cases x with
  | error e => exact ⟨e, rfl⟩
  | ok a => exact absurd rfl (h a)

/-- A call whose arguments do not fill the places raises. -/
theorem Malformed.raises (h : Malformed cap vals kwargs)
    (hread : readsProperty cap vals kwargs = false) :
    ∃ e, (constructRequest cap vals kwargs).1 = .error e := by
  refine error_of_forall_ne fun req hreq => ?_
  by_cases hkwargs : kwargs.entries = []
  · have hempty : kwargs = ∅ := AList.ext hkwargs
    obtain ⟨-, hargs⟩ := constructRequest_eq_ok_iff.mp hreq
    rw [capargs, hread, hempty] at hargs
    have hlen := (constructArgs_positional_eq_ok_iff.mp hargs).length_eq
    rw [cap.described] at hlen
    cases h with
    | missing i hi hargs _ => omega
    | surplus hargs => omega
    | duplicated name hname _ | unknown name hname _ => simp [hempty] at hname
  · exact constructRequest_keyword hkwargs hreq

/-- **The calls agree** exactly if no argument is passed by keyword, or one is not accepted by its
type, or the message id or the size of chunks does not fit. -/
theorem callsAgree_iff (hvals : vals.length = cap.argnames.length)
    (hsplit : (kwargs.entries.map fun item => (item.1, item.2)).Perm
      ((cap.argnames.zip vals).drop k)) :
    CallsAgree cap vals k kwargs ↔
      vals.length ≤ k ∨ ¬ (List.Forall₂ Accepts cap.argtypes vals ∧ FrameFits cap) := by
  have hkeywords : kwargs.entries = [] ↔ vals.length ≤ k := by
    have hlen := hsplit.length_eq
    rw [List.length_map, List.length_drop, List.length_zip, ← hvals, Nat.min_self] at hlen
    rw [← List.length_eq_zero_iff, hlen, Nat.sub_eq_zero_iff_le]
  have hpositional : (∃ req, (constructRequest cap vals ∅).1 = .ok req) ↔
      List.Forall₂ Accepts cap.argtypes vals ∧ FrameFits cap := by
    simp only [constructRequest_positional_iff hvals]
    rw [← inPlace_returns_iff 0]
    constructor
    · rintro ⟨req, hframed, hargs⟩
      exact ⟨⟨_, hargs⟩, (framed_returns_iff _).mp ⟨req, hframed, rfl⟩⟩
    · rintro ⟨⟨args, hargs⟩, hfits⟩
      obtain ⟨req, hframed, hreq⟩ := (framed_returns_iff args).mpr hfits
      rw [← hreq] at hargs
      exact ⟨req, hframed, hargs⟩
  constructor
  · intro hagree
    by_cases hk : vals.length ≤ k
    · exact .inl hk
    · refine .inr fun hok => ?_
      obtain ⟨req, hreq⟩ := hpositional.mpr hok
      exact constructRequest_keyword (mt hkeywords.mp hk) ((hagree.split req).mpr hreq)
  · intro h
    refine ⟨fun req hreq => ((constructRequest_positional_iff hvals).mp hreq).2, fun req => ?_,
      fun args' kwargs' hmal hread => hmal.raises hread⟩
    by_cases hk : vals.length ≤ k
    · have hempty : kwargs = ∅ := AList.ext (hkeywords.mpr hk)
      rw [List.take_of_length_le hk, hempty]
    · refine iff_of_false (constructRequest_keyword (mt hkeywords.mp hk)) fun hreq => ?_
      exact h.resolve_left hk (hpositional.mp ⟨req, hreq⟩)

end Agreement

/-- A capability with one argument, which is a number. -/
private def setChannel : Capability where
  captp := .action
  capname := "SetChannel"
  argnames := ["channel"]
  argtypes := [.simplevar "int" (some .intType) 4]
  described := rfl
  msgid := 0
  devid := 0
  chunksize := 1000

/-- A capability with two arguments, which are numbers. -/
private def setRange : Capability where
  captp := .action
  capname := "SetRange"
  argnames := ["low", "high"]
  argtypes := [.simplevar "int" (some .intType) 4, .simplevar "int" (some .intType) 4]
  described := rfl
  msgid := 0
  devid := 0
  chunksize := 1000

theorem callsAgree_byPosition : CallsAgree setRange [.int 3, .int 7] 2 ∅ :=
  (callsAgree_iff rfl (.refl _)).mpr (.inl le_rfl)

/-- The argument is passed by its name. -/
theorem not_callsAgree : ¬ ∀ (cap : Capability) (vals : List PyValue) (k : ℕ) (kwargs : Kwargs),
    vals.length = cap.argnames.length →
      (kwargs.entries.map fun item => (item.1, item.2)).Perm ((cap.argnames.zip vals).drop k) →
        CallsAgree cap vals k kwargs := by
  intro hall
  have hagree := hall setChannel [.int 3] 0 (AList.insert "channel" (.int 3) ∅) rfl (.refl _)
  obtain ⟨args, hargs⟩ : ∃ args, InPlace 0 setChannel.argtypes [.int 3] args := ⟨_, .cons rfl .nil⟩
  have hfits : FrameFits setChannel := ⟨by decide, fun h => nomatch h⟩
  obtain ⟨req, hframed, hreq⟩ := (framed_returns_iff args).mpr hfits
  rw [← hreq] at hargs
  have hpositional := (constructRequest_positional_iff rfl).mpr ⟨hframed, hargs⟩
  exact constructRequest_keyword (by decide) ((hagree.split _).mpr hpositional)

end Foxtrot.Python
