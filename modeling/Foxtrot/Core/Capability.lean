import Foxtrot.Server.Harness

/-!
# Comparing and hashing capabilities

`Capability::operator==` and `CapabilityHash` (`core/src/Device.cpp`). The comparison walks the
argument types, and then the argument names, of the one capability with an iterator into those of
the other, and does not ask where the other list ends: past its end the result is undefined
(`none`), and of a longer other list the rest is not looked at.

So the comparison says whether all fields are equal, as long as the first field in which two
capabilities differ is not a list of which one is a proper prefix of the other (`Separable`). On a
set of capabilities it is what a hashed set needs (`CoherentOn`) exactly under this condition
(`coherentOn_iff`).

The walk over two lists has a result as long as the second one does not end first; it tells whether
the first one is a prefix. On lists that are apart this is equality (`walk_of_apart`). A capability
has two lists that are walked one after the other, so for each pair the first field that differs
decides whether the comparison has a result and whether it is right in both directions.
-/

namespace Foxtrot.Core

/-- `Capability`. Its flags are never read. -/
structure Capability (Ty Invokable : Type) where
  type : CapabilityType
  capabilityName : String
  argnames : List String
  argtypes : List Ty
  returntype : Ty
  invokable : Option Invokable

/-- `hash_combine`. -/
def hashCombine (prevhash hash : UInt64) : UInt64 :=
  prevhash ^^^ (hash + (0x9e3779b9 : UInt64) + (prevhash <<< (6 : UInt64)) +
    (prevhash >>> (2 : UInt64)))

/-- The instances of `std::hash`, and `get_id` of a type. -/
structure StdHash (Ty : Type) where
  uchar : UInt8 → UInt64
  string : String → UInt64
  typeId : Ty → UInt64
  size : UInt64 → UInt64

/-- The number of a capability's type. -/
def typeNumber : CapabilityType → UInt8
  | .valueReadonly => 0
  | .valueReadwrite => 1
  | .action => 2
  | .stream => 3
  | .construct => 4

namespace Capability

variable {Ty Invokable : Type}

/-- `CapabilityHash`. -/
def hash (std : StdHash Ty) (cap : Capability Ty Invokable) : UInt64 :=
  let hash := hashCombine (std.uchar (typeNumber cap.type)) (std.string cap.capabilityName)
  let hash := cap.argnames.foldl (fun hash s => hashCombine hash (std.string s)) hash
  let hash := cap.argtypes.foldl (fun hash t => hashCombine hash (std.size (std.typeId t))) hash
  hashCombine hash (std.size (std.typeId cap.returntype))

/-- The loop of `operator==` over a list, with an iterator into another one. -/
def walk {α : Type} [DecidableEq α] : List α → List α → Option Bool
  | [], _ => some true
  | _ :: _, [] => none
  | a :: as, b :: bs => if a = b then walk as bs else some false

variable [DecidableEq Ty]

/-- `operator==`. There is no result when it reads past the end of a list. -/
def eq (cap other : Capability Ty Invokable) : Option Bool :=
  if cap.type ≠ other.type then some false
  else if cap.returntype ≠ other.returntype then some false
  else do
    if ← walk cap.argtypes other.argtypes then
      if cap.capabilityName ≠ other.capabilityName then return false
      else walk cap.argnames other.argnames
    else return false

/-! ### Coherence -/

/-- All described fields are equal. -/
structure SameFields (cap other : Capability Ty Invokable) : Prop where
  type : cap.type = other.type
  capabilityName : cap.capabilityName = other.capabilityName
  argnames : cap.argnames = other.argnames
  argtypes : cap.argtypes = other.argtypes
  returntype : cap.returntype = other.returntype

/-- The insertions into a `std::unordered_set` of capabilities, one after the other. -/
def insertAll (std : StdHash Ty) : List (Capability Ty Invokable) →
    List (Capability Ty Invokable) → Option (List (Capability Ty Invokable))
  | [], set => some set
  | cap :: caps, set => do
    -- only elements of the same hash are compared
    let equals ← (set.filter fun c => c.hash std = cap.hash std).mapM fun c => c.eq cap
    insertAll std caps (if true ∈ equals then set else set ++ [cap])

/-- On these capabilities the comparison is an equivalence that says whether all described fields
are equal, it never reads past a list, and it goes with the hash; so a hashed set of them has no
duplicates. -/
structure CoherentOn (std : StdHash Ty) (S : Set (Capability Ty Invokable)) : Prop where
  defined : ∀ a ∈ S, ∀ b ∈ S, (a.eq b).isSome
  refl : ∀ a ∈ S, a.eq a = some true
  symm : ∀ a ∈ S, ∀ b ∈ S, a.eq b = some true → b.eq a = some true
  trans : ∀ a ∈ S, ∀ b ∈ S, ∀ c ∈ S, a.eq b = some true → b.eq c = some true → a.eq c = some true
  sameFields : ∀ a ∈ S, ∀ b ∈ S, (a.eq b = some true ↔ a.SameFields b)
  hash : ∀ a ∈ S, ∀ b ∈ S, a.eq b = some true → a.hash std = b.hash std
  noDuplicates : ∀ caps : List (Capability Ty Invokable), (∀ cap ∈ caps, cap ∈ S) →
    ∃ set, insertAll std caps [] = some set ∧ set.Pairwise fun a b => ¬ a.SameFields b

/-- Neither of two lists is a proper prefix of the other. -/
def Apart {α : Type} (as bs : List α) : Prop :=
  as <+: bs ∨ bs <+: as → as = bs

/-- The first field in which the capabilities differ, in the order of the comparison, is not a list
of which one is a proper prefix of the other. -/
def Separable (cap other : Capability Ty Invokable) : Prop :=
  cap.type = other.type → cap.returntype = other.returntype →
    Apart cap.argtypes other.argtypes ∧
      (cap.argtypes = other.argtypes → cap.capabilityName = other.capabilityName →
        Apart cap.argnames other.argnames)

/-! ### The walk -/

section Walk

variable {α : Type} [DecidableEq α] {as bs : List α}

/-- The walk ends well exactly if the one list begins the other. -/
private theorem walk_eq_true_iff : walk as bs = some true ↔ as <+: bs := by
  induction as generalizing bs with
  | nil => exact iff_of_true rfl List.nil_prefix
  | cons a as ih =>
    cases bs with
    | nil => simp [walk]
    | cons b bs =>
      rw [walk, List.cons_prefix_cons, ← ih]
      split_ifs with h <;> simp [h]

/-- The walk runs off the end of a proper prefix. -/
theorem walk_eq_none_iff : walk as bs = none ↔ bs <+: as ∧ bs ≠ as := by
  induction as generalizing bs with
  | nil => simp [walk]
  | cons a as ih =>
    cases bs with
    | nil => simp [walk]
    | cons b bs =>
      rw [walk, List.cons_prefix_cons]
      split_ifs with h
      · rw [ih]
        simp [h]
      · simp [Ne.symm h]

/-- Of lists that are apart the walk tells whether they are equal. -/
theorem walk_of_apart (h : Apart as bs) : walk as bs = some (decide (as = bs)) := by
  rcases hw : walk as bs with _ | (_ | _)
  · obtain ⟨hpre, hne⟩ := walk_eq_none_iff.mp hw
    exact absurd (h (.inr hpre)).symm hne
  · have hne : as ≠ bs := by
      rintro rfl
      rw [walk_eq_true_iff.mpr (List.prefix_refl as)] at hw
      cases hw
    rw [decide_eq_false hne]
  · rw [decide_eq_true (h (.inl (walk_eq_true_iff.mp hw)))]

/-- Two lists that can be walked both ways differ where they part. -/
private theorem apart_of_isSome (h : (walk as bs).isSome) (h' : (walk bs as).isSome) :
    Apart as bs := by
  have hdef : ∀ {xs ys : List α}, (walk xs ys).isSome → ys <+: xs → ys = xs := by
    intro xs ys hxs hpre
    by_contra hne
    rw [walk_eq_none_iff.mpr ⟨hpre, hne⟩] at hxs
    cases hxs
  rintro (hpre | hpre)
  · exact hdef h' hpre
  · exact (hdef h hpre).symm

end Walk

/-! ### The comparison -/

variable {std : StdHash Ty} {a b : Capability Ty Invokable} {S : Set (Capability Ty Invokable)}

omit [DecidableEq Ty] in
private theorem SameFields.hash_eq (h : a.SameFields b) : a.hash std = b.hash std := by
  rw [hash, hash, h.type, h.capabilityName, h.argnames, h.argtypes, h.returntype]

/-- Separable capabilities are compared by their described fields. -/
theorem eq_of_separable (h : Separable a b) :
    (a.eq b).isSome ∧ (a.eq b = some true ↔ a.SameFields b) := by
  rw [eq]
  by_cases htype : a.type = b.type
  · rw [if_neg (not_not_intro htype)]
    by_cases hret : a.returntype = b.returntype
    · rw [if_neg (not_not_intro hret)]
      obtain ⟨htypes, hnames⟩ := h htype hret
      rw [walk_of_apart htypes]
      by_cases hargs : a.argtypes = b.argtypes
      · by_cases hname : a.capabilityName = b.capabilityName
        · have happly : a.SameFields b ↔ a.argnames = b.argnames :=
            ⟨SameFields.argnames, fun hargn => ⟨htype, hname, hargn, hargs, hret⟩⟩
          simp [hargs, hname, walk_of_apart (hnames hargs hname), happly]
        · have hne : ¬ a.SameFields b := fun hs => hname hs.capabilityName
          simp [hargs, hname, hne]
      · have hne : ¬ a.SameFields b := fun hs => hargs hs.argtypes
        simp [hargs, hne]
    · have hne : ¬ a.SameFields b := fun hs => hret hs.returntype
      simp [hret, hne]
  · have hne : ¬ a.SameFields b := fun hs => htype hs.type
    simp [htype, hne]

/-- Where both comparisons have a result, the capabilities are separable. -/
theorem separable_of_isSome (hab : (a.eq b).isSome) (hba : (b.eq a).isSome) : Separable a b := by
  intro htype hret
  rw [eq, if_neg (not_not_intro htype), if_neg (not_not_intro hret)] at hab
  rw [eq, if_neg (not_not_intro htype.symm), if_neg (not_not_intro hret.symm)] at hba
  have hdef : ∀ {o : Option Bool} {f : Bool → Option Bool}, (o >>= f).isSome → o.isSome := by
    rintro (_ | r) f ho
    · exact ho
    · rfl
  have htypes : Apart a.argtypes b.argtypes := apart_of_isSome (hdef hab) (hdef hba)
  refine ⟨htypes, fun hargs hname => ?_⟩
  have hwalk : walk b.argtypes b.argtypes = some true :=
    walk_eq_true_iff.mpr (List.prefix_refl _)
  rw [hargs, hwalk] at hab hba
  refine apart_of_isSome ?_ ?_
  · simpa [hname] using hab
  · simpa [hname] using hba

/-! ### Sets of capabilities -/

private theorem mapM_eq_some_map {α β : Type} {f : α → Option β} {g : α → β} {l : List α}
    (h : ∀ a ∈ l, f a = some (g a)) : l.mapM f = some (l.map g) := by
  induction l with
  | nil => rfl
  | cons a l ih =>
    rw [List.mapM_cons, h a List.mem_cons_self, ih fun x hx => h x (List.mem_cons_of_mem a hx)]
    rfl

/-- Insertions of separable capabilities leave no duplicates. -/
theorem insertAll_of_separable (hS : ∀ a ∈ S, ∀ b ∈ S, Separable a b)
    {caps set : List (Capability Ty Invokable)} (hcaps : ∀ cap ∈ caps, cap ∈ S)
    (hset : ∀ cap ∈ set, cap ∈ S) (hpair : set.Pairwise fun a b => ¬ a.SameFields b) :
    ∃ set', insertAll std caps set = some set' ∧ set'.Pairwise fun a b => ¬ a.SameFields b := by
  induction caps generalizing set with
  | nil => exact ⟨set, rfl, hpair⟩
  | cons cap caps ih =>
    have hcap := hcaps cap List.mem_cons_self
    have hequals : (set.filter fun c => c.hash std = cap.hash std).mapM (fun c => c.eq cap) =
        some ((set.filter fun c => c.hash std = cap.hash std).map
          fun c => (c.eq cap).getD false) := by
      refine mapM_eq_some_map fun c hc => ?_
      have hc := hset c (List.mem_filter.mp hc).1
      obtain ⟨r, hr⟩ := Option.isSome_iff_exists.mp (eq_of_separable (hS c hc cap hcap)).1
      rw [hr]
      rfl
    rw [insertAll, hequals]
    refine ih (fun c hc => hcaps c (List.mem_cons_of_mem cap hc)) ?_ ?_
    · split_ifs
      · exact hset
      · intro c hc
        rcases List.mem_append.mp hc with hc | hc
        · exact hset c hc
        · rw [List.mem_singleton.mp hc]
          exact hcap
    · split_ifs with hmem
      · exact hpair
      · refine List.pairwise_append.mpr ⟨hpair, List.pairwise_singleton _ _, ?_⟩
        intro c hc c' hc' hsame
        obtain rfl := List.mem_singleton.mp hc'
        -- an equal element has the same hash, so it is compared
        refine hmem (List.mem_map.mpr ⟨c, List.mem_filter.mpr ⟨hc, ?_⟩, ?_⟩)
        · exact decide_eq_true hsame.hash_eq
        · rw [(eq_of_separable (hS c (hset c hc) c' hcap)).2.mpr hsame]
          rfl

/-- **The comparison and the hash are coherent on a set of capabilities exactly if** no two of them
are first told apart by a list of which one is a proper prefix of the other. -/
theorem coherentOn_iff (std : StdHash Ty) (S : Set (Capability Ty Invokable)) :
    CoherentOn std S ↔ ∀ a ∈ S, ∀ b ∈ S, Separable a b := by
  constructor
  · intro h a ha b hb
    exact separable_of_isSome (h.defined a ha b hb) (h.defined b hb a ha)
  · intro h
    have hiff : ∀ a ∈ S, ∀ b ∈ S, (a.eq b = some true ↔ a.SameFields b) :=
      fun a ha b hb => (eq_of_separable (h a ha b hb)).2
    refine ⟨fun a ha b hb => (eq_of_separable (h a ha b hb)).1, ?_, ?_, ?_, hiff, ?_, ?_⟩
    · exact fun a ha => (hiff a ha a ha).mpr ⟨rfl, rfl, rfl, rfl, rfl⟩
    · intro a ha b hb hab
      obtain ⟨htype, hname, hargn, hargs, hret⟩ := (hiff a ha b hb).mp hab
      exact (hiff b hb a ha).mpr
        ⟨htype.symm, hname.symm, hargn.symm, hargs.symm, hret.symm⟩
    · intro a ha b hb c hc hab hbc
      obtain ⟨htype, hname, hargn, hargs, hret⟩ := (hiff a ha b hb).mp hab
      obtain ⟨htype', hname', hargn', hargs', hret'⟩ := (hiff b hb c hc).mp hbc
      exact (hiff a ha c hc).mpr ⟨htype.trans htype', hname.trans hname', hargn.trans hargn',
        hargs.trans hargs', hret.trans hret'⟩
    · exact fun a ha b hb hab => ((hiff a ha b hb).mp hab).hash_eq
    · exact fun caps hcaps => insertAll_of_separable h hcaps (fun _ hc => nomatch hc) .nil

/-- A method without arguments. -/
def noArguments : Capability Unit Unit := ⟨.action, "Reset", [], [], (), none⟩

/-- An overload of it with an argument. -/
def oneArgument : Capability Unit Unit := ⟨.action, "Reset", ["level"], [()], (), none⟩

/-- **A method equals its overloads with more arguments**, and the comparison the other way round
reads past the end of a list. -/
theorem not_coherentOn : ¬ ∀ std : StdHash Unit,
    CoherentOn std (Set.univ : Set (Capability Unit Unit)) := by
  intro hall
  have hcoherent := hall ⟨fun _ => 0, fun _ => 0, fun _ => 0, id⟩
  have hdef := hcoherent.defined oneArgument trivial noArguments trivial
  exact absurd hdef (by decide)

end Capability

end Foxtrot.Core
