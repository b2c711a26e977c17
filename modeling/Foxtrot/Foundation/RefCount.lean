import Mathlib.Data.Int.Notation
import Mathlib.Data.List.Basic

/-!
# Reference counts

A library counts the references to its objects by the calls that it gets. An object is made with
one reference, and it is gone when none is left. The calls so far are a list with the latest in
front; `count` is what they leave of each object.

The references are `Balanced` if each object has as many as it has holders, and no call has been for
an object that was gone. A change of the holders keeps the balance exactly if the calls with it are
those for the pointers that have come and gone: `Balanced.hold_iff`, `Balanced.make_iff`,
`Balanced.take_iff` and `Balanced.give_iff` say so for no call, and for one of each kind.
-/

namespace RefCount

variable {Obj : Type*}

/-- A call for an object. -/
inductive Call (Obj : Type*) where
  | make (o : Obj)
  | ref (o : Obj)
  | unref (o : Obj)
  deriving DecidableEq

def Call.object : Call Obj → Obj
  | make o | ref o | unref o => o

/-- The references that the call adds. -/
def Call.change : Call Obj → ℤ
  | make _ | ref _ => 1
  | unref _ => -1

/-- The calls for what a pointer points at. A null pointer is not counted. -/
def refs (p : Option Obj) : List (Call Obj) := p.toList.map .ref

def unrefs (p : Option Obj) : List (Call Obj) := p.toList.map .unref

variable [DecidableEq Obj]

/-- The references to an object after the calls: the one that it has been made with and those that
have been taken, less those that have been given back. -/
def count : List (Call Obj) → Obj → ℤ
  | [], _ => 0
  | call :: calls, o => count calls o + if call.object = o then call.change else 0

/-- No call has been for an object that was gone. -/
def Alive : List (Call Obj) → Prop
  | [] => True
  | .make _ :: calls => Alive calls
  | .ref o :: calls | .unref o :: calls => Alive calls ∧ 0 < count calls o

/-- One for the object that the pointer points at. -/
def points (p : Option Obj) (o : Obj) : ℕ := if p = some o then 1 else 0

/-- **The references are balanced**: each object has as many as it has holders, and none has been
used that was gone. -/
structure Balanced (calls : List (Call Obj)) (holders : Obj → ℕ) : Prop where
  count_eq : ∀ o, count calls o = holders o
  alive : Alive calls

variable {calls : List (Call Obj)} {holders holders' : Obj → ℕ} {p : Option Obj}

@[simp]
theorem points_none (o : Obj) : points none o = 0 := rfl

/-- A pointer counts for the object that it points to. -/
theorem points_some (o o' : Obj) : points (some o) o' = if o = o' then 1 else 0 := by
  simp only [points, Option.some_inj]

/-- Only a null pointer points at nothing. -/
theorem forall_points_eq_zero_iff : (∀ o, points p o = 0) ↔ p = none := by
  cases p with
  | none => simp
  | some o => simp [points]

/-! ### What calls count -/

/-- A new object is counted once more. -/
theorem count_make (o o' : Obj) :
    count (.make o :: calls) o' = count calls o' + points (some o) o' := by
  have hcount : count (.make o :: calls) o' = count calls o' + if o = o' then 1 else 0 := rfl
  rw [hcount, points_some]
  split_ifs <;> omega

/-- To take a reference counts for the object pointed to. -/
theorem count_refs_append (p : Option Obj) (o : Obj) :
    count (refs p ++ calls) o = count calls o + points p o := by
  cases p with
  | none => simp [refs]
  | some o' =>
    rw [← count_make]
    rfl

/-- To drop a reference takes one from the object pointed to. -/
theorem count_unrefs_append (p : Option Obj) (o : Obj) :
    count (unrefs p ++ calls) o = count calls o - points p o := by
  cases p with
  | none => simp [unrefs]
  | some o' =>
    have hcount : count (unrefs (some o') ++ calls) o =
        count calls o + if o' = o then -1 else 0 := rfl
    rw [hcount, points_some]
    split_ifs <;> omega

/-- References may be taken of an object that is counted. -/
theorem Alive.refs_append (h : Alive calls) (hp : ∀ o ∈ p, 0 < count calls o) :
    Alive (refs p ++ calls) := by
  cases p with
  | none => exact h
  | some o => exact ⟨h, hp o rfl⟩

/-- References may be dropped of an object that is counted. -/
theorem Alive.unrefs_append (h : Alive calls) (hp : ∀ o ∈ p, 0 < count calls o) :
    Alive (unrefs p ++ calls) := by
  cases p with
  | none => exact h
  | some o => exact ⟨h, hp o rfl⟩

/-! ### Keeping the balance -/

/-- Where all calls are allowed, balance is a matter of the counts alone. -/
theorem Alive.balanced_iff (h : Alive calls) :
    Balanced calls holders ↔ ∀ o, count calls o = holders o :=
  ⟨fun hbalanced => hbalanced.count_eq, fun hcount => ⟨hcount, h⟩⟩

/-- An object without holders has no references. -/
theorem Balanced.count_eq_zero (h : Balanced calls holders) {o : Obj} (ho : holders o = 0) :
    count calls o = 0 := by
  rw [h.count_eq, ho]
  rfl

/-- An object that is held has not gone. -/
theorem Balanced.count_pos (h : Balanced calls holders) {o : Obj} (ho : 0 < holders o) :
    0 < count calls o := by
  rw [h.count_eq]
  exact Int.natCast_pos.mpr ho

/-- Without a call, the holders have to stay as they are. -/
theorem Balanced.hold_iff (h : Balanced calls holders) :
    Balanced calls holders' ↔ ∀ o, holders' o = holders o := by
  rw [h.alive.balanced_iff]
  refine forall_congr' fun o => ?_
  rw [h.count_eq]
  exact Int.ofNat_inj.trans eq_comm

/-- An object that is made has one more holder. -/
theorem Balanced.make_iff (h : Balanced calls holders) (o : Obj) :
    Balanced (.make o :: calls) holders' ↔
      ∀ o', holders' o' = holders o' + points (some o) o' := by
  have halive : Alive (.make o :: calls) := h.alive
  rw [halive.balanced_iff]
  refine forall_congr' fun o' => ?_
  rw [count_make, h.count_eq]
  omega

/-- With a reference that is taken for a held object, that has one more holder. -/
theorem Balanced.take_iff (h : Balanced calls holders) (hheld : ∀ o ∈ p, 0 < holders o) :
    Balanced (refs p ++ calls) holders' ↔ ∀ o, holders' o = holders o + points p o := by
  rw [(h.alive.refs_append fun o ho => h.count_pos (hheld o ho)).balanced_iff]
  refine forall_congr' fun o => ?_
  rw [count_refs_append, h.count_eq]
  omega

/-- With a reference that is given back for a held object, that has one holder less. -/
theorem Balanced.give_iff (h : Balanced calls holders) (hheld : ∀ o ∈ p, 0 < holders o) :
    Balanced (unrefs p ++ calls) holders' ↔ ∀ o, holders' o + points p o = holders o := by
  rw [(h.alive.unrefs_append fun o ho => h.count_pos (hheld o ho)).balanced_iff]
  refine forall_congr' fun o => ?_
  rw [count_unrefs_append, h.count_eq]
  omega

end RefCount
