import Mathlib.Control.Lawful
import Mathlib.Data.List.Monad

/-!
# Stateful computations that may fail

A computation on a state (`Stateful`) ends with a value or an error, and in either case with a
state. `Stateful.on` runs it. A sequence is run part by part (`on_bind_of_ok`, `on_bind_of_error`),
and one that has succeeded has succeeded in each part (`on_bind_eq_ok_iff`).

`Maintains` says that a computation keeps a property of the state, **however it ends**. It is what
can be said of an interrupted computation without knowing where: sequences and loops maintain what
their parts do.
-/

/-- A computation on a state, which leaves a state also where it fails. -/
abbrev Stateful (S E A : Type) := ExceptT E (StateM S) A

namespace Stateful

variable {S E A A' : Type}

/-- How the computation ends, and in which state. -/
def on (m : Stateful S E A) (s : S) : Except E A × S := m.run s

@[simp]
theorem on_pure (a : A) (s : S) : (pure a : Stateful S E A).on s = (.ok a, s) := rfl

@[simp]
theorem on_throw (e : E) (s : S) : (throw e : Stateful S E A).on s = (.error e, s) := rfl

/-- A result without use of the state. -/
def ofExcept (x : Except E A) : Stateful S E A := ExceptT.mk fun s => (x, s)

@[simp]
theorem on_ofExcept (x : Except E A) (s : S) : (ofExcept x : Stateful S E A).on s = (x, s) := rfl

/-- A result that is there already is passed on. -/
theorem ofExcept_ok_bind (a : A) (f : A → Stateful S E A') : (ofExcept (.ok a) >>= f) = f a := rfl

/-- An error that is there already is thrown. -/
theorem ofExcept_error_bind (e : E) (f : A → Stateful S E A') :
    (ofExcept (.error e) >>= f) = throw e := rfl

/-- A check without use of the state is a condition of what follows. -/
theorem ofExcept_guard_bind (c : Prop) [Decidable c] (e : E) (a : A) (f : A → Stateful S E A') :
    (ofExcept (if c then .error e else .ok a) >>= f) = if c then throw e else f a := by
  by_cases hc : c
  · rw [if_pos hc, if_pos hc, ofExcept_error_bind]
  · rw [if_neg hc, if_neg hc, ofExcept_ok_bind]

/-- A sequence runs its second part in the state in which the first one ends. -/
theorem on_bind (m : Stateful S E A) (f : A → Stateful S E A') (s : S) : (m >>= f).on s =
    match m.on s with
    | (.ok a, s') => (f a).on s'
    | (.error e, s') => (.error e, s') := by
  have hrun : (m >>= f).on s = Id.run (ExceptT.bindCont f (m.on s).1 (m.on s).2) := rfl
  rw [hrun]
  rcases m.on s with ⟨_ | a, s'⟩ <;> rfl

/-- After a first part that succeeds, the second one runs. -/
theorem on_bind_of_ok {m : Stateful S E A} {s s' : S} {a : A} (h : m.on s = (.ok a, s'))
    (f : A → Stateful S E A') : (m >>= f).on s = (f a).on s' := by
  rw [on_bind, h]

/-- After a first part that fails, the second one does not run. -/
theorem on_bind_of_error {m : Stateful S E A} {s s' : S} {e : E} (h : m.on s = (.error e, s'))
    (f : A → Stateful S E A') : (m >>= f).on s = (.error e, s') := by
  rw [on_bind, h]

/-- A sequence succeeds exactly if both parts do, one after the other. -/
theorem on_bind_eq_ok_iff {m : Stateful S E A} {f : A → Stateful S E A'} {s s' : S} {a' : A'} :
    (m >>= f).on s = (.ok a', s') ↔ ∃ a s₁, m.on s = (.ok a, s₁) ∧ (f a).on s₁ = (.ok a', s') := by
  rw [on_bind]
  rcases m.on s with ⟨e | a, s₁⟩
  · simp
  · constructor
    · exact fun h => ⟨a, s₁, rfl, h⟩
    · rintro ⟨a, s₁, ⟨⟩, h⟩
      exact h

/-- A sequence that ends with a value made from the result. -/
theorem on_bind_pure (m : Stateful S E A) (f : A → A') (s : S) :
    (m >>= fun a => pure (f a)).on s = ((m.on s).1.map f, (m.on s).2) := by
  rw [on_bind]
  rcases m.on s with ⟨_ | a, s'⟩ <;> rfl

@[simp]
theorem on_ite {p : Prop} [Decidable p] (m m' : Stateful S E A) (s : S) :
    (if p then m else m').on s = if p then m.on s else m'.on s := by
  by_cases hp : p
  · rw [if_pos hp, if_pos hp]
  · rw [if_neg hp, if_neg hp]

/-- A computation ends with a value or with an error. -/
theorem on_cases (m : Stateful S E A) (s : S) :
    (∃ a s', m.on s = (.ok a, s')) ∨ ∃ e s', m.on s = (.error e, s') := by
  rcases m.on s with ⟨e | a, s'⟩
  · exact .inr ⟨e, s', rfl⟩
  · exact .inl ⟨a, s', rfl⟩

/-! ### Scope guards -/

/-- The computation, and `last` on the way out of it. Only an error that unwinds runs `last`. -/
def onExit (unwinds : E → Bool) (m : Stateful S E A) (last : Stateful S E Unit) :
    Stateful S E A :=
  ExceptT.mk fun s =>
    match m.on s with
    | (.ok a, s') => (last >>= fun _ => pure a).on s'
    | (.error e, s') => if unwinds e then (last >>= fun _ => throw e).on s' else (.error e, s')

section OnExit

variable {unwinds : E → Bool} {m : Stateful S E A} {last : Stateful S E Unit} {s s' s'' : S}

/-- The last part runs after a success, and after an error that unwinds. -/
theorem on_onExit : (onExit unwinds m last).on s =
    match m.on s with
    | (.ok a, s') => (last >>= fun _ => pure a).on s'
    | (.error e, s') => if unwinds e then (last >>= fun _ => throw e).on s' else (.error e, s') :=
  rfl

/-- After a success, the value stays and the last part has run. -/
theorem on_onExit_of_ok {a : A} (h : m.on s = (.ok a, s')) (hlast : last.on s' = (.ok (), s'')) :
    (onExit unwinds m last).on s = (.ok a, s'') := by
  rw [on_onExit, h]
  exact on_bind_of_ok hlast _

/-- After an error, the error stays, and the last part has run if that unwinds. -/
theorem on_onExit_of_error {e : E} (h : m.on s = (.error e, s'))
    (hlast : last.on s' = (.ok (), s'')) :
    (onExit unwinds m last).on s = (.error e, if unwinds e then s'' else s') := by
  rw [on_onExit, h]
  change (if unwinds e then (last >>= fun _ => throw e).on s' else (.error e, s')) = _
  rw [on_bind_of_ok hlast, on_throw]
  cases unwinds e <;> rfl

end OnExit

/-! ### Catching errors -/

/-- What the computation comes to, be it a value or an error. -/
def attempt (m : Stateful S E A) : Stateful S E (Except E A) :=
  ExceptT.mk fun s => (.ok (m.on s).1, (m.on s).2)

theorem on_attempt (m : Stateful S E A) (s : S) :
    m.attempt.on s = (.ok (m.on s).1, (m.on s).2) := rfl

/-! ### What is kept however a computation ends -/

/-- The computation leads from states with `P` to states with `P`, also where it fails. -/
def Maintains (P : S → Prop) (m : Stateful S E A) : Prop := ∀ s, P s → P (m.on s).2

variable {P : S → Prop} {m : Stateful S E A}

/-- A value leaves the state as it is. -/
theorem Maintains.pure (a : A) : Maintains P (Pure.pure a : Stateful S E A) := fun _ h => h

/-- An error leaves the state as it is. -/
theorem Maintains.throw (e : E) : Maintains P (MonadExcept.throw e : Stateful S E A) :=
  fun _ h => h

/-- A result without use of the state leaves it as it is. -/
theorem Maintains.ofExcept (x : Except E A) : Maintains P (ofExcept x : Stateful S E A) :=
  fun _ h => h

/-- A sequence maintains what both parts do. -/
theorem Maintains.bind {f : A → Stateful S E A'} (hm : Maintains P m)
    (hf : ∀ a, Maintains P (f a)) : Maintains P (m >>= f) := by
  intro s hs
  have hfirst := hm s hs
  obtain ⟨a, s', hon⟩ | ⟨e, s', hon⟩ := m.on_cases s
  · rw [hon] at hfirst
    rw [on_bind_of_ok hon]
    exact hf a s' hfirst
  · rw [hon] at hfirst
    rw [on_bind_of_error hon]
    exact hfirst

/-- To catch the error changes nothing of the state. -/
theorem Maintains.attempt (hm : Maintains P m) : Maintains P m.attempt := hm

/-- Each branch may use its condition. -/
theorem Maintains.ite {p : Prop} [Decidable p] {m' : Stateful S E A} (h : p → Maintains P m)
    (h' : ¬ p → Maintains P m') : Maintains P (if p then m else m') := by
  by_cases hp : p
  · rw [if_pos hp]
    exact h hp
  · rw [if_neg hp]
    exact h' hp

/-- A loop maintains what each round does. -/
theorem Maintains.forM {B : Type} {f : B → Stateful S E PUnit} {bs : List B}
    (h : ∀ b ∈ bs, Maintains P (f b)) : Maintains P (forM bs f) := by
  induction bs with
  | nil => exact Maintains.pure _
  | cons b bs ih =>
    rw [List.forM_cons]
    exact (h b List.mem_cons_self).bind fun _ => ih fun b' hb' => h b' (List.mem_cons_of_mem b hb')

end Stateful
