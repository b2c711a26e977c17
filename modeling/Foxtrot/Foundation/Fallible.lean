import Mathlib.Data.Fin.Tuple.Basic
import Mathlib.Data.List.Forall2

/-!
# Computations that fail, over finite families

`collect` runs the computations of a finite family in order and gives the family of their
results; the first failure ends it. For computations that only fail, the result is there when
every member has one (`collect_eq_ok_iff`), and the failure is that of the first member that
fails (`collect_eq_error_iff`). `firstOk` is the other way to run a family, until a member
succeeds.

A computation that also changes a state returns from a state (`Returns`), with a result that
satisfies a predicate (`Yields`), or fails from some state (`Raises`). Whether a family yields is
a matter of its members when this does not depend on the state (`yields_collect_iff`). Where what a
computation does to the state is known beforehand as a list of effects (`Performs`), each member of
a family runs after the effects of those before it (`returns_collect`).

`Aligned` is what a loop over two lists leaves when it converts the item of the one with that of
the other at the same place. The loop `List.mapM` leaves two lists with `List.Forall₂`
(`mapM_eq_ok_iff`).
-/

namespace Fallible

/-- The results of a finite family of computations, run in order. -/
def collect {m : Type → Type} [Monad m] : {n : ℕ} → {α : Fin n → Type} →
    ((i : Fin n) → m (α i)) → m ((i : Fin n) → α i)
  | 0, _, _ => pure fun i => i.elim0
  | _ + 1, _, f => do
    let a ← f 0
    let as ← collect fun i => f i.succ
    pure (Fin.cons a as)

/-! ### Two lists, place by place -/

/-- The items of two lists at the same places give those of a third one. -/
inductive Aligned {α β γ : Type} (R : α → β → γ → Prop) : List α → List β → List γ → Prop
  | nil : Aligned R [] [] []
  | cons {a : α} {b : β} {c : γ} {as : List α} {bs : List β} {cs : List γ} (hd : R a b c)
      (tl : Aligned R as bs cs) : Aligned R (a :: as) (b :: bs) (c :: cs)

section Aligned

variable {α β γ δ : Type} {R : α → β → γ → Prop} {S : γ → β → δ → Prop} {as : List α}
  {bs : List β} {cs : List γ} {ds : List δ}

/-- What is converted is as long as the list along which it is converted. -/
theorem Aligned.length_left (h : Aligned R as bs cs) : as.length = bs.length := by
  induction h with
  | nil => rfl
  | cons _ _ ih => exact congrArg (· + 1) ih

/-- The results are as many as the list along which they are converted. -/
theorem Aligned.length_right (h : Aligned R as bs cs) : cs.length = bs.length := by
  induction h with
  | nil => rfl
  | cons _ _ ih => exact congrArg (· + 1) ih

/-- Two conversions along the same list are one. -/
theorem aligned_comp_iff :
    (∃ cs, Aligned R as bs cs ∧ Aligned S cs bs ds) ↔
      Aligned (fun a b d => ∃ c, R a b c ∧ S c b d) as bs ds := by
  constructor
  · rintro ⟨cs, hR, hS⟩
    induction hR generalizing ds with
    | nil =>
      cases hS
      exact .nil
    | cons hd _ ih =>
      cases hS with
      | cons hd' tl' => exact .cons ⟨_, hd, hd'⟩ (ih tl')
  · intro h
    induction h with
    | nil => exact ⟨[], .nil, .nil⟩
    | cons hd _ ih =>
      obtain ⟨c, hR, hS⟩ := hd
      obtain ⟨cs, hRs, hSs⟩ := ih
      exact ⟨c :: cs, .cons hR hRs, .cons hS hSs⟩

end Aligned

section Forall₂

variable {α β : Type} {R : α → β → Prop} {as : List α} {bs : List β}

/-- What is in the second list comes from the first. -/
theorem exists_mem_of_forall₂ (h : List.Forall₂ R as bs) {b : β} (hb : b ∈ bs) :
    ∃ a ∈ as, R a b := by
  induction h with
  | nil => cases hb
  | @cons a b' as bs hab _ ih =>
    obtain rfl | hb := List.mem_cons.mp hb
    · exact ⟨a, List.mem_cons_self, hab⟩
    · obtain ⟨a', ha', hR⟩ := ih hb
      exact ⟨a', List.mem_cons_of_mem a ha', hR⟩

/-- What is the same at the same places is the same list. -/
theorem map_eq_map_of_forall₂ {γ : Type} {f : α → γ} {g : β → γ} (h : List.Forall₂ R as bs)
    (hfg : ∀ a b, R a b → f a = g b) : as.map f = bs.map g := by
  induction h with
  | nil => rfl
  | cons hab _ ih => rw [List.map_cons, List.map_cons, hfg _ _ hab, ih]

/-- Related lists agree at each place, or both end before it. -/
theorem getElem?_of_forall₂ (h : List.Forall₂ R as bs) (i : ℕ) : Option.Rel R as[i]? bs[i]? := by
  induction h generalizing i with
  | nil => exact .none
  | cons hab _ ih =>
    cases i with
    | zero => exact .some hab
    | succ i =>
      rw [List.getElem?_cons_succ, List.getElem?_cons_succ]
      exact ih i

theorem getLast?_of_forall₂ (h : List.Forall₂ R as bs) :
    Option.Rel R as.getLast? bs.getLast? := by
  rw [List.getLast?_eq_getElem?, List.getLast?_eq_getElem?, h.length_eq]
  exact getElem?_of_forall₂ h _

end Forall₂

/-! ### Computations that only fail -/

section Except

variable {ε α β : Type}

/-- A sequence goes on with the value of its first part. -/
theorem bind_of_ok {x : Except ε α} {a : α} (h : x = .ok a) (f : α → Except ε β) :
    (x >>= f) = f a := by
  rw [h]
  rfl

/-- A sequence ends with the error of its first part. -/
theorem bind_of_error {x : Except ε α} {e : ε} (h : x = .error e) (f : α → Except ε β) :
    (x >>= f) = .error e := by
  rw [h]
  rfl

/-- A sequence succeeds exactly if both parts do. -/
theorem bind_eq_ok_iff {x : Except ε α} {f : α → Except ε β} {b : β} :
    (x >>= f) = .ok b ↔ ∃ a, x = .ok a ∧ f a = .ok b := by
  cases x with
  | error e => exact ⟨fun h => (nomatch h), fun ⟨_, h, _⟩ => (nomatch h)⟩
  | ok a => exact ⟨fun h => ⟨a, rfl, h⟩, fun ⟨a', h, hf⟩ => by cases h; exact hf⟩

/-- A sequence fails where its first part does, or its second part after that. -/
theorem bind_eq_error_iff {x : Except ε α} {f : α → Except ε β} {e : ε} :
    (x >>= f) = .error e ↔ x = .error e ∨ ∃ a, x = .ok a ∧ f a = .error e := by
  cases x with
  | error e' =>
    constructor
    · intro h
      cases (h : Except.error e' = Except.error e)
      exact .inl rfl
    · rintro (h | ⟨a, h, -⟩)
      · cases h
        rfl
      · cases h
  | ok a =>
    refine ⟨fun h => .inr ⟨a, rfl, h⟩, ?_⟩
    rintro (h | ⟨a', h, hf⟩)
    · cases h
    · cases h
      exact hf

/-- A sequence returns exactly if both parts do. -/
theorem bind_returns_iff {x : Except ε α} {f : α → Except ε β} :
    (∃ b, (x >>= f) = .ok b) ↔ ∃ a, x = .ok a ∧ ∃ b, f a = .ok b := by
  simp only [bind_eq_ok_iff]
  exact ⟨fun ⟨b, a, ha, hb⟩ => ⟨a, ha, b, hb⟩, fun ⟨a, ha, b, hb⟩ => ⟨b, a, ha, hb⟩⟩

/-- Relabelling errors leaves results. -/
theorem mapError_eq_ok_iff {ε' : Type} {f : ε → ε'} {x : Except ε α} {a : α} :
    x.mapError f = .ok a ↔ x = .ok a := by
  cases x <;> simp [Except.mapError]

/-- A value made from the result does not matter to whether there is one. -/
theorem map_returns_iff {x : Except ε α} {f : α → β} :
    (∃ b, (x >>= fun a => pure (f a)) = .ok b) ↔ ∃ a, x = .ok a := by
  rw [bind_returns_iff]
  exact exists_congr fun a => and_iff_left ⟨f a, rfl⟩

/-- A value made from the result does not matter to the error. -/
theorem map_eq_error_iff {x : Except ε α} {f : α → β} {e : ε} :
    (x >>= fun a => pure (f a)) = .error e ↔ x = .error e := by
  rw [bind_eq_error_iff]
  exact or_iff_left fun ⟨_, _, h⟩ => nomatch h

/-- A loop over a list returns what its rounds return. -/
theorem mapM_eq_ok_iff {f : α → Except ε β} {as : List α} {bs : List β} :
    as.mapM f = .ok bs ↔ List.Forall₂ (fun a b => f a = .ok b) as bs := by
  induction as generalizing bs with
  | nil =>
    rw [List.mapM_nil, List.forall₂_nil_left_iff]
    exact ⟨fun h => (Except.ok.inj h).symm, fun h => congrArg Except.ok h.symm⟩
  | cons a as ih =>
    rw [List.mapM_cons, bind_eq_ok_iff, List.forall₂_cons_left_iff]
    refine exists_congr fun b => ?_
    rw [bind_eq_ok_iff]
    constructor
    · rintro ⟨hb, bs', hbs, h⟩
      exact ⟨bs', hb, ih.mp hbs, (Except.ok.inj h).symm⟩
    · rintro ⟨bs', hb, hbs, rfl⟩
      exact ⟨hb, bs', ih.mpr hbs, rfl⟩

variable {n : ℕ} {γ : Fin n → Type}

/-- A family has results when every member has one. -/
theorem collect_eq_ok_iff {f : (i : Fin n) → Except ε (γ i)} {g : (i : Fin n) → γ i} :
    collect f = .ok g ↔ ∀ i, f i = .ok (g i) := by
  induction n with
  | zero => exact ⟨fun _ i => i.elim0, fun _ => congrArg Except.ok (funext fun i => i.elim0)⟩
  | succ n ih =>
    rw [collect, bind_eq_ok_iff]
    constructor
    · rintro ⟨a, ha, h⟩
      obtain ⟨as, has, hg⟩ := bind_eq_ok_iff.mp h
      obtain rfl := Except.ok.inj hg
      exact fun i => Fin.cases ha (fun i => ih.mp has i) i
    · intro h
      refine ⟨g 0, h 0, bind_eq_ok_iff.mpr ⟨fun i => g i.succ, ih.mpr fun i => h i.succ, ?_⟩⟩
      exact congrArg _ (Fin.cons_self_tail g)

/-- All of a family is collected exactly if each of it succeeds. -/
theorem collect_returns_iff {f : (i : Fin n) → Except ε (γ i)} :
    (∃ as, collect f = .ok as) ↔ ∀ i, ∃ a, f i = .ok a := by
  constructor
  · rintro ⟨as, has⟩ i
    exact ⟨as i, collect_eq_ok_iff.mp has i⟩
  · intro h
    choose as has using h
    exact ⟨as, collect_eq_ok_iff.mpr has⟩

/-- A family fails as the first of its members that fails. -/
theorem collect_eq_error_iff {f : (i : Fin n) → Except ε (γ i)} {e : ε} :
    collect f = .error e ↔ ∃ i, f i = .error e ∧ ∀ j < i, ∃ a, f j = .ok a := by
  induction n with
  | zero => exact ⟨fun h => (nomatch h), fun ⟨i, _⟩ => i.elim0⟩
  | succ n ih =>
    rw [collect, bind_eq_error_iff]
    constructor
    · rintro (h | ⟨a, ha, h⟩)
      · exact ⟨0, h, fun j hj => absurd hj (Fin.not_lt_zero j)⟩
      · obtain h | ⟨as, -, h⟩ := bind_eq_error_iff.mp h
        · obtain ⟨i, hi, hbefore⟩ := ih.mp h
          refine ⟨i.succ, hi, fun j => Fin.cases (fun _ => ⟨a, ha⟩) (fun j hj => ?_) j⟩
          exact hbefore j (Fin.succ_lt_succ_iff.mp hj)
        · cases h
    · rintro ⟨i, hi, hbefore⟩
      induction i using Fin.cases with
      | zero => exact .inl hi
      | succ i =>
        obtain ⟨a, ha⟩ := hbefore 0 (Fin.succ_pos i)
        refine .inr ⟨a, ha, bind_eq_error_iff.mpr (.inl (ih.mpr ⟨i, hi, fun j hj => ?_⟩))⟩
        exact hbefore j.succ (Fin.succ_lt_succ_iff.mpr hj)

/-- The result of the first member of a family that succeeds. -/
def firstOk : {n : ℕ} → (Fin n → Except ε α) → Option α
  | 0, _ => none
  | _ + 1, f =>
    match f 0 with
    | .ok a => some a
    | .error _ => firstOk fun i => f i.succ

/-- The first that succeeds comes after errors only. -/
theorem firstOk_eq_some_iff {f : Fin n → Except ε α} {a : α} :
    firstOk f = some a ↔ ∃ i, f i = .ok a ∧ ∀ j < i, ∃ e, f j = .error e := by
  induction n with
  | zero => exact ⟨fun h => (nomatch h), fun ⟨i, _⟩ => i.elim0⟩
  | succ n ih =>
    rw [firstOk]
    cases h0 : f 0 with
    | ok a' =>
      constructor
      · intro h
        obtain rfl := Option.some.inj h
        exact ⟨0, h0, fun j hj => absurd hj (Fin.not_lt_zero j)⟩
      · rintro ⟨i, hi, hbefore⟩
        induction i using Fin.cases with
        | zero => exact congrArg some (Except.ok.inj (h0.symm.trans hi))
        | succ i =>
          obtain ⟨e, he⟩ := hbefore 0 (Fin.succ_pos i)
          cases h0.symm.trans he
    | error e =>
      -- the first one fails, so the others move down by one place
      refine ih.trans ⟨?_, ?_⟩
      · rintro ⟨i, hi, hbefore⟩
        refine ⟨i.succ, hi, fun j => Fin.cases (fun _ => ⟨e, h0⟩) (fun j hj => ?_) j⟩
        exact hbefore j (Fin.succ_lt_succ_iff.mp hj)
      · rintro ⟨i, hi, hbefore⟩
        induction i using Fin.cases with
        | zero => cases h0.symm.trans hi
        | succ i => exact ⟨i, hi, fun j hj => hbefore j.succ (Fin.succ_lt_succ_iff.mpr hj)⟩

/-- No member is found when every member fails. -/
theorem firstOk_eq_none_iff {f : Fin n → Except ε α} :
    firstOk f = none ↔ ∀ i, ∃ e, f i = .error e := by
  induction n with
  | zero => exact iff_of_true rfl fun i => i.elim0
  | succ n ih =>
    rw [firstOk, Fin.forall_fin_succ]
    cases h0 : f 0 with
    | ok a => exact iff_of_false (fun h => nomatch h) fun ⟨⟨_, h⟩, _⟩ => nomatch h
    | error e => exact ih.trans (and_iff_right ⟨e, rfl⟩).symm

/-- Two families that differ only where the second fails with `e` have the same results, unless
the second fails with `e`. -/
theorem collect_eq_of_ne {f g : (i : Fin n) → Except ε (γ i)} {e : ε}
    (h : ∀ i, f i = g i ∨ g i = .error e) (hne : collect g ≠ .error e) :
    collect f = collect g := by
  have hfirst : ∀ i, (∀ j < i, ∃ a, g j = .ok a) → f i = g i := fun i hbefore =>
    (h i).resolve_right fun hi => hne (collect_eq_error_iff.mpr ⟨i, hi, hbefore⟩)
  cases hg : collect g with
  | ok as =>
    have has := collect_eq_ok_iff.mp hg
    exact collect_eq_ok_iff.mpr fun i => (hfirst i fun j _ => ⟨as j, has j⟩).trans (has i)
  | error e' =>
    obtain ⟨i, hi, hbefore⟩ := collect_eq_error_iff.mp hg
    refine collect_eq_error_iff.mpr ⟨i, (hfirst i hbefore).trans hi, fun j hj => ?_⟩
    obtain ⟨a, ha⟩ := hbefore j hj
    exact ⟨a, (hfirst j fun k hk => hbefore k (hk.trans hj)).trans ha⟩

end Except

/-! ### Computations with a state -/

section State

variable {ε σ α β : Type}

/-- From state `s`, the computation returns `a` and leaves the state `s'`. -/
def Returns (x : ExceptT ε (StateM σ) α) (s : σ) (a : α) (s' : σ) : Prop :=
  x.run.run s = (.ok a, s')

/-- From state `s`, the computation returns something that satisfies `P`. -/
def Yields (x : ExceptT ε (StateM σ) α) (s : σ) (P : α → Prop) : Prop :=
  ∃ a s', Returns x s a s' ∧ P a

/-- A value is returned as it is, and the state stays. -/
theorem returns_pure_iff {a b : α} {s s' : σ} :
    Returns (pure a : ExceptT ε (StateM σ) α) s b s' ↔ a = b ∧ s = s' := by
  refine ⟨fun h => ?_, fun ⟨ha, hs⟩ => ha ▸ hs ▸ rfl⟩
  cases (h : (Except.ok a, s) = (Except.ok b, s'))
  exact ⟨rfl, rfl⟩

/-- What throws does not return. -/
theorem not_returns_throw {e : ε} {s s' : σ} {a : α} :
    ¬ Returns (throw e : ExceptT ε (StateM σ) α) s a s' :=
  fun h => nomatch (h : (Except.error e, s) = (Except.ok a, s'))

/-- A sequence runs its second part in the state that the first one leaves. -/
theorem run_bind_eq (x : ExceptT ε (StateM σ) α) (f : α → ExceptT ε (StateM σ) β) (s : σ) :
    (x >>= f).run.run s = match x.run.run s with
      | (.ok a, s') => (f a).run.run s'
      | (.error e, s') => (.error e, s') := by
  rw [ExceptT.run_bind, StateT.run_bind]
  rcases x.run.run s with ⟨e | a, s'⟩ <;> rfl

/-- A sequence returns through a result and a state of its first part. -/
theorem returns_bind_iff {x : ExceptT ε (StateM σ) α} {f : α → ExceptT ε (StateM σ) β}
    {s s'' : σ} {b : β} :
    Returns (x >>= f) s b s'' ↔ ∃ a s', Returns x s a s' ∧ Returns (f a) s' b s'' := by
  unfold Returns
  rw [run_bind_eq]
  rcases x.run.run s with ⟨e | a, s'⟩
  · exact ⟨fun h => (nomatch h), fun ⟨_, _, h, _⟩ => (nomatch h)⟩
  · exact ⟨fun h => ⟨a, s', rfl, h⟩, fun ⟨a', t, h, hf⟩ => by cases h; exact hf⟩

/-- A value made from the result is returned in the same state. -/
theorem returns_map_iff {x : ExceptT ε (StateM σ) α} {f : α → β} {s s' : σ} {b : β} :
    Returns (x >>= fun a => pure (f a)) s b s' ↔ ∃ a, Returns x s a s' ∧ f a = b := by
  rw [returns_bind_iff]
  constructor
  · rintro ⟨a, t, ha, h⟩
    obtain ⟨rfl, rfl⟩ := returns_pure_iff.mp h
    exact ⟨a, ha, rfl⟩
  · rintro ⟨a, ha, rfl⟩
    exact ⟨a, s', ha, returns_pure_iff.mpr ⟨rfl, rfl⟩⟩

/-- A value yields what holds of it. -/
theorem yields_pure_iff {a : α} {s : σ} {P : α → Prop} :
    Yields (pure a : ExceptT ε (StateM σ) α) s P ↔ P a := by
  refine ⟨?_, fun h => ⟨a, s, returns_pure_iff.mpr ⟨rfl, rfl⟩, h⟩⟩
  rintro ⟨b, s', h, hb⟩
  rwa [(returns_pure_iff.mp h).1]

/-- What throws yields nothing. -/
theorem not_yields_throw {e : ε} {s : σ} {P : α → Prop} :
    ¬ Yields (throw e : ExceptT ε (StateM σ) α) s P :=
  fun ⟨_, _, h, _⟩ => not_returns_throw h

/-- A sequence yields what its second part does, after the first one has returned. -/
theorem yields_bind_iff {x : ExceptT ε (StateM σ) α} {f : α → ExceptT ε (StateM σ) β} {s : σ}
    {P : β → Prop} :
    Yields (x >>= f) s P ↔ ∃ a s', Returns x s a s' ∧ Yields (f a) s' P := by
  constructor
  · rintro ⟨b, s'', h, hb⟩
    obtain ⟨a, s', ha, hf⟩ := returns_bind_iff.mp h
    exact ⟨a, s', ha, b, s'', hf, hb⟩
  · rintro ⟨a, s', ha, b, s'', hf, hb⟩
    exact ⟨b, s'', returns_bind_iff.mpr ⟨a, s', ha, hf⟩, hb⟩

/-- The rest of the computation says what is asked of its first result. -/
theorem yields_map_iff {x : ExceptT ε (StateM σ) α} {f : α → β} {s : σ} {P : β → Prop} :
    Yields (x >>= fun a => pure (f a)) s P ↔ Yields x s fun a => P (f a) := by
  rw [yields_bind_iff]
  exact exists₂_congr fun a s' => and_congr_right fun _ => yields_pure_iff

/-- A computation returns in one way only. -/
theorem yields_iff_of_returns {x : ExceptT ε (StateM σ) α} {s s' : σ} {a : α} {P : α → Prop}
    (h : Returns x s a s') : Yields x s P ↔ P a := by
  refine ⟨?_, fun ha => ⟨a, s', h, ha⟩⟩
  rintro ⟨b, t, hb, hPb⟩
  cases h.symm.trans hb
  exact hPb

/-- Nothing is yielded that holds of no value. -/
theorem not_yields_of_forall_not {x : ExceptT ε (StateM σ) α} {s : σ} {P : α → Prop}
    (h : ∀ a, ¬ P a) : ¬ Yields x s P :=
  fun ⟨a, _, _, ha⟩ => h a ha

/-- What is yielded depends on the values alone. -/
theorem yields_congr {x : ExceptT ε (StateM σ) α} {s : σ} {P Q : α → Prop}
    (h : ∀ a, P a ↔ Q a) : Yields x s P ↔ Yields x s Q :=
  exists₂_congr fun a _ => and_congr_right fun _ => h a

/-- There is one result, so a choice that it satisfies can be made before. -/
theorem yields_exists_iff {ι : Type} {x : ExceptT ε (StateM σ) α} {s : σ} {P : ι → α → Prop} :
    Yields x s (fun a => ∃ i, P i a) ↔ ∃ i, Yields x s (P i) := by
  constructor
  · rintro ⟨a, s', h, i, ha⟩
    exact ⟨i, a, s', h, ha⟩
  · rintro ⟨i, a, s', h, ha⟩
    exact ⟨a, s', h, i, ha⟩

/-- What does not depend on the result is taken out. -/
theorem yields_and_left_iff {x : ExceptT ε (StateM σ) α} {s : σ} {p : Prop} {P : α → Prop} :
    Yields x s (fun a => p ∧ P a) ↔ p ∧ Yields x s P := by
  constructor
  · rintro ⟨a, s', h, hp, ha⟩
    exact ⟨hp, a, s', h, ha⟩
  · rintro ⟨hp, a, s', h, ha⟩
    exact ⟨a, s', h, hp, ha⟩

/-- From some state, the computation fails with `e`. -/
def Raises (x : ExceptT ε (StateM σ) α) (e : ε) : Prop :=
  ∃ s s', x.run.run s = (.error e, s')

/-- A value raises nothing. -/
theorem not_raises_pure {a : α} {e : ε} : ¬ Raises (pure a : ExceptT ε (StateM σ) α) e := by
  rintro ⟨s, s', h⟩
  cases (h : (Except.ok a, s) = (Except.error e, s'))

/-- Only the error that is thrown is raised. -/
theorem not_raises_throw {e e' : ε} (hne : e ≠ e') :
    ¬ Raises (throw e : ExceptT ε (StateM σ) α) e' := by
  rintro ⟨s, s', h⟩
  cases (h : (Except.error e, s) = (Except.error e', s'))
  exact hne rfl

/-- A failure of two computations in a row is one of them. -/
theorem Raises.bind {x : ExceptT ε (StateM σ) α} {f : α → ExceptT ε (StateM σ) β} {e : ε}
    (h : Raises (x >>= f) e) : Raises x e ∨ ∃ a, Raises (f a) e := by
  obtain ⟨s, s'', h⟩ := h
  rw [run_bind_eq] at h
  cases hx : x.run.run s with
  | mk y s' =>
    rw [hx] at h
    cases y with
    | error e' =>
      obtain rfl := Except.error.inj (congrArg Prod.fst h)
      exact .inl ⟨s, s', hx⟩
    | ok a => exact .inr ⟨a, s', s'', h⟩

/-- A value made from the result raises nothing more. -/
theorem not_raises_map {x : ExceptT ε (StateM σ) α} {e : ε} (h : ¬ Raises x e) (f : α → β) :
    ¬ Raises (x >>= fun a => pure (f a)) e := by
  intro hraises
  obtain hx | ⟨a, ha⟩ := hraises.bind
  · exact h hx
  · exact not_raises_pure ha

variable {n : ℕ} {γ : Fin n → Type}

/-- A failure of a family is one of a member. -/
theorem not_raises_collect {f : (i : Fin n) → ExceptT ε (StateM σ) (γ i)} {e : ε}
    (h : ∀ i, ¬ Raises (f i) e) : ¬ Raises (collect f) e := by
  induction n with
  | zero => exact not_raises_pure
  | succ n ih =>
    intro hraises
    obtain h0 | ⟨a, ha⟩ := hraises.bind
    · exact h 0 h0
    · exact not_raises_map (ih fun i => h i.succ) _ ha

/-- A family whose members yield or not, whatever the state, yields when all members do. -/
theorem yields_collect_iff {f : (i : Fin n) → ExceptT ε (StateM σ) (γ i)}
    {P : (i : Fin n) → γ i → Prop} {C : Fin n → Prop}
    (h : ∀ i s, Yields (f i) s (P i) ↔ C i) (s : σ) :
    Yields (collect f) s (fun g => ∀ i, P i (g i)) ↔ ∀ i, C i := by
  induction n generalizing s with
  | zero => exact ⟨fun _ i => i.elim0, fun _ => yields_pure_iff.mpr fun i => i.elim0⟩
  | succ n ih =>
    have hrest := fun s => ih (f := fun i => f i.succ) (fun i => h i.succ) s
    rw [collect, yields_bind_iff, Fin.forall_fin_succ (P := C)]
    constructor
    · rintro ⟨a, s', ha, hr⟩
      rw [yields_map_iff] at hr
      obtain ⟨as, s'', has, hP⟩ := hr
      exact ⟨(h 0 s).mp ⟨a, s', ha, hP 0⟩, (hrest s').mp ⟨as, s'', has, fun i => hP i.succ⟩⟩
    · rintro ⟨h0, hs⟩
      obtain ⟨a, s', ha, hPa⟩ := (h 0 s).mpr h0
      obtain ⟨as, s'', has, hP⟩ := (hrest s').mpr hs
      exact ⟨a, s', ha, yields_map_iff.mpr ⟨as, s'', has, Fin.cases hPa hP⟩⟩

/-! ### Effects -/

variable {ω : Type} {act : σ → ω → σ}

/-- Where the computation returns, it leaves the state after the effects `ws`, in order. -/
def Performs (act : σ → ω → σ) (ws : List ω) (x : ExceptT ε (StateM σ) α) : Prop :=
  ∀ ⦃s a s'⦄, Returns x s a s' → s' = ws.foldl act s

/-- The effects of the members before a given one. -/
def before (ws : Fin n → List ω) (i : Fin n) : List ω :=
  ((List.ofFn ws).take i).flatten

/-- Nothing comes before the first part. -/
@[simp]
theorem before_zero (ws : Fin (n + 1) → List ω) : before ws 0 = [] := rfl

/-- Before a later part comes the first one, and what is between them. -/
@[simp]
theorem before_succ (ws : Fin (n + 1) → List ω) (i : Fin n) :
    before ws i.succ = ws 0 ++ before (fun i => ws i.succ) i := by
  simp [before, List.ofFn_succ]

/-- A part and what comes before it are within the whole. -/
theorem length_before_add_le (ws : Fin n → List ω) (i : Fin n) :
    (before ws i).length + (ws i).length ≤ (List.ofFn ws).flatten.length := by
  induction n with
  | zero => exact i.elim0
  | succ n ih =>
    rw [List.ofFn_succ, List.flatten_cons, List.length_append]
    induction i using Fin.cases with
    | zero => simp
    | succ i =>
      have hrest := ih (fun i => ws i.succ) i
      rw [before_succ, List.length_append]
      omega

/-- A value performs nothing. -/
theorem performs_pure (a : α) : Performs act [] (pure a : ExceptT ε (StateM σ) α) :=
  fun _ _ _ h => (returns_pure_iff.mp h).2.symm

/-- A sequence performs what its parts do, one after the other. -/
theorem Performs.bind {ws ws' : List ω} {x : ExceptT ε (StateM σ) α}
    {f : α → ExceptT ε (StateM σ) β} (hx : Performs act ws x)
    (hf : ∀ a, Performs act ws' (f a)) : Performs act (ws ++ ws') (x >>= f) := by
  intro s b s'' h
  obtain ⟨a, s', ha, hb⟩ := returns_bind_iff.mp h
  rw [List.foldl_append, ← hx ha]
  exact hf a hb

/-- A value made from the result performs nothing more. -/
theorem Performs.map {ws : List ω} {x : ExceptT ε (StateM σ) α} (hx : Performs act ws x)
    (g : α → β) : Performs act ws (x >>= fun a => pure (g a)) := by
  rw [← List.append_nil ws]
  exact hx.bind fun a => performs_pure (g a)

/-- A family performs the effects of its members, and each member runs after those before it. -/
theorem returns_collect {f : (i : Fin n) → ExceptT ε (StateM σ) (γ i)} {ws : Fin n → List ω}
    (hf : ∀ i, Performs act (ws i) (f i)) {s s' : σ} {g : (i : Fin n) → γ i}
    (h : Returns (collect f) s g s') :
    s' = (List.ofFn ws).flatten.foldl act s ∧
      ∀ i, ∃ t, Returns (f i) ((before ws i).foldl act s) (g i) t := by
  induction n generalizing s with
  | zero => exact ⟨(returns_pure_iff.mp h).2.symm, fun i => i.elim0⟩
  | succ n ih =>
    obtain ⟨a, t, ha, h⟩ := returns_bind_iff.mp h
    obtain ⟨as, t', has, h⟩ := returns_bind_iff.mp h
    obtain ⟨rfl, rfl⟩ := returns_pure_iff.mp h
    obtain ⟨hrest, hruns⟩ := ih (fun i => hf i.succ) has
    have ht := hf 0 ha
    refine ⟨?_, fun i => Fin.cases ⟨t, ha⟩ (fun i => ?_) i⟩
    · rw [List.ofFn_succ, List.flatten_cons, List.foldl_append, ← ht]
      exact hrest
    · rw [before_succ, List.foldl_append, ← ht]
      exact hruns i

/-- A family that is collected performs what each of it does, in order. -/
theorem Performs.collect {f : (i : Fin n) → ExceptT ε (StateM σ) (γ i)} {ws : Fin n → List ω}
    (hf : ∀ i, Performs act (ws i) (f i)) :
    Performs act (List.ofFn ws).flatten (collect f) :=
  fun _ _ _ h => (returns_collect hf h).1

end State

end Fallible
