import Mathlib.Data.List.Basic

/-!
# Periods of a signal

A list of items in time is cut by a signal (`high`) into periods during which it is high and periods
during which it is not. If exactly the items are marked with which the signal becomes high
(`MarksEdges`), then each maximal period during which it is high has exactly one marked item
(`MarksEdges.oncePerPeriod`).
-/

namespace Periods

variable {α : Type*} (high marked : α → Bool)

/-- The signal is high at the end. -/
def endsHigh (xs : List α) : Bool := xs.getLast?.any high

/-- An item is marked exactly if the signal is high and has not been so before. -/
def MarksEdges (xs : List α) : Prop :=
  ∀ front x back, xs = front ++ x :: back → marked x = (high x && !endsHigh high front)

/-- The part between `front` and `back` is a maximal period during which the signal is high. -/
structure IsPeriod (front period back : List α) : Prop where
  ne_nil : period ≠ []
  during : ∀ x ∈ period, high x
  before : endsHigh high front = false
  after : ∀ x ∈ back.head?, high x = false

/-- **Each maximal period has exactly one mark.** -/
def OncePerPeriod (xs : List α) : Prop :=
  ∀ front period back, xs = front ++ (period ++ back) → IsPeriod high front period back →
    (period.filter marked).length = 1

variable {high marked} {xs : List α} {x : α}

/-- The last one says whether the signal ends high. -/
@[simp]
theorem endsHigh_concat : endsHigh high (xs ++ [x]) = high x := by
  simp [endsHigh]

/-- A signal that ends high has been high. -/
theorem exists_of_endsHigh (h : endsHigh high xs = true) : ∃ x ∈ xs, high x = true := by
  obtain ⟨x, hx, hhigh⟩ := (Option.any_eq_true _ _).mp h
  exact ⟨x, List.mem_of_getLast? hx, hhigh⟩

/-- Without a signal there is no edge. -/
theorem marksEdges_nil : MarksEdges high marked [] := by
  intro front x back h
  simp at h

/-- Another item is marked if it is an edge. -/
theorem MarksEdges.concat (h : MarksEdges high marked xs)
    (hx : marked x = (high x && !endsHigh high xs)) : MarksEdges high marked (xs ++ [x]) := by
  intro front y back heq
  rcases List.eq_nil_or_concat back with rfl | ⟨back, z, rfl⟩
  · obtain ⟨rfl, hlast⟩ := List.append_inj' heq rfl
    obtain rfl := List.singleton_inj.mp hlast
    exact hx
  · rw [List.concat_eq_append, ← List.cons_append, ← List.append_assoc] at heq
    exact h front y back (List.append_inj' heq rfl).1

/-- **Marked edges are one for each period.** -/
theorem MarksEdges.oncePerPeriod (h : MarksEdges high marked xs) :
    OncePerPeriod high marked xs := by
  rintro front (_ | ⟨x, period⟩) back rfl hperiod
  · exact absurd rfl hperiod.ne_nil
  have hfirst : marked x = true := by
    rw [h front x (period ++ back) rfl, hperiod.during x List.mem_cons_self, hperiod.before]
    rfl
  -- behind the first item of the period, the signal has been high before
  have hrest : ∀ y ∈ period, marked y = false := by
    intro y hy
    obtain ⟨before, after, rfl⟩ := List.append_of_mem hy
    have hends : endsHigh high (front ++ x :: before) = true := by
      rcases List.eq_nil_or_concat before with rfl | ⟨before, z, rfl⟩
      · rw [endsHigh_concat]
        exact hperiod.during x List.mem_cons_self
      · rw [List.concat_eq_append, ← List.cons_append, ← List.append_assoc, endsHigh_concat]
        exact hperiod.during z (by simp)
    rw [h (front ++ x :: before) y (after ++ back) (by simp), hends, Bool.not_true, Bool.and_false]
  rw [List.filter_cons_of_pos hfirst, List.filter_eq_nil_iff.mpr fun y hy => by simp [hrest y hy]]
  rfl

end Periods
