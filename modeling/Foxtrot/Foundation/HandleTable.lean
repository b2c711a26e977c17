import Mathlib.Logic.Function.Basic
import Mathlib.Tactic.Cases

/-!
# Tables of handles

A table keeps values for its clients: adding a value returns a handle, by which it is looked up,
taken out or dropped. What a table has to answer is a matter of its history alone: `stored hist`
is what the calls so far have put under each handle, and a history is `Faithful` if every answer
is the one that a finite map gives, and no handle is given out while it is live.

In a faithful history a value stays under its handle until that is popped or dropped
(`Faithful.stored_of_add`), whatever else is called. How a value looks when it is returned is left
open (`ret`).
-/

namespace HandleTable

variable {κ α β : Type*}

/-- A call on a table of handles. -/
inductive Call (κ α : Type*) where
  | add (a : α)
  | lookup (h : κ)
  | pop (h : κ)
  | drop (h : κ)

/-- The answer to a call. -/
inductive Answer (κ β : Type*) where
  | handle (h : κ)
  | value (b : β)
  | done
  | failed
  deriving DecidableEq

/-- Calls with their answers, the latest first. -/
abbrev History (κ α β : Type*) := List (Call κ α × Answer κ β)

variable [DecidableEq κ]

/-- What a call changes of what is stored. -/
def record (stored : κ → Option α) : Call κ α → Answer κ β → κ → Option α
  | .add a, .handle h => Function.update stored h (some a)
  | .pop h, _ | .drop h, _ => Function.update stored h none
  | _, _ => stored

/-- What the calls so far have put under each handle. -/
def stored : History κ α β → κ → Option α
  | [] => fun _ => none
  | (call, answer) :: hist => record (stored hist) call answer

/-- The answers of a finite map that gives out fresh handles. -/
def Right (ret : α → β) (stored : κ → Option α) : Call κ α → Answer κ β → Prop
  | .add _, .handle h => stored h = none
  | .add _, _ => False
  | .lookup h, answer | .pop h, answer =>
    answer = (stored h).elim .failed fun a => .value (ret a)
  | .drop h, answer => answer = (stored h).elim .failed fun _ => .done

/-- Every answer is right for what was stored before the call. -/
def Faithful (ret : α → β) : History κ α β → Prop
  | [] => True
  | (call, answer) :: hist => Faithful ret hist ∧ Right ret (stored hist) call answer

variable {ret : α → β} {call : Call κ α} {answer : Answer κ β} {hist later : History κ α β}
  {h : κ} {a : α}

/-- A right answer leaves a live handle alone, unless the call takes it out. -/
theorem record_of_right (hright : Right ret (stored hist) call answer)
    (hlive : stored hist h = some a) (hpop : call ≠ .pop h) (hdrop : call ≠ .drop h) :
    record (stored hist) call answer h = some a := by
  cases call with
  | add a' =>
    cases answer with
    | handle h' =>
      -- the handle that was given out was not live
      have hne : h ≠ h' := by
        rintro rfl
        rw [Right, hlive] at hright
        cases hright
      rw [record, Function.update_of_ne hne]
      exact hlive
    | value b | done | failed => exact hright.elim
  | lookup h' => exact hlive
  | pop h' =>
    have hne : h ≠ h' := fun heq => hpop (heq ▸ rfl)
    rw [record, Function.update_of_ne hne]
    exact hlive
  | drop h' =>
    have hne : h ≠ h' := fun heq => hdrop (heq ▸ rfl)
    rw [record, Function.update_of_ne hne]
    exact hlive

/-- **A value stays under its handle** until that is popped or dropped. -/
theorem Faithful.stored_of_add (hfaith : Faithful ret (later ++ (.add a, .handle h) :: hist))
    (hpop : ∀ e ∈ later, e.1 ≠ .pop h) (hdrop : ∀ e ∈ later, e.1 ≠ .drop h) :
    stored (later ++ (.add a, .handle h) :: hist) h = some a := by
  induction later with
  | nil => exact Function.update_self h (some a) (stored hist)
  | cons e later ih =>
    obtain ⟨call, answer⟩ := e
    obtain ⟨hrest, hright⟩ := hfaith
    refine record_of_right hright (ih hrest ?_ ?_) ?_ ?_
    · exact fun e he => hpop e (List.mem_cons_of_mem _ he)
    · exact fun e he => hdrop e (List.mem_cons_of_mem _ he)
    · exact hpop _ List.mem_cons_self
    · exact hdrop _ List.mem_cons_self

end HandleTable
