import Foxtrot.Foundation.TransitionSystem
import Mathlib.Data.List.Induction

/-!
# Traces

The trace of a run is the list of its moves, each with the state before, the label and the state
after. Properties of the order of events are stated over it: `Awaits p q r` says that after a move
with `p` none has `q` before one in between has had `r`.

To prove it there is no need to look at the trace. A property of the states, *being blocked*, is
enough: moves with `p` lead to blocked states, moves without `r` keep them blocked, and no move with
`q` starts from one (`awaits_trace`). Towards the past, a property of a state goes back to the move
that has established it (`exists_origin`).
-/

/-- After an element with `p`, none has `q` before one in between has had `r`. -/
def Awaits {α : Type*} (p q r : α → Prop) (xs : List α) : Prop :=
  ∀ xs₁ a xs₂ b xs₃, xs = xs₁ ++ a :: (xs₂ ++ b :: xs₃) → p a → q b → ∃ c ∈ xs₂, r c

namespace TransitionSystem

variable {State Label : Type*} {M : TransitionSystem State Label}

/-- One step of a run. -/
structure Move (State Label : Type*) where
  before : State
  label : Label
  after : State

/-- The moves of a run over a list of labels, up to the first that is not enabled. -/
def trace (M : TransitionSystem State Label) : State → List Label → List (Move State Label)
  | _, [] => []
  | s, l :: ls => ((M.step s l).map fun s' => ⟨s, l, s'⟩ :: M.trace s' ls).getD []

@[simp]
theorem trace_nil (s : State) : M.trace s [] = [] := rfl

/-- An enabled step is the first move of the trace. -/
theorem trace_cons_some {s s' : State} {l : Label} (h : M.step s l = some s') (ls : List Label) :
    M.trace s (l :: ls) = ⟨s, l, s'⟩ :: M.trace s' ls := by
  rw [trace, h]
  rfl

/-- The trace ends where a step is not enabled. -/
theorem trace_cons_none {s : State} {l : Label} (h : M.step s l = none) (ls : List Label) :
    M.trace s (l :: ls) = [] := by
  rw [trace, h]
  rfl

/-- After a move of a trace, the trace goes on from the state it has led to. -/
theorem trace_split {ls : List Label} {s : State} {ms₁ ms₂ : List (Move State Label)}
    {m : Move State Label} (h : M.trace s ls = ms₁ ++ m :: ms₂) :
    M.step m.before m.label = some m.after ∧ ∃ ls', ms₂ = M.trace m.after ls' := by
  induction ls generalizing s ms₁ with
  | nil => simp at h
  | cons l ls ih =>
    obtain hnone | ⟨s', hs'⟩ := Option.eq_none_or_eq_some (M.step s l)
    · simp [trace_cons_none hnone] at h
    · rw [trace_cons_some hs'] at h
      cases ms₁ with
      | nil =>
        obtain ⟨rfl, rfl⟩ := List.cons.inj h
        exact ⟨hs', ls, rfl⟩
      | cons m₁ ms₁ => exact ih (List.cons.inj h).2

/-- The first move of a trace starts where the run does. -/
theorem before_of_trace_cons {ls : List Label} {s : State} {m : Move State Label}
    {ms : List (Move State Label)} (h : M.trace s ls = m :: ms) : m.before = s := by
  cases ls with
  | nil => cases h
  | cons l ls =>
    obtain hnone | ⟨s', hs'⟩ := Option.eq_none_or_eq_some (M.step s l)
    · rw [trace_cons_none hnone] at h
      cases h
    · rw [trace_cons_some hs'] at h
      obtain ⟨rfl, -⟩ := List.cons.inj h
      rfl

/-- The moves of a trace are steps of the system. -/
theorem step_of_mem_trace {ls : List Label} {s : State} {m : Move State Label}
    (h : m ∈ M.trace s ls) : M.step m.before m.label = some m.after := by
  obtain ⟨ms₁, ms₂, h⟩ := List.append_of_mem h
  exact (trace_split h).1

/-- The moves of a run from a reached state start in reached states. -/
theorem reachable_of_mem_trace {ls : List Label} {s : State} (hs : M.Reachable s)
    {m : Move State Label} (h : m ∈ M.trace s ls) : M.Reachable m.before := by
  induction ls generalizing s with
  | nil => simp at h
  | cons l ls ih =>
    obtain hnone | ⟨s', hs'⟩ := Option.eq_none_or_eq_some (M.step s l)
    · simp [trace_cons_none hnone] at h
    · rw [trace_cons_some hs'] at h
      rcases List.mem_cons.mp h with rfl | hrest
      · exact hs
      · exact ih (hs.step trivial hs') hrest

/-- From a blocked state on, no move has `q` before one has had `r`. -/
private theorem exists_mem_of_blocked {q r : Move State Label → Prop} {B : State → Prop}
    (hq : ∀ m : Move State Label, M.step m.before m.label = some m.after → B m.before → ¬ q m)
    (hr : ∀ m : Move State Label, M.step m.before m.label = some m.after → B m.before → ¬ r m →
      B m.after) {ls : List Label} {s : State} (hs : B s) {ms₁ ms₂ : List (Move State Label)}
    {m : Move State Label} (h : M.trace s ls = ms₁ ++ m :: ms₂) (hm : q m) : ∃ c ∈ ms₁, r c := by
  induction ls generalizing s ms₁ with
  | nil => simp at h
  | cons l ls ih =>
    obtain hnone | ⟨s', hs'⟩ := Option.eq_none_or_eq_some (M.step s l)
    · simp [trace_cons_none hnone] at h
    · rw [trace_cons_some hs'] at h
      cases ms₁ with
      | nil =>
        obtain ⟨rfl, -⟩ := List.cons.inj h
        exact absurd hm (hq _ hs' hs)
      | cons m₁ ms₁ =>
        obtain ⟨rfl, hrest⟩ := List.cons.inj h
        by_cases hm₁ : r ⟨s, l, s'⟩
        · exact ⟨_, List.mem_cons_self, hm₁⟩
        · obtain ⟨c, hc, hrc⟩ := ih (hr _ hs' hs hm₁) hrest
          exact ⟨c, List.mem_cons_of_mem _ hc, hrc⟩

/-- **Precedence rule.** A move with `p` blocks, only a move with `r` unblocks, and while blocked no
move has `q`. -/
theorem awaits_trace {p q r : Move State Label → Prop} (B : State → Prop)
    (hp : ∀ m : Move State Label, M.step m.before m.label = some m.after → p m → B m.after)
    (hq : ∀ m : Move State Label, M.step m.before m.label = some m.after → B m.before → ¬ q m)
    (hr : ∀ m : Move State Label, M.step m.before m.label = some m.after → B m.before → ¬ r m →
      B m.after) (s : State) (ls : List Label) : Awaits p q r (M.trace s ls) := by
  intro ms₁ a ms₂ b ms₃ h ha hb
  obtain ⟨hstep, ls', hrest⟩ := trace_split h
  exact exists_mem_of_blocked hq hr (hp a hstep ha) hrest.symm hb

/-- **Origin rule.** A property that does not hold initially, that only moves with `p` establish and
that no move with `r` leaves behind, goes back to a move with `p` since which none has had `r`. -/
theorem exists_origin {p r : Move State Label → Prop} (G : State → Prop) {s : State}
    (hs : ¬ G s) (hstep : ∀ m : Move State Label, M.step m.before m.label = some m.after →
      G m.after → p m ∨ G m.before ∧ ¬ r m) {ls : List Label} {ms₁ : List (Move State Label)} :
    ∀ {m : Move State Label} {ms₂ : List (Move State Label)},
      M.trace s ls = ms₁ ++ m :: ms₂ → G m.before →
        ∃ ns₁ a ns₂, ms₁ = ns₁ ++ a :: ns₂ ∧ p a ∧ ∀ c ∈ ns₂, ¬ r c := by
  induction ms₁ using List.reverseRecOn with
  | nil =>
    intro m ms₂ h hG
    rw [before_of_trace_cons h] at hG
    exact absurd hG hs
  | append_singleton ms₁ m₁ ih =>
    intro m ms₂ h hG
    rw [List.append_assoc, List.singleton_append] at h
    obtain ⟨hstep₁, ls', hrest⟩ := trace_split h
    rw [before_of_trace_cons hrest.symm] at hG
    -- the last move has established the property, or has found it
    obtain hp | ⟨hbefore, hr⟩ := hstep m₁ hstep₁ hG
    · exact ⟨ms₁, m₁, [], rfl, hp, nofun⟩
    · obtain ⟨ns₁, a, ns₂, rfl, ha, hns₂⟩ := ih h hbefore
      refine ⟨ns₁, a, ns₂ ++ [m₁], by simp, ha, fun c hc => ?_⟩
      rcases List.mem_append.mp hc with hold | hnew
      · exact hns₂ c hold
      · obtain rfl := List.mem_singleton.mp hnew
        exact hr

/-- An invariant under which the admitted moves have `P`: then all moves of a guarded run have. -/
theorem Guarded.forall_mem_trace {ok : State → Label → Prop} {P : Move State Label → Prop}
    (I : State → Prop)
    (hstep : ∀ s l s', I s → ok s l → M.step s l = some s' → I s' ∧ P ⟨s, l, s'⟩)
    {ls : List Label} {s : State} (hs : I s) (hg : M.Guarded ok s ls) :
    ∀ m ∈ M.trace s ls, P m := by
  induction ls generalizing s with
  | nil => simp
  | cons l ls ih =>
    obtain hnone | ⟨s', hs'⟩ := Option.eq_none_or_eq_some (M.step s l)
    · simp [trace_cons_none hnone]
    · obtain ⟨hI, hP⟩ := hstep s l s' hs hg.1 hs'
      rw [trace_cons_some hs', List.forall_mem_cons]
      exact ⟨hP, ih hI (hg.2 s' hs')⟩

/-- If under an invariant a label meets `ok` exactly when it is enabled and its move has `P`, then a
run meets `ok` throughout exactly when it goes through and all its moves have `P`. -/
theorem guarded_iff_forall_trace {ok : State → Label → Prop} {P : Move State Label → Prop}
    (I : State → Prop)
    (hok : ∀ s l, I s → (ok s l ↔ ∃ s', M.step s l = some s' ∧ P ⟨s, l, s'⟩))
    (hI : ∀ s l s', I s → M.step s l = some s' → P ⟨s, l, s'⟩ → I s') {ls : List Label}
    {s : State} (hs : I s) :
    M.Guarded ok s ls ↔ (M.run s ls).isSome ∧ ∀ m ∈ M.trace s ls, P m := by
  induction ls generalizing s with
  | nil => simp [Guarded]
  | cons l ls ih =>
    have hiff := hok s l hs
    obtain hnone | ⟨s', hs'⟩ := Option.eq_none_or_eq_some (M.step s l)
    · simp [Guarded, hiff, run_cons, hnone]
    · simp only [hs', Option.some.injEq, exists_eq_left'] at hiff
      simp only [Guarded, hiff, run_cons, hs', trace_cons_some hs', Option.mem_some_iff,
        forall_eq', Option.bind_some, List.forall_mem_cons]
      constructor
      · rintro ⟨hP, hg⟩
        have hrest := (ih (hI s l s' hs hs' hP)).mp hg
        exact ⟨hrest.1, hP, hrest.2⟩
      · rintro ⟨hrun, hP, hmoves⟩
        exact ⟨hP, (ih (hI s l s' hs hs' hP)).mpr ⟨hrun, hmoves⟩⟩

end TransitionSystem
