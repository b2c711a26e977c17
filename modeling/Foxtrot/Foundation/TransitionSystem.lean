import Mathlib.Algebra.GroupWithZero.Nat
import Mathlib.Order.Basic
import Mathlib.Tactic.Cases

/-!
# Transition systems with guarded runs

A `TransitionSystem` is an initial state and an executable step: `step s l` is `some s'`
when label `l` is enabled in `s`, and `none` when it is not. One definition serves the
proofs (through `ReachableWhile`) and the concrete traces (through `run`, which `decide`
evaluates).

The central notion is **reachability under a condition on the steps**: `M.ReachableWhile ok`
holds of the states reached by steps that all meet `ok`, a condition on the state before the
step and its label. Plain reachability is the case where `ok` always holds. Weakening the
condition reaches more states (`ReachableWhile.mono`), and an invariant is proved once from
its step lemma (`ReachableWhile.invariant`).

`Simulation` is the refinement notion: an abstraction function under which every step of the
concrete system either leaves the abstract state alone or is a step of the abstract system.
-/

/-- A transition system: an initial state and a guarded, executable step. -/
structure TransitionSystem (State Label : Type*) where
  /-- The initial state. -/
  init : State
  /-- The successor of a state under a label, `none` when the label is not enabled. -/
  step : State → Label → Option State

namespace TransitionSystem

variable {State Label State' Label' : Type*}

/-- The states reached from the initial one by steps that all meet `ok`. -/
inductive ReachableWhile (M : TransitionSystem State Label) (ok : State → Label → Prop) :
    State → Prop
  | init : ReachableWhile M ok M.init
  | step {s s' : State} {l : Label} (hs : ReachableWhile M ok s) (hl : ok s l)
      (h : M.step s l = some s') : ReachableWhile M ok s'

/-- The reachable states, with no condition on the steps. -/
def Reachable (M : TransitionSystem State Label) : State → Prop :=
  M.ReachableWhile fun _ _ => True

variable {M : TransitionSystem State Label} {ok ok' : State → Label → Prop}

/-- **Invariant rule.** A property of the initial state that every admitted step from a
reached state keeps holds of every reached state. -/
theorem ReachableWhile.invariant {P : State → Prop} (hinit : P M.init)
    (hstep : ∀ s l s', M.ReachableWhile ok s → P s → ok s l → M.step s l = some s' → P s')
    {s : State} (h : M.ReachableWhile ok s) : P s := by
  induction h with
  | init => exact hinit
  | step hs hl h ih => exact hstep _ _ _ hs ih hl h

/-- A weaker condition on the steps reaches at least the same states. -/
theorem ReachableWhile.mono (hok : ∀ s l, M.ReachableWhile ok s → ok s l → ok' s l)
    {s : State} (h : M.ReachableWhile ok s) : M.ReachableWhile ok' s := by
  induction h with
  | init => exact .init
  | step hs hl h ih => exact .step ih (hok _ _ hs hl) h

/-! ### Runs over a list of labels -/

/-- Replay a list of labels; `none` as soon as one of them is not enabled. -/
def run (M : TransitionSystem State Label) : State → List Label → Option State
  | s, [] => some s
  | s, l :: ls => (M.step s l).bind fun s' => M.run s' ls

@[simp]
theorem run_nil (s : State) : M.run s [] = some s := rfl

/-- Concrete traces have the parties `0` and `1` of `Fin 2`. -/
instance neZero_two : NeZero 2 := ⟨by decide⟩

/-- A run goes on from where its first step leads. -/
theorem run_cons (s : State) (l : Label) (ls : List Label) :
    M.run s (l :: ls) = (M.step s l).bind fun s' => M.run s' ls := rfl

/-- A run over one label is a step. -/
theorem run_singleton (s : State) (l : Label) : M.run s [l] = M.step s l := by
  rw [run_cons]
  cases M.step s l <;> rfl

/-- Where every label is always enabled, every list of labels can be replayed. -/
theorem exists_run (h : ∀ s l, ∃ s', M.step s l = some s') (ls : List Label) (s : State) :
    ∃ s', M.run s ls = some s' := by
  induction ls generalizing s with
  | nil => exact ⟨s, rfl⟩
  | cons l ls ih =>
    obtain ⟨s₁, h₁⟩ := h s l
    obtain ⟨s', hrun⟩ := ih s₁
    exact ⟨s', by rw [run_cons, h₁]; exact hrun⟩

/-- Every step of the replayed list meets `ok` in the state it starts from. -/
def Guarded (M : TransitionSystem State Label) (ok : State → Label → Prop) :
    State → List Label → Prop
  | _, [] => True
  | s, l :: ls => ok s l ∧ ∀ s' ∈ M.step s l, M.Guarded ok s' ls

instance Guarded.decidable (M : TransitionSystem State Label) (ok : State → Label → Prop)
    [∀ s l, Decidable (ok s l)] : ∀ (ls : List Label) (s : State), Decidable (M.Guarded ok s ls)
  | [], _ => inferInstanceAs (Decidable True)
  | l :: ls, s =>
    match h : M.step s l with
    | none => decidable_of_iff (ok s l) (by simp [Guarded, h])
    | some s' =>
      have := Guarded.decidable M ok ls s'
      decidable_of_iff (ok s l ∧ M.Guarded ok s' ls) (by simp [Guarded, h])

/-- A property that every admitted step keeps is kept by a whole guarded run. -/
theorem run_invariant {P : State → Prop}
    (hstep : ∀ s l s', P s → ok s l → M.step s l = some s' → P s') :
    ∀ (ls : List Label) {s s' : State}, P s → M.Guarded ok s ls → M.run s ls = some s' → P s'
  | [], s, s', hP, _, hrun => by
    obtain rfl : s = s' := by simpa using hrun
    exact hP
  | l :: ls, s, s', hP, hg, hrun => by
    rw [run_cons] at hrun
    obtain ⟨s₁, h₁, hrun⟩ := Option.bind_eq_some_iff.mp hrun
    exact run_invariant hstep ls (hstep _ _ _ hP hg.1 h₁) (hg.2 _ h₁) hrun

/-- A guarded run from a reached state ends in a reached state. -/
theorem ReachableWhile.run {s s' : State} {ls : List Label} (hs : M.ReachableWhile ok s)
    (hg : M.Guarded ok s ls) (hrun : M.run s ls = some s') : M.ReachableWhile ok s' :=
  run_invariant (fun _ _ _ h hl hstep => .step h hl hstep) ls hs hg hrun

/-- A run is guarded by what always holds. -/
theorem Guarded.of_forall (hok : ∀ s l, ok s l) : ∀ (ls : List Label) (s : State),
    M.Guarded ok s ls
  | [], _ => trivial
  | _ :: ls, s => ⟨hok s _, fun s' _ => Guarded.of_forall hok ls s'⟩

/-- A condition on the labels alone is a guard. -/
theorem Guarded.of_forall_mem {p : Label → Prop} : ∀ {ls : List Label} {s : State},
    (∀ l ∈ ls, p l) → M.Guarded (fun _ l => p l) s ls
  | [], _, _ => trivial
  | l :: _, _, hp => ⟨hp l List.mem_cons_self, fun _ _ =>
      Guarded.of_forall_mem fun l' hl' => hp l' (List.mem_cons_of_mem l hl')⟩

/-- Along a run, a guard on the labels alone says that all of them meet it. -/
theorem guarded_iff_forall_mem {p : Label → Prop} {ls : List Label} {s s' : State}
    (hrun : M.run s ls = some s') : M.Guarded (fun _ l => p l) s ls ↔ ∀ l ∈ ls, p l := by
  refine ⟨fun hg => ?_, Guarded.of_forall_mem⟩
  induction ls generalizing s with
  | nil => exact fun _ hl => nomatch hl
  | cons l ls ih =>
    obtain ⟨s₁, h₁, hrest⟩ := Option.bind_eq_some_iff.mp hrun
    exact List.forall_mem_cons.mpr ⟨hg.1, ih hrest (hg.2 s₁ h₁)⟩

/-- A condition on the labels alone can be added to a guard. -/
theorem Guarded.and_mem {p : Label → Prop} : ∀ {ls : List Label} {s : State},
    M.Guarded ok s ls → (∀ l ∈ ls, p l) → M.Guarded (fun s l => ok s l ∧ p l) s ls
  | [], _, _, _ => trivial
  | l :: _, _, hg, hp => ⟨⟨hg.1, hp l List.mem_cons_self⟩, fun s' hs' =>
      (hg.2 s' hs').and_mem fun l' hl' => hp l' (List.mem_cons_of_mem l hl')⟩

/-- The end of a run from the initial state is reachable. -/
theorem reachable_of_run {s : State} {ls : List Label} (hrun : M.run M.init ls = some s) :
    M.Reachable s :=
  ReachableWhile.init.run (Guarded.of_forall (fun _ _ => trivial) ls M.init) hrun

/-- If a step from a reached state leads to `P` exactly from `P` and with `ok`, then a run from the
initial state ends in `P` exactly if every step of it meets `ok`. -/
theorem run_iff_guarded {P : State → Prop} (hinit : P M.init)
    (hstep : ∀ s l s', M.Reachable s → M.step s l = some s' → (P s' ↔ P s ∧ ok s l))
    {ls : List Label} {s : State} (hrun : M.run M.init ls = some s) :
    P s ↔ M.Guarded ok M.init ls := by
  have hrest : ∀ {ls : List Label} {s s' : State}, M.Reachable s → M.run s ls = some s' →
      (P s' ↔ P s ∧ M.Guarded ok s ls) := by
    intro ls
    induction ls with
    | nil =>
      rintro s s' - hrun
      obtain rfl : s = s' := by simpa using hrun
      exact (and_iff_left trivial).symm
    | cons l ls ih =>
      intro s s' hs hrun
      rw [run_cons] at hrun
      obtain ⟨s₁, h₁, hrun⟩ := Option.bind_eq_some_iff.mp hrun
      rw [ih (hs.step trivial h₁) hrun, hstep s l s₁ hs h₁, and_assoc]
      exact and_congr_right fun _ => and_congr_right fun _ => by simp [h₁]
  rw [hrest .init hrun, and_iff_right hinit]

/-- If a step from a reached state with `P` leads to `P` exactly with `ok`, then `P` holds in every
state along a run from the initial state exactly if every step of it meets `ok`. -/
theorem forall_prefix_iff_guarded {P : State → Prop} (hinit : P M.init)
    (hstep : ∀ s l s', M.Reachable s → P s → M.step s l = some s' → (P s' ↔ ok s l))
    {ls : List Label} {s : State} (hrun : M.run M.init ls = some s) :
    (∀ earlier s', earlier <+: ls → M.run M.init earlier = some s' → P s') ↔
      M.Guarded ok M.init ls := by
  -- from any reachable state with `P`, by induction on what is left of the run
  have hrest : ∀ {ls : List Label} {s s' : State}, M.Reachable s → P s → M.run s ls = some s' →
      ((∀ earlier s', earlier <+: ls → M.run s earlier = some s' → P s') ↔
        M.Guarded ok s ls) := by
    intro ls
    induction ls with
    | nil =>
      rintro s - - hP -
      refine iff_of_true (fun earlier s' hprefix hrun => ?_) trivial
      rw [List.prefix_nil.mp hprefix] at hrun
      exact Option.some.inj hrun ▸ hP
    | cons l ls ih =>
      intro s s' hs hP hrun
      rw [run_cons] at hrun
      obtain ⟨s₁, h₁, hrun⟩ := Option.bind_eq_some_iff.mp hrun
      have hs₁ : M.Reachable s₁ := hs.step trivial h₁
      constructor
      · intro h
        have hP₁ : P s₁ := h [l] s₁ (by simp) ((run_singleton s l).trans h₁)
        refine ⟨(hstep s l s₁ hs hP h₁).mp hP₁, fun s₂ h₂ => ?_⟩
        obtain rfl := Option.some.inj (h₁.symm.trans h₂)
        refine (ih hs₁ hP₁ hrun).mp fun earlier s₂ hprefix hearlier => ?_
        refine h (l :: earlier) s₂ (by simpa using hprefix) ?_
        rw [run_cons, h₁]
        exact hearlier
      · rintro ⟨hok, hguarded⟩ earlier s₂ hprefix hearlier
        obtain rfl | ⟨earlier, rfl, htail⟩ := List.prefix_cons_iff.mp hprefix
        · exact Option.some.inj hearlier ▸ hP
        · rw [run_cons, h₁] at hearlier
          have hP₁ : P s₁ := (hstep s l s₁ hs hP h₁).mpr hok
          exact (ih hs₁ hP₁ hrun).mpr (hguarded s₁ h₁) earlier s₂ htail hearlier
  exact hrest .init hinit hrun

/-! ### Refinement -/

/-- A **simulation** of `M` (under `ok`) by `N` (under `okN`): an abstraction function under
which every admitted step of `M`, from a reached state, is invisible or an admitted step of
`N`. -/
structure Simulation (M : TransitionSystem State Label) (ok : State → Label → Prop)
    (N : TransitionSystem State' Label') (okN : State' → Label' → Prop) where
  /-- The abstraction function. -/
  abs : State → State'
  abs_init : abs M.init = N.init
  abs_step : ∀ s l s', M.ReachableWhile ok s → ok s l → M.step s l = some s' →
    abs s' = abs s ∨ ∃ l', okN (abs s) l' ∧ N.step (abs s) l' = some (abs s')

/-- Reached states of the concrete system abstract to reached states of the abstract one. -/
theorem Simulation.reachableWhile {N : TransitionSystem State' Label'}
    {okN : State' → Label' → Prop} (sim : Simulation M ok N okN) {s : State}
    (h : M.ReachableWhile ok s) : N.ReachableWhile okN (sim.abs s) := by
  induction h with
  | init => rw [sim.abs_init]; exact .init
  | step hs hl h ih =>
    obtain heq | ⟨l', hl', hstep⟩ := sim.abs_step _ _ _ hs hl h
    · rwa [heq]
    · exact .step ih hl' hstep

end TransitionSystem
