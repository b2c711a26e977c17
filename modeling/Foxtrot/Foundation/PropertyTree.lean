import Mathlib.Data.List.Basic

/-!
# Property trees

A property tree is a tree of data whose children are an ordered list of named subtrees; names may
repeat, and a name stands for the first child that has it. Nodes are addressed by **paths**, written
as text with a separator. A path that ends with the separator is not the path without it: looking it
up leads to the same node (`walk`), but no node can be added under it (`putChild` fails).

`put` sets the data of a node, which it adds with the nodes on the way if it is not there. It is
specified by recursion on the path (`put_single`, `put_step`), as an update of the first child of a
name or an addition at the end (`List.upsertM`). A value is read back where it has been put, and
other values of its depth stay (`exists_put`). `NamedBy` says what names there are at each depth,
which `put` extends by the names of its path only (`NamedBy.put`).
-/

namespace List

variable {κ β γ ε : Type*} [DecidableEq κ]

/-- Update the first value under a key, or add one at the end. -/
def upsert (k : κ) (f : Option β → β) : List (κ × β) → List (κ × β)
  | [] => [(k, f none)]
  | (k', b) :: l => if k' = k then (k', f (some b)) :: l else (k', b) :: upsert k f l

/-- `upsert` with an update that can fail. -/
def upsertM (k : κ) (f : Option β → Except ε β) : List (κ × β) → Except ε (List (κ × β))
  | [] => (f none).map fun b => [(k, b)]
  | (k', b) :: l =>
    if k' = k then (f (some b)).map fun b' => (k', b') :: l
    else (upsertM k f l).map fun l' => (k', b) :: l'

/-- The first entry of a list is found under its own key only. -/
theorem lookup_cons_ite (k k' : κ) (b : β) (l : List (κ × β)) :
    ((k', b) :: l).lookup k = if k = k' then some b else l.lookup k := by
  rw [lookup_cons]
  by_cases h : k = k'
  · simp [h]
  · simp [h, beq_false_of_ne h]

/-- What is under a key changes with an update of this key only. -/
theorem lookup_upsert (k k' : κ) (f : Option β → β) (l : List (κ × β)) :
    (l.upsert k f).lookup k' = if k' = k then some (f (l.lookup k)) else l.lookup k' := by
  induction l with
  | nil => simp [upsert, lookup_cons_ite]
  | cons e l ih =>
    obtain ⟨k₁, b⟩ := e
    rw [upsert]
    by_cases h₁ : k₁ = k
    · subst h₁
      simp only [if_true, lookup_cons_ite]
      by_cases h : k' = k₁ <;> simp [h]
    · simp only [h₁, if_false, lookup_cons_ite, ih]
      by_cases h : k' = k
      · subst h
        simp [Ne.symm h₁]
      · simp [h]

/-- An update that leaves a value as it is. -/
theorem upsert_eq_self {k : κ} {f : Option β → β} {l : List (κ × β)} {b : β}
    (hl : l.lookup k = some b) (hf : f (some b) = b) : l.upsert k f = l := by
  induction l with
  | nil => simp at hl
  | cons e l ih =>
    obtain ⟨k₁, b₁⟩ := e
    rw [lookup_cons_ite] at hl
    rw [upsert]
    by_cases h₁ : k₁ = k
    · subst h₁
      obtain rfl : b₁ = b := by simpa using hl
      simp [hf]
    · rw [if_neg (Ne.symm h₁)] at hl
      rw [if_neg h₁, ih hl]

/-- Two updates under one key are one. -/
theorem upsert_upsert (k : κ) (f g : Option β → β) (l : List (κ × β)) :
    (l.upsert k f).upsert k g = l.upsert k fun o => g (some (f o)) := by
  induction l with
  | nil => simp [upsert]
  | cons e l ih =>
    obtain ⟨k₁, b⟩ := e
    by_cases h : k₁ = k
    · simp [upsert, h]
    · simp [upsert, h, ih]

/-- Every pair of an updated list is an old one or has the key and an updated value. -/
theorem forall_mem_upsert {p : κ × β → Prop} {k : κ} {f : Option β → β} {l : List (κ × β)}
    (hl : ∀ e ∈ l, p e) (hf : ∀ o, (∀ b ∈ o, p (k, b)) → p (k, f o)) : ∀ e ∈ l.upsert k f, p e := by
  induction l with
  | nil => simpa [upsert] using hf none nofun
  | cons e l ih =>
    obtain ⟨k₁, b⟩ := e
    have hrest : ∀ e ∈ l, p e := fun e he => hl e (mem_cons_of_mem _ he)
    rw [upsert]
    split
    · next hk =>
      subst hk
      refine forall_mem_cons.mpr ⟨hf (some b) ?_, hrest⟩
      rintro _ ⟨⟩
      exact hl _ mem_cons_self
    · exact forall_mem_cons.mpr ⟨hl _ mem_cons_self, ih hrest⟩

/-- An update keeps the keys apart. -/
theorem nodup_upsert {k : κ} {f : Option β → β} {l : List (κ × β)} (h : (l.map Prod.fst).Nodup) :
    ((l.upsert k f).map Prod.fst).Nodup := by
  induction l with
  | nil => simp [upsert]
  | cons e l ih =>
    obtain ⟨k₁, b⟩ := e
    rw [map_cons, nodup_cons] at h
    rw [upsert]
    split
    · exact nodup_cons.mpr h
    · next hk =>
      refine nodup_cons.mpr ⟨?_, ih h.2⟩
      have hkeys : ∀ e ∈ l.upsert k f, e.1 ≠ k₁ :=
        forall_mem_upsert (fun e he heq => h.1 (mem_map.mpr ⟨e, he, heq⟩)) fun _ _ => Ne.symm hk
      intro hmem
      obtain ⟨e, he, heq⟩ := mem_map.mp hmem
      exact hkeys e he heq

/-- With distinct keys, membership and lookup say the same. -/
theorem mem_iff_lookup {l : List (κ × β)} (h : (l.map Prod.fst).Nodup) {k : κ} {b : β} :
    (k, b) ∈ l ↔ l.lookup k = some b := by
  induction l with
  | nil => simp
  | cons e l ih =>
    obtain ⟨k₁, b₁⟩ := e
    rw [map_cons, nodup_cons] at h
    rw [lookup_cons_ite, mem_cons, ih h.2, Prod.mk.injEq]
    by_cases hk : k = k₁
    · subst hk
      have hnone : l.lookup k ≠ some b := fun hsome =>
        h.1 (mem_map.mpr ⟨_, (ih h.2).mpr hsome, rfl⟩)
      simp [hnone, eq_comm]
    · simp [hk]

/-- An update of the images of values, where it acts as the image of an update. -/
theorem upsertM_map {g : β → γ} {F : Option γ → Except ε γ} {f : Option β → β} {k : κ}
    {l : List (κ × β)} (h : F ((l.lookup k).map g) = .ok (g (f (l.lookup k)))) :
    (l.map (Prod.map id g)).upsertM k F = .ok ((l.upsert k f).map (Prod.map id g)) := by
  induction l with
  | nil =>
    have hnone : F none = .ok (g (f none)) := h
    simp [upsertM, upsert, hnone, Except.map]
  | cons e l ih =>
    obtain ⟨k₁, b⟩ := e
    rw [lookup_cons_ite] at h
    by_cases h₁ : k₁ = k
    · subst h₁
      have hsome : F (some (g b)) = .ok (g (f (some b))) := by simpa using h
      simp [upsertM, upsert, hsome, Except.map]
    · rw [if_neg (Ne.symm h₁)] at h
      simp [upsertM, upsert, h₁, ih h, Except.map]

/-- A change of all the values is a change of each that is found. -/
theorem lookup_map {g : β → γ} (k : κ) (l : List (κ × β)) :
    (l.map (Prod.map id g)).lookup k = (l.lookup k).map g := by
  induction l with
  | nil => rfl
  | cons e l ih =>
    obtain ⟨k₁, b⟩ := e
    rw [map_cons, Prod.map_apply, lookup_cons_ite, lookup_cons_ite, ih]
    by_cases h : k = k₁ <;> simp [h]

/-- Only what the update does to the value that is there matters. -/
theorem upsertM_congr {k : κ} {f f' : Option β → Except ε β} {l : List (κ × β)}
    (h : f (l.lookup k) = f' (l.lookup k)) : l.upsertM k f = l.upsertM k f' := by
  induction l with
  | nil =>
    have hnone : f none = f' none := h
    rw [upsertM, upsertM, hnone]
  | cons e l ih =>
    obtain ⟨k₁, b⟩ := e
    rw [lookup_cons_ite] at h
    rw [upsertM, upsertM]
    by_cases hk : k₁ = k
    · rw [if_pos hk.symm] at h
      rw [if_pos hk, if_pos hk, h]
    · rw [if_neg (Ne.symm hk)] at h
      rw [if_neg hk, if_neg hk, ih h]

/-- Every pair of an updated list is an old one or has the key and an updated value. -/
theorem forall_mem_of_upsertM {p : κ × β → Prop} {k : κ} {f : Option β → Except ε β}
    {l l' : List (κ × β)} (h : l.upsertM k f = .ok l') (hl : ∀ e ∈ l, p e)
    (hf : ∀ o b, (∀ b' ∈ o, p (k, b')) → f o = .ok b → p (k, b)) : ∀ e ∈ l', p e := by
  induction l generalizing l' with
  | nil =>
    rw [upsertM] at h
    cases hb : f none with
    | error e => simp [hb, Except.map] at h
    | ok b =>
      obtain rfl : [(k, b)] = l' := by simpa [hb, Except.map] using h
      simpa using hf none b nofun hb
  | cons e l ih =>
    obtain ⟨k₁, b₁⟩ := e
    have hrest : ∀ e ∈ l, p e := fun e he => hl e (mem_cons_of_mem _ he)
    rw [upsertM] at h
    split at h
    · next hk =>
      subst hk
      cases hb : f (some b₁) with
      | error e => simp [hb, Except.map] at h
      | ok b =>
        obtain rfl : (k₁, b) :: l = l' := by simpa [hb, Except.map] using h
        refine forall_mem_cons.mpr ⟨hf (some b₁) b ?_ hb, hrest⟩
        -- the value that is updated was one of the list
        rintro _ ⟨⟩
        exact hl _ mem_cons_self
    · cases hu : l.upsertM k f with
      | error e => simp [hu, Except.map] at h
      | ok l₁ =>
        obtain rfl : (k₁, b₁) :: l₁ = l' := by simpa [hu, Except.map] using h
        exact forall_mem_cons.mpr ⟨hl _ mem_cons_self, ih hu hrest⟩

end List

/-- A tree of data with named children. -/
inductive PropertyTree (κ δ : Type*) where
  | node (data : δ) (children : List (κ × PropertyTree κ δ))

/-- A path in a property tree, as it is read from text. -/
inductive PropertyPath (κ : Type*) where
  /-- Nothing is left of the path. -/
  | done
  /-- A name with no separator after it. -/
  | single (name : κ)
  /-- A name with a separator after it. -/
  | step (name : κ) (rest : PropertyPath κ)
  deriving DecidableEq

/-- How an operation on a property tree fails. -/
inductive PropertyError where
  /-- There is no such node. -/
  | badPath (path : String)
  /-- The data of the node are not of the type asked for. -/
  | badData (type : String)
  /-- An assertion: a child cannot be put at an empty path. -/
  | emptyPath
  deriving DecidableEq

namespace PropertyTree

variable {κ δ : Type*}

def data : PropertyTree κ δ → δ
  | node data _ => data

def children : PropertyTree κ δ → List (κ × PropertyTree κ δ)
  | node _ children => children

/-- A tree of data alone. -/
def leaf (data : δ) : PropertyTree κ δ := node data []

def setData (t : PropertyTree κ δ) (data : δ) : PropertyTree κ δ := node data t.children

@[simp]
theorem children_node (data : δ) (children : List (κ × PropertyTree κ δ)) :
    (node data children).children = children := rfl

@[simp]
theorem data_node (data : δ) (children : List (κ × PropertyTree κ δ)) :
    (node data children).data = data := rfl

variable [DecidableEq κ]

/-- The first child of a name. -/
def find (t : PropertyTree κ δ) (name : κ) : Option (PropertyTree κ δ) := t.children.lookup name

/-- The node at a path. -/
def walk : PropertyPath κ → PropertyTree κ δ → Option (PropertyTree κ δ)
  | .done, t => some t
  | .single name, t => t.find name
  | .step name rest, t => (t.find name).bind (walk rest)

/-- Update the first child of a name, or add one. -/
def upsert (t : PropertyTree κ δ) (name : κ)
    (f : Option (PropertyTree κ δ) → Except PropertyError (PropertyTree κ δ)) :
    Except PropertyError (PropertyTree κ δ) :=
  (t.children.upsertM name f).map (node t.data)

/-- Replace the data of the node at a path, which is there. -/
def putValue (value : δ) :
    PropertyPath κ → PropertyTree κ δ → Except PropertyError (PropertyTree κ δ)
  | .done, t => .ok (t.setData value)
  | .single name, t => t.upsert name fun c =>
    (c.map fun c => .ok (c.setData value)).getD (.error .emptyPath)
  | .step name rest, t => t.upsert name fun c =>
    (c.map (putValue value rest)).getD (.error .emptyPath)

variable [Inhabited δ]

/-- The empty tree. -/
def empty : PropertyTree κ δ := leaf default

/-- Put a child at a path, with the nodes on the way that are not there. -/
def putChild (child : PropertyTree κ δ) :
    PropertyPath κ → PropertyTree κ δ → Except PropertyError (PropertyTree κ δ)
  | .done, _ => .error .emptyPath
  | .single name, t => t.upsert name fun _ => .ok child
  | .step name rest, t => t.upsert name fun c => putChild child rest (c.getD empty)

/-- Set the data of the node at a path, which is added if it is not there. -/
def put (path : PropertyPath κ) (value : δ) (t : PropertyTree κ δ) :
    Except PropertyError (PropertyTree κ δ) :=
  if (t.walk path).isSome then putValue value path t else putChild (leaf value) path t

/-! ### Putting a value, by recursion on the path -/

/-- At the end of a path the value is set, or a leaf is added with it. -/
theorem put_single (name : κ) (value : δ) (t : PropertyTree κ δ) :
    t.put (.single name) value =
      t.upsert name fun c => .ok ((c.map (·.setData value)).getD (leaf value)) := by
  rw [put, walk, find, upsert]
  cases hfind : t.children.lookup name with
  | none =>
    rw [if_neg (by simp), putChild, upsert, List.upsertM_congr]
    rw [hfind]
    rfl
  | some c =>
    rw [if_pos (by simp), putValue, upsert, List.upsertM_congr]
    rw [hfind]
    rfl

/-- An empty tree has nothing under a name. -/
theorem walk_empty {path : PropertyPath κ} (h : path ≠ .done) :
    (empty : PropertyTree κ δ).walk path = none := by
  cases path with
  | done => exact absurd rfl h
  | single | step => rfl

/-- On the way a child is changed, or an empty one is added for the rest of the path. -/
theorem put_step {rest : PropertyPath κ} (hrest : rest ≠ .done) (name : κ) (value : δ)
    (t : PropertyTree κ δ) :
    t.put (.step name rest) value = t.upsert name fun c => put rest value (c.getD empty) := by
  rw [put, walk, find, upsert]
  cases hfind : t.children.lookup name with
  | none =>
    rw [if_neg (by simp), putChild, upsert, List.upsertM_congr]
    rw [hfind, Option.getD_none, put, walk_empty hrest]
    rfl
  | some c =>
    rw [Option.bind_some]
    split
    · next hwalk =>
      rw [putValue, upsert, List.upsertM_congr]
      rw [hfind, Option.getD_some, put, if_pos hwalk]
      rfl
    · next hwalk =>
      rw [putChild, upsert, List.upsertM_congr]
      rw [hfind, Option.getD_some, put, if_neg hwalk]

end PropertyTree

/-! ### What is read after a value has been put -/

/-- The path of names, with no separator after the last. -/
def PropertyPath.ofNames {κ : Type*} (names : List κ) (name : κ) : PropertyPath κ :=
  names.foldr .step (.single name)

/-- A path of names has at least one. -/
theorem PropertyPath.ofNames_ne_done {κ : Type*} (names : List κ) (name : κ) :
    ofNames names name ≠ .done := by
  intro h
  cases names <;> cases h

namespace PropertyTree

variable {κ δ : Type*} [DecidableEq κ] [Inhabited δ]

omit [Inhabited δ] in
/-- An update that does not fail. -/
theorem upsert_of_ok {t c : PropertyTree κ δ} {name : κ}
    {f : Option (PropertyTree κ δ) → Except PropertyError (PropertyTree κ δ)}
    (h : f (t.find name) = .ok c) :
    t.upsert name f = .ok (node t.data (t.children.upsert name fun _ => c)) := by
  have hmap := List.upsertM_map (g := id) (f := fun _ => c) (l := t.children)
    (by rw [Option.map_id_apply]; exact h)
  simp only [Prod.map_id, List.map_id] at hmap
  rw [upsert, hmap]
  rfl

/-- **A value that is put at a path is read there, and other values at its depth stay.** -/
theorem exists_put (names : List κ) (name : κ) (value : δ) (t : PropertyTree κ δ) :
    ∃ t', t.put (.ofNames names name) value = .ok t' ∧
      ∀ names' name', names'.length = names.length →
        (t'.walk (.ofNames names' name')).map data =
          if names' = names ∧ name' = name then some value
          else (t.walk (.ofNames names' name')).map data := by
  induction names generalizing t with
  | nil =>
    refine ⟨_, (put_single name value t).trans (upsert_of_ok rfl), fun names' name' hlength => ?_⟩
    obtain rfl := List.eq_nil_of_length_eq_zero hlength
    simp only [PropertyPath.ofNames, List.foldr_nil, walk, find, children_node, List.lookup_upsert]
    by_cases hname : name' = name
    · simp only [hname, if_true, true_and, Option.map_some]
      cases t.children.lookup name <;> rfl
    · simp [hname]
  | cons m names ih =>
    obtain ⟨c, hput, hread⟩ := ih ((t.find m).getD empty)
    refine ⟨_, (put_step (PropertyPath.ofNames_ne_done names name) m value t).trans
      (upsert_of_ok hput), fun names' name' hlength => ?_⟩
    cases names' with
    | nil => cases hlength
    | cons m' names' =>
      have hread' := hread names' name' (Nat.succ_inj.mp hlength)
      simp only [PropertyPath.ofNames, List.foldr_cons, walk, find, children_node,
        List.lookup_upsert, List.cons.injEq, and_assoc] at hread' ⊢
      by_cases hm : m' = m
      · subst hm
        simp only [if_true, Option.bind_some, hread', true_and]
        -- below a node that is added nothing was there
        have hrest := PropertyPath.ofNames_ne_done names' name'
        cases t.children.lookup m' with
        | none => exact congrArg (ite _ _) (congrArg (Option.map data) (walk_empty hrest))
        | some c => rfl
      · rw [if_neg hm, if_neg fun h => hm h.1]

end PropertyTree

/-! ### The names in a tree -/

/-- The names of a path, from depth `n` on, have the property. -/
def PropertyPath.NamedBy {κ : Type*} (p : ℕ → κ → Prop) : ℕ → PropertyPath κ → Prop
  | _, .done => True
  | n, .single name => p n name
  | n, .step name rest => p n name ∧ rest.NamedBy p (n + 1)

/-- The names in a tree, the root being at depth `n`, have the property. -/
inductive PropertyTree.NamedBy {κ δ : Type*} (p : ℕ → κ → Prop) : ℕ → PropertyTree κ δ → Prop
  | node {n : ℕ} {data : δ} {children : List (κ × PropertyTree κ δ)}
      (names : ∀ c ∈ children, p n c.1) (subtrees : ∀ c ∈ children, NamedBy p (n + 1) c.2) :
      NamedBy p n (.node data children)

namespace PropertyTree.NamedBy

variable {κ δ : Type*} {p : ℕ → κ → Prop} {n : ℕ} {t t' : PropertyTree κ δ} {name : κ}

/-- Each child has a name that is allowed at its depth. -/
theorem names (h : t.NamedBy p n) : ∀ c ∈ t.children, p n c.1 := by
  cases h with
  | node names _ => exact names

/-- The children are named as they should be, one level below. -/
theorem subtrees (h : t.NamedBy p n) : ∀ c ∈ t.children, c.2.NamedBy p (n + 1) := by
  cases h with
  | node _ subtrees => exact subtrees

/-- A leaf has no names. -/
theorem leaf (data : δ) : (leaf data : PropertyTree κ δ).NamedBy p n := .node nofun nofun

/-- Data does not matter to names. -/
theorem setData (h : t.NamedBy p n) (data : δ) : (t.setData data).NamedBy p n :=
  .node h.names h.subtrees

variable [DecidableEq κ]

/-- An update under an allowed name keeps the names, if what it puts there is named so. -/
theorem upsert {f : Option (PropertyTree κ δ) → Except PropertyError (PropertyTree κ δ)}
    (h : t.NamedBy p n) (hname : p n name)
    (hf : ∀ o c, (∀ c' ∈ o, c'.NamedBy p (n + 1)) → f o = .ok c → c.NamedBy p (n + 1))
    (ht : t.upsert name f = .ok t') : t'.NamedBy p n := by
  rw [PropertyTree.upsert] at ht
  cases hu : t.children.upsertM name f with
  | error e => simp [hu, Except.map] at ht
  | ok children =>
    obtain rfl : PropertyTree.node t.data children = t' := by simpa [hu, Except.map] using ht
    have hall := List.forall_mem_of_upsertM (p := fun e => p n e.1 ∧ e.2.NamedBy p (n + 1)) hu
      (fun e he => ⟨h.names e he, h.subtrees e he⟩)
      (fun o b ho hb => ⟨hname, hf o b (fun b' hb' => (ho b' hb').2) hb⟩)
    exact .node (fun c hc => (hall c hc).1) (fun c hc => (hall c hc).2)

/-- A value put at an allowed path keeps the names. -/
theorem putValue {value : δ} {path : PropertyPath κ} (h : t.NamedBy p n)
    (hpath : path.NamedBy p n) (ht : PropertyTree.putValue value path t = .ok t') :
    t'.NamedBy p n := by
  induction path generalizing t t' n with
  | done =>
    obtain rfl := Except.ok.inj ht
    exact h.setData value
  | single name =>
    refine h.upsert hpath (fun o c ho hc => ?_) ht
    cases o with
    | none => cases hc
    | some c' =>
      obtain rfl := Except.ok.inj hc
      exact (ho c' rfl).setData value
  | step name rest ih =>
    refine h.upsert hpath.1 (fun o c ho hc => ?_) ht
    cases o with
    | none => cases hc
    | some c' => exact ih (ho c' rfl) hpath.2 hc

variable [Inhabited δ]

/-- A child put at an allowed path keeps the names, if it has allowed names itself. -/
theorem putChild {child : PropertyTree κ δ} (hchild : ∀ m, child.NamedBy p m)
    {path : PropertyPath κ} (h : t.NamedBy p n) (hpath : path.NamedBy p n)
    (ht : PropertyTree.putChild child path t = .ok t') : t'.NamedBy p n := by
  induction path generalizing t t' n with
  | done => cases ht
  | single name =>
    refine h.upsert hpath (fun o c _ hc => ?_) ht
    obtain rfl := Except.ok.inj hc
    exact hchild _
  | step name rest ih =>
    refine h.upsert hpath.1 (fun o c ho hc => ih ?_ hpath.2 hc) ht
    cases o with
    | none => exact .leaf default
    | some c' => exact ho c' rfl

/-- To put a value adds the names of the path only. -/
theorem put {value : δ} {path : PropertyPath κ} (h : t.NamedBy p n) (hpath : path.NamedBy p n)
    (ht : t.put path value = .ok t') : t'.NamedBy p n := by
  rw [PropertyTree.put] at ht
  split at ht
  · exact h.putValue hpath ht
  · exact h.putChild (fun _ => .leaf value) hpath ht

end PropertyTree.NamedBy

/-! ### Paths as text -/

namespace PropertyPath

/-- Read a path, the characters `start` of a name having been read. -/
def ofChars (sep : Char) : List Char → List Char → PropertyPath String
  | start, [] => .single (String.ofList start)
  | start, c :: text =>
    if c = sep then
      .step (String.ofList start) (if text = [] then .done else ofChars sep [] text)
    else ofChars sep (start ++ [c]) text

/-- Read a path. -/
def parse (sep : Char) (text : String) : PropertyPath String :=
  if text = "" then .done else ofChars sep [] text.toList

/-- A name ends at the first separator. -/
theorem ofChars_append_sep {sep : Char} {name : List Char} (hname : sep ∉ name)
    (start text : List Char) : ofChars sep start (name ++ sep :: text) =
      .step (String.ofList (start ++ name))
        (if text = [] then .done else ofChars sep [] text) := by
  induction name generalizing start with
  | nil => simp [ofChars]
  | cons c name ih =>
    obtain ⟨hc, hrest⟩ := not_or.mp (List.mem_cons.not.mp hname)
    rw [List.cons_append, ofChars, if_neg (Ne.symm hc), ih hrest, List.append_assoc]
    rfl

/-- Without a separator there is one name. -/
theorem ofChars_of_not_mem {sep : Char} {name : List Char} (hname : sep ∉ name)
    (start : List Char) : ofChars sep start name = .single (String.ofList (start ++ name)) := by
  induction name generalizing start with
  | nil => simp [ofChars]
  | cons c name ih =>
    obtain ⟨hc, hrest⟩ := not_or.mp (List.mem_cons.not.mp hname)
    rw [ofChars, if_neg (Ne.symm hc), ih hrest, List.append_assoc]
    rfl

/-- A name, the separator and a path. -/
theorem parse_append {sep : Char} {name : String} (hname : sep ∉ name.toList) (text : String) :
    parse sep (name ++ String.singleton sep ++ text) = .step name (parse sep text) := by
  have hne : name ++ String.singleton sep ++ text ≠ "" := by
    intro h
    have hlist := congrArg String.toList h
    simp at hlist
  have hlist : (name ++ String.singleton sep ++ text).toList =
      name.toList ++ sep :: text.toList := by
    simp
  rw [parse, if_neg hne, hlist, ofChars_append_sep hname, parse]
  simp

/-- A text without a separator is a path of one name. -/
theorem parse_of_not_mem {sep : Char} {name : String} (hname : sep ∉ name.toList)
    (hne : name ≠ "") : parse sep name = .single name := by
  rw [parse, if_neg hne, ofChars_of_not_mem hname]
  simp

/-- No name of a parsed path has a separator in it. -/
theorem namedBy_ofChars {sep : Char} {start : List Char} (hstart : sep ∉ start) (text : List Char)
    (n : ℕ) : (ofChars sep start text).NamedBy (fun _ name => sep ∉ name.toList) n := by
  induction text generalizing start n with
  | nil => simpa [ofChars, NamedBy] using hstart
  | cons c text ih =>
    rw [ofChars]
    split
    · refine ⟨by simpa using hstart, ?_⟩
      split
      · trivial
      · exact ih List.not_mem_nil _
    · next hc => exact ih (by simp [hstart, Ne.symm hc]) n

/-- No name of a path has the separator in it. -/
theorem namedBy_parse (sep : Char) (text : String) (n : ℕ) :
    (parse sep text).NamedBy (fun _ name => sep ∉ name.toList) n := by
  rw [parse]
  split
  · trivial
  · exact namedBy_ofChars List.not_mem_nil _ n

end PropertyPath
