import Mathlib.Data.List.Basic

/-!
# Lists with terminators

`join t ls` is the lists `ls` one after the other, each with the terminator `t` behind it. Where the
lists are free of `t`, they can be told apart: what is taken from the front of `join t ls` up to a
terminator is the first of the lists (`eq_join_take`), and as many as it has terminators.
-/

namespace Delimited

variable {α : Type*} {t : α} {ls : List (List α)}

/-- The lists, each with a terminator behind it. -/
def join (t : α) (ls : List (List α)) : List α := ls.flatMap (· ++ [t])

@[simp]
theorem join_nil (t : α) : join t [] = [] := rfl

/-- Each part is followed by the delimiter. -/
@[simp]
theorem join_cons (t : α) (l : List α) (ls : List (List α)) :
    join t (l :: ls) = l ++ t :: join t ls := by
  rw [join, List.flatMap_cons, List.append_assoc]
  rfl

/-- Parts are joined one after the other. -/
theorem join_append (t : α) (ls ls' : List (List α)) :
    join t (ls ++ ls') = join t ls ++ join t ls' := List.flatMap_append

variable [DecidableEq α]

/-- **Whole lists are taken** from the front, if what is taken ends with a terminator. -/
theorem eq_join_take (hls : ∀ l ∈ ls, t ∉ l) {taken rest : List α}
    (htaken : ∀ a ∈ taken.getLast?, a = t) (h : taken ++ rest = join t ls) :
    taken = join t (ls.take (taken.count t)) ∧ rest = join t (ls.drop (taken.count t)) := by
  induction ls generalizing taken with
  | nil =>
    obtain ⟨rfl, rfl⟩ := List.append_eq_nil_iff.mp h
    exact ⟨rfl, rfl⟩
  | cons l ls ih =>
    rw [List.forall_mem_cons] at hls
    rcases List.eq_nil_or_concat taken with rfl | ⟨front, a, rfl⟩
    · exact ⟨rfl, h⟩
    · obtain rfl : a = t := htaken a (by simp)
      have hcount : (l ++ [a]).count a = 1 := by
        rw [List.count_append, List.count_eq_zero_of_not_mem hls.1, List.count_singleton_self]
      rw [List.concat_eq_append, join_cons, List.append_assoc, List.singleton_append] at h
      rw [List.concat_eq_append]
      -- either the first terminator is the one that ends what is taken, or there is another before
      rcases List.append_eq_append_iff.mp h with
        ⟨_ | ⟨b, left⟩, rfl, hrest⟩ | ⟨_ | ⟨b, more⟩, rfl, hrest⟩
      · rw [List.append_nil] at hcount
        rw [hcount]
        exact ⟨by simp, (List.cons.inj hrest).2⟩
      · obtain rfl := (List.cons.inj hrest).1
        exact absurd (by simp) hls.1
      · rw [List.append_nil, hcount]
        exact ⟨by simp, (List.cons.inj hrest).2.symm⟩
      · obtain ⟨rfl, hmore⟩ := List.cons.inj hrest
        have hleft : join a ls = (more ++ [a]) ++ rest := by
          rw [hmore, List.append_assoc]
          rfl
        have hends : ∀ b ∈ (more ++ [a]).getLast?, b = a := by simp
        obtain ⟨htake, hdrop⟩ := ih hls.2 hends hleft.symm
        have hsplit : l ++ a :: more ++ [a] = (l ++ [a]) ++ (more ++ [a]) := by simp
        rw [hsplit, List.count_append, hcount, Nat.add_comm, List.take_succ_cons,
          List.drop_succ_cons, join_cons, ← htake, ← hdrop]
        exact ⟨by simp, rfl⟩

/-- The empty lists in front are the terminators in front. -/
theorem dropWhile_join (hls : ∀ l ∈ ls, t ∉ l) :
    (join t ls).dropWhile (· = t) = join t (ls.dropWhile (· = [])) := by
  induction ls with
  | nil => rfl
  | cons l ls ih =>
    rw [List.forall_mem_cons] at hls
    cases l with
    | nil => simpa using ih hls.2
    | cons a l =>
      have ha : a ≠ t := fun heq => hls.1 (heq ▸ List.mem_cons_self)
      rw [join_cons, List.cons_append, List.dropWhile_cons, if_neg (by simpa using ha),
        List.dropWhile_cons, if_neg (by simp), join_cons, List.cons_append]

end Delimited
