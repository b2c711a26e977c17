import Mathlib.Data.List.Infix

/-!
# Occurrences of a pattern

A pattern occurs in a list if it is an infix of it (`<:+:`). Where the list is put together with a
separator that the pattern does not have, the pattern occurs in one of the parts
(`infix_append_cons_iff`, `infix_lines_append_iff`). Where it occurs at the end only, a part from
the front in which it occurs reaches that far (`reaches_of_occurs`), and in what follows it does not
occur (`not_infix_of_head_notMem`).
-/

namespace Occurrences

variable {α : Type*} {pattern xs ys : List α} {c : α}

/-- A pattern without a character does not reach beyond it from the front. -/
theorem prefix_append_cons_iff (h : c ∉ pattern) :
    pattern <+: xs ++ c :: ys ↔ pattern <+: xs := by
  refine ⟨fun hfront => ?_, fun hfront => hfront.trans (List.prefix_append _ _)⟩
  obtain hle | hlt := le_or_gt pattern.length xs.length
  · exact List.prefix_of_prefix_length_le hfront (List.prefix_append _ _) hle
  · obtain ⟨rest, hrest⟩ := List.prefix_of_prefix_length_le (List.prefix_append xs (c :: ys))
      hfront hlt.le
    obtain ⟨more, hmore⟩ := hfront
    rw [← hrest, List.append_assoc, List.append_cancel_left_eq] at hmore
    cases rest with
    | nil =>
      rw [← hrest, List.append_nil] at hlt
      exact absurd hlt (lt_irrefl _)
    | cons d rest =>
      obtain ⟨rfl, -⟩ := List.cons.inj hmore
      exact absurd (hrest ▸ List.mem_append_right xs List.mem_cons_self) h

/-- A pattern without the separator occurs before or after it. -/
theorem infix_append_cons_iff (h : c ∉ pattern) :
    pattern <:+: xs ++ c :: ys ↔ pattern <:+: xs ∨ pattern <:+: ys := by
  induction xs with
  | nil =>
    rw [List.nil_append, List.infix_cons_iff, ← List.nil_append (c :: ys),
      prefix_append_cons_iff h, List.prefix_nil, List.infix_nil]
  | cons x xs ih =>
    rw [List.cons_append, List.infix_cons_iff, ← List.cons_append, prefix_append_cons_iff h, ih,
      List.infix_cons_iff, or_assoc]

/-- Lines, each with the separator at its end. -/
def lines (c : α) (ls : List (List α)) : List α := ls.flatMap (· ++ [c])

@[simp]
theorem lines_nil (c : α) : lines c [] = [] := rfl

/-- Each line is followed by its end. -/
theorem lines_cons (c : α) (l : List α) (ls : List (List α)) :
    lines c (l :: ls) = l ++ c :: lines c ls := by
  rw [lines, List.flatMap_cons, List.append_assoc]
  rfl

/-- A pattern without the separator occurs in one of the lines, or in what follows them. -/
theorem infix_lines_append_iff (h : c ∉ pattern) {ls : List (List α)} :
    pattern <:+: lines c ls ++ ys ↔ (∃ l ∈ ls, pattern <:+: l) ∨ pattern <:+: ys := by
  induction ls with
  | nil => simp
  | cons l ls ih =>
    rw [lines_cons, List.append_assoc, List.cons_append, infix_append_cons_iff h, ih,
      ← or_assoc, List.exists_mem_cons_iff]

/-- If the pattern does not occur before it is complete at the end of a list, a front part of a
longer list in which it occurs has the whole list. -/
theorem reaches_of_occurs {front : List α} (hfirst : ¬ pattern <:+: xs ++ pattern.dropLast)
    (hfront : front <+: xs ++ pattern ++ ys) (hoccurs : pattern <:+: front) :
    xs ++ pattern <+: front := by
  obtain hle | hlt := le_or_gt (xs ++ pattern).length front.length
  · exact List.prefix_of_prefix_length_le (List.prefix_append _ ys) hfront hle
  · refine absurd (hoccurs.trans (List.IsPrefix.isInfix ?_)) hfirst
    refine List.prefix_of_prefix_length_le hfront ?_ ?_
    · exact (List.prefix_append_right_inj xs).mpr (List.dropLast_prefix pattern) |>.trans
        (List.prefix_append _ ys)
    · rw [List.length_append] at hlt ⊢
      rw [List.length_dropLast]
      omega

/-- A pattern does not occur where its first element is not. -/
theorem not_infix_of_head_notMem {p : α} (h : p ∉ xs) (ps : List α) : ¬ p :: ps <:+: xs :=
  fun hoccurs => h (hoccurs.subset List.mem_cons_self)

end Occurrences
