import Foxtrot.Foundation.Stateful

/-!
# Framing

A **receiver** takes what it needs from the symbols that have been received. It **frames** some
symbols as a value if it reads this value off them, and takes them and no more, whatever follows.
Receivers that frame compose (`Frames.bind`), so a list of messages one after the other is read as
the same list if each message is framed; and only then, if a message that is not framed is never
read as itself (`frames_mapM_iff`).
-/

namespace Framing

variable {B E A M : Type}

/-- A computation on the symbols that have been received and not been read. -/
abbrev Receiver (B E A : Type) := Stateful (List B) E A

/-- The receiver reads the value off the symbols, and takes just them. -/
def Frames (r : Receiver B E A) (symbols : List B) (a : A) : Prop :=
  ∀ rest, Stateful.on r (symbols ++ rest) = (.ok a, rest)

/-- The receiver never reads the value off the symbols. -/
def Misses (r : Receiver B E A) (symbols : List B) (a : A) : Prop :=
  ∀ rest, (Stateful.on r (symbols ++ rest)).1 ≠ .ok a

/-- A value is received without a symbol. -/
theorem Frames.pure (a : A) : Frames (Pure.pure a : Receiver B E A) [] a := fun _ => rfl

/-- Messages that are received one after the other, are one message. -/
theorem Frames.bind {A' : Type} {r : Receiver B E A} {f : A → Receiver B E A'}
    {symbols symbols' : List B} {a : A} {a' : A'} (h : Frames r symbols a)
    (h' : Frames (f a) symbols' a') : Frames (r >>= f) (symbols ++ symbols') a' := by
  intro rest
  rw [List.append_assoc, Stateful.on_bind_of_ok (h _)]
  exact h' rest

/-- Nothing is both framed and missed. -/
theorem Frames.not_misses {r : Receiver B E A} {symbols : List B} {a : A}
    (h : Frames r symbols a) : ¬ Misses r symbols a :=
  fun hmiss => hmiss [] (congrArg Prod.fst (h []))

section Messages

variable {r : M → Receiver B E A} {symbols : M → List B} {a : M → A}

/-- Messages that are framed are framed one after the other. -/
theorem frames_mapM {ms : List M} (h : ∀ m ∈ ms, Frames (r m) (symbols m) (a m)) :
    Frames (ms.mapM r) (ms.flatMap symbols) (ms.map a) := by
  induction ms with
  | nil => exact Frames.pure []
  | cons m ms ih =>
    rw [List.mapM_cons, List.flatMap_cons, List.map_cons]
    have hrest : Frames (ms.mapM r) (ms.flatMap symbols) (ms.map a) :=
      ih fun m' hm' => h m' (List.mem_cons_of_mem m hm')
    have hcons : Frames (ms.mapM r >>= fun as => pure (a m :: as))
        (ms.flatMap symbols ++ []) (a m :: ms.map a) := hrest.bind (Frames.pure _)
    rw [List.append_nil] at hcons
    exact (h m List.mem_cons_self).bind hcons

/-- **Messages are framed one after the other exactly if each is framed**, where the ones that are
not framed are missed. -/
theorem frames_mapM_iff {ms : List M}
    (h : ∀ m ∈ ms, Frames (r m) (symbols m) (a m) ∨ Misses (r m) (symbols m) (a m)) :
    Frames (ms.mapM r) (ms.flatMap symbols) (ms.map a) ↔
      ∀ m ∈ ms, Frames (r m) (symbols m) (a m) := by
  refine ⟨fun hall => ?_, frames_mapM⟩
  induction ms with
  | nil => simp
  | cons m ms ih =>
    rw [List.forall_mem_cons] at h ⊢
    have hsplit : ∀ rest, ∃ left, Stateful.on (r m) (symbols m ++ (ms.flatMap symbols ++ rest)) =
        (.ok (a m), left) ∧ Stateful.on (ms.mapM r) left = (.ok (ms.map a), rest) := by
      intro rest
      have hon := hall rest
      rw [List.mapM_cons, List.flatMap_cons, List.append_assoc] at hon
      obtain ⟨b, left, hhead, hon⟩ := Stateful.on_bind_eq_ok_iff.mp hon
      obtain ⟨bs, left', htail, hon⟩ := Stateful.on_bind_eq_ok_iff.mp hon
      obtain ⟨hvalues, rfl⟩ := Prod.mk.inj hon
      obtain ⟨rfl, rfl⟩ := List.cons.inj (Except.ok.inj hvalues)
      exact ⟨left, hhead, htail⟩
    -- the first message cannot be missed, since a run over all of them succeeds
    have hhead : Frames (r m) (symbols m) (a m) := by
      refine h.1.resolve_right fun hmiss => ?_
      obtain ⟨left, hon, -⟩ := hsplit []
      exact hmiss _ (congrArg Prod.fst hon)
    refine ⟨hhead, ih h.2 fun rest => ?_⟩
    obtain ⟨left, hon, htail⟩ := hsplit rest
    rw [hhead] at hon
    obtain rfl : ms.flatMap symbols ++ rest = left := congrArg Prod.snd hon
    exact htail

end Messages

end Framing
