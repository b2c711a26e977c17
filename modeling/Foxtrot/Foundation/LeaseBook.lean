import Foxtrot.Foundation.TransitionSystem
import Mathlib.Logic.Function.Basic
import Mathlib.Order.Defs.LinearOrder
import Mathlib.Order.Lattice

/-!
# Lease books

A **lease book** says which keys hold a lease and what the lease is: a partial function from
keys to leases. Leases have deadlines in a linear order of time points. The book changes by
four kinds of events: a lease is granted under a key, replaced (renewed) under its key, dropped,
or all leases whose deadline has passed are swept out.

Events are total on books; `Event.Enabled` singles out the ones that respect the holders: a
grant needs a key without a lease, a renewal or a drop a key with one, and `system` is the
transition system they make. Two facts carry the expiry reasoning: a sweep removes exactly the
leases past their deadline (`apply_sweep`), and an event that does not touch a lease, or sweeps
only up to its deadline, keeps it (`apply_keeps`).
-/

namespace LeaseBook

variable {Key Lease Time : Type*}

/-- Which keys hold a lease, and which. -/
abbrev Book (Key Lease : Type*) := Key → Option Lease

/-- What can happen to a book. -/
inductive Event (Key Lease Time : Type*) where
  | grant (k : Key) (i : Lease)
  | renew (k : Key) (i : Lease)
  | drop (k : Key)
  | sweep (t : Time)

section Apply

variable [DecidableEq Key] [LinearOrder Time] (deadline : Lease → Time)

/-- The book after an event. -/
def Event.apply (b : Book Key Lease) : Event Key Lease Time → Book Key Lease
  | .grant k i => Function.update b k (some i)
  | .renew k i => Function.update b k (some i)
  | .drop k => Function.update b k none
  | .sweep t => fun k => (b k).filter fun i => decide (t ≤ deadline i)

/-- The events that respect the holders of leases. -/
def Event.Enabled (b : Book Key Lease) : Event Key Lease Time → Prop
  | .grant k _ => b k = none
  | .renew k _ => b k ≠ none
  | .drop k => b k ≠ none
  | .sweep _ => True

/-- The event leaves a lease with deadline `e` under key `k` alone. -/
def Event.Keeps (k : Key) (e : Time) : Event Key Lease Time → Prop
  | .grant k' _ => k' ≠ k
  | .renew k' _ => k' ≠ k
  | .drop k' => k' ≠ k
  | .sweep t => t ≤ e

variable {deadline} {b : Book Key Lease} {k : Key} {i : Lease}

/-- **A sweep removes exactly the leases past their deadline.** -/
theorem apply_sweep {t : Time} : Event.apply deadline b (.sweep t) k = some i ↔
    b k = some i ∧ t ≤ deadline i := by
  simp only [Event.apply, Option.filter_eq_some_iff, decide_eq_true_eq]

/-- An event that keeps a lease leaves it. -/
theorem apply_keeps {ev : Event Key Lease Time} (hb : b k = some i)
    (hev : ev.Keeps k (deadline i)) : ev.apply deadline b k = some i := by
  rcases ev with ⟨k', i'⟩ | ⟨k', i'⟩ | k' | t
  · exact (Function.update_of_ne (Ne.symm hev) _ _).trans hb
  · exact (Function.update_of_ne (Ne.symm hev) _ _).trans hb
  · exact (Function.update_of_ne (Ne.symm hev) _ _).trans hb
  · exact apply_sweep.mpr ⟨hb, hev⟩

variable (deadline) in
open Classical in
/-- The transition system of the enabled events, from the empty book. -/
noncomputable def system : TransitionSystem (Book Key Lease) (Event Key Lease Time) where
  init := fun _ => none
  step b ev := if ev.Enabled b then some (ev.apply deadline b) else none

/-- An enabled event is applied. -/
theorem system_step {ev : Event Key Lease Time} (hen : ev.Enabled b) :
    (system deadline).step b ev = some (ev.apply deadline b) :=
  if_pos hen

end Apply

end LeaseBook
