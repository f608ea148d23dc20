import Mathlib.Algebra.Group.Basic
import Mathlib.Logic.Function.Basic

/-!
# Ledgers

A ledger has an entry for each key and one total. An operation on a key rewrites its entry and adds
to the total what it reads off the entry. Operations on different keys commute.
-/

namespace Relational

variable {κ β μ : Type}

@[ext] structure Ledger (κ β μ : Type) where
  entries : κ → β
  total : μ

namespace Ledger

variable [DecidableEq κ]

/-- Rewrite the entry of `k` and add to the total. -/
def apply [Add μ] (l : Ledger κ β μ) (k : κ) (f : β → β × μ) : Ledger κ β μ where
  entries := Function.update l.entries k (f (l.entries k)).1
  total := l.total + (f (l.entries k)).2

@[simp] theorem apply_total [Add μ] (l : Ledger κ β μ) (k : κ) (f : β → β × μ) :
    (l.apply k f).total = l.total + (f (l.entries k)).2 := rfl

theorem apply_entries [Add μ] (l : Ledger κ β μ) (k : κ) (f : β → β × μ) :
    (l.apply k f).entries = Function.update l.entries k (f (l.entries k)).1 := rfl

/-- The entries of the other keys are unchanged. -/
theorem apply_entries_ne [Add μ] (l : Ledger κ β μ) {k k' : κ} (f : β → β × μ) (h : k' ≠ k) :
    (l.apply k f).entries k' = l.entries k' :=
  Function.update_of_ne h _ _

theorem apply_comm [AddCommSemigroup μ] (l : Ledger κ β μ) {k k' : κ} (f g : β → β × μ)
    (h : k ≠ k') : (l.apply k f).apply k' g = (l.apply k' g).apply k f := by
  apply Ledger.ext
  · rw [apply_entries, apply_entries_ne l f h.symm, apply_entries, apply_entries (l.apply k' g),
      apply_entries_ne l g h, apply_entries]
    exact Function.update_comm h _ _ _
  · rw [apply_total, apply_entries_ne l f h.symm, apply_total, apply_total,
      apply_entries_ne l g h, apply_total]
    exact add_right_comm _ _ _

end Ledger

end Relational
