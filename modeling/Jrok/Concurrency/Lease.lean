import Mathlib.Algebra.Order.Group.Defs
import Mathlib.Algebra.Order.Sub.Defs
import Mathlib.Logic.Function.Basic

/-!
# Leases on a shared register

Parties take turns holding a register that names its holder and carries a time stamp. A party
acquires it when nobody holds it or when the stamp is more than a lease `d` older than the
party's own reading, and the holder renews the stamp. `lease i` is the reading of the last
success of party `i`.

The invariant `Exclusive` says that the holder's last success is the stamp and that everybody
else's is more than a lease before it. Readings may be stale: acquiring only needs a reading
that is not older than the stamp of a register without holder, renewing one not older than the
stamp.
-/

namespace Concurrency

variable {ι T : Type} [DecidableEq ι] [AddCommGroup T] [LinearOrder T] [IsOrderedAddMonoid T]

/-- The holder's last success is the stamp; every other party's is more than `d` older. -/
structure Exclusive (d : T) (holder : Option ι) (stamp : T) (lease : ι → Option T) : Prop where
  held : ∀ i n, holder = some i → lease i = some n → n = stamp
  lost : ∀ i n, holder ≠ some i → lease i = some n → n + d < stamp

namespace Exclusive

variable {d stamp n t : T} {holder : Option ι} {lease : ι → Option T} {i j : ι}

omit [DecidableEq ι] [IsOrderedAddMonoid T] in
/-- Before anybody has succeeded the invariant holds of any register. -/
theorem of_none (h : ∀ i, lease i = none) : Exclusive d holder stamp lease where
  held i n _ hn := by simp [h i] at hn
  lost i n _ hn := by simp [h i] at hn

theorem acquire (h : Exclusive d holder stamp lease) (hd : 0 ≤ d)
    (hfree : holder = none → stamp ≤ n) (hguard : holder = none ∨ stamp < n - d) :
    Exclusive d (some i) n (Function.update lease i (some n)) where
  held j m hj hm := by
    obtain rfl := Option.some.inj hj
    simpa [eq_comm] using hm
  lost j m hj hm := by
    have hji : j ≠ i := fun heq => hj (heq ▸ rfl)
    rw [Function.update_of_ne hji] at hm
    rcases hguard with hnone | hlate
    · have hold := h.lost j m (by simp [hnone]) hm
      exact lt_of_lt_of_le hold (hfree hnone)
    · by_cases hh : holder = some j
      · rw [h.held j m hh hm]
        exact lt_sub_iff_add_lt.mp hlate
      · have hold := h.lost j m hh hm
        exact hold.trans (hlate.trans_le (sub_le_self n hd))

omit [IsOrderedAddMonoid T] in
theorem renew (h : Exclusive d (some i) stamp lease) (hle : stamp ≤ n) :
    Exclusive d (some i) n (Function.update lease i (some n)) where
  held j m hj hm := by
    obtain rfl := Option.some.inj hj
    simpa [eq_comm] using hm
  lost j m hj hm := by
    have hji : j ≠ i := fun heq => hj (heq ▸ rfl)
    rw [Function.update_of_ne hji] at hm
    exact (h.lost j m hj hm).trans_le hle

omit [DecidableEq ι] in
/-- A party whose last success is at most a lease ago is the holder. -/
theorem holder_of_fresh (h : Exclusive d holder stamp lease) (ht : stamp ≤ t)
    (hn : lease i = some n) (hfresh : t - n ≤ d) : holder = some i := by
  by_contra hne
  have hlost := h.lost i n hne hn
  exact absurd (hlost.trans_le ht) (not_lt.mpr (sub_le_iff_le_add'.mp hfresh))

omit [DecidableEq ι] in
/-- At most one party succeeded within the last lease. -/
theorem unique (h : Exclusive d holder stamp lease) (ht : stamp ≤ t) {m : T}
    (hi : lease i = some n) (hfi : t - n ≤ d) (hj : lease j = some m) (hfj : t - m ≤ d) :
    i = j :=
  Option.some.inj ((h.holder_of_fresh ht hi hfi).symm.trans (h.holder_of_fresh ht hj hfj))

end Exclusive

end Concurrency
