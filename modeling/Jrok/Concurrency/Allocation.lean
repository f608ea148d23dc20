import Jrok.Concurrency.Log

/-!
# Allocation of names

Names are taken, each by one owner, and freed. The history of this, the latest first, tells who
holds a name. It is orderly if every name was free when it was taken, and then a name that is taken
twice has been freed in between.
-/

namespace Concurrency

/-- What happens to a name. -/
inductive Allocation (κ ω : Type) where
  | taken (k : κ) (o : ω)
  | freed (k : κ)

namespace Allocation

variable {κ ω : Type} [DecidableEq κ] {start : κ → Option ω} {k : κ} {o o' : ω}
  {newer between older es : List (Allocation κ ω)}

/-- The name that something happens to. -/
def name : Allocation κ ω → κ
  | taken k _ | freed k => k

/-- Who holds a name after a history, where `start` tells who held it before. -/
def holder (start : κ → Option ω) (k : κ) : List (Allocation κ ω) → Option ω
  | [] => start k
  | taken k' o :: older => if k' = k then some o else holder start k older
  | freed k' :: older => if k' = k then none else holder start k older

/-- Every name that is taken was free. -/
def Orderly (start : κ → Option ω) (es : List (Allocation κ ω)) : Prop :=
  Causal (fun e older => ∀ k o, e = taken k o → holder start k older = none) es

theorem holder_cons_ne {e : Allocation κ ω} (he : e.name ≠ k) :
    holder start k (e :: older) = holder start k older := by
  cases e with
  | taken k' o => exact if_neg he
  | freed k' => exact if_neg he

/-- A name stays held until it is freed. -/
theorem exists_holder (hfreed : freed k ∉ between) :
    ∃ o', holder start k (between ++ taken k o :: older) = some o' := by
  induction between with
  | nil => exact ⟨o, if_pos rfl⟩
  | cons e between ih =>
    obtain ⟨he, hrest⟩ := not_or.mp (mt List.mem_cons.mpr hfreed)
    by_cases hname : e.name = k
    · subst hname
      cases e with
      | taken k' o' => exact ⟨o', if_pos rfl⟩
      | freed k' => exact absurd rfl he
    · rw [List.cons_append, holder_cons_ne hname]
      exact ih hrest

/-- A name that is taken twice has been freed in between. -/
theorem Orderly.freed_between
    (h : Orderly start (newer ++ taken k o :: (between ++ taken k o' :: older))) :
    freed k ∈ between := by
  by_contra hfreed
  have hnone : holder start k (between ++ taken k o' :: older) = none := h.at_split k o rfl
  obtain ⟨o'', hheld⟩ := exists_holder hfreed
  cases hnone.symm.trans hheld

end Allocation

end Concurrency
