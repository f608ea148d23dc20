import Mathlib.Data.List.AList

/-!
# Hash maps as association lists

What writing through `get_mut` and `retain` do to a map, in terms of lookups.
-/

namespace AList

variable {α β : Type} [DecidableEq α]

/-- Keep the entries that satisfy `p`. -/
def retain (p : α → β → Bool) (m : AList fun _ : α => β) : AList fun _ : α => β where
  entries := m.entries.filter fun e => p e.1 e.2
  nodupKeys := List.NodupKeys.sublist List.filter_sublist m.nodupKeys

theorem lookup_retain {p : α → β → Bool} {m : AList fun _ : α => β} {k : α} :
    (m.retain p).lookup k = (m.lookup k).filter (p k) := by
  ext b
  rw [Option.filter_eq_some_iff, ← Option.mem_def, mem_lookup_iff, ← Option.mem_def,
    mem_lookup_iff]
  exact List.mem_filter

theorem dlookup_kreplace {l : List (Σ _ : α, β)} {k k' : α} {b' : β} :
    (List.kreplace k' b' l).dlookup k =
      if k = k' then (l.dlookup k).map fun _ => b' else l.dlookup k := by
  induction l with
  | nil => simp [List.kreplace]
  | cons e l ih =>
    obtain ⟨a, b⟩ := e
    by_cases ha : k' = a
    · subst ha
      have hrep : List.kreplace k' b' (⟨k', b⟩ :: l) = ⟨k', b'⟩ :: l :=
        List.lookmap_cons_some _ l (by simp)
      rw [hrep]
      by_cases hk : k = k'
      · subst hk
        simp
      · rw [if_neg hk, List.dlookup_cons_ne l _ hk, List.dlookup_cons_ne l _ hk]
    · have hrep : List.kreplace k' b' (⟨a, b⟩ :: l) = ⟨a, b⟩ :: List.kreplace k' b' l :=
        List.lookmap_cons_none _ l (by simp [ha])
      rw [hrep]
      by_cases hk : k = a
      · subst hk
        simp [Ne.symm ha]
      · rw [List.dlookup_cons_ne _ _ hk, List.dlookup_cons_ne _ _ hk, ih]

/-- Writing to the value of a key that is there; where it is not, nothing is written. -/
theorem lookup_replace {m : AList fun _ : α => β} {k k' : α} {b' : β} :
    (m.replace k' b').lookup k =
      if k = k' then (m.lookup k).map fun _ => b' else m.lookup k :=
  dlookup_kreplace

/-- Writing through `get_mut` to the value that is there. -/
theorem lookup_replace_some {m : AList fun _ : α => β} {k k' : α} {b : β} {g : β → β}
    (h : m.lookup k' = some b) :
    (m.replace k' (g b)).lookup k =
      if k = k' then (m.lookup k).map g else m.lookup k := by
  rw [lookup_replace]
  by_cases hk : k = k'
  · subst hk
    simp [h]
  · simp [hk]

/-- A new key adds its value to a count. -/
theorem countP_insert {p : β → Bool} {m : AList fun _ : α => β} {k : α} {b : β} (hk : k ∉ m) :
    (m.insert k b).entries.countP (fun e => p e.2) =
      m.entries.countP (fun e => p e.2) + (p b).toNat := by
  rw [entries_insert_of_notMem hk, List.countP_cons]
  cases p b <;> rfl

theorem countP_kreplace {p : β → Bool} {l : List (Σ _ : α, β)} {k : α} {b b' : β}
    (h : l.dlookup k = some b) :
    (List.kreplace k b' l).countP (fun e => p e.2) + (p b).toNat =
      l.countP (fun e => p e.2) + (p b').toNat := by
  induction l with
  | nil => cases h
  | cons e l ih =>
    obtain ⟨a, c⟩ := e
    by_cases ha : k = a
    · subst ha
      rw [List.dlookup_cons_eq] at h
      cases h
      have hrep : List.kreplace k b' (⟨k, b⟩ :: l) = ⟨k, b'⟩ :: l :=
        List.lookmap_cons_some _ l (by simp)
      rw [hrep, List.countP_cons, List.countP_cons]
      cases p b <;> cases p b' <;> simp
    · have hrep : List.kreplace k b' (⟨a, c⟩ :: l) = ⟨a, c⟩ :: List.kreplace k b' l :=
        List.lookmap_cons_none _ l (by simp [ha])
      rw [List.dlookup_cons_ne l _ ha] at h
      have hrest := ih h
      rw [hrep, List.countP_cons, List.countP_cons]
      omega

/-- Writing to the value of a key that is there exchanges its old value for the new one. -/
theorem countP_replace {p : β → Bool} {m : AList fun _ : α => β} {k : α} {b b' : β}
    (h : m.lookup k = some b) :
    (m.replace k b').entries.countP (fun e => p e.2) + (p b).toNat =
      m.entries.countP (fun e => p e.2) + (p b').toNat :=
  countP_kreplace h

end AList
