import Mathlib.Data.List.Nodup

/-!
# Tables with a primary key

A table is a list of rows in insertion order whose keys are pairwise different. The statements
of a query language become `insert?` (refused on a duplicate key), `updateWhere` (which must
not touch the key), `deleteWhere` and filtering reads of `rows`.
-/

namespace Relational

variable {ρ κ : Type} {key : ρ → κ}

/-- The rows of a table and the proof that `key` is a primary key. -/
structure Table (ρ : Type) {κ : Type} (key : ρ → κ) where
  rows : List ρ
  nodup : (rows.map key).Nodup

namespace Table

instance : Membership ρ (Table ρ key) := ⟨fun t r => r ∈ t.rows⟩

theorem mem_iff {t : Table ρ key} {r : ρ} : r ∈ t ↔ r ∈ t.rows := Iff.rfl

/-- The table without rows. -/
def empty : Table ρ key := ⟨[], List.nodup_nil⟩

@[simp] theorem notMem_empty (r : ρ) : r ∉ (empty : Table ρ key) := List.not_mem_nil

/-- Two rows of a table with the same key are the same row. -/
theorem eq_of_key_eq {t : Table ρ key} {r r' : ρ} (hr : r ∈ t) (hr' : r' ∈ t)
    (hk : key r = key r') : r = r' :=
  List.inj_on_of_nodup_map t.nodup hr hr' hk

/-- The row with key `k`. -/
def find? [DecidableEq κ] (t : Table ρ key) (k : κ) : Option ρ :=
  t.rows.find? fun r => key r = k

theorem find?_eq_some_iff [DecidableEq κ] {t : Table ρ key} {k : κ} {r : ρ} :
    t.find? k = some r ↔ r ∈ t ∧ key r = k := by
  constructor
  · intro h
    exact ⟨List.mem_of_find?_eq_some h, by simpa using List.find?_some h⟩
  · rintro ⟨hr, rfl⟩
    cases h : t.find? (key r) with
    | none =>
      have hnone := List.find?_eq_none.mp h r hr
      simp at hnone
    | some r' =>
      have hkey : key r' = key r := by simpa using List.find?_some h
      rw [eq_of_key_eq (List.mem_of_find?_eq_some h) hr hkey]

/-- Insert a row; `none` if its key is already taken. -/
def insert? [DecidableEq κ] (t : Table ρ key) (r : ρ) : Option (Table ρ key) :=
  if h : key r ∈ t.rows.map key then none
  else some ⟨t.rows ++ [r], by
    rw [List.map_append]
    exact List.nodup_append.mpr ⟨t.nodup, by simp, by
      intro a ha b hb
      obtain rfl : b = key r := by simpa using hb
      exact fun hab => h (hab ▸ ha)⟩⟩

theorem insert?_eq_none_iff [DecidableEq κ] {t : Table ρ key} {r : ρ} :
    t.insert? r = none ↔ ∃ r' ∈ t, key r' = key r := by
  unfold insert?
  split
  case isTrue h => simpa [mem_iff] using h
  case isFalse h => simpa [mem_iff] using h

theorem insert?_rows [DecidableEq κ] {t t' : Table ρ key} {r : ρ} (h : t.insert? r = some t') :
    t'.rows = t.rows ++ [r] := by
  unfold insert? at h
  split at h
  · simp at h
  · rw [← Option.some.inj h]

theorem mem_insert? [DecidableEq κ] {t t' : Table ρ key} {r : ρ} (h : t.insert? r = some t')
    (x : ρ) : x ∈ t' ↔ x ∈ t ∨ x = r := by
  rw [mem_iff, insert?_rows h, List.mem_append, List.mem_singleton, mem_iff]

theorem find?_insert? [DecidableEq κ] {t t' : Table ρ key} {r : ρ} (h : t.insert? r = some t')
    (k : κ) : t'.find? k = if key r = k then some r else t.find? k := by
  have hfree : key r ∉ t.rows.map key := by
    intro hmem
    simp [insert?, hmem] at h
  rw [find?, insert?_rows h, List.find?_append]
  by_cases hk : key r = k
  · have hnone : t.rows.find? (fun x => key x = k) = none := by
      refine List.find?_eq_none.mpr fun x hx hxk => hfree ?_
      rw [hk, ← of_decide_eq_true hxk]
      exact List.mem_map_of_mem hx
    simp [hk, hnone]
  · simp [hk, find?]

/-- Replace every row that satisfies `p` by `f` of it; `f` keeps the key. -/
def updateWhere (t : Table ρ key) (p : ρ → Bool) (f : ρ → ρ)
    (hf : ∀ r, key (f r) = key r := by intro r; rfl) : Table ρ key where
  rows := t.rows.map fun r => if p r then f r else r
  nodup := by
    have hkeys : (t.rows.map fun r => if p r then f r else r).map key = t.rows.map key := by
      rw [List.map_map]
      apply List.map_congr_left
      intro r _
      simp only [Function.comp_apply]
      split
      · exact hf r
      · rfl
    rw [hkeys]
    exact t.nodup

@[simp] theorem mem_updateWhere {t : Table ρ key} {p : ρ → Bool} {f : ρ → ρ}
    (hf : ∀ r, key (f r) = key r) {x : ρ} :
    x ∈ t.updateWhere p f hf ↔ ∃ r ∈ t, (if p r then f r else r) = x := by
  simp [mem_iff, updateWhere]

/-- An update of the row with key `k` neither adds nor removes a row with another key. -/
theorem mem_updateWhere_key_ne [DecidableEq κ] {t : Table ρ key} {f : ρ → ρ} {k : κ} {x : ρ}
    (hf : ∀ r, key (f r) = key r) (hx : key x ≠ k) :
    x ∈ t.updateWhere (fun r => key r = k) f hf ↔ x ∈ t := by
  rw [mem_updateWhere]
  constructor
  · rintro ⟨r, hr, rfl⟩
    by_cases hrk : key r = k
    · simp [hrk, hf] at hx
    · simpa [hrk] using hr
  · intro hmem
    exact ⟨x, hmem, by simp [hx]⟩

/-- An update does not move rows between keys. -/
theorem find?_updateWhere [DecidableEq κ] {t : Table ρ key} {p : ρ → Bool} {f : ρ → ρ}
    (hf : ∀ r, key (f r) = key r) {k : κ} :
    (t.updateWhere p f hf).find? k = (t.find? k).map fun r => if p r then f r else r := by
  have hkey : ∀ r, key (if p r then f r else r) = key r := by
    intro r
    split
    · exact hf r
    · rfl
  simp only [find?, updateWhere, List.find?_map, Function.comp_def, hkey]

/-- An update of the row with key `k` changes no other row. -/
theorem find?_updateWhere_key [DecidableEq κ] {t : Table ρ key} {f : ρ → ρ}
    (hf : ∀ r, key (f r) = key r) {k k' : κ} :
    (t.updateWhere (fun r => key r = k) f hf).find? k' =
      if k = k' then (t.find? k').map f else t.find? k' := by
  rw [find?_updateWhere]
  cases h : t.find? k' with
  | none => simp
  | some r =>
    obtain ⟨-, rfl⟩ := find?_eq_some_iff.mp h
    by_cases hk : k = key r
    · simp [hk]
    · simp [hk, Ne.symm hk]

/-- The number of rows that satisfy `p`: what an `UPDATE ... WHERE` reports. -/
def countWhere (t : Table ρ key) (p : ρ → Bool) : Nat := t.rows.countP p

/-- Remove every row that satisfies `p`. -/
def deleteWhere (t : Table ρ key) (p : ρ → Bool) : Table ρ key where
  rows := t.rows.filter fun r => !p r
  nodup := (List.filter_sublist.map key).nodup t.nodup

theorem mem_deleteWhere {t : Table ρ key} {p : ρ → Bool} {x : ρ} :
    x ∈ t.deleteWhere p ↔ x ∈ t ∧ p x = false := by
  simp [mem_iff, deleteWhere]

/-- Deleting the row with key `k` changes no other row. -/
theorem find?_deleteWhere_key [DecidableEq κ] {t : Table ρ key} {k k' : κ} :
    (t.deleteWhere fun r => key r = k).find? k' = if k = k' then none else t.find? k' := by
  rw [find?, deleteWhere, List.find?_filter]
  split
  · rename_i hk
    subst hk
    refine List.find?_eq_none.mpr fun r _ => ?_
    by_cases hr : key r = k <;> simp [hr]
  · rename_i hk
    refine congrArg (List.find? · t.rows) (funext fun r => ?_)
    by_cases hr : key r = k'
    · simp [hr, Ne.symm hk]
    · simp [hr]

end Table

end Relational
