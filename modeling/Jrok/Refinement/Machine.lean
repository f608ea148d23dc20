/-!
# Two machines under the same calls

A machine answers calls one after another and changes its state. Two machines are compared call by
call: where related states answer alike exactly on the good calls and stay related under them, the
answers to a sequence agree exactly if each of its calls is good where it is made.
-/

namespace Refinement

variable {κ β σ τ : Type}

/-- The answers to a sequence of calls. -/
def answers (step : σ → κ → β × σ) : List κ → σ → List β
  | [], _ => []
  | c :: calls, s => (step s c).1 :: answers step calls (step s c).2

/-- The state after a sequence of calls. -/
def final (step : σ → κ → β × σ) : List κ → σ → σ
  | [], s => s
  | c :: calls, s => final step calls (step s c).2

/-- Each call of the sequence is good in the state in which it is made. -/
def AllGood (step : σ → κ → β × σ) (good : σ → κ → Prop) (calls : List κ) (s : σ) : Prop :=
  ∀ earlier c later, calls = earlier ++ c :: later → good (final step earlier s) c

theorem final_append (step : σ → κ → β × σ) (earlier later : List κ) (s : σ) :
    final step (earlier ++ later) s = final step later (final step earlier s) := by
  induction earlier generalizing s with
  | nil => rfl
  | cons c earlier ih => exact ih (step s c).2

theorem final_snoc (step : σ → κ → β × σ) (calls : List κ) (c : κ) (s : σ) :
    final step (calls ++ [c]) s = (step (final step calls s) c).2 :=
  final_append step calls [c] s

theorem length_answers (step : σ → κ → β × σ) (calls : List κ) (s : σ) :
    (answers step calls s).length = calls.length := by
  induction calls generalizing s with
  | nil => rfl
  | cons c calls ih => exact congrArg (· + 1) (ih (step s c).2)

theorem answers_append (step : σ → κ → β × σ) (earlier later : List κ) (s : σ) :
    answers step (earlier ++ later) s =
      answers step earlier s ++ answers step later (final step earlier s) := by
  induction earlier generalizing s with
  | nil => rfl
  | cons c earlier ih => exact congrArg ((step s c).1 :: ·) (ih (step s c).2)

theorem allGood_cons {step : σ → κ → β × σ} {good : σ → κ → Prop} {c : κ} {calls : List κ} {s : σ} :
    AllGood step good (c :: calls) s ↔ good s c ∧ AllGood step good calls (step s c).2 := by
  constructor
  · intro h
    constructor
    · exact h [] c calls rfl
    · intro earlier d later hsplit
      exact h (c :: earlier) d later (congrArg (c :: ·) hsplit)
  · rintro ⟨hc, hcalls⟩ earlier d later hsplit
    cases earlier with
    | nil =>
      obtain ⟨rfl, -⟩ := List.cons.inj hsplit
      exact hc
    | cons e earlier =>
      obtain ⟨rfl, hrest⟩ := List.cons.inj hsplit
      exact hcalls earlier d later hrest

theorem answers_eq_iff (stepS : σ → κ → β × σ) (stepT : τ → κ → β × τ) (R : σ → τ → Prop)
    (good : σ → κ → Prop)
    (agree : ∀ s t c, R s t → good s c →
      (stepS s c).1 = (stepT t c).1 ∧ R (stepS s c).2 (stepT t c).2)
    (differ : ∀ s t c, R s t → ¬good s c → (stepS s c).1 ≠ (stepT t c).1)
    (calls : List κ) {s : σ} {t : τ} (h : R s t) :
    answers stepS calls s = answers stepT calls t ↔ AllGood stepS good calls s := by
  induction calls generalizing s t with
  | nil =>
    constructor
    · intro _ earlier c later hsplit
      simp at hsplit
    · intro _
      rfl
  | cons c calls ih =>
    rw [allGood_cons]
    constructor
    · intro heq
      obtain ⟨hanswer, hrest⟩ := List.cons.inj heq
      have hgood : good s c := Classical.byContradiction fun hbad => differ s t c h hbad hanswer
      exact ⟨hgood, (ih (agree s t c h hgood).2).mp hrest⟩
    · rintro ⟨hgood, hrest⟩
      obtain ⟨hanswer, hkeep⟩ := agree s t c h hgood
      unfold answers
      rw [hanswer, (ih hkeep).mpr hrest]

end Refinement
