import Jrok.Concurrency.Log

/-!
# States that the log determines

Where what an operation does to a part of the state shows in its event, that part of the state is
what the events of the log, one after the other, make of it. What an operation answers can then be
told from the events before it.
-/

namespace Concurrency

variable {S : Sig} {τ σ ν χ α : Type}

/-- What the events of a log, the oldest first, make of a state. -/
def Log.after (apply : Event S → ν → ν) (start : ν) : Log S τ → ν
  | [] => start
  | (_, e) :: older => apply e (Log.after apply start older)

@[simp] theorem Log.after_nil (apply : Event S → ν → ν) (start : ν) :
    Log.after apply start ([] : Log S τ) = start := rfl

@[simp] theorem Log.after_cons (apply : Event S → ν → ν) (start : ν) (t : τ) (e : Event S)
    (older : Log S τ) :
    Log.after apply start ((t, e) :: older) = apply e (Log.after apply start older) := rfl

/-- What the older events have established holds until one of the newer ones undoes it. -/
theorem Log.after_append {apply : Event S → ν → ν} {start : ν} {I : ν → Prop} {older : Log S τ}
    {newer : Log S τ} (h : I (Log.after apply start older))
    (hstep : ∀ e ∈ newer, ∀ x, I x → I (apply e.2 x)) :
    I (Log.after apply start (newer ++ older)) := by
  induction newer with
  | nil => exact h
  | cons e newer ih =>
    have hrest := ih fun e' he' => hstep e' (List.mem_cons_of_mem _ he')
    exact hstep e (List.mem_cons_self ..) _ hrest

section Tally

variable {E : Type}

open Classical in
/-- How many entries of a list satisfy `p` with the older entries behind them. -/
noncomputable def tally (p : E → List E → Prop) : List E → Nat
  | [] => 0
  | e :: older => tally p older + if p e older then 1 else 0

/-- Newer entries only add to a tally. -/
theorem tally_le_append {p : E → List E → Prop} {newer older : List E} :
    tally p older ≤ tally p (newer ++ older) := by
  induction newer with
  | nil => exact Nat.le_refl _
  | cons e newer ih => exact Nat.le_trans ih (Nat.le_add_right _ _)

end Tally

/-- Every operation does to the view of the state what `apply` says of its event, and answers what
    `answers` allows. -/
structure Recorded (handler : τ → Handler S σ χ) (view : σ → ν) (apply : Event S → ν → ν)
    (answers : ν → Event S → Prop) : Prop where
  step : ∀ t ch o s r s', handler t ch o s = some (r, s') →
    view s' = apply ⟨o, r⟩ (view s) ∧ answers (view s) ⟨o, r⟩

namespace System

variable [DecidableEq τ] {handler : τ → Handler S σ χ} {prog : τ → Prog S α} {view : σ → ν}
variable {apply : Event S → ν → ν} {answers : ν → Event S → Prop}
variable {P : τ → (o : S.Op) → S.Res o → σ × Log S τ → Prop}
variable {M : System S τ (Option α) Unit (σ × Log S τ) χ}
variable {c₀ c : Config S τ (Option α) (σ × Log S τ)}

/-- In every run the view is what the log makes of the one at its start, and every event is an
    answer to the view that the events before it have led to. -/
theorem KeepsLog.recorded (hM : KeepsLog M handler prog P)
    (hrecorded : Recorded handler view apply answers) (hr : M.Reachable c₀ c)
    (hidle : ∀ t, c₀.task t = .idle none) (hlog : c₀.shared.2 = []) :
    view c.shared.1 = Log.after apply (view c₀.shared.1) c.shared.2 ∧
      Causal (fun e older => answers (Log.after apply (view c₀.shared.1) older) e.2) c.shared.2 :=
  (hM.invariant hr hidle hlog (fun s log => view s = Log.after apply (view c₀.shared.1) log ∧
      Causal (fun e older => answers (Log.after apply (view c₀.shared.1) older) e.2) log)
    ⟨rfl, trivial⟩ fun s log t ch o r s' _ _ _ h hop => by
      obtain ⟨hview, hanswers⟩ := hrecorded.step t ch o s r s' hop
      rw [h.1] at hview hanswers
      exact ⟨hview, hanswers, h.2⟩).2

end System

end Concurrency
