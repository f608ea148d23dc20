import Jrok.Concurrency.Log

/-!
# Tasks that are dropped

A busy task may be dropped between two of its operations: what it has done stays, and it takes no
further step. A run with drops is a run of the pool in which some tasks stop moving, so what holds
in every configuration the pool can reach holds here as well.
-/

namespace Concurrency

variable {S : Sig} {τ ρ ι σ χ : Type}

/-- A configuration, and the tasks that have been dropped. -/
structure Cancelled (S : Sig) (τ ρ σ : Type) where
  config : Config S τ ρ σ
  dropped : List τ

/-- A move of a task, or the end of one. -/
inductive CancelMove (τ ι χ : Type) where
  | run (m : Move τ ι χ)
  | drop (t : τ)

/-- The task that moves. -/
def Move.task : Move τ ι χ → τ
  | .start t _ | .act t _ | .finish t => t

namespace System

variable [DecidableEq τ] (M : System S τ ρ ι σ χ) (may : τ → Bool)

/-- The configuration after one move. Only a task of `may` is ever dropped. -/
def cancelMove : CancelMove τ ι χ → Cancelled S τ ρ σ → Option (Cancelled S τ ρ σ)
  | .run m, d =>
    if m.task ∈ d.dropped then none
    else (M.move m d.config).map fun c => { d with config := c }
  | .drop t, d =>
    match d.config.task t with
    | .busy _ => if may t then some { d with dropped := t :: d.dropped } else none
    | .idle _ => none

def cancelReplay : List (CancelMove τ ι χ) → Cancelled S τ ρ σ → Option (Cancelled S τ ρ σ)
  | [], d => some d
  | m :: ms, d => (M.cancelMove may m d).bind (cancelReplay ms)

variable {M may} {d d' : Cancelled S τ ρ σ}

theorem cancelMove_run {m : Move τ ι χ} (h : M.cancelMove may (.run m) d = some d') :
    m.task ∉ d.dropped ∧ M.move m d.config = some d'.config ∧ d'.dropped = d.dropped := by
  rw [cancelMove] at h
  split at h
  · cases h
  · rename_i hstands
    obtain ⟨c, hc, rfl⟩ := Option.map_eq_some_iff.mp h
    exact ⟨hstands, hc, rfl⟩

theorem cancelMove_drop {t : τ} (h : M.cancelMove may (.drop t) d = some d') :
    d' = { d with dropped := t :: d.dropped } := by
  rw [cancelMove] at h
  split at h
  · split at h
    · exact (Option.some.inj h).symm
    · cases h
  · cases h

theorem cancelReplay_append {ms ms' : List (CancelMove τ ι χ)} :
    M.cancelReplay may (ms ++ ms') d = (M.cancelReplay may ms d).bind (M.cancelReplay may ms') := by
  induction ms generalizing d with
  | nil => rfl
  | cons m ms ih =>
    rw [List.cons_append, cancelReplay, cancelReplay, Option.bind_assoc]
    exact congrArg _ (funext fun e => ih)

/-- Without the drops, the moves are a run of the pool. -/
theorem reachable_of_cancelReplay {ms : List (CancelMove τ ι χ)}
    (h : M.cancelReplay may ms d = some d') : M.Reachable d.config d'.config := by
  induction ms generalizing d with
  | nil =>
    obtain rfl := Option.some.inj h
    exact ⟨[], rfl⟩
  | cons m ms ih =>
    obtain ⟨e, he, hrest⟩ := Option.bind_eq_some_iff.mp h
    obtain ⟨moves, hmoves⟩ := ih hrest
    cases m with
    | run m =>
      refine ⟨m :: moves, ?_⟩
      rw [replay, (cancelMove_run he).2.1, Option.bind_some]
      exact hmoves
    | drop t =>
      rw [cancelMove_drop he] at hmoves
      exact ⟨moves, hmoves⟩

variable (M may) in
/-- `P` holds of every configuration on the way. -/
def Throughout (ms : List (CancelMove τ ι χ)) (d : Cancelled S τ ρ σ)
    (P : Cancelled S τ ρ σ → Prop) : Prop :=
  ∀ earlier later e, ms = earlier ++ later → M.cancelReplay may earlier d = some e → P e

variable (M may) in
/-- `P` holds of every move and of the configuration that it is made in. -/
def EachMove (ms : List (CancelMove τ ι χ)) (d : Cancelled S τ ρ σ)
    (P : CancelMove τ ι χ → Cancelled S τ ρ σ → Prop) : Prop :=
  ∀ earlier m later e, ms = earlier ++ m :: later → M.cancelReplay may earlier d = some e → P m e

theorem EachMove.of_append {ms ms' : List (CancelMove τ ι χ)}
    {P : CancelMove τ ι χ → Cancelled S τ ρ σ → Prop} (h : M.EachMove may (ms ++ ms') d P) :
    M.EachMove may ms d P := by
  rintro earlier m later e rfl he
  exact h earlier m (later ++ ms') e (by simp) he

/-- In a run whose last move is its only drop, that drop is what matters. -/
theorem eachMove_of_last_drop {ms : List (Move τ ι χ)} {t : τ}
    {P : CancelMove τ ι χ → Cancelled S τ ρ σ → Prop} (hrun : ∀ m e, P (.run m) e)
    (hdrop : ∀ e, M.cancelReplay may (ms.map .run) d = some e → P (.drop t) e) :
    M.EachMove may (ms.map .run ++ [.drop t]) d P := by
  intro earlier m later e hms he
  cases m with
  | run m => exact hrun m e
  | drop t' =>
    have hlast : ∀ b bs, ms.map .run = earlier ++ b :: bs → b ≠ .drop t' := by
      rintro b bs hruns rfl
      obtain ⟨m, -, hm⟩ := List.mem_map.mp (hruns ▸ List.mem_append_right _ (.head _))
      cases hm
    rcases List.append_eq_append_iff.mp hms with ⟨as, rfl, htail⟩ | ⟨bs, hruns, htail⟩
    · cases as with
      | nil =>
        obtain rfl := CancelMove.drop.inj (List.cons.inj htail).1
        rw [List.append_nil] at he
        exact hdrop e he
      | cons a as => simp at htail
    · cases bs with
      | nil =>
        obtain rfl := CancelMove.drop.inj (List.cons.inj htail).1
        rw [List.append_nil] at hruns
        exact hdrop e (hruns ▸ he)
      | cons b bs => exact absurd (List.cons.inj htail).1.symm (hlast b bs hruns)

/-- A property kept by every move that meets `P` holds after a run all of whose moves do. -/
theorem EachMove.invariant {ms : List (CancelMove τ ι χ)}
    {P : CancelMove τ ι χ → Cancelled S τ ρ σ → Prop} (h : M.EachMove may ms d P)
    (J : Cancelled S τ ρ σ → Prop)
    (hstep : ∀ m e e', J e → P m e → M.cancelMove may m e = some e' → J e') (h₀ : J d)
    (hrun : M.cancelReplay may ms d = some d') : J d' := by
  induction ms generalizing d with
  | nil =>
    obtain rfl := Option.some.inj hrun
    exact h₀
  | cons m ms ih =>
    obtain ⟨e, he, hrest⟩ := Option.bind_eq_some_iff.mp hrun
    have hm : P m d := h [] m ms d rfl rfl
    refine ih (fun earlier m' later e' hms he' => ?_) (hstep m d e h₀ hm he) hrest
    apply h (m :: earlier) m' later e'
    · rw [hms]
      rfl
    · rw [cancelReplay, he, Option.bind_some]
      exact he'

/-- A move adds an event of its own task to the log, or none. -/
theorem logged_move {M : System S τ ρ ι σ χ} {m : Move τ ι χ}
    {c c' : Config S τ ρ (σ × Log S τ)} (h : M.logged.move m c = some c') :
    c'.shared.2 = c.shared.2 ∨ ∃ e, c'.shared.2 = (m.task, e) :: c.shared.2 := by
  cases m with
  | start t i =>
    rw [move] at h
    split at h
    · obtain ⟨p, -, rfl⟩ := Option.map_eq_some_iff.mp h
      exact .inl rfl
    · cases h
  | act t ch =>
    rw [move] at h
    split at h
    · rename_i o k _
      obtain ⟨⟨r, x⟩, hop, rfl⟩ := Option.map_eq_some_iff.mp h
      rw [logged_handler] at hop
      exact .inr ⟨⟨o, r⟩, (Handler.observe_eq_some.mp hop).2⟩
    · cases h
  | finish t =>
    rw [move] at h
    split at h
    · obtain rfl := Option.some.inj h
      exact .inl rfl
    · cases h

end System

end Concurrency
