import Jrok.Concurrency.Prog
import Mathlib.Logic.Function.Basic

/-!
# Pools of tasks over a shared state

A `System` is a pool of tasks that share one state. A task is idle with a local value, or busy
with the rest of a program; an idle task may start the next program its local value and an
input allow, and the value the program returns is its next local value. A busy task takes one
operation at a time, so a reachable configuration is any interleaving of the tasks' operations.

`Reachable.shared_invariant` lifts a property that every operation keeps.
`Outline` lifts local proofs: if every program meets its weakest precondition under the
interference the other tasks guarantee, then so does what is left of each task in every
reachable configuration.
-/

namespace Concurrency

variable {S : Sig} {τ ρ ι σ γ χ : Type}

/-- A task between two programs, holding its local value, or inside one. -/
inductive Task (S : Sig) (ρ : Type) : Type where
  | idle (l : ρ)
  | busy (p : Prog S ρ)

/-- The shared state and the task of every task identifier. -/
structure Config (S : Sig) (τ ρ σ : Type) where
  shared : σ
  task : τ → Task S ρ

/-- What a task has returned, where an idle task keeps its answer. -/
def Config.answer (c : Config S τ (Option ρ) σ) (t : τ) : Option ρ :=
  match c.task t with
  | .idle answer => answer
  | .busy _ => none

theorem Config.task_of_answer {c : Config S τ (Option ρ) σ} {t : τ} {a : ρ}
    (h : c.answer t = some a) : c.task t = .idle (some a) := by
  unfold answer at h
  cases htask : c.task t with
  | idle answer =>
    rw [htask] at h
    exact congrArg Task.idle h
  | busy p => simp [htask] at h

/-- One scheduling decision. -/
inductive Move (τ ι χ : Type) where
  | start (t : τ) (i : ι)
  | act (t : τ) (c : χ)
  | finish (t : τ)

/-- What the operations of each task mean, and the program a task runs next (`none`: not
    allowed). -/
structure System (S : Sig) (τ ρ ι σ χ : Type) where
  handler : τ → Handler S σ χ
  body : τ → ρ → ι → Option (Prog S ρ)

namespace System

variable [DecidableEq τ] (M : System S τ ρ ι σ χ)

/-- The configuration after one move, if the move is possible. -/
def move : Move τ ι χ → Config S τ ρ σ → Option (Config S τ ρ σ)
  | .start t i, c =>
    match c.task t with
    | .idle l => (M.body t l i).map fun p => { c with task := Function.update c.task t (.busy p) }
    | .busy _ => none
  | .act t ch, c =>
    match c.task t with
    | .busy (.op o k) => (M.handler t ch o c.shared).map fun rs =>
        { shared := rs.2, task := Function.update c.task t (.busy (k rs.1)) }
    | _ => none
  | .finish t, c =>
    match c.task t with
    | .busy (.ret l) => some { c with task := Function.update c.task t (.idle l) }
    | _ => none

/-- The configuration after a list of moves. -/
def replay : List (Move τ ι χ) → Config S τ ρ σ → Option (Config S τ ρ σ)
  | [], c => some c
  | m :: ms, c => (M.move m c).bind (replay ms)

/-- `c` is reached from `c₀` by some moves. -/
def Reachable (c₀ c : Config S τ ρ σ) : Prop := ∃ ms, M.replay ms c₀ = some c

/-- What a move does, one disjunct for each kind. -/
theorem move_cases {m : Move τ ι χ} {c c' : Config S τ ρ σ} (hm : M.move m c = some c') :
    (∃ t l i p, c.task t = .idle l ∧ M.body t l i = some p ∧
      c' = { c with task := Function.update c.task t (.busy p) }) ∨
    (∃ t o k ch r s', c.task t = .busy (.op o k) ∧ M.handler t ch o c.shared = some (r, s') ∧
      c' = { shared := s', task := Function.update c.task t (.busy (k r)) }) ∨
    (∃ t l, c.task t = .busy (.ret l) ∧
      c' = { c with task := Function.update c.task t (.idle l) }) := by
  cases m with
  | start t i =>
    cases ht : c.task t with
    | idle l =>
      simp only [move, ht, Option.map_eq_some_iff] at hm
      obtain ⟨p, hp, rfl⟩ := hm
      exact .inl ⟨t, l, i, p, ht, hp, rfl⟩
    | busy p => simp [move, ht] at hm
  | act t ch =>
    cases ht : c.task t with
    | idle l => simp [move, ht] at hm
    | busy p =>
      cases p with
      | ret l => simp [move, ht] at hm
      | op o k =>
        simp only [move, ht, Option.map_eq_some_iff] at hm
        obtain ⟨⟨r, s'⟩, hop, rfl⟩ := hm
        exact .inr (.inl ⟨t, o, k, ch, r, s', ht, hop, rfl⟩)
  | finish t =>
    cases ht : c.task t with
    | idle l => simp [move, ht] at hm
    | busy p =>
      cases p with
      | ret l =>
        simp only [move, ht, Option.some.injEq] at hm
        exact .inr (.inr ⟨t, l, ht, hm.symm⟩)
      | op o k => simp [move, ht] at hm

variable {M} in
/-- A task that has returned becomes idle. -/
theorem replay_finish {t : τ} {l : ρ} {c : Config S τ ρ σ} (ht : c.task t = .busy (.ret l)) :
    ∃ ms c', M.replay ms c = some c' ∧ c'.task t = .idle l :=
  ⟨[.finish t], { c with task := Function.update c.task t (.idle l) }, by simp [replay, move, ht],
    by simp⟩

variable {M} in
/-- One operation of a task, and on from there. -/
theorem replay_act {t : τ} {o : S.Op} {k : S.Res o → Prog S ρ} {ch : χ} {r : S.Res o} {s' : σ}
    {c : Config S τ ρ σ} (ht : c.task t = .busy (.op o k))
    (hop : M.handler t ch o c.shared = some (r, s')) (ms : List (Move τ ι χ)) :
    M.replay (.act t ch :: ms) c =
      M.replay ms { shared := s', task := Function.update c.task t (.busy (k r)) } := by
  simp [replay, move, ht, hop]

variable {M}

/-- A property of configurations kept by every move holds in every reachable one. -/
theorem Reachable.invariant {c₀ c : Config S τ ρ σ} (hr : M.Reachable c₀ c)
    (J : Config S τ ρ σ → Prop) (hstep : ∀ m d d', J d → M.move m d = some d' → J d')
    (h₀ : J c₀) : J c := by
  obtain ⟨ms, hms⟩ := hr
  induction ms generalizing c₀ with
  | nil =>
    obtain rfl : c₀ = c := by simpa [replay] using hms
    exact h₀
  | cons m ms ih =>
    obtain ⟨d, hd, hrest⟩ := Option.bind_eq_some_iff.mp hms
    exact ih (hstep m c₀ d h₀ hd) hrest

/-- A property of the shared state kept by every operation holds in every reachable
    configuration, whatever the programs are. -/
theorem Reachable.shared_invariant {c₀ c : Config S τ ρ σ} (hr : M.Reachable c₀ c)
    (I : σ → Prop)
    (hop : ∀ t ch o s r s', I s → M.handler t ch o s = some (r, s') → I s')
    (h₀ : I c₀.shared) : I c.shared := by
  refine hr.invariant (fun d => I d.shared) ?_ h₀
  intro m d d' hd hm
  rcases M.move_cases hm with ⟨t, l, i, p, -, -, rfl⟩ | ⟨t, o, k, ch, r, s', -, hop', rfl⟩ |
    ⟨t, l, -, rfl⟩
  · exact hd
  · exact hop t ch o d.shared r s' hd hop'
  · exact hd

/-- What is left of a task issues only operations that satisfy `P`. -/
def TaskIssues (P : S.Op → Prop) : Task S ρ → Prop
  | .idle _ => True
  | .busy p => p.Issues P

/-- A property of the shared state kept by every operation that the programs may issue. -/
theorem Reachable.shared_invariant_of_issues {P : τ → S.Op → Prop} {c₀ c : Config S τ ρ σ}
    (hr : M.Reachable c₀ c) (hbody : ∀ t l i p, M.body t l i = some p → p.Issues (P t))
    (hstart : ∀ t, TaskIssues (P t) (c₀.task t)) (I : σ → Prop)
    (hop : ∀ t ch o s r s', P t o → I s → M.handler t ch o s = some (r, s') → I s')
    (h₀ : I c₀.shared) : I c.shared := by
  refine (hr.invariant (fun d => I d.shared ∧ ∀ t, TaskIssues (P t) (d.task t)) ?_ ⟨h₀, hstart⟩).1
  rintro m d d' ⟨hI, htasks⟩ hm
  rcases M.move_cases hm with ⟨t, l, i, p, -, hp, rfl⟩ | ⟨t, o, k, ch, r, s', ht, hop', rfl⟩ |
    ⟨t, l, -, rfl⟩
  · refine ⟨hI, fun u => ?_⟩
    by_cases hu : u = t
    · subst hu
      simpa [TaskIssues] using hbody u l i p hp
    · simpa [hu] using htasks u
  · have hissues := htasks t
    rw [ht] at hissues
    refine ⟨hop t ch o d.shared r s' hissues.1 hI hop', fun u => ?_⟩
    by_cases hu : u = t
    · subst hu
      simpa [TaskIssues] using hissues.2 r
    · simpa [hu] using htasks u
  · refine ⟨hI, fun u => ?_⟩
    by_cases hu : u = t
    · subst hu
      simp [TaskIssues]
    · simpa [hu] using htasks u

/-! ## Rely-guarantee proof outlines -/

variable (M) in
omit [DecidableEq τ] in
/-- A proof outline: an invariant of the shared state, what each task relies on and guarantees,
    what holds of its local value, and the proof that every program it may start is correct
    under that interference. -/
structure Outline where
  inv : σ → Prop
  rely : τ → σ → σ → Prop
  guar : τ → σ → σ → Prop
  loc : τ → ρ → σ → Prop
  rely_refl : ∀ t s, rely t s s
  rely_trans : ∀ t s₁ s₂ s₃, rely t s₁ s₂ → rely t s₂ s₃ → rely t s₁ s₃
  guar_rely : ∀ t u s s', t ≠ u → guar t s s' → rely u s s'
  loc_stable : ∀ t l s s', loc t l s → rely t s s' → loc t l s'
  body_ok : ∀ t l i p s, M.body t l i = some p → inv s → loc t l s →
    p.wp (M.handler t) inv (rely t) (guar t) (loc t) s

namespace Outline

variable (O : Outline M)

/-- What is left of task `t` is correct: its local value satisfies `loc`, or the rest of its
    program has a weakest precondition for it. -/
def TaskOk (t : τ) (s : σ) : Task S ρ → Prop
  | .idle l => O.loc t l s
  | .busy p => p.wp (M.handler t) O.inv (O.rely t) (O.guar t) (O.loc t) s

/-- The invariant holds and every task is correct. -/
def Holds (c : Config S τ ρ σ) : Prop :=
  O.inv c.shared ∧ ∀ t, O.TaskOk t c.shared (c.task t)

omit [DecidableEq τ] in
@[simp] theorem taskOk_idle {t : τ} {s : σ} {l : ρ} :
    O.TaskOk t s (.idle l) ↔ O.loc t l s := Iff.rfl

omit [DecidableEq τ] in
@[simp] theorem taskOk_busy {t : τ} {s : σ} {p : Prog S ρ} :
    O.TaskOk t s (.busy p) ↔ p.wp (M.handler t) O.inv (O.rely t) (O.guar t) (O.loc t) s := Iff.rfl

omit [DecidableEq τ] in
variable {O} in
/-- Interference that a task relies on keeps it correct. -/
theorem TaskOk.stable {t : τ} {s s' : σ} {a : Task S ρ} (hok : O.TaskOk t s a)
    (hR : O.rely t s s') : O.TaskOk t s' a := by
  cases a with
  | idle l => exact O.loc_stable t l s s' hok hR
  | busy p =>
    exact Prog.wp_stable (O.rely_trans t) (fun l hl => O.loc_stable t l s s' hl hR) hR hok

variable {O}

/-- A move keeps the outline, and changes the shared state only within a guarantee. -/
theorem Holds.move {m : Move τ ι χ} {c c' : Config S τ ρ σ} (h : O.Holds c)
    (hm : M.move m c = some c') :
    O.Holds c' ∧ (c'.shared = c.shared ∨ ∃ t, O.guar t c.shared c'.shared) := by
  obtain ⟨hI, hok⟩ := h
  rcases M.move_cases hm with ⟨t, l, i, p, ht, hp, rfl⟩ | ⟨t, o, k, ch, r, s', ht, hop, rfl⟩ |
    ⟨t, l, ht, rfl⟩
  · refine ⟨⟨hI, fun u => ?_⟩, .inl rfl⟩
    by_cases hu : u = t
    · subst hu
      have hl : O.loc u l c.shared := by simpa [ht] using hok u
      simpa using O.body_ok u l i p c.shared hp hI hl
    · simpa [hu] using hok u
  · have hwp := hok t
    rw [ht] at hwp
    obtain ⟨hI', hG, hk⟩ := hwp c.shared (O.rely_refl t c.shared) hI ch r s' hop
    refine ⟨⟨hI', fun u => ?_⟩, .inr ⟨t, hG⟩⟩
    by_cases hu : u = t
    · subst hu
      simpa using hk
    · have hstable := (hok u).stable (O.guar_rely t u c.shared s' (Ne.symm hu) hG)
      simpa [hu] using hstable
  · refine ⟨⟨hI, fun u => ?_⟩, .inl rfl⟩
    by_cases hu : u = t
    · subst hu
      simpa [ht] using hok u
    · simpa [hu] using hok u

/-- The rely-guarantee rule: an outline that holds at the start holds in every reachable
    configuration. -/
theorem Holds.reachable {c₀ c : Config S τ ρ σ} (h₀ : O.Holds c₀) (hr : M.Reachable c₀ c) :
    O.Holds c :=
  hr.invariant O.Holds (fun _ _ _ hd hm => (hd.move hm).1) h₀

/-- A preorder that contains every guarantee relates the shared states along a run. -/
theorem Holds.monotone {T : σ → σ → Prop} (hrefl : ∀ s, T s s)
    (htrans : ∀ s₁ s₂ s₃, T s₁ s₂ → T s₂ s₃ → T s₁ s₃)
    (hguar : ∀ t s s', O.guar t s s' → T s s') {c₀ c : Config S τ ρ σ} (h₀ : O.Holds c₀)
    (hr : M.Reachable c₀ c) : T c₀.shared c.shared := by
  refine (hr.invariant (fun d => O.Holds d ∧ T c₀.shared d.shared) ?_ ⟨h₀, hrefl _⟩).2
  rintro m d d' ⟨hd, hT⟩ hm
  obtain ⟨hd', heq | ⟨t, hG⟩⟩ := hd.move hm
  · exact ⟨hd', heq ▸ hT⟩
  · exact ⟨hd', htrans _ _ _ hT (hguar t _ _ hG)⟩

end Outline

/-! ## Conditions on the operations, and history variables -/

/-- The system in which a task takes an operation only where `P` holds of it, its response and
    the state before: its runs are the runs of `M` all of whose operations meet `P`. -/
def restrict (M : System S τ ρ ι σ χ) (P : τ → (o : S.Op) → S.Res o → σ → Prop)
    [∀ t o r s, Decidable (P t o r s)] : System S τ ρ ι σ χ where
  handler t := (M.handler t).restrict (P t)
  body := M.body

/-- The system with a history variable beside the shared state. -/
def observe (M : System S τ ρ ι σ χ) (f : τ → (o : S.Op) → S.Res o → σ → γ → γ) :
    System S τ ρ ι (σ × γ) χ where
  handler t := (M.handler t).observe (f t)
  body := M.body

omit [DecidableEq τ] in
@[simp] theorem restrict_handler (P : τ → (o : S.Op) → S.Res o → σ → Prop)
    [∀ t o r s, Decidable (P t o r s)] (t : τ) :
    (M.restrict P).handler t = (M.handler t).restrict (P t) := rfl

omit [DecidableEq τ] in
@[simp] theorem observe_handler (f : τ → (o : S.Op) → S.Res o → σ → γ → γ) (t : τ) :
    (M.observe f).handler t = (M.handler t).observe (f t) := rfl

omit [DecidableEq τ] in
@[simp] theorem observe_body (f : τ → (o : S.Op) → S.Res o → σ → γ → γ) :
    (M.observe f).body = M.body := rfl

/-- A move under a condition on the operations is a move. -/
theorem move_of_restrict {P : τ → (o : S.Op) → S.Res o → σ → Prop}
    [∀ t o r s, Decidable (P t o r s)] {m : Move τ ι χ} {c c' : Config S τ ρ σ}
    (h : (M.restrict P).move m c = some c') : M.move m c = some c' := by
  cases m with
  | start u i => exact h
  | finish u => exact h
  | act u ch =>
    cases hu : c.task u with
    | idle l => simp [move, hu] at h
    | busy p =>
      cases p with
      | ret l => simp [move, hu] at h
      | op o k =>
        simp only [move, hu] at h ⊢
        obtain ⟨⟨r, s'⟩, hop, rfl⟩ := Option.map_eq_some_iff.mp h
        rw [(Handler.restrict_eq_some.mp hop).1]
        rfl

theorem Reachable.of_restrict {P : τ → (o : S.Op) → S.Res o → σ → Prop}
    [∀ t o r s, Decidable (P t o r s)] {c c' : Config S τ ρ σ}
    (h : (M.restrict P).Reachable c c') : M.Reachable c c' := by
  obtain ⟨ms, hms⟩ := h
  refine ⟨ms, ?_⟩
  induction ms generalizing c with
  | nil => exact hms
  | cons m ms ih =>
    obtain ⟨d, hd, hrest⟩ := Option.bind_eq_some_iff.mp hms
    rw [replay, move_of_restrict hd, Option.bind_some]
    exact ih hrest

/-- The configuration without its history. -/
def Config.erase (c : Config S τ ρ (σ × γ)) : Config S τ ρ σ := ⟨c.shared.1, c.task⟩

/-- One move with a history is the same move without it. -/
theorem move_observe {f : τ → (o : S.Op) → S.Res o → σ → γ → γ} (m : Move τ ι χ)
    (c : Config S τ ρ (σ × γ)) :
    M.move m (Config.erase c) = ((M.observe f).move m c).map Config.erase := by
  cases m with
  | start t i =>
    simp only [move, Config.erase]
    split <;> simp [Function.comp_def, Config.erase]
  | finish t =>
    simp only [move, Config.erase]
    split <;> simp [Config.erase]
  | act t ch =>
    simp only [move, Config.erase]
    split <;> simp [Handler.observe, Function.comp_def, Config.erase]

/-- History variables neither add nor remove runs. -/
theorem reachable_observe_iff {f : τ → (o : S.Op) → S.Res o → σ → γ → γ}
    {c₀ : Config S τ ρ (σ × γ)} {c : Config S τ ρ σ} :
    M.Reachable (Config.erase c₀) c ↔
      ∃ c', (M.observe f).Reachable c₀ c' ∧ Config.erase c' = c := by
  have hreplay : ∀ ms (d : Config S τ ρ (σ × γ)),
      M.replay ms (Config.erase d) = ((M.observe f).replay ms d).map Config.erase := by
    intro ms
    induction ms with
    | nil => intro d; rfl
    | cons m ms ih =>
      intro d
      simp only [replay, move_observe (f := f), Option.bind_map, Option.map_bind]
      exact congrArg _ (funext fun e => ih e)
  simp only [Reachable, hreplay, Option.map_eq_some_iff]
  exact ⟨fun ⟨ms, c', hc', he⟩ => ⟨c', ⟨ms, hc'⟩, he⟩, fun ⟨c', ⟨ms, hc'⟩, he⟩ => ⟨ms, c', hc', he⟩⟩

end System

end Concurrency
