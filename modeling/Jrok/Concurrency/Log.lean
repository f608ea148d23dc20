import Jrok.Concurrency.Pool

/-!
# Logs of runs

A run of a pool can be observed as a log: which task performed which operation and what the
response was, the latest first. The events of one task are a path through its program, whatever
the other tasks do in between, so what a task has seen tells where it stands.

`Path` is that reading of a program: any responses at all, without a handler. `Causal` says that
each event of a log is accounted for by the events before it; an invariant of this form is proved
by looking at one operation at a time.
-/

namespace Concurrency

variable {S : Sig} {τ α β σ χ : Type}

/-- An operation and the response to it. -/
abbrev Event (S : Sig) : Type := Σ o : S.Op, S.Res o

/-! ## Paths -/

namespace Prog

/-- `q` is what is left of the program after the events, the oldest first. -/
inductive Path : Prog S α → List (Event S) → Prog S α → Prop where
  | nil (p : Prog S α) : Path p [] p
  | cons {o : S.Op} {k : S.Res o → Prog S α} {r : S.Res o} {es : List (Event S)} {q : Prog S α}
      (hk : Path (k r) es q) : Path (.op o k) (⟨o, r⟩ :: es) q

theorem path_nil_iff {p q : Prog S α} : Path p [] q ↔ q = p := by
  constructor
  · rintro ⟨⟩
    rfl
  · rintro rfl
    exact .nil q

theorem path_ret_iff {a : α} {es : List (Event S)} {q : Prog S α} :
    Path (.ret a) es q ↔ es = [] ∧ q = .ret a := by
  constructor
  · rintro ⟨⟩
    exact ⟨rfl, rfl⟩
  · rintro ⟨rfl, rfl⟩
    exact .nil _

theorem path_op_iff {o : S.Op} {k : S.Res o → Prog S α} {es : List (Event S)} {q : Prog S α} :
    Path (.op o k) es q ↔
      (es = [] ∧ q = .op o k) ∨ ∃ r rest, es = ⟨o, r⟩ :: rest ∧ Path (k r) rest q := by
  constructor
  · rintro (_ | hk)
    · exact .inl ⟨rfl, rfl⟩
    · exact .inr ⟨_, _, rfl, hk⟩
  · rintro (⟨rfl, rfl⟩ | ⟨r, rest, rfl, hk⟩)
    · exact .nil _
    · exact .cons hk

/-- One more operation. -/
theorem Path.snoc {p : Prog S α} {es : List (Event S)} {o : S.Op} {k : S.Res o → Prog S α}
    (h : Path p es (.op o k)) (r : S.Res o) : Path p (es ++ [⟨o, r⟩]) (k r) := by
  generalize hq : (Prog.op o k : Prog S α) = q at h
  induction h with
  | nil p =>
    subst hq
    exact .cons (.nil _)
  | cons hk ih => exact .cons (ih hq)

/-- A path goes through what is left after each of its parts. -/
theorem path_append_iff {p q : Prog S α} {es₁ es₂ : List (Event S)} :
    Path p (es₁ ++ es₂) q ↔ ∃ p', Path p es₁ p' ∧ Path p' es₂ q := by
  induction es₁ generalizing p with
  | nil =>
    constructor
    · intro h
      exact ⟨p, .nil p, h⟩
    · rintro ⟨p', ⟨⟩, h⟩
      exact h
  | cons e es₁ ih =>
    constructor
    · rintro (_ | hk)
      obtain ⟨p', h₁, h₂⟩ := ih.mp hk
      exact ⟨p', .cons h₁, h₂⟩
    · rintro ⟨p', _ | hk, h₂⟩
      exact .cons (ih.mpr ⟨p', hk, h₂⟩)

/-- A path of a sequence is one of its first part, or goes through its first part to a value. -/
theorem path_bind_iff {p : Prog S α} {f : α → Prog S β} {es : List (Event S)} {q : Prog S β} :
    Path (p >>= f) es q ↔
      (∃ p', Path p es p' ∧ q = p' >>= f) ∨
      ∃ es₁ es₂ a, es = es₁ ++ es₂ ∧ Path p es₁ (.ret a) ∧ Path (f a) es₂ q := by
  induction p generalizing es with
  | ret a =>
    rw [ret_bind]
    constructor
    · intro hf
      exact .inr ⟨[], es, a, rfl, .nil _, hf⟩
    · rintro (⟨p', hp, rfl⟩ | ⟨es₁, es₂, b, rfl, hp, hf⟩)
      · obtain ⟨rfl, rfl⟩ := path_ret_iff.mp hp
        exact .nil _
      · obtain ⟨rfl, hb⟩ := path_ret_iff.mp hp
        obtain rfl := Prog.ret.inj hb
        exact hf
  | op o k ih =>
    rw [op_bind]
    constructor
    · intro hop
      rcases path_op_iff.mp hop with ⟨rfl, rfl⟩ | ⟨r, rest, rfl, hk⟩
      · exact .inl ⟨_, .nil _, rfl⟩
      · rcases (ih r).mp hk with ⟨p', hp, rfl⟩ | ⟨es₁, es₂, a, rfl, hp, hf⟩
        · exact .inl ⟨p', .cons hp, rfl⟩
        · exact .inr ⟨⟨o, r⟩ :: es₁, es₂, a, rfl, .cons hp, hf⟩
    · rintro (⟨p', hp, rfl⟩ | ⟨es₁, es₂, a, rfl, hp, hf⟩)
      · rcases path_op_iff.mp hp with ⟨rfl, rfl⟩ | ⟨r, rest, rfl, hk⟩
        · exact .nil _
        · exact .cons ((ih r).mpr (.inl ⟨p', hk, rfl⟩))
      · rcases path_op_iff.mp hp with ⟨-, hq⟩ | ⟨r, rest, rfl, hk⟩
        · cases hq
        · exact .cons ((ih r).mpr (.inr ⟨rest, es₂, a, rfl, hk, hf⟩))

/-- A path to a value goes through the first operation. -/
theorem path_op_ret_iff {o : S.Op} {k : S.Res o → Prog S α} {es : List (Event S)} {a : α} :
    Path (.op o k) es (.ret a) ↔
      ∃ r rest, es = ⟨o, r⟩ :: rest ∧ Path (k r) rest (.ret a) := by
  rw [path_op_iff]
  simp

/-- A path of a sequence to a value is one of each part. -/
theorem path_bind_ret_iff {p : Prog S α} {f : α → Prog S β} {es : List (Event S)} {b : β} :
    Path (p >>= f) es (.ret b) ↔
      ∃ es₁ es₂ a, es = es₁ ++ es₂ ∧ Path p es₁ (.ret a) ∧ Path (f a) es₂ (.ret b) := by
  rw [path_bind_iff]
  constructor
  · rintro (⟨p', hp, hq⟩ | hvalue)
    · cases p' with
      | ret a =>
        rw [ret_bind] at hq
        exact ⟨es, [], a, by simp, hp, hq ▸ .nil _⟩
      | op o k => cases hq
    · exact hvalue
  · exact .inr

/-- The last event of a path: there is none in a program that has ended. -/
theorem not_path_ret_snoc {a : α} {es : List (Event S)} {e : Event S} {q : Prog S α} :
    ¬ Path (.ret a) (es ++ [e]) q := by
  intro h
  have hnil := (path_ret_iff.mp h).1
  simp at hnil

theorem path_op_snoc_iff {o : S.Op} {k : S.Res o → Prog S α} {es : List (Event S)} {e : Event S}
    {q : Prog S α} :
    Path (.op o k) (es ++ [e]) q ↔
      (es = [] ∧ ∃ r, e = ⟨o, r⟩ ∧ q = k r) ∨
      ∃ r rest, es = ⟨o, r⟩ :: rest ∧ Path (k r) (rest ++ [e]) q := by
  constructor
  · intro h
    rcases path_op_iff.mp h with ⟨hnil, -⟩ | ⟨r, rest, heq, hk⟩
    · simp at hnil
    · cases es with
      | nil =>
        obtain ⟨rfl, rfl⟩ := List.cons.inj heq
        exact .inl ⟨rfl, r, rfl, path_nil_iff.mp hk⟩
      | cons e' es =>
        obtain ⟨rfl, rfl⟩ := List.cons.inj heq
        exact .inr ⟨r, es, rfl, hk⟩
  · rintro (⟨rfl, r, rfl, rfl⟩ | ⟨r, rest, rfl, hk⟩)
    · exact .cons (.nil _)
    · exact .cons hk

theorem path_bind_snoc_iff {p : Prog S α} {f : α → Prog S β} {es : List (Event S)} {e : Event S}
    {q : Prog S β} :
    Path (p >>= f) (es ++ [e]) q ↔
      (∃ p', Path p (es ++ [e]) p' ∧ q = p' >>= f) ∨
      ∃ es₁ es₂ a, es = es₁ ++ es₂ ∧ Path p es₁ (.ret a) ∧ Path (f a) (es₂ ++ [e]) q := by
  rw [path_bind_iff]
  constructor
  · rintro (hfirst | ⟨es₁, es₂, a, heq, hp, hf⟩)
    · exact .inl hfirst
    · rcases List.eq_nil_or_concat es₂ with rfl | ⟨es₃, e', rfl⟩
      · rw [List.append_nil] at heq
        rw [path_nil_iff] at hf
        exact .inl ⟨.ret a, heq ▸ hp, hf⟩
      · rw [List.concat_eq_append, ← List.append_assoc] at heq
        obtain ⟨rfl, he⟩ := List.append_inj' heq rfl
        obtain rfl := (List.cons.inj he).1
        rw [List.concat_eq_append] at hf
        exact .inr ⟨es₁, es₃, a, rfl, hp, hf⟩
  · rintro (hfirst | ⟨es₁, es₂, a, rfl, hp, hf⟩)
    · exact .inl hfirst
    · exact .inr ⟨es₁, es₂ ++ [e], a, List.append_assoc .., hp, hf⟩

/-- Where only the value is left to be made, the last event is one of the first part. -/
theorem Path.of_bind_ret {p : Prog S α} {f : α → β} {es : List (Event S)} {e : Event S}
    {q : Prog S β} (h : Path (p >>= fun a => .ret (f a)) (es ++ [e]) q) :
    ∃ p', Path p (es ++ [e]) p' := by
  rcases path_bind_snoc_iff.mp h with ⟨p', hp, -⟩ | ⟨_, _, _, -, -, hret⟩
  · exact ⟨p', hp⟩
  · exact absurd hret not_path_ret_snoc

/-- A path consists of operations that the program may issue. -/
theorem Path.issues {P : S.Op → Prop} {p q : Prog S α} {es : List (Event S)} (h : Path p es q)
    (hp : p.Issues P) : (∀ e ∈ es, P e.1) ∧ q.Issues P := by
  induction h with
  | nil p => exact ⟨by simp, hp⟩
  | cons hk ih =>
    obtain ⟨hes, hq⟩ := ih (hp.2 _)
    exact ⟨List.forall_mem_cons.mpr ⟨hp.1, hes⟩, hq⟩

/-- The events happen from the first state to the second, while before each of them and after the
    last one others move the state along `R`. -/
inductive Along (h : Handler S σ χ) (R : σ → σ → Prop) : List (Event S) → σ → σ → Prop where
  | nil {s s' : σ} (hR : R s s') : Along h R [] s s'
  | cons {o : S.Op} {r : S.Res o} {es : List (Event S)} {c : χ} {s s₁ s₂ s' : σ} (hR : R s s₁)
      (hop : h c o s₁ = some (r, s₂)) (hes : Along h R es s₂ s') : Along h R (⟨o, r⟩ :: es) s s'

/-- Where every event stays inside `R`, so does the whole. -/
theorem Along.within {h : Handler S σ χ} {R : σ → σ → Prop} {es : List (Event S)} {s s' : σ}
    (halong : Along h R es s s') (htrans : ∀ s₁ s₂ s₃, R s₁ s₂ → R s₂ s₃ → R s₁ s₃)
    (hes : ∀ e ∈ es, ∀ c s₁ s₂, h c e.1 s₁ = some (e.2, s₂) → R s₁ s₂) : R s s' := by
  induction halong with
  | nil hR => exact hR
  | cons hR hop _ ih =>
    have hstep := hes _ (List.mem_cons_self ..) _ _ _ hop
    exact htrans _ _ _ hR (htrans _ _ _ hstep (ih fun e he => hes e (List.mem_cons_of_mem _ he)))

end Prog

/-! ## Causal lists -/

section Causal

variable {E κ : Type}

/-- Every entry satisfies `P` with the older entries behind it. -/
def Causal (P : E → List E → Prop) : List E → Prop
  | [] => True
  | e :: older => P e older ∧ Causal P older

variable {P : E → List E → Prop} {log : List E}

theorem Causal.of_append {newer : List E} (h : Causal P (newer ++ log)) : Causal P log := by
  induction newer with
  | nil => exact h
  | cons e newer ih => exact ih h.2

theorem Causal.at_split {e : E} {newer older : List E} (h : Causal P (newer ++ e :: older)) :
    P e older := by
  have hrest : Causal P (e :: older) := h.of_append
  exact hrest.1

theorem Causal.imp {P' : E → List E → Prop} (hP : ∀ e older, P e older → P' e older)
    (h : Causal P log) : Causal P' log := by
  induction log with
  | nil => trivial
  | cons e older ih => exact ⟨hP e older h.1, ih h.2⟩

/-- Entries whose key no older entry has are determined by their key. -/
theorem Causal.unique (key : E → Option κ) (h : Causal P log)
    (hkey : ∀ e older k, P e older → key e = some k → ∀ e' ∈ older, key e' ≠ some k) {e e' : E}
    {k : κ} (he : e ∈ log) (he' : e' ∈ log) (hek : key e = some k) (hek' : key e' = some k) :
    e = e' := by
  induction log with
  | nil => simp at he
  | cons head older ih =>
    rcases List.mem_cons.mp he with rfl | hold <;> rcases List.mem_cons.mp he' with rfl | hold'
    · rfl
    · exact absurd hek' (hkey e older k h.1 hek e' hold')
    · exact absurd hek (hkey e' older k h.1 hek' e hold)
    · exact ih h.2 hold hold'

end Causal

/-! ## Logs of a pool -/

/-- The events of a run with the tasks that performed them, the latest first. -/
abbrev Log (S : Sig) (τ : Type) : Type := List (τ × Event S)

/-- The events of one task, the oldest first. -/
def Log.own [DecidableEq τ] (t : τ) : Log S τ → List (Event S)
  | [] => []
  | (u, e) :: log => if u = t then Log.own t log ++ [e] else Log.own t log

theorem Log.mem_own [DecidableEq τ] {t : τ} {e : Event S} {log : Log S τ} :
    e ∈ Log.own t log ↔ (t, e) ∈ log := by
  induction log with
  | nil => simp [own]
  | cons head log ih =>
    obtain ⟨u, e'⟩ := head
    by_cases hu : u = t
    · subst hu
      simp [own, ih, or_comm]
    · simp [own, hu, ih, Ne.symm hu]

theorem Log.notMem_of_own [DecidableEq τ] {t : τ} {log : Log S τ} (h : Log.own t log = [])
    (e : Event S) : (t, e) ∉ log := by
  rw [← Log.mem_own, h]
  exact List.not_mem_nil

theorem Log.own_append [DecidableEq τ] {t : τ} {newer older : Log S τ} :
    Log.own t (newer ++ older) = Log.own t older ++ Log.own t newer := by
  induction newer with
  | nil => simp [own]
  | cons head newer ih =>
    obtain ⟨u, e⟩ := head
    by_cases hu : u = t
    · simp [own, hu, ih]
    · simp [own, hu, ih]

theorem Log.own_split [DecidableEq τ] {t : τ} {e : Event S} {newer older : Log S τ} :
    Log.own t (newer ++ (t, e) :: older) = Log.own t older ++ e :: Log.own t newer := by
  simp [own_append, own]

/-- Where the last event of a task stands in the log. -/
theorem Log.exists_split [DecidableEq τ] {t : τ} {e : Event S} {es : List (Event S)}
    {log : Log S τ} (h : Log.own t log = es ++ [e]) :
    ∃ newer older, log = newer ++ (t, e) :: older ∧ Log.own t older = es := by
  induction log with
  | nil => simp [own] at h
  | cons head log ih =>
    obtain ⟨u, e'⟩ := head
    by_cases hu : u = t
    · subst hu
      rw [own, if_pos rfl] at h
      obtain ⟨hes, he⟩ := List.append_inj' h rfl
      obtain rfl := (List.cons.inj he).1
      exact ⟨[], log, rfl, hes⟩
    · rw [own, if_neg hu] at h
      obtain ⟨newer, older, rfl, hown⟩ := ih h
      exact ⟨(u, e') :: newer, older, rfl, hown⟩

/-- The place of an event among those of its task. -/
theorem Log.own_getElem? [DecidableEq τ] {t : τ} {e : Event S} {newer older : Log S τ} {i : Nat}
    (hi : (Log.own t older).length = i) :
    (Log.own t (newer ++ (t, e) :: older))[i]? = some e := by
  subst hi
  simp [own_split]

namespace System

section OneShot

variable [DecidableEq τ] {handler : τ → Handler S σ χ} {prog : τ → Prog S α}

/-- Every task runs its own program, once; an idle task has not started (`none`) or has returned
    a value. -/
def oneShot (handler : τ → Handler S σ χ) (prog : τ → Prog S α) :
    System S τ (Option α) Unit σ χ where
  handler := handler
  body t l _ :=
    match l with
    | none => some (prog t >>= fun a => .ret (some a))
    | some _ => none

/-- The pool with its log beside the shared state. -/
def logged {ρ ι : Type} (M : System S τ ρ ι σ χ) : System S τ ρ ι (σ × Log S τ) χ :=
  M.observe fun t o r _ log => (t, ⟨o, r⟩) :: log

omit [DecidableEq τ] in
@[simp] theorem logged_handler {ρ ι : Type} (M : System S τ ρ ι σ χ) (t : τ) :
    M.logged.handler t =
      (M.handler t).observe fun o r _ log => (t, ⟨o, r⟩) :: log := rfl

/-- The events of every task are a path through its program. -/
def Follows (prog : τ → Prog S α) (log : Log S τ) : Prop :=
  ∀ t, ∃ p, (prog t).Path (Log.own t log) p

theorem Follows.of_append {newer older : Log S τ} (h : Follows prog (newer ++ older)) :
    Follows prog older := by
  intro t
  obtain ⟨p, hp⟩ := h t
  rw [Log.own_append] at hp
  obtain ⟨p', hp', -⟩ := Prog.path_append_iff.mp hp
  exact ⟨p', hp'⟩

theorem Follows.of_cons {e : τ × Event S} {log : Log S τ} (h : Follows prog (e :: log)) :
    Follows prog log :=
  Follows.of_append (show Follows prog ([e] ++ log) from h)

/-- Every event is the last one of a path through the program of its task. -/
theorem Follows.at_split {t : τ} {e : Event S} {newer older : Log S τ}
    (h : Follows prog (newer ++ (t, e) :: older)) :
    ∃ p, (prog t).Path (Log.own t older ++ [e]) p := by
  obtain ⟨p, hp⟩ := Follows.of_append h t
  rw [Log.own, if_pos rfl] at hp
  exact ⟨p, hp⟩

/-- What the path to each event says of it and the older ones. -/
theorem Follows.causal {P : τ × Event S → Log S τ → Prop} {log : Log S τ} (h : Follows prog log)
    (hstep : ∀ t e older p, Follows prog older → (prog t).Path (Log.own t older ++ [e]) p →
      P (t, e) older) : Causal P log := by
  induction log with
  | nil => trivial
  | cons head log ih =>
    obtain ⟨t, e⟩ := head
    obtain ⟨p, hp⟩ := Follows.at_split (show Follows prog ([] ++ (t, e) :: log) from h)
    exact ⟨hstep t e log p h.of_cons hp, ih h.of_cons⟩

/-- Every task stands where its own events have led it. -/
def Traced (prog : τ → Prog S α) (c : Config S τ (Option α) (σ × Log S τ)) : Prop :=
  ∀ t,
    match c.task t with
    | .idle none => Log.own t c.shared.2 = []
    | .busy q => ∃ p, q = (p >>= fun a => .ret (some a)) ∧
        (prog t).Path (Log.own t c.shared.2) p
    | .idle (some a) => (prog t).Path (Log.own t c.shared.2) (.ret a)

/-- A task that has returned is at the end of its path. -/
theorem Traced.returned {c : Config S τ (Option α) (σ × Log S τ)} (h : Traced prog c) {t : τ}
    {a : α} (ht : c.task t = .idle (some a)) :
    Prog.Path (prog t) (Log.own t c.shared.2) (.ret a) := by
  have hpath := h t
  rw [ht] at hpath
  exact hpath

theorem Traced.follows {c : Config S τ (Option α) (σ × Log S τ)} (h : Traced prog c) :
    Follows prog c.shared.2 := by
  intro t
  have ht := h t
  split at ht
  · exact ⟨prog t, ht ▸ .nil _⟩
  · obtain ⟨p, -, hp⟩ := ht
    exact ⟨p, hp⟩
  · exact ⟨_, ht⟩

/-- A pool that runs `prog` and keeps its log; `P` holds of its operations. -/
structure KeepsLog (M : System S τ (Option α) Unit (σ × Log S τ) χ) (handler : τ → Handler S σ χ)
    (prog : τ → Prog S α) (P : τ → (o : S.Op) → S.Res o → σ × Log S τ → Prop) : Prop where
  body : M.body = (oneShot handler prog).body
  step : ∀ t ch o x r x', M.handler t ch o x = some (r, x') →
    handler t ch o x.1 = some (r, x'.1) ∧ x'.2 = (t, ⟨o, r⟩) :: x.2 ∧ P t o r x

omit [DecidableEq τ] in
theorem keepsLog_logged :
    KeepsLog (oneShot handler prog).logged handler prog fun _ _ _ _ => True where
  body := rfl
  step t ch o x r x' h := by
    rw [logged_handler] at h
    obtain ⟨hop, hlog⟩ := Handler.observe_eq_some.mp h
    exact ⟨hop, hlog, trivial⟩

omit [DecidableEq τ] in
theorem keepsLog_restrict {P : τ → (o : S.Op) → S.Res o → σ × Log S τ → Prop}
    [∀ t o r x, Decidable (P t o r x)] :
    KeepsLog ((oneShot handler prog).logged.restrict P) handler prog P where
  body := rfl
  step t ch o x r x' h := by
    obtain ⟨h, hP⟩ := Handler.restrict_eq_some.mp h
    rw [logged_handler] at h
    obtain ⟨hop, hlog⟩ := Handler.observe_eq_some.mp h
    exact ⟨hop, hlog, hP⟩

variable {M : System S τ (Option α) Unit (σ × Log S τ) χ}
variable {P : τ → (o : S.Op) → S.Res o → σ × Log S τ → Prop}

/-- A move keeps the tasks on their paths. An operation of `t` adds its event to the log, and the
    next operation of `t` is the one that its path leads to. -/
theorem Traced.move (hM : KeepsLog M handler prog P) {m : Move τ Unit χ}
    {c c' : Config S τ (Option α) (σ × Log S τ)} (h : Traced prog c) (hm : M.move m c = some c') :
    Traced prog c' ∧
    (c'.shared = c.shared ∨ ∃ t o ch r,
      handler t ch o c.shared.1 = some (r, c'.shared.1) ∧
      c'.shared.2 = (t, ⟨o, r⟩) :: c.shared.2 ∧ P t o r c.shared) := by
  rcases move_cases _ hm with ⟨t, l, i, p, ht, hp, rfl⟩ | ⟨t, o, k, ch, r, s', ht, hop, rfl⟩ |
    ⟨t, l, ht, rfl⟩
  · refine ⟨fun u => ?_, .inl rfl⟩
    by_cases hu : u = t
    · subst hu
      have hown := h u
      simp only [ht] at hown
      rw [hM.body] at hp
      cases l with
      | none =>
        obtain rfl := Option.some.inj hp
        simp only [Function.update_self]
        exact ⟨prog u, rfl, hown ▸ .nil _⟩
      | some a => exact absurd hp (by simp [oneShot])
    · simpa [hu] using h u
  · obtain ⟨hop, hlog, hP⟩ := hM.step t ch o c.shared r s' hop
    refine ⟨fun u => ?_, .inr ⟨t, o, ch, r, hop, hlog, hP⟩⟩
    by_cases hu : u = t
    · subst hu
      have hown := h u
      simp only [ht] at hown
      obtain ⟨p, hp, hpath⟩ := hown
      cases p with
      | ret a => cases hp
      | op o' k' =>
        rw [Prog.op_bind] at hp
        obtain ⟨rfl, hk⟩ := Prog.op.inj hp
        obtain rfl := eq_of_heq hk
        simp only [Function.update_self, hlog, Log.own, if_true]
        exact ⟨k' r, rfl, hpath.snoc r⟩
    · have hown := h u
      simp only [Function.update_of_ne hu, hlog, Log.own, if_neg (Ne.symm hu)]
      exact hown
  · refine ⟨fun u => ?_, .inl rfl⟩
    by_cases hu : u = t
    · subst hu
      have hown := h u
      simp only [ht] at hown
      obtain ⟨p, hp, hpath⟩ := hown
      cases p with
      | ret a =>
        obtain rfl := Prog.ret.inj hp
        simpa using hpath
      | op o' k' => cases hp
    · simpa [hu] using h u

theorem Traced.start {c : Config S τ (Option α) (σ × Log S τ)} (hidle : ∀ t, c.task t = .idle none)
    (hlog : c.shared.2 = []) : Traced prog c := by
  intro t
  simp [hidle t, hlog, Log.own]

variable {c₀ c : Config S τ (Option α) (σ × Log S τ)}

/-- An invariant of the shared state and the log. A step may use that the events of every task,
    before it and with it, are paths through the programs. -/
theorem KeepsLog.invariant (hM : KeepsLog M handler prog P) (hr : M.Reachable c₀ c)
    (hidle : ∀ t, c₀.task t = .idle none) (hlog : c₀.shared.2 = []) (I : σ → Log S τ → Prop)
    (h₀ : I c₀.shared.1 [])
    (hstep : ∀ s log t ch o r s', Follows prog log → Follows prog ((t, ⟨o, r⟩) :: log) →
      P t o r (s, log) → I s log → handler t ch o s = some (r, s') →
      I s' ((t, ⟨o, r⟩) :: log)) :
    Traced prog c ∧ I c.shared.1 c.shared.2 := by
  refine hr.invariant (fun d => Traced prog d ∧ I d.shared.1 d.shared.2) ?_
    ⟨.start hidle hlog, by rw [hlog]; exact h₀⟩
  rintro m d d' ⟨htraced, hI⟩ hm
  obtain ⟨htraced', hsame | ⟨t, o, ch, r, hop, hlog', hP⟩⟩ := htraced.move hM hm
  · exact ⟨htraced', hsame ▸ hI⟩
  · refine ⟨htraced', ?_⟩
    have hfollows := htraced'.follows
    rw [hlog'] at hfollows ⊢
    exact hstep d.shared.1 d.shared.2 t ch o r d'.shared.1 htraced.follows hfollows hP hI hop

theorem Reachable.traced (hr : (oneShot handler prog).logged.Reachable c₀ c)
    (hidle : ∀ t, c₀.task t = .idle none) (hlog : c₀.shared.2 = []) : Traced prog c :=
  (keepsLog_logged.invariant hr hidle hlog (fun _ _ => True) trivial
    fun _ _ _ _ _ _ _ _ _ _ _ _ => trivial).1

theorem Reachable.logged_invariant (hr : (oneShot handler prog).logged.Reachable c₀ c)
    (hidle : ∀ t, c₀.task t = .idle none) (hlog : c₀.shared.2 = []) (I : σ → Log S τ → Prop)
    (h₀ : I c₀.shared.1 [])
    (hstep : ∀ s log t ch o r s', Follows prog log → Follows prog ((t, ⟨o, r⟩) :: log) →
      I s log → handler t ch o s = some (r, s') → I s' ((t, ⟨o, r⟩) :: log)) :
    I c.shared.1 c.shared.2 :=
  (keepsLog_logged.invariant hr hidle hlog I h₀ fun s log t ch o r s' hbefore hafter _ =>
    hstep s log t ch o r s' hbefore hafter).2

end OneShot

end System

end Concurrency
