import Mathlib.Logic.Relation

/-!
# Programs over atomic operations

A program is a tree of atomic operations on a shared state, in the order in which it issues
them: `ret` ends it, `op o k` performs `o` and goes on with `k` applied to the response. What
an operation does is left to a `Handler`, which also receives a *choice*: the part of the
response that the environment decides (a clock reading, a fault, a scheduling order). A
handler may refuse a choice by answering `none`.

Three readings of a program are given. `play` runs it without interruption on a list of
choices. `post` is the partial-correctness triple of `play`. `wp` is the weakest precondition
under interference: between any two operations the state may move along a rely relation,
every operation must keep the invariant and stay inside the guarantee.
-/

namespace Concurrency

/-- A signature: the atomic operations and the type of the response to each. -/
structure Sig where
  Op : Type
  Res : Op → Type

/-- A program that issues operations of `S` and returns a value of type `α`. -/
inductive Prog (S : Sig) (α : Type) : Type where
  | ret (a : α)
  | op (o : S.Op) (k : S.Res o → Prog S α)

/-- What the operations do to a state `σ`, given the environment's choice in `χ`. -/
abbrev Handler (S : Sig) (σ χ : Type) := χ → (o : S.Op) → σ → Option (S.Res o × σ)

variable {S : Sig} {α β σ γ χ κ : Type}

namespace Prog

/-- Sequencing: the second program continues at the leaves of the first. -/
def bind : Prog S α → (α → Prog S β) → Prog S β
  | ret a, f => f a
  | op o k, f => op o fun r => (k r).bind f

instance : Monad (Prog S) where
  pure := ret
  bind := bind

/-- The program that performs one operation and returns its response. -/
def perform (o : S.Op) : Prog S (S.Res o) := op o ret

@[simp] theorem ret_bind (a : α) (f : α → Prog S β) : (ret a : Prog S α) >>= f = f a := rfl

@[simp] theorem pure_eq_ret (a : α) : (pure a : Prog S α) = ret a := rfl

@[simp] theorem op_bind (o : S.Op) (k : S.Res o → Prog S α) (f : α → Prog S β) :
    (op o k) >>= f = op o fun r => k r >>= f := rfl

@[simp] theorem perform_bind (o : S.Op) (f : S.Res o → Prog S β) :
    perform o >>= f = op o f := rfl

theorem bind_ret (p : Prog S α) : p >>= ret = p := by
  induction p with
  | ret a => rfl
  | op o k ih => exact congrArg (op o) (funext ih)

theorem bind_assoc (p : Prog S α) (f : α → Prog S β) (g : β → Prog S κ) :
    p >>= f >>= g = p >>= fun a => f a >>= g := by
  induction p with
  | ret a => rfl
  | op o k ih => exact congrArg (op o) (funext ih)

instance : LawfulMonad (Prog S) :=
  .mk' _ (fun p => bind_ret p) (fun _ _ => rfl) (fun p f g => bind_assoc p f g)

/-! ## Uninterrupted runs -/

/-- Run a program to its end on exactly the choices given. -/
def play (h : Handler S σ χ) : Prog S α → List χ → σ → Option (α × σ)
  | ret a, [], s => some (a, s)
  | ret _, _ :: _, _ => none
  | op _ _, [], _ => none
  | op o k, c :: cs, s => (h c o s).bind fun (r, s') => (k r).play h cs s'

theorem play_ret_iff {h : Handler S σ χ} {a b : α} {cs : List χ} {s s' : σ} :
    play h (ret a) cs s = some (b, s') ↔ cs = [] ∧ b = a ∧ s' = s := by
  cases cs <;> simp [play, eq_comm]

theorem play_op_iff {h : Handler S σ χ} {o : S.Op} {k : S.Res o → Prog S α} {cs : List χ}
    {s s' : σ} {b : α} :
    play h (op o k) cs s = some (b, s') ↔
      ∃ c rest r s₁, cs = c :: rest ∧ h c o s = some (r, s₁) ∧
        play h (k r) rest s₁ = some (b, s') := by
  cases cs with
  | nil => simp [play]
  | cons c rest =>
    simp only [play, Option.bind_eq_some_iff, List.cons.injEq]
    constructor
    · rintro ⟨⟨r, s₁⟩, hop, hrest⟩
      exact ⟨c, rest, r, s₁, ⟨rfl, rfl⟩, hop, hrest⟩
    · rintro ⟨c', rest', r, s₁, ⟨rfl, rfl⟩, hop, hrest⟩
      exact ⟨(r, s₁), hop, hrest⟩

/-- A run of a sequence splits into a run of its first part and a run of the rest. -/
theorem play_bind_iff {h : Handler S σ χ} {p : Prog S α} {f : α → Prog S β} {cs : List χ}
    {s s' : σ} {b : β} :
    play h (p >>= f) cs s = some (b, s') ↔
      ∃ cs₁ cs₂ a s₁, cs = cs₁ ++ cs₂ ∧ play h p cs₁ s = some (a, s₁) ∧
        play h (f a) cs₂ s₁ = some (b, s') := by
  induction p generalizing cs s with
  | ret a =>
    rw [ret_bind]
    constructor
    · intro hf
      exact ⟨[], cs, a, s, rfl, play_ret_iff.mpr ⟨rfl, rfl, rfl⟩, hf⟩
    · rintro ⟨cs₁, cs₂, a', s₁, rfl, hp, hf⟩
      obtain ⟨rfl, rfl, rfl⟩ := play_ret_iff.mp hp
      simpa using hf
  | op o k ih =>
    rw [op_bind]
    constructor
    · intro hop
      obtain ⟨c, rest, r, s₁, rfl, hc, hrest⟩ := play_op_iff.mp hop
      obtain ⟨cs₁, cs₂, a, s₂, rfl, hp, hf⟩ := (ih r).mp hrest
      exact ⟨c :: cs₁, cs₂, a, s₂, rfl, play_op_iff.mpr ⟨c, cs₁, r, s₁, rfl, hc, hp⟩, hf⟩
    · rintro ⟨cs₁, cs₂, a, s₂, rfl, hp, hf⟩
      obtain ⟨c, rest, r, s₁, rfl, hc, hrest⟩ := play_op_iff.mp hp
      exact play_op_iff.mpr ⟨c, rest ++ cs₂, r, s₁, rfl, hc,
        (ih r).mpr ⟨rest, cs₂, a, s₂, rfl, hrest, hf⟩⟩

/-- Every uninterrupted run of `p` from `s` ends in `Q`. -/
def post (h : Handler S σ χ) (p : Prog S α) (Q : α → σ → Prop) (s : σ) : Prop :=
  ∀ cs a s', play h p cs s = some (a, s') → Q a s'

@[simp] theorem post_ret {h : Handler S σ χ} {a : α} {Q : α → σ → Prop} {s : σ} :
    post h (ret a) Q s ↔ Q a s := by
  constructor
  · intro hp
    exact hp [] a s rfl
  · intro hq cs b s' hplay
    obtain ⟨-, rfl, rfl⟩ := play_ret_iff.mp hplay
    exact hq

@[simp] theorem post_op {h : Handler S σ χ} {o : S.Op} {k : S.Res o → Prog S α}
    {Q : α → σ → Prop} {s : σ} :
    post h (op o k) Q s ↔ ∀ c r s₁, h c o s = some (r, s₁) → post h (k r) Q s₁ := by
  constructor
  · intro hp c r s₁ hc cs a s' hplay
    exact hp (c :: cs) a s' (play_op_iff.mpr ⟨c, cs, r, s₁, rfl, hc, hplay⟩)
  · intro hk cs a s' hplay
    obtain ⟨c, rest, r, s₁, rfl, hc, hrest⟩ := play_op_iff.mp hplay
    exact hk c r s₁ hc rest a s' hrest

theorem post_bind {h : Handler S σ χ} {p : Prog S α} {f : α → Prog S β} {Q : β → σ → Prop}
    {s : σ} : post h (p >>= f) Q s ↔ post h p (fun a => post h (f a) Q) s := by
  constructor
  · intro hp cs₁ a s₁ h₁ cs₂ b s' h₂
    exact hp (cs₁ ++ cs₂) b s' (play_bind_iff.mpr ⟨cs₁, cs₂, a, s₁, rfl, h₁, h₂⟩)
  · intro hp cs b s' hplay
    obtain ⟨cs₁, cs₂, a, s₁, -, h₁, h₂⟩ := play_bind_iff.mp hplay
    exact hp cs₁ a s₁ h₁ cs₂ b s' h₂

theorem post_mono {h : Handler S σ χ} {p : Prog S α} {Q Q' : α → σ → Prop} {s : σ}
    (hQ : ∀ a s', Q a s' → Q' a s') (hp : post h p Q s) : post h p Q' s :=
  fun cs a s' hplay => hQ a s' (hp cs a s' hplay)

/-! ## The operations a program issues -/

/-- Every operation that the program may issue satisfies `P`. -/
def Issues (P : S.Op → Prop) : Prog S α → Prop
  | ret _ => True
  | op o k => P o ∧ ∀ r, (k r).Issues P

@[simp] theorem issues_ret {P : S.Op → Prop} (a : α) : (ret a : Prog S α).Issues P := trivial

@[simp] theorem issues_op {P : S.Op → Prop} {o : S.Op} {k : S.Res o → Prog S α} :
    (op o k).Issues P ↔ P o ∧ ∀ r, (k r).Issues P := Iff.rfl

theorem Issues.bind {P : S.Op → Prop} {p : Prog S α} {f : α → Prog S β} (hp : p.Issues P)
    (hf : ∀ a, (f a).Issues P) : (p >>= f).Issues P := by
  induction p with
  | ret a => exact hf a
  | op o k ih => exact ⟨hp.1, fun r => ih r (hp.2 r)⟩

theorem Issues.mono {P P' : S.Op → Prop} {p : Prog S α} (hP : ∀ o, P o → P' o)
    (hp : p.Issues P) : p.Issues P' := by
  induction p with
  | ret a => trivial
  | op o k ih => exact ⟨hP o hp.1, fun r => ih r (hp.2 r)⟩

/-- What the operations keep, an uninterrupted run of the program keeps. -/
theorem Issues.post {h : Handler S σ χ} {P : S.Op → Prop} {p : Prog S α} (hp : p.Issues P)
    (I : σ → Prop) (hop : ∀ c o s r s', P o → I s → h c o s = some (r, s') → I s') {s : σ}
    (hs : I s) : post h p (fun _ => I) s := by
  induction p generalizing s with
  | ret a => exact post_ret.mpr hs
  | op o k ih => exact post_op.mpr fun c r s₁ hc => ih r (hp.2 r) (hop c o s r s₁ hp.1 hs hc)

/-! ## Runs under interference -/

/-- `p` runs from the first state to the second and returns the value, while before each
    operation and before its end others move the state along `R`. -/
inductive Run (h : Handler S σ χ) (R : σ → σ → Prop) : Prog S α → σ → α → σ → Prop where
  | ret {a : α} {s s' : σ} (hR : R s s') : Run h R (ret a) s a s'
  | op {o : S.Op} {k : S.Res o → Prog S α} {s s₁ s₂ s' : σ} {c : χ} {r : S.Res o} {a : α}
      (hR : R s s₁) (hop : h c o s₁ = some (r, s₂)) (hk : Run h R (k r) s₂ a s') :
      Run h R (op o k) s a s'

theorem run_ret_iff {h : Handler S σ χ} {R : σ → σ → Prop} {a b : α} {s s' : σ} :
    Run h R (ret a) s b s' ↔ b = a ∧ R s s' := by
  constructor
  · rintro ⟨hR⟩
    exact ⟨rfl, hR⟩
  · rintro ⟨rfl, hR⟩
    exact .ret hR

theorem run_op_iff {h : Handler S σ χ} {R : σ → σ → Prop} {o : S.Op} {k : S.Res o → Prog S α}
    {a : α} {s s' : σ} :
    Run h R (op o k) s a s' ↔
      ∃ s₁ c r s₂, R s s₁ ∧ h c o s₁ = some (r, s₂) ∧ Run h R (k r) s₂ a s' := by
  constructor
  · rintro (_ | ⟨hR, hop, hk⟩)
    exact ⟨_, _, _, _, hR, hop, hk⟩
  · rintro ⟨s₁, c, r, s₂, hR, hop, hk⟩
    exact .op hR hop hk

/-- Every run begins with a step of the others. -/
theorem Run.others_first {h : Handler S σ χ} {R : σ → σ → Prop} {p : Prog S α} {a : α}
    {s s' : σ} (hrun : Run h R p s a s') : ∃ s₁, R s s₁ := by
  cases hrun with
  | ret hR => exact ⟨_, hR⟩
  | op hR _ _ => exact ⟨_, hR⟩

/-- A run of a sequence is a run of its first part and one of the rest. -/
theorem Run.of_bind {h : Handler S σ χ} {R : σ → σ → Prop} (hrefl : ∀ s, R s s) {p : Prog S α}
    {f : α → Prog S β} {b : β} {s s' : σ} (hrun : Run h R (p >>= f) s b s') :
    ∃ a s₁, Run h R p s a s₁ ∧ Run h R (f a) s₁ b s' := by
  induction p generalizing s with
  | ret a => exact ⟨a, s, .ret (hrefl s), hrun⟩
  | op o k ih =>
    rw [op_bind] at hrun
    obtain ⟨s₁, c, r, s₂, hR, hop, hk⟩ := run_op_iff.mp hrun
    obtain ⟨a, s₃, hp, hf⟩ := ih r hk
    exact ⟨a, s₃, .op hR hop hp, hf⟩

/-- An uninterrupted run is a run among others that do nothing. -/
theorem Run.of_play {h : Handler S σ χ} {R : σ → σ → Prop} (hrefl : ∀ s, R s s) {p : Prog S α}
    {cs : List χ} {a : α} {s s' : σ} (hplay : play h p cs s = some (a, s')) :
    Run h R p s a s' := by
  induction p generalizing cs s with
  | ret b =>
    obtain ⟨-, rfl, rfl⟩ := play_ret_iff.mp hplay
    exact .ret (hrefl _)
  | op o k ih =>
    obtain ⟨c, rest, r, s₁, -, hop, hrest⟩ := play_op_iff.mp hplay
    exact .op (hrefl s) hop (ih r hrest)

/-- What the others and the operations keep, a run keeps. -/
theorem Issues.run {h : Handler S σ χ} {R : σ → σ → Prop} {P : S.Op → Prop} {p : Prog S α}
    (hp : p.Issues P) (I : σ → Prop) (hR : ∀ s s', I s → R s s' → I s')
    (hop : ∀ c o s r s', P o → I s → h c o s = some (r, s') → I s') {a : α} {s s' : σ}
    (hs : I s) (hrun : Run h R p s a s') : I s' := by
  induction hrun with
  | ret hRs => exact hR _ _ hs hRs
  | op hRs hstep _ ih => exact ih (hp.2 _) (hop _ _ _ _ _ hp.1 (hR _ _ hs hRs) hstep)

/-- Weakest precondition of `p` for `Q` when other parties move the state along `R` before
    each operation. The invariant `I` may be assumed before an operation and must hold after
    it, and the operation's own effect must stay inside the guarantee `G`. -/
def wp (h : Handler S σ χ) (I : σ → Prop) (R G : σ → σ → Prop) :
    Prog S α → (α → σ → Prop) → σ → Prop
  | ret a, Q, s => Q a s
  | op o k, Q, s => ∀ s₁, R s s₁ → I s₁ → ∀ c r s₂, h c o s₁ = some (r, s₂) →
      I s₂ ∧ G s₁ s₂ ∧ (k r).wp h I R G Q s₂

variable {h : Handler S σ χ} {I : σ → Prop} {R G : σ → σ → Prop}

@[simp] theorem wp_ret {a : α} {Q : α → σ → Prop} {s : σ} :
    wp h I R G (ret a) Q s ↔ Q a s := Iff.rfl

@[simp] theorem wp_op {o : S.Op} {k : S.Res o → Prog S α} {Q : α → σ → Prop} {s : σ} :
    wp h I R G (op o k) Q s ↔ ∀ s₁, R s s₁ → I s₁ → ∀ c r s₂, h c o s₁ = some (r, s₂) →
      I s₂ ∧ G s₁ s₂ ∧ wp h I R G (k r) Q s₂ := Iff.rfl

theorem wp_bind {p : Prog S α} {f : α → Prog S β} {Q : β → σ → Prop} {s : σ} :
    wp h I R G (p >>= f) Q s ↔ wp h I R G p (fun a => wp h I R G (f a) Q) s := by
  induction p generalizing s with
  | ret a => exact Iff.rfl
  | op o k ih =>
    simp only [op_bind, wp_op]
    exact forall_congr' fun s₁ => forall_congr' fun _ => forall_congr' fun _ =>
      forall_congr' fun c => forall_congr' fun r => forall_congr' fun s₂ =>
        forall_congr' fun _ => and_congr_right' (and_congr_right' (ih r))

theorem wp_mono {p : Prog S α} {Q Q' : α → σ → Prop} {s : σ}
    (hQ : ∀ a s', Q a s' → Q' a s') (hp : wp h I R G p Q s) : wp h I R G p Q' s := by
  induction p generalizing s with
  | ret a => exact hQ a s hp
  | op o k ih =>
    intro s₁ hR hI c r s₂ hc
    obtain ⟨hI₂, hG, hk⟩ := hp s₁ hR hI c r s₂ hc
    exact ⟨hI₂, hG, ih r hk⟩

/-- A program is correct under interference if each operation it may issue is. The assertion `A`,
    which neither the others nor the operations destroy, may be used for that and holds at the
    end. -/
theorem Issues.wp_assuming {P : S.Op → Prop} {A : σ → Prop} {p : Prog S α} (hp : p.Issues P)
    (hR : ∀ s s', A s → R s s' → A s') (hG : ∀ s s', A s → G s s' → A s')
    (hop : ∀ c o s r s', P o → I s → A s → h c o s = some (r, s') → I s' ∧ G s s') {s : σ}
    (hs : A s) : wp h I R G p (fun _ => A) s := by
  induction p generalizing s with
  | ret a => exact hs
  | op o k ih =>
    intro s₁ hRs hI c r s₂ hc
    have hA₁ := hR s s₁ hs hRs
    obtain ⟨hI₂, hGs⟩ := hop c o s₁ r s₂ hp.1 hI hA₁ hc
    exact ⟨hI₂, hGs, ih r (hp.2 r) (hG s₁ s₂ hA₁ hGs)⟩

theorem Issues.wp {P : S.Op → Prop} {p : Prog S α} (hp : p.Issues P)
    (hop : ∀ c o s r s', P o → I s → h c o s = some (r, s') → I s' ∧ G s s') {s : σ} :
    wp h I R G p (fun _ _ => True) s :=
  hp.wp_assuming (fun _ _ _ _ => trivial) (fun _ _ _ _ => trivial)
    (fun c o s r s' hP hI _ hc => hop c o s r s' hP hI hc) trivial

/-- Correct under interference from every state, whatever the result. -/
def Safe (h : Handler S σ χ) (I : σ → Prop) (R G : σ → σ → Prop) (p : Prog S α) : Prop :=
  ∀ s, wp h I R G p (fun _ _ => True) s

theorem safe_ret (a : α) : Safe h I R G (ret a) := fun _ => trivial

theorem Safe.bind {p : Prog S α} {f : α → Prog S β} (hp : Safe h I R G p)
    (hf : ∀ a, Safe h I R G (f a)) : Safe h I R G (p >>= f) :=
  fun s => wp_bind.mpr (wp_mono (fun a s' _ => hf a s') (hp s))

/-- Interference does not destroy a weakest precondition whose postcondition it keeps. -/
theorem wp_stable (htrans : ∀ s₁ s₂ s₃, R s₁ s₂ → R s₂ s₃ → R s₁ s₃) {p : Prog S α}
    {Q : α → σ → Prop} {s s' : σ} (hQ : ∀ a, Q a s → Q a s') (hR : R s s')
    (hp : wp h I R G p Q s) : wp h I R G p Q s' := by
  cases p with
  | ret a => exact hQ a hp
  | op o k =>
    intro s₁ hR₁ hI c r s₂ hc
    exact hp s₁ (htrans s s' s₁ hR hR₁) hI c r s₂ hc

end Prog

/-! ## Programs that may fail

`ExceptT ε (Prog S)` with its bind; `run` gives the program that returns the result. -/

section Except

variable {ε : Type}

theorem Prog.Issues.run_bind {P : S.Op → Prop} {p : ExceptT ε (Prog S) α}
    {f : α → ExceptT ε (Prog S) β} (hp : p.run.Issues P) (hf : ∀ a, (f a).run.Issues P) :
    (p >>= f).run.Issues P := by
  rw [ExceptT.run_bind]
  apply hp.bind
  intro r
  cases r with
  | ok a => exact hf a
  | error e => trivial

end Except

/-! ## Handlers built from handlers -/

namespace Handler

/-- Allow an operation only where `P` holds of it, its response and the state before. -/
def restrict (h : Handler S σ χ) (P : (o : S.Op) → S.Res o → σ → Prop)
    [∀ o r s, Decidable (P o r s)] : Handler S σ χ :=
  fun c o s => (h c o s).filter fun rs => P o rs.1 s

theorem restrict_eq_some {h : Handler S σ χ} {P : (o : S.Op) → S.Res o → σ → Prop}
    [∀ o r s, Decidable (P o r s)] {c : χ} {o : S.Op} {s s' : σ} {r : S.Res o} :
    h.restrict P c o s = some (r, s') ↔ h c o s = some (r, s') ∧ P o r s := by
  simp [restrict, Option.filter_eq_some_iff]

/-- Run a history variable beside the state: `f` updates it from the operation, its response,
    the state before, and the history so far. -/
def observe (h : Handler S σ χ) (f : (o : S.Op) → S.Res o → σ → γ → γ) :
    Handler S (σ × γ) χ :=
  fun c o sg => (h c o sg.1).map fun rs => (rs.1, (rs.2, f o rs.1 sg.1 sg.2))

theorem observe_eq_some {h : Handler S σ χ} {f : (o : S.Op) → S.Res o → σ → γ → γ} {c : χ}
    {o : S.Op} {sg sg' : σ × γ} {r : S.Res o} :
    h.observe f c o sg = some (r, sg') ↔
      h c o sg.1 = some (r, sg'.1) ∧ sg'.2 = f o r sg.1 sg.2 := by
  obtain ⟨s, g⟩ := sg
  obtain ⟨s', g'⟩ := sg'
  simp only [observe, Option.map_eq_some_iff, Prod.mk.injEq, Prod.exists]
  constructor
  · rintro ⟨r', s₁, hc, rfl, rfl, rfl⟩
    exact ⟨hc, rfl⟩
  · rintro ⟨hc, rfl⟩
    exact ⟨r, s', hc, rfl, rfl, rfl⟩

end Handler

/-- A history variable is there for every run and hinders none. -/
theorem Prog.exists_play_observe {h : Handler S σ χ} {f : (o : S.Op) → S.Res o → σ → γ → γ}
    {p : Prog S α} {cs : List χ} {s s' : σ} {a : α} (g : γ)
    (hplay : p.play h cs s = some (a, s')) :
    ∃ g', p.play (h.observe f) cs (s, g) = some (a, (s', g')) := by
  induction p generalizing cs s g with
  | ret b =>
    obtain ⟨rfl, rfl, rfl⟩ := play_ret_iff.mp hplay
    exact ⟨g, rfl⟩
  | op o k ih =>
    obtain ⟨c, rest, r, s₁, rfl, hop, hrest⟩ := play_op_iff.mp hplay
    obtain ⟨g', hg'⟩ := ih r (f o r s g) hrest
    exact ⟨g', play_op_iff.mpr ⟨c, rest, r, (s₁, f o r s g), rfl,
      Handler.observe_eq_some.mpr ⟨hop, rfl⟩, hg'⟩⟩

/-! ## Sequences of calls -/

/-- Run calls one after another, each to its end on its own list of choices. -/
def playAll (h : Handler S σ χ) (body : κ → Prog S β) : List (κ × List χ) → σ → Option σ
  | [], s => some s
  | (call, cs) :: rest, s => ((body call).play h cs s).bind fun bs => playAll h body rest bs.2

theorem playAll_cons {h : Handler S σ χ} {body : κ → Prog S β} {call : κ} {cs : List χ}
    {rest : List (κ × List χ)} {s s' : σ} :
    playAll h body ((call, cs) :: rest) s = some s' ↔
      ∃ b s₁, (body call).play h cs s = some (b, s₁) ∧ playAll h body rest s₁ = some s' := by
  simp only [playAll, Option.bind_eq_some_iff]
  constructor
  · rintro ⟨⟨b, s₁⟩, hcall, hrest⟩
    exact ⟨b, s₁, hcall, hrest⟩
  · rintro ⟨b, s₁, hcall, hrest⟩
    exact ⟨(b, s₁), hcall, hrest⟩

/-- An invariant that every call restores holds after any sequence of calls. -/
theorem playAll_invariant {h : Handler S σ χ} {body : κ → Prog S β} (I : σ → Prop)
    (hstep : ∀ call s, I s → (body call).post h (fun _ => I) s) {calls : List (κ × List χ)}
    {s s' : σ} (hs : I s) (hrun : playAll h body calls s = some s') : I s' := by
  induction calls generalizing s with
  | nil =>
    obtain rfl : s = s' := by simpa [playAll] using hrun
    exact hs
  | cons head rest ih =>
    obtain ⟨b, s₁, hcall, hrest⟩ := playAll_cons.mp hrun
    exact ih (hstep head.1 s hs head.2 b s₁ hcall) hrest

/-- The last state is reached from `s` by calls run one after another. The log holds the calls
    with what they returned, the latest first. -/
inductive CallLog (h : Handler S σ χ) (body : κ → Prog S β) (s : σ) : List (κ × β) → σ → Prop where
  | nil : CallLog h body s [] s
  | call {log : List (κ × β)} {s₁ s₂ : σ} {c : κ} {cs : List χ} {b : β}
      (hlog : CallLog h body s log s₁) (hplay : (body c).play h cs s₁ = some (b, s₂)) :
      CallLog h body s ((c, b) :: log) s₂

/-- What every call restores, for the log with that call and its result, holds after any sequence
    of calls. -/
theorem CallLog.invariant {h : Handler S σ χ} {body : κ → Prog S β} {s s' : σ}
    {log : List (κ × β)} (hrun : CallLog h body s log s') (I : List (κ × β) → σ → Prop)
    (hs : I [] s)
    (hstep : ∀ log s₁ c, I log s₁ → (body c).post h (fun b s₂ => I ((c, b) :: log) s₂) s₁) :
    I log s' := by
  induction hrun with
  | nil => exact hs
  | call hlog hplay ih => exact hstep _ _ _ ih _ _ _ hplay

end Concurrency
