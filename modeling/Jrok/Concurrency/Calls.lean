import Jrok.Concurrency.Prog

/-!
# Histories of calls

Calls run one after another, each to its end. The history holds for each of them the choices of
the environment, the state in which it was made and what it returned, the latest first.
-/

namespace Concurrency

variable {S : Sig} {β σ χ κ : Type}

/-- A call that has been made. -/
structure Made (κ χ σ β : Type) where
  call : κ
  choices : List χ
  before : σ
  result : β

/-- The last state is reached from `s` by calls run one after another. -/
inductive Calls (h : Handler S σ χ) (body : κ → Prog S β) (s : σ) :
    List (Made κ χ σ β) → σ → Prop where
  | nil : Calls h body s [] s
  | call {history : List (Made κ χ σ β)} {s₁ s₂ : σ} {c : κ} {cs : List χ} {b : β}
      (hcalls : Calls h body s history s₁) (hplay : (body c).play h cs s₁ = some (b, s₂)) :
      Calls h body s (⟨c, cs, s₁, b⟩ :: history) s₂

variable {h : Handler S σ χ} {body : κ → Prog S β} {s s' : σ} {history : List (Made κ χ σ β)}

/-- Run calls one after another and add them to the history. -/
def runCalls (h : Handler S σ χ) (body : κ → Prog S β) :
    List (κ × List χ) → List (Made κ χ σ β) → σ → Option (List (Made κ χ σ β) × σ)
  | [], history, s => some (history, s)
  | (c, cs) :: rest, history, s => ((body c).play h cs s).bind fun bs =>
    runCalls h body rest (⟨c, cs, s, bs.1⟩ :: history) bs.2

theorem Calls.run {s₁ : σ} {calls : List (κ × List χ)} {history' : List (Made κ χ σ β)}
    (hcalls : Calls h body s history s₁)
    (hrun : runCalls h body calls history s₁ = some (history', s')) :
    Calls h body s history' s' := by
  induction calls generalizing history s₁ with
  | nil =>
    obtain ⟨rfl, rfl⟩ := Prod.mk.inj (Option.some.inj hrun)
    exact hcalls
  | cons call rest ih =>
    obtain ⟨bs, hplay, hrest⟩ := Option.bind_eq_some_iff.mp hrun
    exact ih (.call hcalls hplay) hrest

/-- The calls of a history with what they returned. -/
theorem Calls.log (hcalls : Calls h body s history s') :
    CallLog h body s (history.map fun m => (m.call, m.result)) s' := by
  induction hcalls with
  | nil => exact .nil
  | call _ hplay ih => exact ih.call hplay

/-- What every call restores, for the history with that call, holds after any sequence of calls. -/
theorem Calls.invariant (hrun : Calls h body s history s')
    (I : List (Made κ χ σ β) → σ → Prop) (hs : I [] s)
    (hstep : ∀ history s₁ c cs b s₂, I history s₁ → (body c).play h cs s₁ = some (b, s₂) →
      I (⟨c, cs, s₁, b⟩ :: history) s₂) :
    I history s' := by
  induction hrun with
  | nil => exact hs
  | call hcalls hplay ih => exact hstep _ _ _ _ _ _ ih hplay

/-- Where the calls that keep an invariant are exactly the good ones, it has held in every state
    exactly if every call was good. -/
theorem Calls.always_iff (hrun : Calls h body s history s') (I : σ → Prop)
    (good : Made κ χ σ β → Prop) (hs : I s)
    (hstep : ∀ earlier s₁ c cs b s₂, Calls h body s earlier s₁ → I s₁ →
      (body c).play h cs s₁ = some (b, s₂) → (I s₂ ↔ good ⟨c, cs, s₁, b⟩)) :
    (I s' ∧ ∀ m ∈ history, I m.before) ↔ ∀ m ∈ history, good m := by
  induction hrun with
  | nil => simpa using hs
  | call hcalls hplay ih =>
    constructor
    · rintro ⟨hlast, hbefore⟩
      obtain ⟨hs₁, hearlier⟩ := List.forall_mem_cons.mp hbefore
      exact List.forall_mem_cons.mpr
        ⟨(hstep _ _ _ _ _ _ hcalls hs₁ hplay).mp hlast, ih.mp ⟨hs₁, hearlier⟩⟩
    · intro hgood
      obtain ⟨hlast, hearlier⟩ := List.forall_mem_cons.mp hgood
      obtain ⟨hs₁, hbefore⟩ := ih.mpr hearlier
      exact ⟨(hstep _ _ _ _ _ _ hcalls hs₁ hplay).mpr hlast,
        List.forall_mem_cons.mpr ⟨hs₁, hbefore⟩⟩

end Concurrency
