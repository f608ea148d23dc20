import Jrok.Concurrency.Log
import Jrok.World

/-!
# The pending map as its history

The entries of the pending map, the values in the oneshot channels and the names handed out are
what the log of a run says: an entry is there from its insertion to the next removal or response
under its id, and a channel holds the response that took its entry.
-/

namespace Jrok

open Concurrency

variable {τ : Type}

/-- The channel of the entry of the server `me` under an id. -/
def pendingEntry (me requestId : String) : Log serverSig τ → Option Nat
  | [] => none
  | (_, ⟨.node n (.pendingInsert id), k⟩) :: older =>
    if n = me ∧ id = requestId then some k else pendingEntry me requestId older
  | (_, ⟨.node n (.pendingRemove id), _⟩) :: older =>
    if n = me ∧ id = requestId then none else pendingEntry me requestId older
  | (_, ⟨.node n (.respond id _), _⟩) :: older =>
    if n = me ∧ id = requestId then none else pendingEntry me requestId older
  | _ :: older => pendingEntry me requestId older

/-- The response in a oneshot channel of the server `me`. -/
def oneshotValue (me : String) (k : Nat) : Log serverSig τ → Option HttpResponse
  | [] => none
  | (_, ⟨.node n (.respond _ response), some k'⟩) :: older =>
    if n = me ∧ k' = k then some response else oneshotValue me k older
  | _ :: older => oneshotValue me k older

/-- The event concerns the entry of `me` under the id. -/
def touches (me requestId : String) : Event serverSig → Bool
  | ⟨.node n (.pendingInsert id), _⟩ => n = me && id = requestId
  | ⟨.node n (.pendingRemove id), _⟩ => n = me && id = requestId
  | ⟨.node n (.respond id _), _⟩ => n = me && id = requestId
  | _ => false

/-- The channel that an insertion of the server `me` has made. -/
def madeChannel (me : String) (e : τ × Event serverSig) : Option Nat :=
  match e.2 with
  | ⟨.node n (.pendingInsert _), k⟩ => if n = me then some k else none
  | _ => none

/-- The UUID that was handed out. -/
def handedOut (e : τ × Event serverSig) : Option String :=
  match e.2 with
  | ⟨.uuid, u⟩ => some u
  | _ => none

/-- The response to an operation is accounted for by the log before it. -/
def Accounted (me : String) (e : τ × Event serverSig) (older : Log serverSig τ) : Prop :=
  match e.2 with
  | ⟨.uuid, u⟩ => ∀ e' ∈ older, handedOut e' ≠ some u
  | ⟨.node n (.pendingInsert _), k⟩ => n = me → ∀ e' ∈ older, madeChannel me e' ≠ some k
  | ⟨.node n (.respond id _), taken⟩ => n = me → taken = pendingEntry me id older
  | ⟨.node n (.oneshotRecv k), received⟩ => n = me → received = oneshotValue me k older
  | _ => True

/-- The memory of `me` is what the log says. -/
structure Remembers (me : String) (w : World) (log : Log serverSig τ) : Prop where
  pending : ∀ id, (w.node me).pending.lookup id = pendingEntry me id log
  oneshot : ∀ k, (w.node me).oneshot k = oneshotValue me k log
  channels : ∀ e ∈ log, ∀ k, madeChannel me e = some k → k < (w.node me).nextOneshot
  issued : ∀ e ∈ log, ∀ u, handedOut e = some u → u ∈ w.issued
  causal : Causal (Accounted me) log

section Step

variable {B : Backend} {faulty lookups : Bool} {c : Choice} {me id : String} {w w' : World}
variable {log : Log serverSig τ} {t : τ}

/-- One more event. -/
theorem Remembers.cons {e : τ × Event serverSig} (h : Remembers me w log)
    (hpending : ∀ id, (w'.node me).pending.lookup id = pendingEntry me id (e :: log))
    (honeshot : ∀ k, (w'.node me).oneshot k = oneshotValue me k (e :: log))
    (hnext : (w.node me).nextOneshot ≤ (w'.node me).nextOneshot) (hissued : w.issued ⊆ w'.issued)
    (hmade : ∀ k, madeChannel me e = some k → k < (w'.node me).nextOneshot)
    (hhanded : ∀ u, handedOut e = some u → u ∈ w'.issued) (haccounted : Accounted me e log) :
    Remembers me w' (e :: log) where
  pending := hpending
  oneshot := honeshot
  channels e' he' k hk := by
    rcases List.mem_cons.mp he' with rfl | he'
    · exact hmade k hk
    · exact lt_of_lt_of_le (h.channels e' he' k hk) hnext
  issued e' he' u hu := by
    rcases List.mem_cons.mp he' with rfl | he'
    · exact hhanded u hu
    · exact hissued (h.issued e' he' u hu)
  causal := ⟨haccounted, h.causal⟩

/-- An event that changes neither the map nor a channel of `me`. -/
theorem Remembers.quiet {e : τ × Event serverSig} (h : Remembers me w log)
    (hpending : (w'.node me).pending = (w.node me).pending)
    (honeshot : (w'.node me).oneshot = (w.node me).oneshot)
    (hnext : (w'.node me).nextOneshot = (w.node me).nextOneshot) (hissued : w.issued ⊆ w'.issued)
    (hentry : ∀ id, pendingEntry me id (e :: log) = pendingEntry me id log)
    (hvalue : ∀ k, oneshotValue me k (e :: log) = oneshotValue me k log)
    (hmade : madeChannel me e = none) (hhanded : ∀ u, handedOut e = some u → u ∈ w'.issued)
    (haccounted : Accounted me e log) : Remembers me w' (e :: log) := by
  refine h.cons ?_ ?_ (le_of_eq hnext.symm) hissued (by simp [hmade]) hhanded haccounted
  · intro id
    rw [hpending, h.pending, hentry]
  · intro k
    rw [honeshot, h.oneshot, hvalue]

theorem Remembers.uuid {u : String} (h : Remembers me w log)
    (hop : World.handler B faulty c .uuid w = some (u, w')) :
    Remembers me w' ((t, ⟨.uuid, u⟩) :: log) := by
  obtain ⟨-, hfresh, rfl⟩ := World.exec_uuid.mp hop
  refine h.quiet rfl rfl rfl (List.subset_cons_self ..) (fun _ => rfl) (fun _ => rfl) rfl ?_ ?_
  · intro v hv
    obtain rfl := Option.some.inj hv
    exact List.mem_cons_self ..
  · intro e' he' hu
    exact hfresh (h.issued e' he' u hu)

theorem Remembers.pendingInsert {k : Nat} (h : Remembers me w log)
    (hop : World.handler B faulty c (.node me (.pendingInsert id)) w = some (k, w')) :
    Remembers me w' ((t, ⟨.node me (.pendingInsert id), k⟩) :: log) := by
  obtain ⟨n', hn', rfl⟩ := World.exec_node.mp hop
  cases c <;> simp only [NodeOp.exec, reduceCtorEq, Option.some.injEq, Prod.mk.injEq] at hn'
  obtain ⟨rfl, rfl⟩ := hn'
  refine h.cons (fun id' => ?_) (fun k' => ?_) ?_ (List.Subset.refl _) (fun k' hk' => ?_)
    (by simp [handedOut]) fun _ e' he' hk' => absurd (h.channels e' he' _ hk') (lt_irrefl _)
  · by_cases hid : id' = id
    · subst hid
      simp [pendingEntry]
    · simp [pendingEntry, hid, Ne.symm hid, h.pending]
  · simp [oneshotValue, h.oneshot]
  · simp
  · obtain rfl : (w.node me).nextOneshot = k' := by simpa [madeChannel] using hk'
    simp

theorem Remembers.pendingRemove {k : Option Nat} (h : Remembers me w log)
    (hop : World.handler B faulty c (.node me (.pendingRemove id)) w = some (k, w')) :
    Remembers me w' ((t, ⟨.node me (.pendingRemove id), k⟩) :: log) := by
  obtain ⟨n', hn', rfl⟩ := World.exec_node.mp hop
  cases c <;> simp only [NodeOp.exec, reduceCtorEq, Option.some.injEq, Prod.mk.injEq] at hn'
  obtain ⟨-, rfl⟩ := hn'
  refine h.cons (fun id' => ?_) (fun k' => ?_) (by simp) (List.Subset.refl _)
    (by simp [madeChannel]) (by simp [handedOut]) trivial
  · by_cases hid : id' = id
    · subst hid
      simp [pendingEntry]
    · simp [pendingEntry, hid, Ne.symm hid, h.pending]
  · simp [oneshotValue, h.oneshot]

theorem Remembers.respond {response : HttpResponse} {taken : Option Nat} (h : Remembers me w log)
    (hop : World.handler B faulty c (.node me (.respond id response)) w = some (taken, w')) :
    Remembers me w' ((t, ⟨.node me (.respond id response), taken⟩) :: log) := by
  obtain ⟨n', hn', rfl⟩ := World.exec_node.mp hop
  cases c <;> simp only [NodeOp.exec, reduceCtorEq] at hn'
  cases hentry : (w.node me).pending.lookup id with
  | none =>
    simp only [hentry, Option.some.injEq, Prod.mk.injEq] at hn'
    obtain ⟨rfl, rfl⟩ := hn'
    rw [World.setNode_self]
    refine h.cons (fun id' => ?_) h.oneshot (le_refl _) (List.Subset.refl _)
      (by simp [madeChannel]) (by simp [handedOut]) fun _ => hentry.symm.trans (h.pending id)
    by_cases hid : id' = id
    · subst hid
      simp [pendingEntry, hentry]
    · simp [pendingEntry, Ne.symm hid, h.pending]
  | some k =>
    simp only [hentry, Option.some.injEq, Prod.mk.injEq] at hn'
    obtain ⟨rfl, rfl⟩ := hn'
    refine h.cons (fun id' => ?_) (fun k' => ?_) (by simp) (List.Subset.refl _)
      (by simp [madeChannel]) (by simp [handedOut]) fun _ => hentry.symm.trans (h.pending id)
    · by_cases hid : id' = id
      · subst hid
        simp [pendingEntry]
      · simp [pendingEntry, hid, Ne.symm hid, h.pending]
    · by_cases hk : k' = k
      · subst hk
        simp [oneshotValue]
      · simp [oneshotValue, hk, Ne.symm hk, h.oneshot]

theorem Remembers.oneshotRecv {k : Nat} {received : Option HttpResponse} (h : Remembers me w log)
    (hop : World.handler B faulty c (.node me (.oneshotRecv k)) w = some (received, w')) :
    Remembers me w' ((t, ⟨.node me (.oneshotRecv k), received⟩) :: log) := by
  obtain ⟨n', hn', rfl⟩ := World.exec_node.mp hop
  have hvalue : received = (w.node me).oneshot k ∧ n' = w.node me := by
    cases hk : (w.node me).oneshot k <;> cases c <;>
      simp only [NodeOp.exec, hk, reduceCtorEq, Option.some.injEq, Prod.mk.injEq] at hn' <;>
      exact ⟨hn'.1.symm, hn'.2.symm⟩
  obtain ⟨hreceived, rfl⟩ := hvalue
  rw [World.setNode_self]
  exact h.quiet rfl rfl rfl (List.Subset.refl _) (fun _ => rfl) (fun _ => rfl) rfl
    (by simp [handedOut]) fun _ => hreceived.trans (h.oneshot k)

/-- An operation on another server. -/
theorem Remembers.elsewhere {n : String} {o : NodeOp} {r : o.Res} (h : Remembers me w log)
    (hn : n ≠ me) (hop : World.handler B faulty c (.node n o) w = some (r, w')) :
    Remembers me w' ((t, ⟨.node n o, r⟩) :: log) := by
  obtain ⟨n', -, rfl⟩ := World.exec_node.mp hop
  have hnode := World.setNode_node_ne w n' (Ne.symm hn)
  refine h.quiet (by rw [hnode]) (by rw [hnode]) (by rw [hnode]) (List.Subset.refl _) (fun _ => ?_)
    (fun _ => ?_) ?_ nofun ?_
  · cases o <;> simp [pendingEntry, hn]
  · cases o with
    | respond id response =>
      cases r with
      | none => rfl
      | some k => simp [oneshotValue, hn]
    | _ => rfl
  · cases o <;> simp [madeChannel, hn]
  · cases o <;> first | trivial | exact fun heq => absurd heq hn

/-- Every operation adds to what is remembered. -/
theorem Remembers.step {o : Op} {r : o.Res} (h : Remembers me w log)
    (hop : World.openHandler B faulty lookups c o w = some (r, w')) :
    Remembers me w' ((t, ⟨o, r⟩) :: log) := by
  rcases World.openHandler_cases hop with hop | ⟨rfl, ⟨n, id, m, rfl⟩ | ⟨n, rfl, -⟩⟩
  · cases o with
    | now =>
      obtain ⟨-, -, -, rfl⟩ := World.exec_now.mp hop
      exact h.quiet rfl rfl rfl (List.Subset.refl _) (fun _ => rfl) (fun _ => rfl) rfl nofun trivial
    | uuid => exact h.uuid hop
    | sql q =>
      have hw : w'.node = w.node ∧ w'.issued = w.issued := by
        rcases World.exec_sql.mp hop with ⟨-, -, rfl⟩ | ⟨e, -, -, -, rfl⟩ <;> exact ⟨rfl, rfl⟩
      exact h.quiet (by rw [hw.1]) (by rw [hw.1]) (by rw [hw.1]) (by rw [hw.2]; exact .refl _)
        (fun _ => rfl) (fun _ => rfl) rfl nofun trivial
    | node n o =>
      by_cases hn : n = me
      · subst hn
        obtain ⟨n', hn', hw⟩ := World.exec_node.mp hop
        have hquiet (huses : o.usesPending = false) := (NodeOp.exec_frame hn').2 huses
        cases o with
        | pendingInsert id => exact h.pendingInsert hop
        | pendingRemove id => exact h.pendingRemove hop
        | respond id response => exact h.respond hop
        | oneshotRecv k => exact h.oneshotRecv hop
        | _ =>
          obtain ⟨hpending, honeshot, hnext⟩ := hquiet rfl
          subst hw
          refine h.quiet (by simpa using hpending) (by simpa using honeshot) (by simpa using hnext)
            (List.Subset.refl _) (fun _ => rfl) (fun _ => rfl) rfl nofun trivial
      · exact h.elsewhere hn hop
  · exact h.quiet rfl rfl rfl (List.Subset.refl _) (fun _ => rfl) (fun _ => rfl) rfl nofun trivial
  · exact h.quiet rfl rfl rfl (List.Subset.refl _) (fun _ => rfl) (fun _ => rfl) rfl nofun trivial

/-- In every run from a start without entries, however the tasks interleave. -/
theorem Remembers.of_reachable [DecidableEq τ] {α : Type} {prog : τ → Prog serverSig α}
    {c₀ c : Config serverSig τ (Option α) (World × Log serverSig τ)}
    (hpending : (c₀.shared.1.node me).pending = ∅)
    (honeshot : ∀ k, (c₀.shared.1.node me).oneshot k = none)
    (hidle : ∀ t, c₀.task t = .idle none) (hlog : c₀.shared.2 = [])
    (hr : (System.oneShot (fun _ => World.openHandler B faulty lookups) prog).logged.Reachable
      c₀ c) : Remembers me c.shared.1 c.shared.2 := by
  refine System.Reachable.logged_invariant hr hidle hlog (Remembers me) ?_ ?_
  · exact ⟨by simp [hpending, pendingEntry], honeshot, by simp, by simp, trivial⟩
  · intro w log t ch o r w' _ _ hbefore hop
    exact hbefore.step hop

end Step

/-! ## Reading the history -/

section History

variable {me id : String} {log : Log serverSig τ}

theorem pendingEntry_cons {t : τ} {e : Event serverSig} (h : touches me id e = false) :
    pendingEntry me id ((t, e) :: log) = pendingEntry me id log := by
  obtain ⟨o, r⟩ := e
  cases o with
  | node n o =>
    cases o with
    | pendingInsert id' | pendingRemove id' | respond id' =>
      apply if_neg
      rintro ⟨hn, hid⟩
      simp [touches, hn, hid] at h
    | _ => rfl
  | _ => rfl

/-- The entry is the same as before events that do not concern it. -/
theorem pendingEntry_append {before : Log serverSig τ}
    (h : ∀ e ∈ before, touches me id e.2 = false) :
    pendingEntry me id (before ++ log) = pendingEntry me id log := by
  induction before with
  | nil => rfl
  | cons e before ih =>
    obtain ⟨t, e⟩ := e
    rw [List.cons_append, pendingEntry_cons (h _ (List.mem_cons_self ..))]
    exact ih fun e' he' => h e' (List.mem_cons_of_mem _ he')

theorem pendingEntry_insert {t : τ} {k : Nat} :
    pendingEntry me id ((t, ⟨.node me (.pendingInsert id), k⟩) :: log) = some k :=
  if_pos ⟨rfl, rfl⟩

/-- An entry was inserted, and nothing has concerned it since. -/
theorem pendingEntry_eq_some {k : Nat} (h : pendingEntry me id log = some k) :
    ∃ before t older, log = before ++ (t, ⟨.node me (.pendingInsert id), k⟩) :: older ∧
      ∀ e ∈ before, touches me id e.2 = false := by
  induction log with
  | nil => cases h
  | cons head log ih =>
    obtain ⟨t, e⟩ := head
    cases htouch : touches me id e with
    | false =>
      rw [pendingEntry_cons htouch] at h
      obtain ⟨before, t', older, rfl, hbefore⟩ := ih h
      exact ⟨(t, e) :: before, t', older, rfl, List.forall_mem_cons.mpr ⟨htouch, hbefore⟩⟩
    | true =>
      obtain ⟨o, r⟩ := e
      cases o with
      | node n o =>
        cases o with
        | pendingInsert id' =>
          obtain ⟨rfl, rfl⟩ : n = me ∧ id' = id := by simpa [touches] using htouch
          obtain rfl : r = k := by simpa [pendingEntry] using h
          exact ⟨[], t, log, rfl, by simp⟩
        | pendingRemove id' | respond id' =>
          have hmatch : n = me ∧ id' = id := by simpa [touches] using htouch
          exact absurd ((if_pos hmatch).symm.trans h) nofun
        | _ => cases htouch
      | _ => cases htouch

/-- The response in a channel has taken the entry of that channel. -/
theorem oneshotValue_eq_some {k : Nat} {response : HttpResponse}
    (h : oneshotValue me k log = some response) :
    ∃ newer t id older, log = newer ++ (t, ⟨.node me (.respond id response), some k⟩) :: older := by
  induction log with
  | nil => cases h
  | cons head log ih =>
    have hskip : oneshotValue me k (head :: log) = oneshotValue me k log →
        ∃ newer t id older,
          head :: log = newer ++ (t, ⟨.node me (.respond id response), some k⟩) :: older := by
      intro hsame
      obtain ⟨newer, t, id, older, hlog⟩ := ih (hsame.symm.trans h)
      exact ⟨head :: newer, t, id, older, by rw [hlog]; rfl⟩
    obtain ⟨t, o, r⟩ := head
    cases o with
    | node n o =>
      cases o with
      | respond id v =>
        cases r with
        | none => exact hskip rfl
        | some k' =>
          by_cases hmatch : n = me ∧ k' = k
          · obtain rfl := Option.some.inj ((if_pos hmatch).symm.trans h)
            obtain ⟨rfl, rfl⟩ := hmatch
            exact ⟨[], t, id, log, rfl⟩
          · exact hskip (if_neg hmatch)
      | _ => exact hskip rfl
    | _ => exact hskip rfl

end History

/-! ## What the tasks have remembered -/

section Accounts

variable {me : String} {log : Log serverSig τ}

/-- A UUID is handed out once. -/
theorem handedOut_unique (h : Causal (Accounted me) log) {t t' : τ} {u : String}
    (he : (t, (⟨.uuid, u⟩ : Event serverSig)) ∈ log)
    (he' : (t', (⟨.uuid, u⟩ : Event serverSig)) ∈ log) : t = t' := by
  have heq := h.unique handedOut (fun e older k hP hk e' he' => ?_) he he' rfl rfl
  · exact congrArg Prod.fst heq
  · obtain ⟨t, o, r⟩ := e
    cases o with
    | uuid =>
      obtain rfl := Option.some.inj hk
      exact hP e' he'
    | _ => cases hk

/-- A channel is made once. -/
theorem madeChannel_unique (h : Causal (Accounted me) log) {t t' : τ} {id id' : String} {k : Nat}
    (he : (t, (⟨.node me (.pendingInsert id), k⟩ : Event serverSig)) ∈ log)
    (he' : (t', (⟨.node me (.pendingInsert id'), k⟩ : Event serverSig)) ∈ log) :
    t = t' ∧ id = id' := by
  have hmade : ∀ (t : τ) (id : String),
      madeChannel me (t, (⟨.node me (.pendingInsert id), k⟩ : Event serverSig)) = some k :=
    fun _ _ => if_pos rfl
  have heq := h.unique (madeChannel me) (fun e older k' hP hk e' he' => ?_) he he'
    (hmade t id) (hmade t' id')
  · obtain ⟨ht, hevent⟩ := Prod.mk.inj heq
    exact ⟨ht, by simpa using congrArg Sigma.fst hevent⟩
  · obtain ⟨t, o, r⟩ := e
    cases o with
    | node n o =>
      cases o with
      | pendingInsert id =>
        by_cases hn : n = me
        · obtain rfl := Option.some.inj ((if_pos hn).symm.trans hk)
          exact hP hn e' he'
        · exact absurd ((if_neg hn).symm.trans hk) nofun
      | _ => cases hk
    | _ => cases hk

variable {newer older : Log serverSig τ} {u : τ} {id : String} {response : HttpResponse} {k : Nat}

/-- A response has taken an entry, which was inserted and not concerned since. -/
theorem taken_entry (h : Causal (Accounted me)
      (newer ++ (u, ⟨.node me (.respond id response), some k⟩) :: older)) :
    ∃ before t earlier, older = before ++ (t, ⟨.node me (.pendingInsert id), k⟩) :: earlier ∧
      ∀ e ∈ before, touches me id e.2 = false :=
  pendingEntry_eq_some (h.at_split rfl).symm

theorem taken_inserted (h : Causal (Accounted me)
      (newer ++ (u, ⟨.node me (.respond id response), some k⟩) :: older)) :
    ∃ t, (t, (⟨.node me (.pendingInsert id), k⟩ : Event serverSig)) ∈ older := by
  obtain ⟨before, t, earlier, rfl, -⟩ := taken_entry h
  exact ⟨t, by simp⟩

/-- No response has taken the channel of an insertion before it: the channel was new then. -/
theorem not_taken_before {before earlier : Log serverSig τ} {t u : τ} {id' : String}
    (h : Causal (Accounted me) (before ++ (t, ⟨.node me (.pendingInsert id), k⟩) :: earlier)) :
    (u, (⟨.node me (.respond id' response), some k⟩ : Event serverSig)) ∉ earlier := by
  intro hearlier
  obtain ⟨newer, older, rfl⟩ := List.append_of_mem hearlier
  have hfresh := h.at_split rfl
  obtain ⟨t', hins'⟩ := taken_inserted h.of_append.2
  exact hfresh _ (List.mem_append_right _ (.tail _ hins')) (if_pos rfl)

/-- An entry is taken once. -/
theorem taken_once (h : Causal (Accounted me)
      (newer ++ (u, ⟨.node me (.respond id response), some k⟩) :: older)) {u' : τ} {id' : String}
    {response' : HttpResponse} :
    (u', (⟨.node me (.respond id' response'), some k⟩ : Event serverSig)) ∉ older := by
  intro hmem
  obtain ⟨before, t, earlier, rfl, hbefore⟩ := taken_entry h
  have holder : Causal (Accounted me)
      (before ++ (t, ⟨.node me (.pendingInsert id), k⟩) :: earlier) := h.of_append.2
  -- the other response has taken an entry with the same channel, so the same entry
  have hentry : ∃ t', (t', (⟨.node me (.pendingInsert id'), k⟩ : Event serverSig)) ∈
      before ++ (t, ⟨.node me (.pendingInsert id), k⟩) :: earlier := by
    obtain ⟨newer', older', hsplit⟩ := List.append_of_mem hmem
    rw [hsplit] at holder ⊢
    obtain ⟨t', hins'⟩ := taken_inserted holder
    exact ⟨t', List.mem_append_right _ (.tail _ hins')⟩
  obtain ⟨t', hins'⟩ := hentry
  have hins : (t, (⟨.node me (.pendingInsert id), k⟩ : Event serverSig)) ∈
      before ++ (t, ⟨.node me (.pendingInsert id), k⟩) :: earlier := by simp
  obtain ⟨rfl, rfl⟩ := madeChannel_unique holder hins hins'
  rcases List.mem_append.mp hmem with hafter | hat
  · simpa [touches] using hbefore _ hafter
  · rcases List.mem_cons.mp hat with heq | hearlier
    · cases heq
    · exact not_taken_before holder hearlier

/-- The channel of an entry that is still in the map is empty: the response in it would have taken
    the entry. -/
theorem oneshotValue_of_entry (h : Causal (Accounted me) log)
    (hentry : pendingEntry me id log = some k) : oneshotValue me k log = none := by
  cases hvalue : oneshotValue me k log with
  | none => rfl
  | some response =>
    exfalso
    obtain ⟨newer, u, id', older, htaken⟩ := oneshotValue_eq_some hvalue
    obtain ⟨before, t, earlier, rfl, hbefore⟩ := pendingEntry_eq_some hentry
    rw [htaken] at h
    obtain ⟨t', hins'⟩ := taken_inserted h
    rw [← htaken] at h
    have hresponse : (u, (⟨.node me (.respond id' response), some k⟩ : Event serverSig)) ∈
        before ++ (t, ⟨.node me (.pendingInsert id), k⟩) :: earlier := by
      rw [htaken]
      simp
    have hinserted : (t', (⟨.node me (.pendingInsert id'), k⟩ : Event serverSig)) ∈
        before ++ (t, ⟨.node me (.pendingInsert id), k⟩) :: earlier := by
      rw [htaken]
      exact List.mem_append_right _ (.tail _ hins')
    obtain ⟨-, rfl⟩ := madeChannel_unique h hinserted (List.mem_append_right _ (.head _))
    rcases List.mem_append.mp hresponse with hafter | hat
    · -- nothing has concerned the entry since it was inserted
      simpa [touches] using hbefore _ hafter
    · rcases List.mem_cons.mp hat with heq | hearlier
      · cases heq
      · exact not_taken_before h hearlier

/-- The response that has taken the entry of a channel is what the channel holds. -/
theorem oneshotValue_taken (h : Causal (Accounted me)
      (newer ++ (u, ⟨.node me (.respond id response), some k⟩) :: older)) :
    oneshotValue me k (newer ++ (u, ⟨.node me (.respond id response), some k⟩) :: older) =
      some response := by
  induction newer with
  | nil => exact if_pos ⟨rfl, rfl⟩
  | cons head newer ih =>
    have hrest := ih h.2
    obtain ⟨t, o, r⟩ := head
    cases o with
    | node n o =>
      cases o with
      | respond id' response' =>
        cases r with
        | none => exact hrest
        | some k' =>
          have hother : ¬ (n = me ∧ k' = k) := by
            rintro ⟨rfl, rfl⟩
            have hmem : (u, (⟨.node n (.respond id response), some k'⟩ : Event serverSig)) ∈
                newer ++ (u, ⟨.node n (.respond id response), some k'⟩) :: older := by simp
            have hhead : Causal (Accounted n) ([] ++ (t, ⟨.node n (.respond id' response'),
                some k'⟩) :: (newer ++ (u, ⟨.node n (.respond id response), some k'⟩) :: older)) := h
            exact taken_once hhead hmem
          exact (if_neg hother).trans hrest
      | _ => exact hrest
    | _ => exact hrest

end Accounts

end Jrok
