import Jrok.Relational.Ledger
import Jrok.Tcp.Failures
import Jrok.Tcp.Relays
import Mathlib.Algebra.Group.Nat.Defs
import Mathlib.Algebra.Group.Prod

/-!
# Calls for different sessions

The sessions, the relays and the counters of a facilitator form a ledger with an entry for each
session id, and a call of a session's party rewrites the entry of that session.
-/

namespace Jrok

open Relational

namespace SessionCall

/-- What a call returns. -/
inductive Answer where
  | done (r : Except Error Unit)
  | relay (r : Except Error String)

def answer (sessionId : String) (f : Facilitator) : SessionCall → Answer
  | agentListening agentEndpoint agentNat =>
    .done (f.agentListening sessionId agentEndpoint agentNat).1
  | clientConnected => .done (f.clientConnected sessionId).1
  | connectionFailed => .relay (f.connectionFailed sessionId).1

/-- What the call adds to the counters. -/
def counts (session : ConnectionSession) : SessionCall → TrackerCounts
  | clientConnected => if session.directConnection then (0, 1, 0) else (0, 0, 1)
  | _ => (0, 0, 0)

/-- The relay of the session after the call. -/
def relayAfter (sessionId : String) (relay : Option String) : SessionCall → Option String
  | connectionFailed => some ("relay:" ++ sessionId)
  | _ => relay

/-- What the call makes of a session and its relay, and what it adds to the counters. Without a
    session it does nothing. -/
def effect (sessionId : String) (call : SessionCall) :
    Option ConnectionSession × Option String →
      (Option ConnectionSession × Option String) × TrackerCounts
  | (some session, relay) =>
    ((some (call.write session), call.relayAfter sessionId relay), call.counts session)
  | (none, relay) => ((none, relay), (0, 0, 0))

end SessionCall

namespace Facilitator

/-- The session and the relay of each session id, and the counters. -/
def ledger (f : Facilitator) :
    Ledger String (Option ConnectionSession × Option String) TrackerCounts where
  entries k := (f.sessions.lookup k, f.relays.lookup k)
  total := f.tracker.getStats

theorem same_iff_ledger {f f' : Facilitator} : f.Same f' ↔ f'.ledger = f.ledger := by
  constructor
  · intro h
    apply Ledger.ext
    · funext k
      exact Prod.ext (h.sessions k) (h.relays k)
    · exact Prod.ext h.totalAttempts (Prod.ext h.directSuccesses h.relayUsed)
  · intro h
    have hentry : ∀ k, f'.ledger.entries k = f.ledger.entries k := by
      intro k
      rw [h]
    have htotal : f'.tracker.getStats = f.tracker.getStats := congrArg Ledger.total h
    exact ⟨fun k => congrArg Prod.fst (hentry k), fun k => congrArg Prod.snd (hentry k),
      congrArg Prod.fst htotal, congrArg (·.2.1) htotal, congrArg (·.2.2) htotal⟩

end Facilitator

namespace SessionCall

variable {f : Facilitator} {sessionId : String} {call : SessionCall}

theorem run_of_none (h : f.sessions.lookup sessionId = none) : call.run sessionId f = f := by
  cases call with
  | agentListening agentEndpoint agentNat => simp [run, Facilitator.agentListening, h]
  | clientConnected => simp [run, Facilitator.clientConnected, h]
  | connectionFailed => simp [run, Facilitator.connectionFailed, h]

theorem sessions_run (k : String) : (call.run sessionId f).sessions.lookup k =
    if k = sessionId then (f.sessions.lookup k).map fun session => call.write session
    else f.sessions.lookup k := by
  cases call with
  | agentListening agentEndpoint agentNat =>
    exact Facilitator.sessions_agentListening f sessionId agentEndpoint agentNat k
  | clientConnected => exact Facilitator.sessions_clientConnected f sessionId k
  | connectionFailed => exact Facilitator.sessions_connectionFailed f sessionId k

theorem relays_run {session : ConnectionSession} (h : f.sessions.lookup sessionId = some session)
    (k : String) : (call.run sessionId f).relays.lookup k =
      if k = sessionId then call.relayAfter sessionId (f.relays.lookup k)
      else f.relays.lookup k := by
  cases call with
  | agentListening agentEndpoint agentNat =>
    show (f.agentListening sessionId agentEndpoint agentNat).2.relays.lookup k = _
    rw [Facilitator.relays_agentListening]
    exact (ite_self _).symm
  | clientConnected =>
    show (f.clientConnected sessionId).2.relays.lookup k = _
    rw [Facilitator.relays_clientConnected]
    exact (ite_self _).symm
  | connectionFailed =>
    have hrelays : (f.connectionFailed sessionId).2.relays =
        f.relays.insert sessionId ("relay:" ++ sessionId) := by
      simp [Facilitator.connectionFailed, h]
    show (f.connectionFailed sessionId).2.relays.lookup k = _
    rw [hrelays]
    by_cases hk : k = sessionId
    · rw [if_pos hk, hk]
      exact AList.lookup_insert _
    · rw [if_neg hk]
      exact AList.lookup_insert_ne hk

theorem counts_run {session : ConnectionSession} (h : f.sessions.lookup sessionId = some session) :
    (call.run sessionId f).tracker.getStats = f.tracker.getStats + call.counts session := by
  cases call with
  | agentListening agentEndpoint agentNat =>
    show (f.agentListening sessionId agentEndpoint agentNat).2.tracker.getStats = _
    rw [Facilitator.tracker_agentListening]
    exact (add_zero _).symm
  | clientConnected =>
    show (f.clientConnected sessionId).2.tracker.getStats = _
    rw [Facilitator.tracker_clientConnected, h]
    cases hdirect : session.directConnection <;>
      simp [counts, hdirect, SimpleConnectionTracker.markSuccess, SimpleConnectionTracker.getStats]
  | connectionFailed =>
    show (f.connectionFailed sessionId).2.tracker.getStats = _
    rw [Facilitator.tracker_connectionFailed]
    exact (add_zero _).symm

/-- A call rewrites the entry of its session in the facilitator's ledger. -/
theorem ledger_run (call : SessionCall) (sessionId : String) (f : Facilitator) :
    (call.run sessionId f).ledger = f.ledger.apply sessionId (call.effect sessionId) := by
  cases hsession : f.sessions.lookup sessionId with
  | none =>
    have heffect : call.effect sessionId (f.ledger.entries sessionId) =
        (f.ledger.entries sessionId, (0, 0, 0)) := by
      show call.effect sessionId (f.sessions.lookup sessionId, _) =
        ((f.sessions.lookup sessionId, _), (0, 0, 0))
      rw [hsession]
      rfl
    rw [run_of_none hsession]
    apply Ledger.ext
    · rw [Ledger.apply_entries, heffect]
      exact (Function.update_eq_self sessionId _).symm
    · rw [Ledger.apply_total, heffect]
      exact (add_zero _).symm
  | some session =>
    have heffect : call.effect sessionId (f.ledger.entries sessionId) =
        ((some (call.write session), call.relayAfter sessionId (f.relays.lookup sessionId)),
          call.counts session) := by
      show call.effect sessionId (f.sessions.lookup sessionId, _) = _
      rw [hsession]
      rfl
    apply Ledger.ext
    · rw [Ledger.apply_entries, heffect]
      funext k
      show ((call.run sessionId f).sessions.lookup k, (call.run sessionId f).relays.lookup k) = _
      rw [sessions_run, relays_run hsession]
      by_cases hk : k = sessionId
      · rw [if_pos hk, if_pos hk, hk, Function.update_self, hsession]
        rfl
      · rw [if_neg hk, if_neg hk, Function.update_of_ne hk]
        rfl
    · rw [Ledger.apply_total, heffect]
      exact counts_run hsession

/-- What a call returns depends on its session alone. -/
theorem answer_congr {f' : Facilitator}
    (h : f'.sessions.lookup sessionId = f.sessions.lookup sessionId) :
    call.answer sessionId f' = call.answer sessionId f := by
  cases hsession : f.sessions.lookup sessionId with
  | none =>
    rw [hsession] at h
    cases call <;> simp [answer, Facilitator.agentListening, Facilitator.clientConnected,
      Facilitator.connectionFailed, h, hsession]
  | some session =>
    rw [hsession] at h
    cases call <;> simp [answer, Facilitator.agentListening, Facilitator.clientConnected,
      Facilitator.connectionFailed, h, hsession]

/-- The sessions of others are unchanged. -/
theorem sessions_run_ne {k : String} (h : k ≠ sessionId) :
    (call.run sessionId f).sessions.lookup k = f.sessions.lookup k := by
  rw [sessions_run, if_neg h]

/-- The calls for two sessions can be made in any order. -/
theorem sessions_independent (f : Facilitator) {s₁ s₂ : String} (hne : s₁ ≠ s₂)
    (o₁ o₂ : SessionCall) :
    (o₂.run s₂ (o₁.run s₁ f)).Same (o₁.run s₁ (o₂.run s₂ f)) ∧
    (o₁.answer s₁ f, o₂.answer s₂ (o₁.run s₁ f)) =
      (o₁.answer s₁ (o₂.run s₂ f), o₂.answer s₂ f) ∧
    (o₁.run s₁ f).sessions.lookup s₂ = f.sessions.lookup s₂ ∧
    (o₂.run s₂ f).sessions.lookup s₁ = f.sessions.lookup s₁ := by
  have h₂ : (o₁.run s₁ f).sessions.lookup s₂ = f.sessions.lookup s₂ := sessions_run_ne hne.symm
  have h₁ : (o₂.run s₂ f).sessions.lookup s₁ = f.sessions.lookup s₁ := sessions_run_ne hne
  have hsame : (o₂.run s₂ (o₁.run s₁ f)).Same (o₁.run s₁ (o₂.run s₂ f)) := by
    apply Facilitator.same_iff_ledger.mpr
    rw [ledger_run, ledger_run, ledger_run, ledger_run]
    exact Ledger.apply_comm f.ledger _ _ hne.symm
  refine ⟨hsame, ?_, h₂, h₁⟩
  rw [answer_congr h₁, answer_congr h₂]

/-- A facilitator with one session, which waits for its agent. -/
def waiting : Facilitator :=
  Facilitator.new.insertSession
    ⟨"a", "app", "10.0.0.7:4000", "agent", none, .findingAgent, 0, none, none, false⟩

/-- A failure for the session that is there, and a success for one that is not. -/
theorem sessions_independent_waiting :
    (clientConnected.run "b" (connectionFailed.run "a" waiting)).Same
        (connectionFailed.run "a" (clientConnected.run "b" waiting)) ∧
      (connectionFailed.answer "a" waiting,
          clientConnected.answer "b" (connectionFailed.run "a" waiting)) =
        (connectionFailed.answer "a" (clientConnected.run "b" waiting),
          clientConnected.answer "b" waiting) ∧
      (connectionFailed.run "a" waiting).sessions.lookup "b" = waiting.sessions.lookup "b" ∧
      (clientConnected.run "b" waiting).sessions.lookup "a" = waiting.sessions.lookup "a" :=
  sessions_independent waiting (by decide) connectionFailed clientConnected

end SessionCall

end Jrok
