import Jrok.Tcp.Failures
import Mathlib.Data.Finset.Card

/-!
# Connection statistics

What `get_connection_stats` reports after any sequence of calls, against the history of the calls.
-/

namespace Jrok

open Concurrency

namespace Tcp

/-- A `request_connection` that has returned a session. -/
def accepted (m : Made FacilitatorCall Choice World Returned) : Bool :=
  match m.call, m.result with
  | .requestConnection _ _, .session (.ok _) => true
  | _, _ => false

/-- The session that a `connection_failed` has created a relay for. -/
def relayedSession (m : Made FacilitatorCall Choice World Returned) : Option String :=
  match m.call, m.result with
  | .connectionFailed sessionId, .relay (.ok _) => some sessionId
  | _, _ => none

/-- The counters that are reported add up to the history. -/
structure AddUp (history : List (Made FacilitatorCall Choice World Returned)) (f : Facilitator) :
    Prop where
  attempts : f.tracker.getStats.1 = history.countP accepted
  relays : f.tracker.getStats.2.2 = (history.filterMap relayedSession).toFinset.card
  rate : f.tracker.getStats.2.1 + f.tracker.getStats.2.2 ≤ f.tracker.getStats.1

/-- A `client_connected` for a session in the map. -/
def connects (f : Facilitator) : FacilitatorCall → Bool
  | .clientConnected sessionId => (f.sessions.lookup sessionId).isSome
  | _ => false

/-- The session of a `connection_failed`, where it is in the map. -/
def fails (f : Facilitator) : FacilitatorCall → Option String
  | .connectionFailed sessionId =>
    if (f.sessions.lookup sessionId).isSome then some sessionId else none
  | _ => none

/-- The look-up of a `request_connection` finds no TCP agent, or the message to the agent does not
    get into its channel. -/
def Unreached (B : Backend) (faulty lookups : Bool) (me : String)
    (m : Made FacilitatorCall Choice World Returned) : Prop :=
  ∀ subdomain clientAddr r x', m.call = .requestConnection subdomain clientAddr →
    (requestConnection me subdomain clientAddr).run.play
      (requestHandler B faulty lookups subdomain) m.choices (m.before, .start) = some (r, x') →
    ∀ agentId agent, x'.2.found = some (agentId, agent) → agent.protocol = .tcp →
      x'.2.sent ≠ some (some true)

/-- The call leaves nothing to count: no agent is reached for a new session, and no session that is
    in the map is reported as connected or failed. -/
structure Uncounted (B : Backend) (faulty lookups : Bool) (me : String)
    (m : Made FacilitatorCall Choice World Returned) : Prop where
  unreached : Unreached B faulty lookups me m
  unconnected : connects (m.before.node me).facilitator m.call = false
  unfailed : fails (m.before.node me).facilitator m.call = none

section

variable {f f' : Facilitator} {issued issued' : List String} {call : FacilitatorCall}
  {cs : List Choice} {b : Returned}

/-- What a call adds to the counters. -/
theorem Effect.counters (h : Effect f issued call cs b f' issued') :
    f'.totalAttempts = f.totalAttempts ∧
      f'.directSuccesses + f'.relayUsed = f.directSuccesses + f.relayUsed +
        if connects f call then 1 else 0 := by
  cases h with
  | agentListening =>
    rename_i sessionId endpoint agentNat
    have htracker := Facilitator.tracker_agentListening f sessionId endpoint agentNat
    simp only [Facilitator.tracker, SimpleConnectionTracker.mk.injEq] at htracker
    simp [connects, htracker]
  | clientConnected =>
    rename_i sessionId
    cases hs : f.sessions.lookup sessionId with
    | none => simp [Facilitator.clientConnected, connects, hs]
    | some session =>
      cases hdirect : session.directConnection <;>
        simp [Facilitator.clientConnected, Facilitator.markSuccess, connects, hs, hdirect] <;> omega
  | connectionFailed =>
    rename_i sessionId
    have htracker := Facilitator.tracker_connectionFailed f sessionId
    simp only [Facilitator.tracker, SimpleConnectionTracker.markFailed,
      SimpleConnectionTracker.mk.injEq] at htracker
    simp [connects, htracker]
  | _ => exact ⟨rfl, rfl⟩

/-- A relay is created for a session exactly if it is in the map. -/
theorem Effect.relayedSession (h : Effect f issued call cs b f' issued') (before : World) :
    Tcp.relayedSession ⟨call, cs, before, b⟩ = fails f call := by
  cases h with
  | connectionFailed =>
    rename_i sessionId
    cases hs : f.sessions.lookup sessionId <;>
      simp [Tcp.relayedSession, fails, Facilitator.connectionFailed, hs]
  | _ => rfl

end

variable {me : String} {B : Backend} {faulty lookups : Bool} {w₀ w : World}
  {history : List (Made FacilitatorCall Choice World Returned)}

/-- The attempts are never counted, and each report of a session in the map counts once. -/
theorem counters (hnew : (w₀.node me).facilitator = .new)
    (hrun : Calls (World.openHandler B faulty lookups) (FacilitatorCall.returned me) w₀ history w) :
    (w.node me).facilitator.totalAttempts = 0 ∧
      (w.node me).facilitator.directSuccesses + (w.node me).facilitator.relayUsed =
        history.countP fun m => connects (m.before.node me).facilitator m.call := by
  refine hrun.invariant (fun history w => (w.node me).facilitator.totalAttempts = 0 ∧
    (w.node me).facilitator.directSuccesses + (w.node me).facilitator.relayUsed =
      history.countP fun m => connects (m.before.node me).facilitator m.call) ?_ ?_
  · rw [hnew]
    exact ⟨rfl, rfl⟩
  · intro history w c cs b w' hbefore hplay
    obtain ⟨htotal, hcount⟩ := (FacilitatorCall.returned_effect hplay).counters
    rw [htotal, hcount, hbefore.2, List.countP_cons]
    exact ⟨hbefore.1, rfl⟩

/-- A request is refused exactly if it reaches no agent. -/
theorem Requested.error_iff {f f' : Facilitator} {subdomain : String} {g : Answers}
    {r : Except Error ConnectionSession} (h : Requested f subdomain g r f') :
    (∃ e, r = .error e) ↔
      ∀ agentId agent, g.found = some (agentId, agent) → agent.protocol = .tcp →
        g.sent ≠ some (some true) := by
  cases h with
  | unknown => exact iff_of_true ⟨_, rfl⟩ fun _ _ hfound => by cases hfound
  | wrongProtocol hprotocol =>
    refine iff_of_true ⟨_, rfl⟩ ?_
    intro agentId agent hfound htcp
    cases hfound
    exact absurd htcp hprotocol
  | sent hprotocol =>
    apply iff_of_false
    · rintro ⟨e, he⟩
      cases he
    · intro hunreached
      exact hunreached _ _ rfl hprotocol rfl
  | notSent _ hanswer =>
    refine iff_of_true ⟨_, rfl⟩ ?_
    intro _ _ _ _ hsent
    exact hanswer (Option.some.inj hsent)

theorem accepted_eq_false_iff {call : FacilitatorCall} {cs : List Choice} {b : Returned}
    {w' : World}
    (h : (call.returned me).play (World.openHandler B faulty lookups) cs w = some (b, w')) :
    accepted ⟨call, cs, w, b⟩ = false ↔ Unreached B faulty lookups me ⟨call, cs, w, b⟩ := by
  cases call with
  | requestConnection subdomain clientAddr =>
    obtain ⟨cs₁, cs₂, r, w₁, rfl, hrun, hret⟩ := Prog.play_bind_iff.mp h
    obtain ⟨rfl, rfl, rfl⟩ := Prog.play_ret_iff.mp hret
    obtain ⟨g, hplay⟩ := Prog.exists_play_observe (f := answersAfter subdomain) .start hrun
    have herror := (requestConnection_requested hplay).error_iff
    rw [List.append_nil]
    have haccepted :
        accepted ⟨.requestConnection subdomain clientAddr, cs₁, w, .session r⟩ = false ↔
          ∃ e, r = .error e := by
      cases r <;> simp [accepted]
    rw [haccepted, herror]
    constructor
    · intro hunreached subdomain' clientAddr' r' x' hcall hplay'
      cases hcall
      obtain ⟨rfl, rfl⟩ := Prod.mk.inj (Option.some.inj (hplay.symm.trans hplay'))
      exact hunreached
    · intro hunreached
      exact hunreached subdomain clientAddr r _ rfl hplay
  | _ =>
    refine iff_of_true rfl ?_
    intro _ _ _ _ hcall
    cases hcall

theorem accepted_of_mem
    (hrun : Calls (World.openHandler B faulty lookups) (FacilitatorCall.returned me) w₀ history w) :
    ∀ m ∈ history, accepted m = false ↔ Unreached B faulty lookups me m := by
  refine hrun.invariant (fun history _ =>
    ∀ m ∈ history, accepted m = false ↔ Unreached B faulty lookups me m) ?_ ?_
  · simp
  · intro history w c cs b w' hbefore hplay m hm
    obtain rfl | hm := List.mem_cons.mp hm
    · exact accepted_eq_false_iff hplay
    · exact hbefore m hm

theorem relayedSession_of_mem
    (hrun : Calls (World.openHandler B faulty lookups) (FacilitatorCall.returned me) w₀ history w) :
    ∀ m ∈ history, relayedSession m = fails (m.before.node me).facilitator m.call := by
  refine hrun.invariant (fun history _ =>
    ∀ m ∈ history, relayedSession m = fails (m.before.node me).facilitator m.call) ?_ ?_
  · simp
  · intro history w c cs b w' hbefore hplay m hm
    obtain rfl | hm := List.mem_cons.mp hm
    · exact (FacilitatorCall.returned_effect hplay).relayedSession w
    · exact hbefore m hm

/-- The reported counters add up exactly after the histories that leave nothing to count. -/
theorem stats_add_up_iff (hnew : (w₀.node me).facilitator = .new)
    (hrun : Calls (World.openHandler B faulty lookups) (FacilitatorCall.returned me) w₀ history w) :
    AddUp history (w.node me).facilitator ↔
      ∀ m ∈ history, Uncounted B faulty lookups me m := by
  obtain ⟨htotal, hcount⟩ := counters hnew hrun
  have hreached := accepted_of_mem hrun
  have hrelayed := relayedSession_of_mem hrun
  constructor
  · rintro ⟨hattempts, hrelays, hrate⟩ m hm
    simp only [Facilitator.tracker, SimpleConnectionTracker.getStats] at hattempts hrelays hrate
    have haccepted : history.countP accepted = 0 := by omega
    have hconnects : (history.countP fun m =>
        connects (m.before.node me).facilitator m.call) = 0 := by omega
    have hempty : (history.filterMap relayedSession).toFinset.card = 0 := by omega
    rw [Finset.card_eq_zero, List.toFinset_eq_empty_iff, List.filterMap_eq_nil_iff] at hempty
    constructor
    · rw [← hreached m hm]
      exact Bool.eq_false_of_not_eq_true (List.countP_eq_zero.mp haccepted m hm)
    · exact Bool.eq_false_of_not_eq_true (List.countP_eq_zero.mp hconnects m hm)
    · rw [← hrelayed m hm]
      exact hempty m hm
  · intro h
    have haccepted : history.countP accepted = 0 :=
      List.countP_eq_zero.mpr fun m hm => by simp [(hreached m hm).mpr (h m hm).unreached]
    have hconnects : (history.countP fun m =>
        connects (m.before.node me).facilitator m.call) = 0 :=
      List.countP_eq_zero.mpr fun m hm => by simp [(h m hm).unconnected]
    have hempty : history.filterMap relayedSession = [] :=
      List.filterMap_eq_nil_iff.mpr fun m hm => (hrelayed m hm).trans (h m hm).unfailed
    constructor
    · simp only [Facilitator.tracker, SimpleConnectionTracker.getStats]
      omega
    · simp only [Facilitator.tracker, SimpleConnectionTracker.getStats, hempty, List.toFinset_nil,
        Finset.card_empty]
      omega
    · simp only [Facilitator.tracker, SimpleConnectionTracker.getStats]
      omega

/-! ## A session that is connected twice and then relayed -/

theorem stats_miscount : ∃ history w,
    Calls (World.openHandler .migrated false true) (FacilitatorCall.returned "s") .boot history w ∧
    history.map (·.call) = [.connectionFailed "session", .clientConnected "session",
      .clientConnected "session", .requestConnection "app" "203.0.113.7:4000"] ∧
    (w.node "s").facilitator.tracker.getStats = (0, 2, 0) ∧
    history.countP accepted = 1 ∧
    (history.filterMap relayedSession).toFinset.card = 1 := by
  have hrun : (runCalls (World.openHandler .migrated false true) (FacilitatorCall.returned "s")
      [(.requestConnection "app" "203.0.113.7:4000", reached "session"),
        (.clientConnected "session", [.go]), (.clientConnected "session", [.go]),
        (.connectionFailed "session", [.go])] [] .boot).map (fun r =>
          (r.1.map (·.call), (r.2.node "s").facilitator.tracker.getStats, r.1.countP accepted,
            (r.1.filterMap relayedSession).toFinset.card)) =
      some ([.connectionFailed "session", .clientConnected "session",
        .clientConnected "session", .requestConnection "app" "203.0.113.7:4000"],
        (0, 2, 0), 1, 1) := by decide +kernel
  obtain ⟨⟨history, w⟩, hcalls, hresult⟩ := Option.map_eq_some_iff.mp hrun
  simp only [Prod.mk.injEq] at hresult
  exact ⟨history, w, Calls.nil.run hcalls, hresult⟩

/-- A request that finds no agent, one that does not reach the agent, and a report on no session. -/
theorem stats_add_up_empty : ∃ history w,
    Calls (World.openHandler .migrated false true) (FacilitatorCall.returned "s") .boot history w ∧
    history.length = 3 ∧ ∀ m ∈ history, Uncounted .migrated false true "s" m := by
  have hrun : (runCalls (World.openHandler .migrated false true) (FacilitatorCall.returned "s")
      [(.requestConnection "app" "203.0.113.7:4000", [.fresh "session", .read 1000, .order []]),
        (.requestConnection "app" "203.0.113.7:4000", [.fresh "other", .read 1000,
          .order [⟨"agent", ⟨0, "app", 22, "localhost", .tcp, 0⟩⟩], .go, .io false]),
        (.clientConnected "session", [.go])] [] .boot).map (fun r =>
          (r.1.length, (r.2.node "s").facilitator.tracker.getStats, r.1.countP accepted,
            (r.1.filterMap relayedSession).toFinset.card)) = some (3, (0, 0, 0), 0, 0) := by
    decide +kernel
  obtain ⟨⟨history, w⟩, hcalls, hresult⟩ := Option.map_eq_some_iff.mp hrun
  simp only [Prod.mk.injEq] at hresult
  obtain ⟨hlength, hstats, haccepted, hcard⟩ := hresult
  have hadd : AddUp history (w.node "s").facilitator := by
    constructor
    · rw [hstats, haccepted]
    · rw [hstats, hcard]
    · rw [hstats]
      exact Nat.le_refl 0
  exact ⟨history, w, Calls.nil.run hcalls, hlength,
    (stats_add_up_iff rfl (Calls.nil.run hcalls)).mp hadd⟩

end Tcp

end Jrok
