import Jrok.Relay.Calls

/-!
# The counters of the tracker

`ConnectionTracker` keeps two flags for each session and one counter for each flag. A call raises
its counter each time, and a flag is only set once; and `mark_success` sets the flag of a direct
success for a relayed one, too.
-/

namespace Jrok.Relay

open Refinement

namespace ConnectionTracker

/-- The number of tracked sessions with this flag. -/
def flagged (t : ConnectionTracker) (flag : ConnectionStats → Bool) : Nat :=
  t.stats.entries.countP fun e => flag e.2

/-- The counters count the flags, and there are no more of them than attempts. -/
structure Consistent (t : ConnectionTracker) : Prop where
  direct : t.directSuccesses = t.flagged (·.directSuccess)
  relay : t.relayUsed = t.flagged (·.relayUsed)
  total : t.directSuccesses + t.relayUsed ≤ t.totalAttempts

/-- Fewer flags are set than attempts have been made. -/
def Room (t : ConnectionTracker) : Prop :=
  t.flagged (·.directSuccess) + t.flagged (·.relayUsed) < t.totalAttempts

/-- Where a success of this session is marked, it is a direct one and the first. -/
def CountsSuccess (t : ConnectionTracker) (sessionId : String) (direct : Bool) : Prop :=
  ∀ stat, t.stats.lookup sessionId = some stat →
    direct = true ∧ stat.directSuccess = false ∧ t.Room

/-- Where a relay of this session is marked, it is the first. -/
def CountsRelay (t : ConnectionTracker) (sessionId : String) : Prop :=
  ∀ stat, t.stats.lookup sessionId = some stat → stat.relayUsed = false ∧ t.Room

variable {t : ConnectionTracker} {sessionId : String} {now : Int}

theorem consistent_new : Consistent .new := ⟨rfl, rfl, Nat.le_refl 0⟩

theorem consistent_trackAttempt {subdomain clientAddr agentId : String} {directAttempt : Bool}
    (h : t.Consistent) (hfresh : sessionId ∉ t.stats) :
    (t.trackAttempt now sessionId subdomain clientAddr agentId directAttempt).Consistent where
  direct := by
    show t.directSuccesses = List.countP _ (t.stats.insert _ _).entries
    rw [AList.countP_insert hfresh, h.direct]
    rfl
  relay := by
    show t.relayUsed = List.countP _ (t.stats.insert _ _).entries
    rw [AList.countP_insert hfresh, h.relay]
    rfl
  total := Nat.le_succ_of_le h.total

theorem consistent_iff : t.Consistent ↔ t.directSuccesses = t.flagged (·.directSuccess) ∧
    t.relayUsed = t.flagged (·.relayUsed) ∧ t.directSuccesses + t.relayUsed ≤ t.totalAttempts :=
  ⟨fun h => ⟨h.direct, h.relay, h.total⟩, fun h => ⟨h.1, h.2.1, h.2.2⟩⟩

/-- The entry of the session is replaced, and the counters are raised by these amounts. -/
theorem consistent_replace_iff {stat stat' : ConnectionStats} {d r : Nat} (h : t.Consistent)
    (hstat : t.stats.lookup sessionId = some stat) :
    Consistent ⟨t.stats.replace sessionId stat', t.totalAttempts, t.directSuccesses + d,
        t.relayUsed + r⟩ ↔
      d + stat.directSuccess.toNat = stat'.directSuccess.toNat ∧
      r + stat.relayUsed.toNat = stat'.relayUsed.toNat ∧
      t.directSuccesses + d + (t.relayUsed + r) ≤ t.totalAttempts := by
  let t' : ConnectionTracker := ⟨t.stats.replace sessionId stat', t.totalAttempts,
    t.directSuccesses + d, t.relayUsed + r⟩
  have hd : t'.flagged (·.directSuccess) + stat.directSuccess.toNat =
      t.flagged (·.directSuccess) + stat'.directSuccess.toNat := AList.countP_replace hstat
  have hr : t'.flagged (·.relayUsed) + stat.relayUsed.toNat =
      t.flagged (·.relayUsed) + stat'.relayUsed.toNat := AList.countP_replace hstat
  rw [← h.direct] at hd
  rw [← h.relay] at hr
  rw [consistent_iff]
  show (t.directSuccesses + d = t'.flagged (·.directSuccess) ∧
    t.relayUsed + r = t'.flagged (·.relayUsed) ∧
    t.directSuccesses + d + (t.relayUsed + r) ≤ t.totalAttempts) ↔ _
  constructor
  · rintro ⟨hdirect, hrelay, htotal⟩
    exact ⟨by omega, by omega, htotal⟩
  · rintro ⟨hdirect, hrelay, htotal⟩
    exact ⟨by omega, by omega, htotal⟩

/-- Where the counters count the flags, there is room below the number of the attempts. -/
theorem Consistent.room_iff (h : t.Consistent) :
    t.Room ↔ t.directSuccesses + t.relayUsed < t.totalAttempts := by
  rw [Room, ← h.direct, ← h.relay]

/-- The success is counted rightly exactly if it is a direct one and the first of its session. -/
theorem consistent_markSuccess_iff {latencyMs : UInt64} {direct : Bool} (h : t.Consistent) :
    (t.markSuccess now sessionId latencyMs direct).Consistent ↔
      t.CountsSuccess sessionId direct := by
  cases hstat : t.stats.lookup sessionId with
  | none => simpa [markSuccess, CountsSuccess, hstat] using h
  | some stat =>
    have hmark : t.markSuccess now sessionId latencyMs direct =
        ⟨t.stats.replace sessionId
            { stat with directSuccess := true, latencyMs := latencyMs, completedAt := some now },
          t.totalAttempts, t.directSuccesses + direct.toNat, t.relayUsed + (!direct).toNat⟩ := by
      cases direct <;> simp [markSuccess, hstat]
    have hcounts : t.CountsSuccess sessionId direct ↔
        direct = true ∧ stat.directSuccess = false ∧ t.Room := by
      simp [CountsSuccess, hstat]
    rw [hmark, hcounts, consistent_replace_iff h hstat, h.room_iff]
    cases direct with
    | false => simp
    | true =>
      cases stat.directSuccess with
      | true => simp
      | false =>
        simp
        omega

/-- The relay is counted rightly exactly if it is the first of its session. -/
theorem consistent_markFailed_iff {relayUsed : Bool} (h : t.Consistent) :
    (t.markFailed now sessionId relayUsed).Consistent ↔
      (relayUsed = true → t.CountsRelay sessionId) := by
  cases hstat : t.stats.lookup sessionId with
  | none => simpa [markFailed, CountsRelay, hstat] using h
  | some stat =>
    have hmark : t.markFailed now sessionId relayUsed =
        ⟨t.stats.replace sessionId
            { stat with completedAt := some now, relayUsed := stat.relayUsed || relayUsed },
          t.totalAttempts, t.directSuccesses + 0, t.relayUsed + relayUsed.toNat⟩ := by
      cases relayUsed <;> simp [markFailed, hstat]
    have hcounts : t.CountsRelay sessionId ↔ stat.relayUsed = false ∧ t.Room := by
      simp [CountsRelay, hstat]
    rw [hmark, hcounts, consistent_replace_iff h hstat, h.room_iff]
    cases relayUsed with
    | false => simpa using h.total
    | true =>
      cases stat.relayUsed with
      | true => simp
      | false =>
        simp
        omega

end ConnectionTracker

namespace RelayModule

/-- What the call marks is counted rightly. A `close_relay` of a relay that is there marks its
    session as relayed. -/
def Counts (m : RelayModule) : Call → Prop
  | .markSuccess _ sessionId _ direct => m.tracker.CountsSuccess sessionId direct
  | .markFailed _ sessionId relayUsed => relayUsed = true → m.tracker.CountsRelay sessionId
  | .closeRelay _ sessionId =>
    sessionId ∈ m.relay.connections → m.tracker.CountsRelay sessionId
  | _ => True

/-- The call tracks no session that is tracked already. -/
def TracksFresh (m : RelayModule) (c : Call) : Prop :=
  ∀ sessionId, c.tracks = some sessionId → sessionId ∉ m.tracker.stats

theorem consistent_step_iff {m : RelayModule} {c : Call} (h : m.tracker.Consistent)
    (hfresh : m.TracksFresh c) : (step m c).2.tracker.Consistent ↔ m.Counts c := by
  cases c with
  | trackAttempt now sessionId subdomain clientAddr agentId directAttempt =>
    exact iff_of_true (ConnectionTracker.consistent_trackAttempt h (hfresh _ rfl)) trivial
  | markSuccess now sessionId latencyMs direct =>
    exact ConnectionTracker.consistent_markSuccess_iff h
  | markFailed now sessionId relayUsed => exact ConnectionTracker.consistent_markFailed_iff h
  | closeRelay now sessionId =>
    show (m.relay.closeRelay m.tracker now sessionId).2.Consistent ↔
      (sessionId ∈ m.relay.connections → m.tracker.CountsRelay sessionId)
    unfold RelayServer.closeRelay
    rw [← AList.lookup_isSome]
    cases hconn : m.relay.connections.lookup sessionId with
    | none => simpa using h
    | some conn =>
      have hfailed : (m.tracker.markFailed now sessionId true).Consistent ↔
          (true = true → m.tracker.CountsRelay sessionId) :=
        ConnectionTracker.consistent_markFailed_iff h
      simpa using hfailed
  | createRelay | relayToAgent | relayToClient | activeCount | cleanupOld =>
    exact iff_of_true h trivial

theorem mem_stats_step {m : RelayModule} {c : Call} {k : String} :
    k ∈ (step m c).2.tracker.stats ↔ k ∈ m.tracker.stats ∨ c.tracks = some k := by
  have hfailed : ∀ now sessionId relayUsed,
      k ∈ (m.tracker.markFailed now sessionId relayUsed).stats ↔ k ∈ m.tracker.stats := by
    intro now sessionId relayUsed
    cases hs : m.tracker.stats.lookup sessionId <;> cases relayUsed <;>
      simp [ConnectionTracker.markFailed, hs]
  cases c with
  | trackAttempt now sessionId subdomain clientAddr agentId directAttempt =>
    show k ∈ m.tracker.stats.insert sessionId _ ↔ k ∈ m.tracker.stats ∨ some sessionId = some k
    rw [AList.mem_insert, or_comm, Option.some.injEq, eq_comm]
  | markSuccess now sessionId latencyMs direct =>
    cases hs : m.tracker.stats.lookup sessionId <;> cases direct <;>
      simp [step, ConnectionTracker.markSuccess, hs, Call.tracks]
  | markFailed now sessionId relayUsed =>
    simpa [step, Call.tracks] using hfailed now sessionId relayUsed
  | closeRelay now sessionId =>
    cases hconn : m.relay.connections.lookup sessionId with
    | none => simp [step, RelayServer.closeRelay, hconn, Call.tracks]
    | some conn =>
      simpa [step, RelayServer.closeRelay, hconn, Call.tracks] using hfailed now sessionId true
  | createRelay | relayToAgent | relayToClient | activeCount | cleanupOld =>
    simp [step, Call.tracks]

theorem mem_stats_after {calls : List Call} {k : String} :
    k ∈ (after calls).tracker.stats ↔ k ∈ calls.filterMap Call.tracks := by
  induction calls using List.reverseRecOn with
  | nil => exact iff_of_false (AList.notMem_empty k) List.not_mem_nil
  | append_singleton calls c ih =>
    rw [after_snoc, mem_stats_step, ih, List.filterMap_append, List.mem_append]
    cases htracks : c.tracks <;> simp [htracks, eq_comm]

theorem FreshIds.tracksFresh {calls : List Call} {c : Call} (h : FreshIds (calls ++ [c])) :
    (after calls).TracksFresh c := by
  intro sessionId htracks hmem
  have hnodup : (calls.filterMap Call.tracks ++ [sessionId]).Nodup := by
    simpa [FreshIds, htracks] using h
  have hnotin := (List.nodup_append.mp hnodup).2.2 sessionId (mem_stats_after.mp hmem) sessionId
  exact hnotin List.mem_cons_self rfl

theorem FreshIds.of_append {earlier later : List Call} (h : FreshIds (earlier ++ later)) :
    FreshIds earlier := by
  unfold FreshIds at h
  rw [List.filterMap_append] at h
  exact (List.nodup_append.mp h).1

/-- The counters are consistent all along exactly if each call of the sequence counts rightly what
    it marks. -/
theorem counters_consistent_iff {calls : List Call} (hfresh : FreshIds calls) :
    (∀ earlier later, calls = earlier ++ later → (after earlier).tracker.Consistent) ↔
      ∀ earlier c later, calls = earlier ++ c :: later → (after earlier).Counts c := by
  have hsnoc : ∀ earlier c later, calls = earlier ++ c :: later →
      FreshIds (earlier ++ [c]) := by
    intro earlier c later hsplit
    rw [hsplit, List.append_cons] at hfresh
    exact hfresh.of_append
  constructor
  · intro h earlier c later hsplit
    have hbefore := h earlier (c :: later) hsplit
    have hafter := h (earlier ++ [c]) later (by rw [hsplit, List.append_cons])
    rw [after_snoc] at hafter
    exact (consistent_step_iff hbefore (hsnoc earlier c later hsplit).tracksFresh).mp hafter
  · intro h earlier
    induction earlier using List.reverseRecOn with
    | nil =>
      intro later _
      exact ConnectionTracker.consistent_new
    | append_singleton earlier c ih =>
      intro later hsplit
      have hsplit' : calls = earlier ++ c :: later := by rw [hsplit, ← List.append_cons]
      have hbefore := ih (c :: later) hsplit'
      rw [after_snoc]
      exact (consistent_step_iff hbefore (hsnoc earlier c later hsplit').tracksFresh).mpr
        (h earlier c later hsplit')

/-- A session that connects over a relay. -/
def relayedSuccess : List Call :=
  [.trackAttempt 1000 "session" "app" "10.0.0.7:4000" "agent" true,
    .markSuccess 2000 "session" 5 false]

/-- Its success raises the counter of the relays and sets the flag of a direct success. -/
theorem counters_miscount :
    FreshIds relayedSuccess ∧ (after relayedSuccess).tracker.getStats = (1, 0, 1) ∧
      (after relayedSuccess).tracker.flagged (·.directSuccess) = 1 ∧
      (after relayedSuccess).tracker.flagged (·.relayUsed) = 0 ∧
      ¬ (after relayedSuccess).tracker.Consistent := by
  refine ⟨by decide, rfl, rfl, rfl, ?_⟩
  intro h
  exact absurd h.direct (by decide)

theorem counters_consistent_iff_relayedSuccess :
    (∀ earlier later, relayedSuccess = earlier ++ later →
        (after earlier).tracker.Consistent) ↔
      ∀ earlier c later, relayedSuccess = earlier ++ c :: later → (after earlier).Counts c :=
  counters_consistent_iff (by decide)

end RelayModule

end Jrok.Relay
