import Jrok.Refinement.Machine
import Jrok.Relay.Server
import Mathlib.Data.List.Induction

/-!
# The stand-ins against the relay module

`SimpleRelayServer` and `SimpleConnectionTracker` under the calls that `RelayServer` and
`ConnectionTracker` also have, each pair started empty.
-/

namespace Jrok.Relay

open Refinement

/-! ## The relays -/

inductive RelayCall where
  | createRelay (now : Int) (sessionId clientAddr agentId : String)
  | relayToAgent (sessionId : String) (data : List UInt8)
  | activeCount
  deriving DecidableEq

inductive RelayAnswer where
  | endpoint (r : Except Error String)
  | relayed (r : Except Error Unit)
  | count (n : Nat)

def simpleRelay (r : SimpleRelayServer) : RelayCall → RelayAnswer × SimpleRelayServer
  | .createRelay _ sessionId clientAddr agentId =>
    let (answer, r) := r.createRelay sessionId clientAddr agentId
    (.endpoint answer, r)
  | .relayToAgent sessionId data => (.relayed (r.relayToAgent sessionId data), r)
  | .activeCount => (.count r.activeCount, r)

def relay (r : RelayServer) : RelayCall → RelayAnswer × RelayServer
  | .createRelay now sessionId clientAddr agentId =>
    let (answer, r) := r.createRelay now sessionId clientAddr agentId
    (.endpoint answer, r)
  | .relayToAgent sessionId data =>
    let (answer, r) := r.relayToAgent sessionId data
    (.relayed answer, r)
  | .activeCount => (.count r.activeCount, r)

/-- Data is only relayed for a session that has a relay. -/
def HasRelay (r : SimpleRelayServer) : RelayCall → Prop
  | .relayToAgent sessionId _ => sessionId ∈ r.connections
  | _ => True

/-- The two servers have relays for the same sessions. -/
def SameRelays (s : SimpleRelayServer) (t : RelayServer) : Prop :=
  ∀ k, k ∈ s.connections ↔ k ∈ t.connections

theorem SameRelays.activeCount {s : SimpleRelayServer} {t : RelayServer} (h : SameRelays s t) :
    s.activeCount = t.activeCount := by
  have hperm : s.connections.keys.Perm t.connections.keys :=
    (List.perm_ext_iff_of_nodup s.connections.keys_nodup t.connections.keys_nodup).mpr h
  exact hperm.length_eq

theorem relay_agree {s : SimpleRelayServer} {t : RelayServer} {c : RelayCall}
    (h : SameRelays s t) (hgood : HasRelay s c) :
    (simpleRelay s c).1 = (relay t c).1 ∧ SameRelays (simpleRelay s c).2 (relay t c).2 := by
  cases c with
  | createRelay now sessionId clientAddr agentId =>
    apply And.intro rfl
    intro k
    show k ∈ s.connections.insert _ _ ↔ k ∈ t.connections.insert _ _
    rw [AList.mem_insert, AList.mem_insert, h k]
  | relayToAgent sessionId data =>
    have hmem : sessionId ∈ t.connections := (h sessionId).mp hgood
    obtain ⟨conn, hconn⟩ := Option.isSome_iff_exists.mp (AList.lookup_isSome.mpr hmem)
    simp only [simpleRelay, relay, RelayServer.relayToAgent, hconn]
    apply And.intro rfl
    intro k
    show k ∈ s.connections ↔ k ∈ t.connections.replace _ _
    rw [AList.mem_replace, h k]
  | activeCount =>
    apply And.intro
    · exact congrArg RelayAnswer.count h.activeCount
    · exact h

theorem relay_differ {s : SimpleRelayServer} {t : RelayServer} {c : RelayCall}
    (h : SameRelays s t) (hbad : ¬HasRelay s c) : (simpleRelay s c).1 ≠ (relay t c).1 := by
  cases c with
  | relayToAgent sessionId data =>
    have hnone : t.connections.lookup sessionId = none := by
      apply AList.lookup_eq_none.mpr
      intro hmem
      exact hbad ((h sessionId).mpr hmem)
    simp [simpleRelay, relay, RelayServer.relayToAgent, SimpleRelayServer.relayToAgent, hnone]
  | _ => exact (hbad trivial).elim

/-- Each session that data is relayed for got its relay by an earlier call. -/
def CreatedFirst (calls : List RelayCall) : Prop :=
  ∀ earlier sessionId data later, calls = earlier ++ .relayToAgent sessionId data :: later →
    ∃ now clientAddr agentId, .createRelay now sessionId clientAddr agentId ∈ earlier

theorem mem_final_simpleRelay (calls : List RelayCall) (s : SimpleRelayServer) (k : String) :
    k ∈ (final simpleRelay calls s).connections ↔
      k ∈ s.connections ∨ ∃ now clientAddr agentId, .createRelay now k clientAddr agentId ∈ calls := by
  induction calls generalizing s with
  | nil => simp [final]
  | cons c calls ih =>
    rw [final, ih]
    cases c with
    | createRelay now sessionId clientAddr agentId =>
      have hinsert : k ∈ (simpleRelay s (.createRelay now sessionId clientAddr agentId)).2.connections ↔
          k = sessionId ∨ k ∈ s.connections := AList.mem_insert _
      rw [hinsert]
      constructor
      · rintro ((rfl | hk) | ⟨n, a, b, hmem⟩)
        · exact .inr ⟨now, clientAddr, agentId, List.mem_cons_self⟩
        · exact .inl hk
        · exact .inr ⟨n, a, b, List.mem_cons_of_mem _ hmem⟩
      · rintro (hk | ⟨n, a, b, hmem⟩)
        · exact .inl (.inr hk)
        · cases hmem with
          | head => exact .inl (.inl rfl)
          | tail _ hmem => exact .inr ⟨n, a, b, hmem⟩
    | _ => simp [simpleRelay]

theorem allGood_hasRelay_iff (calls : List RelayCall) :
    AllGood simpleRelay HasRelay calls .new ↔ CreatedFirst calls := by
  constructor
  · intro h earlier sessionId data later hsplit
    have hmem := h earlier _ later hsplit
    obtain hempty | hcreated := (mem_final_simpleRelay earlier .new sessionId).mp hmem
    · exact absurd hempty (AList.notMem_empty _)
    · exact hcreated
  · intro h earlier c later hsplit
    cases c with
    | relayToAgent sessionId data =>
      exact (mem_final_simpleRelay earlier .new sessionId).mpr (.inr (h earlier _ _ later hsplit))
    | _ => trivial

/-- The two relay servers answer alike exactly if data is only relayed after the relay has been
    created. -/
theorem relays_agree_iff (calls : List RelayCall) :
    answers simpleRelay calls .new = answers relay calls .new ↔ CreatedFirst calls := by
  have hempty : SameRelays .new .new := by
    intro k
    constructor <;> intro hk <;> exact absurd hk (AList.notMem_empty k)
  have hagree := answers_eq_iff simpleRelay relay SameRelays HasRelay
    (fun _ _ _ h hgood => relay_agree h hgood) (fun _ _ _ h hbad => relay_differ h hbad) calls
    hempty
  exact hagree.trans (allGood_hasRelay_iff calls)

/-! ## The trackers -/

inductive TrackerCall where
  | trackAttempt (now : Int) (sessionId subdomain clientAddr agentId : String)
      (directAttempt : Bool)
  | markSuccess (now : Int) (sessionId : String) (latencyMs : UInt64) (direct : Bool)
  | markFailed (now : Int) (sessionId : String) (relayUsed : Bool)
  deriving DecidableEq

/-- A call and the counts of `get_stats` after it. -/
def simpleTracker (t : SimpleConnectionTracker) (c : TrackerCall) :
    TrackerCounts × SimpleConnectionTracker :=
  let t := match c with
    | .trackAttempt _ sessionId _ _ _ _ => t.trackAttempt sessionId
    | .markSuccess _ sessionId _ direct => t.markSuccess sessionId direct
    | .markFailed _ sessionId relayUsed => t.markFailed sessionId relayUsed
  (t.getStats, t)

/-- A call and the counts of `get_stats` after it. -/
def tracker (t : ConnectionTracker) (c : TrackerCall) : TrackerCounts × ConnectionTracker :=
  let t := match c with
    | .trackAttempt now sessionId subdomain clientAddr agentId directAttempt =>
      t.trackAttempt now sessionId subdomain clientAddr agentId directAttempt
    | .markSuccess now sessionId latencyMs direct => t.markSuccess now sessionId latencyMs direct
    | .markFailed now sessionId relayUsed => t.markFailed now sessionId relayUsed
  (t.getStats, t)

/-- The session that a call marks. -/
def TrackerCall.marked : TrackerCall → Option String
  | .markSuccess _ sessionId _ _ | .markFailed _ sessionId _ => some sessionId
  | .trackAttempt .. => none

/-- The session that a call tracks. -/
def TrackerCall.tracked : TrackerCall → Option String
  | .trackAttempt _ sessionId _ _ _ _ => some sessionId
  | _ => none

/-- A failure that went over a relay. -/
def TrackerCall.isRelayFailure : TrackerCall → Bool
  | .markFailed _ _ relayUsed => relayUsed
  | _ => false

/-- Each session is tracked before it is marked. -/
def TrackedFirst (calls : List TrackerCall) : Prop :=
  ∀ earlier c later sessionId, calls = earlier ++ c :: later → c.marked = some sessionId →
    ∃ d ∈ earlier, d.tracked = some sessionId

theorem TrackedFirst.of_append {earlier later : List TrackerCall}
    (h : TrackedFirst (earlier ++ later)) : TrackedFirst earlier := by
  intro before c after sessionId hsplit hmarked
  apply h before c (after ++ later) sessionId _ hmarked
  rw [hsplit, List.append_assoc]
  rfl

theorem mem_tracker (t : ConnectionTracker) (c : TrackerCall) (k : String) :
    k ∈ (tracker t c).2.stats ↔ k ∈ t.stats ∨ c.tracked = some k := by
  cases c with
  | trackAttempt now sessionId subdomain clientAddr agentId directAttempt =>
    show k ∈ t.stats.insert sessionId _ ↔ k ∈ t.stats ∨ some sessionId = some k
    rw [AList.mem_insert, or_comm, Option.some.injEq, eq_comm]
  | markSuccess now sessionId latencyMs direct =>
    cases hs : t.stats.lookup sessionId <;> cases direct <;>
      simp [tracker, ConnectionTracker.markSuccess, hs, TrackerCall.tracked]
  | markFailed now sessionId relayUsed =>
    cases hs : t.stats.lookup sessionId <;> cases relayUsed <;>
      simp [tracker, ConnectionTracker.markFailed, hs, TrackerCall.tracked]

theorem mem_final_tracker (calls : List TrackerCall) (t : ConnectionTracker) (k : String) :
    k ∈ (final tracker calls t).stats ↔ k ∈ t.stats ∨ ∃ d ∈ calls, d.tracked = some k := by
  induction calls generalizing t with
  | nil => simp [final]
  | cons c calls ih =>
    rw [final, ih, mem_tracker, or_assoc]
    simp only [List.mem_cons, exists_eq_or_imp]

/-- The counts of the relay module's tracker, with so many relays less. -/
def Ahead (n : Nat) (s : SimpleConnectionTracker) (t : ConnectionTracker) : Prop :=
  t.getStats = (s.totalAttempts, s.directSuccesses, s.relayUsed + n)

/-- Where the session that a call marks is tracked, only a failure over a relay parts the counts. -/
theorem Ahead.step {n : Nat} {s : SimpleConnectionTracker} {t : ConnectionTracker} (h : Ahead n s t)
    {c : TrackerCall} (hmarked : ∀ k, c.marked = some k → k ∈ t.stats) :
    Ahead (n + if c.isRelayFailure then 1 else 0) (simpleTracker s c).2 (tracker t c).2 := by
  obtain ⟨htotal, hdirect, hrelay⟩ : t.totalAttempts = s.totalAttempts ∧
      t.directSuccesses = s.directSuccesses ∧ t.relayUsed = s.relayUsed + n := by
    simpa [Ahead, ConnectionTracker.getStats] using h
  cases c with
  | trackAttempt now sessionId subdomain clientAddr agentId directAttempt =>
    simp [Ahead, tracker, simpleTracker, ConnectionTracker.trackAttempt,
      ConnectionTracker.getStats, SimpleConnectionTracker.trackAttempt,
      TrackerCall.isRelayFailure, htotal, hdirect, hrelay]
  | markSuccess now sessionId latencyMs direct =>
    obtain ⟨stat, hstat⟩ := Option.isSome_iff_exists.mp (AList.lookup_isSome.mpr (hmarked _ rfl))
    cases direct <;>
      simp [Ahead, tracker, simpleTracker, ConnectionTracker.markSuccess, hstat,
        ConnectionTracker.getStats, SimpleConnectionTracker.markSuccess,
        TrackerCall.isRelayFailure, htotal, hdirect, hrelay]
    omega
  | markFailed now sessionId relayUsed =>
    obtain ⟨stat, hstat⟩ := Option.isSome_iff_exists.mp (AList.lookup_isSome.mpr (hmarked _ rfl))
    cases relayUsed <;>
      simp [Ahead, tracker, simpleTracker, ConnectionTracker.markFailed, hstat,
        ConnectionTracker.getStats, SimpleConnectionTracker.markFailed,
        TrackerCall.isRelayFailure, htotal, hdirect, hrelay]
    omega

theorem ahead_final {calls : List TrackerCall} (h : TrackedFirst calls) :
    Ahead (calls.countP TrackerCall.isRelayFailure) (final simpleTracker calls .new)
      (final tracker calls .new) := by
  induction calls using List.reverseRecOn with
  | nil => rfl
  | append_singleton calls c ih =>
    rw [final_append, final_append, List.countP_append, List.countP_singleton]
    apply (ih h.of_append).step
    intro k hmarked
    exact (mem_final_tracker calls .new k).mpr (.inr (h calls c [] k rfl hmarked))

/-- The two trackers count alike exactly if no failure goes over a relay. -/
theorem trackers_agree_iff {calls : List TrackerCall} (h : TrackedFirst calls) :
    (final simpleTracker calls .new).getStats = (final tracker calls .new).getStats ↔
      ∀ c ∈ calls, ¬c.isRelayFailure := by
  have hahead := ahead_final h
  unfold Ahead at hahead
  rw [hahead, ← List.countP_eq_zero]
  simp only [SimpleConnectionTracker.getStats, Prod.mk.injEq, true_and]
  omega

/-- The stand-ins behave like the relay module's types exactly where data is only relayed after
    its relay has been created and no failure over a relay is marked. -/
theorem standIns_agree_iff (relayCalls : List RelayCall) (trackerCalls : List TrackerCall)
    (h : TrackedFirst trackerCalls) :
    (answers simpleRelay relayCalls .new = answers relay relayCalls .new ↔
      CreatedFirst relayCalls) ∧
    ((final simpleTracker trackerCalls .new).getStats = (final tracker trackerCalls .new).getStats ↔
      ∀ c ∈ trackerCalls, ¬c.isRelayFailure) :=
  ⟨relays_agree_iff relayCalls, trackers_agree_iff h⟩

/-- One session, which is relayed. -/
def relaying : List RelayCall :=
  [.createRelay 1000 "session" "10.0.0.7:4000" "agent", .relayToAgent "session" [104]]

/-- One session, which connects directly. -/
def succeeding : List TrackerCall :=
  [.trackAttempt 1000 "session" "app" "10.0.0.7:4000" "agent" true,
    .markSuccess 2000 "session" 5 true]

theorem standIns_agree_iff_succeeding :
    (answers simpleRelay relaying .new = answers relay relaying .new ↔ CreatedFirst relaying) ∧
    ((final simpleTracker succeeding .new).getStats = (final tracker succeeding .new).getStats ↔
      ∀ c ∈ succeeding, ¬c.isRelayFailure) := by
  apply standIns_agree_iff
  intro earlier c later sessionId hsplit hmarked
  cases earlier with
  | nil =>
    obtain ⟨rfl, -⟩ := List.cons.inj hsplit
    cases hmarked
  | cons first earlier =>
    obtain ⟨rfl, hrest⟩ := List.cons.inj hsplit
    refine ⟨_, .head _, ?_⟩
    cases earlier with
    | nil =>
      obtain ⟨rfl, -⟩ := List.cons.inj hrest
      exact hmarked
    | cons second earlier => simp at hrest

/-- Data for no relay, and a failure that went over a relay. -/
theorem standIns_drift :
    answers simpleRelay [.relayToAgent "session" [104, 105]] .new = [.relayed (.ok ())] ∧
    answers relay [.relayToAgent "session" [104, 105]] .new =
      [.relayed (.error (.badRequest "Relay connection not found"))] ∧
    (final simpleTracker [.trackAttempt 1000 "session" "app" "10.0.0.7:4000" "agent" true,
      .markFailed 2000 "session" true] .new).getStats = (1, 0, 0) ∧
    (final tracker [.trackAttempt 1000 "session" "app" "10.0.0.7:4000" "agent" true,
      .markFailed 2000 "session" true] .new).getStats = (1, 0, 1) :=
  ⟨rfl, rfl, rfl, rfl⟩

end Jrok.Relay
