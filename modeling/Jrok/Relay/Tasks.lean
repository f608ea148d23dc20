import Jrok.Concurrency.History
import Jrok.Relay.Accounting

/-!
# The relay module among many tasks

A `ConnectionTracker` and the `RelayServer` that shares it are used by many tasks at once. Each map
is behind a lock, and the counters are atomics of their own: a task adds to one of them, reads one
of them, or does what it does under one lock, and other tasks come in between.
-/

namespace Jrok.Relay.Tasks

open Concurrency

/-- The atomics of the tracker. -/
inductive Counter where
  | totalAttempts
  | directSuccesses
  | relayUsed
  deriving DecidableEq

def Counter.value (t : ConnectionTracker) : Counter → Nat
  | totalAttempts => t.totalAttempts
  | directSuccesses => t.directSuccesses
  | relayUsed => t.relayUsed

/-- One access to what the tasks share. -/
inductive RelayOp where
  | now
  | addAttempt
  | insertStats (stats : ConnectionStats)
  | markSuccess (sessionId : String) (latencyMs : UInt64) (direct : Bool)
  | markFailed (sessionId : String) (relayUsed : Bool)
  | load (counter : Counter)
  | retainStats (now maxAgeMs : Int)
  | createRelay (now : Int) (sessionId clientAddr agentId : String)
  | relayToAgent (sessionId : String) (data : List UInt8)
  | relayToClient (sessionId : String) (data : List UInt8)
  | removeRelay (sessionId : String)
  | activeCount
  | retainRelays (now maxAgeMs : Int)

/-- What it returns. The marks return the reading of the clock that they take under the lock. -/
def RelayOp.Res : RelayOp → Type
  | now | markSuccess .. | markFailed .. => Int
  | addAttempt | insertStats _ | retainStats .. | retainRelays .. => Unit
  | load _ | activeCount => Nat
  | createRelay .. => Except Error String
  | relayToAgent .. | relayToClient .. => Except Error Unit
  | removeRelay _ => Option RelayConnection

abbrev relaySig : Sig := ⟨RelayOp, RelayOp.Res⟩

abbrev RelayProg := Prog relaySig

/-- The response, where the clock reads `c`. -/
def respond (c : Int) (m : RelayModule) : (o : RelayOp) → o.Res
  | .now | .markSuccess .. | .markFailed .. => c
  | .addAttempt | .insertStats _ | .retainStats .. | .retainRelays .. => ()
  | .load counter => counter.value m.tracker
  | .activeCount => m.relay.activeCount
  | .createRelay now sessionId clientAddr agentId =>
    (m.relay.createRelay now sessionId clientAddr agentId).1
  | .relayToAgent sessionId data => (m.relay.relayToAgent sessionId data).1
  | .relayToClient sessionId data => (m.relay.relayToClient sessionId data).1
  | .removeRelay sessionId => m.relay.connections.lookup sessionId

/-- What the access does to the module. -/
def record : Event relaySig → RelayModule → RelayModule
  | ⟨.addAttempt, _⟩, m =>
    { m with tracker := { m.tracker with totalAttempts := m.tracker.totalAttempts + 1 } }
  | ⟨.insertStats stats, _⟩, m =>
    { m with tracker := { m.tracker with stats := m.tracker.stats.insert stats.sessionId stats } }
  | ⟨.markSuccess sessionId latencyMs direct, now⟩, m =>
    { m with tracker := m.tracker.markSuccess now sessionId latencyMs direct }
  | ⟨.markFailed sessionId relayUsed, now⟩, m =>
    { m with tracker := m.tracker.markFailed now sessionId relayUsed }
  | ⟨.retainStats now maxAgeMs, _⟩, m =>
    { m with tracker := m.tracker.cleanupOld now maxAgeMs }
  | ⟨.createRelay now sessionId clientAddr agentId, _⟩, m =>
    { m with relay := (m.relay.createRelay now sessionId clientAddr agentId).2 }
  | ⟨.relayToAgent sessionId data, _⟩, m =>
    { m with relay := (m.relay.relayToAgent sessionId data).2 }
  | ⟨.relayToClient sessionId data, _⟩, m =>
    { m with relay := (m.relay.relayToClient sessionId data).2 }
  | ⟨.removeRelay sessionId, _⟩, m =>
    { m with relay := { m.relay with connections := m.relay.connections.erase sessionId } }
  | ⟨.retainRelays now maxAgeMs, _⟩, m => { m with relay := m.relay.cleanupOld now maxAgeMs }
  | ⟨.now, _⟩, m | ⟨.load _, _⟩, m | ⟨.activeCount, _⟩, m => m

/-- The environment chooses the readings of the clock. -/
def handler : Handler relaySig RelayModule Int := fun c o m =>
  some (respond c m o, record ⟨o, respond c m o⟩ m)

abbrev perform (o : RelayOp) : RelayProg o.Res := @Prog.perform relaySig o

/-! ## The methods -/

def trackAttempt (sessionId subdomain clientAddr agentId : String) (directAttempt : Bool) :
    RelayProg Unit := do
  let now ← perform .now
  perform .addAttempt
  perform (.insertStats
    { sessionId := sessionId
      subdomain := subdomain
      clientAddr := clientAddr
      agentId := agentId
      directAttempt := directAttempt
      directSuccess := false
      relayUsed := false
      latencyMs := 0
      createdAt := now
      completedAt := none })

def markSuccess (sessionId : String) (latencyMs : UInt64) (direct : Bool) : RelayProg Unit := do
  let _ ← perform (.markSuccess sessionId latencyMs direct)

def markFailed (sessionId : String) (relayUsed : Bool) : RelayProg Unit := do
  let _ ← perform (.markFailed sessionId relayUsed)

/-- `get_stats`, without the rate. -/
def getStats : RelayProg TrackerCounts := do
  let total ← perform (.load .totalAttempts)
  let directSuccesses ← perform (.load .directSuccesses)
  let relayUsed ← perform (.load .relayUsed)
  return (total, directSuccesses, relayUsed)

/-- `ConnectionTracker::cleanup_old`. -/
def cleanupStats (maxAgeMs : Int) : RelayProg Unit := do
  let now ← perform .now
  perform (.retainStats now maxAgeMs)

def createRelay (sessionId clientAddr agentId : String) : RelayProg (Except Error String) := do
  let now ← perform .now
  perform (.createRelay now sessionId clientAddr agentId)

/-- `close_relay`. The lock on the connections is gone when the tracker's is taken. -/
def closeRelay (sessionId : String) : RelayProg Unit := do
  match ← perform (.removeRelay sessionId) with
  | some _ => markFailed sessionId true
  | none => return ()

/-- `RelayServer::cleanup_old`. -/
def cleanupRelays (maxAgeMs : Int) : RelayProg Unit := do
  let now ← perform .now
  perform (.retainRelays now maxAgeMs)

inductive Request where
  | trackAttempt (sessionId subdomain clientAddr agentId : String) (directAttempt : Bool)
  | markSuccess (sessionId : String) (latencyMs : UInt64) (direct : Bool)
  | markFailed (sessionId : String) (relayUsed : Bool)
  | getStats
  | cleanupStats (maxAgeMs : Int)
  | createRelay (sessionId clientAddr agentId : String)
  | relayToAgent (sessionId : String) (data : List UInt8)
  | relayToClient (sessionId : String) (data : List UInt8)
  | closeRelay (sessionId : String)
  | activeCount
  | cleanupRelays (maxAgeMs : Int)
  deriving DecidableEq

inductive Reply where
  | done
  | stats (counts : TrackerCounts)
  | endpoint (r : Except Error String)
  | relayed (r : Except Error Unit)
  | count (n : Nat)
  deriving DecidableEq

def Request.run : Request → RelayProg Reply
  | trackAttempt sessionId subdomain clientAddr agentId directAttempt => do
    Tasks.trackAttempt sessionId subdomain clientAddr agentId directAttempt
    return .done
  | markSuccess sessionId latencyMs direct => do
    Tasks.markSuccess sessionId latencyMs direct
    return .done
  | markFailed sessionId relayUsed => do
    Tasks.markFailed sessionId relayUsed
    return .done
  | getStats => do return .stats (← Tasks.getStats)
  | cleanupStats maxAgeMs => do
    Tasks.cleanupStats maxAgeMs
    return .done
  | createRelay sessionId clientAddr agentId => do
    return .endpoint (← Tasks.createRelay sessionId clientAddr agentId)
  | relayToAgent sessionId data => do return .relayed (← perform (.relayToAgent sessionId data))
  | relayToClient sessionId data => do return .relayed (← perform (.relayToClient sessionId data))
  | closeRelay sessionId => do
    Tasks.closeRelay sessionId
    return .done
  | activeCount => do return .count (← perform .activeCount)
  | cleanupRelays maxAgeMs => do
    Tasks.cleanupRelays maxAgeMs
    return .done

/-! ## The entries of the tracker -/

variable {τ : Type}

/-- The module after the events of a log. -/
abbrev after (log : Log relaySig τ) : RelayModule := Log.after record .new log

/-- The event ends the entry that an attempt has made. -/
def Forgets (attempt : ConnectionStats) : Event relaySig → Prop
  | ⟨.insertStats stats, _⟩ => stats.sessionId = attempt.sessionId
  | ⟨.retainStats now maxAgeMs, _⟩ => attempt.createdAt ≤ subI64 now maxAgeMs
  | _ => False

/-- The latest attempt of its session, which nothing has ended since. -/
def TrackedSince (log : Log relaySig τ) (attempt : ConnectionStats) (since : Log relaySig τ) :
    Prop :=
  ∃ t r older, log = since ++ (t, ⟨.insertStats attempt, r⟩) :: older ∧
    ∀ e ∈ since, ¬ Forgets attempt e.2

def Tracked (log : Log relaySig τ) (sessionId : String) : Prop :=
  ∃ attempt since, attempt.sessionId = sessionId ∧ TrackedSince log attempt since

/-- What a mark writes to the entry of its session. -/
def mark (sessionId : String) : Event relaySig → ConnectionStats → ConnectionStats
  | ⟨.markSuccess sessionId' latencyMs _, now⟩, stat =>
    if sessionId' = sessionId then
      { stat with directSuccess := true, latencyMs := latencyMs, completedAt := some now }
    else stat
  | ⟨.markFailed sessionId' relayUsed, now⟩, stat =>
    if sessionId' = sessionId then
      { stat with completedAt := some now, relayUsed := stat.relayUsed || relayUsed }
    else stat
  | _, stat => stat

/-- What an event does to the entry of a session. -/
def onStats (sessionId : String) (e : Event relaySig) (entry : Option ConnectionStats) :
    Option ConnectionStats :=
  match e with
  | ⟨.insertStats stats, _⟩ => if sessionId = stats.sessionId then some stats else entry
  | ⟨.retainStats now maxAgeMs, _⟩ =>
    entry.filter fun stat => subI64 now maxAgeMs < stat.createdAt
  | e => entry.map (mark sessionId e)

/-- Writing to the entry of one session, where that is a mark. -/
theorem lookup_marked {stats : StringMap ConnectionStats} {sessionId sessionId' : String}
    {e : Event relaySig} {g : ConnectionStats → ConnectionStats}
    (hown : sessionId' = sessionId → mark sessionId e = g)
    (hother : sessionId' ≠ sessionId → ∀ stat, mark sessionId e stat = stat) :
    (match stats.lookup sessionId' with
      | none => stats
      | some stat => stats.replace sessionId' (g stat)).lookup sessionId =
      (stats.lookup sessionId).map (mark sessionId e) := by
  by_cases hsession : sessionId' = sessionId
  · rw [hown hsession]
    subst hsession
    cases hstat : stats.lookup sessionId' with
    | none => exact hstat
    | some stat => simp [AList.lookup_replace_some hstat, hstat]
  · rw [funext (hother hsession)]
    cases hstat : stats.lookup sessionId' with
    | none => exact Option.map_id'.symm
    | some stat => simp [AList.lookup_replace_some hstat, Ne.symm hsession]

/-- The entry of a session under the marks of one. -/
theorem lookup_markSuccess (t : ConnectionTracker) (now : Int) (sessionId' : String)
    (latencyMs : UInt64) (direct : Bool) (sessionId : String) :
    (t.markSuccess now sessionId' latencyMs direct).stats.lookup sessionId =
      (t.stats.lookup sessionId).map
        (mark sessionId ⟨.markSuccess sessionId' latencyMs direct, now⟩) := by
  let g : ConnectionStats → ConnectionStats := fun stat =>
    { stat with directSuccess := true, latencyMs := latencyMs, completedAt := some now }
  have hstats : (t.markSuccess now sessionId' latencyMs direct).stats =
      match t.stats.lookup sessionId' with
      | none => t.stats
      | some stat => t.stats.replace sessionId' (g stat) := by
    unfold ConnectionTracker.markSuccess
    cases t.stats.lookup sessionId' <;> cases direct <;> rfl
  rw [hstats]
  exact lookup_marked (fun h => funext fun stat => if_pos h) (fun h stat => if_neg h)

theorem lookup_markFailed (t : ConnectionTracker) (now : Int) (sessionId' : String)
    (relayUsed : Bool) (sessionId : String) :
    (t.markFailed now sessionId' relayUsed).stats.lookup sessionId =
      (t.stats.lookup sessionId).map (mark sessionId ⟨.markFailed sessionId' relayUsed, now⟩) := by
  let g : ConnectionStats → ConnectionStats := fun stat =>
    { stat with completedAt := some now, relayUsed := stat.relayUsed || relayUsed }
  have hstats : (t.markFailed now sessionId' relayUsed).stats =
      match t.stats.lookup sessionId' with
      | none => t.stats
      | some stat => t.stats.replace sessionId' (g stat) := by
    unfold ConnectionTracker.markFailed
    cases t.stats.lookup sessionId' with
    | none => rfl
    | some stat => cases relayUsed <;> simp [g]
  rw [hstats]
  exact lookup_marked (fun h => funext fun stat => if_pos h) (fun h stat => if_neg h)

theorem lookup_record (m : RelayModule) (e : Event relaySig) (sessionId : String) :
    (record e m).tracker.stats.lookup sessionId =
      onStats sessionId e (m.tracker.stats.lookup sessionId) := by
  obtain ⟨o, r⟩ := e
  cases o with
  | insertStats stats =>
    show (m.tracker.stats.insert _ _).lookup sessionId = if _ then _ else _
    by_cases hsession : sessionId = stats.sessionId
    · rw [if_pos hsession, hsession]
      exact AList.lookup_insert _
    · rw [if_neg hsession]
      exact AList.lookup_insert_ne hsession
  | markSuccess sessionId' latencyMs direct => exact lookup_markSuccess ..
  | markFailed sessionId' relayUsed => exact lookup_markFailed ..
  | retainStats now maxAgeMs => exact AList.lookup_retain
  | _ => exact Option.map_id'.symm

theorem trackedSince_cons_iff {log : Log relaySig τ} {t : τ} {e : Event relaySig}
    {attempt : ConnectionStats} {since : Log relaySig τ} :
    TrackedSince ((t, e) :: log) attempt since ↔
      (since = [] ∧ ∃ r, e = ⟨.insertStats attempt, r⟩) ∨
      ∃ since', since = (t, e) :: since' ∧ TrackedSince log attempt since' ∧
        ¬ Forgets attempt e := by
  constructor
  · rintro ⟨u, r, older, hsplit, hkept⟩
    cases since with
    | nil =>
      obtain ⟨heq, -⟩ := List.cons.inj hsplit
      exact .inl ⟨rfl, r, (Prod.mk.inj heq).2⟩
    | cons e' since' =>
      obtain ⟨rfl, hrest⟩ := List.cons.inj hsplit
      obtain ⟨he, hsince⟩ := List.forall_mem_cons.mp hkept
      exact .inr ⟨since', rfl, ⟨u, r, older, hrest, hsince⟩, he⟩
  · rintro (⟨rfl, r, rfl⟩ | ⟨since', rfl, ⟨u, r, older, rfl, hsince⟩, he⟩)
    · exact ⟨t, r, log, rfl, by simp⟩
    · exact ⟨u, r, older, rfl, List.forall_mem_cons.mpr ⟨he, hsince⟩⟩

/-- The marks change neither the session nor the time of an entry. -/
theorem marks_keep (sessionId : String) (attempt : ConnectionStats) (since : Log relaySig τ) :
    (Log.after (mark sessionId) attempt since).sessionId = attempt.sessionId ∧
      (Log.after (mark sessionId) attempt since).createdAt = attempt.createdAt := by
  induction since with
  | nil => exact ⟨rfl, rfl⟩
  | cons e since ih =>
    obtain ⟨t, o, r⟩ := e
    rw [Log.after_cons]
    cases o with
    | markSuccess | markFailed =>
      unfold mark
      dsimp only
      split
      · exact ih
      · exact ih
    | _ => exact ih

theorem forgets_congr {stat attempt : ConnectionStats} {e : Event relaySig}
    (hid : stat.sessionId = attempt.sessionId) (htime : stat.createdAt = attempt.createdAt) :
    Forgets stat e ↔ Forgets attempt e := by
  unfold Forgets
  rw [hid, htime]

/-- What is left of an entry after an event that does not track its session. -/
theorem onStats_eq_some_iff {sessionId : String} {e : Event relaySig}
    {entry : Option ConnectionStats} {stat' : ConnectionStats}
    (hid : ∀ stat, entry = some stat → stat.sessionId = sessionId)
    (hother : ∀ stats r, e = ⟨.insertStats stats, r⟩ → stats.sessionId ≠ sessionId) :
    onStats sessionId e entry = some stat' ↔
      ∃ stat, entry = some stat ∧ ¬ Forgets stat e ∧ stat' = mark sessionId e stat := by
  obtain ⟨o, r⟩ := e
  cases entry with
  | none =>
    cases o with
    | insertStats stats => simp [onStats, Ne.symm (hother stats r rfl)]
    | _ => simp [onStats]
  | some stat =>
    have hstat := hid stat rfl
    cases o with
    | insertStats stats =>
      have hne := hother stats r rfl
      simp [onStats, Forgets, mark, hstat, hne, Ne.symm hne, eq_comm]
    | retainStats now maxAgeMs => simp [onStats, Forgets, mark, Option.filter, eq_comm]
    | _ => simp [onStats, Forgets, eq_comm]

/-- The entry of a session is its latest attempt, with the marks since then. -/
theorem lookup_after (log : Log relaySig τ) (sessionId : String) (stat : ConnectionStats) :
    (after log).tracker.stats.lookup sessionId = some stat ↔
      ∃ attempt since, attempt.sessionId = sessionId ∧ TrackedSince log attempt since ∧
        stat = Log.after (mark sessionId) attempt since := by
  induction log generalizing stat with
  | nil =>
    refine iff_of_false (by simp [after, RelayModule.new, ConnectionTracker.new]) ?_
    rintro ⟨attempt, since, -, ⟨t, r, older, hsplit, -⟩, -⟩
    simp at hsplit
  | cons e log ih =>
    obtain ⟨t, e⟩ := e
    show (record e (after log)).tracker.stats.lookup sessionId = some stat ↔ _
    rw [lookup_record]
    by_cases htracks : ∃ stats r, e = ⟨.insertStats stats, r⟩ ∧ stats.sessionId = sessionId
    · obtain ⟨stats, r, rfl, rfl⟩ := htracks
      rw [onStats, if_pos rfl]
      constructor
      · intro heq
        obtain rfl := Option.some.inj heq
        exact ⟨stats, [], rfl, trackedSince_cons_iff.mpr (.inl ⟨rfl, r, rfl⟩), rfl⟩
      · rintro ⟨attempt, since, hid, htracked, rfl⟩
        rcases trackedSince_cons_iff.mp htracked with ⟨rfl, r', he⟩ | ⟨since', -, -, hkept⟩
        · cases he
          rfl
        · exact absurd hid.symm hkept
    · have hother : ∀ stats r, e = ⟨.insertStats stats, r⟩ → stats.sessionId ≠ sessionId :=
        fun stats r he hid => htracks ⟨stats, r, he, hid⟩
      have hid : ∀ stat, (after log).tracker.stats.lookup sessionId = some stat →
          stat.sessionId = sessionId := by
        intro stat hstat
        obtain ⟨attempt, since, hid, -, rfl⟩ := (ih stat).mp hstat
        exact (marks_keep sessionId attempt since).1.trans hid
      rw [onStats_eq_some_iff hid hother]
      constructor
      · rintro ⟨old, hold, hkept, rfl⟩
        obtain ⟨attempt, since, hattempt, htracked, rfl⟩ := (ih old).mp hold
        obtain ⟨hsame, htime⟩ := marks_keep sessionId attempt since
        exact ⟨attempt, (t, e) :: since, hattempt, trackedSince_cons_iff.mpr
          (.inr ⟨since, rfl, htracked, mt (forgets_congr hsame htime).mpr hkept⟩), rfl⟩
      · rintro ⟨attempt, since, hattempt, htracked, rfl⟩
        rcases trackedSince_cons_iff.mp htracked with ⟨rfl, r, he⟩ | ⟨since, rfl, hold, hkept⟩
        · exact absurd hattempt (hother attempt r he)
        · obtain ⟨hsame, htime⟩ := marks_keep sessionId attempt since
          exact ⟨_, (ih _).mpr ⟨attempt, since, hattempt, hold, rfl⟩,
            mt (forgets_congr hsame htime).mp hkept, rfl⟩

theorem tracked_iff (log : Log relaySig τ) (sessionId : String) :
    Tracked log sessionId ↔ ((after log).tracker.stats.lookup sessionId).isSome := by
  rw [Option.isSome_iff_exists]
  constructor
  · rintro ⟨attempt, since, hid, htracked⟩
    exact ⟨_, (lookup_after log sessionId _).mpr ⟨attempt, since, hid, htracked, rfl⟩⟩
  · rintro ⟨stat, hstat⟩
    obtain ⟨attempt, since, hid, htracked, -⟩ := (lookup_after log sessionId stat).mp hstat
    exact ⟨attempt, since, hid, htracked⟩

/-! ## The counters -/

/-- The event adds to the counter: the mark of a session counts if the session is tracked. -/
def Raises (older : Log relaySig τ) : Counter → Event relaySig → Prop
  | .totalAttempts, ⟨.addAttempt, _⟩ => True
  | .directSuccesses, ⟨.markSuccess sessionId _ true, _⟩ => Tracked older sessionId
  | .relayUsed, ⟨.markSuccess sessionId _ false, _⟩ => Tracked older sessionId
  | .relayUsed, ⟨.markFailed sessionId true, _⟩ => Tracked older sessionId
  | _, _ => False

/-- The count that the events of a log give. -/
noncomputable def countOf (counter : Counter) (log : Log relaySig τ) : Nat :=
  tally (fun e older => Raises older counter e.2) log

open Classical in
theorem value_record (log : Log relaySig τ) (e : Event relaySig) (counter : Counter) :
    counter.value (record e (after log)).tracker =
      counter.value (after log).tracker + if Raises log counter e then 1 else 0 := by
  obtain ⟨o, r⟩ := e
  cases o with
  | markSuccess sessionId latencyMs direct =>
    have htracked := tracked_iff log sessionId
    cases hstat : (after log).tracker.stats.lookup sessionId <;> rw [hstat] at htracked <;>
      cases counter <;> cases direct <;>
        simp [record, ConnectionTracker.markSuccess, hstat, Raises, htracked, Counter.value]
  | markFailed sessionId relayUsed =>
    have htracked := tracked_iff log sessionId
    cases hstat : (after log).tracker.stats.lookup sessionId <;> rw [hstat] at htracked <;>
      cases counter <;> cases relayUsed <;>
        simp [record, ConnectionTracker.markFailed, hstat, Raises, htracked, Counter.value]
  | _ => cases counter <;> simp [record, Raises, Counter.value, ConnectionTracker.cleanupOld]

theorem value_after (counter : Counter) (log : Log relaySig τ) :
    counter.value (after log).tracker = countOf counter log := by
  induction log with
  | nil => cases counter <;> rfl
  | cons e log ih =>
    obtain ⟨t, e⟩ := e
    show counter.value (record e (after log)).tracker = _
    rw [value_record, ih]
    rfl

/-! ## The relays -/

/-- A session without a relay has none until one is created for it. -/
theorem lookup_record_relay {m : RelayModule} {e : Event relaySig} {sessionId : String}
    (hnone : m.relay.connections.lookup sessionId = none)
    (hcreate : ∀ now clientAddr agentId r,
      e ≠ ⟨.createRelay now sessionId clientAddr agentId, r⟩) :
    (record e m).relay.connections.lookup sessionId = none := by
  obtain ⟨o, r⟩ := e
  cases o with
  | createRelay now sessionId' clientAddr agentId =>
    have hsession : sessionId ≠ sessionId' := by
      rintro rfl
      exact hcreate now clientAddr agentId r rfl
    exact (AList.lookup_insert_ne hsession).trans hnone
  | relayToAgent sessionId' data =>
    refine (RelayModule.lookup_relayToAgent m.relay sessionId' data sessionId).trans ?_
    simp [hnone]
  | relayToClient sessionId' data =>
    refine (RelayModule.lookup_relayToAgent m.relay sessionId' data sessionId).trans ?_
    simp [hnone]
  | removeRelay sessionId' =>
    show (m.relay.connections.erase sessionId').lookup sessionId = none
    by_cases hsession : sessionId = sessionId'
    · rw [hsession]
      exact AList.lookup_erase _ _
    · rw [AList.lookup_erase_ne hsession]
      exact hnone
  | retainRelays now maxAgeMs =>
    refine AList.lookup_retain.trans ?_
    rw [hnone]
    rfl
  | _ => exact hnone

/-- An access responds to what the accesses before it have made of the module. -/
def Responds (m : RelayModule) (e : Event relaySig) : Prop := ∃ c, e.2 = respond c m e.1

theorem recorded : Recorded (fun _ : τ => handler) id record Responds where
  step t c o m r m' h := by
    obtain ⟨rfl, rfl⟩ := Prod.mk.inj (Option.some.inj h)
    exact ⟨rfl, c, rfl⟩

/-- A relay that is taken out twice has been created in between. -/
theorem created_between {newer between older : Log relaySig τ} {t u : τ} {sessionId : String}
    {conn conn' : RelayConnection}
    (h : Causal (fun e older => Responds (after older) e.2)
      (newer ++ (t, ⟨.removeRelay sessionId, some conn⟩) ::
        (between ++ (u, ⟨.removeRelay sessionId, some conn'⟩) :: older))) :
    ∃ v now clientAddr agentId r,
      (v, ⟨.createRelay now sessionId clientAddr agentId, r⟩) ∈ between := by
  by_contra hnone
  have hlast : (after (between ++ (u, (⟨.removeRelay sessionId, some conn'⟩ : Event relaySig)) ::
      older)).relay.connections.lookup sessionId = none := by
    let noRelay : RelayModule → Prop := fun m => m.relay.connections.lookup sessionId = none
    refine Log.after_append (I := noRelay) (AList.lookup_erase _ _)
      fun e he m hm => lookup_record_relay hm ?_
    rintro now clientAddr agentId r heq
    exact hnone ⟨e.1, now, clientAddr, agentId, r, heq ▸ he⟩
  obtain ⟨c, hr⟩ := h.at_split
  cases hlast.symm.trans hr.symm

/-! ## The tasks -/

theorem run_trackAttempt (sessionId subdomain clientAddr agentId : String) (directAttempt : Bool) :
    (Request.trackAttempt sessionId subdomain clientAddr agentId directAttempt).run =
      .op .now fun now => .op .addAttempt fun _ => .op (.insertStats ⟨sessionId, subdomain,
        clientAddr, agentId, directAttempt, false, false, 0, now, none⟩) fun _ => .ret .done := rfl

theorem run_getStats : Request.getStats.run =
    .op (.load .totalAttempts) fun total => .op (.load .directSuccesses) fun direct =>
      .op (.load .relayUsed) fun relay => .ret (.stats (total, direct, relay)) := rfl

theorem run_closeRelay (sessionId : String) : (Request.closeRelay sessionId).run =
    .op (.removeRelay sessionId) fun conn =>
      if conn.isSome then .op (.markFailed sessionId true) fun _ => .ret .done else .ret .done :=
  congrArg (Prog.op (S := relaySig) (.removeRelay sessionId)) (funext fun conn => by
    cases conn <;> rfl)

/-- What an access of a task tells of its request, where these are the accesses before it. -/
def Belongs (request : Request) (es : List (Event relaySig)) : RelayOp → Prop
  | .insertStats stats => ∃ sessionId subdomain clientAddr agentId directAttempt createdAt,
    request = .trackAttempt sessionId subdomain clientAddr agentId directAttempt ∧
    ⟨.now, createdAt⟩ ∈ es ∧ stats = ⟨sessionId, subdomain, clientAddr, agentId, directAttempt,
      false, false, 0, createdAt, none⟩
  | .markFailed sessionId relayUsed => request = .markFailed sessionId relayUsed ∨
    (request = .closeRelay sessionId ∧ ∃ conn, ⟨.removeRelay sessionId, some conn⟩ ∈ es)
  | _ => True

theorem belongs_of_path {request : Request} {es : List (Event relaySig)} {e : Event relaySig}
    {q : RelayProg Reply} (h : request.run.Path (es ++ [e]) q) : Belongs request es e.1 := by
  have hissues : request.run.Issues (Belongs request es) → Belongs request es e.1 :=
    fun hrun => (h.issues hrun).1 e (by simp)
  cases request with
  | trackAttempt sessionId subdomain clientAddr agentId directAttempt =>
    rw [run_trackAttempt] at h
    simp only [Prog.path_op_snoc_iff, Prog.not_path_ret_snoc] at h
    rcases h with ⟨-, _, rfl, -⟩ | ⟨now, _, rfl, ⟨-, _, rfl, -⟩ |
      ⟨r, _, rfl, ⟨-, _, rfl, -⟩ | ⟨_, _, _, hend⟩⟩⟩
    · trivial
    · trivial
    · exact ⟨_, _, _, _, _, now, rfl, by simp, rfl⟩
    · exact hend.elim
  | closeRelay sessionId =>
    rw [run_closeRelay, Prog.path_op_snoc_iff] at h
    rcases h with ⟨-, _, rfl, -⟩ | ⟨conn, rest, rfl, hmark⟩
    · trivial
    · cases conn with
      | none => exact absurd hmark Prog.not_path_ret_snoc
      | some conn =>
        rcases Prog.path_op_snoc_iff.mp hmark with ⟨-, _, rfl, -⟩ | ⟨_, _, -, hend⟩
        · exact .inr ⟨rfl, conn, List.mem_cons_self ..⟩
        · exact absurd hend Prog.not_path_ret_snoc
  | markFailed sessionId relayUsed => exact hissues ⟨.inl rfl, fun _ => trivial⟩
  | getStats => exact hissues ⟨trivial, fun _ => ⟨trivial, fun _ => ⟨trivial, fun _ => trivial⟩⟩⟩
  | cleanupStats | createRelay | cleanupRelays =>
    exact hissues ⟨trivial, fun _ => ⟨trivial, fun _ => trivial⟩⟩
  | markSuccess | relayToAgent | relayToClient | activeCount =>
    exact hissues ⟨trivial, fun _ => trivial⟩

/-- A counter in what `get_stats` returns. -/
def Counter.told (counts : TrackerCounts) : Counter → Nat
  | totalAttempts => counts.1
  | directSuccesses => counts.2.1
  | relayUsed => counts.2.2

/-- `get_stats` has loaded what it returns. -/
theorem mem_of_getStats {es : List (Event relaySig)} {counts : TrackerCounts}
    (h : Request.getStats.run.Path es (.ret (.stats counts))) (counter : Counter) :
    (⟨.load counter, counter.told counts⟩ : Event relaySig) ∈ es := by
  rw [run_getStats] at h
  obtain ⟨total, _, rfl, hdirect⟩ := Prog.path_op_ret_iff.mp h
  obtain ⟨direct, _, rfl, hrelay⟩ := Prog.path_op_ret_iff.mp hdirect
  obtain ⟨relay, _, rfl, hlast⟩ := Prog.path_op_ret_iff.mp hrelay
  obtain ⟨rfl, hret⟩ := Prog.path_ret_iff.mp hlast
  obtain rfl := Reply.stats.inj (Prog.ret.inj hret)
  cases counter <;> simp [Counter.told]

/-- A load returns the count of the events before it. -/
theorem told_eq {newer older : Log relaySig τ} {t : τ} {counter : Counter} {n : Nat}
    (h : Causal (fun e older => Responds (after older) e.2)
      (newer ++ (t, ⟨.load counter, n⟩) :: older)) : n = countOf counter older := by
  obtain ⟨c, hn⟩ := h.at_split
  exact (show n = _ from hn).trans (value_after counter older)

/-- A later load returns no less. -/
theorem told_le {newer older : Log relaySig τ} {t u : τ} {counter : Counter} {n n' : Nat}
    (h : Causal (fun e older => Responds (after older) e.2) (newer ++ older))
    (hold : (t, ⟨.load counter, n⟩) ∈ older) (hnew : (u, ⟨.load counter, n'⟩) ∈ newer) :
    n ≤ n' := by
  obtain ⟨before, rest, rfl⟩ := List.append_of_mem hold
  obtain ⟨last, middle, rfl⟩ := List.append_of_mem hnew
  have hn : n = countOf counter rest := told_eq h.of_append
  rw [List.append_assoc, List.cons_append] at h
  have hn' : n' = countOf counter (middle ++ (before ++ (t, ⟨.load counter, n⟩) :: rest)) :=
    told_eq h
  rw [hn, hn']
  calc countOf counter rest
    _ ≤ countOf counter ((t, ⟨.load counter, n⟩) :: rest) := Nat.le_add_right _ _
    _ ≤ countOf counter (before ++ (t, ⟨.load counter, n⟩) :: rest) := tally_le_append
    _ ≤ countOf counter (middle ++ (before ++ (t, ⟨.load counter, n⟩) :: rest)) := tally_le_append

/-- The request of a call, which reads the clock itself. -/
def request : RelayModule.Call → Request
  | .trackAttempt _ sessionId subdomain clientAddr agentId directAttempt =>
    .trackAttempt sessionId subdomain clientAddr agentId directAttempt
  | .markSuccess _ sessionId latencyMs direct => .markSuccess sessionId latencyMs direct
  | .markFailed _ sessionId relayUsed => .markFailed sessionId relayUsed
  | .createRelay _ sessionId clientAddr agentId => .createRelay sessionId clientAddr agentId
  | .relayToAgent sessionId data => .relayToAgent sessionId data
  | .relayToClient sessionId data => .relayToClient sessionId data
  | .closeRelay _ sessionId => .closeRelay sessionId
  | .activeCount => .activeCount
  | .cleanupOld _ maxAgeMs => .cleanupRelays maxAgeMs

/-- A task that is not interrupted does what its call does to the module. -/
theorem play_request (m : RelayModule) (c : RelayModule.Call) :
    ∃ readings reply, (request c).run.play handler readings m = some (reply, (m.step c).2) := by
  cases c with
  | trackAttempt now => exact ⟨[now, now, now], .done, rfl⟩
  | markSuccess now | markFailed now => exact ⟨[now], .done, rfl⟩
  | createRelay now => exact ⟨[now, now], _, rfl⟩
  | relayToAgent | relayToClient | activeCount => exact ⟨[0], _, rfl⟩
  | cleanupOld now => exact ⟨[now, now], .done, rfl⟩
  | closeRelay now sessionId =>
    rw [request, run_closeRelay]
    cases hconn : m.relay.connections.lookup sessionId with
    | none =>
      refine ⟨[now], .done, ?_⟩
      simp [Prog.play, handler, respond, record, RelayModule.step, RelayServer.closeRelay, hconn]
    | some conn =>
      refine ⟨[now, now], .done, ?_⟩
      simp [Prog.play, handler, respond, record, RelayModule.step, RelayServer.closeRelay, hconn]

/-! ## Any number of tasks -/

variable [DecidableEq τ]

/-- What the module holds, in terms of what the tasks have done. -/
structure StatisticsKept (requests : τ → Request) (m : RelayModule) (log : Log relaySig τ) :
    Prop where
  entries : ∀ sessionId stat, m.tracker.stats.lookup sessionId = some stat ↔
    ∃ attempt since, attempt.sessionId = sessionId ∧ TrackedSince log attempt since ∧
      stat = Log.after (mark sessionId) attempt since
  counters : ∀ counter, counter.value m.tracker = countOf counter log
  belongs : ∀ newer older t e, log = newer ++ (t, e) :: older →
    Belongs (requests t) (Log.own t older) e.1
  created : ∀ newer between older t u sessionId conn conn',
    log = newer ++ (t, ⟨.removeRelay sessionId, some conn⟩) ::
      (between ++ (u, ⟨.removeRelay sessionId, some conn'⟩) :: older) →
    ∃ v now clientAddr agentId r,
      (v, ⟨.createRelay now sessionId clientAddr agentId, r⟩) ∈ between

/-- A call of `get_stats` that begins after another has ended returns no smaller number. -/
def NeverBackwards (requests : τ → Request)
    (c : Config relaySig τ (Option Reply) (RelayModule × Log relaySig τ)) : Prop :=
  ∀ t u counts counts' newer older, requests t = .getStats → requests u = .getStats →
    c.answer t = some (.stats counts) → c.answer u = some (.stats counts') →
    c.shared.2 = newer ++ older → Log.own t newer = [] → Log.own u older = [] →
    ∀ counter : Counter, counter.told counts ≤ counter.told counts'

theorem statistics_kept {requests : τ → Request}
    {c₀ c : Config relaySig τ (Option Reply) (RelayModule × Log relaySig τ)}
    (hidle : ∀ t, c₀.task t = .idle none) (hstart : c₀.shared = (.new, []))
    (hr : (System.oneShot (fun _ => handler) fun t => (requests t).run).logged.Reachable c₀ c) :
    StatisticsKept requests c.shared.1 c.shared.2 ∧
    (∀ t counts, requests t = .getStats → c.answer t = some (.stats counts) →
      ∀ counter : Counter, ∃ newer older,
        c.shared.2 = newer ++ (t, ⟨.load counter, counter.told counts⟩) :: older ∧
        counter.told counts = countOf counter older) ∧
    NeverBackwards requests c := by
  have htraced := System.Reachable.traced hr hidle (by rw [hstart])
  obtain ⟨hrecorded, hcausal⟩ :=
    System.keepsLog_logged.recorded recorded hr hidle (by rw [hstart])
  rw [hstart] at hrecorded hcausal
  have hstate : c.shared.1 = after c.shared.2 := hrecorded
  have hloads : ∀ t counts, requests t = .getStats → c.answer t = some (.stats counts) →
      ∀ counter : Counter, (t, (⟨.load counter, counter.told counts⟩ : Event relaySig)) ∈
        c.shared.2 := by
    intro t counts hget hreply counter
    have hpath := htraced.returned (Config.task_of_answer hreply)
    rw [hget] at hpath
    exact Log.mem_own.mp (mem_of_getStats hpath counter)
  refine ⟨⟨?_, ?_, ?_, ?_⟩, ?_, ?_⟩
  · intro sessionId stat
    rw [hstate]
    exact lookup_after c.shared.2 sessionId stat
  · intro counter
    rw [hstate]
    exact value_after counter c.shared.2
  · intro newer older t e hlog
    have hfollows := htraced.follows
    rw [hlog] at hfollows
    obtain ⟨q, hpath⟩ := hfollows.at_split
    exact belongs_of_path hpath
  · intro newer between older t u sessionId conn conn' hlog
    exact created_between (hlog ▸ hcausal)
  · intro t counts hget hreply counter
    obtain ⟨newer, older, hlog⟩ := List.append_of_mem (hloads t counts hget hreply counter)
    exact ⟨newer, older, hlog, told_eq (hlog ▸ hcausal)⟩
  · intro t u counts counts' newer older hget hget' hreply hreply' hlog hlater hearlier counter
    have ht := hloads t counts hget hreply counter
    have hu := hloads u counts' hget' hreply' counter
    rw [hlog] at ht hu hcausal
    exact told_le hcausal ((List.mem_append.mp ht).resolve_left (Log.notMem_of_own hlater _))
      ((List.mem_append.mp hu).resolve_right (Log.notMem_of_own hearlier _))

/-- Two tasks close a relay at once while a third one asks for the statistics. -/
def closingRequests : Nat → Request
  | 0 => .trackAttempt "session" "app" "10.0.0.7:4000" "agent" true
  | 1 => .createRelay "session" "10.0.0.7:4000" "agent"
  | 2 | 3 => .closeRelay "session"
  | _ => .getStats

/-- No request has begun. -/
def noRequests : Config relaySig Nat (Option Reply) (RelayModule × Log relaySig Nat) :=
  ⟨(.new, []), fun _ => .idle none⟩

def closingMoves : List (Move Nat Unit Int) :=
  [.start 0 (), .act 0 1000, .act 0 0, .act 0 0, .start 1 (), .act 1 1001, .act 1 0,
    .start 2 (), .start 3 (), .start 4 (), .act 2 0, .act 3 0, .act 4 0, .act 2 2000, .act 4 0,
    .act 4 0, .finish 4]

/-- The relay is counted once. -/
theorem statistics_kept_closedTwice :
    ∃ c, (System.oneShot (fun _ => handler) fun t =>
        (closingRequests t).run).logged.Reachable noRequests c ∧
      c.answer 4 = some (.stats (1, 0, 1)) ∧ countOf .relayUsed c.shared.2 = 1 ∧
      StatisticsKept closingRequests c.shared.1 c.shared.2 := by
  have hrun : ((System.oneShot (fun _ => handler) fun t =>
      (closingRequests t).run).logged.replay closingMoves noRequests).map
        (fun c => (c.answer 4, c.shared.1.tracker.relayUsed)) =
      some (some (.stats (1, 0, 1)), 1) := by decide +kernel
  obtain ⟨c, hc, hproj⟩ := Option.map_eq_some_iff.mp hrun
  obtain ⟨hreply, hused⟩ := Prod.mk.inj hproj
  obtain ⟨hkept, -, -⟩ := statistics_kept (fun _ => rfl) rfl ⟨_, hc⟩
  exact ⟨c, ⟨_, hc⟩, hreply, (hkept.counters .relayUsed).symm.trans hused, hkept⟩

end Jrok.Relay.Tasks
