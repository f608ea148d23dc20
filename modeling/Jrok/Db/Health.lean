import Jrok.Db.Calls
import Mathlib.Algebra.Order.Group.Int

/-!
# Server health

The `is_healthy` flag of the `servers` rows under `register_server`, `send_heartbeat`,
`mark_servers_unhealthy` and `mark_server_unhealthy`, called by any servers in any order. Only a
registration sets the flag again: a heartbeat after an outage moves `last_heartbeat` and leaves
the flag down, so that later sweeps go on deactivating the agents of a live server.
-/

namespace Jrok

open Concurrency

namespace Health

/-- A call to one of the four functions. -/
inductive HealthCall where
  | register (id httpHost tcpHost : String)
  | heartbeat (id : String)
  | sweep (timeoutMs : UInt64)
  | shutdown (id : String)

def HealthCall.run : HealthCall → ServerProg (Except Error Unit)
  | .register id httpHost tcpHost => (Db.registerServer id httpHost tcpHost).run
  | .heartbeat id => (Db.sendHeartbeat id).run
  | .sweep timeoutMs => (Db.markServersUnhealthy timeoutMs).run
  | .shutdown id => (Db.markServerUnhealthy id).run

/-- Whether a server has registered and has not been shut down since. -/
abbrev Up := String → Bool

def upAfter : (o : Op) → o.Res → World → Up → Up
  | .sql (.registerServer id _ _ _), .ok _, _, g => Function.update g id true
  | .sql (.markServerUnhealthy id), .ok _, _, g => Function.update g id false
  | _, _, _, g => g

abbrev healthHandler (B : Backend) (faulty : Bool) : Handler serverSig (World × Up) Choice :=
  (World.handler B faulty).observe upAfter

/-- Every server that is up has a row, with a heartbeat that is not in the future. -/
structure HealthInv (x : World × Up) : Prop where
  clock_nonneg : 0 ≤ x.1.clock
  row : ∀ id, x.2 id = true →
    ∃ s, x.1.db.servers.find? id = some s ∧ 0 ≤ s.lastHeartbeat ∧ s.lastHeartbeat ≤ x.1.clock

section Steps

variable {B : Backend} {faulty : Bool} {c : Choice} {x x' : World × Up}

/-- A failed statement changes nothing; one that goes through does what `Sql.exec` says. -/
theorem sql_step {q : Sql} {r : Except DbError q.Res}
    (h : healthHandler B faulty c (.sql q) x = some (r, x')) :
    (r = (q.exec B x.1.db).1 ∧ x'.1 = { x.1 with db := (q.exec B x.1.db).2 } ∧
      x'.2 = upAfter (.sql q) r x.1 x.2) ∨
    ((∃ e, r = .error e) ∧ x' = x) := by
  obtain ⟨hop, hg⟩ := Handler.observe_eq_some.mp h
  rcases World.exec_sql.mp hop with ⟨-, hr, hw⟩ | ⟨e, -, -, rfl, hw⟩
  · exact .inl ⟨hr, hw, hg⟩
  · refine .inr ⟨⟨e, rfl⟩, Prod.ext hw ?_⟩
    rw [hg]
    cases q <;> rfl

theorem now_step {n : Int} (h : healthHandler B faulty c .now x = some (n, x')) :
    c = .read n ∧ x.1.clock ≤ n ∧ n < clockBound ∧ x' = ({ x.1 with clock := n }, x.2) := by
  obtain ⟨hop, hg⟩ := Handler.observe_eq_some.mp h
  obtain ⟨hc, hlo, hhi, hw⟩ := World.exec_now.mp hop
  exact ⟨hc, hlo, hhi, Prod.ext hw hg⟩

/-- Time passing keeps the invariant. -/
theorem HealthInv.later {n : Int} (hI : HealthInv x) (hn : x.1.clock ≤ n) :
    HealthInv ({ x.1 with clock := n }, x.2) where
  clock_nonneg := hI.clock_nonneg.trans hn
  row id hid := by
    obtain ⟨s, hs, hlo, hhi⟩ := hI.row id hid
    exact ⟨s, hs, hlo, hhi.trans hn⟩

/-- A statement keeps the invariant if it keeps every server's row and bounds its heartbeat. -/
theorem HealthInv.of_servers (hI : HealthInv x) (hclock : x'.1.clock = x.1.clock)
    (hup : ∀ id, x'.2 id = true → x.2 id = true)
    (hrow : ∀ id s, x.1.db.servers.find? id = some s →
      ∃ s', x'.1.db.servers.find? id = some s' ∧
        (s'.lastHeartbeat = s.lastHeartbeat ∨ s'.lastHeartbeat = x.1.clock)) : HealthInv x' where
  clock_nonneg := hclock ▸ hI.clock_nonneg
  row id hid := by
    obtain ⟨s, hs, hlo, hhi⟩ := hI.row id (hup id hid)
    obtain ⟨s', hs', hsame | hnow⟩ := hrow id s hs
    · exact ⟨s', hs', by omega, by omega⟩
    · have hclk := hI.clock_nonneg
      exact ⟨s', hs', by omega, by omega⟩

/-- `register_server` succeeds, and leaves a healthy row with the given heartbeat. -/
theorem exec_registerServer (B : Backend) (db : Database) (id httpHost tcpHost : String)
    (now : Int) :
    ∃ n s, ((Sql.registerServer id httpHost tcpHost now).exec B db).1 = .ok n ∧
      s.lastHeartbeat = now ∧ s.isHealthy = true ∧
      ∀ k, ((Sql.registerServer id httpHost tcpHost now).exec B db).2.servers.find? k =
        if id = k then some s else db.servers.find? k := by
  cases h : db.servers.insert? ⟨id, httpHost, tcpHost, now, now, true⟩ with
  | some t =>
    refine ⟨1, ⟨id, httpHost, tcpHost, now, now, true⟩, by simp only [Sql.exec, h], rfl, rfl, ?_⟩
    intro k
    simp only [Sql.exec, h]
    exact Relational.Table.find?_insert? h k
  | none =>
    obtain ⟨s, hs, hid⟩ := Relational.Table.insert?_eq_none_iff.mp h
    have hfind : db.servers.find? id = some s :=
      Relational.Table.find?_eq_some_iff.mpr ⟨hs, hid⟩
    refine ⟨_, { s with lastHeartbeat := now, isHealthy := true }, by
      simp only [Sql.exec, h]; rfl, rfl, rfl, ?_⟩
    intro k
    simp only [Sql.exec, h, Database.updateServers]
    refine (Relational.Table.find?_updateWhere_key (by intro; rfl)).trans ?_
    split
    case isTrue hk => rw [← hk, hfind, Option.map_some]
    case isFalse => rfl

/-- Each statement of the four functions keeps the invariant. -/
theorem HealthInv.register {id httpHost tcpHost : String} {r : Except DbError Nat}
    (hI : HealthInv x)
    (h : healthHandler B faulty c (.sql (.registerServer id httpHost tcpHost x.1.clock)) x =
      some (r, x')) : HealthInv x' := by
  rcases sql_step h with ⟨hr, hw, hg⟩ | ⟨-, rfl⟩
  · obtain ⟨n, s, hok, hbeat, -, hfind⟩ :=
      exec_registerServer B x.1.db id httpHost tcpHost x.1.clock
    have hup : x'.2 = Function.update x.2 id true := by rw [hg, hr, hok]; rfl
    refine ⟨by rw [hw]; exact hI.clock_nonneg, fun k hk => ?_⟩
    rw [hw]
    dsimp only
    rw [hfind]
    by_cases hid : id = k
    · exact ⟨s, if_pos hid, hbeat ▸ hI.clock_nonneg, hbeat.le⟩
    · rw [hup, Function.update_of_ne (Ne.symm hid)] at hk
      rw [if_neg hid]
      exact hI.row k hk
  · exact hI

/-- A statement that updates server rows, at most their heartbeat to the current time. -/
theorem HealthInv.update {q : Sql} {r : Except DbError q.Res} {p : Server → Bool}
    {f : Server → Server} (hI : HealthInv x)
    (h : healthHandler B faulty c (.sql q) x = some (r, x'))
    (hq : ∀ k, (q.exec B x.1.db).2.servers.find? k =
      (x.1.db.servers.find? k).map fun s => if p s then f s else s)
    (hbeat : ∀ s, (f s).lastHeartbeat = s.lastHeartbeat ∨ (f s).lastHeartbeat = x.1.clock)
    (hup : ∀ r k, upAfter (.sql q) r x.1 x.2 k = true → x.2 k = true) : HealthInv x' := by
  rcases sql_step h with ⟨hr, hw, hg⟩ | ⟨-, rfl⟩
  · refine hI.of_servers (by rw [hw]) (fun k hk => hup r k (hg ▸ hk)) ?_
    intro k s hs
    refine ⟨if p s then f s else s, ?_, ?_⟩
    · rw [hw]
      dsimp only
      rw [hq, hs, Option.map_some]
    · split
      · exact hbeat s
      · exact .inl rfl
  · exact hI

end Steps

/-- Every call keeps the invariant. -/
theorem HealthInv.post {B : Backend} {faulty : Bool} (call : HealthCall) {x : World × Up}
    (hI : HealthInv x) : call.run.post (healthHandler B faulty) (fun _ => HealthInv) x := by
  cases call with
  | register id httpHost tcpHost =>
    simp only [HealthCall.run, Db.registerServer, run_executeAt, Prog.post_op, Prog.post_ret]
    intro c now x₁ hnow c r x₂ hsql
    obtain ⟨-, hlo, -, rfl⟩ := now_step hnow
    exact (hI.later hlo).register hsql
  | heartbeat id =>
    simp only [HealthCall.run, Db.sendHeartbeat, run_executeAt, Prog.post_op, Prog.post_ret]
    intro c now x₁ hnow c r x₂ hsql
    obtain ⟨-, hlo, -, rfl⟩ := now_step hnow
    exact (hI.later hlo).update hsql
      (fun _ => Relational.Table.find?_updateWhere (by intro; rfl)) (fun _ => .inr rfl)
      fun _ _ hk => hk
  | sweep timeoutMs =>
    simp only [HealthCall.run, Db.run_markServersUnhealthy, Prog.post_op]
    intro c now x₁ hnow c r x₂ hmark
    obtain ⟨-, hlo, -, rfl⟩ := now_step hnow
    have hI₂ : HealthInv x₂ :=
      (hI.later hlo).update hmark
        (fun _ => Relational.Table.find?_updateWhere (by intro; rfl)) (fun _ => .inl rfl)
        fun _ _ hk => hk
    cases r with
    | error e => exact Prog.post_ret.mpr hI₂
    | ok n =>
      simp only [Prog.post_op, Prog.post_ret]
      intro c r x₃ hsweep
      rcases sql_step hsweep with ⟨hr, hw, hg⟩ | ⟨-, rfl⟩
      · exact hI₂.of_servers (by rw [hw]) (fun k hk => by rw [hg] at hk; exact hk)
          fun k s hs => ⟨s, by rw [hw]; exact hs, .inl rfl⟩
      · exact hI₂
  | shutdown id =>
    simp only [HealthCall.run, Db.markServerUnhealthy, run_execute, Prog.post_op, Prog.post_ret]
    intro c r x₁ hsql
    refine hI.update hsql (fun _ => Relational.Table.find?_updateWhere (by intro; rfl))
      (fun _ => .inl rfl) fun r k hk => ?_
    cases r with
    | error e => exact hk
    | ok n =>
      by_cases hid : k = id
      · simp [upAfter, hid] at hk
      · simpa [upAfter, hid] using hk

/-- The invariant holds after any sequence of calls. -/
theorem HealthInv.run {B : Backend} {faulty : Bool} {calls : List (HealthCall × List Choice)}
    {x x' : World × Up} (hI : HealthInv x)
    (hrun : playAll (healthHandler B faulty) HealthCall.run calls x = some x') : HealthInv x' :=
  playAll_invariant HealthInv (fun call _ hs => hs.post call) hI hrun

/-! ## A sweep -/

/-- What a sweep at `now` with timeout `T` owes the server `id`: its flag says whether its
    heartbeat is recent, and if it is, none of its active agents is deactivated. -/
def HealthTracked (now : Int) (timeoutMs : UInt64) (id : String) (before after : Database) :
    Prop :=
  ∃ s, after.servers.find? id = some s ∧
    (s.isHealthy = true ↔ now - timeoutMs.toNat ≤ s.lastHeartbeat) ∧
    (now - timeoutMs.toNat ≤ s.lastHeartbeat →
      ∀ r ∈ before.agents, r.serverId = id → r.active = true →
        ∃ r' ∈ after.agents, r'.id = r.id ∧ r'.active = true)

/-- The two statements of `mark_servers_unhealthy`. -/
def sweepDb (B : Backend) (cutoff : Int) (db : Database) : Database :=
  (Sql.deactivateAgentsOfUnhealthyServers.exec B ((Sql.markStaleServers cutoff).exec B db).2).2

/-- A sweep that returns `Ok` has run both statements with the cutoff of its own reading. -/
theorem sweep_ok {B : Backend} {faulty : Bool} {timeoutMs : UInt64} {now : Int}
    {cs : List Choice} {x x' : World × Up}
    (h : (Db.markServersUnhealthy timeoutMs).run.play (healthHandler B faulty) (.read now :: cs) x =
      some (.ok (), x')) :
    x.1.clock ≤ now ∧ now < clockBound ∧
      x'.1.db = sweepDb B (subI64 now (u64AsI64 timeoutMs)) x.1.db := by
  rw [Db.run_markServersUnhealthy] at h
  obtain ⟨c, rest, n, x₁, hcs, hnow, h⟩ := Prog.play_op_iff.mp h
  obtain ⟨rfl, hlo, hhi, rfl⟩ := now_step hnow
  obtain ⟨rfl, rfl⟩ : now = n ∧ cs = rest := by simpa using hcs
  refine ⟨hlo, hhi, ?_⟩
  obtain ⟨c, rest, r, x₂, -, hmark, h⟩ := Prog.play_op_iff.mp h
  rcases sql_step hmark with ⟨rfl, hw₂, -⟩ | ⟨⟨e, rfl⟩, -⟩
  · obtain ⟨c, rest, r, x₃, -, hsweep, h⟩ := Prog.play_op_iff.mp h
    obtain ⟨-, hok, rfl⟩ := Prog.play_ret_iff.mp h
    rcases sql_step hsweep with ⟨rfl, hw₃, -⟩ | ⟨⟨e, rfl⟩, -⟩
    · rw [hw₃, hw₂]
      rfl
    · simp [Except.mapError, Except.map] at hok
  · obtain ⟨-, hok, -⟩ := Prog.play_ret_iff.mp h
    simp at hok

section Sweep

variable {B : Backend} {cutoff : Int} {db : Database} {id : String} {s : Server}

variable (B cutoff) in
/-- The sweep lowers the flag of a stale server and touches nothing else of its row. -/
theorem find?_sweepDb (h : db.servers.find? id = some s) :
    (sweepDb B cutoff db).servers.find? id = some
      (if s.lastHeartbeat < cutoff then { s with isHealthy := false } else s) := by
  have hmark : (sweepDb B cutoff db).servers.find? id =
      (db.servers.find? id).map fun s =>
        if (s.lastHeartbeat < cutoff && s.isHealthy) = true then { s with isHealthy := false }
        else s := Relational.Table.find?_updateWhere (by intro; rfl)
  rw [hmark, h, Option.map_some]
  obtain ⟨_, _, _, _, beat, healthy⟩ := s
  cases healthy <;> simp

/-- Agents of a server that is healthy after the sweep stay as they are. -/
theorem agent_mem_sweepDb (h : (sweepDb B cutoff db).servers.find? id = some s)
    (hs : s.isHealthy = true) {r : AgentRow} (hr : r ∈ db.agents) (hid : r.serverId = id) :
    r ∈ (sweepDb B cutoff db).agents := by
  refine (Relational.Table.mem_updateWhere (by intro; rfl)).mpr ⟨r, hr, ?_⟩
  have hnot : ((Sql.markStaleServers cutoff).exec B db).2.onUnhealthyServer r = false := by
    rw [Database.onUnhealthyServer, List.any_eq_false]
    intro s' hs'
    by_cases hsid : s'.id = r.serverId
    · have hfind : (sweepDb B cutoff db).servers.find? id = some s' :=
        Relational.Table.find?_eq_some_iff.mpr ⟨hs', hsid.trans hid⟩
      obtain rfl : s = s' := Option.some.inj (h.symm.trans hfind)
      simp [hs]
    · simp [hsid]
  simp [hnot]

end Sweep

/-- A sweep tracks the health of a server that is up exactly if the server is stale, or its flag
    was still set before the sweep and the cutoff does not wrap. -/
theorem health_tracked_iff {B : Backend} {faulty : Bool} {calls : List (HealthCall × List Choice)}
    {x₀ x x' : World × Up} {timeoutMs : UInt64} {now : Int} {cs : List Choice} {id : String}
    (hclock : 0 ≤ x₀.1.clock) (hnone : ∀ id, x₀.2 id = false)
    (hrun : playAll (healthHandler B faulty) HealthCall.run calls x₀ = some x)
    (hsweep : (Db.markServersUnhealthy timeoutMs).run.play (healthHandler B faulty)
      (.read now :: cs) x = some (.ok (), x'))
    (hup : x.2 id = true) :
    HealthTracked now timeoutMs id x.1.db x'.1.db ↔
      ∃ s, x.1.db.servers.find? id = some s ∧
        (s.lastHeartbeat < now - timeoutMs.toNat ∨
          (s.isHealthy = true ∧ timeoutMs.toNat ≤ 2 ^ 63 + now)) := by
  have hI : HealthInv x :=
    HealthInv.run ⟨hclock, fun id hid => by simp [hnone id] at hid⟩ hrun
  obtain ⟨hlo, hhi, hdb⟩ := sweep_ok hsweep
  obtain ⟨s, hs, hbeat, hpast⟩ := hI.row id hup
  have hnow := hI.clock_nonneg
  unfold clockBound at hhi
  have hafter := find?_sweepDb B (subI64 now (u64AsI64 timeoutMs)) hs
  have hagents := fun hs r hr hid => agent_mem_sweepDb (r := r) hafter hs hr hid
  rw [HealthTracked, hdb, hafter]
  simp only [hs, Option.some.injEq, exists_eq_left']
  by_cases hT : timeoutMs.toNat ≤ 2 ^ 63 + now
  · rw [cutoff_exact (by omega) hhi hT] at hagents ⊢
    by_cases hstale : s.lastHeartbeat < now - timeoutMs.toNat
    · simp only [hstale, if_true]
      have hnot : ¬ now - timeoutMs.toNat ≤ s.lastHeartbeat := by omega
      simp [hnot]
    · simp only [hstale, if_false] at hagents ⊢
      have hfresh : now - timeoutMs.toNat ≤ s.lastHeartbeat := by omega
      constructor
      · rintro ⟨hiff, -⟩
        exact .inr ⟨hiff.mpr hfresh, hT⟩
      · rintro (hfalse | ⟨hhealthy, -⟩)
        · exact absurd hfalse (by simp)
        · refine ⟨iff_of_true hhealthy hfresh, fun _ r hr hid hactive => ?_⟩
          exact ⟨r, hagents hhealthy r hr hid, rfl, hactive⟩
  · -- the wrapped cutoff lies in the future, so that every server counts as stale
    have hcut := cutoff_future (by omega) hhi (Int.not_le.mp hT)
    have hstale : s.lastHeartbeat < subI64 now (u64AsI64 timeoutMs) := by omega
    have hfresh : now - timeoutMs.toNat ≤ s.lastHeartbeat := by omega
    simp only [hstale, if_true]
    constructor
    · rintro ⟨hiff, -⟩
      exact absurd (hiff.mpr hfresh) (by simp)
    · rintro (hold | ⟨-, hle⟩)
      · omega
      · exact absurd hle hT

/-- Server `a` registers and is swept 50 ms later, with a timeout of 100 ms. -/
theorem health_tracked_iff_registered :
    ∃ x x', playAll (healthHandler .migrated false) HealthCall.run
        [(.register "a" "h" "t", [.read 1000, .go])] (.boot, fun _ => false) = some x ∧
      (Db.markServersUnhealthy 100).run.play (healthHandler .migrated false)
        [.read 1050, .go, .go] x = some (.ok (), x') ∧
      HealthTracked 1050 100 "a" x.1.db x'.1.db := by
  have hrun : ∃ x x', playAll (healthHandler .migrated false) HealthCall.run
        [(.register "a" "h" "t", [.read 1000, .go])] (.boot, fun _ => false) = some x ∧
      (Db.markServersUnhealthy 100).run.play (healthHandler .migrated false)
        [.read 1050, .go, .go] x = some (.ok (), x') ∧ x.2 "a" = true ∧
      x.1.db.servers.find? "a" = some ⟨"a", "h", "t", 1000, 1000, true⟩ :=
    ⟨_, _, rfl, rfl, rfl, rfl⟩
  obtain ⟨x, x', hcalls, hsweep, hup, hs⟩ := hrun
  exact ⟨x, x', hcalls, hsweep,
    (health_tracked_iff (le_refl 0) (fun _ => rfl) hcalls hsweep hup).mpr
      ⟨_, hs, .inr ⟨rfl, by decide⟩⟩⟩

/-- Server `a` misses a sweep, comes back with a heartbeat, and stays unhealthy at the next. -/
theorem health_lost_after_outage :
    ∃ x x', playAll (healthHandler .migrated false) HealthCall.run
        [(.register "a" "h" "t", [.read 1000, .go]), (.sweep 100, [.read 2000, .go, .go]),
          (.heartbeat "a", [.read 3000, .go])] (.boot, fun _ => false) = some x ∧
      (Db.markServersUnhealthy 100).run.play (healthHandler .migrated false)
        [.read 3000, .go, .go] x = some (.ok (), x') ∧ x.2 "a" = true ∧
      ¬ HealthTracked 3000 100 "a" x.1.db x'.1.db := by
  have hrun : ((playAll (healthHandler .migrated false) HealthCall.run
        [(.register "a" "h" "t", [.read 1000, .go]), (.sweep 100, [.read 2000, .go, .go]),
          (.heartbeat "a", [.read 3000, .go])] (.boot, fun _ => false)).bind fun x =>
      ((Db.markServersUnhealthy 100).run.play (healthHandler .migrated false)
        [.read 3000, .go, .go] x).map fun rx =>
          (rx.1.toBool, x.2 "a", rx.2.1.db.servers.find? "a")) =
      some (true, true, some ⟨"a", "h", "t", 1000, 3000, false⟩) := by decide +kernel
  obtain ⟨x, hx, hsweep⟩ := Option.bind_eq_some_iff.mp hrun
  obtain ⟨⟨r, x'⟩, hx', hproj⟩ := Option.map_eq_some_iff.mp hsweep
  simp only [Prod.mk.injEq] at hproj
  obtain ⟨hr, hup, hs⟩ := hproj
  refine ⟨x, x', hx, ?_, hup, ?_⟩
  · cases r with
    | ok u => exact hx'
    | error e => simp [Except.toBool] at hr
  · rintro ⟨s, hs', hiff, -⟩
    obtain rfl := Option.some.inj (hs.symm.trans hs')
    exact absurd (hiff.mpr (by decide)) (by decide)

end Health

end Jrok
