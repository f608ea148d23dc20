import Jrok.Agent.Retries
import Jrok.Cluster.Loops
import Jrok.Db.Health
import Jrok.Text.Numeral

/-!
# Timeouts

`leader_timeout_ms` and `agent_timeout_ms` as `Config::from_env` admits them, and the tests that
compare an age with them: the one for the leader in the heartbeat loop, and those of the three
sweeps of the cleanup loop. The settings are `u64`, and the tests cast them to `i64`.
-/

namespace Jrok

open Concurrency

/-! ## Settings -/

namespace ServerConfig

/-- `env::var(name).expect(..)`. -/
def required (env : String → Option String) (name : String) : Except String String :=
  match env name with
  | some value => .ok value
  | none => .error (name ++ " required")

/-- `env::var(name).unwrap_or_else(..).parse().expect(..)` of an unsigned integer type. -/
def numeric (env : String → Option String) (bound : Nat) (name default : String) :
    Except String Nat :=
  match Numeral.fromStr bound ((env name).getD default).toList with
  | .ok n => .ok n
  | .error _ => .error ("Invalid " ++ name)

/-- `Config::from_env`, with the texts that it panics with. `uuid` is the one that it draws where no
    id is set. -/
def fromEnv (env : String → Option String) (uuid : String) : Except String ServerConfig := do
  let serverId := (env "SERVER_ID").getD uuid
  let httpHost ← required env "HTTP_HOST"
  let _httpPort ← numeric env (2 ^ 16) "HTTP_PORT" "8080"
  let tcpHost ← required env "TCP_HOST"
  let _tcpPortStart ← numeric env (2 ^ 16) "TCP_PORT_START" "10000"
  let _tcpPortEnd ← numeric env (2 ^ 16) "TCP_PORT_END" "20000"
  let _baseDomain ← required env "BASE_DOMAIN"
  let _tursoUrl ← required env "TURSO_URL"
  let _tursoToken ← required env "TURSO_TOKEN"
  let _heartbeatIntervalMs ← numeric env (2 ^ 64) "HEARTBEAT_INTERVAL_MS" "5000"
  let leaderTimeoutMs ← numeric env (2 ^ 64) "LEADER_TIMEOUT_MS" "15000"
  let agentTimeoutMs ← numeric env (2 ^ 64) "AGENT_TIMEOUT_MS" "30000"
  return {
    serverId := serverId
    httpHost := httpHost
    tcpHost := tcpHost
    leaderTimeoutMs := .ofNat leaderTimeoutMs
    agentTimeoutMs := .ofNat agentTimeoutMs }

/-- An environment with the settings that are required, and with the given timeouts. -/
def timeoutEnv (leaderTimeoutMs agentTimeoutMs : Option String) : String → Option String
  | "SERVER_ID" => some "a"
  | "HTTP_HOST" => some "h"
  | "TCP_HOST" => some "t"
  | "BASE_DOMAIN" => some "d"
  | "TURSO_URL" => some "u"
  | "TURSO_TOKEN" => some "k"
  | "LEADER_TIMEOUT_MS" => leaderTimeoutMs
  | "AGENT_TIMEOUT_MS" => agentTimeoutMs
  | _ => none

section

variable {leader agent : Option String} {bound n : Nat} {default value : String}

theorem required_timeoutEnv (name : String) (h : timeoutEnv leader agent name = some value) :
    required (timeoutEnv leader agent) name = .ok value := by
  unfold required
  rw [h]

theorem numeric_unset (name : String) (n : Nat) (h : timeoutEnv leader agent name = none)
    (hdefault : Numeral.fromStr bound default.toList = .ok n) :
    numeric (timeoutEnv leader agent) bound name default = .ok n := by
  unfold numeric
  rw [h, Option.getD_none, hdefault]

theorem numeric_toString (name : String) (h : timeoutEnv leader agent name = some (toString n))
    (hn : n < bound) : numeric (timeoutEnv leader agent) bound name default = .ok n := by
  unfold numeric
  rw [h, Option.getD_some, Numeral.fromStr_toString hn]

end

/-- Every two `u64` values are admitted as timeouts. -/
theorem fromEnv_timeouts (leader agent : UInt64) (uuid : String) :
    fromEnv (timeoutEnv (some (toString leader.toNat)) (some (toString agent.toNat))) uuid =
      .ok ⟨"a", "h", "t", leader, agent⟩ := by
  unfold fromEnv
  rw [required_timeoutEnv "HTTP_HOST" rfl, numeric_unset "HTTP_PORT" 8080 rfl rfl,
    required_timeoutEnv "TCP_HOST" rfl, numeric_unset "TCP_PORT_START" 10000 rfl rfl,
    numeric_unset "TCP_PORT_END" 20000 rfl rfl, required_timeoutEnv "BASE_DOMAIN" rfl,
    required_timeoutEnv "TURSO_URL" rfl, required_timeoutEnv "TURSO_TOKEN" rfl,
    numeric_unset "HEARTBEAT_INTERVAL_MS" 5000 rfl rfl,
    numeric_toString "LEADER_TIMEOUT_MS" rfl leader.toNat_lt,
    numeric_toString "AGENT_TIMEOUT_MS" rfl agent.toNat_lt]
  exact congrArg₂ (fun l a => Except.ok (ServerConfig.mk "a" "h" "t" l a)) UInt64.ofNat_toNat
    UInt64.ofNat_toNat

end ServerConfig

namespace Cluster

/-! ## The tests -/

/-- The places that hold an age against a timeout; `passedOn` is the call with which
    `cleanup_stale` goes on to the table. -/
inductive Site where
  | leader
  | server
  | entry
  | row
  | passedOn
  deriving DecidableEq, Repr

namespace Site

def timeout (config : ServerConfig) : Site → UInt64
  | .leader | .server => config.leaderTimeoutMs
  | .entry | .row | .passedOn => config.agentTimeoutMs

/-- The timeout as it comes out of the casts. -/
def cast (config : ServerConfig) : Site → Int
  | .passedOn => u64AsI64 (i64AsU64 (u64AsI64 config.agentTimeoutMs))
  | site => u64AsI64 (site.timeout config)

/-- What the subtraction of a test gives if it does not overflow: the age of the leader row, and
    the cutoff of a sweep. -/
def difference (config : ServerConfig) (now last : Int) : Site → Int
  | .leader => now - last
  | site => now - site.cast config

/-- The outcome of a test. -/
def stale (config : ServerConfig) (now last : Int) : Site → Bool
  | .leader => decide (Site.leader.cast config < i64 (Site.leader.difference config now last))
  | site => decide (last < i64 (site.difference config now last))

end Site

/-- In some run the test at the site is made with the reading `now` for what had its last heartbeat
    at `last`, and finds it stale or not. A sweep tells by the flag or the entry that it leaves. -/
inductive Verdict (B : Backend) (config : ServerConfig) : Site → Int → Int → Bool → Prop
  | leader (now last : Int) :
    Verdict B config .leader now last (leaderExpired config now last)
  | server {faulty : Bool} {now : Int} {cs : List Choice} {w w' : World} {id : String}
    {s s' : Server}
    (run : (Db.markServersUnhealthy config.leaderTimeoutMs).run.play (World.handler B faulty)
      (.read now :: cs) w = some (.ok (), w'))
    (before : w.db.servers.find? id = some s) (healthy : s.isHealthy = true)
    (after : w'.db.servers.find? id = some s') :
    Verdict B config .server now s.lastHeartbeat (!s'.isHealthy)
  | entry {faulty : Bool} {now : Int} {cs : List Choice} {w w' : World} {id : String}
    {st : AgentState}
    (run : (AgentRegistry.cleanupStale config.serverId (u64AsI64 config.agentTimeoutMs)).run.play
      (World.handler B faulty) (.read now :: cs) w = some (.ok (), w'))
    (before : (w.node config.serverId).agents.lookup id = some st) :
    Verdict B config .entry now st.lastHeartbeat
      ((w'.node config.serverId).agents.lookup id).isNone
  | row {faulty : Bool} {now : Int} {cs : List Choice} {w w' : World} {n : UInt64} {id : String}
    {r r' : AgentRow}
    (run : (Db.cleanupStaleAgents config.serverId config.agentTimeoutMs).run.play
      (World.handler B faulty) (.read now :: cs) w = some (.ok n, w'))
    (before : w.db.agents.find? id = some r) (own : r.serverId = config.serverId)
    (active : r.active = true) (after : w'.db.agents.find? id = some r') :
    Verdict B config .row now r.lastHeartbeat (!r'.active)
  | passedOn {faulty : Bool} {now : Int} {cs : List Choice} {w w' : World} {n : UInt64}
    {id : String} {r r' : AgentRow}
    (run : (Db.cleanupStaleAgents config.serverId
      (i64AsU64 (u64AsI64 config.agentTimeoutMs))).run.play (World.handler B faulty)
      (.read now :: cs) w = some (.ok n, w'))
    (before : w.db.agents.find? id = some r) (own : r.serverId = config.serverId)
    (active : r.active = true) (after : w'.db.agents.find? id = some r') :
    Verdict B config .passedOn now r.lastHeartbeat (!r'.active)

/-! ## What the sweeps do -/

section Sweeps

variable {B : Backend} {faulty : Bool} {now : Int} {cs : List Choice} {w w' : World} {id : String}

theorem markServersUnhealthy_flag {timeoutMs : UInt64} {s s' : Server}
    (h : (Db.markServersUnhealthy timeoutMs).run.play (World.handler B faulty) (.read now :: cs) w =
      some (.ok (), w'))
    (hs : w.db.servers.find? id = some s) (hhealthy : s.isHealthy = true)
    (hs' : w'.db.servers.find? id = some s') :
    (!s'.isHealthy) = decide (s.lastHeartbeat < subI64 now (u64AsI64 timeoutMs)) := by
  obtain ⟨g, hplay⟩ := Prog.exists_play_observe (fun _ => false : Health.Up) h
  obtain ⟨-, -, hdb⟩ := Health.sweep_ok hplay
  rw [hdb, Health.find?_sweepDb B _ hs] at hs'
  cases hs'
  split
  · rename_i hstale
    simp [hstale]
  · rename_i hstale
    simp [hstale, hhealthy]

theorem cleanupStale_entry {me : String} {timeoutMs : Int} {st : AgentState}
    (h : (AgentRegistry.cleanupStale me timeoutMs).run.play (World.handler B faulty)
      (.read now :: cs) w = some (.ok (), w'))
    (hst : (w.node me).agents.lookup id = some st) :
    ((w'.node me).agents.lookup id).isNone =
      decide (st.lastHeartbeat < subI64 now timeoutMs) := by
  obtain ⟨g, hplay⟩ := Prog.exists_play_observe (none : Option Sql) h
  obtain ⟨now', ids, hhead, -, hids, hend⟩ := AgentRegistry.cleanupStale_swept hplay
  obtain rfl : now = now' := by simpa using hhead
  obtain ⟨w₁, hswept, hmap, -, -⟩ | ⟨done, id', rest, e, now', -, herr, -⟩ := hend
  · rw [hmap, hswept.map, List.append_nil]
    by_cases hstale : st.lastHeartbeat < subI64 now timeoutMs
    · rw [if_pos ((hids id).mpr ⟨st, hst, hstale⟩), decide_eq_true hstale]
      rfl
    · have hkept : id ∉ ids := by
        intro hid
        obtain ⟨st', hst', hstale'⟩ := (hids id).mp hid
        rw [hst] at hst'
        cases hst'
        exact hstale hstale'
      rw [if_neg hkept, hst, decide_eq_false hstale]
      rfl
  · cases herr

/-- The statement lowers the flag of an own row that is older than the cutoff. -/
theorem find?_cleanupStaleAgents {serverId : String} {cutoff : Int} {db : Database} {r : AgentRow}
    (hr : db.agents.find? id = some r) (hown : r.serverId = serverId) (hactive : r.active = true) :
    ((Sql.cleanupStaleAgents serverId cutoff).exec B db).2.agents.find? id =
      some (if r.lastHeartbeat < cutoff then { r with active := false } else r) := by
  have hupdate : ((Sql.cleanupStaleAgents serverId cutoff).exec B db).2.agents.find? id =
      (db.agents.find? id).map fun r =>
        if (r.serverId = serverId && r.lastHeartbeat < cutoff && r.active) = true then
          { r with active := false }
        else r := Relational.Table.find?_updateWhere (by intro; rfl)
  rw [hupdate, hr, Option.map_some]
  simp [hown, hactive]

theorem cleanupStaleAgents_flag {serverId : String} {timeoutMs n : UInt64} {r r' : AgentRow}
    (h : (Db.cleanupStaleAgents serverId timeoutMs).run.play (World.handler B faulty)
      (.read now :: cs) w = some (.ok n, w'))
    (hr : w.db.agents.find? id = some r) (hown : r.serverId = serverId)
    (hactive : r.active = true) (hr' : w'.db.agents.find? id = some r') :
    (!r'.active) = decide (r.lastHeartbeat < subI64 now (u64AsI64 timeoutMs)) := by
  rw [Db.run_cleanupStaleAgents] at h
  obtain ⟨c, rest, now', w₁, hcs, hnow, h⟩ := Prog.play_op_iff.mp h
  obtain ⟨rfl, -, -, rfl⟩ := World.exec_now.mp hnow
  obtain ⟨rfl, rfl⟩ : now = now' ∧ cs = rest := by simpa using hcs
  obtain ⟨c, rest, a, w₂, -, hsql, h⟩ := Prog.play_op_iff.mp h
  obtain ⟨-, hok, rfl⟩ := Prog.play_ret_iff.mp h
  obtain ⟨-, -, rfl⟩ | ⟨e, -, -, rfl, -⟩ := World.exec_sql.mp hsql
  · rw [find?_cleanupStaleAgents hr hown hactive] at hr'
    cases hr'
    split
    · rename_i hstale
      simp [hstale]
    · rename_i hstale
      simp [hstale, hactive]
  · cases hok

end Sweeps

/-- A verdict is the outcome of the test. -/
theorem Verdict.eq_stale {B : Backend} {config : ServerConfig} {site : Site} {now last : Int}
    {stale : Bool} (h : Verdict B config site now last stale) :
    stale = site.stale config now last := by
  cases h with
  | leader => rfl
  | server run before healthy after => exact markServersUnhealthy_flag run before healthy after
  | entry run before => exact cleanupStale_entry run before
  | row run before own active after => exact cleanupStaleAgents_flag run before own active after
  | passedOn run before own active after =>
    exact cleanupStaleAgents_flag run before own active after

/-! ## Exact timeouts -/

/-- The readings of a test: the last heartbeat is not in the future, and the clock is in the lower
    half of its range. -/
structure Readings (now last : Int) : Prop where
  nonneg : 0 ≤ last
  le : last ≤ now
  lt : now < 2 ^ 62

/-- No test overflows, each of them finds stale what is older than the configured timeout, and a
    lower timeout leaves no less stale. -/
structure TimeoutsExact (B : Backend) (config : ServerConfig) : Prop where
  fits : ∀ (site : Site) now last, Readings now last → FitsI64 (site.difference config now last)
  exact : ∀ site now last stale, Readings now last → Verdict B config site now last stale →
    (stale = true ↔ ((site.timeout config).toNat : Int) < now - last)
  monotone : ∀ lower : ServerConfig, lower.leaderTimeoutMs ≤ config.leaderTimeoutMs →
    lower.agentTimeoutMs ≤ config.agentTimeoutMs → ∀ site now last stale, Readings now last →
      Verdict B config site now last true → Verdict B lower site now last stale → stale = true

section

variable {config : ServerConfig} {now last : Int}

theorem Site.timeout_lt (hleader : config.leaderTimeoutMs.toNat < 2 ^ 63)
    (hagent : config.agentTimeoutMs.toNat < 2 ^ 63) (site : Site) :
    (site.timeout config).toNat < 2 ^ 63 := by
  cases site <;> assumption

/-- The casts on the way of a timeout come to one. -/
theorem Site.cast_eq (site : Site) : site.cast config = u64AsI64 (site.timeout config) := by
  cases site with
  | passedOn =>
    have hfits := i64_fits config.agentTimeoutMs.toNat
    exact u64AsI64_i64AsU64 hfits.1 hfits.2
  | _ => rfl

theorem Readings.leader_exact {t : Int} (h : Readings now last) :
    FitsI64 (now - last) ∧ (decide (t < i64 (now - last)) = true ↔ t < now - last) := by
  obtain ⟨hnonneg, hle, hlt⟩ := h
  rw [i64_of_range (by omega) (by omega), decide_eq_true_eq]
  exact ⟨⟨by omega, by omega⟩, Iff.rfl⟩

theorem Readings.cutoff_exact {t : Int} (h : Readings now last) (hlo : 0 ≤ t) (hhi : t < 2 ^ 63) :
    FitsI64 (now - t) ∧ (decide (last < i64 (now - t)) = true ↔ t < now - last) := by
  obtain ⟨hnonneg, hle, hlt⟩ := h
  rw [i64_of_range (by omega) (by omega), decide_eq_true_eq]
  refine ⟨⟨by omega, by omega⟩, ?_⟩
  omega

/-- A test with a timeout in the lower half of `u64` is exact. -/
theorem Site.stale_iff {site : Site} (h : (site.timeout config).toNat < 2 ^ 63)
    (hr : Readings now last) :
    FitsI64 (site.difference config now last) ∧
      (site.stale config now last = true ↔ ((site.timeout config).toNat : Int) < now - last) := by
  have hcast := (Site.cast_eq site).trans (u64AsI64_of_lt h)
  have hcutoff := hr.cutoff_exact (Int.natCast_nonneg (site.timeout config).toNat) (by omega)
  rw [← hcast] at hcutoff ⊢
  cases site with
  | leader => exact hr.leader_exact
  | _ => exact hcutoff

/-- A timeout in the upper half turns negative, and its test finds everything stale. -/
theorem Site.stale_of_le {site : Site} (h : 2 ^ 63 ≤ (site.timeout config).toNat)
    (hr : Readings now last) (hfits : FitsI64 (site.difference config now last)) :
    site.stale config now last = true := by
  have hcast := (Site.cast_eq site).trans (u64AsI64_of_le h)
  have ht := (site.timeout config).toNat_lt
  obtain ⟨hnonneg, hle, hlt⟩ := hr
  have hcutoff : FitsI64 (now - site.cast config) →
      decide (last < i64 (now - site.cast config)) = true := by
    intro hfits
    rw [i64_of_range hfits.1 hfits.2, decide_eq_true_eq]
    omega
  cases site with
  | leader =>
    apply decide_eq_true
    rw [hcast, i64_of_range hfits.1 hfits.2]
    have hage : 0 ≤ Site.leader.difference config now last := Int.sub_nonneg.mpr hle
    omega
  | _ => exact hcutoff hfits

variable {B : Backend}

/-- Where some test is made, its timeout has to be in the lower half. -/
theorem TimeoutsExact.timeout_lt (h : TimeoutsExact B config) {site : Site} {stale : Bool}
    (hr : Readings now last) (hverdict : Verdict B config site now last stale) :
    (site.timeout config).toNat < 2 ^ 63 := by
  by_contra hle
  have hstale := Site.stale_of_le (Nat.not_lt.mp hle) hr (h.fits site now last hr)
  rw [← hverdict.eq_stale, h.exact site now last stale hr hverdict] at hstale
  obtain ⟨hnonneg, -, hlt⟩ := hr
  omega

theorem timeoutsExact (hleader : config.leaderTimeoutMs.toNat < 2 ^ 63)
    (hagent : config.agentTimeoutMs.toNat < 2 ^ 63) : TimeoutsExact B config where
  fits site now last hr := (Site.stale_iff (Site.timeout_lt hleader hagent site) hr).1
  exact site now last stale hr hverdict := by
    rw [hverdict.eq_stale]
    exact (Site.stale_iff (Site.timeout_lt hleader hagent site) hr).2
  monotone lower hleaders hagents site now last stale hr hverdict hlower := by
    have hle : (site.timeout lower).toNat ≤ (site.timeout config).toNat := by
      cases site <;> assumption
    have hlt := Site.timeout_lt hleader hagent site
    have hold := (Site.stale_iff hlt hr).2.mp hverdict.eq_stale.symm
    rw [hlower.eq_stale]
    exact (Site.stale_iff (Nat.lt_of_le_of_lt hle hlt) hr).2.mpr (by omega)

end

/-- An agent of the server, which was heard from at 0. -/
def quietRow (serverId : String) : AgentRow where
  id := "agent"
  subdomain := "app"
  serverId := serverId
  tunnelId := none
  localPort := 3000
  localHost := "localhost"
  protocol := "http"
  connectionToken := "token"
  connectedAt := 0
  lastHeartbeat := 0
  active := true

def quietAgent (serverId : String) : World :=
  { World.boot with db := { World.boot.db with agents := ⟨[quietRow serverId], by simp⟩ } }

/-- The sweep of the table comes to a verdict at the time 0. -/
theorem exists_row_verdict (B : Backend) (config : ServerConfig) :
    ∃ stale, Verdict B config .row 0 0 stale := by
  have hrun : ∃ n w', (Db.cleanupStaleAgents config.serverId config.agentTimeoutMs).run.play
      (World.handler B false) [.read 0, .go] (quietAgent config.serverId) = some (.ok n, w') ∧
      w'.db = ((Sql.cleanupStaleAgents config.serverId
        (subI64 0 (u64AsI64 config.agentTimeoutMs))).exec B (quietAgent config.serverId).db).2 := by
    rw [Db.run_cleanupStaleAgents]
    exact ⟨_, _, rfl, rfl⟩
  obtain ⟨n, w', hrun, hdb⟩ := hrun
  have hbefore : (quietAgent config.serverId).db.agents.find? "agent" =
      some (quietRow config.serverId) := rfl
  have hafter : ∃ r', w'.db.agents.find? "agent" = some r' := by
    rw [hdb]
    exact ⟨_, find?_cleanupStaleAgents hbefore rfl rfl⟩
  obtain ⟨r', hafter⟩ := hafter
  exact ⟨!r'.active, .row hrun hbefore rfl rfl hafter⟩

/-- The timeouts are exact if both are below `2^63`, and for no others. -/
theorem timeoutsExact_iff (B : Backend) (config : ServerConfig) :
    TimeoutsExact B config ↔
      config.leaderTimeoutMs.toNat < 2 ^ 63 ∧ config.agentTimeoutMs.toNat < 2 ^ 63 := by
  have hr : Readings 0 0 := ⟨by omega, by omega, by omega⟩
  constructor
  · intro h
    obtain ⟨stale, hrow⟩ := exists_row_verdict B config
    exact ⟨h.timeout_lt hr (.leader 0 0), h.timeout_lt hr hrow⟩
  · rintro ⟨hleader, hagent⟩
    exact timeoutsExact hleader hagent

/-- With the largest timeout of all, a leader that has just renewed its term has expired. -/
theorem leaderExpired_max :
    ∃ config, ServerConfig.fromEnv
        (ServerConfig.timeoutEnv (some "18446744073709551615") (some "30000")) "a" = .ok config ∧
      leaderExpired config 1000 1000 = true ∧ ∀ B, ¬ TimeoutsExact B config := by
  have hexpired : leaderExpired ⟨"a", "h", "t", 18446744073709551615, 30000⟩ 1000 1000 = true := by
    decide
  refine ⟨_, ServerConfig.fromEnv_timeouts 18446744073709551615 30000 "a", hexpired, ?_⟩
  intro B h
  have hr : Readings 1000 1000 := ⟨by omega, by omega, by omega⟩
  have hage := (h.exact .leader 1000 1000 _ hr (.leader 1000 1000)).mp hexpired
  exact absurd hage (by decide)

end Cluster

end Jrok
