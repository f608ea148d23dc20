import Jrok.Db.Models

/-!
# SQL statements

One constructor for each statement of `db/mod.rs`, with the values bound to its numbered
placeholders, and what the statement does to the tables. A statement is atomic and either
succeeds or is rejected without effect. `register_server`, `register_agent` and `create_tunnel`
bind values past their last placeholder; those values are unused.

Two things are left to the `Backend`. The columns of `agents` that carry a PRIMARY KEY or UNIQUE
constraint decide whether `ON CONFLICT(subdomain)` is accepted; `Backend.migrated` has those of
`migrations/001_init.sql`.

The driver also enforces the foreign keys of the schema. A refusal for their sake is not made here:
it is one of the failures that a statement may meet with, and `Db.ForeignKeys` says when it comes.
-/

namespace Jrok

/-- The columns of `agents` that could be a key. -/
inductive AgentsColumn where
  | id
  | subdomain
  deriving DecidableEq, Repr

/-- What the database engine and its driver contribute: the key columns of `agents`, and what
    `row.get::<String>` gives on a NULL column (`none`: an error). -/
structure Backend where
  agentsKeys : List AgentsColumn
  textOfNull : Option String

/-- The keys of `migrations/001_init.sql` and the driver's rule that NULL is no `String`. -/
def Backend.migrated : Backend where
  agentsKeys := [.id]
  textOfNull := none

/-- The backend that the upsert of `register_agent` is written for. -/
def Backend.keyed (textOfNull : Option String) : Backend where
  agentsKeys := [.id, .subdomain]
  textOfNull := textOfNull

inductive Sql where
  | registerServer (id httpHost tcpHost : String) (now : Int)
  | sendHeartbeat (now : Int) (serverId : String)
  | markStaleServers (cutoff : Int)
  | deactivateAgentsOfUnhealthyServers
  | markServerUnhealthy (serverId : String)
  | getServer (serverId : String)
  | getClusterState
  | becomeLeader (serverId : String) (term now staleBefore : Int)
  | renewLeadership (now : Int) (serverId : String)
  | createApiKey (key : ApiKey)
  | validateApiKey (keyHash : String)
  | listApiKeys
  | deleteApiKey (id : String)
  | getAgentServer (subdomain : String)
  | getAgentBySubdomain (subdomain : String)
  | getAgentById (id : String)
  | registerAgent (row : AgentRow)
  | unregisterAgent (now : Int) (id : String)
  | unregisterAllAgents (now : Int) (serverId : String)
  | sendAgentHeartbeat (now : Int) (id : String)
  | cleanupStaleAgents (serverId : String) (cutoff : Int)
  | createTunnel (row : TunnelRow)
  | getTunnelBySubdomain (subdomain : String)
  | allocateTcpPort (row : TcpPortRow)
  | deallocateTcpPort (port : Int)
  deriving DecidableEq, Repr

/-- The answer to a statement: the first row of a query, or the number of rows changed. -/
@[reducible] def Sql.Res : Sql → Type
  | .getServer _ => Option Server
  | .getClusterState => Option ClusterState
  | .validateApiKey _ => Option String
  | .listApiKeys => List ApiKey
  | .getAgentServer _ => Option String
  | .getAgentBySubdomain _ => Option AgentRow
  | .getAgentById _ => Option AgentRow
  | .getTunnelBySubdomain _ => Option TunnelRow
  | _ => Nat

/-- `ORDER BY connected_at DESC LIMIT 1`. -/
def latestAgent (rows : List AgentRow) : Option AgentRow := rows.maxOn? (·.connectedAt)

/-- The rows `WHERE subdomain = ?1 AND active = 1`. -/
def activeAgentsOf (agents : List AgentRow) (subdomain : String) : List AgentRow :=
  agents.filter fun r => r.subdomain = subdomain && r.active

/-- The upsert of `register_agent`. `row` is the row of its VALUES clause (`excluded`); on a
    conflict the existing row keeps its id and takes every other column from `row`. The conflict
    target is looked at before the other keys. -/
def Database.registerAgent (B : Backend) (db : Database) (row : AgentRow) :
    Except DbError Nat × Database :=
  if .subdomain ∉ B.agentsKeys then (.error .conflictTarget, db)
  else if db.agents.rows.any fun r => r.subdomain = row.subdomain then
    (.ok (db.agents.countWhere fun r => r.subdomain = row.subdomain),
      { db with
        agents := db.agents.updateWhere (fun r => r.subdomain = row.subdomain) fun r =>
          { r with
            serverId := row.serverId
            tunnelId := row.tunnelId
            localPort := row.localPort
            localHost := row.localHost
            protocol := row.protocol
            connectionToken := row.connectionToken
            connectedAt := row.connectedAt
            lastHeartbeat := row.lastHeartbeat
            active := true } })
  else
    match db.agents.insert? row with
    | some t => (.ok 1, { db with agents := t })
    | none => (.error .constraint, db)

/-- The upsert of `create_tunnel`; `tunnels.subdomain` is UNIQUE and, as the conflict target, looked
    at before the id. -/
def Database.createTunnel (db : Database) (row : TunnelRow) : Except DbError Nat × Database :=
  if db.tunnels.rows.any fun r => r.subdomain = row.subdomain then
    (.ok 1, { db with
      tunnels := db.tunnels.updateWhere (fun r => r.subdomain = row.subdomain) fun r =>
        { r with
          protocol := row.protocol
          tcpPort := row.tcpPort
          updatedAt := row.updatedAt
          active := true } })
  else
    match db.tunnels.insert? row with
    | some t => (.ok 1, { db with tunnels := t })
    | none => (.error .constraint, db)

/-- `UPDATE agents SET .. WHERE p`. -/
def Database.updateAgents (db : Database) (p : AgentRow → Bool) (f : AgentRow → AgentRow)
    (hf : ∀ r, (f r).id = r.id := by intro r; rfl) : Except DbError Nat × Database :=
  (.ok (db.agents.countWhere p), { db with agents := db.agents.updateWhere p f hf })

/-- `UPDATE servers SET .. WHERE p`. -/
def Database.updateServers (db : Database) (p : Server → Bool) (f : Server → Server)
    (hf : ∀ r, (f r).id = r.id := by intro r; rfl) : Except DbError Nat × Database :=
  (.ok (db.servers.countWhere p), { db with servers := db.servers.updateWhere p f hf })

/-- `server_id IN (SELECT id FROM servers WHERE is_healthy = 0)`. -/
def Database.onUnhealthyServer (db : Database) (r : AgentRow) : Bool :=
  db.servers.rows.any fun s => s.id = r.serverId && !s.isHealthy

/-- What a statement answers and does. -/
def Sql.exec (B : Backend) : (q : Sql) → Database → Except DbError q.Res × Database
  | .registerServer id httpHost tcpHost now, db =>
    match db.servers.insert? ⟨id, httpHost, tcpHost, now, now, true⟩ with
    | some t => (.ok 1, { db with servers := t })
    | none => db.updateServers (fun s => s.id = id) fun s =>
        { s with lastHeartbeat := now, isHealthy := true }
  | .sendHeartbeat now serverId, db =>
    db.updateServers (fun s => s.id = serverId) fun s => { s with lastHeartbeat := now }
  | .markStaleServers cutoff, db =>
    db.updateServers (fun s => s.lastHeartbeat < cutoff && s.isHealthy) fun s =>
      { s with isHealthy := false }
  | .deactivateAgentsOfUnhealthyServers, db =>
    db.updateAgents (fun r => db.onUnhealthyServer r && r.active) fun r =>
      { r with active := false }
  | .markServerUnhealthy serverId, db =>
    db.updateServers (fun s => s.id = serverId) fun s => { s with isHealthy := false }
  | .getServer serverId, db => (.ok (db.servers.find? serverId), db)
  | .getClusterState, db => (.ok db.clusterState, db)
  | .becomeLeader serverId term now staleBefore, db =>
    match db.clusterState with
    | some row =>
      if row.leaderId = none ∨ row.lastHeartbeat < staleBefore then
        (.ok 1, { db with clusterState := some ⟨some serverId, term, now⟩ })
      else (.ok 0, db)
    | none => (.ok 0, db)
  | .renewLeadership now serverId, db =>
    match db.clusterState with
    | some row =>
      if row.leaderId = some serverId then
        (.ok 1, { db with clusterState := some { row with lastHeartbeat := now } })
      else (.ok 0, db)
    | none => (.ok 0, db)
  | .createApiKey key, db =>
    if db.apiKeys.rows.any fun k => k.keyHash = key.keyHash then (.error .constraint, db)
    else
      match db.apiKeys.insert? key with
      | some t => (.ok 1, { db with apiKeys := t })
      | none => (.error .constraint, db)
  | .validateApiKey keyHash, db =>
    (.ok ((db.apiKeys.rows.find? fun k => k.keyHash = keyHash).map (·.id)), db)
  | .listApiKeys, db => (.ok (db.apiKeys.rows.mergeSort fun a b => b.createdAt ≤ a.createdAt), db)
  | .deleteApiKey id, db =>
    (.ok (db.apiKeys.countWhere fun k => k.id = id),
      { db with apiKeys := db.apiKeys.deleteWhere fun k => k.id = id })
  | .getAgentServer subdomain, db =>
    (.ok ((latestAgent (activeAgentsOf db.agents.rows subdomain)).map (·.serverId)), db)
  | .getAgentBySubdomain subdomain, db =>
    (.ok (latestAgent (activeAgentsOf db.agents.rows subdomain)), db)
  | .getAgentById id, db => (.ok (db.agents.find? id), db)
  | .registerAgent row, db => db.registerAgent B row
  | .unregisterAgent now id, db =>
    db.updateAgents (fun r => r.id = id) fun r => { r with active := false, lastHeartbeat := now }
  | .unregisterAllAgents now serverId, db =>
    db.updateAgents (fun r => r.serverId = serverId) fun r =>
      { r with active := false, lastHeartbeat := now }
  | .sendAgentHeartbeat now id, db =>
    db.updateAgents (fun r => r.id = id) fun r => { r with lastHeartbeat := now }
  | .cleanupStaleAgents serverId cutoff, db =>
    db.updateAgents (fun r => r.serverId = serverId && r.lastHeartbeat < cutoff && r.active)
      fun r => { r with active := false }
  | .createTunnel row, db => db.createTunnel row
  | .getTunnelBySubdomain subdomain, db =>
    (.ok (db.tunnels.rows.find? fun r => r.subdomain = subdomain), db)
  | .allocateTcpPort row, db =>
    match db.tcpPorts.insert? row with
    | some t => (.ok 1, { db with tcpPorts := t })
    | none => (.error .constraint, db)
  | .deallocateTcpPort port, db =>
    (.ok (db.tcpPorts.countWhere fun r => r.port = port),
      { db with tcpPorts := db.tcpPorts.deleteWhere fun r => r.port = port })

/-! ## The leader row -/

/-- The server that `cluster_state` names. -/
def Database.leader (db : Database) : Option String := db.clusterState.bind (·.leaderId)

/-- The `last_heartbeat` of `cluster_state`. -/
def Database.leaderStamp (db : Database) : Int := (db.clusterState.map (·.lastHeartbeat)).getD 0

theorem Database.leader_congr {db db' : Database} (h : db'.clusterState = db.clusterState) :
    db'.leader = db.leader := by
  rw [leader, leader, h]

theorem Database.leaderStamp_congr {db db' : Database}
    (h : db'.clusterState = db.clusterState) : db'.leaderStamp = db.leaderStamp := by
  rw [leaderStamp, leaderStamp, h]

/-- The conditional UPDATE of `become_leader` changes no row, or there is a row without leader
    or with an old stamp and it is overwritten. -/
theorem Sql.exec_becomeLeader (B : Backend) (db : Database) (s : String) (term n old : Int) :
    (Sql.becomeLeader s term n old).exec B db = (.ok 0, db) ∨
    (∃ row, db.clusterState = some row ∧ (row.leaderId = none ∨ row.lastHeartbeat < old) ∧
      (Sql.becomeLeader s term n old).exec B db =
        (.ok 1, { db with clusterState := some ⟨some s, term, n⟩ })) := by
  cases h : db.clusterState with
  | none => exact .inl (by simp [exec, h])
  | some row =>
    by_cases hfree : row.leaderId = none ∨ row.lastHeartbeat < old
    · exact .inr ⟨row, rfl, hfree, by simp [exec, h, hfree]⟩
    · exact .inl (by simp [exec, h, hfree])

/-- The UPDATE of `renew_leadership` changes no row, or the row names `s` and gets the stamp. -/
theorem Sql.exec_renewLeadership (B : Backend) (db : Database) (s : String) (n : Int) :
    (Sql.renewLeadership n s).exec B db = (.ok 0, db) ∨
    (∃ row, db.clusterState = some row ∧ row.leaderId = some s ∧
      (Sql.renewLeadership n s).exec B db =
        (.ok 1, { db with clusterState := some { row with lastHeartbeat := n } })) := by
  cases h : db.clusterState with
  | none => exact .inl (by simp [exec, h])
  | some row =>
    by_cases hs : row.leaderId = some s
    · exact .inr ⟨row, rfl, hs, by simp [exec, h, hs]⟩
    · exact .inl (by simp [exec, h, hs])

/-! ## The upsert of `register_agent` -/

/-- The upsert is rejected without effect; or it overwrites the rows of its subdomain but for
    their ids; or it inserts its row under an id and a subdomain that no row has. -/
theorem Sql.exec_registerAgent (B : Backend) (db : Database) (row : AgentRow) :
    (∃ e, (Sql.registerAgent row).exec B db = (.error e, db)) ∨
    (∃ n, ((Sql.registerAgent row).exec B db).1 = .ok n ∧
      (∃ r ∈ db.agents, r.subdomain = row.subdomain) ∧
      ∀ r', r' ∈ ((Sql.registerAgent row).exec B db).2.agents ↔ ∃ r ∈ db.agents,
        (if r.subdomain = row.subdomain then
          { row with id := r.id, subdomain := r.subdomain, active := true } else r) = r') ∨
    (((Sql.registerAgent row).exec B db).1 = .ok 1 ∧
      (∀ r ∈ db.agents, r.id ≠ row.id ∧ r.subdomain ≠ row.subdomain) ∧
      ∀ r', r' ∈ ((Sql.registerAgent row).exec B db).2.agents ↔ r' ∈ db.agents ∨ r' = row) := by
  by_cases hkey : AgentsColumn.subdomain ∈ B.agentsKeys
  swap
  · exact .inl ⟨.conflictTarget, by simp only [exec, Database.registerAgent, if_pos hkey]⟩
  cases hsub : db.agents.rows.any fun r => r.subdomain = row.subdomain with
  | true =>
    obtain ⟨r, hr, hrsub⟩ := List.any_eq_true.mp hsub
    refine .inr (.inl ⟨db.agents.countWhere fun r => r.subdomain = row.subdomain, ?_,
      ⟨r, hr, by simpa using hrsub⟩, fun r' => ?_⟩)
    · simp only [exec, Database.registerAgent, hkey, hsub, not_true, if_false, if_true]
    · simp only [exec, Database.registerAgent, hkey, hsub, not_true, if_false, if_true]
      exact (Relational.Table.mem_updateWhere (by intro; rfl)).trans (by simp)
  | false =>
    have hnone : ∀ r ∈ db.agents, r.subdomain ≠ row.subdomain := by
      intro r hr
      simpa using List.any_eq_false.mp hsub r hr
    cases hins : db.agents.insert? row with
    | none =>
      exact .inl ⟨.constraint, by
        simp only [exec, Database.registerAgent, hkey, hsub, hins, not_true, if_false,
          Bool.false_eq_true]⟩
    | some t =>
      refine .inr (.inr ⟨?_, fun r hr => ⟨fun hrid => ?_, hnone r hr⟩, fun r' => ?_⟩)
      · simp only [exec, Database.registerAgent, hkey, hsub, hins, not_true, if_false,
          Bool.false_eq_true]
      · cases hins.symm.trans (Relational.Table.insert?_eq_none_iff.mpr ⟨r, hr, hrid⟩)
      · simp only [exec, Database.registerAgent, hkey, hsub, hins, not_true, if_false,
          Bool.false_eq_true]
        exact Relational.Table.mem_insert? hins r'

/-! ## What the other statements do to the rows of agents and servers -/

/-- Every statement but the upsert leaves each agent's row in its place, under its id, subdomain
    and server, and none becomes active. -/
theorem Sql.exec_agents (B : Backend) (db : Database) {q : Sql}
    (hq : ∀ row, q ≠ .registerAgent row) :
    ∃ f : AgentRow → AgentRow,
      (∀ r, (f r).id = r.id ∧ (f r).subdomain = r.subdomain ∧ (f r).serverId = r.serverId ∧
        ((f r).active = true → r.active = true)) ∧
      (q.exec B db).2.agents.rows = db.agents.rows.map f := by
  have hid : ∃ f : AgentRow → AgentRow,
      (∀ r, (f r).id = r.id ∧ (f r).subdomain = r.subdomain ∧ (f r).serverId = r.serverId ∧
        ((f r).active = true → r.active = true)) ∧
      db.agents.rows = db.agents.rows.map f :=
    ⟨id, fun _ => ⟨rfl, rfl, rfl, fun h => h⟩, (List.map_id _).symm⟩
  have hupdate : ∀ (p : AgentRow → Bool) (f : AgentRow → AgentRow) (hf : ∀ r, (f r).id = r.id),
      (∀ r, (f r).subdomain = r.subdomain ∧ (f r).serverId = r.serverId ∧
        ((f r).active = true → r.active = true)) →
      ∃ g : AgentRow → AgentRow,
        (∀ r, (g r).id = r.id ∧ (g r).subdomain = r.subdomain ∧ (g r).serverId = r.serverId ∧
          ((g r).active = true → r.active = true)) ∧
        (db.updateAgents p f hf).2.agents.rows = db.agents.rows.map g := by
    intro p f hf hkeep
    refine ⟨fun r => if p r then f r else r, fun r => ?_, rfl⟩
    dsimp only
    split
    · exact ⟨hf r, hkeep r⟩
    · exact ⟨rfl, rfl, rfl, fun h => h⟩
  cases q with
  | registerAgent row => exact absurd rfl (hq row)
  | deactivateAgentsOfUnhealthyServers | unregisterAgent | unregisterAllAgents |
      sendAgentHeartbeat | cleanupStaleAgents =>
    exact hupdate _ _ _ fun _ => ⟨rfl, rfl, by simp⟩
  | _ =>
    simp only [exec, Database.createTunnel, Database.updateServers]
    repeat' split
    all_goals exact hid

/-- Every statement but `register_server` leaves each server's row in its place, and none becomes
    healthy. -/
theorem Sql.exec_servers (B : Backend) (db : Database) {q : Sql}
    (hq : ∀ id httpHost tcpHost now, q ≠ .registerServer id httpHost tcpHost now) :
    ∃ f : Server → Server,
      (∀ s, (f s).id = s.id ∧ ((f s).isHealthy = true → s.isHealthy = true)) ∧
      (q.exec B db).2.servers.rows = db.servers.rows.map f := by
  have hid : ∃ f : Server → Server,
      (∀ s, (f s).id = s.id ∧ ((f s).isHealthy = true → s.isHealthy = true)) ∧
      db.servers.rows = db.servers.rows.map f :=
    ⟨id, fun _ => ⟨rfl, fun h => h⟩, (List.map_id _).symm⟩
  have hupdate : ∀ (p : Server → Bool) (f : Server → Server) (hf : ∀ s, (f s).id = s.id),
      (∀ s, (f s).isHealthy = true → s.isHealthy = true) →
      ∃ g : Server → Server,
        (∀ s, (g s).id = s.id ∧ ((g s).isHealthy = true → s.isHealthy = true)) ∧
        (db.updateServers p f hf).2.servers.rows = db.servers.rows.map g := by
    intro p f hf hkeep
    refine ⟨fun s => if p s then f s else s, fun s => ?_, rfl⟩
    dsimp only
    split
    · exact ⟨hf s, hkeep s⟩
    · exact ⟨rfl, fun h => h⟩
  cases q with
  | registerServer id httpHost tcpHost now => exact absurd rfl (hq id httpHost tcpHost now)
  | sendHeartbeat | markStaleServers | markServerUnhealthy => exact hupdate _ _ _ fun _ => by simp
  | _ =>
    simp only [exec, Database.createTunnel, Database.updateAgents, Database.registerAgent]
    repeat' split
    all_goals exact hid

end Jrok
