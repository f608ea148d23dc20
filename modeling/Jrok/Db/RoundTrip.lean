import Jrok.Db.Calls

/-!
# Storing an agent and loading it back

`register_agent` followed by `get_agent_by_subdomain` and `get_agent_by_id`. The upsert names
`subdomain` as its conflict target, which is no key of the migrated `agents` table, so that the
engine rejects it and no agent is ever stored.
-/

namespace Jrok

open Concurrency

namespace RoundTrip

/-- Register the agent, then look it up by its subdomain and by its id. -/
def storeAndLoad (B : Backend) (a : Agent) :
    ServerProg (Except Error Unit × Except Error (Option Agent) × Except Error (Option Agent)) := do
  let stored ← (Db.registerAgent a).run
  let bySubdomain ← (Db.getAgentBySubdomain B a.subdomain).run
  let byId ← (Db.getAgentById B a.id).run
  return (stored, bySubdomain, byId)

/-- `b` is the agent that was stored as `a`: the heartbeat is set by the database call, and a
    stored agent is active. -/
structure SameAgent (a b : Agent) : Prop where
  id : b.id = a.id
  subdomain : b.subdomain = a.subdomain
  serverId : b.serverId = a.serverId
  tunnelId : b.tunnelId = a.tunnelId
  localPort : b.localPort = a.localPort
  localHost : b.localHost = a.localHost
  protocol : b.protocol = a.protocol
  connectionToken : b.connectionToken = a.connectionToken
  connectedAt : b.connectedAt = a.connectedAt
  active : b.active = true

/-- Storing succeeded and both lookups found the agent. -/
def Loaded (a : Agent)
    (r : Except Error Unit × Except Error (Option Agent) × Except Error (Option Agent)) : Prop :=
  r.1 = .ok () ∧ (∃ b, r.2.1 = .ok (some b) ∧ SameAgent a b) ∧
    ∃ b, r.2.2 = .ok (some b) ∧ SameAgent a b

/-- Without a key on `subdomain` the upsert is rejected and changes nothing. -/
theorem registerAgent_rejected {B : Backend} (hB : AgentsColumn.subdomain ∉ B.agentsKeys)
    (db : Database) (row : AgentRow) :
    (Sql.registerAgent row).exec B db = (.error .conflictTarget, db) := by
  simp only [Sql.exec, Database.registerAgent, if_pos hB]

/-- On the migrated schema `register_agent` returns an error and leaves the database alone. -/
theorem registerAgent_err {faulty : Bool} {a : Agent} {cs : List Choice} {w w' : World}
    {r : Except Error Unit}
    (h : (Db.registerAgent a).run.play (World.handler .migrated faulty) cs w = some (r, w')) :
    (∃ e, r = .error (.database e)) ∧ w'.db = w.db := by
  rw [Db.registerAgent, run_executeAt] at h
  obtain ⟨c, rest, now, w₁, -, hnow, h⟩ := Prog.play_op_iff.mp h
  obtain ⟨-, -, -, rfl⟩ := World.exec_now.mp hnow
  obtain ⟨c, rest, r', w₂, -, hsql, h⟩ := Prog.play_op_iff.mp h
  obtain ⟨-, rfl, rfl⟩ := Prog.play_ret_iff.mp h
  rcases World.exec_sql.mp hsql with ⟨-, rfl, rfl⟩ | ⟨e, -, -, rfl, rfl⟩
  · rw [registerAgent_rejected (by decide)]
    exact ⟨⟨.conflictTarget, rfl⟩, rfl⟩
  · exact ⟨⟨e, rfl⟩, rfl⟩

/-- On the migrated schema no agent is ever stored and loaded back, whatever the tables hold. -/
theorem never_loaded {faulty : Bool} {a : Agent} {cs : List Choice} {w w' : World}
    {r : Except Error Unit × Except Error (Option Agent) × Except Error (Option Agent)}
    (h : (storeAndLoad .migrated a).play (World.handler .migrated faulty) cs w = some (r, w')) :
    ¬ Loaded a r := by
  rintro ⟨hstored, -, -⟩
  obtain ⟨cs₁, cs₂, stored, w₁, -, hregister, h⟩ := Prog.play_bind_iff.mp h
  obtain ⟨⟨e, rfl⟩, -⟩ := registerAgent_err hregister
  obtain ⟨_, _, bySubdomain, w₂, -, -, h⟩ := Prog.play_bind_iff.mp h
  obtain ⟨_, _, byId, w₃, -, -, h⟩ := Prog.play_bind_iff.mp h
  obtain ⟨-, rfl, -⟩ := Prog.play_ret_iff.mp h
  simp at hstored

/-- An agent on an empty database. -/
def exampleAgent : Agent where
  id := "id"
  subdomain := "demo"
  serverId := "a"
  tunnelId := none
  localPort := 8080
  localHost := "localhost"
  protocol := .http
  connectionToken := "token"
  connectedAt := 1000
  lastHeartbeat := 1000
  active := true

theorem never_loaded_on_boot :
    ∃ r w', (storeAndLoad .migrated exampleAgent).play (World.handler .migrated false)
      [.read 1000, .go, .go, .go] .boot = some (r, w') ∧ ¬ Loaded exampleAgent r := by
  have hrun : ∃ r w', (storeAndLoad .migrated exampleAgent).play (World.handler .migrated false)
      [.read 1000, .go, .go, .go] .boot = some (r, w') := ⟨_, _, rfl⟩
  obtain ⟨r, w', h⟩ := hrun
  exact ⟨r, w', h, never_loaded h⟩

/-- Right after the migration: the registration is rejected and both lookups find nothing. -/
theorem register_rejected_on_boot :
    ∃ r w', (storeAndLoad .migrated exampleAgent).play (World.handler .migrated false)
      [.read 1000, .go, .go, .go] .boot = some (r, w') ∧
      r = (.error (.database .conflictTarget), .ok none, .ok none) ∧ ¬ Loaded exampleAgent r := by
  refine ⟨_, _, rfl, rfl, ?_⟩
  rintro ⟨hstored, -, -⟩
  simp at hstored

end RoundTrip

end Jrok
