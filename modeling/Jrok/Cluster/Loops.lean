import Jrok.Agent.Registry

/-!
# The loops of a cluster member

`Cluster` of `cluster/mod.rs`: registration at start, one tick of the heartbeat loop with its
leader election, one of the cleanup loop, and shutdown. The tick of a loop is one program; the pool
starts the next one when it is idle again.
-/

namespace Jrok

open Concurrency

/-- The settings of `Config` that the modelled functions read, with the defaults of
    `from_env`. -/
structure ServerConfig where
  serverId : String
  httpHost : String
  tcpHost : String
  leaderTimeoutMs : UInt64 := 15000
  agentTimeoutMs : UInt64 := 30000

namespace Cluster

variable (config : ServerConfig)

def registerServer : Call Unit :=
  Db.registerServer config.serverId config.httpHost config.tcpHost

/-- `is_leader.store(b)`. -/
def storeLeader (b : Bool) : ServerProg Unit := critical config.serverId (.storeLeader b)

/-- The term that `try_become_leader` asks for after its read of `cluster_state`. -/
def newTerm : Except Error (Option ClusterState) → Int
  | .ok (some state) => addI64 state.leaderTerm 1
  | _ => 1

/-- `match r { Ok(true) => true, _ => false }`. -/
def isOkTrue : Except Error Bool → Bool
  | .ok b => b
  | .error _ => false

def tryBecomeLeader (now : Int) : ServerProg Bool := do
  let newTerm := newTerm (← Db.getClusterState.run)
  return isOkTrue (← (Db.becomeLeader config.serverId newTerm now).run)

def renewLeadership (now : Int) : ServerProg Bool := do
  return isOkTrue (← (Db.renewLeadership config.serverId now).run)

/-- The test `leader_expired` of the heartbeat loop. -/
def leaderExpired (now lastHeartbeat : Int) : Bool :=
  decide (u64AsI64 config.leaderTimeoutMs < subI64 now lastHeartbeat)

/-- The branch that runs for leadership. -/
def campaign (now : Int) : ServerProg Unit := do
  if ← tryBecomeLeader config now then storeLeader config true

/-- The branch of the leader the row names. -/
def hold (now : Int) : ServerProg Unit := do
  if ← renewLeadership config now then storeLeader config true
  else storeLeader config false

/-- What the heartbeat loop does with the answer to its read of `cluster_state`. -/
def elect (now : Int) : Except Error (Option ClusterState) → ServerProg Unit
  | .ok (some state) =>
    if state.leaderId = none ∨ leaderExpired config now state.lastHeartbeat = true then
      campaign config now
    else if state.leaderId = some config.serverId then hold config now
    else storeLeader config false
  | .ok none => campaign config now
  | .error _ => return ()

/-- One iteration of `heartbeat_loop`. -/
def heartbeatTick : ServerProg Unit := do
  match ← (Db.sendHeartbeat config.serverId).run with
  | .error _ => return ()
  | .ok _ =>
    let now ← currentTimeMs
    elect config now (← Db.getClusterState.run)

/-- One iteration of `cleanup_loop`, less the count that it logs. Errors are logged, and the next
    call is made. -/
def cleanupTick : ServerProg Unit := do
  let _ ← (Db.markServersUnhealthy config.leaderTimeoutMs).run
  let _ ← (AgentRegistry.cleanupStale config.serverId (u64AsI64 config.agentTimeoutMs)).run
  let _ ← (Db.cleanupStaleAgents config.serverId config.agentTimeoutMs).run

def shutdown : Call Unit := do
  Db.markServerUnhealthy config.serverId
  Db.unregisterAllAgents config.serverId

/-! ## Programs as trees -/

/-- The two statements of `try_become_leader`, and the store that follows a success. -/
theorem campaign_eq (now : Int) :
    campaign config now = .op (.sql .getClusterState) fun r =>
      .op (.sql (.becomeLeader config.serverId
          (newTerm ((r.mapError .database).map fun row => row.map ClusterState.decode)) now
          (subI64 now 15000))) fun r =>
        if isOkTrue ((r.mapError .database).map fun n : Nat => decide (0 < n))
        then storeLeader config true else .ret () := by
  simp only [campaign, tryBecomeLeader, Db.run_getClusterState, Db.run_becomeLeader, Prog.op_bind,
    Prog.ret_bind, Prog.pure_eq_ret]

theorem hold_eq (now : Int) :
    hold config now = .op (.sql (.renewLeadership now config.serverId)) fun r =>
      if isOkTrue ((r.mapError .database).map fun n : Nat => decide (0 < n))
      then storeLeader config true else storeLeader config false := by
  simp only [hold, renewLeadership, Db.run_renewLeadership, Prog.op_bind, Prog.ret_bind,
    Prog.pure_eq_ret]

/-- The four operations before the decision of a tick. -/
theorem heartbeatTick_eq :
    heartbeatTick config = .op .now fun beat =>
      .op (.sql (.sendHeartbeat beat config.serverId)) fun
        | .error _ => .ret ()
        | .ok _ => .op .now fun now =>
          .op (.sql .getClusterState) fun r =>
            elect config now
              ((r.mapError .database).map fun row => row.map ClusterState.decode) := by
  simp only [heartbeatTick, Db.sendHeartbeat, run_executeAt, Db.run_getClusterState, Prog.op_bind,
    Prog.ret_bind, currentTimeMs]
  refine congrArg (Prog.op _) (funext fun beat => congrArg (Prog.op _) (funext fun r => ?_))
  cases r <;> rfl

end Cluster

/-! ## The fleet -/

/-- The configuration of every server; each runs under its own id. -/
structure Fleet where
  config : String → ServerConfig
  serverId_eq : ∀ s, (config s).serverId = s

/-- Servers with the default timeouts behind one pair of host names. -/
def Fleet.behind (httpHost tcpHost : String) : Fleet where
  config s := { serverId := s, httpHost := httpHost, tcpHost := tcpHost }
  serverId_eq _ := rfl

/-- Every server of the fleet runs its heartbeat loop against one database. -/
def Fleet.heartbeats (F : Fleet) (B : Backend) (faulty : Bool) :
    System serverSig String Unit Unit World Choice where
  handler _ := World.handler B faulty
  body s _ _ := some (Cluster.heartbeatTick (F.config s))

/-- All servers are between two ticks. -/
def Idle {σ : Type} (c : Config serverSig String Unit σ) : Prop := ∀ s, c.task s = .idle ()

/-- A fleet between two ticks in the given state. -/
def Fleet.idle {σ : Type} (s : σ) : Config serverSig String Unit σ := ⟨s, fun _ => .idle ()⟩

end Jrok
