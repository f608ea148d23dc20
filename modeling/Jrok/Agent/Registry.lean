import Jrok.Db.Calls

/-!
# The agent registry

`AgentRegistry` of `agent/registry.rs`. Each method is a program of the server `me`: the two
maps and the channels are reached through critical sections, the tables through `Db`.

The source keeps the write guard of the map over the database call of `unregister`, and the read
guard over a send that waits. Here other tasks may reach the map in between, so that the runs of
the model include those of the source.
-/

namespace Jrok

open Concurrency

namespace AgentRegistry

variable (B : Backend) (me : String)

/-! ## Registration -/

/-- The first half of `register`: an active agent of another healthy server keeps the
    subdomain. -/
def checkOwner (subdomain : String) : Call Unit := do
  match ← Db.getAgentBySubdomain B subdomain with
  | some agent =>
    if agent.serverId ≠ me then
      match ← Db.getServer agent.serverId with
      | some server =>
        if server.isHealthy then
          throw (.subdomainTaken
            ("Subdomain " ++ subdomain ++ " is on server " ++ agent.serverId))
      | none => pure ()
  | none => pure ()

/-- What `register` does with its identifiers and its sender. -/
def registerWith (agentId connectionToken : String) (tx : Nat) (subdomain : String)
    (localPort : UInt16) (localHost : String) (protocol : Protocol) : Call (String × Nat) := do
  checkOwner B me subdomain
  let connectedAt ← currentTimeMs
  let lastHeartbeat ← currentTimeMs
  Db.registerAgent
    { id := agentId
      subdomain := subdomain
      serverId := me
      tunnelId := none
      localPort := localPort
      localHost := localHost
      protocol := protocol
      connectionToken := connectionToken
      connectedAt := connectedAt
      lastHeartbeat := lastHeartbeat
      active := true }
  let now ← currentTimeMs
  critical me (.agentsInsert agentId
    { tx := tx
      subdomain := subdomain
      localPort := localPort
      localHost := localHost
      protocol := protocol
      lastHeartbeat := now })
  return (agentId, tx)

/-- `register`. The receiver `_rx` lives until the function returns, with `Ok` or with `Err`. -/
def register (subdomain : String) (localPort : UInt16) (localHost : String)
    (protocol : Protocol) : ServerProg (Except Error (String × Nat)) := do
  let agentId ← newUuid
  let connectionToken ← newUuid
  let tx ← critical me .channel
  let result ← (registerWith B me agentId connectionToken tx subdomain localPort localHost
    protocol).run
  critical me (.dropReceiver tx)
  return result

/-! ## The other methods on agents -/

def unregister (agentId : String) : Call Unit := do
  match ← critical me (.agentsRemove agentId) with
  | some _ => Db.unregisterAgent agentId
  | none => pure ()

/-- The loop of `get_by_subdomain` over the entries of the map. -/
def findBySubdomain (subdomain : String) (entries : List (Σ _ : String, AgentState)) :
    Option (String × AgentState) :=
  (entries.find? fun e => e.2.subdomain = subdomain).map fun e => (e.1, e.2)

def getBySubdomain (subdomain : String) : ServerProg (Option (String × AgentState)) := do
  let entries ← critical me .agentsIter
  return findBySubdomain subdomain entries

def getAgentServer (subdomain : String) : Call (Option String) := do
  match ← Db.getAgentBySubdomain B subdomain with
  | some agent => if agent.active then return some agent.serverId else return none
  | none => return none

def updateHeartbeat (agentId : String) : Call Unit := do
  let _ ← critical me (.agentsGetMut agentId)
  Db.sendAgentHeartbeat agentId

def sendMessage (agentId : String) (message : Message) : Call Unit := do
  match ← critical me (.agentsSend agentId message) with
  | some true => pure ()
  | some false => throw (.internal "Failed to send message: channel closed")
  | none => throw (.agentNotFound agentId)

/-- The loop of `cleanup_stale` over the stale ids. -/
def unregisterAll : List String → Call Unit
  | [] => pure ()
  | id :: rest => do
    unregister me id
    unregisterAll rest

/-- The ids that `cleanup_stale` collects from the map. -/
def staleIds (cutoff : Int) (entries : List (Σ _ : String, AgentState)) : List String :=
  (entries.filter fun e => e.2.lastHeartbeat < cutoff).map (·.1)

def cleanupStale (timeoutMs : Int) : Call Unit := do
  let now ← currentTimeMs
  let cutoff := subI64 now timeoutMs
  let entries ← critical me .agentsIter
  unregisterAll me (staleIds cutoff entries)
  let _ ← Db.cleanupStaleAgents me (i64AsU64 timeoutMs)

/-! ## Pending requests -/

def createPendingRequest (requestId : String) : ServerProg Nat :=
  critical me (.pendingInsert requestId)

def removePendingRequest (requestId : String) : ServerProg Unit := do
  let _ ← critical me (.pendingRemove requestId)

def handleResponse (X : Codec) (requestId : String) (status : UInt16)
    (headers : StringMap String) (body : Option String) : ServerProg (Except Error Unit) := do
  let bytes := match body with
    | some b => (X.decode b).getD []
    | none => []
  let _ ← critical me (.respond requestId { status := status, headers := headers, body := bytes })
  return .ok ()

/-! ## Calls -/

/-- A call to one of the methods that change the maps or the tables. -/
inductive RegistryCall where
  | register (subdomain : String) (localPort : UInt16) (localHost : String) (protocol : Protocol)
  | updateHeartbeat (agentId : String)
  | unregister (agentId : String)
  | cleanupStale (timeoutMs : Int)

/-- The program of a call, with the result cut down to `Ok` or `Err`. -/
def RegistryCall.run : RegistryCall → ServerProg (Except Error Unit)
  | .register subdomain localPort localHost protocol => do
    let result ← AgentRegistry.register B me subdomain localPort localHost protocol
    return result.map fun _ => ()
  | .updateHeartbeat agentId => (AgentRegistry.updateHeartbeat me agentId).run
  | .unregister agentId => (AgentRegistry.unregister me agentId).run
  | .cleanupStale timeoutMs => (AgentRegistry.cleanupStale me timeoutMs).run

/-- The registry of server `me` with any number of concurrent calls. -/
def registryPool (B : Backend) (me : String) :
    System serverSig Nat Unit RegistryCall World Choice where
  handler _ := World.handler B false
  body _ _ call := some (call.run B me >>= fun _ => .ret ())

/-! ## Programs as trees -/

section Trees

variable {B me}

theorem unregister_eq (agentId : String) :
    (unregister me agentId).run = .op (.node me (.agentsRemove agentId)) fun
      | some _ => .op .now fun now => .op (.sql (.unregisterAgent now agentId)) fun r =>
        .ret ((r.mapError .database).map fun _ => ())
      | none => .ret (.ok ()) := by
  refine congrArg (Prog.op _) (funext fun st => ?_)
  cases st with
  | some st => exact run_executeAt _
  | none => rfl

theorem updateHeartbeat_eq (agentId : String) :
    (updateHeartbeat me agentId).run = .op (.node me (.agentsGetMut agentId)) fun _ =>
      .op .now fun now => .op (.sql (.sendAgentHeartbeat now agentId)) fun r =>
        .ret ((r.mapError .database).map fun _ => ()) :=
  congrArg (Prog.op _) (funext fun _ => run_executeAt _)

theorem unregisterAll_cons (id : String) (rest : List String) :
    (unregisterAll me (id :: rest)).run = (unregister me id).run >>= fun
      | .ok () => (unregisterAll me rest).run
      | .error e => .ret (.error e) := by
  rw [unregisterAll, ExceptT.run_bind]
  refine congrArg _ (funext fun r => ?_)
  cases r <;> rfl

theorem cleanupStale_eq (timeoutMs : Int) :
    (cleanupStale me timeoutMs).run = .op .now fun now => .op (.node me .agentsIter) fun entries =>
      (unregisterAll me (staleIds (subI64 now timeoutMs) entries)).run >>= fun
        | .ok () => .op .now fun now =>
          .op (.sql (.cleanupStaleAgents me (subI64 now (u64AsI64 (i64AsU64 timeoutMs))))) fun r =>
            .ret ((r.mapError .database).map fun _ => ())
        | .error e => .ret (.error e) := by
  refine congrArg (Prog.op _) (funext fun now => congrArg (Prog.op _) (funext fun entries => ?_))
  refine congrArg ((unregisterAll me _).run >>= ·) (funext fun r => ?_)
  cases r with
  | error e => rfl
  | ok u =>
    refine congrArg (Prog.op _) (funext fun now => congrArg (Prog.op _) (funext fun r => ?_))
    cases r <;> rfl

theorem sendMessage_eq (agentId : String) (message : Message) :
    (sendMessage me agentId message).run = .op (.node me (.agentsSend agentId message)) fun
      | some true => .ret (.ok ())
      | some false => .ret (.error (.internal "Failed to send message: channel closed"))
      | none => .ret (.error (.agentNotFound agentId)) := by
  refine congrArg (Prog.op _) (funext fun r => ?_)
  rcases r with _ | _ | _ <;> rfl

/-- What the three answers of the send become. -/
theorem sendMessage_play {σ : Type} {h : Handler serverSig σ Choice} {agentId : String}
    {message : Message} {cs : List Choice} {r : Except Error Unit} {x x' : σ}
    (hplay : (sendMessage me agentId message).run.play h cs x = some (r, x')) :
    ∃ c sent, h c (.node me (.agentsSend agentId message)) x = some (sent, x') ∧
      (r = .ok () ↔ sent = some true) ∧
      (sent = some false → r = .error (.internal "Failed to send message: channel closed")) := by
  rw [sendMessage_eq] at hplay
  obtain ⟨c, rest, sent, x₁, -, hop, hplay⟩ := Prog.play_op_iff.mp hplay
  rcases sent with _ | _ | _ <;> obtain ⟨-, rfl, rfl⟩ := Prog.play_ret_iff.mp hplay <;>
    exact ⟨c, _, hop, by simp⟩

theorem checkOwner_eq (subdomain : String) :
    (checkOwner B me subdomain).run = .op (.sql (.getAgentBySubdomain subdomain)) fun r =>
      match (r.mapError .database).bind (Db.decodeFirst B) with
      | .error e => .ret (.error e)
      | .ok none => .ret (.ok ())
      | .ok (some agent) =>
        if agent.serverId = me then .ret (.ok ())
        else .op (.sql (.getServer agent.serverId)) fun
          | .error e => .ret (.error (.database e))
          | .ok none => .ret (.ok ())
          | .ok (some server) =>
            if server.isHealthy then
              .ret (.error (.subdomainTaken
                ("Subdomain " ++ subdomain ++ " is on server " ++ agent.serverId)))
            else .ret (.ok ()) := by
  rw [checkOwner, ExceptT.run_bind, Db.run_getAgentBySubdomain]
  refine congrArg (Prog.op _) (funext fun r => ?_)
  dsimp only
  rcases (r.mapError Error.database).bind (Db.decodeFirst B) with e | _ | agent
  · rfl
  · rfl
  · by_cases hme : agent.serverId = me
    · simp only [Prog.bind, hme, ne_eq, not_true_eq_false, if_false, if_true]
      rfl
    · simp only [Prog.bind, hme, ne_eq, not_false_eq_true, if_false, if_true]
      refine congrArg (Prog.op _) (funext fun r => ?_)
      rcases r with e | _ | server
      · rfl
      · rfl
      · obtain ⟨_, _, _, _, _, healthy⟩ := server
        cases healthy <;> rfl

theorem registerWith_eq (agentId connectionToken : String) (tx : Nat) (subdomain : String)
    (localPort : UInt16) (localHost : String) (protocol : Protocol) :
    (registerWith B me agentId connectionToken tx subdomain localPort localHost protocol).run =
      (checkOwner B me subdomain).run >>= fun
        | .ok () => .op .now fun connectedAt => .op .now fun _ => .op .now fun now =>
          .op (.sql (.registerAgent
            { id := agentId, subdomain := subdomain, serverId := me, tunnelId := none,
              localPort := localPort.toNat, localHost := localHost, protocol := protocol.text,
              connectionToken := connectionToken, connectedAt := connectedAt,
              lastHeartbeat := now, active := true })) fun
            | .ok _ => .op .now fun now => .op (.node me (.agentsInsert agentId
                { tx := tx, subdomain := subdomain, localPort := localPort,
                  localHost := localHost, protocol := protocol, lastHeartbeat := now })) fun _ =>
              .ret (.ok (agentId, tx))
            | .error e => .ret (.error (.database e))
        | .error e => .ret (.error e) := by
  refine congrArg ((checkOwner B me subdomain).run >>= ·) (funext fun r => ?_)
  cases r with
  | error e => rfl
  | ok u =>
    refine congrArg (Prog.op _) (funext fun connectedAt => congrArg (Prog.op _) (funext fun _ =>
      congrArg (Prog.op _) (funext fun now => congrArg (Prog.op _) (funext fun r => ?_))))
    cases r <;> rfl

theorem register_eq (subdomain : String) (localPort : UInt16) (localHost : String)
    (protocol : Protocol) :
    register B me subdomain localPort localHost protocol = .op .uuid fun agentId =>
      .op .uuid fun connectionToken => .op (.node me .channel) fun tx =>
        (registerWith B me agentId connectionToken tx subdomain localPort localHost
          protocol).run >>= fun result =>
            .op (.node me (.dropReceiver tx)) fun _ => .ret result := rfl

end Trees

/-- The operations of `checkOwner`. -/
inductive OwnerRead : Op → Prop where
  | agent (subdomain : String) : OwnerRead (.sql (.getAgentBySubdomain subdomain))
  | server (id : String) : OwnerRead (.sql (.getServer id))

theorem OwnerRead.same {B : Backend} {faulty : Bool} {c : Choice} {o : Op} {w w' : World}
    {r : o.Res} (ho : OwnerRead o) (h : World.handler B faulty c o w = some (r, w')) : w' = w := by
  cases ho <;> rcases World.exec_sql.mp h with ⟨-, -, hw⟩ | ⟨e, -, -, -, hw⟩ <;> exact hw

theorem checkOwner_issues (subdomain : String) :
    (checkOwner B me subdomain).run.Issues OwnerRead := by
  unfold checkOwner
  refine Prog.Issues.run_bind ?_ fun existing => ?_
  · rw [Db.run_getAgentBySubdomain]
    exact ⟨.agent subdomain, fun _ => trivial⟩
  · cases existing with
    | none => trivial
    | some agent =>
      dsimp only
      split
      · refine Prog.Issues.run_bind ⟨.server agent.serverId, fun _ => trivial⟩ fun server => ?_
        cases server with
        | none => trivial
        | some server =>
          dsimp only
          split <;> trivial
      · trivial

/-- The operations of the calls other than `register`. -/
inductive UpkeepOp : Op → Prop where
  | now : UpkeepOp .now
  | remove (me id : String) : UpkeepOp (.node me (.agentsRemove id))
  | getMut (me id : String) : UpkeepOp (.node me (.agentsGetMut id))
  | iter (me : String) : UpkeepOp (.node me .agentsIter)
  | unregister (now : Int) (id : String) : UpkeepOp (.sql (.unregisterAgent now id))
  | heartbeat (now : Int) (id : String) : UpkeepOp (.sql (.sendAgentHeartbeat now id))
  | cleanup (serverId : String) (cutoff : Int) :
    UpkeepOp (.sql (.cleanupStaleAgents serverId cutoff))

theorem unregister_issues (id : String) : (unregister me id).run.Issues UpkeepOp := by
  rw [unregister_eq]
  refine ⟨.remove me id, fun st => ?_⟩
  cases st with
  | none => trivial
  | some st => exact ⟨.now, fun now => ⟨.unregister now id, fun _ => trivial⟩⟩

theorem unregisterAll_issues (ids : List String) :
    (unregisterAll me ids).run.Issues UpkeepOp := by
  induction ids with
  | nil => trivial
  | cons id rest ih =>
    rw [unregisterAll_cons]
    apply (unregister_issues me id).bind
    intro r
    cases r with
    | ok u => exact ih
    | error e => trivial

theorem cleanupStale_issues (timeoutMs : Int) :
    (cleanupStale me timeoutMs).run.Issues UpkeepOp := by
  rw [cleanupStale_eq]
  refine ⟨.now, fun now => ⟨.iter me, fun entries => (unregisterAll_issues me _).bind fun r => ?_⟩⟩
  cases r with
  | ok u => exact ⟨.now, fun now => ⟨.cleanup me _, fun _ => trivial⟩⟩
  | error e => trivial

theorem updateHeartbeat_issues (id : String) :
    (updateHeartbeat me id).run.Issues UpkeepOp := by
  rw [updateHeartbeat_eq]
  exact ⟨.getMut me id, fun _ => ⟨.now, fun now => ⟨.heartbeat now id, fun _ => trivial⟩⟩⟩

/-- The operations of `register` once it has its sender. -/
inductive RegisterOp (tx : Nat) : Op → Prop where
  | now : RegisterOp tx .now
  | owner {o : Op} (h : OwnerRead o) : RegisterOp tx o
  | upsert (row : AgentRow) (h : row.active = true) : RegisterOp tx (.sql (.registerAgent row))
  | insert (me id : String) (st : AgentState) (h : st.tx = tx) :
    RegisterOp tx (.node me (.agentsInsert id st))

theorem registerWith_issues (agentId connectionToken : String) (tx : Nat) (subdomain : String)
    (localPort : UInt16) (localHost : String) (protocol : Protocol) :
    (registerWith B me agentId connectionToken tx subdomain localPort localHost
      protocol).run.Issues (RegisterOp tx) := by
  rw [registerWith_eq]
  refine ((checkOwner_issues B me subdomain).mono fun o ho => .owner ho).bind fun r => ?_
  cases r with
  | error e => trivial
  | ok u =>
    refine ⟨.now, fun _ => ⟨.now, fun _ => ⟨.now, fun _ => ⟨.upsert _ rfl, fun r => ?_⟩⟩⟩⟩
    cases r with
    | error e => trivial
    | ok n => exact ⟨.now, fun _ => ⟨.insert me agentId _ rfl, fun _ => trivial⟩⟩

/-! ## Operations that leave the agents alone -/

/-- Neither a row of `agents` nor an entry of a map differs; time and UUIDs may have passed. -/
structure SameAgents (w w' : World) : Prop where
  rows : w'.db.agents = w.db.agents
  map : ∀ me, (w'.node me).agents = (w.node me).agents
  issued : w.issued ⊆ w'.issued
  clock : w.clock ≤ w'.clock

theorem SameAgents.refl (w : World) : SameAgents w w :=
  ⟨rfl, fun _ => rfl, fun _ h => h, le_refl _⟩

theorem SameAgents.trans {w₁ w₂ w₃ : World} (h₁ : SameAgents w₁ w₂) (h₂ : SameAgents w₂ w₃) :
    SameAgents w₁ w₃ where
  rows := h₂.rows.trans h₁.rows
  map me := (h₂.map me).trans (h₁.map me)
  issued := fun _ h => h₂.issued (h₁.issued h)
  clock := le_trans h₁.clock h₂.clock

/-- The operations of the registry that have this effect. -/
inductive AgentsKept : Op → Prop where
  | now : AgentsKept .now
  | uuid : AgentsKept .uuid
  | owner {o : Op} (h : OwnerRead o) : AgentsKept o
  | channel (me : String) : AgentsKept (.node me .channel)
  | dropReceiver (me : String) (c : Nat) : AgentsKept (.node me (.dropReceiver c))
  | iter (me : String) : AgentsKept (.node me .agentsIter)
  | getMut (me id : String) : AgentsKept (.node me (.agentsGetMut id))

theorem AgentsKept.same {B : Backend} {faulty : Bool} {c : Choice} {o : Op} {w w' : World}
    {r : o.Res} (ho : AgentsKept o) (h : World.handler B faulty c o w = some (r, w')) :
    SameAgents w w' := by
  have hmap := World.handler_agents h
  cases ho with
  | now =>
    obtain ⟨-, hlo, -, rfl⟩ := World.exec_now.mp h
    exact ⟨rfl, fun _ => rfl, fun _ h => h, hlo⟩
  | uuid =>
    obtain ⟨-, -, rfl⟩ := World.exec_uuid.mp h
    exact ⟨rfl, fun _ => rfl, fun _ h => List.mem_cons_of_mem _ h, le_refl _⟩
  | owner ho => exact ho.same h ▸ .refl w
  | channel | dropReceiver | iter | getMut =>
    obtain ⟨n', -, rfl⟩ := World.exec_node.mp h
    refine ⟨rfl, fun me => ?_, fun _ h => h, le_refl _⟩
    rw [hmap me]
    simp [Op.onAgents, NodeOp.onAgents]

section MapSteps

variable {B : Backend} {faulty : Bool} {c : Choice} {me id : String} {w w' : World}

theorem insert_step {st : AgentState} {r : Unit}
    (h : World.handler B faulty c (.node me (.agentsInsert id st)) w = some (r, w')) :
    w'.db = w.db ∧ w'.clock = w.clock ∧ w'.issued = w.issued ∧
      (w'.node me).agents = (w.node me).agents.insert id st := by
  have hmap := World.handler_agents h me
  obtain ⟨n', -, rfl⟩ := World.exec_node.mp h
  exact ⟨rfl, rfl, rfl, by simpa [Op.onAgents, NodeOp.onAgents] using hmap⟩

theorem remove_step {st : Option AgentState}
    (h : World.handler B faulty c (.node me (.agentsRemove id)) w = some (st, w')) :
    st = (w.node me).agents.lookup id ∧ w'.db = w.db ∧ w'.clock = w.clock ∧
      w'.issued = w.issued ∧ (w'.node me).agents = (w.node me).agents.erase id := by
  have hmap := World.handler_agents h me
  obtain ⟨n', hn', rfl⟩ := World.exec_node.mp h
  refine ⟨?_, rfl, rfl, rfl, by simpa [Op.onAgents, NodeOp.onAgents] using hmap⟩
  cases c <;> simp only [NodeOp.exec, reduceCtorEq, Option.some.injEq, Prod.mk.injEq] at hn'
  exact hn'.1.symm

theorem iter_step {l : List (Σ _ : String, AgentState)}
    (h : World.handler B faulty c (.node me .agentsIter) w = some (l, w')) :
    l.Perm (w.node me).agents.entries ∧ w' = w := by
  obtain ⟨n', hn', rfl⟩ := World.exec_node.mp h
  cases c <;> simp only [NodeOp.exec, reduceCtorEq, Option.ite_none_right_eq_some,
    Option.some.injEq, Prod.mk.injEq] at hn'
  obtain ⟨hp, rfl, rfl⟩ := hn'
  exact ⟨hp, World.setNode_self w me⟩

theorem entries_erase (m : StringMap AgentState) (k : String) :
    (m.erase k).entries = m.entries.kerase k := rfl

/-- Removing an id that is not there leaves the map as it was. -/
theorem erase_of_lookup_none {m : StringMap AgentState} (h : m.lookup id = none) :
    m.erase id = m :=
  AList.ext (List.kerase_of_notMem_keys (AList.lookup_eq_none.mp h))

end MapSteps

end AgentRegistry

end Jrok
