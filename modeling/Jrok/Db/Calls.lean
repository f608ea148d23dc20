import Jrok.World

/-!
# Database calls

The functions of `impl Db` as programs: each reads the clock where the source does, issues its
statements one at a time, and decodes the rows it gets back. The bind of `ExceptT` is `?`.

Under each function stands its program as a tree: the operations it issues and the value it
returns for each answer. The proofs about callers use these equations and do not unfold the
functions.
-/

namespace Jrok

open Concurrency

/-- A program of a server process. -/
abbrev ServerProg := Prog serverSig

/-- A program that returns a `Result`. -/
abbrev Call := ExceptT Error ServerProg

/-- `current_time_ms`. -/
def currentTimeMs : ServerProg Int := @Prog.perform serverSig .now

/-- `uuid::Uuid::new_v4().to_string()`. -/
def newUuid : ServerProg String := @Prog.perform serverSig .uuid

/-- One critical section on the memory of process `me`. -/
def critical (me : String) (o : NodeOp) : ServerProg o.Res := @Prog.perform serverSig (.node me o)

/-- One statement; its error becomes `Error::Database`. -/
def statement (q : Sql) : Call q.Res :=
  ExceptT.mk (@Prog.op serverSig _ (.sql q) fun r => .ret (r.mapError .database))

/-- The codecs of third-party crates: `general_purpose::STANDARD` of base64, and HMAC-SHA256 under
    a key. -/
structure Codec where
  encode : List UInt8 → String
  decode : String → Option (List UInt8)
  hmacSha256 : String → String → List UInt8

/-- `hash_api_key`. -/
def Codec.hashApiKey (X : Codec) (key : String) : String :=
  X.encode (X.hmacSha256 "jrok-api-key-v1" key)

/-- `row.get::<String>` on a nullable column. -/
def Backend.getText (B : Backend) : Option String → Except Error String
  | some s => .ok s
  | none =>
    match B.textOfNull with
    | some s => .ok s
    | none => .error (.database .nullValue)

/-- The row decoder of `get_agent_by_subdomain` and `get_agent_by_id`. -/
def AgentRow.decode (B : Backend) (row : AgentRow) : Except Error Agent := do
  let tunnelId ← B.getText row.tunnelId
  return {
    id := row.id
    subdomain := row.subdomain
    serverId := row.serverId
    tunnelId := some tunnelId
    localPort := UInt16.ofInt row.localPort
    localHost := row.localHost
    protocol := .fromStr row.protocol
    connectionToken := row.connectionToken
    connectedAt := row.connectedAt
    lastHeartbeat := row.lastHeartbeat
    active := row.active }

/-- The values `register_agent` binds: the row of its VALUES clause. -/
def Agent.row (agent : Agent) (now : Int) : AgentRow where
  id := agent.id
  subdomain := agent.subdomain
  serverId := agent.serverId
  tunnelId := agent.tunnelId
  localPort := agent.localPort.toNat
  localHost := agent.localHost
  protocol := agent.protocol.text
  connectionToken := agent.connectionToken
  connectedAt := agent.connectedAt
  lastHeartbeat := now
  active := true

/-- The row that `allocate_tcp_port` inserts for what it returns. -/
def TcpPort.row (tcpPort : TcpPort) : TcpPortRow where
  port := tcpPort.port.toNat
  tunnelId := tcpPort.tunnelId
  serverId := tcpPort.serverId

/-- The leader id as the row decoder of `get_cluster_state` returns it: empty is `None`. -/
def decodeLeaderId : Option String → Option String
  | some s => if s = "" then none else some s
  | none => none

/-- The row decoder of `get_cluster_state`. -/
def ClusterState.decode (row : ClusterState) : ClusterState :=
  { row with leaderId := decodeLeaderId row.leaderId }

/-- `conn.execute` of a statement whose number of rows is not used. -/
def execute (q : Sql) : Call Unit := do
  let _ ← statement q

theorem run_execute (q : Sql) :
    (execute q).run = .op (.sql q) fun r => .ret ((r.mapError .database).map fun _ => ()) := by
  refine congrArg (Prog.op _) (funext fun r => ?_)
  cases r <;> rfl

/-- `conn.execute` of a statement that binds a reading of the clock taken before. -/
def executeAt (q : Int → Sql) : Call Unit := do
  let now ← currentTimeMs
  execute (q now)

theorem run_executeAt (q : Int → Sql) :
    (executeAt q).run = .op .now fun now =>
      .op (.sql (q now)) fun r => .ret ((r.mapError .database).map fun _ => ()) :=
  congrArg (Prog.op _) (funext fun now => run_execute (q now))

namespace Db

/-! ## Servers -/

def registerServer (id httpHost tcpHost : String) : Call Unit :=
  executeAt fun now => .registerServer id httpHost tcpHost now

def sendHeartbeat (serverId : String) : Call Unit :=
  executeAt fun now => .sendHeartbeat now serverId

def markServersUnhealthy (timeoutMs : UInt64) : Call Unit := do
  let now ← currentTimeMs
  let cutoff := subI64 now (u64AsI64 timeoutMs)
  execute (.markStaleServers cutoff)
  execute .deactivateAgentsOfUnhealthyServers

theorem run_markServersUnhealthy (timeoutMs : UInt64) :
    (markServersUnhealthy timeoutMs).run = .op .now fun now =>
      .op (.sql (.markStaleServers (subI64 now (u64AsI64 timeoutMs)))) fun
        | .ok _ => .op (.sql .deactivateAgentsOfUnhealthyServers) fun r =>
          .ret ((r.mapError .database).map fun _ => ())
        | .error e => .ret (.error (.database e)) := by
  refine congrArg (Prog.op _) (funext fun now => congrArg (Prog.op _) (funext fun r => ?_))
  cases r with
  | ok n => exact run_execute _
  | error e => rfl

def markServerUnhealthy (serverId : String) : Call Unit :=
  execute (.markServerUnhealthy serverId)

def getServer (serverId : String) : Call (Option Server) :=
  statement (.getServer serverId)

/-! ## The leader row -/

def getClusterState : Call (Option ClusterState) := do
  match ← statement .getClusterState with
  | some row => return some row.decode
  | none => return none

theorem run_getClusterState :
    getClusterState.run = .op (.sql .getClusterState) fun r =>
      .ret ((r.mapError .database).map fun row => row.map ClusterState.decode) := by
  refine congrArg (Prog.op _) (funext fun r => ?_)
  cases r with
  | ok row => cases row <;> rfl
  | error e => rfl

def becomeLeader (serverId : String) (term now : Int) : Call Bool := do
  let result : Nat ← statement (.becomeLeader serverId term now (subI64 now 15000))
  return decide (0 < result)

theorem run_becomeLeader (serverId : String) (term now : Int) :
    (becomeLeader serverId term now).run =
      .op (.sql (.becomeLeader serverId term now (subI64 now 15000))) fun r =>
        .ret ((r.mapError .database).map fun n : Nat => decide (0 < n)) := by
  refine congrArg (Prog.op _) (funext fun r => ?_)
  cases r <;> rfl

def renewLeadership (serverId : String) (now : Int) : Call Bool := do
  let result : Nat ← statement (.renewLeadership now serverId)
  return decide (0 < result)

theorem run_renewLeadership (serverId : String) (now : Int) :
    (renewLeadership serverId now).run = .op (.sql (.renewLeadership now serverId)) fun r =>
      .ret ((r.mapError .database).map fun n : Nat => decide (0 < n)) := by
  refine congrArg (Prog.op _) (funext fun r => ?_)
  cases r <;> rfl

/-! ## API keys -/

/-- `key_prefix`. -/
def keyPrefix (key : String) : String := String.ofList (key.toList.take 8)

def createApiKey (X : Codec) (id key : String) (name : Option String) : Call ApiKey := do
  let keyHash := X.hashApiKey key
  let keyPrefix := keyPrefix key
  let now ← currentTimeMs
  let apiKey : ApiKey :=
    { id := id, keyHash := keyHash, keyPrefix := keyPrefix, name := name, createdAt := now }
  execute (.createApiKey apiKey)
  return apiKey

theorem run_createApiKey (X : Codec) (id key : String) (name : Option String) :
    (createApiKey X id key name).run = .op .now fun now =>
      .op (.sql (.createApiKey ⟨id, X.hashApiKey key, keyPrefix key, name, now⟩)) fun r =>
        .ret ((r.mapError .database).map fun _ =>
          ⟨id, X.hashApiKey key, keyPrefix key, name, now⟩) := by
  refine congrArg (Prog.op _) (funext fun now => congrArg (Prog.op _) (funext fun r => ?_))
  cases r <;> rfl

def listApiKeys : Call (List ApiKey) := statement .listApiKeys

def deleteApiKey (id : String) : Call Unit := execute (.deleteApiKey id)

def validateApiKey (X : Codec) (key : String) : Call Bool := do
  let row ← statement (.validateApiKey (X.hashApiKey key))
  return row.isSome

theorem run_validateApiKey (X : Codec) (key : String) :
    (validateApiKey X key).run = .op (.sql (.validateApiKey (X.hashApiKey key))) fun r =>
      .ret ((r.mapError .database).map Option.isSome) := by
  refine congrArg (Prog.op _) (funext fun r => ?_)
  cases r <;> rfl

/-! ## Agents -/

def getAgentServer (subdomain : String) : Call (Option String) :=
  statement (.getAgentServer subdomain)

/-- The loop over the rows of an agent query: the first row decoded, if there is one. -/
def decodeFirst (B : Backend) : Option AgentRow → Except Error (Option Agent)
  | some row => (row.decode B).map some
  | none => .ok none

def getAgentBySubdomain (B : Backend) (subdomain : String) : Call (Option Agent) := do
  let row ← statement (.getAgentBySubdomain subdomain)
  ExceptT.mk (.ret (decodeFirst B row))

theorem run_getAgentBySubdomain (B : Backend) (subdomain : String) :
    (getAgentBySubdomain B subdomain).run = .op (.sql (.getAgentBySubdomain subdomain)) fun r =>
      .ret ((r.mapError .database).bind (decodeFirst B)) := by
  refine congrArg (Prog.op _) (funext fun r => ?_)
  cases r <;> rfl

def getAgentById (B : Backend) (id : String) : Call (Option Agent) := do
  let row ← statement (.getAgentById id)
  ExceptT.mk (.ret (decodeFirst B row))

def registerAgent (agent : Agent) : Call Unit :=
  executeAt fun now => .registerAgent (agent.row now)

def unregisterAgent (id : String) : Call Unit :=
  executeAt fun now => .unregisterAgent now id

def unregisterAllAgents (serverId : String) : Call Unit :=
  executeAt fun now => .unregisterAllAgents now serverId

def sendAgentHeartbeat (id : String) : Call Unit :=
  executeAt fun now => .sendAgentHeartbeat now id

def cleanupStaleAgents (serverId : String) (timeoutMs : UInt64) : Call UInt64 := do
  let now ← currentTimeMs
  let cutoff := subI64 now (u64AsI64 timeoutMs)
  let result : Nat ← statement (.cleanupStaleAgents serverId cutoff)
  return UInt64.ofNat result

theorem run_cleanupStaleAgents (serverId : String) (timeoutMs : UInt64) :
    (cleanupStaleAgents serverId timeoutMs).run = .op .now fun now =>
      .op (.sql (.cleanupStaleAgents serverId (subI64 now (u64AsI64 timeoutMs)))) fun r =>
        .ret ((r.mapError .database).map fun n : Nat => UInt64.ofNat n) := by
  refine congrArg (Prog.op _) (funext fun now => congrArg (Prog.op _) (funext fun r => ?_))
  cases r <;> rfl

/-! ## TCP ports -/

/-- `start_port..end_port`. -/
def portRange (startPort endPort : UInt16) : List UInt16 :=
  (List.range' startPort.toNat (endPort.toNat - startPort.toNat)).map UInt16.ofNat

/-- The loop of `allocate_tcp_port` over the ports that are left. An insert that returns an error,
    whatever it is, is followed by the next port. -/
def allocateFrom (tunnelId serverId : String) : List UInt16 → Call (Option TcpPort)
  | [] => return none
  | port :: ports => do
    let tcpPort : TcpPort := { port := port, tunnelId := tunnelId, serverId := serverId }
    let result : Except DbError Nat ←
      ExceptT.lift (@Prog.perform serverSig (.sql (.allocateTcpPort tcpPort.row)))
    match result with
    | .ok _ => return some tcpPort
    | .error _ => allocateFrom tunnelId serverId ports

theorem run_allocateFrom (tunnelId serverId : String) (port : UInt16) (ports : List UInt16) :
    (allocateFrom tunnelId serverId (port :: ports)).run =
      .op (.sql (.allocateTcpPort (TcpPort.row ⟨port, tunnelId, serverId⟩))) fun
        | .ok _ => .ret (.ok (some ⟨port, tunnelId, serverId⟩))
        | .error _ => (allocateFrom tunnelId serverId ports).run := by
  refine congrArg (Prog.op _) (funext fun r => ?_)
  cases r <;> rfl

def allocateTcpPort (tunnelId serverId : String) (startPort endPort : UInt16) :
    Call (Option TcpPort) :=
  allocateFrom tunnelId serverId (portRange startPort endPort)

def deallocateTcpPort (port : UInt16) : Call Unit := execute (.deallocateTcpPort port.toNat)

end Db

end Jrok
