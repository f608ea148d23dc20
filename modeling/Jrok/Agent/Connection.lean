import Jrok.Agent.Registry

/-!
# Agent connections

`handle_agent_connection` of `agent/mod.rs`: the task that reads the frames of a WebSocket, frame
by frame, and the writer task that it spawns, message by message. The source skips frames that
are not text before its loop sees them, and every message serialises.
-/

namespace Jrok

open Concurrency

namespace Connection

variable (X : Codec) (B : Backend) (me : String)

/-- What the reading task holds between two frames: `msg_tx` and `agent_id`. -/
structure Reader where
  msgTx : Nat
  agentId : Option String

/-- `let _ = msg_tx.send(m).await`. -/
def reply (reader : Reader) (m : Message) : ServerProg Unit := do
  let _ ← critical me (.send reader.msgTx m)

/-- The branch of `Message::Register`. The function returns (`none`) unless the agent is
    registered. -/
def handleRegister (reader : Reader) (subdomain : String) (localPort : UInt16)
    (localHost protocol apiKey : String) : ServerProg (Option Reader) := do
  match ← (Db.validateApiKey X apiKey).run with
  | .ok true =>
    match ← AgentRegistry.register B me subdomain localPort localHost (.fromStr protocol) with
    | .ok (id, _) =>
      reply me reader (.welcome id subdomain protocol)
      return some { reader with agentId := some id }
    | .error e =>
      reply me reader (.error e.text)
      return none
  | .ok false =>
    reply me reader (.error "Invalid API key")
    return none
  | .error _ =>
    reply me reader (.error "Authentication failed")
    return none

/-- `if let Some(ref id) = agent_id`, and on to the next frame. -/
def ifRegistered (reader : Reader) (f : String → ServerProg Unit) :
    ServerProg (Option Reader) := do
  match reader.agentId with
  | some id => f id
  | none => pure ()
  return some reader

/-- One iteration of the loop over the frames; a frame that does not parse is `none`. -/
def handleFrame (reader : Reader) : Option Message → ServerProg (Option Reader)
  | some (.register subdomain localPort localHost protocol apiKey) =>
    handleRegister X B me reader subdomain localPort localHost protocol apiKey
  | some .heartbeat => ifRegistered reader fun id => do
    let _ ← (AgentRegistry.updateHeartbeat me id).run
  | some (.httpResponse requestId status headers body) => ifRegistered reader fun _ => do
    let _ ← AgentRegistry.handleResponse me X requestId status headers (body.map X.encode)
  | some (.tcpConnect connectionId clientIp) => ifRegistered reader fun _ =>
    reply me reader (.tcpConnect connectionId clientIp)
  -- the decoded data is only counted for the log
  | some (.tcpData _ _) => ifRegistered reader fun _ => pure ()
  | some (.tcpDisconnect connectionId) => ifRegistered reader fun _ =>
    reply me reader (.tcpDisconnect connectionId)
  | some (.tcpListenResponse sessionId endpoint agentNat) => ifRegistered reader fun _ => do
    let _ ← critical me (.agentListening sessionId endpoint (agentNat.map .ofSer))
  | some (.connectionEstablished sessionId _) => ifRegistered reader fun _ => do
    let _ ← critical me (.clientConnected sessionId)
  | _ => return some reader

/-- The loop over the frames of a connection whose other side sends these and then closes it. The
    frames that were not read are returned. -/
def handleFrames (reader : Reader) : List (Option Message) → ServerProg (List (Option Message))
  | [] => return []
  | frame :: frames => do
    match ← handleFrame X B me reader frame with
    | some reader => handleFrames reader frames
    | none => return frames

def handleAgentConnection (conn : Nat) (frames : List (Option Message)) :
    ServerProg (List (Option Message)) := do
  let msgTx ← critical me (.openConnection conn)
  let unread ← handleFrames X B me { msgTx := msgTx, agentId := none } frames
  critical me (.closeConnection conn)
  return unread

/-- One iteration of the writer task; `false` when it has ended. -/
def writeNext (conn : Nat) : ServerProg Bool := do
  match ← critical me (.recv conn) with
  | some m =>
    if ← critical me (.socketSend conn m) then return true
    else
      critical me (.closeWriter conn)
      return false
  | none =>
    critical me (.closeWriter conn)
    return false

/-! ## The tasks of a server -/

/-- The two tasks of each connection, and any others that use the registry. -/
inductive Job where
  | reader (conn : Nat)
  | writer (conn : Nat)
  | other (k : Nat)
  deriving DecidableEq

/-- A job before its first step, a reader between two frames, and a job that has ended. -/
inductive JobState where
  | fresh
  | reading (reader : Reader)
  | ended

inductive JobInput where
  /-- a WebSocket is opened -/
  | connect
  /-- a text frame arrives -/
  | frame (frame : Option Message)
  /-- the WebSocket is closed by the other side -/
  | hangup
  /-- the writer goes through its loop once -/
  | write
  | registry (call : AgentRegistry.RegistryCall)
  | sendMessage (agentId : String) (message : Message)
  | createPendingRequest (requestId : String)
  | removePendingRequest (requestId : String)

/-- `handle_agent_connection` returns: its sender is dropped. -/
def close (conn : Nat) : ServerProg JobState := do
  critical me (.closeConnection conn)
  return .ended

/-- The program a job runs next. -/
def jobBody : Job → JobState → JobInput → Option (ServerProg JobState)
  | .reader conn, .fresh, .connect => some do
    let msgTx ← critical me (.openConnection conn)
    return .reading { msgTx := msgTx, agentId := none }
  | .reader conn, .reading reader, .frame frame => some do
    match ← handleFrame X B me reader frame with
    | some reader => return .reading reader
    | none => close me conn
  | .reader conn, .reading _, .hangup => some (close me conn)
  | .writer conn, .fresh, .write => some do
    if ← writeNext me conn then return .fresh else return .ended
  | .other _, state, .registry call => some do
    let _ ← call.run B me
    return state
  | .other _, state, .sendMessage agentId message => some do
    let _ ← (AgentRegistry.sendMessage me agentId message).run
    return state
  | .other _, state, .createPendingRequest requestId => some do
    let _ ← AgentRegistry.createPendingRequest me requestId
    return state
  | .other _, state, .removePendingRequest requestId => some do
    AgentRegistry.removePendingRequest me requestId
    return state
  | _, _, _ => none

/-- The jobs of the server `me` over its memory and the database. -/
def jobs (faulty : Bool) : System serverSig Job JobState JobInput World Choice where
  handler _ := World.handler B faulty
  body := jobBody X B me

end Connection

end Jrok
