import Jrok.Error
import Jrok.Net.Addr
import Jrok.Proto
import Jrok.Relational.Map

/-!
# Connection facilitation

The sessions of `tcp/mod.rs`, the counters of its `SimpleConnectionTracker` and the map of its
`SimpleRelayServer`. Each operation holds the lock of the sessions map from its first to its last
access.
-/

namespace Jrok

inductive ConnectionStatus where
  | pending
  | findingAgent
  | requesting
  | holePunching
  | ready
  | connected
  | relayed
  | failed
  deriving DecidableEq, Repr

structure ConnectionSession where
  sessionId : String
  subdomain : String
  clientAddr : String
  agentId : String
  agentEndpoint : Option String
  status : ConnectionStatus
  createdAt : Int
  clientNat : Option NatInfo
  agentNat : Option NatInfo
  directConnection : Bool
  deriving DecidableEq, Repr

/-- `nat::is_private_ip`. -/
def isPrivateIp : Net.IpAddr → Bool
  | .v4 a b _ _ =>
    a = 10 || (a = 172 && 16 ≤ b && b ≤ 31) || (a = 192 && b = 168) || a = 127
  | .v6 _ => true

structure Facilitator where
  sessions : StringMap ConnectionSession
  totalAttempts : Nat
  directSuccesses : Nat
  relayUsed : Nat
  relays : StringMap String

namespace Facilitator

/-- `ConnectionFacilitator::new`. -/
def new : Facilitator := ⟨∅, 0, 0, 0, ∅⟩

/-- `detect_client_nat`. An IPv6 address always counts as private. -/
def detectClientNat (clientAddr : String) : Option NatInfo :=
  (Net.SocketAddr.parse clientAddr).map fun addr =>
    match addr.ip, isPrivateIp addr.ip with
    | .v4 a b c d, false =>
      { localAddr := clientAddr
        publicIp := Net.textV4 a b c d
        publicPort := addr.port
        natType := .openNat
        hairpinning := false }
    | _, _ =>
      { localAddr := clientAddr
        publicIp := "0.0.0.0"
        publicPort := 0
        natType := .unknown
        hairpinning := false }

/-- `can_use_direct_connection`. -/
def canUseDirectConnection : Option NatInfo → Bool
  | none => false
  | some nat =>
    match nat.natType with
    | .openNat => true
    | .fullCone | .restrictedCone | .portRestrictedCone => true
    | .symmetric => false
    | .unknown => false

/-- `needs_hole_punching`. -/
def needsHolePunching (session : ConnectionSession) : Bool :=
  match session.clientNat, session.agentNat with
  | some client, some agent =>
    match client.natType, agent.natType with
    | .openNat, _ => false
    | _, .openNat => false
    | _, _ => true
  | _, _ => false

/-- `agent_listening`. -/
def agentListening (f : Facilitator) (sessionId agentEndpoint : String)
    (agentNat : Option NatInfo) : Except Error Unit × Facilitator :=
  match f.sessions.lookup sessionId with
  | none => (.error (.badRequest "Session not found"), f)
  | some session =>
    let session := { session with agentEndpoint := some agentEndpoint, agentNat := agentNat }
    let status := if needsHolePunching session then .holePunching else .ready
    (.ok (), { f with
      sessions := f.sessions.replace sessionId { session with status := status } })

/-- `SimpleConnectionTracker::mark_success`. -/
def markSuccess (f : Facilitator) (direct : Bool) : Facilitator :=
  if direct then { f with directSuccesses := f.directSuccesses + 1 }
  else { f with relayUsed := f.relayUsed + 1 }

/-- `client_connected`. -/
def clientConnected (f : Facilitator) (sessionId : String) : Except Error Unit × Facilitator :=
  match f.sessions.lookup sessionId with
  | none => (.error (.badRequest "Session not found"), f)
  | some session =>
    let sessions := f.sessions.replace sessionId { session with status := .connected }
    (.ok (), { f with sessions := sessions }.markSuccess session.directConnection)

/-- `connection_failed`, with the entry that `create_relay` makes. -/
def connectionFailed (f : Facilitator) (sessionId : String) : Except Error String × Facilitator :=
  match f.sessions.lookup sessionId with
  | none => (.error (.badRequest "Session not found"), f)
  | some session =>
    let relayEndpoint := "relay:" ++ sessionId
    (.ok relayEndpoint, { f with
      relays := f.relays.insert sessionId relayEndpoint
      sessions := f.sessions.replace sessionId { session with status := .relayed } })

/-- `sessions.write().insert(session_id, session)`. -/
def insertSession (f : Facilitator) (session : ConnectionSession) : Facilitator :=
  { f with sessions := f.sessions.insert session.sessionId session }

/-- The `retain` of `cleanup_sessions`. -/
def cleanupSessions (f : Facilitator) (cutoff : Int) : Facilitator :=
  { f with sessions := f.sessions.retain fun _ session => cutoff < session.createdAt }

end Facilitator

end Jrok
