import Jrok.Int64
import Jrok.Tcp.StandIns

/-!
# The relay module

`ConnectionTracker` and `RelayServer` of `relay/mod.rs`. The time is an argument where the code
reads the clock.
-/

namespace Jrok.Relay

structure ConnectionStats where
  sessionId : String
  subdomain : String
  clientAddr : String
  agentId : String
  directAttempt : Bool
  directSuccess : Bool
  relayUsed : Bool
  latencyMs : UInt64
  createdAt : Int
  completedAt : Option Int
  deriving DecidableEq, Repr

structure ConnectionTracker where
  stats : StringMap ConnectionStats
  totalAttempts : Nat
  directSuccesses : Nat
  relayUsed : Nat

namespace ConnectionTracker

def new : ConnectionTracker := ⟨∅, 0, 0, 0⟩

def trackAttempt (t : ConnectionTracker) (now : Int)
    (sessionId subdomain clientAddr agentId : String) (directAttempt : Bool) : ConnectionTracker :=
  let stats : ConnectionStats :=
    { sessionId := sessionId
      subdomain := subdomain
      clientAddr := clientAddr
      agentId := agentId
      directAttempt := directAttempt
      directSuccess := false
      relayUsed := false
      latencyMs := 0
      createdAt := now
      completedAt := none }
  { t with totalAttempts := t.totalAttempts + 1, stats := t.stats.insert sessionId stats }

/-- `mark_success`. A session that is not tracked is not counted either. -/
def markSuccess (t : ConnectionTracker) (now : Int) (sessionId : String) (latencyMs : UInt64)
    (direct : Bool) : ConnectionTracker :=
  match t.stats.lookup sessionId with
  | none => t
  | some stat =>
    let t := { t with
      stats := t.stats.replace sessionId { stat with
        directSuccess := true, latencyMs := latencyMs, completedAt := some now } }
    if direct then { t with directSuccesses := t.directSuccesses + 1 }
    else { t with relayUsed := t.relayUsed + 1 }

def markFailed (t : ConnectionTracker) (now : Int) (sessionId : String) (relayUsed : Bool) :
    ConnectionTracker :=
  match t.stats.lookup sessionId with
  | none => t
  | some stat =>
    let stat := { stat with completedAt := some now }
    if relayUsed then
      { t with
        stats := t.stats.replace sessionId { stat with relayUsed := true }
        relayUsed := t.relayUsed + 1 }
    else { t with stats := t.stats.replace sessionId stat }

def getStats (t : ConnectionTracker) : TrackerCounts :=
  (t.totalAttempts, t.directSuccesses, t.relayUsed)

def cleanupOld (t : ConnectionTracker) (now maxAgeMs : Int) : ConnectionTracker :=
  let cutoff := subI64 now maxAgeMs
  { t with stats := t.stats.retain fun _ stat => cutoff < stat.createdAt }

end ConnectionTracker

structure RelayConnection where
  sessionId : String
  clientAddr : String
  agentId : String
  clientSocket : Option String
  agentSocket : Option String
  bytesRelayed : UInt64
  createdAt : Int
  deriving DecidableEq, Repr

structure RelayServer where
  connections : StringMap RelayConnection

namespace RelayServer

def new : RelayServer := ⟨∅⟩

def createRelay (r : RelayServer) (now : Int) (sessionId clientAddr agentId : String) :
    Except Error String × RelayServer :=
  let connection : RelayConnection :=
    { sessionId := sessionId
      clientAddr := clientAddr
      agentId := agentId
      clientSocket := none
      agentSocket := none
      bytesRelayed := 0
      createdAt := now }
  (.ok ("relay:" ++ sessionId), { r with connections := r.connections.insert sessionId connection })

def relayToAgent (r : RelayServer) (sessionId : String) (data : List UInt8) :
    Except Error Unit × RelayServer :=
  match r.connections.lookup sessionId with
  | some conn =>
    (.ok (), { r with
      connections := r.connections.replace sessionId { conn with
        bytesRelayed := conn.bytesRelayed + .ofNat data.length } })
  | none => (.error (.badRequest "Relay connection not found"), r)

def relayToClient (r : RelayServer) (sessionId : String) (data : List UInt8) :
    Except Error Unit × RelayServer :=
  match r.connections.lookup sessionId with
  | some conn =>
    (.ok (), { r with
      connections := r.connections.replace sessionId { conn with
        bytesRelayed := conn.bytesRelayed + .ofNat data.length } })
  | none => (.error (.badRequest "Relay connection not found"), r)

/-- `close_relay`. The tracker is the one that the server shares. -/
def closeRelay (r : RelayServer) (tracker : ConnectionTracker) (now : Int) (sessionId : String) :
    RelayServer × ConnectionTracker :=
  let conn := r.connections.lookup sessionId
  let r := { r with connections := r.connections.erase sessionId }
  match conn with
  | some _ => (r, tracker.markFailed now sessionId true)
  | none => (r, tracker)

def activeCount (r : RelayServer) : Nat := r.connections.keys.length

def cleanupOld (r : RelayServer) (now maxAgeMs : Int) : RelayServer :=
  let cutoff := subI64 now maxAgeMs
  { r with connections := r.connections.retain fun _ conn => cutoff < conn.createdAt }

end RelayServer

end Jrok.Relay
