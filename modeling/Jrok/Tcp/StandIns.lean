import Jrok.Tcp.Facilitator

/-!
# The stand-ins of the facilitator

`SimpleConnectionTracker` and `SimpleRelayServer` of `tcp/mod.rs` as parts of their own, and where
the facilitator's operations use them. The `success_rate` of `get_stats`, a quotient of the counts
in floating point, is left out.
-/

namespace Jrok

/-- The counts of `get_stats`: attempts, direct successes, relays. -/
abbrev TrackerCounts := Nat × Nat × Nat

structure SimpleConnectionTracker where
  totalAttempts : Nat
  directSuccesses : Nat
  relayUsed : Nat
  deriving DecidableEq, Repr

namespace SimpleConnectionTracker

def new : SimpleConnectionTracker := ⟨0, 0, 0⟩

def trackAttempt (t : SimpleConnectionTracker) (_sessionId : String) : SimpleConnectionTracker :=
  { t with totalAttempts := t.totalAttempts + 1 }

def markSuccess (t : SimpleConnectionTracker) (_sessionId : String) (direct : Bool) :
    SimpleConnectionTracker :=
  if direct then { t with directSuccesses := t.directSuccesses + 1 }
  else { t with relayUsed := t.relayUsed + 1 }

/-- `mark_failed` only logs. -/
def markFailed (t : SimpleConnectionTracker) (_sessionId : String) (_relay : Bool) :
    SimpleConnectionTracker := t

def getStats (t : SimpleConnectionTracker) : TrackerCounts :=
  (t.totalAttempts, t.directSuccesses, t.relayUsed)

end SimpleConnectionTracker

structure SimpleRelayServer where
  connections : StringMap String

namespace SimpleRelayServer

def new : SimpleRelayServer := ⟨∅⟩

def createRelay (r : SimpleRelayServer) (sessionId _clientAddr _agentId : String) :
    Except Error String × SimpleRelayServer :=
  let relayEndpoint := "relay:" ++ sessionId
  (.ok relayEndpoint, { r with connections := r.connections.insert sessionId relayEndpoint })

/-- `relay_to_agent` looks nothing up. -/
def relayToAgent (_r : SimpleRelayServer) (_sessionId : String) (_data : List UInt8) :
    Except Error Unit := .ok ()

def activeCount (r : SimpleRelayServer) : Nat := r.connections.keys.length

end SimpleRelayServer

namespace Facilitator

/-- The facilitator's tracker. -/
def tracker (f : Facilitator) : SimpleConnectionTracker :=
  ⟨f.totalAttempts, f.directSuccesses, f.relayUsed⟩

/-- The facilitator's relay. -/
def relay (f : Facilitator) : SimpleRelayServer := ⟨f.relays⟩

theorem tracker_clientConnected (f : Facilitator) (sessionId : String) :
    (f.clientConnected sessionId).2.tracker =
      match f.sessions.lookup sessionId with
      | some session => f.tracker.markSuccess sessionId session.directConnection
      | none => f.tracker := by
  cases hs : f.sessions.lookup sessionId with
  | none => simp only [clientConnected, hs]
  | some session =>
    simp only [clientConnected, hs, markSuccess, SimpleConnectionTracker.markSuccess]
    cases session.directConnection <;> rfl

theorem tracker_agentListening (f : Facilitator) (sessionId endpoint : String)
    (agentNat : Option NatInfo) :
    (f.agentListening sessionId endpoint agentNat).2.tracker = f.tracker := by
  unfold agentListening
  cases f.sessions.lookup sessionId <;> rfl

theorem tracker_connectionFailed (f : Facilitator) (sessionId : String) :
    (f.connectionFailed sessionId).2.tracker = f.tracker.markFailed sessionId true := by
  unfold connectionFailed
  cases f.sessions.lookup sessionId <;> rfl

end Facilitator

end Jrok
