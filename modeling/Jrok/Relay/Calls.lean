import Jrok.Refinement.Machine
import Jrok.Relay.Server
import Mathlib.Data.List.Induction

/-!
# The relay module as a machine

A `RelayServer` and the `ConnectionTracker` that it shares, under calls of the methods of both.
-/

namespace Jrok.Relay

open Refinement

structure RelayModule where
  relay : RelayServer
  tracker : ConnectionTracker

namespace RelayModule

def new : RelayModule := ⟨.new, .new⟩

inductive Call where
  | trackAttempt (now : Int) (sessionId subdomain clientAddr agentId : String)
      (directAttempt : Bool)
  | markSuccess (now : Int) (sessionId : String) (latencyMs : UInt64) (direct : Bool)
  | markFailed (now : Int) (sessionId : String) (relayUsed : Bool)
  | createRelay (now : Int) (sessionId clientAddr agentId : String)
  | relayToAgent (sessionId : String) (data : List UInt8)
  | relayToClient (sessionId : String) (data : List UInt8)
  | closeRelay (now : Int) (sessionId : String)
  | activeCount
  | cleanupOld (now maxAgeMs : Int)
  deriving DecidableEq

inductive Answer where
  | done
  | endpoint (r : Except Error String)
  | relayed (r : Except Error Unit)
  | count (n : Nat)

def step (m : RelayModule) : Call → Answer × RelayModule
  | .trackAttempt now sessionId subdomain clientAddr agentId directAttempt =>
    (.done, { m with
      tracker := m.tracker.trackAttempt now sessionId subdomain clientAddr agentId directAttempt })
  | .markSuccess now sessionId latencyMs direct =>
    (.done, { m with tracker := m.tracker.markSuccess now sessionId latencyMs direct })
  | .markFailed now sessionId relayUsed =>
    (.done, { m with tracker := m.tracker.markFailed now sessionId relayUsed })
  | .createRelay now sessionId clientAddr agentId =>
    let (answer, relay) := m.relay.createRelay now sessionId clientAddr agentId
    (.endpoint answer, { m with relay := relay })
  | .relayToAgent sessionId data =>
    let (answer, relay) := m.relay.relayToAgent sessionId data
    (.relayed answer, { m with relay := relay })
  | .relayToClient sessionId data =>
    let (answer, relay) := m.relay.relayToClient sessionId data
    (.relayed answer, { m with relay := relay })
  | .closeRelay now sessionId =>
    let (relay, tracker) := m.relay.closeRelay m.tracker now sessionId
    (.done, ⟨relay, tracker⟩)
  | .activeCount => (.count m.relay.activeCount, m)
  | .cleanupOld now maxAgeMs => (.done, { m with relay := m.relay.cleanupOld now maxAgeMs })

/-- The module after these calls on a new one. -/
def after (calls : List Call) : RelayModule := final step calls .new

theorem after_snoc (calls : List Call) (c : Call) :
    after (calls ++ [c]) = (step (after calls) c).2 := final_snoc step calls c .new

/-- The session that the call tracks. -/
def Call.tracks : Call → Option String
  | .trackAttempt _ sessionId _ _ _ _ => some sessionId
  | _ => none

/-- No session is tracked twice. -/
def FreshIds (calls : List Call) : Prop := (calls.filterMap Call.tracks).Nodup

instance (calls : List Call) : Decidable (FreshIds calls) :=
  inferInstanceAs (Decidable (calls.filterMap Call.tracks).Nodup)

end RelayModule

end Jrok.Relay
