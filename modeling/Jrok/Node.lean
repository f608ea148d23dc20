import Jrok.Db.Models
import Jrok.Tcp.Facilitator
import Mathlib.Data.List.Perm.Basic

/-!
# The memory of a server process

A `Node` is what one server process holds in memory: its `is_leader` flag, the two maps of its
`AgentRegistry`, its channels, its `ConnectionFacilitator`, and for each WebSocket connection
the channel that the connection's writer task drains. A `NodeOp` is one critical section on
this memory: the code between taking a lock and releasing it, one channel operation, or code
without an await that touches nothing shared.
-/

namespace Jrok

/-- `AgentState`; the sender is the number of its channel. -/
structure AgentState where
  tx : Nat
  subdomain : String
  localPort : UInt16
  localHost : String
  protocol : Protocol
  lastHeartbeat : Int
  deriving DecidableEq, Repr

/-- A bounded mpsc channel: the messages not yet received, and whether its receiver lives. -/
structure Chan where
  queue : List Message
  receiver : Bool
  deriving DecidableEq

/-- The bound of every channel: `mpsc::channel(100)`. -/
def Chan.capacity : Nat := 100

/-- `Sender::send`: fails when the receiver is gone, waits (`none`) while the channel is full. -/
def Chan.send (c : Chan) (m : Message) : Option (Bool × Chan) :=
  if !c.receiver then some (false, c)
  else if c.queue.length < Chan.capacity then some (true, { c with queue := c.queue ++ [m] })
  else none

structure Node where
  isLeader : Bool
  agents : StringMap AgentState
  pending : StringMap Nat
  chan : Nat → Chan
  nextChan : Nat
  oneshot : Nat → Option HttpResponse
  nextOneshot : Nat
  facilitator : Facilitator
  /-- The channel whose receiver the writer task of a connection owns. -/
  writer : Nat → Option Nat
  /-- Whether `handle_agent_connection`, which owns the sender, is still running. -/
  running : Nat → Bool
  /-- What has been written to the socket of a connection. -/
  sent : Nat → List Message

/-- The memory of a process that has just started. -/
def Node.new : Node where
  isLeader := false
  agents := ∅
  pending := ∅
  chan := fun _ => ⟨[], false⟩
  nextChan := 0
  oneshot := fun _ => none
  nextOneshot := 0
  facilitator := .new
  writer := fun _ => none
  running := fun _ => false
  sent := fun _ => []

inductive NodeOp where
  /-- `is_leader.store(b)` -/
  | storeLeader (b : Bool)
  /-- `mpsc::channel(100)` -/
  | channel
  /-- the receiver of a channel goes out of scope -/
  | dropReceiver (c : Nat)
  /-- `tx.send(m).await` on a channel -/
  | send (c : Nat) (m : Message)
  /-- `agents.write().insert(id, st)` -/
  | agentsInsert (id : String) (st : AgentState)
  /-- `agents.write().remove(id)` -/
  | agentsRemove (id : String)
  /-- `agents.write().get_mut(id)` with an empty body -/
  | agentsGetMut (id : String)
  /-- `agents.read().get(id)` and, under the same guard, a send to the entry's channel -/
  | agentsSend (id : String) (m : Message)
  /-- `agents.read().iter()`, in hash order -/
  | agentsIter
  /-- a new oneshot channel stored by `pending.write().insert(id, ..)` -/
  | pendingInsert (requestId : String)
  /-- `pending.write().remove(id)` -/
  | pendingRemove (requestId : String)
  /-- `pending.write().remove(id)` and, under the same guard, `response_tx.send(response)` -/
  | respond (requestId : String) (response : HttpResponse)
  /-- `timeout(.., pending).await` on the receiver of a oneshot channel -/
  | oneshotRecv (k : Nat)
  /-- `sessions.write().insert(session_id, session)` -/
  | sessionsInsert (session : ConnectionSession)
  /-- `facilitator.agent_listening` -/
  | agentListening (sessionId endpoint : String) (agentNat : Option NatInfo)
  /-- `facilitator.client_connected` -/
  | clientConnected (sessionId : String)
  /-- `facilitator.connection_failed` -/
  | connectionFailed (sessionId : String)
  /-- `facilitator.get_session` -/
  | getSession (sessionId : String)
  /-- `sessions.write().retain(..)` in `cleanup_sessions` -/
  | cleanupSessions (cutoff : Int)
  /-- a connection's message channel is created and its receiver moved into the writer task -/
  | openConnection (conn : Nat)
  /-- `handle_agent_connection` returns and drops the sender -/
  | closeConnection (conn : Nat)
  /-- `msg_rx.recv().await` in the writer task of a connection -/
  | recv (conn : Nat)
  /-- the writer task ends and drops the receiver -/
  | closeWriter (conn : Nat)
  /-- `tx.send(WsMessage::Text(..)).await` on the socket of a connection -/
  | socketSend (conn : Nat) (m : Message)

@[reducible] def NodeOp.Res : NodeOp → Type
  | .channel => Nat
  | .send _ _ => Bool
  | .recv _ => Option Message
  | .agentsRemove _ => Option AgentState
  | .agentsGetMut _ => Option AgentState
  | .agentsSend _ _ => Option Bool
  | .agentsIter => List (Σ _ : String, AgentState)
  | .pendingInsert _ => Nat
  | .pendingRemove _ => Option Nat
  | .respond _ _ => Option Nat
  | .oneshotRecv _ => Option HttpResponse
  | .agentListening _ _ _ => Except Error Unit
  | .clientConnected _ => Except Error Unit
  | .connectionFailed _ => Except Error String
  | .getSession _ => Option ConnectionSession
  | .openConnection _ => Nat
  | .socketSend _ _ => Bool
  | _ => Unit

/-- The part of an operation's outcome that the environment decides. -/
inductive Choice where
  /-- the operation goes through -/
  | go
  /-- a database call fails without effect -/
  | fail (e : DbError)
  /-- the reading of the clock -/
  | read (n : Int)
  /-- the random UUID -/
  | fresh (u : String)
  /-- the iteration order of the agents map -/
  | order (l : List (Σ _ : String, AgentState))
  /-- whether a socket write succeeds -/
  | io (ok : Bool)
  /-- the deadline of a wait passes -/
  | timeout

/-- A fresh channel with a live receiver. -/
def Node.newChan (n : Node) : Node :=
  { n with chan := Function.update n.chan n.nextChan ⟨[], true⟩, nextChan := n.nextChan + 1 }

def Node.setChan (n : Node) (c : Nat) (ch : Chan) : Node :=
  { n with chan := Function.update n.chan c ch }

/-- What a critical section answers and does; `none` while it cannot run. -/
def NodeOp.exec : Choice → (o : NodeOp) → Node → Option (o.Res × Node)
  | .go, .storeLeader b, n => some ((), { n with isLeader := b })
  | .go, .channel, n => some (n.nextChan, n.newChan)
  | .go, .dropReceiver c, n => some ((), n.setChan c { n.chan c with receiver := false })
  | .go, .send c m, n => ((n.chan c).send m).map fun r => (r.1, n.setChan c r.2)
  | .go, .agentsInsert id st, n => some ((), { n with agents := n.agents.insert id st })
  | .go, .agentsRemove id, n => some (n.agents.lookup id, { n with agents := n.agents.erase id })
  | .go, .agentsGetMut id, n => some (n.agents.lookup id, n)
  | .go, .agentsSend id m, n =>
    match n.agents.lookup id with
    | some st => ((n.chan st.tx).send m).map fun r => (some r.1, n.setChan st.tx r.2)
    | none => some (none, n)
  | .order l, .agentsIter, n => if l.Perm n.agents.entries then some (l, n) else none
  | .go, .pendingInsert requestId, n =>
    some (n.nextOneshot, { n with
      pending := n.pending.insert requestId n.nextOneshot, nextOneshot := n.nextOneshot + 1 })
  | .go, .pendingRemove requestId, n =>
    some (n.pending.lookup requestId, { n with pending := n.pending.erase requestId })
  | .go, .respond requestId response, n =>
    match n.pending.lookup requestId with
    | some k => some (some k, { n with
        pending := n.pending.erase requestId
        oneshot := Function.update n.oneshot k (some response) })
    | none => some (none, n)
  | .go, .oneshotRecv k, n =>
    match n.oneshot k with
    | some response => some (some response, n)
    | none => none
  -- a response that is there is received, also when the deadline has passed
  | .timeout, .oneshotRecv k, n =>
    match n.oneshot k with
    | some _ => none
    | none => some (none, n)
  | .go, .sessionsInsert session, n =>
    some ((), { n with facilitator := n.facilitator.insertSession session })
  | .go, .agentListening sessionId endpoint agentNat, n =>
    let r := n.facilitator.agentListening sessionId endpoint agentNat
    some (r.1, { n with facilitator := r.2 })
  | .go, .clientConnected sessionId, n =>
    let r := n.facilitator.clientConnected sessionId
    some (r.1, { n with facilitator := r.2 })
  | .go, .connectionFailed sessionId, n =>
    let r := n.facilitator.connectionFailed sessionId
    some (r.1, { n with facilitator := r.2 })
  | .go, .getSession sessionId, n => some (n.facilitator.sessions.lookup sessionId, n)
  | .go, .cleanupSessions cutoff, n =>
    some ((), { n with facilitator := n.facilitator.cleanupSessions cutoff })
  | .go, .openConnection conn, n =>
    match n.writer conn with
    | none => some (n.nextChan, { n.newChan with
        writer := Function.update n.writer conn (some n.nextChan)
        running := Function.update n.running conn true })
    | some _ => none
  | .go, .closeConnection conn, n =>
    some ((), { n with running := Function.update n.running conn false })
  | .go, .recv conn, n =>
    match n.writer conn with
    | some c =>
      match (n.chan c).queue with
      | m :: rest => some (some m, n.setChan c { n.chan c with queue := rest })
      | [] => if n.running conn then none else some (none, n)
    | none => none
  | .go, .closeWriter conn, n =>
    match n.writer conn with
    | some c => some ((), n.setChan c { n.chan c with receiver := false })
    | none => none
  | .io ok, .socketSend conn m, n =>
    some (ok, if ok then { n with sent := Function.update n.sent conn (n.sent conn ++ [m]) } else n)
  | _, _, _ => none

/-- What a critical section does to the agents map. -/
def NodeOp.onAgents : NodeOp → StringMap AgentState → StringMap AgentState
  | .agentsInsert id st, m => m.insert id st
  | .agentsRemove id, m => m.erase id
  | _, m => m

/-- What a critical section does to the facilitator. -/
def NodeOp.onFacilitator : NodeOp → Facilitator → Facilitator
  | .sessionsInsert session, f => f.insertSession session
  | .agentListening sessionId endpoint agentNat, f =>
    (f.agentListening sessionId endpoint agentNat).2
  | .clientConnected sessionId, f => (f.clientConnected sessionId).2
  | .connectionFailed sessionId, f => (f.connectionFailed sessionId).2
  | .cleanupSessions cutoff, f => f.cleanupSessions cutoff
  | _, f => f

/-- The critical sections that change the pending map or a oneshot channel. -/
def NodeOp.usesPending : NodeOp → Bool
  | .pendingInsert _ | .pendingRemove _ | .respond _ _ => true
  | _ => false

/-- What a critical section does to the agents map and to the channels of the writers: only an
    insertion and a removal change the map, and a writer's channel is a new one. -/
structure NodeOp.Effect (o : NodeOp) (n n' : Node) : Prop where
  agents : n'.agents = o.onAgents n.agents
  nextChan : n.nextChan ≤ n'.nextChan
  writer : ∀ k ch, n'.writer k = some ch →
    n.writer k = some ch ∨ (ch = n.nextChan ∧ ch < n'.nextChan)

theorem NodeOp.Effect.of_same {o : NodeOp} {n n' : Node} (hagents : n'.agents = o.onAgents n.agents)
    (hnext : n'.nextChan = n.nextChan) (hwriter : n'.writer = n.writer) : o.Effect n n' where
  agents := hagents
  nextChan := le_of_eq hnext.symm
  writer _ _ hk := .inl (hwriter ▸ hk)

theorem NodeOp.exec_effect {c : Choice} {o : NodeOp} {n n' : Node} {r : o.Res}
    (h : o.exec c n = some (r, n')) : o.Effect n n' := by
  cases o <;> cases c <;> simp only [exec, reduceCtorEq, Option.some.injEq, Prod.mk.injEq] at h
  case channel.go =>
    obtain ⟨-, rfl⟩ := h
    exact ⟨rfl, Nat.le_succ _, fun _ _ hk => .inl hk⟩
  case openConnection.go conn =>
    split at h
    · obtain ⟨-, rfl⟩ := Prod.mk.inj (Option.some.inj h)
      refine ⟨rfl, Nat.le_succ _, fun k ch hk => ?_⟩
      by_cases hkc : k = conn
      · subst hkc
        obtain rfl : n.nextChan = ch := by simpa using hk
        exact .inr ⟨rfl, Nat.lt_succ_self _⟩
      · exact .inl (by simpa [hkc, Node.newChan] using hk)
    · simp at h
  case agentsSend.go id m =>
    split at h
    · obtain ⟨s, -, hs⟩ := Option.map_eq_some_iff.mp h
      obtain ⟨-, rfl⟩ := Prod.mk.inj hs
      exact .of_same rfl rfl rfl
    · obtain ⟨-, rfl⟩ := Prod.mk.inj (Option.some.inj h)
      exact .of_same rfl rfl rfl
  case send.go k m =>
    obtain ⟨s, -, hs⟩ := Option.map_eq_some_iff.mp h
    obtain ⟨-, rfl⟩ := Prod.mk.inj hs
    exact .of_same rfl rfl rfl
  case socketSend.io conn m ok =>
    obtain ⟨-, rfl⟩ := h
    split <;> exact .of_same rfl rfl rfl
  case recv.go | closeWriter.go | agentsIter.order | respond.go | oneshotRecv.go |
      oneshotRecv.timeout =>
    repeat' split at h
    all_goals first
      | contradiction
      | obtain ⟨-, rfl⟩ := Prod.mk.inj (Option.some.inj h); exact .of_same rfl rfl rfl
  all_goals
    obtain ⟨-, rfl⟩ := h
    exact .of_same rfl rfl rfl

/-- What a critical section leaves alone. -/
theorem NodeOp.exec_frame {c : Choice} {o : NodeOp} {n n' : Node} {r : o.Res}
    (h : o.exec c n = some (r, n')) :
    n'.facilitator = o.onFacilitator n.facilitator ∧
    (o.usesPending = false →
      n'.pending = n.pending ∧ n'.oneshot = n.oneshot ∧ n'.nextOneshot = n.nextOneshot) := by
  cases o <;> cases c <;> simp only [exec, reduceCtorEq, Option.some.injEq, Prod.mk.injEq] at h
  case agentsSend.go id m =>
    split at h
    · obtain ⟨s, -, hs⟩ := Option.map_eq_some_iff.mp h
      obtain ⟨-, rfl⟩ := Prod.mk.inj hs
      exact ⟨rfl, fun _ => ⟨rfl, rfl, rfl⟩⟩
    · obtain ⟨-, rfl⟩ := Prod.mk.inj (Option.some.inj h)
      exact ⟨rfl, fun _ => ⟨rfl, rfl, rfl⟩⟩
  case send.go k m =>
    obtain ⟨s, -, hs⟩ := Option.map_eq_some_iff.mp h
    obtain ⟨-, rfl⟩ := Prod.mk.inj hs
    exact ⟨rfl, fun _ => ⟨rfl, rfl, rfl⟩⟩
  case socketSend.io conn m ok =>
    obtain ⟨-, rfl⟩ := h
    split <;> exact ⟨rfl, fun _ => ⟨rfl, rfl, rfl⟩⟩
  case respond.go requestId response =>
    split at h <;> obtain ⟨-, rfl⟩ := Prod.mk.inj (Option.some.inj h) <;> exact ⟨rfl, nofun⟩
  case recv.go | closeWriter.go | agentsIter.order | openConnection.go | oneshotRecv.go |
      oneshotRecv.timeout =>
    repeat' split at h
    all_goals first
      | contradiction
      | obtain ⟨-, rfl⟩ := Prod.mk.inj (Option.some.inj h); exact ⟨rfl, fun _ => ⟨rfl, rfl, rfl⟩⟩
  case pendingInsert.go | pendingRemove.go =>
    obtain ⟨-, rfl⟩ := h
    exact ⟨rfl, nofun⟩
  all_goals
    obtain ⟨-, rfl⟩ := h
    exact ⟨rfl, fun _ => ⟨rfl, rfl, rfl⟩⟩

end Jrok
