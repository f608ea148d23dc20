import Jrok.Concurrency.Calls
import Jrok.Tcp.Records
import Jrok.Tcp.StandIns

/-!
# Calls of the facilitator

What each call returns and does to the facilitator, whatever the registry answers and however the
send of `request_connection` ends.
-/

namespace Jrok

open Concurrency

namespace Tcp

/-- What a call of the facilitator returns. -/
inductive Returned where
  | session (r : Except Error ConnectionSession)
  | done (r : Except Error Unit)
  | relay (r : Except Error String)

/-- A call with its result. -/
def FacilitatorCall.returned (me : String) : FacilitatorCall → ServerProg Returned
  | .requestConnection subdomain clientAddr => do
    return .session (← (Tcp.requestConnection me subdomain clientAddr).run)
  | .agentListening sessionId agentEndpoint agentNat => do
    return .done (← critical me (.agentListening sessionId agentEndpoint agentNat))
  | .clientConnected sessionId => do
    return .done (← critical me (.clientConnected sessionId))
  | .connectionFailed sessionId => do
    return .relay (← critical me (.connectionFailed sessionId))
  | .cleanupSessions timeoutMs => do
    return .done (← (Tcp.cleanupSessions me timeoutMs).run)

/-- The effect of a call on the facilitator and on the UUIDs handed out, with its choices and its
    result. -/
inductive Effect (f : Facilitator) (issued : List String) :
    FacilitatorCall → List Choice → Returned → Facilitator → List String → Prop where
  | refused {subdomain clientAddr sessionId : String} {cs : List Choice} {e : Error}
      (hfresh : sessionId ∉ issued) :
      Effect f issued (.requestConnection subdomain clientAddr) cs (.session (.error e)) f
        (sessionId :: issued)
  | inserted {subdomain clientAddr sessionId agentId : String} {now : Int} {cs : List Choice}
      {r : Except Error ConnectionSession} (hfresh : sessionId ∉ issued) :
      Effect f issued (.requestConnection subdomain clientAddr) cs (.session r)
        (f.insertSession (newSession sessionId now subdomain clientAddr agentId))
        (sessionId :: issued)
  | agentListening {sessionId agentEndpoint : String} {agentNat : Option NatInfo}
      {cs : List Choice} :
      Effect f issued (.agentListening sessionId agentEndpoint agentNat) cs
        (.done (f.agentListening sessionId agentEndpoint agentNat).1)
        (f.agentListening sessionId agentEndpoint agentNat).2 issued
  | clientConnected {sessionId : String} {cs : List Choice} :
      Effect f issued (.clientConnected sessionId) cs (.done (f.clientConnected sessionId).1)
        (f.clientConnected sessionId).2 issued
  | connectionFailed {sessionId : String} {cs : List Choice} :
      Effect f issued (.connectionFailed sessionId) cs (.relay (f.connectionFailed sessionId).1)
        (f.connectionFailed sessionId).2 issued
  | cleanupSessions {timeoutMs now : Int} {cs : List Choice} :
      Effect f issued (.cleanupSessions timeoutMs) (.read now :: cs) (.done (.ok ()))
        (f.cleanupSessions (subI64 now timeoutMs)) issued

end Tcp

section

variable {B : Backend} {faulty lookups : Bool} {c : Choice} {w w' : World} {me : String}

/-- What a critical section of `me` answers and does to its facilitator. -/
theorem World.openHandler_node {o : NodeOp} {r : o.Res}
    (h : World.openHandler B faulty lookups c (.node me o) w = some (r, w')) :
    (w'.node me).facilitator = o.onFacilitator (w.node me).facilitator ∧ w'.issued = w.issued := by
  obtain hexec | ⟨rfl, ⟨n, id, m, ho⟩ | ⟨n, ho, -⟩⟩ := World.openHandler_cases h
  · obtain ⟨n', hn', rfl⟩ := World.exec_node.mp hexec
    rw [World.setNode_node_self]
    exact ⟨(NodeOp.exec_frame hn').1, rfl⟩
  · cases ho
    exact ⟨rfl, rfl⟩
  · cases ho
    exact ⟨rfl, rfl⟩

/-- What the facilitator answers to a critical section that reports on a session. -/
def NodeOp.report (f : Facilitator) : (o : NodeOp) → Option o.Res
  | .agentListening sessionId endpoint agentNat =>
    some (f.agentListening sessionId endpoint agentNat).1
  | .clientConnected sessionId => some (f.clientConnected sessionId).1
  | .connectionFailed sessionId => some (f.connectionFailed sessionId).1
  | _ => none

theorem World.openHandler_report {o : NodeOp} {r answer : o.Res}
    (h : World.openHandler B faulty lookups c (.node me o) w = some (r, w'))
    (ho : o.report (w.node me).facilitator = some answer) : r = answer := by
  obtain hexec | ⟨-, ⟨n, id, m, hsend⟩ | ⟨n, hiter, -⟩⟩ := World.openHandler_cases h
  · obtain ⟨n', hn', -⟩ := World.exec_node.mp hexec
    cases o <;> cases ho <;> cases c <;>
      simp only [NodeOp.exec, reduceCtorEq, Option.some.injEq, Prod.mk.injEq] at hn'
    all_goals exact hn'.1.symm
  · cases hsend
    cases ho
  · cases hiter
    cases ho

/-- A call that is one critical section. -/
theorem World.play_node {α : Type} {o : NodeOp} {f : o.Res → α} {cs : List Choice} {a : α}
    (h : Prog.play (World.openHandler B faulty lookups) (.op (.node me o) fun r => .ret (f r)) cs w =
      some (a, w')) :
    ∃ c r, World.openHandler B faulty lookups c (.node me o) w = some (r, w') ∧ a = f r := by
  obtain ⟨c, rest, r, w₁, -, hop, hret⟩ := Prog.play_op_iff.mp h
  obtain ⟨-, rfl, rfl⟩ := Prog.play_ret_iff.mp hret
  exact ⟨c, r, hop, rfl⟩

theorem World.openHandler_uuid {r : String}
    (h : World.openHandler B faulty lookups c .uuid w = some (r, w')) :
    r ∉ w.issued ∧ w'.node = w.node ∧ w'.issued = r :: w.issued := by
  obtain hexec | ⟨-, ⟨n, id, m, ho⟩ | ⟨n, ho, -⟩⟩ := World.openHandler_cases h
  · obtain ⟨-, hfresh, rfl⟩ := World.exec_uuid.mp hexec
    exact ⟨hfresh, rfl, rfl⟩
  · cases ho
  · cases ho

theorem World.openHandler_now {r : Int}
    (h : World.openHandler B faulty lookups c .now w = some (r, w')) :
    c = .read r ∧ w'.node = w.node ∧ w'.issued = w.issued := by
  obtain hexec | ⟨-, ⟨n, id, m, ho⟩ | ⟨n, ho, -⟩⟩ := World.openHandler_cases h
  · obtain ⟨rfl, -, -, rfl⟩ := World.exec_now.mp hexec
    exact ⟨rfl, rfl, rfl⟩
  · cases ho
  · cases ho

end

namespace Tcp

variable {B : Backend} {faulty lookups : Bool} {w w' : World} {me : String}

theorem openHandler_draws {sessionId : String} {now : Int} {entries : List (Σ _ : String, AgentState)}
    (h : Draws (World.openHandler B faulty lookups) me w sessionId now entries w') :
    sessionId ∉ w.issued ∧ (w'.node me).facilitator = (w.node me).facilitator ∧
      w'.issued = sessionId :: w.issued := by
  cases h with
  | mk huuid hnow hiter =>
    obtain ⟨hfresh, hnode₁, hissued₁⟩ := World.openHandler_uuid huuid
    obtain ⟨-, hnode₂, hissued₂⟩ := World.openHandler_now hnow
    obtain ⟨hnode₃, hissued₃⟩ := World.openHandler_node hiter
    refine ⟨hfresh, ?_, ?_⟩
    · rw [hnode₃, hnode₂, hnode₁]
      rfl
    · rw [hissued₃, hissued₂, hissued₁]

theorem FacilitatorCall.requestConnection_effect {subdomain clientAddr : String} {cs : List Choice}
    {b : Returned}
    (h : ((FacilitatorCall.requestConnection subdomain clientAddr).returned me).play
      (World.openHandler B faulty lookups) cs w = some (b, w')) :
    Effect (w.node me).facilitator w.issued (.requestConnection subdomain clientAddr) cs b
      (w'.node me).facilitator w'.issued := by
  obtain ⟨cs₁, cs₂, r, w₁, rfl, hrun, hret⟩ := Prog.play_bind_iff.mp h
  obtain ⟨-, rfl, rfl⟩ := Prog.play_ret_iff.mp hret
  cases requestConnection_facilitates hrun with
  | unknown hdraws hfound =>
    obtain ⟨hfresh, hfacilitator, hissued⟩ := openHandler_draws hdraws
    rw [hfacilitator, hissued]
    exact .refused hfresh
  | wrongProtocol hdraws hfound hprotocol =>
    obtain ⟨hfresh, hfacilitator, hissued⟩ := openHandler_draws hdraws
    rw [hfacilitator, hissued]
    exact .refused hfresh
  | asked hdraws hfound hprotocol hinsert hsend hr =>
    obtain ⟨hfresh, hfacilitator, hissued⟩ := openHandler_draws hdraws
    obtain ⟨hnode₁, hissued₁⟩ := World.openHandler_node hinsert
    obtain ⟨hnode₂, hissued₂⟩ := World.openHandler_node hsend
    rw [hnode₂, hissued₂, hissued₁, hissued]
    show Effect _ _ _ _ _ (World.node _ me).facilitator _
    rw [hnode₁, hfacilitator]
    exact .inserted hfresh

/-- Every call has one of the effects. -/
theorem FacilitatorCall.returned_effect {call : FacilitatorCall} {cs : List Choice} {b : Returned}
    (h : (call.returned me).play (World.openHandler B faulty lookups) cs w = some (b, w')) :
    Effect (w.node me).facilitator w.issued call cs b (w'.node me).facilitator w'.issued := by
  cases call with
  | requestConnection subdomain clientAddr => exact requestConnection_effect h
  | agentListening sessionId agentEndpoint agentNat =>
    obtain ⟨c, r, hop, rfl⟩ := World.play_node h
    obtain ⟨hfacilitator, hissued⟩ := World.openHandler_node hop
    rw [hfacilitator, hissued, World.openHandler_report hop rfl]
    exact .agentListening
  | clientConnected sessionId =>
    obtain ⟨c, r, hop, rfl⟩ := World.play_node h
    obtain ⟨hfacilitator, hissued⟩ := World.openHandler_node hop
    rw [hfacilitator, hissued, World.openHandler_report hop rfl]
    exact .clientConnected
  | connectionFailed sessionId =>
    obtain ⟨c, r, hop, rfl⟩ := World.play_node h
    obtain ⟨hfacilitator, hissued⟩ := World.openHandler_node hop
    rw [hfacilitator, hissued, World.openHandler_report hop rfl]
    exact .connectionFailed
  | cleanupSessions timeoutMs =>
    obtain ⟨c, rest, now, w₁, rfl, hnow, hrest⟩ := Prog.play_op_iff.mp h
    obtain ⟨rfl, hnode, hissued⟩ := World.openHandler_now hnow
    obtain ⟨c, r, hop, rfl⟩ := World.play_node hrest
    obtain ⟨hfacilitator, hissued'⟩ := World.openHandler_node hop
    rw [hfacilitator, hissued', hissued, hnode]
    exact .cleanupSessions

/-- The choices of a `request_connection` that finds an agent and reaches it. -/
def reached (sessionId : String) : List Choice :=
  [.fresh sessionId, .read 1000, .order [⟨"agent", ⟨0, "app", 22, "localhost", .tcp, 0⟩⟩], .go,
    .io true]

end Tcp

end Jrok
