import Jrok.Agent.Registry
import Jrok.Http.Response

/-!
# Requests to the connection facilitator

`request_connection` and the HTTP handlers of `tcp/mod.rs`.
-/

namespace Jrok

open Concurrency

namespace Tcp

variable (me : String)

/-- The session that `request_connection` creates. -/
def newSession (sessionId : String) (now : Int) (subdomain clientAddr agentId : String) :
    ConnectionSession where
  sessionId := sessionId
  subdomain := subdomain
  clientAddr := clientAddr
  agentId := agentId
  agentEndpoint := none
  status := .findingAgent
  createdAt := now
  clientNat := Facilitator.detectClientNat clientAddr
  agentNat := none
  directConnection :=
    Facilitator.canUseDirectConnection (Facilitator.detectClientNat clientAddr)

/-- The message that asks the agent of a session for an endpoint. -/
def listenRequest (session : ConnectionSession) : Message :=
  .tcpListenRequest session.sessionId (session.clientNat.map .ofInfo)

/-- The part of `request_connection` after the registry's answer. -/
def facilitate (sessionId : String) (now : Int) (subdomain clientAddr : String) :
    Option (String × AgentState) → Call ConnectionSession
  | none => throw (.tunnelNotFound subdomain)
  | some (agentId, agent) => do
    if agent.protocol ≠ .tcp then throw (.badRequest "Agent is not configured for TCP")
    let session := newSession sessionId now subdomain clientAddr agentId
    critical me (.sessionsInsert session)
    AgentRegistry.sendMessage me agentId (listenRequest session)
    return session

def requestConnection (subdomain clientAddr : String) : Call ConnectionSession := do
  let sessionId ← newUuid
  let now ← currentTimeMs
  let found ← AgentRegistry.getBySubdomain me subdomain
  facilitate me sessionId now subdomain clientAddr found

/-! ## Handlers -/

/-- `connectInfo` is the address that the server has put into the extensions of the request, where
    it puts one there; without it the extractor rejects the request. -/
def handleTcpConnectionRequest (subdomain : String) :
    (connectInfo : Option String) → ServerProg Response
  | none => return .rejection 500
  | some clientAddr => do
    match ← (requestConnection me subdomain clientAddr).run with
    | .ok session =>
      return .json 202
        [("session_id", .str session.sessionId), ("status", .str "pending"),
          ("message", .str
            "Agent is preparing connection. Poll /tcp/session/\x7bsession_id\x7d for status."),
          ("poll_url", .str ("/tcp/session/" ++ session.sessionId))]
    | .error e => return .text 404 ("Service not found: " ++ e.text)

/-- The object that describes a session to its client. -/
def sessionStatus (sessionId : String) (session : ConnectionSession) : List (String × Json) :=
  match session.status with
  | .pending | .findingAgent | .requesting =>
    [("session_id", .str sessionId), ("status", .str "pending"),
      ("message", .str "Waiting for agent...")]
  | .holePunching =>
    [("session_id", .str sessionId), ("status", .str "hole_punching"),
      ("message", .str "NAT traversal in progress"),
      ("client_nat", .opt .natInfo session.clientNat),
      ("agent_nat", .opt .natInfo session.agentNat)]
  | .ready =>
    match session.agentEndpoint with
    | some endpoint =>
      [("session_id", .str sessionId), ("status", .str "ready"),
        ("agent_endpoint", .str endpoint), ("message", .str "Connect directly to this endpoint"),
        ("instruction", .str ("Connect directly to: " ++ endpoint)),
        ("direct_connection", .bool session.directConnection)]
    | none =>
      [("session_id", .str sessionId), ("status", .str "pending"),
        ("message", .str "Agent endpoint not yet available")]
  | .connected =>
    [("session_id", .str sessionId), ("status", .str "connected"),
      ("agent_endpoint", .opt .str session.agentEndpoint),
      ("message", .str "Connection established successfully"),
      ("direct", .bool session.directConnection)]
  | .relayed =>
    [("session_id", .str sessionId), ("status", .str "relayed"),
      ("message", .str "Connection relayed through server")]
  | .failed =>
    [("session_id", .str sessionId), ("status", .str "failed"),
      ("message", .str "Connection failed")]

def getSessionStatus (sessionId : String) : ServerProg Response := do
  match ← critical me (.getSession sessionId) with
  | some session => return .json 200 (sessionStatus sessionId session)
  | none => return .text 404 "Session not found or expired"

/-- The handler of `POST /agent/listening`. -/
def agentListening (sessionId endpoint : String) (agentNat : Option NatInfoSer) :
    ServerProg Response := do
  match ← critical me (.agentListening sessionId endpoint (agentNat.map .ofSer)) with
  | .ok () => return .text 200 "Listening recorded"
  | .error e => return .text 404 ("Session not found: " ++ e.text)

def reportConnectionFailure (sessionId : String) : ServerProg Response := do
  match ← critical me (.connectionFailed sessionId) with
  | .ok relayEndpoint =>
    return .json 503
      [("session_id", .str sessionId), ("status", .str "relayed"),
        ("relay_endpoint", .str relayEndpoint),
        ("message", .str "Direct connection failed, using relay")]
  | .error e => return .text 404 ("Session not found: " ++ e.text)

def cleanupSessions (timeoutMs : Int) : Call Unit := do
  let now ← currentTimeMs
  critical me (.cleanupSessions (subI64 now timeoutMs))

/-- The calls of the facilitator that change its sessions. -/
inductive FacilitatorCall where
  | requestConnection (subdomain clientAddr : String)
  | agentListening (sessionId agentEndpoint : String) (agentNat : Option NatInfo)
  | clientConnected (sessionId : String)
  | connectionFailed (sessionId : String)
  | cleanupSessions (timeoutMs : Int)
  deriving DecidableEq

def FacilitatorCall.run : FacilitatorCall → ServerProg Unit
  | .requestConnection subdomain clientAddr => do
    let _ ← (Tcp.requestConnection me subdomain clientAddr).run
  | .agentListening sessionId agentEndpoint agentNat => do
    let _ ← critical me (.agentListening sessionId agentEndpoint agentNat)
  | .clientConnected sessionId => do
    let _ ← critical me (.clientConnected sessionId)
  | .connectionFailed sessionId => do
    let _ ← critical me (.connectionFailed sessionId)
  | .cleanupSessions timeoutMs => do
    let _ ← (Tcp.cleanupSessions me timeoutMs).run

/-! ## Programs as trees -/

section Trees

variable {me}

theorem facilitate_eq (sessionId : String) (now : Int) (subdomain clientAddr : String)
    (found : Option (String × AgentState)) :
    (facilitate me sessionId now subdomain clientAddr found).run =
      match found with
      | none => .ret (.error (.tunnelNotFound subdomain))
      | some (agentId, agent) =>
        if agent.protocol = .tcp then
          .op (.node me (.sessionsInsert
            (newSession sessionId now subdomain clientAddr agentId))) fun _ =>
            (AgentRegistry.sendMessage me agentId (listenRequest
              (newSession sessionId now subdomain clientAddr agentId))).run >>= fun r =>
              .ret (r.map fun _ => newSession sessionId now subdomain clientAddr agentId)
        else .ret (.error (.badRequest "Agent is not configured for TCP")) := by
  rcases found with _ | ⟨agentId, agent⟩
  · rfl
  · by_cases htcp : agent.protocol = .tcp
    · simp only [facilitate, htcp, ne_eq, not_true_eq_false, if_false, if_true]
      refine congrArg (Prog.op _) (funext fun _ =>
        congrArg ((AgentRegistry.sendMessage me agentId _).run >>= ·) (funext fun r => ?_))
      cases r <;> rfl
    · simp only [facilitate, htcp, ne_eq, not_false_eq_true, if_true, if_false]
      rfl

theorem requestConnection_eq (subdomain clientAddr : String) :
    (requestConnection me subdomain clientAddr).run = .op .uuid fun sessionId =>
      .op .now fun now => .op (.node me .agentsIter) fun entries =>
        (facilitate me sessionId now subdomain clientAddr
          (AgentRegistry.findBySubdomain subdomain entries)).run := rfl

/-- The operations of `request_connection`. -/
inductive SessionOp (me : String) (subdomain clientAddr : String) : Op → Prop where
  | uuid : SessionOp me subdomain clientAddr .uuid
  | now : SessionOp me subdomain clientAddr .now
  | iter : SessionOp me subdomain clientAddr (.node me .agentsIter)
  | insert (sessionId : String) (now : Int) (agentId : String) :
    SessionOp me subdomain clientAddr (.node me (.sessionsInsert
      (Tcp.newSession sessionId now subdomain clientAddr agentId)))
  | send (agentId sessionId : String) (clientNat : Option NatInfoSer) :
    SessionOp me subdomain clientAddr
      (.node me (.agentsSend agentId (.tcpListenRequest sessionId clientNat)))

theorem requestConnection_issues (subdomain clientAddr : String) :
    (requestConnection me subdomain clientAddr).run.Issues (SessionOp me subdomain clientAddr) := by
  rw [requestConnection_eq]
  refine ⟨.uuid, fun sessionId => ⟨.now, fun now => ⟨.iter, fun entries => ?_⟩⟩⟩
  show Prog.Issues _ (facilitate me sessionId now subdomain clientAddr
    (AgentRegistry.findBySubdomain subdomain entries)).run
  rw [facilitate_eq]
  cases AgentRegistry.findBySubdomain subdomain entries with
  | none => trivial
  | some found =>
    obtain ⟨agentId, agent⟩ := found
    by_cases htcp : agent.protocol = .tcp
    · simp only [htcp, if_true]
      refine ⟨.insert sessionId now agentId, fun _ => Prog.Issues.bind ?_ fun _ => trivial⟩
      rw [AgentRegistry.sendMessage_eq]
      refine ⟨.send agentId _ _, fun sent => ?_⟩
      rcases sent with _ | _ | _ <;> trivial
    · simp only [htcp, if_false]
      trivial

end Trees

/-! ## A run of `request_connection` -/

section Runs

variable {σ : Type} {me subdomain clientAddr : String}

/-- The first steps of the run: an id is drawn, the clock is read and the agents are listed. -/
inductive Draws (h : Handler serverSig σ Choice) (me : String) (x : σ) :
    String → Int → List (Σ _ : String, AgentState) → σ → Prop where
  | mk {c₁ c₂ c₃ : Choice} {sessionId : String} {now : Int}
      {entries : List (Σ _ : String, AgentState)} {x₁ x₂ x₃ : σ}
      (huuid : h c₁ .uuid x = some (sessionId, x₁)) (hnow : h c₂ .now x₁ = some (now, x₂))
      (hiter : h c₃ (.node me .agentsIter) x₂ = some (entries, x₃)) :
      Draws h me x sessionId now entries x₃

/-- The steps of a whole run, and what it returns. -/
inductive Facilitates (h : Handler serverSig σ Choice) (me subdomain clientAddr : String) (x : σ) :
    Except Error ConnectionSession → σ → Prop where
  | unknown {sessionId : String} {now : Int} {entries : List (Σ _ : String, AgentState)} {x₁ : σ}
      (hdraws : Draws h me x sessionId now entries x₁)
      (hfound : AgentRegistry.findBySubdomain subdomain entries = none) :
      Facilitates h me subdomain clientAddr x (.error (.tunnelNotFound subdomain)) x₁
  | wrongProtocol {sessionId agentId : String} {now : Int}
      {entries : List (Σ _ : String, AgentState)} {agent : AgentState} {x₁ : σ}
      (hdraws : Draws h me x sessionId now entries x₁)
      (hfound : AgentRegistry.findBySubdomain subdomain entries = some (agentId, agent))
      (hprotocol : agent.protocol ≠ .tcp) :
      Facilitates h me subdomain clientAddr x
        (.error (.badRequest "Agent is not configured for TCP")) x₁
  | asked {sessionId agentId : String} {now : Int} {entries : List (Σ _ : String, AgentState)}
      {agent : AgentState} {c c' : Choice} {sent : Option Bool}
      {r : Except Error ConnectionSession} {x₁ x₂ x₃ : σ}
      (hdraws : Draws h me x sessionId now entries x₁)
      (hfound : AgentRegistry.findBySubdomain subdomain entries = some (agentId, agent))
      (hprotocol : agent.protocol = .tcp)
      (hinsert : h c (.node me (.sessionsInsert
        (newSession sessionId now subdomain clientAddr agentId))) x₁ = some ((), x₂))
      (hsend : h c' (.node me (.agentsSend agentId (listenRequest
        (newSession sessionId now subdomain clientAddr agentId)))) x₂ = some (sent, x₃))
      (hr : r = .ok (newSession sessionId now subdomain clientAddr agentId) ∧ sent = some true ∨
        (∃ e, r = .error e) ∧ sent ≠ some true) :
      Facilitates h me subdomain clientAddr x r x₃

theorem requestConnection_facilitates {h : Handler serverSig σ Choice} {cs : List Choice}
    {r : Except Error ConnectionSession} {x x' : σ}
    (hplay : (requestConnection me subdomain clientAddr).run.play h cs x = some (r, x')) :
    Facilitates h me subdomain clientAddr x r x' := by
  rw [requestConnection_eq] at hplay
  obtain ⟨_, _, sessionId, x₁, -, huuid, hplay⟩ := Prog.play_op_iff.mp hplay
  obtain ⟨_, _, now, x₂, -, hnow, hplay⟩ := Prog.play_op_iff.mp hplay
  obtain ⟨_, _, entries, x₃, -, hiter, hplay⟩ := Prog.play_op_iff.mp hplay
  have hdraws : Draws h me x sessionId now entries x₃ := .mk huuid hnow hiter
  rw [facilitate_eq] at hplay
  cases hfound : AgentRegistry.findBySubdomain subdomain entries with
  | none =>
    rw [hfound] at hplay
    obtain ⟨-, rfl, rfl⟩ := Prog.play_ret_iff.mp hplay
    exact .unknown hdraws hfound
  | some found =>
    obtain ⟨agentId, agent⟩ := found
    simp only [hfound] at hplay
    by_cases hprotocol : agent.protocol = .tcp
    · rw [if_pos hprotocol] at hplay
      obtain ⟨_, _, _, x₄, -, hinsert, hplay⟩ := Prog.play_op_iff.mp hplay
      obtain ⟨_, _, r₁, x₅, -, hplay, hret⟩ := Prog.play_bind_iff.mp hplay
      obtain ⟨-, rfl, rfl⟩ := Prog.play_ret_iff.mp hret
      obtain ⟨_, sent, hsend, hok, -⟩ := AgentRegistry.sendMessage_play hplay
      apply Facilitates.asked hdraws hfound hprotocol hinsert hsend
      cases r₁ with
      | ok u => exact .inl ⟨rfl, hok.mp rfl⟩
      | error e =>
        apply Or.inr
        refine ⟨⟨e, rfl⟩, ?_⟩
        intro hsent
        cases hok.mpr hsent
    · rw [if_neg hprotocol] at hplay
      obtain ⟨-, rfl, rfl⟩ := Prog.play_ret_iff.mp hplay
      exact .wrongProtocol hdraws hfound hprotocol

end Runs

end Tcp

end Jrok
