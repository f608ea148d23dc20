import Jrok.Agent.Frames
import Jrok.Cluster.Loops
import Jrok.Db.ApiKeys
import Jrok.Tcp.Requests
import Jrok.Tunnel.Proxy

/-!
# The tasks of the servers

What `main` has running once a server has started: a task for every HTTP request and every
WebSocket, the ticks of the two loops, and the one that waits for Ctrl-C. Each runs once; a
server takes any number of each, in any order and at the same time. The start of a server, which
registers it in the database, is not among them: no server starts again in a run.
-/

namespace Jrok

open Concurrency

/-- What a server is called for: a request to one of the routes, as its extractors read it, or
    `request_connection` by the program that the server is a part of. `/health`, `/stats` and the
    relay stub, which touch nothing of a `Node` but counters for display, are left out. -/
inductive ServerCall where
  | proxy (request : Tunnel.ProxyRequest)
  | tcp (subdomain : String)
  | sessionStatus (sessionId : String)
  | agentListening (sessionId endpoint : String) (agentNat : Option NatInfoSer)
  | connectionFailure (sessionId : String)
  | requestConnection (subdomain clientAddr : String)

/-- What a call is answered. -/
inductive Answer where
  | http (response : Response)
  | session (result : Except Error ConnectionSession)
  deriving DecidableEq

/-- `main` serves its router without connect info. -/
def ServerCall.run (H : HeaderValues) (me : String) : ServerCall → ServerProg Answer
  | .proxy request => do return .http (← Tunnel.proxyHttp me H request)
  | .tcp subdomain => do return .http (← Tcp.handleTcpConnectionRequest me subdomain none)
  | .sessionStatus sessionId => do return .http (← Tcp.getSessionStatus me sessionId)
  | .agentListening sessionId endpoint agentNat => do
    return .http (← Tcp.agentListening me sessionId endpoint agentNat)
  | .connectionFailure sessionId => do
    return .http (← Tcp.reportConnectionFailure me sessionId)
  | .requestConnection subdomain clientAddr => do
    return .session (← (Tcp.requestConnection me subdomain clientAddr).run)

/-- A task of a server. -/
inductive Work where
  | request (n : Nat)
  | connection (conn : Nat)
  /-- the writer of a connection goes through its loop for the `k`-th time -/
  | writer (conn k : Nat)
  | heartbeat (n : Nat)
  | cleanup (n : Nat)
  | shutdown
  deriving DecidableEq

/-- What comes from outside: the calls of a server, and the frames on its connections. -/
structure Traffic where
  request : String → Nat → ServerCall
  frames : String → Nat → List (Option Message)

/-- What all servers run with. -/
structure Deployment where
  codec : Codec
  headers : HeaderValues
  backend : Backend
  fleet : Fleet

/-- A deployment whose agents use the API key `secret`. -/
def Deployment.sample : Deployment where
  codec := ApiKeys.sampleCodec
  headers := Tunnel.sampleHeaders
  backend := .keyed none
  fleet := .behind "jrok.example" "tcp.jrok.example"

variable (D : Deployment) (T : Traffic) (me : String)

/-- A request ends with its answer, the other tasks with nothing. -/
def Work.run : Work → ServerProg (Option Answer)
  | .request n => do
    let answer ← (T.request me n).run D.headers me
    return some answer
  | .connection conn => do
    let _ ← Connection.handleAgentConnection D.codec D.backend me conn (T.frames me conn)
    return none
  | .writer conn _ => do
    let _ ← Connection.writeNext me conn
    return none
  | .heartbeat _ => do
    Cluster.heartbeatTick (D.fleet.config me)
    return none
  | .cleanup _ => do
    Cluster.cleanupTick (D.fleet.config me)
    return none
  | .shutdown => do
    let _ ← (Cluster.shutdown (D.fleet.config me)).run
    return none

/-- The program of a task, which is named by its server and its work. -/
def program (t : String × Work) : ServerProg (Option Answer) := t.2.run D T t.1

/-- The servers at work. -/
def serving (h : Handler serverSig World Choice) :
    System serverSig (String × Work) (Option (Option Answer)) Unit World Choice :=
  .oneShot (fun _ => h) (program D T)

/-- A pool of servers at work, and its log. -/
abbrev ServerPool : Type :=
  Config serverSig (String × Work) (Option (Option Answer))
    (World × Log serverSig (String × Work))

/-- The servers at work where a send may end in any way, and a look-up where `lookups` is set. -/
abbrev openServing (faulty lookups : Bool) :
    System serverSig (String × Work) (Option (Option Answer)) Unit
      (World × Log serverSig (String × Work)) Choice :=
  (serving D T (World.openHandler D.backend faulty lookups)).logged

/-- The log neither adds nor removes runs of the servers. -/
theorem serving_logged {faulty lookups : Bool} {c₀ : ServerPool}
    {c : Config serverSig (String × Work) (Option (Option Answer)) World} :
    (serving D T (World.openHandler D.backend faulty lookups)).Reachable
        (System.Config.erase c₀) c ↔
      ∃ c', (openServing D T faulty lookups).Reachable c₀ c' ∧ System.Config.erase c' = c :=
  System.reachable_observe_iff

/-- The servers before their first task, with the API key `secret`. -/
def ready : ServerPool := ⟨(ApiKeys.keyStored, []), fun _ => .idle none⟩

/-- An agent is registered on a connection of the server `s`. -/
def registering (conn : Nat) (agentId token : String) : List (Move (String × Work) Unit Choice) :=
  .start ("s", .connection conn) () ::
    [.go, .go, .fresh agentId, .fresh token, .go, .go, .read 1000, .read 1000, .read 1000, .go,
      .read 1000, .go, .go, .go].map fun c => .act ("s", .connection conn) c

/-! ## The operations of each task -/

/-- The operations of `proxy_http`. -/
inductive ProxyOp (H : HeaderValues) (me : String) (request : Tunnel.ProxyRequest) : Op → Prop where
  | iter : ProxyOp H me request (.node me .agentsIter)
  | server : ProxyOp H me request (.sql (.getAgentServer request.subdomain))
  | uuid : ProxyOp H me request .uuid
  | insert (requestId : String) : ProxyOp H me request (.node me (.pendingInsert requestId))
  | send (agentId requestId : String) :
    ProxyOp H me request (.node me (.agentsSend agentId (request.message H requestId)))
  | receive (pending : Nat) : ProxyOp H me request (.node me (.oneshotRecv pending))
  | remove (requestId : String) : ProxyOp H me request (.node me (.pendingRemove requestId))

/-- The operations of a call. -/
def ServerCall.Performs (H : HeaderValues) (me : String) : ServerCall → Op → Prop
  | .proxy request, o => ProxyOp H me request o
  | .tcp _, _ => False
  | .sessionStatus sessionId, o => o = .node me (.getSession sessionId)
  | .agentListening sessionId endpoint agentNat, o =>
    o = .node me (.agentListening sessionId endpoint (agentNat.map .ofSer))
  | .connectionFailure sessionId, o => o = .node me (.connectionFailed sessionId)
  | .requestConnection subdomain clientAddr, o => Tcp.SessionOp me subdomain clientAddr o

/-- The operations of the two loops and of `shutdown`. -/
inductive ClusterOp (me : String) : Op → Prop where
  | upkeep {o : Op} (h : AgentRegistry.UpkeepOp o) : ClusterOp me o
  | state : ClusterOp me (.sql .getClusterState)
  | beat (now : Int) : ClusterOp me (.sql (.sendHeartbeat now me))
  | lead (term now staleBefore : Int) : ClusterOp me (.sql (.becomeLeader me term now staleBefore))
  | renew (now : Int) : ClusterOp me (.sql (.renewLeadership now me))
  | store (b : Bool) : ClusterOp me (.node me (.storeLeader b))
  | markStale (cutoff : Int) : ClusterOp me (.sql (.markStaleServers cutoff))
  | deactivate : ClusterOp me (.sql .deactivateAgentsOfUnhealthyServers)
  | unhealthy : ClusterOp me (.sql (.markServerUnhealthy me))
  | unregisterAll (now : Int) : ClusterOp me (.sql (.unregisterAllAgents now me))

/-- The operations of a task. -/
def Work.Performs (D : Deployment) (T : Traffic) (me : String) : Work → Op → Prop
  | .request n, o => (T.request me n).Performs D.headers me o
  | .connection conn, o => o = .node me (.openConnection conn) ∨
    o = .node me (.closeConnection conn) ∨
    ∃ reader, ∃ frame ∈ T.frames me conn, Connection.FrameOp D.codec me reader frame o
  | .writer conn _, o => o = .node me (.recv conn) ∨ o = .node me (.closeWriter conn) ∨
    ∃ m, o = .node me (.socketSend conn m)
  | .heartbeat _, o | .cleanup _, o | .shutdown, o => ClusterOp me o

section Issues

variable {D T me}

theorem proxyHttp_issues {H : HeaderValues} (request : Tunnel.ProxyRequest) :
    (Tunnel.proxyHttp me H request).Issues (ProxyOp H me request) := by
  rw [Tunnel.proxyHttp_eq]
  refine ⟨.iter, fun entries => ?_⟩
  dsimp only
  cases AgentRegistry.findBySubdomain request.subdomain entries with
  | none =>
    rw [Tunnel.redirect_eq]
    refine ⟨.server, fun r => ?_⟩
    rcases r with _ | _ | _ <;> trivial
  | some found =>
    simp only [Tunnel.forward_eq]
    refine ⟨.uuid, fun requestId => ⟨.insert requestId, fun pending =>
      ⟨.send found.1 requestId, fun sent => ?_⟩⟩⟩
    rcases sent with _ | _ | _
    · exact ⟨.remove requestId, fun _ => trivial⟩
    · exact ⟨.remove requestId, fun _ => trivial⟩
    · refine ⟨.receive pending, fun response => ?_⟩
      cases response with
      | none => exact ⟨.remove requestId, fun _ => trivial⟩
      | some response => trivial

theorem ServerCall.run_issues {H : HeaderValues} (call : ServerCall) :
    (call.run H me).Issues (call.Performs H me) := by
  cases call with
  | proxy request => exact (proxyHttp_issues request).bind fun _ => trivial
  | tcp subdomain => trivial
  | sessionStatus sessionId =>
    refine ⟨rfl, fun session => ?_⟩
    cases session <;> trivial
  | agentListening sessionId endpoint agentNat =>
    refine ⟨rfl, fun r => ?_⟩
    cases r <;> trivial
  | connectionFailure sessionId =>
    refine ⟨rfl, fun r => ?_⟩
    cases r <;> trivial
  | requestConnection subdomain clientAddr =>
    exact (Tcp.requestConnection_issues subdomain clientAddr).bind fun _ => trivial

theorem handleAgentConnection_issues (conn : Nat) {X : Codec} {B : Backend}
    (frames : List (Option Message)) :
    (Connection.handleAgentConnection X B me conn frames).Issues fun o : Op =>
      o = .node me (.openConnection conn) ∨ o = .node me (.closeConnection conn) ∨
        ∃ reader, ∃ frame ∈ frames, Connection.FrameOp X me reader frame o := by
  rw [Connection.handleAgentConnection_eq]
  refine ⟨.inl rfl, fun msgTx => Prog.Issues.bind ?_ fun unread => ⟨.inr (.inl rfl), fun _ =>
    trivial⟩⟩
  exact Connection.handleFrames_issues
    (fun reader frame hframe o ho => .inr (.inr ⟨reader, frame, hframe, ho⟩)) _

theorem writeNext_issues (conn : Nat) : (Connection.writeNext me conn).Issues fun o : Op =>
    o = .node me (.recv conn) ∨ o = .node me (.closeWriter conn) ∨
      ∃ m, o = .node me (.socketSend conn m) := by
  refine ⟨.inl rfl, fun received => ?_⟩
  cases received with
  | none => exact ⟨.inr (.inl rfl), fun _ => trivial⟩
  | some m =>
    refine ⟨.inr (.inr ⟨m, rfl⟩), fun ok => ?_⟩
    cases ok with
    | true => trivial
    | false => exact ⟨.inr (.inl rfl), fun _ => trivial⟩

theorem heartbeatTick_issues {config : ServerConfig} (hme : config.serverId = me) :
    (Cluster.heartbeatTick config).Issues (ClusterOp me) := by
  subst hme
  have hstore (b : Bool) : (Cluster.storeLeader config b).Issues (ClusterOp config.serverId) :=
    ⟨.store b, fun _ => trivial⟩
  have hcampaign (now : Int) : (Cluster.campaign config now).Issues (ClusterOp config.serverId) := by
    rw [Cluster.campaign_eq]
    refine ⟨.state, fun state => ⟨.lead _ _ _, fun r => ?_⟩⟩
    dsimp only
    split
    · exact hstore true
    · trivial
  rw [Cluster.heartbeatTick_eq]
  refine ⟨.upkeep .now, fun beat => ⟨.beat beat, fun sent => ?_⟩⟩
  cases sent with
  | error e => trivial
  | ok n =>
    refine ⟨.upkeep .now, fun now => ⟨.state, fun state => ?_⟩⟩
    rcases state with e | _ | state
    · trivial
    · exact hcampaign now
    · show Prog.Issues _ (if _ then _ else _)
      split
      · exact hcampaign now
      · split
        · rw [Cluster.hold_eq]
          refine ⟨.renew now, fun r => ?_⟩
          dsimp only
          split
          · exact hstore true
          · exact hstore false
        · exact hstore false

theorem cleanupTick_issues {config : ServerConfig} :
    (Cluster.cleanupTick config).Issues (ClusterOp me) := by
  refine Prog.Issues.bind ?_ fun _ => Prog.Issues.bind ?_ fun _ => Prog.Issues.bind ?_ fun _ => ?_
  · rw [Db.run_markServersUnhealthy]
    refine ⟨.upkeep .now, fun now => ⟨.markStale _, fun r => ?_⟩⟩
    cases r with
    | error e => trivial
    | ok n => exact ⟨.deactivate, fun _ => trivial⟩
  · exact (AgentRegistry.cleanupStale_issues _ _).mono fun o ho => .upkeep ho
  · exact ⟨.upkeep .now, fun now => ⟨.upkeep (.cleanup _ _), fun r => by cases r <;> trivial⟩⟩
  · trivial

theorem shutdown_issues {config : ServerConfig} (hme : config.serverId = me) :
    (Cluster.shutdown config).run.Issues (ClusterOp me) := by
  subst hme
  refine Prog.Issues.run_bind ?_ fun _ => ?_
  · rw [Db.markServerUnhealthy, run_execute]
    exact ⟨.unhealthy, fun _ => trivial⟩
  · rw [Db.unregisterAllAgents, run_executeAt]
    exact ⟨.upkeep .now, fun now => ⟨.unregisterAll now, fun _ => trivial⟩⟩

/-- Every task keeps to its operations. -/
theorem Work.run_issues (work : Work) : (work.run D T me).Issues (work.Performs D T me) := by
  cases work with
  | request n => exact ((T.request me n).run_issues).bind fun _ => trivial
  | connection conn => exact (handleAgentConnection_issues conn _).bind fun _ => trivial
  | writer conn k => exact (writeNext_issues conn).bind fun _ => trivial
  | heartbeat n => exact (heartbeatTick_issues (D.fleet.serverId_eq me)).bind fun _ => trivial
  | cleanup n => exact cleanupTick_issues.bind fun _ => trivial
  | shutdown => exact (shutdown_issues (D.fleet.serverId_eq me)).bind fun _ => trivial

/-- The operations that serving consists of, but for the admission of agents. -/
def Op.routine : Op → Bool
  | .sql (.registerAgent _) | .sql (.createApiKey _) => false
  | .node _ (.agentsInsert _ _) | .node _ (.cleanupSessions _) => false
  | _ => true

/-- Another operation belongs to a connection that handles a `Register`. -/
theorem Work.performs_admission {work : Work} {o : Op} (h : work.Performs D T me o)
    (ho : o.routine = false) : ∃ conn reader subdomain, work = .connection conn ∧
      Connection.AdmissionOp me reader subdomain o := by
  cases work with
  | request n =>
    simp only [Performs] at h
    cases hcall : T.request me n <;> rw [hcall] at h <;> cases h <;> cases ho
  | connection conn =>
    rcases h with rfl | rfl | ⟨reader, frame, -, hframe⟩
    · cases ho
    · cases ho
    · rcases frame with _ | m
      · exact hframe.elim
      cases m with
      | register =>
        rcases hframe with rfl | h
        · cases ho
        · exact ⟨conn, reader, _, rfl, h⟩
      | heartbeat =>
        obtain ⟨_, -, rfl | rfl | ⟨_, rfl⟩⟩ := hframe <;> cases ho
      | httpResponse | tcpConnect | tcpDisconnect | tcpListenResponse | connectionEstablished =>
        obtain ⟨-, rfl⟩ := hframe
        cases ho
      | _ => exact hframe.elim
  | writer conn k =>
    rcases h with rfl | rfl | ⟨m, rfl⟩ <;> cases ho
  | heartbeat | cleanup | shutdown =>
    cases h <;> try cases ho
    case upkeep h => cases h <;> cases ho

end Issues

/-! ## The events of a log -/

/-- The log of the servers. -/
abbrev ServerLog : Type := Log serverSig (String × Work)

section Events

variable {D T me} {newer older : ServerLog} {e : Event serverSig}

/-- The task of an event may perform its operation. -/
theorem performs {t : String × Work} (h : System.Follows (program D T) (newer ++ (t, e) :: older)) :
    t.2.Performs D T t.1 e.1 := by
  obtain ⟨p, hp⟩ := h.at_split
  exact (hp.issues (Work.run_issues t.2)).1 e (by simp)

/-- The events of a request are a path through its handler. -/
theorem request_path {n : Nat}
    (h : System.Follows (program D T) (newer ++ ((me, .request n), e) :: older)) :
    ∃ p, ((T.request me n).run D.headers me).Path (Log.own (me, .request n) older ++ [e]) p := by
  obtain ⟨p, hp⟩ := h.at_split
  exact hp.of_bind_ret

theorem proxy_path {n : Nat} {request : Tunnel.ProxyRequest} {es : List (Event serverSig)}
    {p : ServerProg Answer} (hcall : T.request me n = .proxy request)
    (h : ((T.request me n).run D.headers me).Path (es ++ [e]) p) :
    ∃ p, (Tunnel.proxyHttp me D.headers request).Path (es ++ [e]) p := by
  rw [hcall] at h
  exact h.of_bind_ret

/-- A request has returned the answer that its events lead to. -/
theorem request_returned {n : Nat} {c : ServerPool} {answer : Option Answer}
    (h : System.Traced (program D T) c) (hidle : c.task (me, .request n) = .idle (some answer)) :
    ∃ a, answer = some a ∧
      ((T.request me n).run D.headers me).Path (Log.own (me, .request n) c.shared.2) (.ret a) := by
  have hpath := h (me, .request n)
  simp only [hidle] at hpath
  obtain ⟨es₁, es₂, a, hown, hp, hret⟩ := Prog.path_bind_ret_iff.mp hpath
  obtain ⟨rfl, hanswer⟩ := Prog.path_ret_iff.mp hret
  rw [hown, List.append_nil]
  exact ⟨a, Prog.ret.inj hanswer, hp⟩

theorem proxy_returned {n : Nat} {request : Tunnel.ProxyRequest} {c : ServerPool}
    {answer : Option Answer} (hcall : T.request me n = .proxy request)
    (h : System.Traced (program D T) c) (hidle : c.task (me, .request n) = .idle (some answer)) :
    ∃ response, answer = some (.http response) ∧ (Tunnel.proxyHttp me D.headers request).Path
      (Log.own (me, .request n) c.shared.2) (.ret response) := by
  obtain ⟨a, rfl, hpath⟩ := request_returned h hidle
  rw [hcall] at hpath
  obtain ⟨es₁, es₂, response, hown, hp, hret⟩ := Prog.path_bind_ret_iff.mp hpath
  obtain ⟨rfl, ha⟩ := Prog.path_ret_iff.mp hret
  rw [hown, List.append_nil]
  exact ⟨response, congrArg some (Prog.ret.inj ha), hp⟩

/-- The events of a connection are a path through `handle_agent_connection`. -/
theorem connection_path {conn : Nat}
    (h : System.Follows (program D T) (newer ++ ((me, .connection conn), e) :: older)) :
    ∃ p, (Connection.handleAgentConnection D.codec D.backend me conn (T.frames me conn)).Path
      (Log.own (me, .connection conn) older ++ [e]) p := by
  obtain ⟨p, hp⟩ := h.at_split
  exact hp.of_bind_ret

/-- What a connection has done so far is a path through `handle_agent_connection`. -/
theorem connection_own {log : ServerLog} (h : System.Follows (program D T) log) (conn : Nat) :
    ∃ p, (Connection.handleAgentConnection D.codec D.backend me conn (T.frames me conn)).Path
      (Log.own (me, .connection conn) log) p := by
  obtain ⟨p, hp⟩ := h (me, .connection conn)
  rcases Prog.path_bind_iff.mp hp with ⟨p', hp', -⟩ | ⟨es₁, es₂, unread, hown, hp', hret⟩
  · exact ⟨p', hp'⟩
  · obtain ⟨rfl, -⟩ := Prog.path_ret_iff.mp hret
    rw [hown, List.append_nil]
    exact ⟨_, hp'⟩

/-- The agent that a connection of `me` has registered last. -/
def registeredOn (me : String) (conn : Nat) (log : ServerLog) : Option String :=
  Connection.lastInserted me (Log.own (me, .connection conn) log)

/-- A connection acts for the agent that it has registered last. -/
theorem ofAgent_event {conn : Nat} {n : String} {o : NodeOp} {r : o.Res}
    (ho : Connection.ofAgent o = true)
    (h : System.Follows (program D T) (newer ++ ((me, .connection conn), ⟨.node n o, r⟩) :: older)) :
    ∃ reader frame later cur, Connection.Handling D.codec D.backend me conn (T.frames me conn)
        (Log.own (me, .connection conn) older) reader frame later cur ∧
      Connection.FrameOp D.codec me reader frame (.node n o) ∧
      reader.agentId = registeredOn me conn older := by
  obtain ⟨p, hp⟩ := connection_path h
  exact Connection.connection_ofAgent ho hp

end Events

/-! ## The entries of a log -/

section Entries

variable {τ α : Type} {s : String}

/-- What is in the map has been inserted. -/
def EntriesInserted (s : String) (m : StringMap AgentState) (log : Log serverSig τ) : Prop :=
  ∀ id st, m.lookup id = some st →
    ∃ v, (v, (⟨.node s (.agentsInsert id st), ()⟩ : Event serverSig)) ∈ log

theorem EntriesInserted.step {m : StringMap AgentState} {log : Log serverSig τ}
    (h : EntriesInserted s m log) (t : τ) (o : Op) (r : o.Res) :
    EntriesInserted s (o.onAgents s m) ((t, ⟨o, r⟩) :: log) := by
  intro id st hentry
  have hold : m.lookup id = some st →
      ∃ v, (v, (⟨.node s (.agentsInsert id st), ()⟩ : Event serverSig)) ∈ (t, ⟨o, r⟩) :: log :=
    fun hentry => (h id st hentry).imp fun v hv => List.mem_cons_of_mem _ hv
  cases o with
  | node n o =>
    by_cases hn : n = s
    · subst hn
      simp only [Op.onAgents, if_true] at hentry
      cases o with
      | agentsInsert id' st' =>
        by_cases hid : id = id'
        · subst hid
          obtain rfl : st' = st := by simpa [NodeOp.onAgents] using hentry
          exact ⟨t, .head _⟩
        · exact hold (by simpa [NodeOp.onAgents, hid] using hentry)
      | agentsRemove id' =>
        by_cases hid : id = id'
        · subst hid
          simp [NodeOp.onAgents] at hentry
        · exact hold (by simpa [NodeOp.onAgents, hid] using hentry)
      | _ => exact hold hentry
    · exact hold (by simpa [Op.onAgents, hn] using hentry)
  | _ => exact hold hentry

/-- An entry of a map that was empty has been inserted. -/
theorem entry_event [DecidableEq τ] {handler : τ → Handler serverSig World Choice}
    {prog : τ → ServerProg α} {P : τ → (o : Op) → o.Res → World × Log serverSig τ → Prop}
    {M : System serverSig τ (Option α) Unit (World × Log serverSig τ) Choice}
    {c₀ c : Config serverSig τ (Option α) (World × Log serverSig τ)}
    (hM : System.KeepsLog M handler prog P) (hagents : ∀ t ch o w r w',
      handler t ch o w = some (r, w') → (w'.node s).agents = o.onAgents s (w.node s).agents)
    (hempty : (c₀.shared.1.node s).agents = ∅) (hidle : ∀ t, c₀.task t = .idle none)
    (hlog : c₀.shared.2 = []) (hr : M.Reachable c₀ c) :
    EntriesInserted s (c.shared.1.node s).agents c.shared.2 := by
  refine (hM.invariant hr hidle hlog
    (fun w log => EntriesInserted s (w.node s).agents log) ?_ ?_).2
  · intro id st hentry
    simp [hempty] at hentry
  · intro w log t ch o r w' _ _ _ hI hop
    rw [hagents t ch o w r w' hop]
    exact hI.step t o r

end Entries

end Jrok
