import Jrok.Server.Traffic
import Jrok.Tcp.Records
import Jrok.Tunnel.Pending

/-!
# Who drives a session

A session comes from `request_connection`. It is reported on by the messages `TcpListenResponse` and
`ConnectionEstablished` of any registered agent, and by anyone at `/agent/listening`. Where every
report on a session comes on the connection of the agent that the session records, nothing else
writes its endpoint and NAT or brings it forward.
-/

namespace Jrok

open Concurrency

namespace Tcp

variable {D : Deployment} {T : Traffic} {me : String} {newer older log : ServerLog}

/-! ## The sessions map as its history -/

/-- The entry of a session on the server `me`. -/
def sessionAt (me k : String) : ServerLog → Option ConnectionSession
  | [] => none
  | (_, e) :: older => e.1.onSession me k (sessionAt me k older)

/-- `Ready`, `HolePunching` or `Connected`. -/
def isForward (status : ConnectionStatus) : Bool :=
  status = .ready || status = .holePunching || status = .connected

/-- The endpoint or the NAT of the agent has changed, or the status has become a forward one. -/
def changed (before : Option ConnectionSession) (after : ConnectionSession) : Bool :=
  before.bind (·.agentEndpoint) ≠ after.agentEndpoint ||
    before.bind (·.agentNat) ≠ after.agentNat ||
    (isForward after.status && before.map (·.status) ≠ some after.status)

/-- The session that an event on the server `me` reports on. -/
def reportsOn (me : String) : Event serverSig → Option String
  | ⟨.node n (.agentListening k _ _), _⟩ => if n = me then some k else none
  | ⟨.node n (.clientConnected k), _⟩ => if n = me then some k else none
  | _ => none

@[simp] theorem changed_self (session : ConnectionSession) :
    changed (some session) session = false := by
  simp [changed]

@[simp] theorem changed_relayed (session : ConnectionSession) :
    changed (some session) { session with status := .relayed } = false := by
  simp [changed, isForward]

@[simp] theorem changed_newSession (sessionId : String) (now : Int)
    (subdomain clientAddr agentId : String) :
    changed none (newSession sessionId now subdomain clientAddr agentId) = false := by
  simp [changed, isForward, newSession]

/-- Only an insertion and a report change a session; a report keeps its agent. -/
theorem changed_cases {o : Op} {r : o.Res} {k : String} {entry : Option ConnectionSession}
    {after : ConnectionSession} (hafter : o.onSession me k entry = some after)
    (hchanged : changed entry after = true) :
    (o = .node me (.sessionsInsert after) ∧ k = after.sessionId) ∨
    (reportsOn me ⟨o, r⟩ = some k ∧ ∃ before, entry = some before ∧
      before.agentId = after.agentId) := by
  have hsame : entry ≠ some after := by
    rintro rfl
    simp at hchanged
  cases o with
  | node n o =>
    by_cases hn : n = me
    · subst hn
      rw [Op.onSession, if_pos rfl] at hafter
      cases o with
      | sessionsInsert session =>
        by_cases hk : k = session.sessionId
        · obtain rfl := Option.some.inj ((if_pos hk).symm.trans hafter)
          exact .inl ⟨rfl, hk⟩
        · exact absurd ((if_neg hk).symm.trans hafter) hsame
      | agentListening sessionId | clientConnected sessionId =>
        by_cases hk : k = sessionId
        · obtain ⟨before, hbefore, rfl⟩ := Option.map_eq_some_iff.mp ((if_pos hk).symm.trans hafter)
          exact .inr ⟨by simp [reportsOn, hk], before, hbefore, rfl⟩
        · exact absurd ((if_neg hk).symm.trans hafter) hsame
      | connectionFailed sessionId =>
        by_cases hk : k = sessionId
        · obtain ⟨before, rfl, rfl⟩ := Option.map_eq_some_iff.mp ((if_pos hk).symm.trans hafter)
          simp at hchanged
        · exact absurd ((if_neg hk).symm.trans hafter) hsame
      | cleanupSessions cutoff => exact absurd (Option.filter_eq_some_iff.mp hafter).1 hsame
      | _ => exact absurd hafter hsame
    · exact absurd ((if_neg hn).symm.trans hafter) hsame
  | _ => exact absurd hafter hsame

/-! ## A session is inserted once -/

/-- A session is inserted under an id that its request has just drawn. -/
theorem requestConnection_insert {subdomain clientAddr n : String} {session : ConnectionSession}
    {es : List (Event serverSig)} {p : ServerProg (Except Error ConnectionSession)} {r : Unit}
    (h : (requestConnection me subdomain clientAddr).run.Path
      (es ++ [⟨.node n (.sessionsInsert session), r⟩]) p) :
    ∃ now listed agentId, es = [⟨.uuid, session.sessionId⟩, ⟨.now, now⟩,
        ⟨.node me .agentsIter, listed⟩] ∧
      session = newSession session.sessionId now subdomain clientAddr agentId := by
  rw [requestConnection_eq] at h
  rcases Prog.path_op_snoc_iff.mp h with ⟨-, _, he, -⟩ | ⟨sessionId, es₁, rfl, h₁⟩
  · cases congrArg Sigma.fst he
  rcases Prog.path_op_snoc_iff.mp h₁ with ⟨-, _, he, -⟩ | ⟨now, es₂, rfl, h₂⟩
  · cases congrArg Sigma.fst he
  rcases Prog.path_op_snoc_iff.mp h₂ with ⟨-, _, he, -⟩ | ⟨listed, es₃, rfl, h₃⟩
  · cases congrArg Sigma.fst he
  rw [facilitate_eq] at h₃
  cases hfound : AgentRegistry.findBySubdomain subdomain listed with
  | none =>
    rw [hfound] at h₃
    exact absurd h₃ Prog.not_path_ret_snoc
  | some found =>
    obtain ⟨agentId, agent⟩ := found
    rw [hfound] at h₃
    by_cases htcp : agent.protocol = .tcp
    · simp only [htcp, if_true] at h₃
      rcases Prog.path_op_snoc_iff.mp h₃ with ⟨rfl, _, he, -⟩ | ⟨_, es₄, rfl, h₄⟩
      · cases congrArg Sigma.fst he
        exact ⟨now, listed, agentId, rfl, rfl⟩
      · -- after the insertion there is only the send
        have hsends := h₄.issues (P := fun o : Op => ∃ m, o = .node me (.agentsSend agentId m)) <| by
          refine Prog.Issues.bind ?_ fun _ => trivial
          rw [AgentRegistry.sendMessage_eq]
          refine ⟨⟨_, rfl⟩, fun sent => ?_⟩
          rcases sent with _ | _ | _ <;> trivial
        obtain ⟨m, heq⟩ := hsends.1 ⟨.node n (.sessionsInsert session), r⟩ (by simp)
        cases heq
    · simp only [htcp, if_false] at h₃
      exact absurd h₃ Prog.not_path_ret_snoc

/-- The events of a request up to the insertion of its session. -/
theorem insert_session_event {u : String × Work} {session : ConnectionSession} {r : Unit}
    (hf : System.Follows (program D T)
      (newer ++ (u, ⟨.node me (.sessionsInsert session), r⟩) :: older)) :
    ∃ now listed subdomain clientAddr agentId,
      Log.own u older = [⟨.uuid, session.sessionId⟩, ⟨.now, now⟩, ⟨.node me .agentsIter, listed⟩] ∧
      session = newSession session.sessionId now subdomain clientAddr agentId := by
  obtain ⟨server, work⟩ := u
  have hperforms : work.Performs D T server (.node me (.sessionsInsert session)) := performs hf
  cases work with
  | request n =>
    obtain ⟨p, hp⟩ := request_path hf
    simp only [Work.Performs] at hperforms
    cases hcall : T.request server n with
    | requestConnection subdomain clientAddr =>
      rw [hcall] at hperforms hp
      obtain rfl : server = me := by
        cases hperforms
        rfl
      obtain ⟨p', hp'⟩ := hp.of_bind_ret
      obtain ⟨now, listed, agentId, hown, hsession⟩ := requestConnection_insert hp'
      exact ⟨now, listed, subdomain, clientAddr, agentId, hown, hsession⟩
    | proxy | tcp | sessionStatus | agentListening | connectionFailure =>
      rw [hcall] at hperforms
      cases hperforms
  | connection conn =>
    rcases hperforms with heq | heq | ⟨reader, frame, -, hframe⟩
    · cases heq
    · cases heq
    · have hof := (Connection.frameOp_node hframe).2.1
      cases hof
  | writer conn k =>
    rcases hperforms with heq | heq | ⟨m, heq⟩ <;> cases heq
  | heartbeat | cleanup | shutdown =>
    cases hperforms with
    | upkeep h => cases h

theorem sessionAt_inserted {k : String} {session : ConnectionSession}
    (h : sessionAt me k log = some session) :
    ∃ u first, first.sessionId = k ∧
      (u, (⟨.node me (.sessionsInsert first), ()⟩ : Event serverSig)) ∈ log := by
  induction log generalizing session with
  | nil => cases h
  | cons head log ih =>
    obtain ⟨u, o, r⟩ := head
    by_cases hinsert : ∃ first, o = .node me (.sessionsInsert first) ∧ k = first.sessionId
    · obtain ⟨first, rfl, hk⟩ := hinsert
      exact ⟨u, first, hk.symm, List.mem_cons_self ..⟩
    · have hother : ∀ s, o = .node me (.sessionsInsert s) → k ≠ s.sessionId := by
        intro s ho hk
        exact hinsert ⟨s, ho, hk⟩
      obtain ⟨before, hbefore, -⟩ := Op.onSession_record hother h
      obtain ⟨u', first, hk, hmem⟩ := ih hbefore
      exact ⟨u', first, hk, .tail _ hmem⟩

/-- A session is never inserted over another one. -/
theorem insert_session_fresh {u : String × Work} {session : ConnectionSession} {r : Unit}
    (hf : System.Follows (program D T)
      (newer ++ (u, ⟨.node me (.sessionsInsert session), r⟩) :: older))
    (hcausal : Causal (Accounted me) older) : sessionAt me session.sessionId older = none := by
  by_contra hsome
  obtain ⟨other, hother⟩ := Option.ne_none_iff_exists'.mp hsome
  obtain ⟨u', first, hfirst, hmem⟩ := sessionAt_inserted hother
  obtain ⟨now, listed, _, _, _, hown, -⟩ := insert_session_event hf
  have hdrawn : (u, (⟨.uuid, session.sessionId⟩ : Event serverSig)) ∈ older := by
    rw [← Log.mem_own, hown]
    simp
  have hdrawn' : (u', (⟨.uuid, first.sessionId⟩ : Event serverSig)) ∈ older := by
    obtain ⟨e₁, e₂, rfl⟩ := List.append_of_mem hmem
    obtain ⟨now', listed', _, _, _, hown', -⟩ := insert_session_event hf.of_append.of_cons
    refine List.mem_append_right _ (.tail _ (Log.mem_own.mp ?_))
    rw [hown']
    simp
  rw [hfirst] at hdrawn'
  obtain rfl := handedOut_unique hcausal hdrawn hdrawn'
  rw [← Log.mem_own, hown] at hmem
  simp at hmem

/-! ## Every run -/

/-- No request at `/agent/listening` names a session that exists, and no message of an agent names
    one of another agent. -/
def OwnReports (me : String) (log : ServerLog) : Prop :=
  ∀ newer older u e k session, log = newer ++ (u, e) :: older → reportsOn me e = some k →
    sessionAt me k older = some session →
    ∃ conn, u.2 = .connection conn ∧ registeredOn me conn older = some session.agentId

/-- The session that a message reports on. -/
def reportFrame : Option Message → Option String
  | some (.tcpListenResponse sessionId _ _) => some sessionId
  | some (.connectionEstablished sessionId _) => some sessionId
  | _ => none

/-- Sessions are driven by their own agents. -/
structure Driven (D : Deployment) (T : Traffic) (me : String) (c : ServerPool) : Prop where
  /-- the history is that of the sessions map -/
  state : ∀ k, c.shared.1.session me k = sessionAt me k c.shared.2
  /-- a change is a report of the session's agent on its connection -/
  changes : ∀ newer older u e k after, c.shared.2 = newer ++ (u, e) :: older →
    sessionAt me k ((u, e) :: older) = some after → changed (sessionAt me k older) after = true →
    ∃ conn reader frame later cur, u = (me, .connection conn) ∧
      Connection.Handling D.codec D.backend me conn (T.frames me conn)
        (Log.own (me, .connection conn) older) reader frame later cur ∧
      reportFrame frame = some k ∧ reader.agentId = some after.agentId ∧
      registeredOn me conn older = some after.agentId

/-- A report on a connection is one of its messages. -/
theorem report_event {u : String × Work} {conn : Nat} {e : Event serverSig} {k : String}
    (hf : System.Follows (program D T) (newer ++ (u, e) :: older))
    (hreports : reportsOn me e = some k) (hu : u.2 = .connection conn) :
    u = (me, .connection conn) ∧ ∃ reader frame later cur,
      Connection.Handling D.codec D.backend me conn (T.frames me conn)
        (Log.own (me, .connection conn) older) reader frame later cur ∧
      reportFrame frame = some k ∧ reader.agentId = registeredOn me conn older := by
  obtain ⟨server, work⟩ := u
  obtain rfl : work = .connection conn := hu
  obtain ⟨o, r⟩ := e
  cases o with
  | node n o =>
    cases o with
    | agentListening sessionId endpoint nat =>
      obtain ⟨rfl, rfl⟩ : n = me ∧ sessionId = k := by simpa [reportsOn] using hreports
      obtain ⟨reader, frame, later, cur, hhandling, hop, hagent⟩ := ofAgent_event rfl hf
      obtain ⟨rfl, -, -, _, rfl, -⟩ := Connection.frameOp_node hop
      exact ⟨rfl, reader, _, later, cur, hhandling, rfl, hagent⟩
    | clientConnected sessionId =>
      obtain ⟨rfl, rfl⟩ : n = me ∧ sessionId = k := by simpa [reportsOn] using hreports
      obtain ⟨reader, frame, later, cur, hhandling, hop, hagent⟩ := ofAgent_event rfl hf
      obtain ⟨rfl, -, -, _, rfl⟩ := Connection.frameOp_node hop
      exact ⟨rfl, reader, _, later, cur, hhandling, rfl, hagent⟩
    | _ => cases hreports
  | _ => cases hreports

section Runs

variable {faulty lookups : Bool} {c₀ c : ServerPool}

/-- The sessions map is what the history has made of it. -/
theorem session_eq_sessionAt (hnode : c₀.shared.1.node me = .new)
    (hidle : ∀ t, c₀.task t = .idle none) (hlog : c₀.shared.2 = [])
    (hr : (openServing D T faulty lookups).Reachable c₀ c) (k : String) :
    c.shared.1.session me k = sessionAt me k c.shared.2 := by
  refine System.Reachable.logged_invariant hr hidle hlog
    (fun w log => ∀ k, w.session me k = sessionAt me k log) ?_ ?_ k
  · simp [World.session, hnode, Node.new, Facilitator.new, sessionAt]
  · intro w log t ch o r w' _ _ hbefore hop k
    rw [World.openHandler_session hop me k, hbefore k]
    rfl

/-- In every run from the start of the server: however requests, messages and calls interleave,
    reports on the sessions of their own agents are all that changes a session. -/
theorem sessions_driven (hnode : c₀.shared.1.node me = .new)
    (hidle : ∀ t, c₀.task t = .idle none) (hlog : c₀.shared.2 = [])
    (hr : (openServing D T faulty lookups).Reachable c₀ c) (hown : OwnReports me c.shared.2) :
    Driven D T me c := by
  have htraced : System.Traced (program D T) c := hr.traced hidle hlog
  have hremembers : Remembers me c.shared.1 c.shared.2 :=
    .of_reachable (by rw [hnode]; rfl) (by simp [hnode, Node.new]) hidle hlog hr
  refine ⟨session_eq_sessionAt hnode hidle hlog hr, ?_⟩
  intro newer older u e k after hsplit hafter hchanged
  have hf := htraced.follows
  have hcausal := hremembers.causal
  rw [hsplit] at hf hcausal
  rcases changed_cases (r := e.2) hafter hchanged with ⟨hinsert, hk⟩ |
    ⟨hreports, before, hbefore, hagent⟩
  · obtain ⟨o, r⟩ := e
    obtain rfl : o = .node me (.sessionsInsert after) := hinsert
    have hfresh := insert_session_fresh hf hcausal.of_append.2
    obtain ⟨now, _, subdomain, clientAddr, agentId, -, hnew⟩ := insert_session_event hf
    rw [hk, hfresh, hnew] at hchanged
    simp at hchanged
  · obtain ⟨conn, hu, hregistered⟩ := hown newer older u e k before hsplit hreports hbefore
    obtain ⟨hconn, reader, frame, later, cur, hhandling, hframe, hid⟩ :=
      report_event hf hreports hu
    rw [hagent] at hregistered
    exact ⟨conn, reader, frame, later, cur, hconn, hhandling, hframe, hid.trans hregistered,
      hregistered⟩

end Runs

/-! ## Reports of others -/

/-- The latest event changes the session otherwise than on the connection of its agent. -/
def usurped (me k : String) : ServerLog → Bool
  | [] => false
  | (u, e) :: older =>
    match sessionAt me k ((u, e) :: older) with
    | some after => changed (sessionAt me k older) after &&
      match u.2 with
      | .connection conn => registeredOn me conn older ≠ some after.agentId
      | _ => true
    | none => false

theorem not_driven_of_usurped {c : ServerPool} {k : String} (h : usurped me k c.shared.2 = true) :
    ¬ Driven D T me c := by
  intro hdriven
  unfold usurped at h
  split at h
  · cases h
  · rename_i u e older hlog
    split at h
    · rename_i after hafter
      obtain ⟨hchanged, hother⟩ := Bool.and_eq_true_iff.mp h
      obtain ⟨conn, _, _, _, _, rfl, -, -, -, hregistered⟩ :=
        hdriven.changes [] older u e k after hlog hafter hchanged
      simp [hregistered] at hother
    · cases h

/-- An agent and a session of it; a stranger and another agent report on the session. -/
def usurping : Traffic where
  request _ n :=
    if n = 0 then .requestConnection "app" "203.0.113.9:4000"
    else .agentListening "session" "198.51.100.66:1" none
  frames _ conn :=
    if conn = 0 then [some (.register "app" 22 "localhost" "tcp" "secret"),
      some (.tcpListenResponse "session" "192.0.2.10:22" none)]
    else [some (.register "other" 22 "localhost" "tcp" "secret"),
      some (.tcpListenResponse "session" "198.51.100.66:1" none)]

/-- Both agents are registered, and there is a session of a client with the first. -/
def requesting : List (Move (String × Work) Unit Choice) :=
  let agent : AgentState := ⟨1, "app", 22, "localhost", .tcp, 1000⟩
  let other : AgentState := ⟨3, "other", 22, "localhost", .tcp, 1000⟩
  registering 0 "a" "x" ++ registering 1 "b" "y" ++
    [.start ("s", .request 0) (), .act ("s", .request 0) (.fresh "session"),
      .act ("s", .request 0) (.read 1000),
      .act ("s", .request 0) (.order [⟨"b", other⟩, ⟨"a", agent⟩]), .act ("s", .request 0) .go]

/-- The endpoint that a client is told. -/
def endpointOf (c : ServerPool) (k : String) : Option String :=
  (c.shared.1.session "s" k).bind (·.agentEndpoint)

/-- A `POST` of a stranger, or a message of another agent, gives the session its own endpoint. -/
theorem session_usurped :
    (∃ c, (serving .sample usurping (World.handler (.keyed none) false)).logged.Reachable ready c ∧
      c.shared.2.head?.map (·.1) = some ("s", .request 1) ∧
      endpointOf c "session" = some "198.51.100.66:1" ∧ ¬ Driven .sample usurping "s" c) ∧
    ∃ c, (serving .sample usurping (World.handler (.keyed none) false)).logged.Reachable ready c ∧
      c.shared.2.head?.map (·.1) = some ("s", .connection 1) ∧
      endpointOf c "session" = some "198.51.100.66:1" ∧ ¬ Driven .sample usurping "s" c := by
  have hpost : ((serving .sample usurping (World.handler (.keyed none) false)).logged.replay
      (requesting ++ [.start ("s", .request 1) (), .act ("s", .request 1) .go]) ready).map
        (fun c => (c.shared.2.head?.map (·.1), endpointOf c "session",
          usurped "s" "session" c.shared.2)) =
            some (some ("s", .request 1), some "198.51.100.66:1", true) := by decide +kernel
  have hother : ((serving .sample usurping (World.handler (.keyed none) false)).logged.replay
      (requesting ++ [.act ("s", .connection 1) .go]) ready).map
        (fun c => (c.shared.2.head?.map (·.1), endpointOf c "session",
          usurped "s" "session" c.shared.2)) =
            some (some ("s", .connection 1), some "198.51.100.66:1", true) := by decide +kernel
  refine ⟨?_, ?_⟩
  · obtain ⟨c, hc, hall⟩ := Option.map_eq_some_iff.mp hpost
    simp only [Prod.mk.injEq] at hall
    exact ⟨c, ⟨_, hc⟩, hall.1, hall.2.1, not_driven_of_usurped hall.2.2⟩
  · obtain ⟨c, hc, hall⟩ := Option.map_eq_some_iff.mp hother
    simp only [Prod.mk.injEq] at hall
    exact ⟨c, ⟨_, hc⟩, hall.1, hall.2.1, not_driven_of_usurped hall.2.2⟩

/-- `OwnReports`, checked event by event. -/
def ownReports (me : String) : ServerLog → Bool
  | [] => true
  | (u, e) :: older => ownReports me older &&
    match (reportsOn me e).bind (sessionAt me · older) with
    | some session =>
      match u.2 with
      | .connection conn => registeredOn me conn older = some session.agentId
      | _ => false
    | none => true

theorem ownReports_sound (h : ownReports me log = true) : OwnReports me log := by
  rintro newer older ⟨server, work⟩ e k session rfl hreports hsession
  induction newer with
  | nil =>
    obtain ⟨-, hhead⟩ := Bool.and_eq_true_iff.mp h
    simp only [hreports, Option.bind_some, hsession] at hhead
    cases work with
    | connection conn => exact ⟨conn, rfl, of_decide_eq_true hhead⟩
    | _ => cases hhead
  | cons head newer ih => exact ih (Bool.and_eq_true_iff.mp h).1

/-- The agent reports on its own session. -/
theorem sessions_driven_reported : ∃ c,
    (openServing .sample usurping false false).Reachable ready c ∧
      endpointOf c "session" = some "192.0.2.10:22" ∧ Driven .sample usurping "s" c := by
  have hrun : ((openServing .sample usurping false false).replay
      (requesting ++ [.act ("s", .connection 0) .go]) ready).map
        (fun c => (endpointOf c "session", ownReports "s" c.shared.2)) =
          some (some "192.0.2.10:22", true) := by decide +kernel
  obtain ⟨c, hc, hboth⟩ := Option.map_eq_some_iff.mp hrun
  obtain ⟨hendpoint, hown⟩ := Prod.mk.inj hboth
  exact ⟨c, ⟨_, hc⟩, hendpoint,
    sessions_driven rfl (fun _ => rfl) rfl ⟨_, hc⟩ (ownReports_sound hown)⟩

end Tcp

end Jrok
