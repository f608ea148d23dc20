import Jrok.Tcp.Drivers

/-!
# What a client is told of its session

A client polls the session that `request_connection` has made for it. No task of a server takes a
session out of the map again, so every poll finds it, with the reports that have come in since then,
one after the other.
-/

namespace Jrok

open Concurrency

namespace Tcp

variable {D : Deployment} {T : Traffic} {me k : String} {newer between older log : ServerLog}

/-- The event as a report on a session of the server `me`. -/
def reportCall (me k : String) : Event serverSig → Option SessionCall
  | ⟨.node n (.agentListening id endpoint nat), _⟩ =>
    if n = me ∧ id = k then some (.agentListening endpoint nat) else none
  | ⟨.node n (.clientConnected id), _⟩ => if n = me ∧ id = k then some .clientConnected else none
  | ⟨.node n (.connectionFailed id), _⟩ => if n = me ∧ id = k then some .connectionFailed else none
  | _ => none

/-- The reports on a session, the oldest first. -/
def reports (me k : String) : ServerLog → List SessionCall
  | [] => []
  | (_, e) :: older => reports me k older ++ (reportCall me k e).toList

/-- The session after the calls. -/
abbrev written (session : ConnectionSession) (calls : List SessionCall) : ConnectionSession :=
  calls.foldl SessionCall.write session

theorem written_reports_cons (session : ConnectionSession) (u : String × Work)
    (e : Event serverSig) : written session (reports me k ((u, e) :: log)) =
      written (written session (reports me k log)) (reportCall me k e).toList := by
  rw [reports, written, List.foldl_append]

/-- An operation that neither inserts the session nor cleans up does what it reports. -/
theorem onSession_report {o : Op} {r : o.Res} {entry : Option ConnectionSession}
    (hinsert : ∀ s, o = .node me (.sessionsInsert s) → k ≠ s.sessionId)
    (hkeeps : ∀ n cutoff, o ≠ .node n (.cleanupSessions cutoff)) :
    o.onSession me k entry =
      entry.map fun session => written session (reportCall me k ⟨o, r⟩).toList := by
  cases o with
  | node n o =>
    by_cases hn : n = me
    · subst hn
      rw [Op.onSession, if_pos rfl]
      cases o with
      | sessionsInsert s =>
        rw [NodeOp.onSession, if_neg (hinsert s rfl)]
        exact Option.map_id'.symm
      | agentListening id | clientConnected id | connectionFailed id =>
        by_cases hk : k = id
        · subst hk
          simp [NodeOp.onSession, reportCall, SessionCall.write]
        · simp [NodeOp.onSession, reportCall, hk, Ne.symm hk]
      | cleanupSessions cutoff => exact absurd rfl (hkeeps n cutoff)
      | _ => exact Option.map_id'.symm
    · rw [Op.onSession, if_neg hn]
      cases o <;> simp [reportCall, hn]
  | _ => exact Option.map_id'.symm

/-- The servers do not clean up sessions. -/
theorem not_performs_cleanup {work : Work} {s n : String} {cutoff : Int}
    (h : work.Performs D T s (.node n (.cleanupSessions cutoff))) : False := by
  obtain ⟨_, _, _, -, hadmission⟩ := Work.performs_admission h rfl
  cases hadmission with
  | owner h => cases h

/-- Only `request_connection` inserts sessions. -/
theorem performs_sessionsInsert {work : Work} {s : String} {session : ConnectionSession}
    (h : work.Performs D T s (.node me (.sessionsInsert session))) :
    s = me ∧ ∃ n subdomain clientAddr, work = .request n ∧
      T.request me n = .requestConnection subdomain clientAddr := by
  cases work with
  | request n =>
    simp only [Work.Performs] at h
    cases hcall : T.request s n with
    | requestConnection subdomain clientAddr =>
      rw [hcall] at h
      cases h
      exact ⟨rfl, n, subdomain, clientAddr, rfl, hcall⟩
    | proxy | tcp | sessionStatus | agentListening | connectionFailure =>
      rw [hcall] at h
      cases h
  | connection conn =>
    rcases h with heq | heq | ⟨reader, frame, -, hframe⟩
    · cases heq
    · cases heq
    · cases (Connection.frameOp_node hframe).2.1
  | writer conn k =>
    rcases h with heq | heq | ⟨m, heq⟩ <;> cases heq
  | heartbeat | cleanup | shutdown =>
    cases h with
    | upkeep h => cases h

/-- A session has been inserted by the request that made it. -/
theorem insert_request {u : String × Work} {session : ConnectionSession} {r : Unit}
    (hf : System.Follows (program D T)
      (newer ++ (u, ⟨.node me (.sessionsInsert session), r⟩) :: older)) :
    ∃ n now subdomain clientAddr agentId, u = (me, .request n) ∧
      T.request me n = .requestConnection subdomain clientAddr ∧
      session = newSession session.sessionId now subdomain clientAddr agentId := by
  obtain ⟨s, work⟩ := u
  have hperforms : work.Performs D T s (.node me (.sessionsInsert session)) := performs hf
  obtain ⟨rfl, n, subdomain, clientAddr, rfl, hcall⟩ := performs_sessionsInsert hperforms
  obtain ⟨p, hp⟩ := request_path hf
  rw [hcall] at hp
  obtain ⟨p', hp'⟩ := hp.of_bind_ret
  obtain ⟨now, _, agentId, -, hsession⟩ := requestConnection_insert hp'
  exact ⟨n, now, subdomain, clientAddr, agentId, rfl, hcall, hsession⟩

/-- No session has been inserted under the id. -/
def Unknown (me k : String) (log : ServerLog) : Prop :=
  ∀ u session, (u, (⟨.node me (.sessionsInsert session), ()⟩ : Event serverSig)) ∈ log →
    session.sessionId ≠ k

theorem unknown_cons {u : String × Work} {o : Op} {r : o.Res} (h : Unknown me k log)
    (hother : ∀ s, o = .node me (.sessionsInsert s) → k ≠ s.sessionId) :
    Unknown me k ((u, ⟨o, r⟩) :: log) := by
  intro v session hmem
  rcases List.mem_cons.mp hmem with heq | hold
  · cases heq
    exact (hother session rfl).symm
  · exact h v session hold

/-- The latest event inserts the session where there was none, or reports on it at most. -/
theorem sessionAt_step {u : String × Work} {o : Op} {r : o.Res}
    (hf : System.Follows (program D T) ((u, ⟨o, r⟩) :: log))
    (hcausal : Causal (Accounted me) log) :
    (∃ s, o = .node me (.sessionsInsert s) ∧ k = s.sessionId ∧ sessionAt me k log = none) ∨
    ((∀ s, o = .node me (.sessionsInsert s) → k ≠ s.sessionId) ∧
      sessionAt me k ((u, ⟨o, r⟩) :: log) = (sessionAt me k log).map
        fun session => written session (reportCall me k ⟨o, r⟩).toList) := by
  have hf' : System.Follows (program D T) ([] ++ (u, ⟨o, r⟩) :: log) := hf
  by_cases hinsert : ∃ s, o = .node me (.sessionsInsert s) ∧ k = s.sessionId
  · obtain ⟨s, rfl, rfl⟩ := hinsert
    exact .inl ⟨s, rfl, rfl, insert_session_fresh hf' hcausal⟩
  · have hother : ∀ s, o = .node me (.sessionsInsert s) → k ≠ s.sessionId :=
      fun s ho hk => hinsert ⟨s, ho, hk⟩
    refine .inr ⟨hother, onSession_report hother ?_⟩
    rintro n cutoff rfl
    exact not_performs_cleanup (performs hf')

/-- A session stays, and the reports are written to it. -/
theorem sessionAt_append {session : ConnectionSession}
    (hf : System.Follows (program D T) (newer ++ older))
    (hcausal : Causal (Accounted me) (newer ++ older)) (h : sessionAt me k older = some session) :
    sessionAt me k (newer ++ older) = some (written session (reports me k newer)) := by
  induction newer with
  | nil => exact h
  | cons head newer ih =>
    obtain ⟨u, o, r⟩ := head
    have hold := ih hf.of_cons hcausal.2
    rw [List.cons_append] at hf
    rcases sessionAt_step (k := k) hf hcausal.2 with ⟨_, -, -, hnone⟩ | ⟨-, hstep⟩
    · cases hold.symm.trans hnone
    · rw [List.cons_append, hstep, hold, Option.map_some, written_reports_cons]

/-- A session has been inserted once, and is what the reports since then have made of it. -/
theorem sessionAt_cases (hf : System.Follows (program D T) log)
    (hcausal : Causal (Accounted me) log) :
    (Unknown me k log ∧ sessionAt me k log = none) ∨
    ∃ later u first earlier, log =
        later ++ (u, ⟨.node me (.sessionsInsert first), ()⟩) :: earlier ∧ first.sessionId = k ∧
      Unknown me k later ∧ Unknown me k earlier ∧
      sessionAt me k log = some (written first (reports me k later)) := by
  have hnil : Unknown me k [] := fun _ _ hmem => absurd hmem List.not_mem_nil
  induction log with
  | nil => exact .inl ⟨hnil, rfl⟩
  | cons head log ih =>
    obtain ⟨u, o, r⟩ := head
    have hold := ih hf.of_cons hcausal.2
    rcases sessionAt_step (k := k) hf hcausal.2 with ⟨s, rfl, rfl, hnone⟩ | ⟨hother, hstep⟩
    · rcases hold with ⟨hunknown, -⟩ | ⟨_, _, _, _, -, -, -, -, hsome⟩
      · refine .inr ⟨[], u, s, log, rfl, rfl, hnil, hunknown, ?_⟩
        simp [sessionAt, Op.onSession, NodeOp.onSession, reports]
      · cases hsome.symm.trans hnone
    · rcases hold with ⟨hunknown, hnone⟩ |
        ⟨later, v, first, earlier, rfl, hk, hlater, hearlier, hsome⟩
      · exact .inl ⟨unknown_cons hunknown hother, by rw [hstep, hnone, Option.map_none]⟩
      · refine .inr ⟨(u, ⟨o, r⟩) :: later, v, first, earlier, rfl, hk, unknown_cons hlater hother,
          hearlier, ?_⟩
        rw [hstep, hsome, Option.map_some, written_reports_cons]

/-! ## Moving forward -/

theorem Forward.refl (session : ConnectionSession) : session.Forward session :=
  ⟨le_rfl, fun _ => rfl, fun h hne => absurd h hne⟩

/-- A call keeps a known endpoint. -/
theorem endpoint_write {session : ConnectionSession} (h : session.agentEndpoint ≠ none)
    (call : SessionCall) : (call.write session).agentEndpoint ≠ none := by
  cases call with
  | agentListening endpoint nat => simp [SessionCall.write, Facilitator.reported]
  | clientConnected | connectionFailed => exact h

theorem endpoint_written {session : ConnectionSession} (h : session.agentEndpoint ≠ none)
    (calls : List SessionCall) : (written session calls).agentEndpoint ≠ none := by
  induction calls generalizing session with
  | nil => exact h
  | cons call calls ih => exact ih (endpoint_write h call)

/-- Calls that come in order move a session forward. -/
theorem forward_written {calls : List SessionCall} {session : ConnectionSession}
    (h : InOrder session calls) : session.Forward (written session calls) := by
  induction calls generalizing session with
  | nil => exact Forward.refl session
  | cons call calls ih =>
    obtain ⟨hallowed, hrest⟩ := inOrder_cons.mp h
    have hfirst := (forward_write_iff session call).mpr hallowed
    have hlast := ih hrest
    refine ⟨Nat.le_trans hfirst.stage hlast.stage, fun hfinal => ?_, fun hconnected hnot => ?_⟩
    · have hsame := hfirst.keepsFinal hfinal
      have hfinal' : (call.write session).status.isFinal := by rw [hsame]; exact hfinal
      exact (hlast.keepsFinal hfinal').trans hsame
    · by_cases hnow : (call.write session).status = .connected
      · exact endpoint_written (hfirst.endpoint hnow hnot) calls
      · exact hlast.endpoint hconnected hnow

/-! ## Polls -/

/-- What a poll is told of a session after a history. -/
inductive Told (T : Traffic) (me k : String) (older : ServerLog) : Response → Prop where
  | unknown (h : Unknown me k older) :
    Told T me k older (.text 404 "Session not found or expired")
  | known (later earlier : ServerLog) (n : Nat) (now : Int) (subdomain clientAddr agentId : String)
    (hsplit : older = later ++ ((me, .request n), ⟨.node me (.sessionsInsert
      (newSession k now subdomain clientAddr agentId)), ()⟩) :: earlier)
    (hcall : T.request me n = .requestConnection subdomain clientAddr)
    (honce : Unknown me k later ∧ Unknown me k earlier) :
    Told T me k older (.json 200 (sessionStatus k
      (written (newSession k now subdomain clientAddr agentId) (reports me k later))))

/-- A session that `request_connection` has returned is in the map, as it was inserted but for the
    reports since then; a poll is told what has been reported before it, and a later poll sees the
    session no less far on when the reports between them come in order. -/
structure PollsTold (T : Traffic) (me : String) (c : ServerPool) : Prop where
  granted : ∀ n subdomain clientAddr session,
    T.request me n = .requestConnection subdomain clientAddr →
    c.task (me, .request n) = .idle (some (some (.session (.ok session)))) → ∃ later earlier,
      c.shared.2 =
        later ++ ((me, .request n), ⟨.node me (.sessionsInsert session), ()⟩) :: earlier ∧
      c.shared.1.session me session.sessionId =
        some (written session (reports me session.sessionId later))
  answers : ∀ n k answer, T.request me n = .sessionStatus k →
    c.task (me, .request n) = .idle (some (some answer)) → ∃ newer older r response,
      answer = .http response ∧
      c.shared.2 = newer ++ ((me, .request n), ⟨.node me (.getSession k), r⟩) :: older ∧
      Told T me k older response
  forward : ∀ newer between older u v k session session', c.shared.2 =
      newer ++ (v, ⟨.node me (.getSession k), some session'⟩) ::
        (between ++ (u, ⟨.node me (.getSession k), some session⟩) :: older) →
    InOrder session (reports me k between) → session.Forward session'

/-- A look-up finds the entry that the history has made. -/
def Looked (me : String) (e : (String × Work) × Event serverSig) (older : ServerLog) : Prop :=
  ∀ k r, e.2 = ⟨.node me (.getSession k), r⟩ → r = sessionAt me k older

/-- A request that is granted has inserted its session. -/
theorem granted_path {subdomain clientAddr : String} {session : ConnectionSession}
    {es : List (Event serverSig)}
    (h : (requestConnection me subdomain clientAddr).run.Path es (.ret (.ok session))) :
    (⟨.node me (.sessionsInsert session), ()⟩ : Event serverSig) ∈ es := by
  rw [requestConnection_eq] at h
  obtain ⟨sessionId, es₁, rfl, h₁⟩ := Prog.path_op_ret_iff.mp h
  obtain ⟨now, es₂, rfl, h₂⟩ := Prog.path_op_ret_iff.mp h₁
  obtain ⟨listed, es₃, rfl, h₃⟩ := Prog.path_op_ret_iff.mp h₂
  rw [facilitate_eq] at h₃
  cases hfound : AgentRegistry.findBySubdomain subdomain listed with
  | none =>
    rw [hfound] at h₃
    cases (Prog.path_ret_iff.mp h₃).2
  | some found =>
    obtain ⟨agentId, agent⟩ := found
    rw [hfound] at h₃
    by_cases htcp : agent.protocol = .tcp
    · simp only [htcp, if_true] at h₃
      obtain ⟨_, es₄, rfl, h₄⟩ := Prog.path_op_ret_iff.mp h₃
      obtain ⟨_, _, sent, -, -, hret⟩ := Prog.path_bind_ret_iff.mp h₄
      obtain ⟨-, heq⟩ := Prog.path_ret_iff.mp hret
      cases sent with
      | error e => cases heq
      | ok _ =>
        obtain rfl := Except.ok.inj (Prog.ret.inj heq)
        simp
    · simp only [htcp, if_false] at h₃
      cases (Prog.path_ret_iff.mp h₃).2

/-- What a poll answers for the session that it finds. -/
def pollResponse (k : String) : Option ConnectionSession → Response
  | some session => .json 200 (sessionStatus k session)
  | none => .text 404 "Session not found or expired"

theorem poll_path {response : Response} {es : List (Event serverSig)}
    (h : (getSessionStatus me k).Path es (.ret response)) :
    ∃ r, es = [⟨.node me (.getSession k), r⟩] ∧ response = pollResponse k r := by
  obtain ⟨r, es', rfl, h₁⟩ := Prog.path_op_ret_iff.mp h
  rcases r with _ | session
  · obtain ⟨rfl, hret⟩ := Prog.path_ret_iff.mp h₁
    exact ⟨none, rfl, Prog.ret.inj hret⟩
  · obtain ⟨rfl, hret⟩ := Prog.path_ret_iff.mp h₁
    exact ⟨some session, rfl, Prog.ret.inj hret⟩

section Runs

variable {faulty lookups : Bool} {c₀ c : ServerPool}

/-- The sessions are what the history has made of them, so this is what every look-up finds. -/
theorem looked_of_reachable (hnode : c₀.shared.1.node me = .new)
    (hidle : ∀ t, c₀.task t = .idle none) (hlog : c₀.shared.2 = [])
    (hr : (openServing D T faulty lookups).Reachable c₀ c) :
    Causal (Looked me) c.shared.2 := by
  refine (System.Reachable.logged_invariant hr hidle hlog (fun w log =>
    (∀ k, w.session me k = sessionAt me k log) ∧ Causal (Looked me) log) ?_ ?_).2
  · refine ⟨fun k => ?_, trivial⟩
    simp [World.session, hnode, Node.new, Facilitator.new, sessionAt]
  · rintro w log t ch o r w' - - ⟨hbefore, hcausal⟩ hop
    refine ⟨fun k => ?_, fun k r' he => ?_, hcausal⟩
    · rw [World.openHandler_session hop me k, hbefore k]
      rfl
    · cases he
      rw [← hbefore k]
      rcases World.openHandler_cases hop with hexec | ⟨-, ⟨_, _, _, ho⟩ | ⟨_, ho, -⟩⟩
      · obtain ⟨n', hn', -⟩ := World.exec_node.mp hexec
        cases ch <;>
          simp only [NodeOp.exec, reduceCtorEq, Option.some.injEq, Prod.mk.injEq] at hn'
        exact hn'.1.symm
      · cases ho
      · cases ho

/-- A poll is told what the history before its look-up has made of the session. -/
theorem told_at (hf : System.Follows (program D T) older)
    (hcausal : Causal (Accounted me) older) :
    Told T me k older (pollResponse k (sessionAt me k older)) := by
  rcases sessionAt_cases (k := k) hf hcausal with
    ⟨hunknown, hnone⟩ | ⟨later, u, first, earlier, rfl, hk, hlater, hearlier, hsome⟩
  · rw [hnone]
    exact .unknown hunknown
  · obtain ⟨m, now, subdomain, clientAddr, agentId, rfl, hrequest, hfirst⟩ :=
      insert_request hf
    rw [hk] at hfirst
    subst hfirst
    rw [hsome]
    exact .known later earlier m now subdomain clientAddr agentId rfl hrequest ⟨hlater, hearlier⟩

/-- Two look-ups of a session differ by the reports between them. -/
theorem looked_again {u v : String × Work} {session session' : ConnectionSession}
    (hf : System.Follows (program D T) (between ++
      (u, ⟨.node me (.getSession k), some session⟩) :: older))
    (hcausal : Causal (Accounted me) (between ++
      (u, ⟨.node me (.getSession k), some session⟩) :: older))
    (hlooked : Causal (Looked me) ((v, ⟨.node me (.getSession k), some session'⟩) ::
      (between ++ (u, ⟨.node me (.getSession k), some session⟩) :: older))) :
    session' = written session (reports me k between) := by
  have hfirst : sessionAt me k ((u, ⟨.node me (.getSession k), some session⟩) :: older) =
      some session := by
    rw [hlooked.2.at_split k _ rfl]
    simp [sessionAt, Op.onSession, NodeOp.onSession]
  have hlast := hlooked.1 k _ rfl
  rw [sessionAt_append hf hcausal hfirst] at hlast
  exact Option.some.inj hlast

/-- In every run from the start of the server, whatever other tasks do. -/
theorem polls_told (hnode : c₀.shared.1.node me = .new) (hidle : ∀ t, c₀.task t = .idle none)
    (hlog : c₀.shared.2 = []) (hr : (openServing D T faulty lookups).Reachable c₀ c) :
    PollsTold T me c := by
  have htraced : System.Traced (program D T) c := hr.traced hidle hlog
  have hremembers : Remembers me c.shared.1 c.shared.2 :=
    .of_reachable (by rw [hnode]; rfl) (by simp [hnode, Node.new]) hidle hlog hr
  have hlooked : Causal (Looked me) c.shared.2 := looked_of_reachable hnode hidle hlog hr
  have hcausal := hremembers.causal
  have hf := htraced.follows
  refine ⟨fun n subdomain clientAddr session hcall hreturned => ?_,
    fun n k answer hcall hreturned => ?_,
    fun newer between older u v k session session' hsplit horder => ?_⟩
  · obtain ⟨_, heq, hpath⟩ := request_returned htraced hreturned
    obtain rfl := Option.some.inj heq
    rw [hcall] at hpath
    obtain ⟨es₁, es₂, result, hown, hrun, hret⟩ := Prog.path_bind_ret_iff.mp hpath
    obtain ⟨rfl, hresult⟩ := Prog.path_ret_iff.mp hret
    obtain rfl := Answer.session.inj (Prog.ret.inj hresult)
    have hinserted : ((me, Work.request n),
        (⟨.node me (.sessionsInsert session), ()⟩ : Event serverSig)) ∈ c.shared.2 := by
      rw [← Log.mem_own, hown, List.append_nil]
      exact granted_path hrun
    obtain ⟨later, earlier, hsplit⟩ := List.append_of_mem hinserted
    refine ⟨later, earlier, hsplit, ?_⟩
    rw [session_eq_sessionAt hnode hidle hlog hr, hsplit]
    rw [hsplit] at hf hcausal
    exact sessionAt_append hf hcausal (by simp [sessionAt, Op.onSession, NodeOp.onSession])
  · obtain ⟨_, heq, hpath⟩ := request_returned htraced hreturned
    obtain rfl := Option.some.inj heq
    rw [hcall] at hpath
    obtain ⟨es₁, es₂, response, hown, hrun, hret⟩ := Prog.path_bind_ret_iff.mp hpath
    obtain ⟨rfl, hanswer⟩ := Prog.path_ret_iff.mp hret
    obtain ⟨r, rfl, rfl⟩ := poll_path hrun
    obtain ⟨newer, older, hsplit, -⟩ := Log.exists_split (show _ = [] ++ [_] from hown)
    refine ⟨newer, older, r, _, Prog.ret.inj hanswer, hsplit, ?_⟩
    rw [hsplit] at hf hlooked hcausal
    obtain rfl := hlooked.at_split k r rfl
    exact told_at hf.of_append.of_cons hcausal.of_append.2
  · rw [hsplit] at hf hcausal hlooked
    rw [looked_again hf.of_append.of_cons hcausal.of_append.2 hlooked.of_append]
    exact forward_written horder

end Runs

/-- A client has a session with an agent and polls it before and after the agent's report. -/
def polling : Traffic where
  request _ n :=
    if n = 0 then .requestConnection "app" "203.0.113.9:4000" else .sessionStatus "session"
  frames _ _ := [some (.register "app" 22 "localhost" "tcp" "secret"),
    some (.tcpListenResponse "session" "192.0.2.10:22" none)]

def pollMoves : List (Move (String × Work) Unit Choice) :=
  let agent : AgentState := ⟨1, "app", 22, "localhost", .tcp, 1000⟩
  let poll (n : Nat) : List (Move (String × Work) Unit Choice) :=
    [.start ("s", .request n) (), .act ("s", .request n) .go, .finish ("s", .request n)]
  registering 0 "a" "x" ++ [.start ("s", .request 0) (), .act ("s", .request 0) (.fresh "session"),
    .act ("s", .request 0) (.read 1000), .act ("s", .request 0) (.order [⟨"a", agent⟩]),
    .act ("s", .request 0) .go, .act ("s", .request 0) (.io true), .finish ("s", .request 0)] ++
  poll 1 ++ [.act ("s", .connection 0) .go] ++ poll 2

theorem polls_told_ready : ∃ c, (openServing .sample polling false false).Reachable ready c ∧
    c.answer ("s", .request 0) = some (some (.session (.ok
      (newSession "session" 1000 "app" "203.0.113.9:4000" "a")))) ∧
    c.answer ("s", .request 1) = some (some (.http (.json 200 [("session_id", .str "session"),
      ("status", .str "pending"), ("message", .str "Waiting for agent...")]))) ∧
    c.answer ("s", .request 2) = some (some (.http (.json 200 [("session_id", .str "session"),
      ("status", .str "ready"), ("agent_endpoint", .str "192.0.2.10:22"),
      ("message", .str "Connect directly to this endpoint"),
      ("instruction", .str "Connect directly to: 192.0.2.10:22"),
      ("direct_connection", .bool true)]))) ∧ PollsTold polling "s" c := by
  have hrun : ((openServing .sample polling false false).replay pollMoves ready).map
      (fun c => (c.answer ("s", .request 0), c.answer ("s", .request 1),
        c.answer ("s", .request 2))) =
      some (some (some (.session (.ok
          (newSession "session" 1000 "app" "203.0.113.9:4000" "a")))),
        some (some (.http (.json 200 [("session_id", .str "session"),
          ("status", .str "pending"), ("message", .str "Waiting for agent...")]))),
        some (some (.http (.json 200 [("session_id", .str "session"),
          ("status", .str "ready"), ("agent_endpoint", .str "192.0.2.10:22"),
          ("message", .str "Connect directly to this endpoint"),
          ("instruction", .str "Connect directly to: 192.0.2.10:22"),
          ("direct_connection", .bool true)])))) := by decide +kernel
  obtain ⟨c, hc, hall⟩ := Option.map_eq_some_iff.mp hrun
  obtain ⟨hgranted, hpolls⟩ := Prod.mk.inj hall
  obtain ⟨hfirst, hsecond⟩ := Prod.mk.inj hpolls
  exact ⟨c, ⟨_, hc⟩, hgranted, hfirst, hsecond, polls_told rfl (fun _ => rfl) rfl ⟨_, hc⟩⟩

end Tcp

end Jrok
