import Jrok.Tunnel.Responses

/-!
# Responses and the agents they come from

An entry of the pending map does not say which agent its request went to: a response takes the
entry under its id, whichever registered agent it comes from. The id itself goes to the agent of
the request alone. As long as every agent keeps to the ids of the requests addressed to it, a
request is completed by its own agent only, and what a client sees comes from an agent of the
subdomain that it asked for.
-/

namespace Jrok

open Concurrency

namespace Tunnel

variable {τ : Type}

/-! ## The agents map as its history -/

/-- The entry of the agents map of the server `me` under an id. -/
def agentEntry (me id : String) : Log serverSig τ → Option AgentState
  | [] => none
  | (_, ⟨.node n (.agentsInsert id' st), _⟩) :: older =>
    if n = me ∧ id' = id then some st else agentEntry me id older
  | (_, ⟨.node n (.agentsRemove id'), _⟩) :: older =>
    if n = me ∧ id' = id then none else agentEntry me id older
  | _ :: older => agentEntry me id older

/-- An iteration over the map of `me` has listed entries that are in it. -/
def Listed (me : String) (e : τ × Event serverSig) (older : Log serverSig τ) : Prop :=
  match e.2 with
  | ⟨.node n .agentsIter, listed⟩ =>
    n = me → ∀ id st, (⟨id, st⟩ : Σ _ : String, AgentState) ∈ listed →
      agentEntry me id older = some st
  | _ => True

/-- The agents map of `me` is what the log says. -/
structure Maps (me : String) (w : World) (log : Log serverSig τ) : Prop where
  agents : ∀ id, (w.node me).agents.lookup id = agentEntry me id log
  causal : Causal (Listed me) log

section Maps

variable {B : Backend} {faulty : Bool} {c : Choice} {me : String} {w w' : World}
variable {log : Log serverSig τ} {t : τ}

theorem agentEntry_cons {m : StringMap AgentState} (h : ∀ id, m.lookup id = agentEntry me id log)
    (o : Op) (r : o.Res) (id : String) :
    (o.onAgents me m).lookup id = agentEntry me id ((t, ⟨o, r⟩) :: log) := by
  cases o with
  | node n o =>
    by_cases hn : n = me
    · subst hn
      cases o with
      | agentsInsert id' st =>
        by_cases hid : id = id'
        · subst hid
          simp [Op.onAgents, NodeOp.onAgents, agentEntry]
        · simp [Op.onAgents, NodeOp.onAgents, agentEntry, hid, Ne.symm hid, h]
      | agentsRemove id' =>
        by_cases hid : id = id'
        · subst hid
          simp [Op.onAgents, NodeOp.onAgents, agentEntry]
        · simp [Op.onAgents, NodeOp.onAgents, agentEntry, hid, Ne.symm hid, h]
      | _ => simpa [Op.onAgents, NodeOp.onAgents, agentEntry] using h id
    · cases o <;> simp [Op.onAgents, agentEntry, hn, h]
  | _ => exact h id

/-- Every operation adds to what the map is. -/
theorem Maps.step {o : Op} {r : o.Res} (h : Maps me w log)
    (hop : World.openHandler B faulty false c o w = some (r, w')) :
    Maps me w' ((t, ⟨o, r⟩) :: log) := by
  rcases World.openHandler_cases hop with hop | ⟨rfl, ⟨n, id, m, rfl⟩ | ⟨n, -, hlookups⟩⟩
  · refine ⟨fun id => ?_, ?_, h.causal⟩
    · rw [World.handler_agents hop me]
      exact agentEntry_cons h.agents o r id
    · cases o with
      | node n o =>
        cases o with
        | agentsIter =>
          rintro rfl id st hlisted
          obtain ⟨n', hn', -⟩ := World.exec_node.mp hop
          cases c <;> simp only [NodeOp.exec, reduceCtorEq, Option.ite_none_right_eq_some,
            Option.some.injEq, Prod.mk.injEq] at hn'
          obtain ⟨hperm, rfl, -⟩ := hn'
          rw [← h.agents]
          exact AList.mem_lookup_iff.mpr (hperm.subset hlisted)
        | _ => trivial
      | _ => trivial
  · exact ⟨h.agents, trivial, h.causal⟩
  · cases hlookups

end Maps

/-! ## The agent of a request -/

variable {D : Deployment} {T : Traffic} {me : String} {newer older log : ServerLog}

/-- The agent that the request `n` is addressed to, which is the one that its look-up has found. -/
def addressedTo (T : Traffic) (me : String) (n : Nat) (log : ServerLog) : Option String :=
  match T.request me n, Log.own (me, .request n) log with
  | .proxy request, ⟨.node _ .agentsIter, listed⟩ :: _ =>
    (AgentRegistry.findBySubdomain request.subdomain listed).map (·.1)
  | _, _ => none

/-- No agent uses the id of a request that is addressed to another one. -/
def KeepToOwn (T : Traffic) (me : String) (log : ServerLog) : Prop :=
  ∀ newer older conn requestId response taken n agentId,
    log = newer ++ ((me, .connection conn), ⟨.node me (.respond requestId response), taken⟩) ::
      older →
    ((me, Work.request n), (⟨.uuid, requestId⟩ : Event serverSig)) ∈ older →
    addressedTo T me n older = some agentId → registeredOn me conn older = some agentId

/-- The response to the request `n` was handled on the connection of an agent that the map had
    under the subdomain of the request when it was looked up. -/
def FromItsAgent (me : String) (n : Nat) (request : ProxyRequest) (response : HttpResponse)
    (log : ServerLog) : Prop :=
  ∃ agentId st,
    (∃ newer older conn requestId k,
      log = newer ++ ((me, .connection conn), ⟨.node me (.respond requestId response), some k⟩) ::
        older ∧
      ((me, Work.request n), (⟨.node me (.pendingInsert requestId), k⟩ : Event serverSig)) ∈ older ∧
      registeredOn me conn older = some agentId) ∧
    ∃ newer older listed,
      log = newer ++ ((me, .request n), ⟨.node me .agentsIter, listed⟩) :: older ∧
      agentEntry me agentId older = some st ∧ st.subdomain = request.subdomain

/-- A request is only answered under its own id, which goes to its agent alone. -/
structure Named (T : Traffic) (me : String) (c : ServerPool) : Prop where
  /-- an entry is only taken by a response of a connection, under the id drawn for its request -/
  taken : ∀ newer older u requestId response k n id,
    c.shared.2 = newer ++ (u, ⟨.node me (.respond requestId response), some k⟩) :: older →
    ((me, Work.request n), (⟨.node me (.pendingInsert id), k⟩ : Event serverSig)) ∈ older →
    requestId = id ∧ ((me, Work.request n), (⟨.uuid, requestId⟩ : Event serverSig)) ∈ older ∧
      ∃ conn, u = (me, .connection conn)
  /-- no server sends an `HttpRequest` with that id but the request itself, to its agent -/
  told : ∀ n id u server agentId method path headers body sent,
    ((me, Work.request n), (⟨.uuid, id⟩ : Event serverSig)) ∈ c.shared.2 →
    (u, (⟨.node server (.agentsSend agentId (.httpRequest id method path headers body)), sent⟩ :
      Event serverSig)) ∈ c.shared.2 →
    u = (me, .request n) ∧ addressedTo T me n c.shared.2 = some agentId

/-- Agents answer their own requests only. -/
structure Isolated (T : Traffic) (me : String) (c : ServerPool) : Prop where
  /-- an entry is only taken by a response on the connection of the agent of its request -/
  completes : ∀ newer older conn requestId response k n id agentId,
    c.shared.2 = newer ++ ((me, .connection conn), ⟨.node me (.respond requestId response),
      some k⟩) :: older →
    ((me, Work.request n), (⟨.node me (.pendingInsert id), k⟩ : Event serverSig)) ∈ older →
    addressedTo T me n older = some agentId → registeredOn me conn older = some agentId
  /-- what a client sees comes from an agent of the subdomain -/
  seen : ∀ n request response, T.request me n = .proxy request →
    c.task (me, .request n) = .idle (some (some (.http (.agent response)))) →
    FromItsAgent me n request response c.shared.2

/-- An entry is taken by a response with the id of the request that inserted it. -/
theorem taken_addressed {u : String × Work} {requestId : String} {response : HttpResponse} {k : Nat}
    (hf : System.Follows (program D T)
      (newer ++ (u, ⟨.node me (.respond requestId response), some k⟩) :: older))
    (hcausal : Causal (Accounted me)
      (newer ++ (u, ⟨.node me (.respond requestId response), some k⟩) :: older)) :
    ∃ n request agentId, T.request me n = .proxy request ∧
      ((me, Work.request n), (⟨.uuid, requestId⟩ : Event serverSig)) ∈ older ∧
      ((me, Work.request n), (⟨.node me (.pendingInsert requestId), k⟩ : Event serverSig)) ∈ older ∧
      addressedTo T me n older = some agentId ∧
      ∃ newer' older' listed st,
        older = newer' ++ ((me, .request n), ⟨.node me .agentsIter, listed⟩) :: older' ∧
        (⟨agentId, st⟩ : Σ _ : String, AgentState) ∈ listed ∧
        st.subdomain = request.subdomain := by
  obtain ⟨before, t, earlier, rfl, -⟩ := taken_entry hcausal
  have hfearlier : System.Follows (program D T)
      (before ++ (t, ⟨.node me (.pendingInsert requestId), k⟩) :: earlier) := hf.of_append.of_cons
  obtain ⟨n, request, listed, agentId, st, rfl, hcall, hown, hfound⟩ := insert_event hfearlier
  have hiter : ((me, Work.request n), (⟨.node me .agentsIter, listed⟩ : Event serverSig)) ∈
      earlier := by
    rw [← Log.mem_own, hown]
    simp
  have huuid : ((me, Work.request n), (⟨.uuid, requestId⟩ : Event serverSig)) ∈ earlier := by
    rw [← Log.mem_own, hown]
    simp
  obtain ⟨e, he, hst⟩ := Option.map_eq_some_iff.mp hfound
  obtain ⟨rfl, rfl⟩ := Prod.mk.inj hst
  refine ⟨n, request, e.1, hcall, by simp [huuid], by simp, ?_, ?_⟩
  · simp only [addressedTo, hcall, Log.own_split, hown, List.cons_append]
    simp [hfound]
  · obtain ⟨e₁, e₂, hsplit⟩ := List.append_of_mem hiter
    refine ⟨before ++ ((me, .request n), ⟨.node me (.pendingInsert requestId), k⟩) :: e₁, e₂,
      listed, e.2, by simp [hsplit], List.mem_of_find?_eq_some he, ?_⟩
    simpa using List.find?_some he

theorem addressedTo_append {n : Nat} {agentId : String}
    (h : addressedTo T me n older = some agentId) :
    addressedTo T me n (newer ++ older) = some agentId := by
  unfold addressedTo at h ⊢
  split at h
  · rename_i request _ listed rest hcall hown
    rw [Log.own_append, hcall, hown]
    exact h
  · cases h

/-- An `HttpRequest` is sent by the request that has drawn its id, to the agent it is addressed
    to. -/
theorem send_event {u : String × Work} {server agentId requestId method path : String}
    {headers : StringMap String} {body : Option (List UInt8)} {sent : Option Bool}
    (hf : System.Follows (program D T) (newer ++ (u, ⟨.node server (.agentsSend agentId
      (.httpRequest requestId method path headers body)), sent⟩) :: older)) :
    ∃ n, u = (server, .request n) ∧ (u, (⟨.uuid, requestId⟩ : Event serverSig)) ∈ older ∧
      addressedTo T server n older = some agentId := by
  obtain ⟨n, request, rfl, hcall, hnext⟩ := proxy_event rfl hf
  refine ⟨n, rfl, ?_⟩
  rw [← Log.mem_own, addressedTo, hcall]
  generalize Log.own (server, .request n) older = es at hnext
  cases hnext with
  | send listed _ st hfound _ pending =>
    exact ⟨by simp [entered], by simp [entered, hfound]⟩

/-! ## Every run -/

section Runs

variable {faulty : Bool} {c₀ c : ServerPool}

/-- Where every agent keeps to its own requests, an entry is taken by the agent of its request. -/
theorem taken_by_own {conn : Nat} {requestId : String} {response : HttpResponse} {k n : Nat}
    {id agentId : String} (hkeep : KeepToOwn T me log) (hf : System.Follows (program D T) log)
    (hcausal : Causal (Accounted me) log)
    (hlog : log = newer ++ ((me, .connection conn), ⟨.node me (.respond requestId response),
      some k⟩) :: older)
    (hinsert : ((me, Work.request n), (⟨.node me (.pendingInsert id), k⟩ : Event serverSig)) ∈ older)
    (haddressed : addressedTo T me n older = some agentId) :
    registeredOn me conn older = some agentId := by
  rw [hlog] at hf hcausal
  obtain ⟨n', request, _, -, huuid, hinsert', -, -⟩ := taken_addressed hf hcausal
  obtain ⟨ht, -⟩ := madeChannel_unique hcausal.of_append.2 hinsert hinsert'
  obtain rfl : n = n' := by simpa using ht
  exact hkeep _ _ _ _ _ _ _ _ hlog huuid haddressed

/-- Then what a request receives comes from an agent of its subdomain. -/
theorem received_from_own {n k : Nat} {request : ProxyRequest} {response : HttpResponse}
    (hkeep : KeepToOwn T me log) (hf : System.Follows (program D T) log)
    (hcausal : Causal (Accounted me) log) (hlisted : Causal (Listed me) log)
    (hcall : T.request me n = .proxy request)
    (hreceived : ((me, Work.request n), (⟨.node me (.oneshotRecv k), some response⟩ :
      Event serverSig)) ∈ log) : FromItsAgent me n request response log := by
  obtain ⟨newer, older, hlog⟩ := List.append_of_mem hreceived
  have hfsplit := hlog ▸ hf
  have hcsplit := hlog ▸ hcausal
  obtain ⟨n', request', hn, -, hnext⟩ := proxy_event rfl hfsplit
  obtain rfl : n = n' := by simpa using hn
  have hmine : ∃ id, ((me, Work.request n), (⟨.node me (.pendingInsert id), k⟩ :
      Event serverSig)) ∈ older := by
    generalize hown : Log.own (me, .request n) older = es at hnext
    cases hnext with
    | receive listed agentId st hfound requestId =>
      refine ⟨requestId, Log.mem_own.mp ?_⟩
      rw [hown]
      simp [entered]
  obtain ⟨id, hmine⟩ := hmine
  have hvalue : oneshotValue me k older = some response := (hcsplit.at_split rfl).symm
  obtain ⟨mid, u, requestId, rest, rfl⟩ := oneshotValue_eq_some hvalue
  have hfolder := hfsplit.of_append.of_cons
  have hcolder : Causal (Accounted me) (mid ++ (u, ⟨.node me (.respond requestId response),
    some k⟩) :: rest) := hcsplit.of_append.2
  obtain ⟨conn, rfl⟩ := respond_task hfolder
  obtain ⟨n', request'', agentId, hcall', huuid, hinsert, haddressed, e₁, e₂, listed, st, hrest,
    hmem, hst⟩ := taken_addressed hfolder hcolder
  obtain ⟨ht, -⟩ := madeChannel_unique hcolder hmine (List.mem_append_right _ (.tail _ hinsert))
  obtain rfl : n = n' := by simpa using ht
  obtain rfl : request = request'' := by simpa [hcall] using hcall'
  obtain ⟨later, hsplit⟩ : ∃ later, log = later ++ ((me, .connection conn),
      ⟨.node me (.respond requestId response), some k⟩) :: rest :=
    ⟨newer ++ ((me, .request n), ⟨.node me (.oneshotRecv k), some response⟩) :: mid, by simp [hlog]⟩
  have hregistered := hkeep _ _ _ _ _ _ _ _ hsplit huuid haddressed
  refine ⟨agentId, st, ⟨later, rest, conn, requestId, k, hsplit, hinsert, hregistered⟩, ?_⟩
  rw [hrest] at hsplit
  rw [hsplit] at hlisted
  have hlist : Listed me ((me, Work.request n), ⟨.node me .agentsIter, listed⟩) e₂ :=
    hlisted.of_append.2.at_split
  exact ⟨later ++ ((me, .connection conn), ⟨.node me (.respond requestId response), some k⟩) :: e₁,
    e₂, listed, by simp [hsplit], hlist rfl agentId st hmem, hst⟩

/-- What takes an entry names the id of its request. -/
theorem taken_named {u : String × Work} {requestId id : String} {response : HttpResponse} {k n : Nat}
    (hf : System.Follows (program D T)
      (newer ++ (u, ⟨.node me (.respond requestId response), some k⟩) :: older))
    (hcausal : Causal (Accounted me)
      (newer ++ (u, ⟨.node me (.respond requestId response), some k⟩) :: older))
    (hinsert : ((me, Work.request n), (⟨.node me (.pendingInsert id), k⟩ : Event serverSig)) ∈
      older) :
    requestId = id ∧ ((me, Work.request n), (⟨.uuid, requestId⟩ : Event serverSig)) ∈ older ∧
      ∃ conn, u = (me, .connection conn) := by
  obtain ⟨n', _, _, -, huuid, hinsert', -, -⟩ := taken_addressed hf hcausal
  obtain ⟨ht, hid⟩ := madeChannel_unique hcausal.of_append.2 hinsert hinsert'
  obtain rfl : n = n' := by simpa using ht
  exact ⟨hid.symm, huuid, respond_task hf⟩

/-- In every run from a start without agents and requests in flight: however requests, connections
    and sends interleave, a request is only answered under its own id, which goes to its agent
    alone; and agents that keep to the ids of their own requests complete no others, and a client
    sees only what an agent of its subdomain has sent. -/
theorem agents_isolated (hagents : (c₀.shared.1.node me).agents = ∅)
    (hpending : (c₀.shared.1.node me).pending = ∅)
    (honeshot : ∀ k, (c₀.shared.1.node me).oneshot k = none)
    (hidle : ∀ t, c₀.task t = .idle none) (hlog : c₀.shared.2 = [])
    (hr : (openServing D T faulty false).Reachable c₀ c) :
    Named T me c ∧ (KeepToOwn T me c.shared.2 → Isolated T me c) := by
  have htraced : System.Traced (program D T) c := hr.traced hidle hlog
  have hf := htraced.follows
  have hremembers : Remembers me c.shared.1 c.shared.2 :=
    .of_reachable hpending honeshot hidle hlog hr
  have hmaps : Maps me c.shared.1 c.shared.2 := by
    refine System.Reachable.logged_invariant hr hidle hlog (Maps me) ?_ ?_
    · exact ⟨by simp [hagents, agentEntry], trivial⟩
    · intro w log t ch o r w' _ _ hbefore hop
      exact hbefore.step hop
  refine ⟨⟨fun newer older u requestId response k n id hsplit hinsert => ?_,
    fun n id u server agentId method path headers body sent huuid hsent => ?_⟩, fun hkeep =>
    ⟨fun newer older conn requestId response k n id agentId => ?_,
    fun n request response hcall hreturned => ?_⟩⟩
  · have hcausal := hremembers.causal
    rw [hsplit] at hf hcausal
    exact taken_named hf hcausal hinsert
  · obtain ⟨newer, older, hsplit⟩ := List.append_of_mem hsent
    rw [hsplit] at hf
    obtain ⟨n', rfl, huuid', haddressed⟩ := send_event hf
    have hdrawn : ((server, Work.request n'), (⟨.uuid, id⟩ : Event serverSig)) ∈ c.shared.2 := by
      rw [hsplit]
      exact List.mem_append_right _ (.tail _ huuid')
    have hself := handedOut_unique hremembers.causal hdrawn huuid
    obtain ⟨rfl, rfl⟩ : server = me ∧ n' = n := by simpa using hself
    refine ⟨rfl, ?_⟩
    rw [hsplit, ← List.singleton_append, ← List.append_assoc]
    exact addressedTo_append haddressed
  · exact taken_by_own hkeep hf hremembers.causal
  · obtain ⟨answer, heq, hp⟩ := proxy_returned hcall htraced hreturned
    obtain rfl := Answer.http.inj (Option.some.inj heq)
    obtain ⟨k, hreceived⟩ := proxyHttp_agent hp
    exact received_from_own hkeep hf hremembers.causal hmaps.causal hcall (Log.mem_own.mp hreceived)

end Runs

/-! ## A response of another agent -/

/-- The latest event is a response that takes an entry, which a request for another agent has just
    inserted. -/
def stolen (T : Traffic) (me : String) : ServerLog → Bool
  | ((s, .connection conn), ⟨.node n (.respond _ _), some k⟩) ::
      ((s', .request i), ⟨.node n' (.pendingInsert id), k'⟩) :: older =>
    let before := ((s', Work.request i), ⟨.node n' (.pendingInsert id), k'⟩) :: older
    s = me && n = me && s' = me && n' = me && k = k' &&
      match addressedTo T me i before, registeredOn me conn before with
      | some agentId, some agentId' => agentId ≠ agentId'
      | _, _ => false
  | _ => false

theorem not_isolated_of_stolen {c : ServerPool} {j : Nat}
    (h : stolen T me (c.shared.2.drop j) = true) : ¬ Isolated T me c := by
  intro hisolated
  have hsplit := (List.take_append_drop j c.shared.2).symm
  unfold stolen at h
  split at h
  · rename_i s conn n _ k s' i n' id k' older hlog
    simp only [Bool.and_eq_true, decide_eq_true_eq] at h
    obtain ⟨⟨⟨⟨⟨rfl, rfl⟩, rfl⟩, rfl⟩, rfl⟩, hagents⟩ := h
    split at hagents
    · rename_i agentId agentId' haddressed hregistered
      rw [hlog] at hsplit
      have hown := hisolated.completes _ _ _ _ _ _ _ _ _ hsplit (List.mem_cons_self ..) haddressed
      obtain rfl := Option.some.inj (hown.symm.trans hregistered)
      simp at hagents
    · cases hagents
  · cases h

/-- `KeepToOwn`, checked event by event. -/
def keepToOwn (T : Traffic) (me : String) : ServerLog → Bool
  | [] => true
  | ((_, .connection conn), ⟨.node _ (.respond requestId _), _⟩) :: older =>
    keepToOwn T me older && older.all fun e =>
      match e with
      | ((_, .request i), ⟨.uuid, id⟩) => id ≠ requestId || addressedTo T me i older = none ||
          registeredOn me conn older = addressedTo T me i older
      | _ => true
  | _ :: older => keepToOwn T me older

theorem keepToOwn_sound (h : keepToOwn T me log = true) : KeepToOwn T me log := by
  rintro newer older conn requestId response taken n agentId rfl huuid haddressed
  induction newer with
  | nil =>
    obtain ⟨-, hall⟩ := Bool.and_eq_true_iff.mp h
    simpa [haddressed] using List.all_eq_true.mp hall _ huuid
  | cons head newer ih =>
    apply ih
    obtain ⟨⟨s, work⟩, o, r⟩ := head
    cases work with
    | connection conn =>
      cases o with
      | node n' o =>
        cases o with
        | respond => exact (Bool.and_eq_true_iff.mp h).1
        | _ => exact h
      | _ => exact h
    | _ => exact h

/-- Two agents, the second of which answers the request `r`. -/
def intruding : Traffic where
  request _ _ := .proxy getIndex
  frames _ conn :=
    if conn = 0 then [some (.register "app" 80 "localhost" "http" "secret")]
    else [some (.register "other" 80 "localhost" "http" "secret"),
      some (.httpResponse "r" 200 ∅ (some [33]))]

/-- The request is addressed to the first agent and has its entry. -/
def asking : List (Move (String × Work) Unit Choice) :=
  let agent : AgentState := ⟨1, "app", 80, "localhost", .http, 1000⟩
  let other : AgentState := ⟨3, "other", 80, "localhost", .http, 1000⟩
  registering 0 "a" "x" ++ registering 1 "b" "y" ++
    [.start ("s", .request 0) (), .act ("s", .request 0) (.order [⟨"b", other⟩, ⟨"a", agent⟩]),
      .act ("s", .request 0) (.fresh "r"), .act ("s", .request 0) .go]

/-- The response of the second agent takes the entry before the request has been sent. Where the
    send succeeds, the client sees that response. -/
theorem entry_taken_by_other_agent :
    (∃ c, (serving .sample intruding (World.handler (.keyed none) false)).logged.Reachable ready c ∧
      ¬ Isolated intruding "s" c) ∧
    ∃ c, (openServing .sample intruding false false).Reachable ready c ∧
      returned c ("s", .request 0) = some (200, [33]) ∧ ¬ Isolated intruding "s" c := by
  have htaken : ((serving .sample intruding (World.handler (.keyed none) false)).logged.replay
      (asking ++ [.act ("s", .connection 1) .go]) ready).map
        (fun c => stolen intruding "s" (c.shared.2.drop 0)) = some true := by decide +kernel
  have hseen : ((openServing .sample intruding false false).replay
      (asking ++ [.act ("s", .connection 1) .go, .act ("s", .request 0) (.io true),
        .act ("s", .request 0) .go, .finish ("s", .request 0)]) ready).map
        (fun c => (returned c ("s", .request 0), stolen intruding "s" (c.shared.2.drop 2))) =
          some (some (200, [33]), true) := by decide +kernel
  refine ⟨?_, ?_⟩
  · obtain ⟨c, hc, hstolen⟩ := Option.map_eq_some_iff.mp htaken
    exact ⟨c, ⟨_, hc⟩, not_isolated_of_stolen hstolen⟩
  · obtain ⟨c, hc, hboth⟩ := Option.map_eq_some_iff.mp hseen
    obtain ⟨hreturned, hstolen⟩ := Prod.mk.inj hboth
    exact ⟨c, ⟨_, hc⟩, hreturned, not_isolated_of_stolen hstolen⟩

/-- The first agent answers its own request. -/
def replying : Traffic where
  request _ _ := .proxy getIndex
  frames _ conn :=
    if conn = 0 then [some (.register "app" 80 "localhost" "http" "secret"),
      some (.httpResponse "r" 200 ∅ (some [104, 105]))]
    else [some (.register "other" 80 "localhost" "http" "secret")]

theorem agents_isolated_replied :
    ∃ c, (openServing .sample replying false false).Reachable ready c ∧
      returned c ("s", .request 0) = some (200, [104, 105]) ∧ Named replying "s" c ∧
      Isolated replying "s" c := by
  have hrun : ((openServing .sample replying false false).replay
      (asking ++ [.act ("s", .request 0) (.io true), .act ("s", .connection 0) .go,
        .act ("s", .request 0) .go, .finish ("s", .request 0)]) ready).map
        (fun c => (returned c ("s", .request 0), keepToOwn replying "s" c.shared.2)) =
          some (some (200, [104, 105]), true) := by decide +kernel
  obtain ⟨c, hc, hboth⟩ := Option.map_eq_some_iff.mp hrun
  obtain ⟨hreturned, hkeep⟩ := Prod.mk.inj hboth
  obtain ⟨hnamed, hisolated⟩ : Named replying "s" c ∧
      (KeepToOwn replying "s" c.shared.2 → Isolated replying "s" c) :=
    agents_isolated rfl rfl (fun _ => rfl) (fun _ => rfl) rfl ⟨_, hc⟩
  exact ⟨c, ⟨_, hc⟩, hreturned, hnamed, hisolated (keepToOwn_sound hkeep)⟩

end Tunnel

end Jrok
