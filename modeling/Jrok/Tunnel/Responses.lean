import Jrok.Server.Traffic
import Jrok.Tunnel.Pending

/-!
# Responses and the requests they answer

Requests, connections and everything else on a server interleave at will, sends end in any way and
deadlines pass at any time. A request still receives nothing but the first response under its own
id that is handled while it has its entry, and a response that comes in time is what it returns.
-/

namespace Jrok

open Concurrency

namespace Tunnel

variable {D : Deployment} {T : Traffic} {me : String} {newer older log : ServerLog}

/-! ## Who performs what -/

/-- The operations that only `proxy_http` performs: those on the pending map and its channels, and
    the send of an `HttpRequest`. -/
def ofProxy : NodeOp → Bool
  | .pendingInsert _ | .pendingRemove _ | .oneshotRecv _ => true
  | .agentsSend _ (.httpRequest ..) => true
  | _ => false

theorem proxy_event {u : String × Work} {o : NodeOp} {r : o.Res} (ho : ofProxy o = true)
    (hf : System.Follows (program D T) (newer ++ (u, ⟨.node me o, r⟩) :: older)) :
    ∃ n request, u = (me, .request n) ∧ T.request me n = .proxy request ∧
      ProxyNext D.headers me request (Log.own u older) (.node me o) := by
  obtain ⟨server, work⟩ := u
  have hperforms : work.Performs D T server (.node me o) := performs hf
  cases work with
  | request n =>
    obtain ⟨p, hp⟩ := request_path hf
    simp only [Work.Performs] at hperforms
    cases hcall : T.request server n with
    | proxy request =>
      rw [hcall] at hperforms
      have hserver : server = me := by
        cases hperforms <;> rfl
      subst hserver
      obtain ⟨p, hp⟩ := proxy_path hcall hp
      exact ⟨n, request, rfl, hcall, proxyHttp_next hp⟩
    | tcp subdomain =>
      rw [hcall] at hperforms
      exact hperforms.elim
    | requestConnection subdomain clientAddr =>
      rw [hcall] at hperforms
      cases hperforms <;> cases ho
    | sessionStatus | agentListening | connectionFailure =>
      rw [hcall] at hperforms
      cases hperforms
      cases ho
  | connection conn =>
    rcases hperforms with heq | heq | ⟨reader, frame, -, hframe⟩
    · cases heq
      cases ho
    · cases heq
      cases ho
    · have hof := (Connection.frameOp_node hframe).2.1
      cases o <;> simp [ofProxy, Connection.ofFrame] at ho hof
  | writer conn k =>
    rcases hperforms with heq | heq | ⟨m, heq⟩ <;> cases heq <;> cases ho
  | heartbeat | cleanup | shutdown =>
    cases hperforms with
    | upkeep h => cases h <;> cases ho
    | store => cases ho

/-- The connection of the server handles an `HttpResponse` of its agent with these fields. -/
def Answers (D : Deployment) (T : Traffic) (me : String) (conn : Nat) (older : ServerLog)
    (agentId requestId : String) (response : HttpResponse) : Prop :=
  ∃ reader later cur body,
    Connection.Handling D.codec D.backend me conn (T.frames me conn)
      (Log.own (me, .connection conn) older) reader
      (some (.httpResponse requestId response.status response.headers body)) later cur ∧
    reader.agentId = some agentId ∧ response.body = body.getD []

/-- Only a connection handles responses. -/
theorem respond_task {u : String × Work} {requestId : String} {response : HttpResponse}
    {taken : Option Nat}
    (hf : System.Follows (program D T)
      (newer ++ (u, ⟨.node me (.respond requestId response), taken⟩) :: older)) :
    ∃ conn, u = (me, .connection conn) := by
  obtain ⟨server, work⟩ := u
  have hperforms : work.Performs D T server (.node me (.respond requestId response)) := performs hf
  cases work with
  | request n =>
    simp only [Work.Performs] at hperforms
    cases hcall : T.request server n <;> rw [hcall] at hperforms <;> cases hperforms
  | connection conn =>
    rcases hperforms with heq | heq | ⟨reader, frame, -, hframe⟩
    · cases heq
    · cases heq
    · obtain ⟨rfl, -⟩ := Connection.frameOp_node hframe
      exact ⟨conn, rfl⟩
  | writer conn k =>
    rcases hperforms with heq | heq | ⟨m, heq⟩ <;> cases heq
  | heartbeat | cleanup | shutdown =>
    cases hperforms with
    | upkeep h => cases h

theorem respond_event {u : String × Work} {requestId : String} {response : HttpResponse}
    {taken : Option Nat} (hcodec : ∀ b, D.codec.decode (D.codec.encode b) = some b)
    (hf : System.Follows (program D T)
      (newer ++ (u, ⟨.node me (.respond requestId response), taken⟩) :: older)) :
    ∃ conn agentId, u = (me, .connection conn) ∧
      Answers D T me conn older agentId requestId response := by
  obtain ⟨conn, rfl⟩ := respond_task hf
  obtain ⟨p, hp⟩ := connection_path hf
  rcases Connection.connection_op hp with heq | heq | ⟨reader, frame, later, cur, hhandling, hop⟩
  · cases heq
  · cases heq
  · obtain ⟨-, -, hid, body, rfl, hbody⟩ := Connection.frameOp_node hop
    obtain ⟨agentId, hagent⟩ := Option.isSome_iff_exists.mp hid
    refine ⟨conn, agentId, rfl, reader, later, cur, body, hhandling, hagent, ?_⟩
    rw [hbody]
    cases body with
    | none => rfl
    | some b => simp [Connection.relayedBody, hcodec]

/-! ## What a request receives -/

/-- The first response under the id that was handled while the entry of the request `n` was in the
    map, with the channel `k`: between its insertion and that response, nothing has concerned the
    entry. -/
def FirstAnswer (D : Deployment) (T : Traffic) (me : String) (n : Nat) (requestId : String) (k : Nat)
    (response : HttpResponse) (log : ServerLog) : Prop :=
  ∃ newer conn agentId before earlier,
    log = newer ++ ((me, .connection conn), ⟨.node me (.respond requestId response), some k⟩) ::
      (before ++ ((me, .request n), ⟨.node me (.pendingInsert requestId), k⟩) :: earlier) ∧
    (∀ e ∈ before, touches me requestId e.2 = false) ∧
    Answers D T me conn
      (before ++ ((me, .request n), ⟨.node me (.pendingInsert requestId), k⟩) :: earlier)
      agentId requestId response

variable {n : Nat} {request : ProxyRequest}

theorem received (hcodec : ∀ b, D.codec.decode (D.codec.encode b) = some b) {k : Nat}
    {response : HttpResponse}
    (hf : System.Follows (program D T)
      (newer ++ ((me, .request n), ⟨.node me (.oneshotRecv k), some response⟩) :: older))
    (hcausal : Causal (Accounted me)
      (newer ++ ((me, .request n), ⟨.node me (.oneshotRecv k), some response⟩) :: older))
    (hcall : T.request me n = .proxy request) :
    ∃ listed agentId requestId,
      Log.own (me, .request n) older = entered me listed requestId k ++
        [⟨.node me (.agentsSend agentId (request.message D.headers requestId)), some true⟩] ∧
      FirstAnswer D T me n requestId k response older := by
  obtain ⟨n', request', hn, hcall', hnext⟩ := proxy_event rfl hf
  obtain rfl : n = n' := by simpa using hn
  obtain rfl : request = request' := by simpa [hcall] using hcall'
  generalize hown : Log.own (me, .request n) older = es at hnext
  cases hnext with
  | receive listed agentId st hfound requestId =>
    refine ⟨listed, agentId, requestId, rfl, ?_⟩
    have hmine : ((me, Work.request n), (⟨.node me (.pendingInsert requestId), k⟩ :
        Event serverSig)) ∈ older := by
      rw [← Log.mem_own, hown]
      simp [entered]
    have hfolder : System.Follows (program D T) older := hf.of_append.of_cons
    have hcolder : Causal (Accounted me) older := hcausal.of_append.2
    have hvalue : oneshotValue me k older = some response := (hcausal.at_split rfl).symm
    obtain ⟨mid, u, id, rest, rfl⟩ := oneshotValue_eq_some hvalue
    obtain ⟨before, t, earlier, rfl, hbefore⟩ := taken_entry hcolder
    have htheirs : (t, (⟨.node me (.pendingInsert id), k⟩ : Event serverSig)) ∈
        mid ++ (u, ⟨.node me (.respond id response), some k⟩) ::
          (before ++ (t, ⟨.node me (.pendingInsert id), k⟩) :: earlier) := by simp
    obtain ⟨rfl, rfl⟩ := madeChannel_unique hcolder hmine htheirs
    obtain ⟨conn, agentId', rfl, hanswers⟩ := respond_event hcodec hfolder
    exact ⟨mid, conn, agentId', before, earlier, rfl, hbefore, hanswers⟩

/-- The event is the handling of a response under the id. -/
def isResponse (me requestId : String) : Event serverSig → Bool
  | ⟨.node n (.respond id _), _⟩ => n = me && id = requestId
  | _ => false

/-- The event ends a wait, with a response or at the deadline. -/
def isReceipt : Event serverSig → Bool
  | ⟨.node _ (.oneshotRecv _), _⟩ => true
  | _ => false

/-- An insertion is made by a request that has found an agent and drawn its id. -/
theorem insert_event {u : String × Work} {requestId : String} {k : Nat}
    (hf : System.Follows (program D T)
      (newer ++ (u, ⟨.node me (.pendingInsert requestId), k⟩) :: older)) :
    ∃ n request listed agentId st, u = (me, .request n) ∧ T.request me n = .proxy request ∧
      Log.own u older = [⟨.node me .agentsIter, listed⟩, ⟨.uuid, requestId⟩] ∧
      AgentRegistry.findBySubdomain request.subdomain listed = some (agentId, st) := by
  obtain ⟨n, request, rfl, hcall, hnext⟩ := proxy_event rfl hf
  generalize Log.own (me, .request n) older = es at hnext
  cases hnext with
  | insert listed agentId st hfound =>
    exact ⟨n, request, listed, agentId, st, rfl, hcall, rfl, hfound⟩

theorem insert_own {u : String × Work} {requestId : String} {k : Nat}
    (hf : System.Follows (program D T)
      (newer ++ (u, ⟨.node me (.pendingInsert requestId), k⟩) :: older)) :
    ∃ listed, Log.own u older = [⟨.node me .agentsIter, listed⟩, ⟨.uuid, requestId⟩] := by
  obtain ⟨_, _, listed, _, _, -, -, hown, -⟩ := insert_event hf
  exact ⟨listed, hown⟩

/-- A request that removes its entry has not been able to send, or has waited in vain. -/
theorem remove_own {u : String × Work} {requestId : String} {taken : Option Nat}
    (hf : System.Follows (program D T)
      (newer ++ (u, ⟨.node me (.pendingRemove requestId), taken⟩) :: older)) :
    ∃ listed k agentId m sent rest, Log.own u older = entered me listed requestId k ++
        ⟨.node me (.agentsSend agentId m), sent⟩ :: rest ∧
      (sent ≠ some true ∨ ∃ k', (⟨.node me (.oneshotRecv k'), none⟩ : Event serverSig) ∈ rest) := by
  obtain ⟨n, request, rfl, -, hnext⟩ := proxy_event rfl hf
  generalize Log.own (me, .request n) older = es at hnext
  cases hnext with
  | refuse listed agentId _ pending sent hsent =>
    exact ⟨listed, pending, agentId, _, sent, [], rfl, .inl hsent⟩
  | expire listed agentId _ pending =>
    exact ⟨listed, pending, agentId, _, some true, _, rfl, .inr ⟨pending, by simp⟩⟩

/-- The fourth event of a request that sends is the send. -/
theorem send_own {n : Nat} {request : ProxyRequest} (hcall : T.request me n = .proxy request)
    {agentId : String} {m : Message} {sent : Option Bool}
    (hf : System.Follows (program D T) log)
    (hsend : ((me, Work.request n), (⟨.node me (.agentsSend agentId m), sent⟩ : Event serverSig)) ∈
      log) :
    (Log.own (me, .request n) log)[3]? = some ⟨.node me (.agentsSend agentId m), sent⟩ := by
  obtain ⟨newer, older, rfl⟩ := List.append_of_mem hsend
  obtain ⟨p, hp⟩ := request_path hf
  obtain ⟨p, hp⟩ := proxy_path hcall hp
  have hnext := proxyHttp_next hp
  generalize hown : Log.own (me, .request n) older = es at hnext
  cases hnext with
  | send listed _ st hfound requestId pending =>
    exact Log.own_getElem? (by rw [hown]; rfl)

/-- The events of a request that has inserted its entry. -/
theorem inserted_own {n : Nat} {requestId : String} {k : Nat}
    (hf : System.Follows (program D T)
      (newer ++ ((me, .request n), ⟨.node me (.pendingInsert requestId), k⟩) :: older)) :
    ∃ listed, Log.own (me, .request n)
        (newer ++ ((me, .request n), ⟨.node me (.pendingInsert requestId), k⟩) :: older) =
      entered me listed requestId k ++ Log.own (me, .request n) newer := by
  obtain ⟨listed, hown⟩ := insert_own hf
  refine ⟨listed, ?_⟩
  rw [Log.own_split, hown]
  rfl

/-- No other request has the id of a request that has inserted its entry. -/
theorem own_id {t : String × Work} {n : Nat} {requestId : String} {k : Nat}
    {listed : List (Σ _ : String, AgentState)} {rest : List (Event serverSig)}
    (hcausal : Causal (Accounted me) log)
    (hown : Log.own (me, .request n) log = entered me listed requestId k ++ rest)
    (hdrawn : (⟨.uuid, requestId⟩ : Event serverSig) ∈ Log.own t log) : t = (me, .request n) := by
  refine handedOut_unique hcausal (Log.mem_own.mp hdrawn) (Log.mem_own.mp ?_)
  rw [hown]
  simp [entered]

/-- Nothing is inserted under its id again. -/
theorem not_inserted_again {t : String × Work} {n : Nat} {requestId : String} {k k' : Nat}
    {listed : List (Σ _ : String, AgentState)} {rest : List (Event serverSig)}
    (hf : System.Follows (program D T)
      (newer ++ (t, ⟨.node me (.pendingInsert requestId), k'⟩) :: log))
    (hcausal : Causal (Accounted me) log)
    (hown : Log.own (me, .request n) log = entered me listed requestId k ++ rest) : False := by
  obtain ⟨listed', hown'⟩ := insert_own hf
  obtain rfl := own_id (t := t) hcausal hown (by rw [hown']; simp)
  have hlength := congrArg List.length (hown.symm.trans hown')
  simp [entered] at hlength

/-- It removes its entry itself, after its send or its wait. -/
theorem removed_own {t : String × Work} {n : Nat} {requestId : String} {k : Nat}
    {taken : Option Nat} {listed : List (Σ _ : String, AgentState)} {rest : List (Event serverSig)}
    (hf : System.Follows (program D T)
      (newer ++ (t, ⟨.node me (.pendingRemove requestId), taken⟩) :: log))
    (hcausal : Causal (Accounted me) log)
    (hown : Log.own (me, .request n) log = entered me listed requestId k ++ rest) :
    t = (me, .request n) ∧
    ∃ agentId m sent waited, rest = ⟨.node me (.agentsSend agentId m), sent⟩ :: waited ∧
      (sent ≠ some true ∨ ∃ k', (⟨.node me (.oneshotRecv k'), none⟩ : Event serverSig) ∈ waited) := by
  obtain ⟨listed', k', agentId, m, sent, waited, hown', hend⟩ := remove_own hf
  obtain rfl := own_id (t := t) hcausal hown (by rw [hown']; simp [entered])
  obtain ⟨-, hrest⟩ := List.append_inj (hown.symm.trans hown') rfl
  exact ⟨rfl, agentId, m, sent, waited, hrest, hend⟩

/-- Between the insertion of a request that can send and waits, and a first response under its id,
    nothing concerns its entry: another insertion or a removal would be its own. -/
theorem entry_untouched (newer : ServerLog) {requestId : String} {k : Nat}
    {before earlier : ServerLog} (hcall : T.request me n = .proxy request)
    (hf : System.Follows (program D T) (newer ++
      (before ++ ((me, .request n), ⟨.node me (.pendingInsert requestId), k⟩) :: earlier)))
    (hcausal : Causal (Accounted me)
      (before ++ ((me, .request n), ⟨.node me (.pendingInsert requestId), k⟩) :: earlier))
    (hfirst : ∀ e ∈ before, isResponse me requestId e.2 = false)
    (hwaits : ∀ e, ((me, Work.request n), e) ∈ before → isReceipt e = false)
    {agentId : String} {m : Message}
    (hsent : ((me, Work.request n), (⟨.node me (.agentsSend agentId m), some true⟩ :
      Event serverSig)) ∈ newer ++
      (before ++ ((me, .request n), ⟨.node me (.pendingInsert requestId), k⟩) :: earlier)) :
    ∀ e ∈ before, touches me requestId e.2 = false := by
  have hsend := send_own hcall hf hsent
  rintro ⟨t, o, r⟩ he
  obtain ⟨b₁, b₂, rfl⟩ := List.append_of_mem he
  rw [List.append_assoc, List.cons_append] at hf hcausal hsend
  obtain ⟨listed, hown⟩ := inserted_own hf.of_append.of_append.of_cons
  cases o with
  | node n' o =>
    cases o with
    | pendingInsert id =>
      by_contra htouch
      obtain ⟨rfl, rfl⟩ : n' = me ∧ id = requestId := by simpa [touches] using htouch
      exact not_inserted_again hf.of_append hcausal.of_append.2 hown
    | pendingRemove id =>
      by_contra htouch
      obtain ⟨rfl, rfl⟩ : n' = me ∧ id = requestId := by simpa [touches] using htouch
      obtain ⟨rfl, agentId', m', sent, waited, hrest, hend⟩ :=
        removed_own hf.of_append hcausal.of_append.2 hown
      rcases hend with hrefused | ⟨k', hreceipt⟩
      · -- its fourth event is the send, which has gone through
        rw [Log.own_append, Log.own_split, hown, hrest] at hsend
        simp only [entered, List.append_assoc, List.cons_append, List.nil_append,
          List.getElem?_cons_succ, List.getElem?_cons_zero, Option.some.injEq] at hsend
        cases hsend
        exact absurd rfl hrefused
      · have hmem : (⟨.node n' (.oneshotRecv k'), none⟩ : Event serverSig) ∈
            Log.own (n', Work.request n) b₂ := by
          rw [hrest]
          exact .tail _ hreceipt
        have hnever := hwaits _ (List.mem_append_right _ (.tail _ (Log.mem_own.mp hmem)))
        cases hnever
    | respond id response => exact hfirst _ he
    | _ => rfl
  | _ => rfl

/-! ## A response that comes in time -/

/-- A response comes in time for the request `n`: it is the first one under its id since its entry
    was made, its wait has not ended before, and its send succeeds. -/
structure InTime (me : String) (n : Nat) (requestId : String) (k : Nat) (response : HttpResponse)
    (log : ServerLog) : Prop where
  handled : ∃ newer u taken before earlier,
    log = newer ++ (u, ⟨.node me (.respond requestId response), taken⟩) ::
      (before ++ ((me, .request n), ⟨.node me (.pendingInsert requestId), k⟩) :: earlier) ∧
    (∀ e ∈ before, isResponse me requestId e.2 = false) ∧
    ∀ e, ((me, Work.request n), e) ∈ before → isReceipt e = false
  sent : ∃ agentId m, ((me, Work.request n), (⟨.node me (.agentsSend agentId m), some true⟩ :
    Event serverSig)) ∈ log

/-- The events of a request that has sent its message. -/
theorem InTime.own {requestId : String} {k : Nat} {response : HttpResponse}
    (h : InTime me n requestId k response log) (hcall : T.request me n = .proxy request)
    (hf : System.Follows (program D T) log) :
    ∃ listed agentId m rest, Log.own (me, .request n) log = entered me listed requestId k ++
      ⟨.node me (.agentsSend agentId m), some true⟩ :: rest := by
  obtain ⟨newer, u, taken, before, earlier, rfl, -, -⟩ := h.handled
  obtain ⟨agentId, m, hsent⟩ := h.sent
  have hsend := send_own hcall hf hsent
  have hlog : newer ++ (u, ⟨.node me (.respond requestId response), taken⟩) ::
      (before ++ ((me, .request n), ⟨.node me (.pendingInsert requestId), k⟩) :: earlier) =
      (newer ++ (u, ⟨.node me (.respond requestId response), taken⟩) :: before) ++
        ((me, .request n), ⟨.node me (.pendingInsert requestId), k⟩) :: earlier := by simp
  rw [hlog] at hf hsend ⊢
  obtain ⟨listed, hown⟩ := inserted_own hf
  rw [hown] at hsend ⊢
  cases hrest : Log.own (me, Work.request n)
      (newer ++ (u, ⟨.node me (.respond requestId response), taken⟩) :: before) with
  | nil => simp [hrest, entered] at hsend
  | cons e rest =>
    obtain rfl : e = ⟨.node me (.agentsSend agentId m), some true⟩ := by
      simpa [hrest, entered] using hsend
    exact ⟨listed, agentId, m, rest, rfl⟩

/-- It has taken the entry. -/
theorem InTime.taken {requestId : String} {k : Nat} {response : HttpResponse}
    (h : InTime me n requestId k response log) (hcall : T.request me n = .proxy request)
    (hf : System.Follows (program D T) log) (hcausal : Causal (Accounted me) log) :
    ∃ newer u before earlier,
      log = newer ++ (u, ⟨.node me (.respond requestId response), some k⟩) ::
        (before ++ ((me, .request n), ⟨.node me (.pendingInsert requestId), k⟩) :: earlier) ∧
      ∀ e, ((me, Work.request n), e) ∈ before → isReceipt e = false := by
  obtain ⟨newer, u, taken, before, earlier, rfl, hfirst, hwaits⟩ := h.handled
  obtain ⟨agentId, m, hsent⟩ := h.sent
  have huntouched := entry_untouched (newer ++
    [(u, ⟨.node me (.respond requestId response), taken⟩)]) hcall (by simpa using hf)
    hcausal.of_append.2 hfirst hwaits (by simpa using hsent)
  have htaken : taken = pendingEntry me requestId _ := hcausal.at_split rfl
  rw [pendingEntry_append huntouched, pendingEntry_insert] at htaken
  subst htaken
  exact ⟨newer, u, before, earlier, rfl, hwaits⟩

/-- The wait of the request has not ended, or has ended with it. -/
theorem InTime.wait {requestId : String} {k : Nat} {response : HttpResponse}
    (h : InTime me n requestId k response log) (hcall : T.request me n = .proxy request)
    (hf : System.Follows (program D T) log) (hcausal : Causal (Accounted me) log)
    {received : Option HttpResponse}
    (hreceived : ((me, Work.request n), (⟨.node me (.oneshotRecv k), received⟩ :
      Event serverSig)) ∈ log) : received = some response := by
  obtain ⟨newer, u, before, earlier, rfl, hwaits⟩ := h.taken hcall hf hcausal
  rcases List.mem_append.mp hreceived with hafter | hbefore
  · obtain ⟨n₁, n₂, rfl⟩ := List.append_of_mem hafter
    rw [List.append_assoc] at hcausal
    have hvalue : received = oneshotValue me k _ := hcausal.at_split rfl
    rw [hvalue]
    exact oneshotValue_taken hcausal.of_append.2
  · rcases List.mem_cons.mp hbefore with heq | hbefore
    · cases heq
    rcases List.mem_append.mp hbefore with hwait | hbefore
    · cases hwaits _ hwait
    rcases List.mem_cons.mp hbefore with heq | hearlier
    · cases heq
    obtain ⟨listed, hown⟩ := insert_own hf.of_append.of_cons
    rw [← Log.mem_own, hown] at hearlier
    simp at hearlier

/-- After its send the request has only received the response. -/
theorem InTime.rest {requestId : String} {k : Nat} {response : HttpResponse}
    (h : InTime me n requestId k response log) (hcall : T.request me n = .proxy request)
    (hf : System.Follows (program D T) log) (hcausal : Causal (Accounted me) log)
    {p : ServerProg Response}
    (hp : (proxyHttp me D.headers request).Path (Log.own (me, .request n) log) p) :
    (∃ f, p = .op (.node me (.oneshotRecv k)) f ∧ f (some response) = .ret (.agent response)) ∨
      p = .ret (.agent response) := by
  obtain ⟨listed, agentId, m, rest, hown⟩ := h.own hcall hf
  rw [hown] at hp
  rcases proxyHttp_sent hp with ⟨-, f, rfl, hanswer⟩ | ⟨received, rest', rfl, hanswer⟩
  · exact .inl ⟨f, rfl, hanswer response⟩
  · have hreceived : ((me, Work.request n), (⟨.node me (.oneshotRecv k), received⟩ :
        Event serverSig)) ∈ log := by
      rw [← Log.mem_own, hown]
      simp
    exact .inr (hanswer response (h.wait hcall hf hcausal hreceived)).2

/-! ## Every run -/

section Runs

variable {faulty : Bool}

/-- The responses that the request `n` may receive, and the one it returns. -/
structure Reached (D : Deployment) (T : Traffic) (faulty : Bool) (me : String) (n : Nat)
    (request : ProxyRequest) (c : ServerPool) : Prop where
  /-- it waits once -/
  once : ∀ (i j k k' : Nat) (r r' : Option HttpResponse),
    (Log.own (me, .request n) c.shared.2)[i]? =
      some (⟨.node me (.oneshotRecv k), r⟩ : Event serverSig) →
    (Log.own (me, .request n) c.shared.2)[j]? =
      some (⟨.node me (.oneshotRecv k'), r'⟩ : Event serverSig) → i = j
  /-- what it receives is the first answer under its own id -/
  first : ∀ newer older k response,
    c.shared.2 = newer ++ ((me, .request n), ⟨.node me (.oneshotRecv k), some response⟩) :: older →
    ∃ listed agentId requestId, Log.own (me, .request n) older = entered me listed requestId k ++
        [⟨.node me (.agentsSend agentId (request.message D.headers requestId)), some true⟩] ∧
      FirstAnswer D T me n requestId k response older
  /-- no response under another id gets into its channel -/
  others : ∀ u id response requestId k,
    (u, (⟨.node me (.respond id response), some k⟩ : Event serverSig)) ∈ c.shared.2 →
    ((me, Work.request n), (⟨.node me (.pendingInsert requestId), k⟩ : Event serverSig)) ∈
      c.shared.2 → id = requestId
  /-- a response in time is its answer: it has not returned any other, and goes on to return it -/
  returns : ∀ requestId k response, InTime me n requestId k response c.shared.2 →
    (∀ answer, c.task (me, .request n) = .idle (some answer) →
      answer = some (.http (.agent response))) ∧
    ∃ ms c', (openServing D T faulty true).replay ms c = some c' ∧
      c'.task (me, .request n) = .idle (some (some (.http (.agent response))))

/-- A request receives as its fifth operation. -/
theorem receipt_index (hcall : T.request me n = .proxy request)
    (hf : System.Follows (program D T) log) {i k : Nat} {r : Option HttpResponse}
    (hi : (Log.own (me, .request n) log)[i]? = some ⟨.node me (.oneshotRecv k), r⟩) : i = 4 := by
  obtain ⟨p, hp⟩ := hf (me, .request n)
  obtain ⟨hlt, hget⟩ := List.getElem?_eq_some_iff.mp hi
  have hsplit : Log.own (me, .request n) log =
      ((Log.own (me, .request n) log).take i ++ [⟨.node me (.oneshotRecv k), r⟩]) ++
        (Log.own (me, .request n) log).drop (i + 1) := by
    rw [← hget]
    simp
  rw [hsplit] at hp
  obtain ⟨p', hp', -⟩ := Prog.path_append_iff.mp hp
  obtain ⟨q, hq⟩ := hp'.of_bind_ret
  obtain ⟨q, hq⟩ := proxy_path hcall hq
  have hnext := proxyHttp_next hq
  generalize hes : (Log.own (me, .request n) log).take i = es at hnext
  cases hnext with
  | receive listed agentId st hfound requestId =>
    have hlength := congrArg List.length hes
    simp only [List.length_take, entered, List.length_append, List.length_cons,
      List.length_nil] at hlength
    omega

/-- The channel of a request that has its answer in time holds it. -/
theorem InTime.receive (faulty : Bool) {c : ServerPool} (hremembers : Remembers me c.shared.1 c.shared.2)
    (hcall : T.request me n = .proxy request) (hf : System.Follows (program D T) c.shared.2)
    {requestId : String} {k : Nat} {response : HttpResponse}
    (hin : InTime me n requestId k response c.shared.2) :
    (openServing D T faulty true).handler (me, .request n) .go (.node me (.oneshotRecv k)) c.shared =
      some (some response, (c.shared.1, ((me, .request n), ⟨.node me (.oneshotRecv k),
        some response⟩) :: c.shared.2)) := by
  obtain ⟨newer, u, before, earlier, hlog, -⟩ := hin.taken hcall hf hremembers.causal
  have hvalue : oneshotValue me k c.shared.2 = some response := by
    have hcausal := hremembers.causal
    rw [hlog] at hcausal ⊢
    exact oneshotValue_taken hcausal
  have hnode : (NodeOp.oneshotRecv k).exec .go (c.shared.1.node me) =
      some (some response, c.shared.1.node me) := by
    simp [NodeOp.exec, hremembers.oneshot, hvalue]
  have hop : World.handler D.backend faulty .go (.node me (.oneshotRecv k)) c.shared.1 =
      some (some response, c.shared.1) := World.exec_node.mpr ⟨_, hnode, by simp⟩
  have hopen : World.openHandler D.backend faulty true .go (.node me (.oneshotRecv k)) c.shared.1 =
      some (some response, c.shared.1) := hop
  show Option.map _
    (World.openHandler D.backend faulty true .go (.node me (.oneshotRecv k)) c.shared.1) = _
  rw [hopen]
  rfl

section InTime

variable {c : ServerPool} {requestId : String} {k : Nat} {response : HttpResponse}

/-- A request that has its answer in time returns nothing else. -/
theorem InTime.returned (hin : InTime me n requestId k response c.shared.2)
    (htraced : System.Traced (program D T) c) (hcausal : Causal (Accounted me) c.shared.2)
    (hcall : T.request me n = .proxy request) {answer : Option Answer}
    (hidle : c.task (me, .request n) = .idle (some answer)) :
    answer = some (.http (.agent response)) := by
  obtain ⟨r, rfl, hp⟩ := proxy_returned hcall htraced hidle
  rcases hin.rest hcall htraced.follows hcausal hp with ⟨f, hop, -⟩ | hr
  · cases hop
  · rw [Prog.ret.inj hr]

/-- It can go on to return it: it still has to receive the response, or has done so. -/
theorem InTime.returns (faulty : Bool) (hin : InTime me n requestId k response c.shared.2)
    (htraced : System.Traced (program D T) c) (hremembers : Remembers me c.shared.1 c.shared.2)
    (hcall : T.request me n = .proxy request) :
    ∃ ms c', (openServing D T faulty true).replay ms c = some c' ∧
      c'.task (me, .request n) = .idle (some (some (.http (.agent response)))) := by
  have hf := htraced.follows
  have hcausal := hremembers.causal
  have htask := htraced (me, .request n)
  have hprogram : program D T (me, .request n) =
      proxyHttp me D.headers request >>= fun response => .ret (some (.http response)) := by
    simp only [program, Work.run, hcall, ServerCall.run, bind_assoc]
    rfl
  rw [hprogram] at htask
  cases hc : c.task (me, .request n) with
  | idle state =>
    cases state with
    | none =>
      simp only [hc] at htask
      obtain ⟨listed, agentId, m, rest, hown⟩ := hin.own hcall hf
      simp [hown, entered] at htask
    | some answer => exact ⟨[], c, rfl, by rw [hc, hin.returned htraced hcausal hcall hc]⟩
  | busy q =>
    simp only [hc] at htask
    obtain ⟨p, rfl, hp⟩ := htask
    rcases Prog.path_bind_iff.mp hp with ⟨p', hp', rfl⟩ | ⟨es₁, es₂, r, hown, hp', hret⟩
    · rcases hin.rest hcall hf hcausal hp' with ⟨f, rfl, hf'⟩ | rfl
      · have hready : c.task (me, .request n) = .busy (.op (.node me (.oneshotRecv k)) fun r =>
            (f r >>= fun answer => .ret (some (.http answer))) >>= fun a => .ret (some a)) := hc
        have hreceive := hin.receive faulty hremembers hcall hf
        obtain ⟨ms, c', hms, hidle⟩ := System.replay_finish (M := openServing D T faulty true)
          (t := (me, .request n)) (l := some (some (.http (.agent response))))
          (c := ⟨_, Function.update c.task (me, .request n) (.busy (.ret (some (some
            (.http (.agent response))))))⟩) (by simp)
        refine ⟨.act (me, .request n) .go :: ms, c', ?_, hidle⟩
        rw [System.replay_act hready hreceive ms, ← hms, hf']
        rfl
      · exact System.replay_finish hc
    · obtain ⟨rfl, rfl⟩ := Prog.path_ret_iff.mp hret
      rw [List.append_nil] at hown
      rw [← hown] at hp'
      rcases hin.rest hcall hf hcausal hp' with ⟨f, hop, -⟩ | hr
      · cases hop
      · obtain rfl := Prog.ret.inj hr
        exact System.replay_finish hc

end InTime

/-- In every run from a start without requests in flight: however requests, connections, sends and
    deadlines interleave, a request receives at most once, and what it receives is the first
    response under its own id that was handled while its entry was in the map; a response under
    another id never gets to it, and one that comes in time is what it returns. -/
theorem responses_reach_their_requests {c₀ c : ServerPool}
    (hcodec : ∀ b, D.codec.decode (D.codec.encode b) = some b)
    (hpending : (c₀.shared.1.node me).pending = ∅)
    (honeshot : ∀ k, (c₀.shared.1.node me).oneshot k = none)
    (hidle : ∀ t, c₀.task t = .idle none) (hlog : c₀.shared.2 = [])
    (hr : (openServing D T faulty true).Reachable c₀ c) (hcall : T.request me n = .proxy request) :
    Reached D T faulty me n request c := by
  have htraced : System.Traced (program D T) c := hr.traced hidle hlog
  have hremembers : Remembers me c.shared.1 c.shared.2 :=
    .of_reachable hpending honeshot hidle hlog hr
  have hf := htraced.follows
  have hcausal := hremembers.causal
  exact
    { once := fun i j k k' r r' hi hj =>
        (receipt_index hcall hf hi).trans (receipt_index hcall hf hj).symm
      first := fun newer older k response hsplit => by
        rw [hsplit] at hf hcausal
        exact received hcodec hf hcausal hcall
      others := fun u id response requestId k hresponse hinsert => by
        obtain ⟨newer, older, hsplit⟩ := List.append_of_mem hresponse
        rw [hsplit] at hcausal hinsert
        obtain ⟨t, htaken⟩ := taken_inserted hcausal
        exact (madeChannel_unique hcausal (List.mem_append_right _ (.tail _ htaken)) hinsert).2
      returns := fun requestId k response hin =>
        ⟨fun _ => hin.returned htraced hcausal hcall,
          hin.returns faulty htraced hremembers hcall⟩ }

end Runs

/-- One agent, which answers the request `r`. -/
def answering : Traffic where
  request _ _ := .proxy getIndex
  frames _ _ := [some (.register "app" 80 "localhost" "http" "secret"),
    some (.httpResponse "r" 200 ∅ (some [104, 105]))]

/-- The request is sent, its agent registers and answers, and the answer is returned. -/
def answered : List (Move (String × Work) Unit Choice) :=
  let agent : AgentState := ⟨0, "app", 80, "localhost", .http, 0⟩
  let request := ("s", Work.request 0)
  let connection := ("s", Work.connection 0)
  [.start request (), .act request (.order [⟨"agent", agent⟩]), .act request (.fresh "r"),
    .act request .go, .act request (.io true), .start connection ()] ++
  ([.go, .go, .fresh "i", .fresh "k", .go, .go, .read 1000, .read 1000, .read 1000, .go,
    .read 1000, .go, .go, .go, .go].map fun c => .act connection c) ++
  [.act request .go, .finish request]

/-- The status and the body of the agent's response that a task has returned. -/
def returned (c : ServerPool) (t : String × Work) : Option (UInt16 × List UInt8) :=
  match c.task t with
  | .idle (some (some (.http (.agent response)))) => some (response.status, response.body)
  | _ => none

theorem responses_reach_their_requests_answered :
    ∃ c, (openServing .sample answering false true).Reachable ready c ∧
      returned c ("s", .request 0) = some (200, [104, 105]) ∧
      Reached .sample answering false "s" 0 getIndex c := by
  have hrun : ((openServing .sample answering false true).replay answered ready).map
      (returned · ("s", .request 0)) = some (some (200, [104, 105])) := by decide +kernel
  obtain ⟨c, hc, hreturned⟩ := Option.map_eq_some_iff.mp hrun
  exact ⟨c, ⟨_, hc⟩, hreturned, responses_reach_their_requests Base64.decode_encode rfl
    (fun _ => rfl) (fun _ => rfl) rfl ⟨_, hc⟩ rfl⟩

end Tunnel

end Jrok
