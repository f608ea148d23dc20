import Jrok.Agent.Registry
import Jrok.Concurrency.Log
import Jrok.Http.Response

/-!
# The HTTP proxy

`proxy_http` of `tunnel/mod.rs`. A request for a tunnel of this server goes to its agent and waits
for the agent's response; for a tunnel that the `agents` table places on some server, the client is
redirected.
-/

namespace Jrok

open Concurrency

namespace Tunnel

variable (me : String)

/-- What `proxy_http` extracts from a request. A header has any bytes as its value; a body that could
    not be read to its end is `none`. -/
structure ProxyRequest where
  subdomain : String
  path : String
  method : String
  headers : List (String × List UInt8)
  body : Option (List UInt8)

/-- The loop over the headers: the values that `to_str` accepts, the last one of each name. -/
def headersMap (H : HeaderValues) (headers : List (String × List UInt8)) : StringMap String :=
  headers.foldl (fun map header =>
    match H.toStr header.2 with
    | some v => map.insert header.1 v
    | none => map) ∅

/-- The message that carries a request to its agent. -/
def ProxyRequest.message (H : HeaderValues) (request : ProxyRequest) (requestId : String) :
    Message :=
  .httpRequest requestId request.method ("/" ++ request.path) (headersMap H request.headers)
    (some (request.body.getD []))

/-- `path.trim_start_matches('/')`. -/
def trimSlashes (path : String) : String := String.ofList (path.toList.dropWhile (· = '/'))

/-- `redirect_url`. -/
def redirectUrl (serverHost path : String) : String :=
  "http://" ++ serverHost ++ "/" ++ trimSlashes path

/-- What the request waits for once its message is sent. -/
def awaitResponse (requestId : String) (pending : Nat) : ServerProg Response := do
  match ← critical me (.oneshotRecv pending) with
  | some response => return .agent response
  | none =>
    AgentRegistry.removePendingRequest me requestId
    return .text 504 "Request timeout"

/-- The part of `proxy_http` for a tunnel of this server. -/
def forward (H : HeaderValues) (request : ProxyRequest) (agentId : String) :
    ServerProg Response := do
  let requestId ← newUuid
  let pending ← AgentRegistry.createPendingRequest me requestId
  match ← (AgentRegistry.sendMessage me agentId (request.message H requestId)).run with
  | .error e =>
    AgentRegistry.removePendingRequest me requestId
    return .text 502 ("Agent error: " ++ e.text)
  | .ok () => awaitResponse me requestId pending

/-- The part of `proxy_http` for a tunnel that this server does not have. -/
def redirect (H : HeaderValues) (request : ProxyRequest) : ServerProg Response := do
  match ← (Db.getAgentServer request.subdomain).run with
  | .ok (some remoteServer) =>
    return H.redirect (redirectUrl remoteServer ("/" ++ request.path))
      "Redirecting to agent server"
  | _ => return .text 404 "Tunnel not found"

def proxyHttp (H : HeaderValues) (request : ProxyRequest) : ServerProg Response := do
  match ← AgentRegistry.getBySubdomain me request.subdomain with
  | some (agentId, _) => forward me H request agentId
  | none => redirect H request

/-! ## Programs as trees -/

section Trees

variable {me} {H : HeaderValues}

theorem redirect_eq (request : ProxyRequest) :
    redirect H request = .op (.sql (.getAgentServer request.subdomain)) fun
      | .ok (some remoteServer) =>
        .ret (H.redirect (redirectUrl remoteServer ("/" ++ request.path))
          "Redirecting to agent server")
      | _ => .ret (.text 404 "Tunnel not found") := by
  refine congrArg (Prog.op _) (funext fun r => ?_)
  rcases r with _ | _ | _ <;> rfl

theorem forward_eq (request : ProxyRequest) (agentId : String) :
    forward me H request agentId = .op .uuid fun requestId =>
      .op (.node me (.pendingInsert requestId)) fun pending =>
        .op (.node me (.agentsSend agentId (request.message H requestId))) fun
          | some true => .op (.node me (.oneshotRecv pending)) fun
            | some response => .ret (.agent response)
            | none => .op (.node me (.pendingRemove requestId)) fun _ =>
              .ret (.text 504 "Request timeout")
          | some false => .op (.node me (.pendingRemove requestId)) fun _ =>
            .ret (.text 502 ("Agent error: " ++
              (Error.internal "Failed to send message: channel closed").text))
          | none => .op (.node me (.pendingRemove requestId)) fun _ =>
            .ret (.text 502 ("Agent error: " ++ (Error.agentNotFound agentId).text)) := by
  refine congrArg (Prog.op _) (funext fun requestId => congrArg (Prog.op _)
    (funext fun pending => ?_))
  refine congrArg (Prog.op _) (funext fun sent => ?_)
  rcases sent with _ | _ | _
  · rfl
  · rfl
  · refine congrArg (Prog.op _) (funext fun response => ?_)
    cases response <;> rfl

theorem proxyHttp_eq (request : ProxyRequest) :
    proxyHttp me H request = .op (.node me .agentsIter) fun entries =>
      match AgentRegistry.findBySubdomain request.subdomain entries with
      | some (agentId, _) => forward me H request agentId
      | none => redirect H request := rfl

end Trees

/-! ## Where a request stands -/

variable {me} {H : HeaderValues} {request : ProxyRequest}

/-- The events of a request up to the entry in the pending map. -/
def entered (me : String) (listed : List (Σ _ : String, AgentState)) (requestId : String)
    (pending : Nat) : List (Event serverSig) :=
  [⟨.node me .agentsIter, listed⟩, ⟨.uuid, requestId⟩,
    ⟨.node me (.pendingInsert requestId), pending⟩]

/-- After these events of its own, a request may perform the operation next. -/
inductive ProxyNext (H : HeaderValues) (me : String) (request : ProxyRequest) :
    List (Event serverSig) → Op → Prop where
  | iter : ProxyNext H me request [] (.node me .agentsIter)
  | server (listed : List (Σ _ : String, AgentState)) :
    ProxyNext H me request [⟨.node me .agentsIter, listed⟩]
      (.sql (.getAgentServer request.subdomain))
  | uuid (listed : List (Σ _ : String, AgentState)) (agentId : String) (st : AgentState)
      (hfound : AgentRegistry.findBySubdomain request.subdomain listed = some (agentId, st)) :
    ProxyNext H me request [⟨.node me .agentsIter, listed⟩] .uuid
  | insert (listed : List (Σ _ : String, AgentState)) (agentId : String) (st : AgentState)
      (hfound : AgentRegistry.findBySubdomain request.subdomain listed = some (agentId, st))
      (requestId : String) :
    ProxyNext H me request [⟨.node me .agentsIter, listed⟩, ⟨.uuid, requestId⟩]
      (.node me (.pendingInsert requestId))
  | send (listed : List (Σ _ : String, AgentState)) (agentId : String) (st : AgentState)
      (hfound : AgentRegistry.findBySubdomain request.subdomain listed = some (agentId, st))
      (requestId : String) (pending : Nat) :
    ProxyNext H me request (entered me listed requestId pending)
      (.node me (.agentsSend agentId (request.message H requestId)))
  | receive (listed : List (Σ _ : String, AgentState)) (agentId : String) (st : AgentState)
      (hfound : AgentRegistry.findBySubdomain request.subdomain listed = some (agentId, st))
      (requestId : String) (pending : Nat) :
    ProxyNext H me request (entered me listed requestId pending ++
        [⟨.node me (.agentsSend agentId (request.message H requestId)), some true⟩])
      (.node me (.oneshotRecv pending))
  | refuse (listed : List (Σ _ : String, AgentState)) (agentId requestId : String) (pending : Nat)
      (sent : Option Bool) (hsent : sent ≠ some true) :
    ProxyNext H me request (entered me listed requestId pending ++
        [⟨.node me (.agentsSend agentId (request.message H requestId)), sent⟩])
      (.node me (.pendingRemove requestId))
  | expire (listed : List (Σ _ : String, AgentState)) (agentId requestId : String)
      (pending : Nat) :
    ProxyNext H me request (entered me listed requestId pending ++
        [⟨.node me (.agentsSend agentId (request.message H requestId)), some true⟩,
          ⟨.node me (.oneshotRecv pending), none⟩])
      (.node me (.pendingRemove requestId))

/-- The last event of a request happens where the request may perform it. -/
theorem proxyHttp_next {es : List (Event serverSig)} {o : Op} {r : o.Res} {p : ServerProg Response}
    (h : (proxyHttp me H request).Path (es ++ [⟨o, r⟩]) p) : ProxyNext H me request es o := by
  rw [proxyHttp_eq] at h
  rcases Prog.path_op_snoc_iff.mp h with ⟨rfl, _, he, -⟩ | ⟨listed, es₁, rfl, h₁⟩
  · obtain rfl := congrArg Sigma.fst he
    exact .iter
  dsimp only at h₁
  cases hfound : AgentRegistry.findBySubdomain request.subdomain listed with
  | none =>
    rw [hfound] at h₁
    simp only [redirect_eq] at h₁
    rcases Prog.path_op_snoc_iff.mp h₁ with ⟨rfl, _, he, -⟩ | ⟨server, es₂, rfl, h₂⟩
    · obtain rfl := congrArg Sigma.fst he
      exact .server listed
    · rcases server with _ | _ | _ <;> exact absurd h₂ Prog.not_path_ret_snoc
  | some found =>
    obtain ⟨agentId, st⟩ := found
    rw [hfound] at h₁
    simp only [forward_eq] at h₁
    rcases Prog.path_op_snoc_iff.mp h₁ with ⟨rfl, _, he, -⟩ | ⟨requestId, es₂, rfl, h₂⟩
    · obtain rfl := congrArg Sigma.fst he
      exact .uuid listed agentId st hfound
    rcases Prog.path_op_snoc_iff.mp h₂ with ⟨rfl, _, he, -⟩ | ⟨pending, es₃, rfl, h₃⟩
    · obtain rfl := congrArg Sigma.fst he
      exact .insert listed agentId st hfound requestId
    rcases Prog.path_op_snoc_iff.mp h₃ with ⟨rfl, _, he, -⟩ | ⟨sent, es₄, rfl, h₄⟩
    · obtain rfl := congrArg Sigma.fst he
      exact .send listed agentId st hfound requestId pending
    have hrefused : sent ≠ some true → (∃ response : Response,
        (Prog.op (S := serverSig) (.node me (.pendingRemove requestId)) fun _ =>
          .ret response).Path (es₄ ++ [⟨o, r⟩]) p) →
        ProxyNext H me request (⟨.node me .agentsIter, listed⟩ :: ⟨.uuid, requestId⟩ ::
          ⟨.node me (.pendingInsert requestId), pending⟩ ::
          ⟨.node me (.agentsSend agentId (request.message H requestId)), sent⟩ :: es₄) o := by
      rintro hsent ⟨response, hremove⟩
      rcases Prog.path_op_snoc_iff.mp hremove with ⟨rfl, _, he, -⟩ | ⟨_, es₅, rfl, h₅⟩
      · obtain rfl := congrArg Sigma.fst he
        exact .refuse listed agentId requestId pending sent hsent
      · exact absurd h₅ Prog.not_path_ret_snoc
    rcases sent with _ | _ | _
    · exact hrefused nofun ⟨_, h₄⟩
    · exact hrefused nofun ⟨_, h₄⟩
    · rcases Prog.path_op_snoc_iff.mp h₄ with ⟨rfl, _, he, -⟩ | ⟨response, es₅, rfl, h₅⟩
      · obtain rfl := congrArg Sigma.fst he
        exact .receive listed agentId st hfound requestId pending
      cases response with
      | some response => exact absurd h₅ Prog.not_path_ret_snoc
      | none =>
        rcases Prog.path_op_snoc_iff.mp h₅ with ⟨rfl, _, he, -⟩ | ⟨_, es₆, rfl, h₆⟩
        · obtain rfl := congrArg Sigma.fst he
          exact .expire listed agentId requestId pending
        · exact absurd h₆ Prog.not_path_ret_snoc

/-- A request that has sent its message waits for the response, which is then its answer. -/
theorem proxyHttp_sent {listed : List (Σ _ : String, AgentState)} {requestId agentId : String}
    {pending : Nat} {m : Message} {rest : List (Event serverSig)} {p : ServerProg Response}
    (h : (proxyHttp me H request).Path (entered me listed requestId pending ++
      ⟨.node me (.agentsSend agentId m), some true⟩ :: rest) p) :
    (rest = [] ∧ ∃ f, p = .op (.node me (.oneshotRecv pending)) f ∧
      ∀ response, f (some response) = .ret (.agent response)) ∨
    ∃ received rest', rest = ⟨.node me (.oneshotRecv pending), received⟩ :: rest' ∧
      ∀ response, received = some response → rest' = [] ∧ p = .ret (.agent response) := by
  rw [proxyHttp_eq] at h
  cases h with
  | cons h₁ =>
    dsimp only at h₁
    cases hfound : AgentRegistry.findBySubdomain request.subdomain listed with
    | none =>
      rw [hfound] at h₁
      simp only [redirect_eq] at h₁
      cases h₁
    | some found =>
      obtain ⟨agentId', st⟩ := found
      rw [hfound] at h₁
      simp only [forward_eq] at h₁
      cases h₁ with | cons h₂ => cases h₂ with | cons h₃ => cases h₃ with | cons h₄ =>
      rcases Prog.path_op_iff.mp h₄ with ⟨rfl, rfl⟩ | ⟨received, rest', rfl, h₅⟩
      · exact .inl ⟨rfl, _, rfl, fun response => rfl⟩
      · refine .inr ⟨received, rest', rfl, ?_⟩
        rintro response rfl
        exact Prog.path_ret_iff.mp h₅

/-- The events of a request that has returned, and its answer. -/
inductive ProxyDone (H : HeaderValues) (me : String) (request : ProxyRequest) :
    List (Event serverSig) → Response → Prop where
  | redirected (listed : List (Σ _ : String, AgentState)) (remoteServer : String) :
    ProxyDone H me request [⟨.node me .agentsIter, listed⟩,
        ⟨.sql (.getAgentServer request.subdomain), .ok (some remoteServer)⟩]
      (H.redirect (redirectUrl remoteServer ("/" ++ request.path)) "Redirecting to agent server")
  | missing (listed : List (Σ _ : String, AgentState)) (server : Except DbError (Option String)) :
    ProxyDone H me request [⟨.node me .agentsIter, listed⟩,
        ⟨.sql (.getAgentServer request.subdomain), server⟩] (.text 404 "Tunnel not found")
  | refused (listed : List (Σ _ : String, AgentState)) (requestId agentId text : String)
      (pending : Nat) (sent : Option Bool) (taken : Option Nat) :
    ProxyDone H me request (entered me listed requestId pending ++
        [⟨.node me (.agentsSend agentId (request.message H requestId)), sent⟩,
          ⟨.node me (.pendingRemove requestId), taken⟩]) (.text 502 ("Agent error: " ++ text))
  | answered (listed : List (Σ _ : String, AgentState)) (requestId agentId : String)
      (pending : Nat) (response : HttpResponse) :
    ProxyDone H me request (entered me listed requestId pending ++
        [⟨.node me (.agentsSend agentId (request.message H requestId)), some true⟩,
          ⟨.node me (.oneshotRecv pending), some response⟩]) (.agent response)
  | expired (listed : List (Σ _ : String, AgentState)) (requestId agentId : String)
      (pending : Nat) (taken : Option Nat) :
    ProxyDone H me request (entered me listed requestId pending ++
        [⟨.node me (.agentsSend agentId (request.message H requestId)), some true⟩,
          ⟨.node me (.oneshotRecv pending), none⟩,
          ⟨.node me (.pendingRemove requestId), taken⟩]) (.text 504 "Request timeout")

theorem proxyHttp_done {es : List (Event serverSig)} {response : Response}
    (h : (proxyHttp me H request).Path es (.ret response)) : ProxyDone H me request es response := by
  rw [proxyHttp_eq] at h
  obtain ⟨listed, es₁, rfl, h₁⟩ := Prog.path_op_ret_iff.mp h
  cases hfound : AgentRegistry.findBySubdomain request.subdomain listed with
  | none =>
    rw [hfound] at h₁
    simp only [redirect_eq] at h₁
    obtain ⟨server, es₂, rfl, h₂⟩ := Prog.path_op_ret_iff.mp h₁
    rcases server with e | _ | remoteServer <;> obtain ⟨rfl, hanswer⟩ := Prog.path_ret_iff.mp h₂ <;>
      obtain rfl := Prog.ret.inj hanswer
    · exact .missing listed (.error e)
    · exact .missing listed (.ok none)
    · exact .redirected listed remoteServer
  | some found =>
    rw [hfound] at h₁
    simp only [forward_eq] at h₁
    obtain ⟨requestId, es₂, rfl, h₂⟩ := Prog.path_op_ret_iff.mp h₁
    obtain ⟨pending, es₃, rfl, h₃⟩ := Prog.path_op_ret_iff.mp h₂
    obtain ⟨sent, es₄, rfl, h₄⟩ := Prog.path_op_ret_iff.mp h₃
    rcases sent with _ | _ | _
    · obtain ⟨taken, es₅, rfl, h₅⟩ := Prog.path_op_ret_iff.mp h₄
      obtain ⟨rfl, hanswer⟩ := Prog.path_ret_iff.mp h₅
      obtain rfl := Prog.ret.inj hanswer
      exact .refused listed requestId found.1 _ pending none taken
    · obtain ⟨taken, es₅, rfl, h₅⟩ := Prog.path_op_ret_iff.mp h₄
      obtain ⟨rfl, hanswer⟩ := Prog.path_ret_iff.mp h₅
      obtain rfl := Prog.ret.inj hanswer
      exact .refused listed requestId found.1 _ pending (some false) taken
    · obtain ⟨received, es₅, rfl, h₅⟩ := Prog.path_op_ret_iff.mp h₄
      cases received with
      | some received =>
        obtain ⟨rfl, hanswer⟩ := Prog.path_ret_iff.mp h₅
        obtain rfl := Prog.ret.inj hanswer
        exact .answered listed requestId found.1 pending received
      | none =>
        obtain ⟨taken, es₆, rfl, h₆⟩ := Prog.path_op_ret_iff.mp h₅
        obtain ⟨rfl, hanswer⟩ := Prog.path_ret_iff.mp h₆
        obtain rfl := Prog.ret.inj hanswer
        exact .expired listed requestId found.1 pending taken

/-- A request that answers with an agent's response has received it. -/
theorem proxyHttp_agent {es : List (Event serverSig)} {response : HttpResponse}
    (h : (proxyHttp me H request).Path es (.ret (.agent response))) :
    ∃ pending, (⟨.node me (.oneshotRecv pending), some response⟩ : Event serverSig) ∈ es := by
  have hdone := proxyHttp_done h
  generalize hanswer : Response.agent response = answer at hdone
  cases hdone with
  | redirected listed remoteServer =>
    unfold HeaderValues.redirect at hanswer
    split at hanswer <;> cases hanswer
  | answered listed requestId agentId pending received =>
    obtain rfl := Response.agent.inj hanswer
    exact ⟨pending, by simp⟩
  | missing | refused | expired => cases hanswer

/-- A request that has returned has inserted no entry, or has removed it itself, or has received
    the response that took it. -/
theorem proxyHttp_returned {es : List (Event serverSig)} {response : Response}
    (h : (proxyHttp me H request).Path es (.ret response)) :
    (∀ (requestId : String) (k : Nat),
      (⟨.node me (.pendingInsert requestId), k⟩ : Event serverSig) ∉ es) ∨
    ∃ listed requestId pending rest, es = entered me listed requestId pending ++ rest ∧
      ((∃ taken, (⟨.node me (.pendingRemove requestId), taken⟩ : Event serverSig) ∈ rest) ∨
        ∃ received, (⟨.node me (.oneshotRecv pending), some received⟩ : Event serverSig) ∈
          rest) := by
  cases proxyHttp_done h with
  | redirected | missing => exact .inl (by simp)
  | refused listed requestId agentId text pending sent taken =>
    exact .inr ⟨listed, requestId, pending, _, rfl, .inl ⟨taken, by simp⟩⟩
  | answered listed requestId agentId pending received =>
    exact .inr ⟨listed, requestId, pending, _, rfl, .inr ⟨received, by simp⟩⟩
  | expired listed requestId agentId pending taken =>
    exact .inr ⟨listed, requestId, pending, _, rfl, .inl ⟨taken, by simp⟩⟩

/-! ## A request -/

/-- Header values without control characters. -/
def sampleHeaders : HeaderValues where
  toStr bytes := some (String.ofList (bytes.map fun b => Char.ofNat b.toNat))
  accepts text := text.toList.all fun c => 32 ≤ c.toNat && c.toNat ≠ 127

def getIndex : ProxyRequest := ⟨"app", "index.html", "GET", [], some []⟩

end Tunnel

end Jrok
