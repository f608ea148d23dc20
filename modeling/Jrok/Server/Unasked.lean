import Jrok.Server.Streams
import Jrok.Tunnel.Responses

/-!
# Requests that no agent sees

Whatever is sent to an agent through the agents map goes to a channel that no task drains. On the
sockets there are only the replies of the connections, so an agent that answers a request has not
been asked.
-/

namespace Jrok

open Concurrency

namespace Tunnel

variable {D : Deployment} {T : Traffic} {me : String} {log : ServerLog}

/-- The messages that reach a socket. -/
def IsReply : Message → Prop
  | .welcome .. | .error .. | .tcpConnect .. | .tcpDisconnect .. => True
  | _ => False

theorem isReply_of_sent {w : World} (hf : System.Follows (program D T) log)
    (hS : Connection.Streaming me w log) {conn : Nat} {m : Message}
    (hm : m ∈ (w.node me).sent conn) : IsReply m := by
  have hreplied := (hS.sent_prefix conn).subset hm
  obtain ⟨read, -, hanswered⟩ := Connection.replied_answered hf conn
  rcases hanswered.kinds hreplied with ⟨_, _, _, rfl⟩ | ⟨_, rfl⟩ |
    ⟨_, _, rfl⟩ | ⟨_, rfl⟩ <;> trivial

/-- A request that returns an agent's response has received it. -/
theorem received_response {n : Nat} {request : ProxyRequest} {c : ServerPool}
    {response : HttpResponse} (htraced : System.Traced (program D T) c)
    (hcall : T.request me n = .proxy request)
    (hidle : c.task (me, .request n) = .idle (some (some (.http (.agent response))))) :
    ∃ k, ((me, Work.request n), (⟨.node me (.oneshotRecv k), some response⟩ : Event serverSig)) ∈
      c.shared.2 := by
  obtain ⟨answer, hanswer, hp⟩ := proxy_returned hcall htraced hidle
  obtain rfl := Answer.http.inj (Option.some.inj hanswer)
  obtain ⟨k, hreceived⟩ := proxyHttp_agent hp
  exact ⟨k, Log.mem_own.mp hreceived⟩

/-- A response that a connection handles is one of its frames. -/
theorem Answers.frame {conn : Nat} {older : ServerLog} {agentId requestId : String}
    {response : HttpResponse} (h : Answers D T me conn older agentId requestId response) :
    ∃ body, some (.httpResponse requestId response.status response.headers body) ∈
        T.frames me conn ∧ response.body = body.getD [] := by
  obtain ⟨reader, later, cur, body, ⟨msgTx, before, -, hbetween⟩, -, hbody⟩ := h
  obtain ⟨read, hread⟩ := hbetween.frames
  exact ⟨body, by simp [hread], hbody⟩

/-- What a server writes to its sockets and what its requests return. -/
structure Unasked (D : Deployment) (T : Traffic) (me : String) (c : ServerPool) : Prop where
  /-- only replies are written to a socket -/
  sent : ∀ conn m, m ∈ (c.shared.1.node me).sent conn → IsReply m
  /-- a response that a request returns was in a frame with the id that the request has drawn,
      although nothing with that id has been written to any socket -/
  answers : ∀ n request response, T.request me n = .proxy request →
    c.task (me, .request n) = .idle (some (some (.http (.agent response)))) →
    ∃ requestId conn body, ((me, Work.request n), (⟨.uuid, requestId⟩ : Event serverSig)) ∈
        c.shared.2 ∧
      some (.httpResponse requestId response.status response.headers body) ∈ T.frames me conn ∧
      response.body = body.getD [] ∧
      ∀ conn', request.message D.headers requestId ∉ (c.shared.1.node me).sent conn'

/-- In every run of any number of servers, whatever their tasks do. -/
theorem requests_unseen {faulty lookups : Bool} {c₀ c : ServerPool}
    (hcodec : ∀ b, D.codec.decode (D.codec.encode b) = some b)
    (hidle : ∀ t, c₀.task t = .idle none) (hlog : c₀.shared.2 = [])
    (hnew : c₀.shared.1.node me = .new)
    (hr : (Connection.writing D T faulty lookups).Reachable c₀ c) : Unasked D T me c := by
  obtain ⟨htraced, hstreaming⟩ := Connection.streaming_reachable hidle hlog hnew hr
  have hremembers : Remembers me c.shared.1 c.shared.2 :=
    .of_reachable (by rw [hnew]; rfl) (by rw [hnew]; exact fun _ => rfl) hidle hlog hr.of_restrict
  have hsent : ∀ conn m, m ∈ (c.shared.1.node me).sent conn → IsReply m := fun conn m hm =>
    isReply_of_sent htraced.follows hstreaming hm
  refine ⟨hsent, fun n request response hcall hreturned => ?_⟩
  obtain ⟨k, hreceived⟩ := received_response htraced hcall hreturned
  obtain ⟨newer, older, hsplit⟩ := List.append_of_mem hreceived
  have hf := htraced.follows
  have hcausal := hremembers.causal
  rw [hsplit] at hf hcausal
  obtain ⟨listed, agentId, requestId, hown, hfirst⟩ := received hcodec hf hcausal hcall
  obtain ⟨_, conn, _, _, _, -, -, hanswers⟩ := hfirst
  obtain ⟨body, hframe, hbody⟩ := hanswers.frame
  have hdrawn : ((me, Work.request n), (⟨.uuid, requestId⟩ : Event serverSig)) ∈ older := by
    rw [← Log.mem_own, hown]
    simp [entered]
  refine ⟨requestId, conn, body, ?_, hframe, hbody, fun conn' hasked => hsent conn' _ hasked⟩
  rw [hsplit]
  exact List.mem_append_right _ (.tail _ hdrawn)

/-- The client of the run above is answered, by an agent that has only been welcomed. -/
theorem requests_unseen_answered :
    ∃ c, (Connection.writing .sample answering false true).Reachable ready c ∧
      returned c ("s", .request 0) = some (200, [104, 105]) ∧
      Unasked .sample answering "s" c := by
  have hrun : ((Connection.writing .sample answering false true).replay answered ready).map
      (returned · ("s", .request 0)) = some (some (200, [104, 105])) := by decide +kernel
  obtain ⟨c, hc, hreturned⟩ := Option.map_eq_some_iff.mp hrun
  exact ⟨c, ⟨_, hc⟩, hreturned, requests_unseen Base64.decode_encode (fun _ => rfl) rfl rfl
    ⟨_, hc⟩⟩

end Tunnel

end Jrok
