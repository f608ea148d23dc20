import Jrok.Tcp.Calls

/-!
# Requests that fail

What `request_connection` leaves behind where it returns an error. It may fail because no agent
serves the subdomain, because the agent is no TCP agent, or because the agent cannot be reached;
the session is in the map before the last of these.
-/

namespace Jrok

open Concurrency

namespace Facilitator

/-- The same sessions, relays and counters. -/
structure Same (f f' : Facilitator) : Prop where
  sessions : ∀ k, f'.sessions.lookup k = f.sessions.lookup k
  relays : ∀ k, f'.relays.lookup k = f.relays.lookup k
  totalAttempts : f'.totalAttempts = f.totalAttempts
  directSuccesses : f'.directSuccesses = f.directSuccesses
  relayUsed : f'.relayUsed = f.relayUsed

theorem Same.refl (f : Facilitator) : f.Same f := ⟨fun _ => rfl, fun _ => rfl, rfl, rfl, rfl⟩

/-- An insertion that changes nothing is one of the session that is there. -/
theorem same_insertSession_iff (f : Facilitator) (session : ConnectionSession) :
    f.Same (f.insertSession session) ↔
      f.sessions.lookup session.sessionId = some session := by
  constructor
  · intro h
    rw [← h.sessions, sessions_insertSession, if_pos rfl]
  · intro h
    refine ⟨?_, fun _ => rfl, rfl, rfl, rfl⟩
    intro k
    rw [sessions_insertSession]
    by_cases hk : k = session.sessionId
    · rw [if_pos hk, hk, h]
    · rw [if_neg hk]

end Facilitator

namespace Tcp

/-- What the registry answers to a `request_connection`: the agent that it finds, and to the send
    whether the agent's channel took the message, where the agent is still there. And the session
    that is inserted in between. -/
structure Answers where
  found : Option (String × AgentState)
  inserted : Option ConnectionSession
  sent : Option (Option Bool)

def Answers.start : Answers := ⟨none, none, none⟩

def answersAfter (subdomain : String) : (o : Op) → o.Res → World → Answers → Answers
  | .node _ .agentsIter, entries, _, g =>
    { g with found := AgentRegistry.findBySubdomain subdomain entries }
  | .node _ (.sessionsInsert session), _, _, g => { g with inserted := some session }
  | .node _ (.agentsSend _ _), r, _, g => { g with sent := some r }
  | _, _, _, g => g

/-- The handler of a `request_connection` for the subdomain. -/
abbrev requestHandler (B : Backend) (faulty lookups : Bool) (subdomain : String) :
    Handler serverSig (World × Answers) Choice :=
  (World.openHandler B faulty lookups).observe (answersAfter subdomain)

section

variable {B : Backend} {faulty lookups : Bool} {me subdomain clientAddr : String}
  {c : Choice} {x x' : World × Answers}

theorem requestHandler_node {o : NodeOp} {r : o.Res}
    (h : requestHandler B faulty lookups subdomain c (.node me o) x = some (r, x')) :
    (x'.1.node me).facilitator = o.onFacilitator (x.1.node me).facilitator ∧
      x'.2 = answersAfter subdomain (.node me o) r x.1 x.2 := by
  obtain ⟨hop, hg⟩ := Handler.observe_eq_some.mp h
  exact ⟨(World.openHandler_node hop).1, hg⟩

/-- What a run of `request_connection` returns and does, by what the registry answered. -/
inductive Requested (f : Facilitator) (subdomain : String) :
    Answers → Except Error ConnectionSession → Facilitator → Prop where
  | unknown : Requested f subdomain .start (.error (.tunnelNotFound subdomain)) f
  | wrongProtocol {agentId : String} {agent : AgentState} (hprotocol : agent.protocol ≠ .tcp) :
      Requested f subdomain ⟨some (agentId, agent), none, none⟩
        (.error (.badRequest "Agent is not configured for TCP")) f
  | sent {agentId : String} {agent : AgentState} {session : ConnectionSession}
      (hprotocol : agent.protocol = .tcp) :
      Requested f subdomain ⟨some (agentId, agent), some session, some (some true)⟩ (.ok session)
        (f.insertSession session)
  | notSent {agentId : String} {agent : AgentState} {session : ConnectionSession}
      {answer : Option Bool} {e : Error} (hprotocol : agent.protocol = .tcp)
      (hanswer : answer ≠ some true) :
      Requested f subdomain ⟨some (agentId, agent), some session, some answer⟩ (.error e)
        (f.insertSession session)

theorem requestHandler_draws {sessionId : String} {now : Int}
    {entries : List (Σ _ : String, AgentState)}
    (h : Draws (requestHandler B faulty lookups subdomain) me x sessionId now entries x') :
    (x'.1.node me).facilitator = (x.1.node me).facilitator ∧
      x'.2 = { x.2 with found := AgentRegistry.findBySubdomain subdomain entries } := by
  cases h with
  | mk huuid hnow hiter =>
    obtain ⟨huuid, hview₁⟩ := Handler.observe_eq_some.mp huuid
    obtain ⟨hnow, hview₂⟩ := Handler.observe_eq_some.mp hnow
    obtain ⟨hnode₃, hview₃⟩ := requestHandler_node hiter
    obtain ⟨-, hnode₁, -⟩ := World.openHandler_uuid huuid
    obtain ⟨-, hnode₂, -⟩ := World.openHandler_now hnow
    constructor
    · rw [hnode₃, hnode₂, hnode₁]
      rfl
    · rw [hview₃, hview₂, hview₁]
      rfl

theorem requestConnection_requested {cs : List Choice} {r : Except Error ConnectionSession}
    {w : World}
    (h : (requestConnection me subdomain clientAddr).run.play
      (requestHandler B faulty lookups subdomain) cs (w, .start) = some (r, x')) :
    Requested (w.node me).facilitator subdomain x'.2 r (x'.1.node me).facilitator := by
  cases requestConnection_facilitates h with
  | unknown hdraws hfound =>
    obtain ⟨hfacilitator, hview⟩ := requestHandler_draws hdraws
    rw [hfacilitator, hview, hfound]
    exact .unknown
  | wrongProtocol hdraws hfound hprotocol =>
    obtain ⟨hfacilitator, hview⟩ := requestHandler_draws hdraws
    rw [hfacilitator, hview, hfound]
    exact .wrongProtocol hprotocol
  | asked hdraws hfound hprotocol hinsert hsend hr =>
    obtain ⟨hfacilitator, hview⟩ := requestHandler_draws hdraws
    obtain ⟨hnode₁, hview₁⟩ := requestHandler_node hinsert
    obtain ⟨hnode₂, hview₂⟩ := requestHandler_node hsend
    rw [hnode₂, hview₂, hview₁, hview, hfound]
    show Requested _ _ _ _ (World.node _ me).facilitator
    rw [hnode₁, hfacilitator]
    obtain ⟨rfl, rfl⟩ | ⟨⟨e, rfl⟩, hsent⟩ := hr
    · exact .sent hprotocol
    · exact .notSent hprotocol hsent

/-- A request that fails leaves everything as it was exactly if it does not fail at the send, where
    its session is in the map already. -/
theorem requestConnection_error_iff {cs : List Choice} {r : Except Error ConnectionSession}
    {w : World}
    (h : (requestConnection me subdomain clientAddr).run.play
      (requestHandler B faulty lookups subdomain) cs (w, .start) = some (r, x')) :
    ((∃ e, r = .error e) → (w.node me).facilitator.Same (x'.1.node me).facilitator) ↔
      (∀ agentId agent, x'.2.found = some (agentId, agent) → agent.protocol = .tcp →
        x'.2.sent = some (some true)) ∨
      ∃ session, x'.2.inserted = some session ∧
        (w.node me).facilitator.sessions.lookup session.sessionId = some session := by
  have hrun := requestConnection_requested h
  generalize (x'.1.node me).facilitator = f' at hrun ⊢
  generalize x'.2 = g at hrun ⊢
  cases hrun with
  | unknown =>
    apply iff_of_true
    · intro _
      exact .refl _
    · exact .inl (by simp [Answers.start])
  | wrongProtocol hprotocol =>
    apply iff_of_true
    · intro _
      exact .refl _
    · apply Or.inl
      intro agentId' agent' hfound htcp
      cases hfound
      exact (hprotocol htcp).elim
  | sent hprotocol =>
    apply iff_of_true
    · rintro ⟨e, he⟩
      cases he
    · exact .inl fun _ _ _ _ => rfl
  | @notSent agentId agent session answer e hprotocol hanswer =>
    have hsame := Facilitator.same_insertSession_iff (w.node me).facilitator session
    constructor
    · intro hframe
      exact .inr ⟨session, rfl, hsame.mp (hframe ⟨e, rfl⟩)⟩
    · rintro (hsent | ⟨session', hinserted, hthere⟩) -
      · exact (hanswer (Option.some.inj (hsent agentId agent rfl hprotocol))).elim
      · cases hinserted
        exact hsame.mpr hthere

end

/-- The agent of "app" has gone, and its entry is still in the registry. -/
def deserted : World :=
  World.boot.setNode "s"
    { Node.new with agents := AList.insert "agent" ⟨0, "app", 22, "localhost", .tcp, 0⟩ ∅ }

/-- The choices of a request for "app" that finds the agent. -/
def finds : List Choice :=
  [.fresh "session", .read 1000, .order [⟨"agent", ⟨0, "app", 22, "localhost", .tcp, 0⟩⟩], .go, .go]

theorem run_deserted :
    ∃ x', (requestConnection "s" "app" "203.0.113.7:4000").run.play
        (requestHandler .migrated false false "app") finds (deserted, .start) =
          some (.error (.internal "Failed to send message: channel closed"), x') ∧
      ((x'.1.node "s").facilitator.sessions.lookup "session").map (·.status) =
        some .findingAgent :=
  ⟨_, rfl, rfl⟩

/-- The session of a request that could not be sent to the agent stays. -/
theorem requestConnection_leaves_session :
    ∃ x', (requestConnection "s" "app" "203.0.113.7:4000").run.play
        (requestHandler .migrated false false "app") finds (deserted, .start) =
          some (.error (.internal "Failed to send message: channel closed"), x') ∧
      (deserted.node "s").facilitator.sessions.lookup "session" = none ∧
      ((x'.1.node "s").facilitator.sessions.lookup "session").map (·.status) =
        some .findingAgent ∧
      ¬ (deserted.node "s").facilitator.Same (x'.1.node "s").facilitator := by
  obtain ⟨x', hrun, hstatus⟩ := run_deserted
  refine ⟨x', hrun, rfl, hstatus, ?_⟩
  intro hsame
  rw [hsame.sessions] at hstatus
  exact absurd hstatus (by decide)

theorem requestConnection_error_iff_deserted :
    ∃ x' : World × Answers,
      (((∃ e, (.error (.internal "Failed to send message: channel closed") :
          Except Error ConnectionSession) = .error e) →
          (deserted.node "s").facilitator.Same (x'.1.node "s").facilitator) ↔
        (∀ agentId agent, x'.2.found = some (agentId, agent) → agent.protocol = .tcp →
          x'.2.sent = some (some true)) ∨
        ∃ session, x'.2.inserted = some session ∧
          (deserted.node "s").facilitator.sessions.lookup session.sessionId = some session) := by
  obtain ⟨x', hrun, -⟩ := run_deserted
  exact ⟨x', requestConnection_error_iff hrun⟩

end Tcp

end Jrok
