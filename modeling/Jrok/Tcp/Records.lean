import Jrok.Concurrency.Log
import Jrok.Tcp.Requests
import Jrok.Tcp.Sessions
import Jrok.World

/-!
# The records of sessions

What every operation of a server does to one entry of the sessions map, and the invariant of the
entries under the calls of the facilitator: what a session is created with stays, and its other
fields fit together.
-/

namespace Jrok

open Concurrency

/-! ## One entry of the sessions map -/

/-- What a critical section does to the entry of a session. -/
def NodeOp.onSession (k : String) (o : NodeOp) (entry : Option ConnectionSession) :
    Option ConnectionSession :=
  match o with
  | .sessionsInsert session => if k = session.sessionId then some session else entry
  | .agentListening sessionId endpoint agentNat =>
    if k = sessionId then entry.map (Facilitator.reported endpoint agentNat) else entry
  | .clientConnected sessionId =>
    if k = sessionId then entry.map fun session => { session with status := .connected } else entry
  | .connectionFailed sessionId =>
    if k = sessionId then entry.map fun session => { session with status := .relayed } else entry
  | .cleanupSessions cutoff => entry.filter fun session => cutoff < session.createdAt
  | _ => entry

theorem NodeOp.lookup_onFacilitator (o : NodeOp) (f : Facilitator) (k : String) :
    (o.onFacilitator f).sessions.lookup k = o.onSession k (f.sessions.lookup k) := by
  cases o with
  | sessionsInsert session => exact f.sessions_insertSession session k
  | agentListening sessionId endpoint agentNat =>
    exact f.sessions_agentListening sessionId endpoint agentNat k
  | clientConnected sessionId => exact f.sessions_clientConnected sessionId k
  | connectionFailed sessionId => exact f.sessions_connectionFailed sessionId k
  | cleanupSessions cutoff => exact f.sessions_cleanupSessions cutoff k
  | _ => rfl

/-- What an operation does to the entry of a session on the server `me`. -/
def Op.onSession (me k : String) (o : Op) (entry : Option ConnectionSession) :
    Option ConnectionSession :=
  match o with
  | .node n o => if n = me then o.onSession k entry else entry
  | _ => entry

/-- The entry of a session on a server. -/
def World.session (w : World) (me k : String) : Option ConnectionSession :=
  (w.node me).facilitator.sessions.lookup k

theorem World.handler_session {B : Backend} {faulty : Bool} {c : Choice} {o : Op} {w w' : World}
    {r : o.Res} (h : World.handler B faulty c o w = some (r, w')) (me k : String) :
    w'.session me k = o.onSession me k (w.session me k) := by
  cases o with
  | now =>
    obtain ⟨-, -, -, rfl⟩ := World.exec_now.mp h
    rfl
  | uuid =>
    obtain ⟨-, -, rfl⟩ := World.exec_uuid.mp h
    rfl
  | sql q => rcases World.exec_sql.mp h with ⟨-, -, rfl⟩ | ⟨e, -, -, -, rfl⟩ <;> rfl
  | node n o =>
    obtain ⟨n', hn', rfl⟩ := World.exec_node.mp h
    by_cases hn : n = me
    · subst hn
      simp only [World.session, World.setNode_node_self, Op.onSession, if_true,
        (NodeOp.exec_frame hn').1, NodeOp.lookup_onFacilitator]
    · simp only [World.session, Op.onSession, if_neg hn,
        World.setNode_node_ne _ _ (Ne.symm hn)]

theorem World.openHandler_session {B : Backend} {faulty lookups : Bool} {c : Choice} {o : Op}
    {w w' : World} {r : o.Res} (h : World.openHandler B faulty lookups c o w = some (r, w'))
    (me k : String) : w'.session me k = o.onSession me k (w.session me k) := by
  rcases World.openHandler_cases h with h | ⟨rfl, ⟨n, id, m, rfl⟩ | ⟨n, rfl, -⟩⟩
  · exact World.handler_session h me k
  · simp [Op.onSession, NodeOp.onSession]
  · simp [Op.onSession, NodeOp.onSession]

/-! ## What an entry was inserted as -/

variable {τ : Type}

/-- The session that was last inserted under the key. -/
def inserted (me k : String) : Log serverSig τ → Option ConnectionSession
  | [] => none
  | (_, ⟨.node n (.sessionsInsert session), _⟩) :: older =>
    if n = me ∧ k = session.sessionId then some session else inserted me k older
  | _ :: older => inserted me k older

/-- The NAT of a client that can be connected to directly. -/
def OpenOrCone (nat : NatInfo) : Prop :=
  nat.natType = .openNat ∨ nat.natType = .fullCone ∨ nat.natType = .restrictedCone ∨
    nat.natType = .portRestrictedCone

/-- The entry `session` under `k`, which was inserted as `first`. -/
structure SessionRecord (k : String) (first session : ConnectionSession) : Prop where
  sessionId : session.sessionId = k
  subdomain : session.subdomain = first.subdomain
  clientAddr : session.clientAddr = first.clientAddr
  agentId : session.agentId = first.agentId
  clientNat : session.clientNat = first.clientNat
  createdAt : session.createdAt = first.createdAt
  directConnection : session.directConnection = first.directConnection
  direct : session.directConnection = true ↔ ∃ nat, session.clientNat = some nat ∧ OpenOrCone nat
  endpoint : session.agentNat ≠ none → session.agentEndpoint ≠ none
  reported : session.status = .ready ∨ session.status = .holePunching →
    session.agentEndpoint ≠ none ∧
    (session.status = .holePunching ↔ ∃ client agent, session.clientNat = some client ∧
      session.agentNat = some agent ∧ client.natType ≠ .openNat ∧ agent.natType ≠ .openNat)

theorem canUseDirectConnection_iff (clientNat : Option NatInfo) :
    Facilitator.canUseDirectConnection clientNat = true ↔
      ∃ nat, clientNat = some nat ∧ OpenOrCone nat := by
  cases clientNat with
  | none => simp [Facilitator.canUseDirectConnection]
  | some nat =>
    cases hnat : nat.natType <;>
      simp [Facilitator.canUseDirectConnection, OpenOrCone, hnat]

theorem needsHolePunching_iff (session : ConnectionSession) :
    Facilitator.needsHolePunching session = true ↔ ∃ client agent,
      session.clientNat = some client ∧ session.agentNat = some agent ∧
        client.natType ≠ .openNat ∧ agent.natType ≠ .openNat := by
  rcases hclient : session.clientNat with _ | client <;>
    rcases hagent : session.agentNat with _ | agent
  · simp [Facilitator.needsHolePunching, hclient]
  · simp [Facilitator.needsHolePunching, hclient]
  · simp [Facilitator.needsHolePunching, hclient, hagent]
  · cases hc : client.natType <;> cases ha : agent.natType <;>
      simp [Facilitator.needsHolePunching, hclient, hagent, hc, ha]

namespace SessionRecord

variable {k : String} {first session : ConnectionSession}

theorem new (sessionId : String) (now : Int) (subdomain clientAddr agentId : String) :
    SessionRecord sessionId (Tcp.newSession sessionId now subdomain clientAddr agentId)
      (Tcp.newSession sessionId now subdomain clientAddr agentId) where
  sessionId := rfl
  subdomain := rfl
  clientAddr := rfl
  agentId := rfl
  clientNat := rfl
  createdAt := rfl
  directConnection := rfl
  direct := canUseDirectConnection_iff _
  endpoint h := absurd rfl h
  reported h := by simp [Tcp.newSession] at h

/-- The hole-punching decision is made on the session as reported. -/
theorem report (h : SessionRecord k first session) (endpoint : String)
    (agentNat : Option NatInfo) :
    SessionRecord k first (Facilitator.reported endpoint agentNat session) where
  sessionId := h.sessionId
  subdomain := h.subdomain
  clientAddr := h.clientAddr
  agentId := h.agentId
  clientNat := h.clientNat
  createdAt := h.createdAt
  directConnection := h.directConnection
  direct := h.direct
  endpoint _ := by simp [Facilitator.reported]
  reported _ := by
    refine ⟨by simp [Facilitator.reported], ?_⟩
    have hneeds := needsHolePunching_iff
      { session with agentEndpoint := some endpoint, agentNat := agentNat }
    simp only [Facilitator.reported]
    rw [← hneeds]
    split <;> simp [*]

/-- A final status may be written over any other. -/
theorem settle (h : SessionRecord k first session) {status : ConnectionStatus}
    (hready : status ≠ .ready) (hpunching : status ≠ .holePunching) :
    SessionRecord k first { session with status := status } where
  sessionId := h.sessionId
  subdomain := h.subdomain
  clientAddr := h.clientAddr
  agentId := h.agentId
  clientNat := h.clientNat
  createdAt := h.createdAt
  directConnection := h.directConnection
  direct := h.direct
  endpoint := h.endpoint
  reported hstatus := absurd hstatus (not_or.mpr ⟨hready, hpunching⟩)

end SessionRecord

/-- Where nothing is inserted under the key, an entry was there before, and its record is kept. -/
theorem NodeOp.onSession_record {o : NodeOp} {k : String} {session : ConnectionSession}
    {entry : Option ConnectionSession} (ho : ∀ s, o = .sessionsInsert s → k ≠ s.sessionId)
    (h : o.onSession k entry = some session) :
    ∃ before, entry = some before ∧
      ∀ first, SessionRecord k first before → SessionRecord k first session := by
  have hsame : entry = some session → ∃ before, entry = some before ∧
      ∀ first, SessionRecord k first before → SessionRecord k first session :=
    fun hentry => ⟨session, hentry, fun _ hrecord => hrecord⟩
  cases o with
  | sessionsInsert s => exact hsame ((if_neg (ho s rfl)).symm.trans h)
  | agentListening sessionId endpoint agentNat =>
    by_cases hk : k = sessionId
    · obtain ⟨before, hbefore, rfl⟩ := Option.map_eq_some_iff.mp ((if_pos hk).symm.trans h)
      exact ⟨before, hbefore, fun _ hrecord => hrecord.report endpoint agentNat⟩
    · exact hsame ((if_neg hk).symm.trans h)
  | clientConnected sessionId | connectionFailed sessionId =>
    by_cases hk : k = sessionId
    · obtain ⟨before, hbefore, rfl⟩ := Option.map_eq_some_iff.mp ((if_pos hk).symm.trans h)
      exact ⟨before, hbefore, fun _ hrecord => hrecord.settle nofun nofun⟩
    · exact hsame ((if_neg hk).symm.trans h)
  | cleanupSessions cutoff => exact hsame (Option.filter_eq_some_iff.mp h).1
  | _ => exact hsame h

theorem Op.onSession_record {o : Op} {me k : String} {session : ConnectionSession}
    {entry : Option ConnectionSession}
    (ho : ∀ s, o = .node me (.sessionsInsert s) → k ≠ s.sessionId)
    (h : o.onSession me k entry = some session) :
    ∃ before, entry = some before ∧
      ∀ first, SessionRecord k first before → SessionRecord k first session := by
  cases o with
  | node n o =>
    by_cases hn : n = me
    · subst hn
      rw [Op.onSession, if_pos rfl] at h
      exact NodeOp.onSession_record (fun s hs => ho s (hs ▸ rfl)) h
    · exact ⟨session, (if_neg hn).symm.trans h, fun _ hrecord => hrecord⟩
  | _ => exact ⟨session, h, fun _ hrecord => hrecord⟩

/-! ## Runs of the facilitator's calls -/

section Runs

variable {B : Backend} {faulty lookups : Bool} {me : String}

/-- A session is only inserted as `request_connection` creates it. -/
def NewSessions : Op → Prop
  | .node _ (.sessionsInsert session) => ∃ sessionId now subdomain clientAddr agentId,
      session = Tcp.newSession sessionId now subdomain clientAddr agentId
  | _ => True

theorem FacilitatorCall.run_issues (call : Tcp.FacilitatorCall) :
    (call.run me).Issues NewSessions := by
  cases call with
  | requestConnection subdomain clientAddr =>
    refine ((Tcp.requestConnection_issues subdomain clientAddr).mono fun o ho => ?_).bind
      fun _ => trivial
    cases ho with
    | insert sessionId now agentId => exact ⟨_, _, _, _, _, rfl⟩
    | _ => trivial
  | cleanupSessions timeoutMs => exact ⟨trivial, fun _ => ⟨trivial, fun _ => trivial⟩⟩
  | _ => exact ⟨trivial, fun _ => trivial⟩

/-- The entries of the sessions map are the records of what was inserted. -/
def Recorded (me : String) (w : World) (log : Log serverSig τ) : Prop :=
  ∀ k session, w.session me k = some session →
    ∃ first, inserted me k log = some first ∧ SessionRecord k first session

/-- Nothing is inserted under the key by this event. -/
theorem inserted_cons {t : τ} {o : Op} {r : o.Res} {k : String} {log : Log serverSig τ}
    (ho : ∀ session, o = .node me (.sessionsInsert session) → k ≠ session.sessionId) :
    inserted me k ((t, ⟨o, r⟩) :: log) = inserted me k log := by
  cases o with
  | node n o =>
    cases o with
    | sessionsInsert session =>
      apply if_neg
      rintro ⟨rfl, hk⟩
      exact ho session rfl hk
    | _ => rfl
  | _ => rfl

/-- One operation keeps the records. -/
theorem Recorded.step {t : τ} {c : Choice} {o : Op} {r : o.Res} {w w' : World}
    {log : Log serverSig τ} (h : Recorded me w log) (hnew : NewSessions o)
    (hop : World.openHandler B faulty lookups c o w = some (r, w')) :
    Recorded me w' ((t, ⟨o, r⟩) :: log) := by
  intro k session hsession
  rw [World.openHandler_session hop me k] at hsession
  by_cases hinsert : ∃ s, o = .node me (.sessionsInsert s) ∧ k = s.sessionId
  · obtain ⟨s, rfl, rfl⟩ := hinsert
    obtain rfl : s = session := by
      simpa [Op.onSession, NodeOp.onSession] using hsession
    obtain ⟨sessionId, now, subdomain, clientAddr, agentId, rfl⟩ := hnew
    exact ⟨_, if_pos ⟨rfl, rfl⟩, .new sessionId now subdomain clientAddr agentId⟩
  · have hother : ∀ s, o = .node me (.sessionsInsert s) → k ≠ s.sessionId := by
      intro s ho hk
      exact hinsert ⟨s, ho, hk⟩
    rw [inserted_cons hother]
    obtain ⟨before, hbefore, hkept⟩ := Op.onSession_record hother hsession
    obtain ⟨first, hfirst, hrecord⟩ := h k before hbefore
    exact ⟨first, hfirst, hkept first hrecord⟩

/-- Calls of the facilitator of `me`, each once, in any number and order. -/
def facilitatorCalls (B : Backend) (faulty : Bool) (me : String)
    (calls : Nat → Tcp.FacilitatorCall) :
    System serverSig Nat (Option Unit) Unit World Choice :=
  .oneShot (fun _ => World.openHandler B faulty true) fun n => (calls n).run me

/-- In every state that calls of the facilitator reach from an empty one, whatever the registry
    answers and however the sends end, the entries are the records of what was inserted. -/
theorem session_records {calls : Nat → Tcp.FacilitatorCall}
    {c₀ c : Config serverSig Nat (Option Unit) (World × Log serverSig Nat)}
    (hnew : (c₀.shared.1.node me).facilitator = .new) (hidle : ∀ n, c₀.task n = .idle none)
    (hlog : c₀.shared.2 = [])
    (hr : (facilitatorCalls B faulty me calls).logged.Reachable c₀ c) :
    Recorded me c.shared.1 c.shared.2 := by
  refine System.Reachable.logged_invariant hr hidle hlog (Recorded me) ?_ ?_
  · intro k session hsession
    simp [World.session, hnew, Facilitator.new] at hsession
  · intro w log n c o r w' _ hfollows hrecorded hop
    obtain ⟨p, hp⟩ := hfollows n
    have hissued := (hp.issues (FacilitatorCall.run_issues (calls n))).1 ⟨o, r⟩
      (Log.mem_own.mpr (List.mem_cons_self ..))
    exact hrecorded.step hissued hop

end Runs

/-- A server that has just started, without calls so far. -/
def noCalls : Config serverSig Nat (Option Unit) (World × Log serverSig Nat) :=
  ⟨(.boot, []), fun _ => .idle none⟩

/-- A client asks for a connection, and the agent reports from behind a symmetric NAT. -/
def punchCalls : Nat → Tcp.FacilitatorCall
  | 0 => .requestConnection "app" "10.0.0.7:4000"
  | _ => .agentListening "session" "198.51.100.7:9000"
      (some ⟨"10.1.1.1:22", "198.51.100.7", 9000, .symmetric, false⟩)

def punchMoves : List (Move Nat Unit Choice) :=
  let agent : AgentState := ⟨0, "app", 22, "localhost", .tcp, 0⟩
  [.start 0 (), .act 0 (.fresh "session"), .act 0 (.read 1000), .act 0 (.order [⟨"agent", agent⟩]),
    .act 0 .go, .start 1 (), .act 1 .go, .act 0 (.io true), .finish 0]

theorem session_records_punch :
    ∃ c, (facilitatorCalls .migrated false "s" punchCalls).logged.Reachable noCalls c ∧
      (c.shared.1.session "s" "session").map (·.status) = some .holePunching ∧
      Recorded "s" c.shared.1 c.shared.2 := by
  have hrun : ((facilitatorCalls .migrated false "s" punchCalls).logged.replay punchMoves
      noCalls).map (fun c => (c.shared.1.session "s" "session").map (·.status)) =
        some (some .holePunching) := by decide +kernel
  obtain ⟨c, hc, hstatus⟩ := Option.map_eq_some_iff.mp hrun
  exact ⟨c, ⟨_, hc⟩, hstatus, session_records rfl (fun _ => rfl) rfl ⟨_, hc⟩⟩

end Jrok
