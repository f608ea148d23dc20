import Jrok.Tcp.Facilitator

/-!
# Sessions under the calls of their parties

What each operation of the facilitator does to the sessions map, read off by lookups; and when the
status of a session moves forward under `agent_listening`, `client_connected` and
`connection_failed`, which its parties call in any order.
-/

namespace Jrok

namespace Facilitator

/-! ## The sessions map after each operation -/

/-- The session as `agent_listening` leaves it. -/
def reported (agentEndpoint : String) (agentNat : Option NatInfo) (session : ConnectionSession) :
    ConnectionSession :=
  let session := { session with agentEndpoint := some agentEndpoint, agentNat := agentNat }
  { session with status := if needsHolePunching session then .holePunching else .ready }

theorem sessions_agentListening (f : Facilitator) (sessionId endpoint : String)
    (agentNat : Option NatInfo) (k : String) :
    (f.agentListening sessionId endpoint agentNat).2.sessions.lookup k =
      if k = sessionId then (f.sessions.lookup k).map (reported endpoint agentNat)
      else f.sessions.lookup k := by
  cases hs : f.sessions.lookup sessionId with
  | none =>
    by_cases hk : k = sessionId
    · subst hk
      simp [agentListening, hs]
    · simp [agentListening, hs, hk]
  | some session =>
    simp only [agentListening, hs]
    exact AList.lookup_replace_some (g := reported endpoint agentNat) hs

@[simp] theorem markSuccess_sessions (f : Facilitator) (direct : Bool) :
    (f.markSuccess direct).sessions = f.sessions := by
  cases direct <;> rfl

theorem sessions_clientConnected (f : Facilitator) (sessionId k : String) :
    (f.clientConnected sessionId).2.sessions.lookup k =
      if k = sessionId then
        (f.sessions.lookup k).map fun session => { session with status := .connected }
      else f.sessions.lookup k := by
  cases hs : f.sessions.lookup sessionId with
  | none =>
    by_cases hk : k = sessionId
    · subst hk
      simp [clientConnected, hs]
    · simp [clientConnected, hs, hk]
  | some session =>
    simp only [clientConnected, hs, markSuccess_sessions]
    exact AList.lookup_replace_some (g := fun s => { s with status := .connected }) hs

theorem sessions_connectionFailed (f : Facilitator) (sessionId k : String) :
    (f.connectionFailed sessionId).2.sessions.lookup k =
      if k = sessionId then
        (f.sessions.lookup k).map fun session => { session with status := .relayed }
      else f.sessions.lookup k := by
  cases hs : f.sessions.lookup sessionId with
  | none =>
    by_cases hk : k = sessionId
    · subst hk
      simp [connectionFailed, hs]
    · simp [connectionFailed, hs, hk]
  | some session =>
    simp only [connectionFailed, hs]
    exact AList.lookup_replace_some (g := fun s => { s with status := .relayed }) hs

theorem sessions_insertSession (f : Facilitator) (session : ConnectionSession) (k : String) :
    (f.insertSession session).sessions.lookup k =
      if k = session.sessionId then some session else f.sessions.lookup k := by
  by_cases hk : k = session.sessionId
  · subst hk
    simp [insertSession]
  · simp [insertSession, hk]

theorem sessions_cleanupSessions (f : Facilitator) (cutoff : Int) (k : String) :
    (f.cleanupSessions cutoff).sessions.lookup k =
      (f.sessions.lookup k).filter fun session => cutoff < session.createdAt :=
  AList.lookup_retain

end Facilitator

/-! ## Stages -/

/-- `FindingAgent` before `HolePunching` and `Ready`, before `Connected`, `Relayed` and `Failed`. -/
def ConnectionStatus.stage : ConnectionStatus → Nat
  | .pending | .findingAgent | .requesting => 0
  | .holePunching | .ready => 1
  | .connected | .relayed | .failed => 2

/-- `Connected`, `Relayed` or `Failed`. -/
def ConnectionStatus.isFinal (status : ConnectionStatus) : Bool := status.stage = 2

/-- A call that a party of a session makes. -/
inductive SessionCall where
  | agentListening (agentEndpoint : String) (agentNat : Option NatInfo)
  | clientConnected
  | connectionFailed
  deriving DecidableEq

namespace SessionCall

/-- The facilitator after the call. -/
def run (sessionId : String) (f : Facilitator) : SessionCall → Facilitator
  | agentListening agentEndpoint agentNat =>
    (f.agentListening sessionId agentEndpoint agentNat).2
  | clientConnected => (f.clientConnected sessionId).2
  | connectionFailed => (f.connectionFailed sessionId).2

/-- What the call writes to its session. -/
def write (session : ConnectionSession) : SessionCall → ConnectionSession
  | agentListening agentEndpoint agentNat => Facilitator.reported agentEndpoint agentNat session
  | clientConnected => { session with status := .connected }
  | connectionFailed => { session with status := .relayed }

theorem lookup_run (call : SessionCall) (sessionId : String) (f : Facilitator) :
    (call.run sessionId f).sessions.lookup sessionId =
      (f.sessions.lookup sessionId).map fun session => call.write session := by
  cases call with
  | agentListening agentEndpoint agentNat =>
    exact (Facilitator.sessions_agentListening f sessionId _ _ _).trans (if_pos rfl)
  | clientConnected => exact (Facilitator.sessions_clientConnected f sessionId _).trans (if_pos rfl)
  | connectionFailed =>
    exact (Facilitator.sessions_connectionFailed f sessionId _).trans (if_pos rfl)

end SessionCall

/-- A session moves forward: to no earlier stage, from no final status to another, and to
    `Connected` only with an endpoint. -/
structure ConnectionSession.Forward (session session' : ConnectionSession) : Prop where
  stage : session.status.stage ≤ session'.status.stage
  keepsFinal : session.status.isFinal → session'.status = session.status
  endpoint : session'.status = .connected → session.status ≠ .connected →
    session'.agentEndpoint ≠ none

/-- Each of the calls moves its session forward, where there is one. -/
def MovesForward (sessionId : String) : List SessionCall → Facilitator → Prop
  | [], _ => True
  | call :: calls, f =>
    (∀ session session', f.sessions.lookup sessionId = some session →
      (call.run sessionId f).sessions.lookup sessionId = some session' →
      session.Forward session') ∧
    MovesForward sessionId calls (call.run sessionId f)

/-- The calls are reports of the agent, none of which finds a final status, followed by
    nothing, or by `client_connected` alone, with an endpoint known, or by `connection_failed`
    alone. A session that is already connected or relayed takes repetitions of its last call. -/
def InOrder (session : ConnectionSession) (calls : List SessionCall) : Prop :=
  ∃ reports rest, calls = reports ++ rest ∧
    (∀ call ∈ reports, call ≠ .clientConnected ∧ call ≠ .connectionFailed) ∧
    (reports ≠ [] → ¬ session.status.isFinal) ∧
    (rest = [] ∨
      ((∀ call ∈ rest, call = .clientConnected) ∧
        (session.status = .connected ∨
          ¬ session.status.isFinal ∧ (session.agentEndpoint ≠ none ∨ reports ≠ []))) ∨
      ((∀ call ∈ rest, call = .connectionFailed) ∧
        (session.status = .relayed ∨ ¬ session.status.isFinal)))

/-- The call comes where it may. -/
def SessionCall.Allowed (session : ConnectionSession) : SessionCall → Prop
  | .agentListening _ _ => ¬ session.status.isFinal
  | .clientConnected =>
    session.status = .connected ∨ ¬ session.status.isFinal ∧ session.agentEndpoint ≠ none
  | .connectionFailed => session.status = .relayed ∨ ¬ session.status.isFinal

theorem status_reported (endpoint : String) (agentNat : Option NatInfo)
    (session : ConnectionSession) :
    ¬ (Facilitator.reported endpoint agentNat session).status.isFinal ∧
      (Facilitator.reported endpoint agentNat session).status.stage = 1 := by
  simp only [Facilitator.reported]
  split <;> decide

theorem stage_le_two (status : ConnectionStatus) : status.stage ≤ 2 := by
  cases status <;> decide

/-- One call moves its session forward exactly where it may come. -/
theorem forward_write_iff (session : ConnectionSession) (call : SessionCall) :
    session.Forward (call.write session) ↔ call.Allowed session := by
  cases call with
  | agentListening endpoint agentNat =>
    obtain ⟨hnot, hstage⟩ := status_reported endpoint agentNat session
    constructor
    · intro hforward hfinal
      rw [SessionCall.write] at hforward
      rw [hforward.keepsFinal hfinal] at hnot
      exact hnot hfinal
    · intro hallowed
      refine ⟨?_, fun hfinal => absurd hfinal hallowed, fun _ _ => by
        simp [SessionCall.write, Facilitator.reported]⟩
      have hle := stage_le_two session.status
      have hne : session.status.stage ≠ 2 := by
        simpa [SessionCall.Allowed, ConnectionStatus.isFinal] using hallowed
      simp only [SessionCall.write, hstage]
      omega
  | clientConnected =>
    constructor
    · intro hforward
      by_cases hconn : session.status = .connected
      · exact .inl hconn
      · refine .inr ⟨fun hfinal => hconn ?_, hforward.endpoint rfl hconn⟩
        exact (hforward.keepsFinal hfinal).symm
    · rintro (hconn | ⟨hnot, hendpoint⟩)
      · exact ⟨stage_le_two _, fun _ => hconn.symm, fun _ hne => absurd hconn hne⟩
      · exact ⟨stage_le_two _, fun hfinal => absurd hfinal hnot, fun _ _ => hendpoint⟩
  | connectionFailed =>
    constructor
    · intro hforward
      by_cases hfinal : session.status.isFinal
      · exact .inl (hforward.keepsFinal hfinal).symm
      · exact .inr hfinal
    · rintro (hrelayed | hnot)
      · exact ⟨stage_le_two _, fun _ => hrelayed.symm, nofun⟩
      · exact ⟨stage_le_two _, fun hfinal => absurd hfinal hnot, nofun⟩

theorem inOrder_nil (session : ConnectionSession) : InOrder session [] :=
  ⟨[], [], rfl, by simp, by simp, .inl rfl⟩

/-- A call that is not among the reports begins the rest. -/
theorem begins_rest {call : SessionCall} {calls reports rest : List SessionCall}
    (heq : call :: calls = reports ++ rest) (hreports : ∀ c ∈ reports, c ≠ call) :
    reports = [] ∧ rest = call :: calls := by
  cases reports with
  | nil => exact ⟨rfl, heq.symm⟩
  | cons report reports =>
    obtain ⟨rfl, -⟩ := List.cons.inj heq
    exact absurd rfl (hreports _ (List.mem_cons_self ..))

theorem inOrder_agentListening {session : ConnectionSession} {endpoint : String}
    {agentNat : Option NatInfo} {calls : List SessionCall} :
    InOrder session (.agentListening endpoint agentNat :: calls) ↔
      ¬ session.status.isFinal ∧
        InOrder (Facilitator.reported endpoint agentNat session) calls := by
  obtain ⟨hnot, -⟩ := status_reported endpoint agentNat session
  have hsome : (Facilitator.reported endpoint agentNat session).agentEndpoint ≠ none := by
    simp [Facilitator.reported]
  constructor
  · rintro ⟨reports, rest, heq, hreports, hopen, hrest⟩
    cases reports with
    | nil =>
      obtain rfl : _ = rest := heq
      rcases hrest with hnil | ⟨hall, -⟩ | ⟨hall, -⟩
      · cases hnil
      · cases hall _ (List.mem_cons_self ..)
      · cases hall _ (List.mem_cons_self ..)
    | cons report reports =>
      obtain ⟨rfl, rfl⟩ := List.cons.inj heq
      refine ⟨hopen (by simp), reports, rest, rfl,
        fun c hc => hreports c (List.mem_cons_of_mem _ hc), fun _ => hnot, ?_⟩
      exact hrest.imp_right fun h => h.imp (fun h => ⟨h.1, .inr ⟨hnot, .inl hsome⟩⟩)
        fun h => ⟨h.1, .inr hnot⟩
  · rintro ⟨hallowed, reports, rest, rfl, hreports, -, hrest⟩
    refine ⟨.agentListening endpoint agentNat :: reports, rest, rfl, ?_, fun _ => hallowed, ?_⟩
    · simpa using hreports
    · exact hrest.imp_right fun h => h.imp (fun h => ⟨h.1, .inr ⟨hallowed, .inr (by simp)⟩⟩)
        fun h => ⟨h.1, .inr hallowed⟩

theorem inOrder_clientConnected {session : ConnectionSession} {calls : List SessionCall} :
    InOrder session (.clientConnected :: calls) ↔
      (session.status = .connected ∨ ¬ session.status.isFinal ∧ session.agentEndpoint ≠ none) ∧
        InOrder { session with status := .connected } calls := by
  constructor
  · rintro ⟨reports, rest, heq, hreports, -, hrest⟩
    obtain ⟨rfl, rfl⟩ := begins_rest heq fun c hc => (hreports c hc).1
    rcases hrest with hnil | ⟨hall, hstate⟩ | ⟨hall, -⟩
    · cases hnil
    · refine ⟨hstate.imp_right fun h => ⟨h.1, h.2.resolve_right (by simp)⟩, [], calls, rfl,
        by simp, by simp, .inr (.inl ⟨fun c hc => ?_, .inl rfl⟩)⟩
      exact hall c (List.mem_cons_of_mem _ hc)
    · cases hall _ (List.mem_cons_self ..)
  · rintro ⟨hallowed, reports, rest, rfl, hreports, hopen, hrest⟩
    obtain rfl : reports = [] := by
      by_contra hne
      exact hopen hne rfl
    refine ⟨[], .clientConnected :: rest, rfl, by simp, by simp, .inr (.inl ⟨?_, ?_⟩)⟩
    · rcases hrest with rfl | ⟨hall, -⟩ | ⟨-, hrelayed | hnot⟩
      · simp
      · simpa using hall
      · cases hrelayed
      · exact absurd rfl hnot
    · exact hallowed.imp_right fun h => ⟨h.1, .inl h.2⟩

theorem inOrder_connectionFailed {session : ConnectionSession} {calls : List SessionCall} :
    InOrder session (.connectionFailed :: calls) ↔
      (session.status = .relayed ∨ ¬ session.status.isFinal) ∧
        InOrder { session with status := .relayed } calls := by
  constructor
  · rintro ⟨reports, rest, heq, hreports, -, hrest⟩
    obtain ⟨rfl, rfl⟩ := begins_rest heq fun c hc => (hreports c hc).2
    rcases hrest with hnil | ⟨hall, -⟩ | ⟨hall, hstate⟩
    · cases hnil
    · cases hall _ (List.mem_cons_self ..)
    · refine ⟨hstate, [], calls, rfl, by simp, by simp, .inr (.inr ⟨fun c hc => ?_, .inl rfl⟩)⟩
      exact hall c (List.mem_cons_of_mem _ hc)
  · rintro ⟨hallowed, reports, rest, rfl, hreports, hopen, hrest⟩
    obtain rfl : reports = [] := by
      by_contra hne
      exact hopen hne rfl
    refine ⟨[], .connectionFailed :: rest, rfl, by simp, by simp, .inr (.inr ⟨?_, hallowed⟩)⟩
    rcases hrest with rfl | ⟨-, hconn | hnot⟩ | ⟨hall, -⟩
    · simp
    · cases hconn
    · exact absurd rfl hnot.1
    · simpa using hall

/-- The first call comes where it may, and the others are in order after it. -/
theorem inOrder_cons {session : ConnectionSession} {call : SessionCall}
    {calls : List SessionCall} :
    InOrder session (call :: calls) ↔
      call.Allowed session ∧ InOrder (call.write session) calls := by
  cases call with
  | agentListening endpoint agentNat => exact inOrder_agentListening
  | clientConnected => exact inOrder_clientConnected
  | connectionFailed => exact inOrder_connectionFailed

/-- A session moves forward under a sequence of calls exactly when they come in order. -/
theorem moves_forward_iff (f : Facilitator) (sessionId : String) (calls : List SessionCall) :
    MovesForward sessionId calls f ↔
      ∀ session, f.sessions.lookup sessionId = some session → InOrder session calls := by
  induction calls generalizing f with
  | nil => exact iff_of_true trivial fun session _ => inOrder_nil session
  | cons call calls ih =>
    have hrun := call.lookup_run sessionId f
    rw [MovesForward, ih]
    cases hs : f.sessions.lookup sessionId with
    | none =>
      rw [hs] at hrun
      simp [hrun]
    | some session =>
      rw [hs] at hrun
      simp [hrun, inOrder_cons, forward_write_iff]

/-- A session for a client with a public address, as `request_connection` inserts it. -/
def sampleSession : ConnectionSession where
  sessionId := "session"
  subdomain := "app"
  clientAddr := "203.0.113.5:4000"
  agentId := "agent"
  agentEndpoint := none
  status := .findingAgent
  createdAt := 0
  clientNat := Facilitator.detectClientNat "203.0.113.5:4000"
  agentNat := none
  directConnection := true

/-- A report that comes late takes a relayed session back to `Ready`, and a session is connected
    before any report. -/
theorem late_report_goes_back :
    ¬ MovesForward "session" [.connectionFailed, .agentListening "198.51.100.7:9000" none]
        (Facilitator.new.insertSession sampleSession) ∧
      ¬ MovesForward "session" [.clientConnected]
        (Facilitator.new.insertSession sampleSession) := by
  constructor
  · rintro ⟨-, hreport, -⟩
    have hforward := hreport { sampleSession with status := .relayed } _ (by rfl) (by rfl)
    exact absurd hforward.stage (by decide)
  · rintro ⟨hconnected, -⟩
    have hforward := hconnected sampleSession _ (by rfl) (by rfl)
    exact hforward.endpoint rfl (by decide) rfl

end Jrok
