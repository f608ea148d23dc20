import Jrok.Codec.Base64
import Jrok.Http.Response
import Jrok.Tcp.Calls

/-!
# Relays and sessions

When the relay's connections map stays aligned with the sessions map, which has a lock of its own.
-/

namespace Jrok

open Concurrency

namespace Facilitator

/-- Every relay belongs to a session that is relayed. -/
def Aligned (f : Facilitator) : Prop :=
  ∀ k ∈ f.relays, ∃ session, f.sessions.lookup k = some session ∧ session.status = .relayed

theorem relays_agentListening (f : Facilitator) (sessionId endpoint : String)
    (agentNat : Option NatInfo) :
    (f.agentListening sessionId endpoint agentNat).2.relays = f.relays := by
  unfold agentListening
  cases f.sessions.lookup sessionId <;> rfl

theorem markSuccess_relays (f : Facilitator) (direct : Bool) :
    (f.markSuccess direct).relays = f.relays := by
  cases direct <;> rfl

theorem relays_clientConnected (f : Facilitator) (sessionId : String) :
    (f.clientConnected sessionId).2.relays = f.relays := by
  unfold clientConnected
  cases f.sessions.lookup sessionId with
  | none => rfl
  | some session => exact markSuccess_relays _ session.directConnection

theorem mem_relays_connectionFailed (f : Facilitator) (sessionId k : String) :
    k ∈ (f.connectionFailed sessionId).2.relays ↔
      k ∈ f.relays ∨ k = sessionId ∧ (f.sessions.lookup sessionId).isSome := by
  cases hs : f.sessions.lookup sessionId with
  | none => simp [connectionFailed, hs]
  | some session =>
    simp only [connectionFailed, hs, AList.mem_insert, Option.isSome_some, and_true]
    exact or_comm

/-- Writing another status to a session keeps the maps aligned only if it has no relay. -/
theorem aligned_write_iff {f f' : Facilitator} (h : f.Aligned) {sessionId : String}
    {write : ConnectionSession → ConnectionSession} (hrelays : f'.relays = f.relays)
    (hsessions : ∀ k, f'.sessions.lookup k =
      if k = sessionId then (f.sessions.lookup k).map write else f.sessions.lookup k)
    (hwrite : ∀ session, (write session).status ≠ .relayed) :
    f'.Aligned ↔ sessionId ∉ f.relays := by
  constructor
  · intro h' hmem
    obtain ⟨session, hlookup, hstatus⟩ := h' sessionId (hrelays ▸ hmem)
    rw [hsessions, if_pos rfl] at hlookup
    obtain ⟨before, -, rfl⟩ := Option.map_eq_some_iff.mp hlookup
    exact hwrite before hstatus
  · intro hnone k hk
    rw [hrelays] at hk
    have hne : k ≠ sessionId := fun heq => hnone (heq ▸ hk)
    rw [hsessions, if_neg hne]
    exact h k hk

theorem aligned_agentListening_iff {f : Facilitator} (h : f.Aligned) (sessionId endpoint : String)
    (agentNat : Option NatInfo) :
    (f.agentListening sessionId endpoint agentNat).2.Aligned ↔ sessionId ∉ f.relays := by
  apply aligned_write_iff h (relays_agentListening f sessionId endpoint agentNat)
    (sessions_agentListening f sessionId endpoint agentNat)
  intro session hstatus
  apply (status_reported endpoint agentNat session).1
  rw [hstatus]
  rfl

theorem aligned_clientConnected_iff {f : Facilitator} (h : f.Aligned) (sessionId : String) :
    (f.clientConnected sessionId).2.Aligned ↔ sessionId ∉ f.relays := by
  apply aligned_write_iff h (relays_clientConnected f sessionId)
    (sessions_clientConnected f sessionId)
  intro session
  simp

theorem Aligned.connectionFailed {f : Facilitator} (h : f.Aligned) (sessionId : String) :
    (f.connectionFailed sessionId).2.Aligned := by
  intro k hk
  rw [sessions_connectionFailed]
  by_cases heq : k = sessionId
  · subst heq
    rw [if_pos rfl]
    have hsome : (f.sessions.lookup k).isSome := by
      obtain hk | ⟨-, hsome⟩ := (mem_relays_connectionFailed f k k).mp hk
      · obtain ⟨session, hlookup, -⟩ := h k hk
        rw [hlookup]
        rfl
      · exact hsome
    obtain ⟨session, hlookup⟩ := Option.isSome_iff_exists.mp hsome
    rw [hlookup]
    exact ⟨_, rfl, rfl⟩
  · rw [if_neg heq]
    obtain hk | ⟨hk, -⟩ := (mem_relays_connectionFailed f sessionId k).mp hk
    · exact h k hk
    · exact (heq hk).elim

/-- A new session keeps the maps aligned if its id has no relay. -/
theorem Aligned.insertSession {f : Facilitator} (h : f.Aligned) {session : ConnectionSession}
    (hfresh : session.sessionId ∉ f.relays) : (f.insertSession session).Aligned := by
  intro k hk
  have hne : k ≠ session.sessionId := fun heq => hfresh (heq ▸ hk)
  rw [sessions_insertSession, if_neg hne]
  exact h k hk

/-- A cleanup keeps the maps aligned exactly if it leaves the sessions that have a relay. -/
theorem aligned_cleanupSessions_iff {f : Facilitator} (h : f.Aligned) (cutoff : Int) :
    (f.cleanupSessions cutoff).Aligned ↔ ∀ k ∈ f.relays, ∀ session,
      f.sessions.lookup k = some session → cutoff < session.createdAt := by
  constructor
  · intro h' k hk session hlookup
    obtain ⟨session', hlookup', -⟩ := h' k hk
    rw [sessions_cleanupSessions, hlookup, Option.filter_eq_some_iff] at hlookup'
    obtain ⟨hsame, hkept⟩ := hlookup'
    obtain rfl := Option.some.inj hsame
    exact of_decide_eq_true hkept
  · intro hkept k hk
    obtain ⟨session, hlookup, hstatus⟩ := h k hk
    refine ⟨session, ?_, hstatus⟩
    rw [sessions_cleanupSessions, hlookup, Option.filter_eq_some_iff]
    exact ⟨rfl, decide_eq_true (hkept k hk session hlookup)⟩

end Facilitator

namespace Tcp

/-- The bytes of a `RelayDataRequest`: what its text encodes in Base64, or else the text itself. -/
def relayBytes (data : String) : List UInt8 :=
  (Base64.decode data).getD data.toUTF8.toList

/-- The handler of `POST /relay/:session_id/agent`. -/
def relayToAgent (f : Facilitator) (sessionId data : String) : Response :=
  match f.relay.relayToAgent sessionId (relayBytes data) with
  | .ok () => .text 200 "Data relayed"
  | .error e => .text 500 ("Relay error: " ++ e.text)

/-- No report changes the status of a session that has a relay, and no cleanup removes one. -/
def KeepsRelays (me : String) (m : Made FacilitatorCall Choice World Returned) : Prop :=
  match m.call with
  | .agentListening sessionId _ _ | .clientConnected sessionId =>
    sessionId ∉ (m.before.node me).facilitator.relays
  | .cleanupSessions timeoutMs => ∀ now, m.choices.head? = some (.read now) →
    ∀ k ∈ (m.before.node me).facilitator.relays, ∀ session,
      (m.before.node me).facilitator.sessions.lookup k = some session →
        subI64 now timeoutMs < session.createdAt
  | .requestConnection _ _ | .connectionFailed _ => True

/-- The relays of the facilitator have ids that have been handed out. -/
def RelaysIssued (f : Facilitator) (issued : List String) : Prop :=
  ∀ k, k ∈ f.relays ∨ (f.sessions.lookup k).isSome → k ∈ issued

theorem Effect.relaysIssued {f f' : Facilitator} {issued issued' : List String}
    {call : FacilitatorCall} {cs : List Choice} {b : Returned}
    (h : Effect f issued call cs b f' issued') (hissued : RelaysIssued f issued) :
    RelaysIssued f' issued' := by
  intro k hk
  cases h with
  | refused hfresh => exact List.mem_cons_of_mem _ (hissued k hk)
  | inserted hfresh =>
    rename_i subdomain clientAddr sessionId agentId now r
    rw [Facilitator.sessions_insertSession] at hk
    by_cases heq : k = sessionId
    · rw [heq]
      exact List.mem_cons_self
    · apply List.mem_cons_of_mem
      apply hissued k
      simpa [newSession, heq, Facilitator.insertSession] using hk
  | agentListening =>
    rename_i sessionId endpoint agentNat
    rw [Facilitator.relays_agentListening, Facilitator.sessions_agentListening] at hk
    apply hissued k
    by_cases heq : k = sessionId
    · simpa [heq] using hk
    · simpa [heq] using hk
  | clientConnected =>
    rename_i sessionId
    rw [Facilitator.relays_clientConnected, Facilitator.sessions_clientConnected] at hk
    apply hissued k
    by_cases heq : k = sessionId
    · simpa [heq] using hk
    · simpa [heq] using hk
  | connectionFailed =>
    rename_i sessionId
    rw [Facilitator.mem_relays_connectionFailed, Facilitator.sessions_connectionFailed] at hk
    apply hissued k
    by_cases heq : k = sessionId
    · subst heq
      simpa [or_assoc] using hk
    · simpa [heq] using hk
  | cleanupSessions =>
    rename_i timeoutMs now cs
    rw [Facilitator.sessions_cleanupSessions] at hk
    apply hissued k
    obtain hk | hk := hk
    · exact .inl hk
    · exact .inr (Option.isSome_of_isSome_filter _ _ hk)

/-- A call keeps the maps aligned exactly if it keeps the relays. -/
theorem Effect.aligned_iff {f f' : Facilitator} {issued issued' : List String}
    {call : FacilitatorCall} {cs : List Choice} {b : Returned}
    (h : Effect f issued call cs b f' issued') (hissued : RelaysIssued f issued) (hf : f.Aligned)
    {me : String} {before : World} (hbefore : (before.node me).facilitator = f) :
    f'.Aligned ↔ KeepsRelays me ⟨call, cs, before, b⟩ := by
  subst hbefore
  cases h with
  | refused hfresh => exact iff_of_true hf trivial
  | inserted hfresh =>
    apply iff_of_true _ trivial
    apply hf.insertSession
    intro hmem
    exact hfresh (hissued _ (.inl hmem))
  | agentListening => exact Facilitator.aligned_agentListening_iff hf _ _ _
  | clientConnected => exact Facilitator.aligned_clientConnected_iff hf _
  | connectionFailed => exact iff_of_true (hf.connectionFailed _) trivial
  | cleanupSessions =>
    rename_i timeoutMs now cs
    apply (Facilitator.aligned_cleanupSessions_iff hf _).trans
    constructor
    · intro hkept read hread
      obtain rfl : now = read := by simpa using hread
      exact hkept
    · intro hkept
      exact hkept now rfl

variable {me : String} {B : Backend} {faulty lookups : Bool} {w₀ w : World}
  {history : List (Made FacilitatorCall Choice World Returned)}

theorem relaysIssued (hnew : (w₀.node me).facilitator = .new)
    (hrun : Calls (World.openHandler B faulty lookups) (FacilitatorCall.returned me) w₀ history w) :
    RelaysIssued (w.node me).facilitator w.issued := by
  refine hrun.invariant (fun _ w => RelaysIssued (w.node me).facilitator w.issued) ?_ ?_
  · rw [hnew]
    intro k hk
    simp [Facilitator.new] at hk
  · intro _ _ _ _ _ _ hissued hplay
    exact (FacilitatorCall.returned_effect hplay).relaysIssued hissued

/-- The maps are aligned in every state exactly if every call keeps the relays; and the relay takes
    data for any session, so that it takes data for its own only if the session has a relay. -/
theorem relays_aligned_iff (hnew : (w₀.node me).facilitator = .new)
    (hrun : Calls (World.openHandler B faulty lookups) (FacilitatorCall.returned me) w₀ history w)
    (sessionId : String) (data : List UInt8) :
    (((w.node me).facilitator.Aligned ∧
        ∀ m ∈ history, (m.before.node me).facilitator.Aligned) ∧
      ((w.node me).facilitator.relay.relayToAgent sessionId data = .ok () →
        sessionId ∈ (w.node me).facilitator.relays)) ↔
    (∀ m ∈ history, KeepsRelays me m) ∧ sessionId ∈ (w.node me).facilitator.relays := by
  apply and_congr
  · apply hrun.always_iff (fun w => (w.node me).facilitator.Aligned) (KeepsRelays me)
    · rw [hnew]
      intro k hk
      exact absurd hk (AList.notMem_empty k)
    · intro earlier s₁ c cs b s₂ hcalls haligned hplay
      exact (FacilitatorCall.returned_effect hplay).aligned_iff (relaysIssued hnew hcalls) haligned rfl
  · exact imp_iff_right rfl

/-- A relay is left behind by the cleanup of its session, and data is taken for a session that has
    never been there. -/
theorem relays_left_behind : ∃ history w,
    Calls (World.openHandler .migrated false true) (FacilitatorCall.returned "s") .boot history w ∧
    history.map (·.call) = [.cleanupSessions 300000, .connectionFailed "session",
      .requestConnection "app" "203.0.113.7:4000"] ∧
    "session" ∈ (w.node "s").facilitator.relays ∧
    (w.node "s").facilitator.sessions.lookup "session" = none ∧
    "nobody" ∉ (w.node "s").facilitator.relays ∧
    relayToAgent (w.node "s").facilitator "nobody" "aGVsbG8=" = .text 200 "Data relayed" := by
  have hrun : (runCalls (World.openHandler .migrated false true) (FacilitatorCall.returned "s")
      [(.requestConnection "app" "203.0.113.7:4000", reached "session"),
        (.connectionFailed "session", [.go]), (.cleanupSessions 300000, [.read 400000, .go])]
      [] .boot).map (fun r =>
        (r.1.map (·.call), decide ("session" ∈ (r.2.node "s").facilitator.relays),
          (r.2.node "s").facilitator.sessions.lookup "session",
          decide ("nobody" ∈ (r.2.node "s").facilitator.relays))) =
      some ([.cleanupSessions 300000, .connectionFailed "session",
        .requestConnection "app" "203.0.113.7:4000"], true, none, false) := by decide +kernel
  obtain ⟨⟨history, w⟩, hcalls, hresult⟩ := Option.map_eq_some_iff.mp hrun
  simp only [Prod.mk.injEq, decide_eq_true_eq, decide_eq_false_iff_not] at hresult
  obtain ⟨hhistory, hrelay, hsession, hnobody⟩ := hresult
  exact ⟨history, w, Calls.nil.run hcalls, hhistory, hrelay, hsession, hnobody, rfl⟩

/-- A session that is relayed and then cleaned up by nobody. -/
theorem relays_aligned_relayed : ∃ history w,
    Calls (World.openHandler .migrated false true) (FacilitatorCall.returned "s") .boot history w ∧
    "session" ∈ (w.node "s").facilitator.relays ∧ (w.node "s").facilitator.Aligned := by
  have hrun : (runCalls (World.openHandler .migrated false true) (FacilitatorCall.returned "s")
      [(.requestConnection "app" "203.0.113.7:4000", reached "session"),
        (.connectionFailed "session", [.go])] [] .boot).map (fun r =>
        (r.1.map (·.call), decide ("session" ∈ (r.2.node "s").facilitator.relays))) =
      some ([.connectionFailed "session", .requestConnection "app" "203.0.113.7:4000"], true) := by
    decide +kernel
  obtain ⟨⟨history, w⟩, hcalls, hresult⟩ := Option.map_eq_some_iff.mp hrun
  simp only [Prod.mk.injEq, decide_eq_true_eq] at hresult
  obtain ⟨hhistory, hrelay⟩ := hresult
  have hkeeps : ∀ m ∈ history, KeepsRelays "s" m := by
    intro m hm
    have hcall : m.call ∈ history.map (·.call) := List.mem_map_of_mem hm
    rw [hhistory] at hcall
    unfold KeepsRelays
    obtain hcall | hcall : m.call = .connectionFailed "session" ∨
        m.call = .requestConnection "app" "203.0.113.7:4000" := by simpa using hcall
    · rw [hcall]
      trivial
    · rw [hcall]
      trivial
  have haligned := (relays_aligned_iff rfl (Calls.nil.run hcalls) "session" [104, 105]).mpr
    ⟨hkeeps, hrelay⟩
  exact ⟨history, w, Calls.nil.run hcalls, hrelay, haligned.1.1⟩

end Tcp

end Jrok
