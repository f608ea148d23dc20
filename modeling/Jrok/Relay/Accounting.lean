import Jrok.Relay.Calls
import Mathlib.Data.Set.Card

/-!
# The accounts of the relay server

Which connections a `RelayServer` has, and what has been relayed over each, in terms of the calls
that were made and their answers.
-/

namespace Jrok.Relay

open Refinement

namespace RelayModule

/-- The session that the call relays data for. -/
def Call.relaysFor : Call → Option String
  | .relayToAgent sessionId _ => some sessionId
  | .relayToClient sessionId _ => some sessionId
  | _ => none

/-- The length of the data that the call is to relay. -/
def Call.bytes : Call → Nat
  | .relayToAgent _ data => data.length
  | .relayToClient _ data => data.length
  | _ => 0

/-- The session whose connection the call is about. -/
def Call.connection : Call → Option String
  | .createRelay _ sessionId _ _ => some sessionId
  | .closeRelay _ sessionId => some sessionId
  | c => c.relaysFor

/-- The call ends the connection of the session that was created at this time. -/
def Call.Ends (sessionId : String) (createdAt : Int) : Call → Prop
  | .createRelay _ sessionId' _ _ => sessionId' = sessionId
  | .closeRelay _ sessionId' => sessionId' = sessionId
  | .cleanupOld now maxAgeMs => createdAt ≤ subI64 now maxAgeMs
  | _ => False

def Answer.isOk : Answer → Bool
  | .relayed (.ok _) => true
  | _ => false

/-- The calls with their answers. -/
def history (calls : List Call) : List (Call × Answer) := calls.zip (answers step calls .new)

/-- The latest `create_relay` of the session was at this time, and nothing of what has happened
    since then has ended its connection. -/
def LiveSince (events : List (Call × Answer)) (sessionId : String) (createdAt : Int)
    (since : List (Call × Answer)) : Prop :=
  ∃ earlier clientAddr agentId answer,
    events = earlier ++ (.createRelay createdAt sessionId clientAddr agentId, answer) :: since ∧
    ∀ e ∈ since, ¬ e.1.Ends sessionId createdAt

def Live (events : List (Call × Answer)) (sessionId : String) : Prop :=
  ∃ createdAt since, LiveSince events sessionId createdAt since

/-- The length of the data that was relayed for the session. -/
def relayedBytes (sessionId : String) (events : List (Call × Answer)) : Nat :=
  (events.map fun e => if e.1.relaysFor = some sessionId ∧ e.2.isOk then e.1.bytes else 0).sum

/-- The length of all data that was to be relayed. -/
def totalBytes (calls : List Call) : Nat := (calls.map Call.bytes).sum

/-! ## The connection of a session -/

/-- What a call does to the connection of a session. -/
def Call.onConnection (sessionId : String) (c : Call) (conn : Option RelayConnection) :
    Option RelayConnection :=
  match c with
  | .createRelay now sessionId' clientAddr agentId =>
    if sessionId = sessionId' then some ⟨sessionId', clientAddr, agentId, none, none, 0, now⟩
    else conn
  | .relayToAgent sessionId' data | .relayToClient sessionId' data =>
    if sessionId = sessionId' then
      conn.map fun conn => { conn with bytesRelayed := conn.bytesRelayed + .ofNat data.length }
    else conn
  | .closeRelay _ sessionId' => if sessionId = sessionId' then none else conn
  | .cleanupOld now maxAgeMs => conn.filter fun conn => subI64 now maxAgeMs < conn.createdAt
  | _ => conn

theorem lookup_relayToAgent (r : RelayServer) (sessionId' : String) (data : List UInt8)
    (sessionId : String) :
    (r.relayToAgent sessionId' data).2.connections.lookup sessionId =
      if sessionId = sessionId' then
        (r.connections.lookup sessionId).map fun conn =>
          { conn with bytesRelayed := conn.bytesRelayed + .ofNat data.length }
      else r.connections.lookup sessionId := by
  unfold RelayServer.relayToAgent
  cases hconn : r.connections.lookup sessionId' with
  | none =>
    by_cases hsession : sessionId = sessionId'
    · rw [if_pos hsession, hsession, hconn]
      rfl
    · rw [if_neg hsession]
  | some conn =>
    let g : RelayConnection → RelayConnection := fun conn =>
      { conn with bytesRelayed := conn.bytesRelayed + .ofNat data.length }
    show (r.connections.replace sessionId' (g conn)).lookup sessionId = _
    exact AList.lookup_replace_some hconn

theorem lookup_step (m : RelayModule) (c : Call) (sessionId : String) :
    (step m c).2.relay.connections.lookup sessionId =
      c.onConnection sessionId (m.relay.connections.lookup sessionId) := by
  cases c with
  | createRelay now sessionId' clientAddr agentId =>
    show (m.relay.connections.insert sessionId' _).lookup sessionId = if _ then _ else _
    by_cases hsession : sessionId = sessionId'
    · rw [if_pos hsession, hsession]
      exact AList.lookup_insert _
    · rw [if_neg hsession]
      exact AList.lookup_insert_ne hsession
  | relayToAgent sessionId' data => exact lookup_relayToAgent m.relay sessionId' data sessionId
  | relayToClient sessionId' data => exact lookup_relayToAgent m.relay sessionId' data sessionId
  | closeRelay now sessionId' =>
    have hrelay : (m.relay.closeRelay m.tracker now sessionId').1.connections =
        m.relay.connections.erase sessionId' := by
      unfold RelayServer.closeRelay
      cases m.relay.connections.lookup sessionId' <;> rfl
    show (m.relay.closeRelay m.tracker now sessionId').1.connections.lookup sessionId =
      if _ then _ else _
    rw [hrelay]
    by_cases hsession : sessionId = sessionId'
    · rw [if_pos hsession, hsession]
      exact AList.lookup_erase _ _
    · rw [if_neg hsession]
      exact AList.lookup_erase_ne hsession
  | cleanupOld now maxAgeMs => exact AList.lookup_retain
  | trackAttempt | markSuccess | markFailed | activeCount => rfl

theorem Call.of_relaysFor {c : Call} {sessionId : String} (h : c.relaysFor = some sessionId) :
    ∃ data, c = .relayToAgent sessionId data ∨ c = .relayToClient sessionId data := by
  cases c with
  | relayToAgent sessionId' data =>
    cases h
    exact ⟨data, Or.inl rfl⟩
  | relayToClient sessionId' data =>
    cases h
    exact ⟨data, Or.inr rfl⟩
  | trackAttempt | markSuccess | markFailed | createRelay | closeRelay | activeCount
  | cleanupOld => cases h

/-- Data is relayed where the session has a connection. -/
theorem isOk_step {m : RelayModule} {c : Call} {sessionId : String}
    (h : c.relaysFor = some sessionId) :
    (step m c).1.isOk = (m.relay.connections.lookup sessionId).isSome := by
  have hrelayed : ∀ data, (Answer.relayed (m.relay.relayToAgent sessionId data).1).isOk =
      (m.relay.connections.lookup sessionId).isSome := by
    intro data
    unfold RelayServer.relayToAgent
    cases m.relay.connections.lookup sessionId <;> rfl
  obtain ⟨data, rfl | rfl⟩ := Call.of_relaysFor h
  · exact hrelayed data
  · exact hrelayed data

section

variable {c : Call} {sessionId : String}

/-! What a call does that is about another connection, and is no clean-up. -/

theorem Call.connection_of_relaysFor (h : c.relaysFor = some sessionId) :
    c.connection = some sessionId := by
  obtain ⟨data, rfl | rfl⟩ := Call.of_relaysFor h
  · rfl
  · rfl

theorem Call.not_ends (h : c.connection ≠ some sessionId)
    (hcleanup : ∀ now maxAgeMs, c ≠ .cleanupOld now maxAgeMs) (createdAt : Int) :
    ¬ c.Ends sessionId createdAt := by
  intro hend
  cases c with
  | createRelay now sessionId' clientAddr agentId => exact h (congrArg some hend)
  | closeRelay now sessionId' => exact h (congrArg some hend)
  | cleanupOld now maxAgeMs => exact hcleanup now maxAgeMs rfl
  | trackAttempt | markSuccess | markFailed | relayToAgent | relayToClient | activeCount =>
    exact hend

theorem Call.onConnection_other (h : c.connection ≠ some sessionId)
    (hcleanup : ∀ now maxAgeMs, c ≠ .cleanupOld now maxAgeMs) (conn : Option RelayConnection) :
    c.onConnection sessionId conn = conn := by
  cases c with
  | createRelay now sessionId' clientAddr agentId =>
    exact if_neg fun hsession => h (congrArg some hsession.symm)
  | relayToAgent sessionId' data | relayToClient sessionId' data =>
    exact if_neg fun hsession => h (congrArg some hsession.symm)
  | closeRelay now sessionId' =>
    exact if_neg fun hsession => h (congrArg some hsession.symm)
  | cleanupOld now maxAgeMs => exact (hcleanup now maxAgeMs rfl).elim
  | trackAttempt | markSuccess | markFailed | activeCount => rfl

end

/-! ## The history of a session -/

section History

variable {events : List (Call × Answer)} {e : Call × Answer} {sessionId : String} {createdAt : Int}
  {since : List (Call × Answer)}

theorem liveSince_snoc_iff : LiveSince (events ++ [e]) sessionId createdAt since ↔
    (since = [] ∧ ∃ clientAddr agentId, e.1 = .createRelay createdAt sessionId clientAddr agentId) ∨
    ∃ since', since = since' ++ [e] ∧ LiveSince events sessionId createdAt since' ∧
      ¬ e.1.Ends sessionId createdAt := by
  constructor
  · rintro ⟨earlier, clientAddr, agentId, answer, hsplit, hlive⟩
    induction since using List.reverseRecOn with
    | nil =>
      obtain ⟨-, he⟩ := List.append_inj' hsplit rfl
      obtain rfl : e = _ := List.singleton_inj.mp he
      exact Or.inl ⟨rfl, clientAddr, agentId, rfl⟩
    | append_singleton since' e' _ =>
      rw [← List.cons_append, ← List.append_assoc] at hsplit
      obtain ⟨hevents, he⟩ := List.append_inj' hsplit rfl
      obtain rfl : e = e' := List.singleton_inj.mp he
      apply Or.inr
      refine ⟨since', rfl, ⟨earlier, clientAddr, agentId, answer, hevents, ?_⟩, ?_⟩
      · intro e' he'
        exact hlive e' (List.mem_append_left _ he')
      · exact hlive e (by simp)
  · rintro (⟨rfl, clientAddr, agentId, hcreate⟩ |
      ⟨since', rfl, ⟨earlier, clientAddr, agentId, answer, rfl, hlive⟩, hend⟩)
    · exact ⟨events, clientAddr, agentId, e.2, by rw [← hcreate], by simp⟩
    · refine ⟨earlier, clientAddr, agentId, answer, by simp, ?_⟩
      intro e' he'
      obtain he' | he' := List.mem_append.mp he'
      · exact hlive e' he'
      · obtain rfl := List.mem_singleton.mp he'
        exact hend

/-- There is one latest `create_relay`. -/
theorem LiveSince.unique {createdAt' : Int} {since' : List (Call × Answer)}
    (h : LiveSince events sessionId createdAt since)
    (h' : LiveSince events sessionId createdAt' since') : createdAt = createdAt' := by
  induction events using List.reverseRecOn generalizing since since' with
  | nil =>
    obtain ⟨earlier, _, _, _, hsplit, -⟩ := h
    simp at hsplit
  | append_singleton events e ih =>
    obtain ⟨-, clientAddr, agentId, he⟩ | ⟨rest, -, hlive, hend⟩ := liveSince_snoc_iff.mp h
    · obtain ⟨-, clientAddr', agentId', he'⟩ | ⟨rest', -, hlive', hend'⟩ :=
        liveSince_snoc_iff.mp h'
      · rw [he] at he'
        cases he'
        rfl
      · rw [he] at hend'
        exact (hend' rfl).elim
    · obtain ⟨-, clientAddr', agentId', he'⟩ | ⟨rest', -, hlive', hend'⟩ :=
        liveSince_snoc_iff.mp h'
      · rw [he'] at hend
        exact (hend rfl).elim
      · exact ih hlive hlive'

theorem relayedBytes_snoc : relayedBytes sessionId (since ++ [e]) =
    relayedBytes sessionId since +
      if e.1.relaysFor = some sessionId ∧ e.2.isOk then e.1.bytes else 0 := by
  simp [relayedBytes]

theorem history_snoc (calls : List Call) (c : Call) :
    history (calls ++ [c]) = history calls ++ [(c, (step (after calls) c).1)] := by
  unfold history
  rw [answers_append, List.zip_append (length_answers step calls .new).symm]
  rfl

end History

/-- The connection of a session is the one of its latest `create_relay`, with what has been relayed
    since then; there is none exactly if that has ended. -/
def Accounts (events : List (Call × Answer)) (sessionId : String) : Option RelayConnection → Prop
  | some conn => ∃ since, LiveSince events sessionId conn.createdAt since ∧
      conn.bytesRelayed = .ofNat (relayedBytes sessionId since)
  | none => ¬ Live events sessionId

namespace Accounts

variable {events : List (Call × Answer)} {e : Call × Answer} {sessionId : String}
  {conn : Option RelayConnection}

/-- A call that has nothing to do with the connection of the session. -/
theorem keep (h : Accounts events sessionId conn)
    (hcreate : ∀ now clientAddr agentId, e.1 ≠ .createRelay now sessionId clientAddr agentId)
    (hend : ∀ conn', conn = some conn' → ¬ e.1.Ends sessionId conn'.createdAt)
    (hrelay : ¬ (e.1.relaysFor = some sessionId ∧ e.2.isOk)) :
    Accounts (events ++ [e]) sessionId conn := by
  cases conn with
  | none =>
    rintro ⟨createdAt, since, hlive⟩
    obtain ⟨-, clientAddr, agentId, he⟩ | ⟨since', -, hlive', -⟩ := liveSince_snoc_iff.mp hlive
    · exact hcreate createdAt clientAddr agentId he
    · exact h ⟨createdAt, since', hlive'⟩
  | some conn =>
    obtain ⟨since, hlive, hbytes⟩ := h
    refine ⟨since ++ [e], liveSince_snoc_iff.mpr (Or.inr ⟨since, rfl, hlive, hend conn rfl⟩), ?_⟩
    rw [relayedBytes_snoc, if_neg hrelay, hbytes]
    rfl

/-- Data that is relayed for the session, or refused because it has no connection. -/
theorem relay (h : Accounts events sessionId conn) (hfor : e.1.relaysFor = some sessionId)
    (hok : e.2.isOk = conn.isSome) :
    Accounts (events ++ [e]) sessionId (conn.map fun conn =>
      { conn with bytesRelayed := conn.bytesRelayed + .ofNat e.1.bytes }) := by
  have hcreate : ∀ now clientAddr agentId,
      e.1 ≠ .createRelay now sessionId clientAddr agentId := by
    intro now clientAddr agentId he
    rw [he] at hfor
    cases hfor
  cases conn with
  | none =>
    apply h.keep hcreate
    · intro conn' hconn
      cases hconn
    · rintro ⟨-, hsome⟩
      rw [hok] at hsome
      cases hsome
  | some conn =>
    obtain ⟨since, hlive, hbytes⟩ := h
    have hend : ¬ e.1.Ends sessionId conn.createdAt := by
      obtain ⟨data, he | he⟩ := Call.of_relaysFor hfor
      · rw [he]
        exact id
      · rw [he]
        exact id
    refine ⟨since ++ [e], liveSince_snoc_iff.mpr (Or.inr ⟨since, rfl, hlive, hend⟩), ?_⟩
    rw [relayedBytes_snoc, if_pos ⟨hfor, hok⟩, UInt64.ofNat_add]
    show conn.bytesRelayed + _ = _
    rw [hbytes]

/-- A call that is about the connection of another session. -/
theorem other (h : Accounts events sessionId conn) (hconnection : e.1.connection ≠ some sessionId)
    (hcleanup : ∀ now maxAgeMs, e.1 ≠ .cleanupOld now maxAgeMs) :
    Accounts (events ++ [e]) sessionId conn := by
  apply h.keep
  · intro now clientAddr agentId he
    rw [he] at hconnection
    exact hconnection rfl
  · intro conn' _ hend
    exact Call.not_ends hconnection hcleanup conn'.createdAt hend
  · rintro ⟨hfor, -⟩
    exact hconnection (Call.connection_of_relaysFor hfor)

/-- A call that ends the connection, whenever it was created. -/
theorem close (hcreate : ∀ now clientAddr agentId,
      e.1 ≠ .createRelay now sessionId clientAddr agentId)
    (hend : ∀ createdAt since, LiveSince events sessionId createdAt since →
      e.1.Ends sessionId createdAt) : Accounts (events ++ [e]) sessionId none := by
  rintro ⟨createdAt, since, hlive⟩
  obtain ⟨-, clientAddr, agentId, he⟩ | ⟨since', -, hlive', hkept⟩ := liveSince_snoc_iff.mp hlive
  · exact hcreate createdAt clientAddr agentId he
  · exact hkept (hend createdAt since' hlive')

theorem cleanup {now maxAgeMs : Int} (h : Accounts events sessionId conn)
    (hcleanup : e.1 = .cleanupOld now maxAgeMs) :
    Accounts (events ++ [e]) sessionId
      (conn.filter fun conn => subI64 now maxAgeMs < conn.createdAt) := by
  have hcreate : ∀ now clientAddr agentId,
      e.1 ≠ .createRelay now sessionId clientAddr agentId := by simp [hcleanup]
  have hrelay : ¬ (e.1.relaysFor = some sessionId ∧ e.2.isOk) := by
    simp [hcleanup, Call.relaysFor]
  have hends : ∀ createdAt, e.1.Ends sessionId createdAt ↔ createdAt ≤ subI64 now maxAgeMs := by
    intro createdAt
    rw [hcleanup]
    rfl
  cases conn with
  | none => exact h.keep hcreate (by simp) hrelay
  | some conn =>
    by_cases hnew : subI64 now maxAgeMs < conn.createdAt
    · rw [Option.filter_some, if_pos (decide_eq_true hnew)]
      apply h.keep hcreate ?_ hrelay
      intro conn' hconn' hend
      cases hconn'
      exact absurd hnew (Int.not_lt.mpr ((hends _).mp hend))
    · rw [Option.filter_some, if_neg (by simpa using hnew)]
      apply close hcreate
      intro createdAt since hlive
      obtain ⟨since', hlive', -⟩ := h
      rw [hlive.unique hlive', hends]
      exact Int.not_lt.mp hnew

theorem step {m : RelayModule} (c : Call)
    (h : Accounts events sessionId (m.relay.connections.lookup sessionId)) :
    Accounts (events ++ [(c, (m.step c).1)]) sessionId
      ((m.step c).2.relay.connections.lookup sessionId) := by
  rw [lookup_step]
  by_cases hcleanup : ∃ now maxAgeMs, c = .cleanupOld now maxAgeMs
  · obtain ⟨now, maxAgeMs, rfl⟩ := hcleanup
    exact h.cleanup rfl
  · have hcleanup' : ∀ now maxAgeMs, c ≠ .cleanupOld now maxAgeMs :=
      fun now maxAgeMs hc => hcleanup ⟨now, maxAgeMs, hc⟩
    by_cases hconnection : c.connection = some sessionId
    · cases c with
      | createRelay now sessionId' clientAddr agentId =>
        cases hconnection
        simp only [Call.onConnection, if_true]
        exact ⟨[], liveSince_snoc_iff.mpr (Or.inl ⟨rfl, clientAddr, agentId, rfl⟩), rfl⟩
      | relayToAgent sessionId' data | relayToClient sessionId' data =>
        cases hconnection
        simp only [Call.onConnection, if_true]
        exact h.relay rfl (isOk_step rfl)
      | closeRelay now sessionId' =>
        cases hconnection
        simp only [Call.onConnection, if_true]
        exact close (by simp) fun _ _ _ => rfl
      | trackAttempt | markSuccess | markFailed | activeCount | cleanupOld => cases hconnection
    · rw [Call.onConnection_other hconnection hcleanup']
      exact h.other hconnection hcleanup'

end Accounts

theorem accounts_after (calls : List Call) (sessionId : String) :
    Accounts (history calls) sessionId ((after calls).relay.connections.lookup sessionId) := by
  induction calls using List.reverseRecOn with
  | nil =>
    rintro ⟨createdAt, since, earlier, _, _, _, hsplit, -⟩
    simp [history, answers] at hsplit
  | append_singleton calls c ih =>
    rw [history_snoc, after_snoc]
    exact ih.step c

theorem live_iff (calls : List Call) (sessionId : String) :
    Live (history calls) sessionId ↔
      ((after calls).relay.connections.lookup sessionId).isSome := by
  have haccounts := accounts_after calls sessionId
  cases hconn : (after calls).relay.connections.lookup sessionId with
  | none =>
    rw [hconn] at haccounts
    exact iff_of_false haccounts (by simp)
  | some conn =>
    rw [hconn] at haccounts
    obtain ⟨since, hlive, -⟩ := haccounts
    exact iff_of_true ⟨conn.createdAt, since, hlive⟩ rfl

/-- There is not more to relay for a session than there is at all. -/
theorem relayedBytes_le {calls : List Call} {sessionId : String} {createdAt : Int}
    {since : List (Call × Answer)} (h : LiveSince (history calls) sessionId createdAt since) :
    relayedBytes sessionId since ≤ totalBytes calls := by
  have hsince : relayedBytes sessionId since ≤ totalBytes (since.map Prod.fst) := by
    clear h
    induction since with
    | nil => exact Nat.le_refl 0
    | cons e since ih =>
      simp only [relayedBytes, totalBytes, List.map_cons, List.sum_cons] at ih ⊢
      split <;> omega
  have hcalls : (history calls).map Prod.fst = calls :=
    List.map_fst_zip (Nat.le_of_eq (length_answers step calls .new).symm)
  obtain ⟨earlier, clientAddr, agentId, answer, hsplit, -⟩ := h
  rw [hsplit, List.map_append, List.map_cons] at hcalls
  have htotal : totalBytes (since.map Prod.fst) ≤ totalBytes calls := by
    rw [← hcalls]
    simp only [totalBytes, List.map_append, List.map_cons, List.sum_append, List.sum_cons]
    omega
  exact Nat.le_trans hsince htotal

/-! ## The whole server -/

/-- What the calls of a server are to be answered, and what it is to keep of them. -/
structure KeepsAccounts (calls : List Call) : Prop where
  /-- data is relayed exactly for a session that is live -/
  relayed : ∀ c sessionId, c.relaysFor = some sessionId →
    ((step (after calls) c).1.isOk ↔ Live (history calls) sessionId)
  bytes : ∀ sessionId conn, (after calls).relay.connections.lookup sessionId = some conn →
    ∃ since, LiveSince (history calls) sessionId conn.createdAt since ∧
      conn.bytesRelayed.toNat = relayedBytes sessionId since
  active : (after calls).relay.activeCount = {sessionId | Live (history calls) sessionId}.ncard
  others : ∀ c sessionId, c.connection ≠ some sessionId →
    (∀ now maxAgeMs, c ≠ .cleanupOld now maxAgeMs) →
      (step (after calls) c).2.relay.connections.lookup sessionId =
        (after calls).relay.connections.lookup sessionId
  cleanup : ∀ now maxAgeMs sessionId,
    (step (after calls) (.cleanupOld now maxAgeMs)).2.relay.connections.lookup sessionId =
      ((after calls).relay.connections.lookup sessionId).filter fun conn =>
        ¬ conn.createdAt ≤ subI64 now maxAgeMs

/-- There are as many connections as sessions that are live. -/
theorem activeCount_after (calls : List Call) :
    (after calls).relay.activeCount = {sessionId | Live (history calls) sessionId}.ncard := by
  have hlive : {sessionId | Live (history calls) sessionId} =
      ((after calls).relay.connections.keys.toFinset : Set String) := by
    apply Set.ext
    intro sessionId
    show Live (history calls) sessionId ↔ _
    rw [live_iff, AList.lookup_isSome, Finset.mem_coe, List.mem_toFinset, AList.mem_keys]
  rw [hlive, Set.ncard_coe_finset,
    List.toFinset_card_of_nodup (after calls).relay.connections.keys_nodup]
  rfl

/-- The accounts are exact, as long as no number of bytes overflows. -/
theorem relay_accounting_exact {calls : List Call} (hbytes : totalBytes calls < 2 ^ 64) :
    KeepsAccounts calls where
  relayed c sessionId hfor := by rw [isOk_step hfor, live_iff]
  bytes sessionId conn hconn := by
    have haccounts := accounts_after calls sessionId
    rw [hconn] at haccounts
    obtain ⟨since, hlive, hrelayed⟩ := haccounts
    refine ⟨since, hlive, ?_⟩
    rw [hrelayed]
    exact UInt64.toNat_ofNat_of_lt' (Nat.lt_of_le_of_lt (relayedBytes_le hlive) hbytes)
  active := activeCount_after calls
  others c sessionId hconnection hcleanup := by
    rw [lookup_step]
    exact Call.onConnection_other hconnection hcleanup _
  cleanup now maxAgeMs sessionId := by
    rw [lookup_step]
    simp [Call.onConnection]

/-- A relay that is created anew, and closed. -/
theorem relay_accounting_exact_recreated :
    KeepsAccounts [.createRelay 1000 "session" "10.0.0.7:4000" "agent", .relayToAgent "session" [1, 2],
      .createRelay 2000 "session" "10.0.0.7:4000" "agent", .relayToClient "session" [3],
      .closeRelay 3000 "session"] :=
  relay_accounting_exact (by decide)

end RelayModule

end Jrok.Relay
