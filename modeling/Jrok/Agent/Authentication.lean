import Jrok.Agent.Frames
import Jrok.Db.ApiKeys

/-!
# Unauthenticated connections

A connection on which no key has validated leaves the registry, the facilitator and the database
alone, whatever frames it sends: every message is gated on the agent id, which only a `Register`
with a valid key sets. The first key that does not validate ends the connection.
-/

namespace Jrok

open Concurrency

/-- The two maps of each registry, the facilitators and the database are as they were. -/
structure Untouched (w w' : World) : Prop where
  db : w'.db = w.db
  agents : ∀ s, (w'.node s).agents = (w.node s).agents
  pending : ∀ s, (w'.node s).pending = (w.node s).pending
  facilitator : ∀ s, (w'.node s).facilitator = (w.node s).facilitator

theorem Untouched.refl (w : World) : Untouched w w := ⟨rfl, fun _ => rfl, fun _ => rfl, fun _ => rfl⟩

theorem Untouched.trans (w₁ w₂ w₃ : World) (h₁ : Untouched w₁ w₂) (h₂ : Untouched w₂ w₃) :
    Untouched w₁ w₃ where
  db := h₂.db.trans h₁.db
  agents s := (h₂.agents s).trans (h₁.agents s)
  pending s := (h₂.pending s).trans (h₁.pending s)
  facilitator s := (h₂.facilitator s).trans (h₁.facilitator s)

namespace Connection

/-- The response to a call of `validate_api_key` is `Ok(true)`. -/
def validates : (o : Op) → o.Res → Bool
  | .sql (.validateApiKey _), .ok (some _) => true
  | _, _ => false

/-- The operations that leave everything but channels alone. -/
inductive QuietOp : Op → Prop where
  | validate (keyHash : String) : QuietOp (.sql (.validateApiKey keyHash))
  | openConnection (me : String) (conn : Nat) : QuietOp (.node me (.openConnection conn))
  | closeConnection (me : String) (conn : Nat) : QuietOp (.node me (.closeConnection conn))
  | send (me : String) (tx : Nat) (m : Message) : QuietOp (.node me (.send tx m))

theorem QuietOp.untouched {B : Backend} {faulty : Bool} {c : Choice} {o : Op} {w w' : World}
    {r : o.Res} (ho : QuietOp o) (h : World.handler B faulty c o w = some (r, w')) :
    Untouched w w' := by
  have hnode : ∀ {me : String} {no : NodeOp} {r : no.Res}, no.usesPending = false →
      no.onAgents = id → no.onFacilitator = id →
      World.handler B faulty c (.node me no) w = some (r, w') → Untouched w w' := by
    intro me no r huses hagents hfacilitator h
    obtain ⟨n', hn', rfl⟩ := World.exec_node.mp h
    have heffect := NodeOp.exec_effect hn'
    have hframe := NodeOp.exec_frame hn'
    refine ⟨rfl, fun s => ?_, fun s => ?_, fun s => ?_⟩ <;> by_cases hs : s = me
    · subst hs
      simpa [hagents] using heffect.agents
    · rw [World.setNode_node_ne _ _ hs]
    · subst hs
      simpa using (hframe.2 huses).1
    · rw [World.setNode_node_ne _ _ hs]
    · subst hs
      simpa [hfacilitator] using hframe.1
    · rw [World.setNode_node_ne _ _ hs]
  cases ho with
  | validate keyHash =>
    rcases World.exec_sql.mp h with ⟨-, -, rfl⟩ | ⟨e, -, -, -, rfl⟩
    · exact .refl w
    · exact .refl w'
  | openConnection | closeConnection | send => exact hnode rfl rfl rfl h

section Register

variable {X : Codec} {B : Backend} {me : String} {reader : Reader} {subdomain : String}
  {localPort : UInt16} {localHost protocol apiKey : String}

/-- The last event of a `Register` is the validation, a reply, or an operation of the call of
    `register` that follows a validation. -/
theorem handleRegister_last {cur : List (Event serverSig)} {e : Event serverSig}
    {p : ServerProg (Option Reader)}
    (h : (handleRegister X B me reader subdomain localPort localHost protocol apiKey).Path
      (cur ++ [e]) p) :
    (cur = [] ∧ e.1 = .sql (.validateApiKey (X.hashApiKey apiKey))) ∨
    (∃ m, e.1 = .node me (.send reader.msgTx m)) ∨
    ∃ i call p', cur = ⟨.sql (.validateApiKey (X.hashApiKey apiKey)), .ok (some i)⟩ :: call ∧
      (AgentRegistry.register B me subdomain localPort localHost (.fromStr protocol)).Path
        (call ++ [e]) p' := by
  rw [handleRegister_eq] at h
  rcases Prog.path_op_snoc_iff.mp h with ⟨hnil, valid, he, -⟩ | ⟨valid, call, rfl, h₁⟩
  · exact .inl ⟨hnil, congrArg Sigma.fst he⟩
  refine .inr ?_
  -- a reply is the last operation of a frame
  have hreply : ∀ {m : Message} {next : Option Reader} {es : List (Event serverSig)},
      (.op (.node me (.send reader.msgTx m)) fun _ => .ret next : ServerProg _).Path (es ++ [e]) p →
      ∃ m, e.1 = .node me (.send reader.msgTx m) := by
    intro m next es hsend
    rcases Prog.path_op_snoc_iff.mp hsend with ⟨-, _, he, -⟩ | ⟨_, _, -, hret⟩
    · exact ⟨m, congrArg Sigma.fst he⟩
    · exact absurd hret Prog.not_path_ret_snoc
  rcases valid with error | _ | i
  · exact .inl (hreply h₁)
  · exact .inl (hreply h₁)
  · rcases Prog.path_bind_snoc_iff.mp h₁ with ⟨p', hp, -⟩ | ⟨_, _, result, -, -, h₂⟩
    · exact .inr ⟨i, call, p', rfl, hp⟩
    · rcases result with error | ⟨id, tx⟩
      · exact .inl (hreply h₂)
      · exact .inl (hreply h₂)

end Register

section Runs

variable {X : Codec} {B : Backend} {me : String} {conn : Nat} {frames : List (Option Message)}
  {es : List (Event serverSig)} {q : ServerProg (List (Option Message))}

/-- The operations that only `register` performs; the first of them draws the agent id. -/
inductive RegistrationOp : Op → Prop where
  | uuid : RegistrationOp .uuid
  | upsert (row : AgentRow) : RegistrationOp (.sql (.registerAgent row))
  | insert (me id : String) (st : AgentState) : RegistrationOp (.node me (.agentsInsert id st))

/-- Every event of a connection is the last one of some path. -/
theorem connection_event {es₁ es₂ : List (Event serverSig)} {e : Event serverSig}
    (h : (handleAgentConnection X B me conn frames).Path (es₁ ++ e :: es₂) q) :
    ∃ q', (handleAgentConnection X B me conn frames).Path (es₁ ++ [e]) q' ∧ q'.Path es₂ q := by
  rw [List.append_cons] at h
  exact Prog.path_append_iff.mp h

/-- Without a validated key there is no agent id. -/
theorem Handling.agentId_none {reader : Reader} {frame : Option Message}
    {later : List (Option Message)} {cur : List (Event serverSig)}
    (h : Handling X B me conn frames es reader frame later cur)
    (hnone : ∀ e ∈ es, validates e.1 e.2 = false) : reader.agentId = none := by
  obtain ⟨msgTx, before, rfl, hbetween⟩ := h
  rcases hbetween.agentId.2 with hid | ⟨_, apiKey, _, newer, cur', older, -, rfl, hadmitted⟩
  · exact hid
  · obtain ⟨i, rest, rfl⟩ := hadmitted.validated
    have hvalid := hnone ⟨.sql (.validateApiKey (X.hashApiKey apiKey)), .ok (some i)⟩ (by simp)
    simp [validates] at hvalid

/-- Without a validated key a connection performs only quiet operations. -/
theorem quiet_of_unvalidated (h : (handleAgentConnection X B me conn frames).Path es q)
    (hnone : ∀ e ∈ es, validates e.1 e.2 = false) : ∀ e ∈ es, QuietOp e.1 := by
  intro e he
  obtain ⟨es₁, es₂, rfl⟩ := List.append_of_mem he
  obtain ⟨q', hq', -⟩ := connection_event h
  have hnone₁ : ∀ e ∈ es₁, validates e.1 e.2 = false := fun e he => hnone e (by simp [he])
  obtain ⟨o, r⟩ := e
  rcases connection_last hq' with rfl | rfl | ⟨reader, frame, later, cur, p, hhandling, hp, -⟩
  · exact .openConnection me conn
  · exact .closeConnection me conn
  · have hid := hhandling.agentId_none hnone₁
    have hop := (hp.issues (handleFrame_issues reader frame)).1 ⟨o, r⟩ (by simp)
    rcases frame with _ | m
    · exact hop.elim
    cases m with
    | register subdomain localPort localHost protocol apiKey =>
      rcases handleRegister_last hp with ⟨-, rfl⟩ | ⟨m, rfl⟩ | ⟨i, call, p', rfl, -⟩
      · exact .validate _
      · exact .send me _ m
      · obtain ⟨msgTx, before, rfl, -⟩ := hhandling
        have hvalid := hnone₁ ⟨.sql (.validateApiKey (X.hashApiKey apiKey)), .ok (some i)⟩
          (by simp)
        simp [validates] at hvalid
    | heartbeat =>
      obtain ⟨id, hsome, -⟩ := hop
      simp [hid] at hsome
    | httpResponse | tcpConnect | tcpDisconnect | tcpListenResponse | connectionEstablished =>
      simp [FrameOp, hid] at hop
    | _ => exact hop.elim

/-- An operation of `register` belongs to a call for the message being handled, whose key has just
    been validated. -/
theorem registration_validated {es₁ es₂ : List (Event serverSig)} {e : Event serverSig}
    (h : (handleAgentConnection X B me conn frames).Path (es₁ ++ e :: es₂) q)
    (he : RegistrationOp e.1) :
    ∃ reader subdomain localPort localHost protocol apiKey later i call p,
      Handling X B me conn frames es₁ reader
        (some (.register subdomain localPort localHost protocol apiKey)) later
        (⟨.sql (.validateApiKey (X.hashApiKey apiKey)), .ok (some i)⟩ :: call) ∧
      (AgentRegistry.register B me subdomain localPort localHost (.fromStr protocol)).Path
        (call ++ [e]) p := by
  obtain ⟨q', hq', -⟩ := connection_event h
  obtain ⟨o, r⟩ := e
  rcases connection_last hq' with rfl | rfl | ⟨reader, frame, later, cur, p, hhandling, hp, -⟩
  · cases he
  · cases he
  · have hop := (hp.issues (handleFrame_issues reader frame)).1 ⟨o, r⟩ (by simp)
    rcases frame with _ | m
    · exact hop.elim
    cases m with
    | register subdomain localPort localHost protocol apiKey =>
      rcases handleRegister_last hp with ⟨-, rfl⟩ | ⟨m, rfl⟩ | ⟨i, call, p', rfl, hcall⟩
      · cases he
      · cases he
      · exact ⟨reader, subdomain, localPort, localHost, protocol, apiKey, later, i, call, p',
          hhandling, hcall⟩
    | heartbeat =>
      obtain ⟨id, -, rfl | rfl | ⟨now, rfl⟩⟩ := hop <;> cases he
    | httpResponse | tcpConnect | tcpDisconnect | tcpListenResponse | connectionEstablished =>
      obtain ⟨-, rfl⟩ := hop
      cases he
    | _ => exact hop.elim

/-- What is left after a key that does not validate: the reply, the end of the loop and the end of
    the task. -/
theorem left_at_invalid (conn : Nat) (later : List (Option Message)) {reader : Reader}
    {subdomain : String} {localPort : UInt16} {localHost protocol apiKey : String}
    {r : Except DbError (Option String)} {p : ServerProg (Option Reader)}
    (hp : (handleFrame X B me reader (some (.register subdomain localPort localHost protocol
      apiKey))).Path [⟨.sql (.validateApiKey (X.hashApiKey apiKey)), r⟩] p)
    (hr : validates (.sql (.validateApiKey (X.hashApiKey apiKey))) r = false) :
    ∃ text, (p >>= resume X B me later) >>= finish me conn =
      .op (.node me (.send reader.msgTx (.error text))) fun _ =>
        .op (.node me (.closeConnection conn)) fun _ => .ret later := by
  rw [handleFrame, handleRegister_eq] at hp
  rcases Prog.path_op_iff.mp hp with ⟨hnil, -⟩ | ⟨r', rest, he, h₁⟩
  · cases hnil
  obtain ⟨heq, rfl⟩ := List.cons.inj he
  obtain rfl := eq_of_heq (Sigma.mk.inj heq).2
  obtain rfl := Prog.path_nil_iff.mp h₁
  rcases r with error | _ | i
  · exact ⟨"Authentication failed", rfl⟩
  · exact ⟨"Invalid API key", rfl⟩
  · simp [validates] at hr

/-- A key that does not validate ends the connection: one error message goes out, and the frames
    after its `Register` are not read. -/
theorem ends_at_invalid {es₁ es₂ : List (Event serverSig)} {keyHash : String}
    {r : Except DbError (Option String)}
    (h : (handleAgentConnection X B me conn frames).Path
      (es₁ ++ ⟨.sql (.validateApiKey keyHash), r⟩ :: es₂) q)
    (hr : validates (.sql (.validateApiKey keyHash)) r = false) :
    ∃ read subdomain localPort localHost protocol apiKey later msgTx text,
      frames = read ++ some (.register subdomain localPort localHost protocol apiKey) :: later ∧
      X.hashApiKey apiKey = keyHash ∧
      (∀ e ∈ es₂, e.1 = .node me (.send msgTx (.error text)) ∨
        e.1 = .node me (.closeConnection conn)) ∧
      ∀ unread, q = .ret unread → unread = later := by
  obtain ⟨q', hq', hrest⟩ := connection_event h
  rcases connection_last hq' with heq | heq | ⟨reader, frame, later, cur, p, hhandling, hp, rfl⟩
  · cases heq
  · cases heq
  · have hop := (hp.issues (handleFrame_issues reader frame)).1
      ⟨.sql (.validateApiKey keyHash), r⟩ (by simp)
    rcases frame with _ | m
    · exact hop.elim
    cases m with
    | register subdomain localPort localHost protocol apiKey =>
      rcases handleRegister_last hp with ⟨rfl, heq⟩ | ⟨m, heq⟩ | ⟨i, call, p', rfl, hcall⟩
      · obtain rfl := Sql.validateApiKey.inj (Op.sql.inj heq)
        obtain ⟨msgTx, before, -, hbetween⟩ := hhandling
        obtain ⟨read, hread⟩ := hbetween.frames
        obtain ⟨text, hleft⟩ := left_at_invalid conn later hp hr
        refine ⟨read, subdomain, localPort, localHost, protocol, apiKey, later, reader.msgTx, text,
          hread, rfl, ?_⟩
        rw [hleft] at hrest
        rcases Prog.path_op_iff.mp hrest with ⟨rfl, rfl⟩ | ⟨_, rest, rfl, h₁⟩
        · exact ⟨by simp, nofun⟩
        rcases Prog.path_op_iff.mp h₁ with ⟨rfl, rfl⟩ | ⟨_, rest', rfl, h₂⟩
        · exact ⟨by simp, nofun⟩
        obtain ⟨rfl, rfl⟩ := Prog.path_ret_iff.mp h₂
        refine ⟨by simp, fun unread hq => ?_⟩
        exact (Prog.ret.inj hq).symm
      · cases heq
      · have hadmission := (hcall.issues (register_issues reader subdomain localPort localHost _)).1
          ⟨.sql (.validateApiKey keyHash), r⟩ (by simp)
        cases hadmission with
        | owner howner => cases howner
    | heartbeat =>
      obtain ⟨id, -, heq | heq | ⟨now, heq⟩⟩ := hop <;> cases heq
    | httpResponse | tcpConnect | tcpDisconnect | tcpListenResponse | connectionEstablished =>
      obtain ⟨-, heq⟩ := hop
      cases heq
    | _ => exact hop.elim

end Runs

/-- A connection on which no key validates changes nothing: no event of its own does, whatever the
    other tasks have done before it, and where they change nothing, nothing has changed at its end.
    The first key that does not validate ends the connection. An operation of `register` belongs to
    a call for a message whose own key has just validated. -/
theorem unauthenticated_untouched {X : Codec} {B : Backend} {me : String} {conn : Nat}
    {frames : List (Option Message)} {es : List (Event serverSig)}
    {q : ServerProg (List (Option Message))}
    (h : (handleAgentConnection X B me conn frames).Path es q) :
    ((∀ e ∈ es, validates e.1 e.2 = false) → ∀ faulty,
      (∀ e ∈ es, ∀ c w w', World.handler B faulty c e.1 w = some (e.2, w') → Untouched w w') ∧
      ∀ w w', Prog.Along (World.handler B faulty) Untouched es w w' → Untouched w w') ∧
    (∀ es₁ keyHash r es₂, es = es₁ ++ ⟨.sql (.validateApiKey keyHash), r⟩ :: es₂ →
      validates (.sql (.validateApiKey keyHash)) r = false →
      ∃ read subdomain localPort localHost protocol apiKey later msgTx text,
        frames = read ++ some (.register subdomain localPort localHost protocol apiKey) :: later ∧
        X.hashApiKey apiKey = keyHash ∧
        (∀ e ∈ es₂, e.1 = .node me (.send msgTx (.error text)) ∨
          e.1 = .node me (.closeConnection conn)) ∧
        ∀ unread, q = .ret unread → unread = later) ∧
    ∀ es₁ e es₂, es = es₁ ++ e :: es₂ → RegistrationOp e.1 →
      ∃ reader subdomain localPort localHost protocol apiKey later i call p,
        Handling X B me conn frames es₁ reader
          (some (.register subdomain localPort localHost protocol apiKey)) later
          (⟨.sql (.validateApiKey (X.hashApiKey apiKey)), .ok (some i)⟩ :: call) ∧
        (AgentRegistry.register B me subdomain localPort localHost (.fromStr protocol)).Path
          (call ++ [e]) p := by
  refine ⟨fun hnone faulty => ?_, ?_, ?_⟩
  · have hquiet := quiet_of_unvalidated h hnone
    refine ⟨fun e he c w w' hc => (hquiet e he).untouched hc, fun w w' halong => ?_⟩
    exact halong.within Untouched.trans fun e he c w₁ w₂ hc => (hquiet e he).untouched hc
  · rintro es₁ keyHash r es₂ rfl hr
    exact ends_at_invalid h hr
  · rintro es₁ e es₂ rfl he
    exact registration_validated h he

/-- What happens when a connection sends a heartbeat and then a key that is not in the table. -/
def intrusion : List (Event serverSig) :=
  [⟨.node "s" (.openConnection 0), (0 : Nat)⟩,
    ⟨.sql (.validateApiKey (ApiKeys.sampleCodec.hashApiKey "secret")), .ok none⟩,
    ⟨.node "s" (.send 0 (.error "Invalid API key")), true⟩,
    ⟨.node "s" (.closeConnection 0), ()⟩]

theorem unauthenticated_untouched_intrusion :
    ∃ w, Prog.Along (World.handler .migrated false) Untouched intrusion .boot w ∧
      Untouched .boot w := by
  have hpath : (handleAgentConnection ApiKeys.sampleCodec .migrated "s" 0
      [some .heartbeat, some (.register "app" 80 "localhost" "http" "secret"),
        some .heartbeat]).Path intrusion (.ret [some .heartbeat]) :=
    .cons (.cons (.cons (.cons (.nil _))))
  obtain ⟨w, hrun⟩ : ∃ w, Prog.Along (World.handler .migrated false) Untouched intrusion .boot w :=
    ⟨_, .cons (c := .go) (.refl _) (by rfl) (.cons (c := .go) (.refl _) (by rfl)
      (.cons (c := .go) (.refl _) (by rfl) (.cons (c := .go) (.refl _) (by rfl)
        (.nil (.refl _)))))⟩
  exact ⟨w, hrun, ((unauthenticated_untouched hpath).1 (by simp [intrusion, validates])
    false).2 _ _ hrun⟩

end Connection

end Jrok
