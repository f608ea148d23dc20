import Jrok.Agent.Connection
import Jrok.Concurrency.Log

/-!
# The frames of a connection

The events of `handle_agent_connection`, frame by frame: which operations each message leads to,
and what the task holds after the frames that it has read. Nothing is assumed about the responses
to the operations, so what is shown holds whatever the other tasks do.
-/

namespace Jrok

open Concurrency

namespace Connection

variable {X : Codec} {B : Backend} {me : String}

/-! ## The operations of each message -/

/-- The operations of the call of `register` for a message, and of the reply to it. -/
inductive AdmissionOp (me : String) (reader : Reader) (subdomain : String) : Op → Prop where
  | now : AdmissionOp me reader subdomain .now
  | uuid : AdmissionOp me reader subdomain .uuid
  | channel : AdmissionOp me reader subdomain (.node me .channel)
  | dropReceiver (tx : Nat) : AdmissionOp me reader subdomain (.node me (.dropReceiver tx))
  | owner {o : Op} (h : AgentRegistry.OwnerRead o) : AdmissionOp me reader subdomain o
  | upsert (row : AgentRow) (hserver : row.serverId = me) (hsub : row.subdomain = subdomain)
      (hactive : row.active = true) :
    AdmissionOp me reader subdomain (.sql (.registerAgent row))
  | insert (id : String) (st : AgentState) (hsub : st.subdomain = subdomain) :
    AdmissionOp me reader subdomain (.node me (.agentsInsert id st))
  | send (m : Message) : AdmissionOp me reader subdomain (.node me (.send reader.msgTx m))

/-- The bytes of a response as `handle_agent_connection` hands them on: encoded, and decoded by
    `handle_response`. -/
def relayedBody (X : Codec) (body : Option (List UInt8)) : List UInt8 :=
  match body.map X.encode with
  | some b => (X.decode b).getD []
  | none => []

/-- The operations that one frame leads to. Every message but `Register` needs an agent id. -/
def FrameOp (X : Codec) (me : String) (reader : Reader) : Option Message → Op → Prop
  | some (.register subdomain _ _ _ apiKey), o =>
    o = .sql (.validateApiKey (X.hashApiKey apiKey)) ∨ AdmissionOp me reader subdomain o
  | some .heartbeat, o => ∃ id, reader.agentId = some id ∧
    (o = .node me (.agentsGetMut id) ∨ o = .now ∨ ∃ now, o = .sql (.sendAgentHeartbeat now id))
  | some (.httpResponse requestId status headers body), o => reader.agentId.isSome ∧
    o = .node me (.respond requestId ⟨status, headers, relayedBody X body⟩)
  | some (.tcpConnect connectionId clientIp), o => reader.agentId.isSome ∧
    o = .node me (.send reader.msgTx (.tcpConnect connectionId clientIp))
  | some (.tcpDisconnect connectionId), o => reader.agentId.isSome ∧
    o = .node me (.send reader.msgTx (.tcpDisconnect connectionId))
  | some (.tcpListenResponse sessionId endpoint agentNat), o => reader.agentId.isSome ∧
    o = .node me (.agentListening sessionId endpoint (agentNat.map .ofSer))
  | some (.connectionEstablished sessionId _), o => reader.agentId.isSome ∧
    o = .node me (.clientConnected sessionId)
  | _, _ => False

/-- The critical sections that frames lead to. -/
def ofFrame : NodeOp → Bool
  | .channel | .dropReceiver _ | .send _ _ | .agentsInsert _ _ | .agentsGetMut _ => true
  | .respond _ _ | .agentListening _ _ _ | .clientConnected _ => true
  | _ => false

/-- A frame leads to critical sections of its own server only, and to the ones on the pending map
    and the sessions only by the message for each. -/
theorem frameOp_node {n : String} {reader : Reader} {frame : Option Message} {o : NodeOp}
    (h : FrameOp X me reader frame (.node n o)) : n = me ∧ ofFrame o = true ∧
      match o with
      | .respond requestId response => reader.agentId.isSome ∧ ∃ body,
        frame = some (.httpResponse requestId response.status response.headers body) ∧
          response.body = relayedBody X body
      | .agentListening sessionId endpoint agentNat => reader.agentId.isSome ∧ ∃ nat,
        frame = some (.tcpListenResponse sessionId endpoint nat) ∧ agentNat = nat.map .ofSer
      | .clientConnected sessionId => reader.agentId.isSome ∧ ∃ direct,
        frame = some (.connectionEstablished sessionId direct)
      | _ => True := by
  rcases frame with _ | m
  · exact h.elim
  cases m with
  | register =>
    rcases h with heq | h
    · cases heq
    · cases h with
      | owner h => cases h
      | _ => exact ⟨rfl, rfl, trivial⟩
  | heartbeat =>
    obtain ⟨id, -, heq | heq | ⟨now, heq⟩⟩ := h <;> cases heq
    exact ⟨rfl, rfl, trivial⟩
  | httpResponse requestId status headers body =>
    obtain ⟨hid, heq⟩ := h
    cases heq
    exact ⟨rfl, rfl, hid, body, rfl, rfl⟩
  | tcpConnect | tcpDisconnect =>
    obtain ⟨-, heq⟩ := h
    cases heq
    exact ⟨rfl, rfl, trivial⟩
  | tcpListenResponse sessionId endpoint nat =>
    obtain ⟨hid, heq⟩ := h
    cases heq
    exact ⟨rfl, rfl, hid, nat, rfl, rfl⟩
  | connectionEstablished sessionId direct =>
    obtain ⟨hid, heq⟩ := h
    cases heq
    exact ⟨rfl, rfl, hid, direct, rfl⟩
  | _ => exact h.elim

theorem register_issues (reader : Reader) (subdomain : String) (localPort : UInt16)
    (localHost : String) (protocol : Protocol) :
    (AgentRegistry.register B me subdomain localPort localHost protocol).Issues
      (AdmissionOp me reader subdomain) := by
  rw [AgentRegistry.register_eq]
  refine ⟨.uuid, fun agentId => ⟨.uuid, fun token => ⟨.channel, fun tx => ?_⟩⟩⟩
  refine Prog.Issues.bind ?_ fun result => ⟨.dropReceiver tx, fun _ => trivial⟩
  rw [AgentRegistry.registerWith_eq]
  refine ((AgentRegistry.checkOwner_issues B me subdomain).mono fun o ho => .owner ho).bind
    fun r => ?_
  cases r with
  | error e => trivial
  | ok u =>
    refine ⟨.now, fun _ => ⟨.now, fun _ => ⟨.now, fun _ => ⟨.upsert _ rfl rfl rfl, fun r => ?_⟩⟩⟩⟩
    cases r with
    | error e => trivial
    | ok n => exact ⟨.now, fun _ => ⟨.insert agentId _ rfl, fun _ => trivial⟩⟩

theorem handleRegister_eq (reader : Reader) (subdomain : String) (localPort : UInt16)
    (localHost protocol apiKey : String) :
    handleRegister X B me reader subdomain localPort localHost protocol apiKey =
      .op (.sql (.validateApiKey (X.hashApiKey apiKey))) fun
        | .ok (some _) =>
          AgentRegistry.register B me subdomain localPort localHost (.fromStr protocol) >>= fun
            | .ok (id, _) => .op (.node me (.send reader.msgTx (.welcome id subdomain protocol)))
                fun _ => .ret (some { reader with agentId := some id })
            | .error e => .op (.node me (.send reader.msgTx (.error e.text))) fun _ => .ret none
        | .ok none =>
          .op (.node me (.send reader.msgTx (.error "Invalid API key"))) fun _ => .ret none
        | .error _ =>
          .op (.node me (.send reader.msgTx (.error "Authentication failed"))) fun _ =>
            .ret none := by
  rw [handleRegister, Db.run_validateApiKey]
  refine congrArg (Prog.op _) (funext fun r => ?_)
  rcases r with e | _ | i
  · rfl
  · rfl
  · refine congrArg (AgentRegistry.register B me subdomain localPort localHost _ >>= ·)
      (funext fun r => ?_)
    cases r <;> rfl

/-- A message other than `Register` does nothing on a connection without an agent id. -/
theorem ifRegistered_eq (reader : Reader) (f : String → ServerProg Unit) :
    ifRegistered reader f =
      match reader.agentId with
      | some id => f id >>= fun _ => .ret (some reader)
      | none => .ret (some reader) := by
  unfold ifRegistered
  cases reader.agentId <;> rfl

theorem ifRegistered_issues {P : Op → Prop} {reader : Reader} {f : String → ServerProg Unit}
    (hf : ∀ id, reader.agentId = some id → (f id).Issues P) : (ifRegistered reader f).Issues P := by
  rw [ifRegistered_eq]
  cases hid : reader.agentId with
  | none => trivial
  | some id => exact (hf id hid).bind fun _ => trivial

theorem handleFrame_issues (reader : Reader) (frame : Option Message) :
    (handleFrame X B me reader frame).Issues (FrameOp X me reader frame) := by
  rcases frame with _ | m
  · trivial
  · cases m with
    | register subdomain localPort localHost protocol apiKey =>
      rw [handleFrame, handleRegister_eq]
      refine ⟨.inl rfl, fun r => ?_⟩
      rcases r with e | _ | i
      · exact ⟨.inr (.send _), fun _ => trivial⟩
      · exact ⟨.inr (.send _), fun _ => trivial⟩
      · refine ((register_issues reader subdomain localPort localHost _).mono
          fun o ho => .inr ho).bind fun r => ?_
        cases r with
        | ok a => exact ⟨.inr (.send _), fun _ => trivial⟩
        | error e => exact ⟨.inr (.send _), fun _ => trivial⟩
    | heartbeat =>
      apply ifRegistered_issues
      intro id hid
      rw [AgentRegistry.updateHeartbeat_eq]
      exact ⟨⟨id, hid, .inl rfl⟩, fun _ => ⟨⟨id, hid, .inr (.inl rfl)⟩, fun now =>
        ⟨⟨id, hid, .inr (.inr ⟨now, rfl⟩)⟩, fun _ => trivial⟩⟩⟩
    | httpResponse | tcpConnect | tcpDisconnect | tcpListenResponse | connectionEstablished =>
      apply ifRegistered_issues
      intro id hid
      exact ⟨⟨by simp [hid], rfl⟩, fun _ => trivial⟩
    | tcpData => exact ifRegistered_issues fun id hid => trivial
    | _ => trivial

/-! ## What a frame leaves behind -/

/-- The events show a validated key and a successful registration under `id`. -/
structure Admitted (X : Codec) (me subdomain apiKey id : String) (es : List (Event serverSig)) :
    Prop where
  validated : ∃ i rest, es = ⟨.sql (.validateApiKey (X.hashApiKey apiKey)), .ok (some i)⟩ :: rest
  fresh : (⟨.uuid, id⟩ : Event serverSig) ∈ es
  row : ∃ row n, row.id = id ∧ row.subdomain = subdomain ∧ row.serverId = me ∧
    (⟨.sql (.registerAgent row), .ok n⟩ : Event serverSig) ∈ es
  entry : ∃ st, st.subdomain = subdomain ∧
    (⟨.node me (.agentsInsert id st), ()⟩ : Event serverSig) ∈ es

/-- A successful registration ends with its upsert, a reading of the clock and its insertion. -/
theorem registerWith_ok {agentId token : String} {tx : Nat} {subdomain : String}
    {localPort : UInt16} {localHost : String} {protocol : Protocol} {es : List (Event serverSig)}
    {a : String × Nat}
    (h : (AgentRegistry.registerWith B me agentId token tx subdomain localPort localHost
      protocol).run.Path es (.ret (.ok a))) :
    a = (agentId, tx) ∧ ∃ before row n now st,
      es = before ++ [⟨.sql (.registerAgent row), .ok n⟩, ⟨.now, now⟩,
        ⟨.node me (.agentsInsert agentId st), ()⟩] ∧
      row.id = agentId ∧ row.subdomain = subdomain ∧ row.serverId = me ∧
      st.subdomain = subdomain := by
  rw [AgentRegistry.registerWith_eq] at h
  obtain ⟨owned, stored, owner, rfl, -, h₁⟩ := Prog.path_bind_ret_iff.mp h
  cases owner with
  | error e => cases (Prog.path_ret_iff.mp h₁).2
  | ok u =>
    obtain ⟨connectedAt, es₂, rfl, h₂⟩ := Prog.path_op_ret_iff.mp h₁
    obtain ⟨beat, es₃, rfl, h₃⟩ := Prog.path_op_ret_iff.mp h₂
    obtain ⟨now, es₄, rfl, h₄⟩ := Prog.path_op_ret_iff.mp h₃
    obtain ⟨result, es₅, rfl, h₅⟩ := Prog.path_op_ret_iff.mp h₄
    cases result with
    | error e => cases (Prog.path_ret_iff.mp h₅).2
    | ok n =>
      obtain ⟨seen, es₆, rfl, h₆⟩ := Prog.path_op_ret_iff.mp h₅
      obtain ⟨_, es₇, rfl, h₇⟩ := Prog.path_op_ret_iff.mp h₆
      obtain ⟨rfl, ha⟩ := Prog.path_ret_iff.mp h₇
      refine ⟨Except.ok.inj (Prog.ret.inj ha),
        owned ++ [⟨.now, connectedAt⟩, ⟨.now, beat⟩, ⟨.now, now⟩], _, n, seen,
        ⟨tx, subdomain, localPort, localHost, protocol, seen⟩, ?_, rfl, rfl, rfl, rfl⟩
      rw [List.append_assoc]
      rfl

theorem register_ok {subdomain : String} {localPort : UInt16} {localHost : String}
    {protocol : Protocol} {es : List (Event serverSig)} {id : String} {tx : Nat}
    (h : (AgentRegistry.register B me subdomain localPort localHost protocol).Path es
      (.ret (.ok (id, tx)))) :
    ∃ before row n now st,
      es = ⟨.uuid, id⟩ :: (before ++ [⟨.sql (.registerAgent row), .ok n⟩, ⟨.now, now⟩,
        ⟨.node me (.agentsInsert id st), ()⟩, ⟨.node me (.dropReceiver tx), ()⟩]) ∧
      row.id = id ∧ row.subdomain = subdomain ∧ row.serverId = me ∧ st.subdomain = subdomain := by
  rw [AgentRegistry.register_eq] at h
  obtain ⟨agentId, es₁, rfl, h₁⟩ := Prog.path_op_ret_iff.mp h
  obtain ⟨token, es₂, rfl, h₂⟩ := Prog.path_op_ret_iff.mp h₁
  obtain ⟨tx', es₃, rfl, h₃⟩ := Prog.path_op_ret_iff.mp h₂
  obtain ⟨es₄, es₅, result, rfl, h₄, h₅⟩ := Prog.path_bind_ret_iff.mp h₃
  obtain ⟨_, es₆, rfl, h₆⟩ := Prog.path_op_ret_iff.mp h₅
  obtain ⟨rfl, hresult⟩ := Prog.path_ret_iff.mp h₆
  obtain rfl := Prog.ret.inj hresult
  obtain ⟨ha, before, row, n, now, st, rfl, hrow, hsub, hserver, hst⟩ := registerWith_ok h₄
  obtain ⟨rfl, rfl⟩ := Prod.mk.inj ha
  refine ⟨⟨.uuid, token⟩ :: ⟨.node me .channel, tx⟩ :: before, row, n, now, st, ?_, hrow, hsub,
    hserver, hst⟩
  simp

/-- A successful `register` has stored a row and an entry under the id it returns. -/
theorem register_path {subdomain : String} {localPort : UInt16} {localHost : String}
    {protocol : Protocol} {es : List (Event serverSig)} {id : String} {tx : Nat}
    (h : (AgentRegistry.register B me subdomain localPort localHost protocol).Path es
      (.ret (.ok (id, tx)))) :
    (⟨.uuid, id⟩ : Event serverSig) ∈ es ∧
    (∃ row n, row.id = id ∧ row.subdomain = subdomain ∧ row.serverId = me ∧
      (⟨.sql (.registerAgent row), .ok n⟩ : Event serverSig) ∈ es) ∧
    ∃ st, st.subdomain = subdomain ∧
      (⟨.node me (.agentsInsert id st), ()⟩ : Event serverSig) ∈ es := by
  obtain ⟨before, row, n, now, st, rfl, hrow, hsub, hserver, hst⟩ := register_ok h
  exact ⟨.head _, ⟨row, n, hrow, hsub, hserver, by simp⟩, st, hst, by simp⟩

theorem ifRegistered_ret {reader : Reader} {f : String → ServerProg Unit}
    {es : List (Event serverSig)} {next : Option Reader}
    (h : (ifRegistered reader f).Path es (.ret next)) : next = some reader := by
  rw [ifRegistered_eq] at h
  cases hid : reader.agentId with
  | none =>
    rw [hid] at h
    exact Prog.ret.inj (Prog.path_ret_iff.mp h).2
  | some id =>
    rw [hid] at h
    obtain ⟨es₁, es₂, u, rfl, -, h₂⟩ := Prog.path_bind_ret_iff.mp h
    exact Prog.ret.inj (Prog.path_ret_iff.mp h₂).2

/-- After a frame the reader is unchanged, or a `Register` has been admitted; the function returns
    only at a `Register`. -/
theorem handleFrame_ret {reader : Reader} {frame : Option Message} {es : List (Event serverSig)}
    {next : Option Reader} (h : (handleFrame X B me reader frame).Path es (.ret next)) :
    next = some reader ∨
    ∃ subdomain localPort localHost protocol apiKey,
      frame = some (.register subdomain localPort localHost protocol apiKey) ∧
      (next = none ∨ ∃ id, next = some { reader with agentId := some id } ∧
        Admitted X me subdomain apiKey id es) := by
  rcases frame with _ | m
  · exact .inl (Prog.ret.inj (Prog.path_ret_iff.mp h).2)
  · cases m with
    | register subdomain localPort localHost protocol apiKey =>
      refine .inr ⟨subdomain, localPort, localHost, protocol, apiKey, rfl, ?_⟩
      rw [handleFrame, handleRegister_eq] at h
      obtain ⟨valid, es₁, rfl, h₁⟩ := Prog.path_op_ret_iff.mp h
      rcases valid with e | _ | i
      · obtain ⟨_, es₂, rfl, h₂⟩ := Prog.path_op_ret_iff.mp h₁
        exact .inl (Prog.ret.inj (Prog.path_ret_iff.mp h₂).2)
      · obtain ⟨_, es₂, rfl, h₂⟩ := Prog.path_op_ret_iff.mp h₁
        exact .inl (Prog.ret.inj (Prog.path_ret_iff.mp h₂).2)
      · obtain ⟨es₂, es₃, result, rfl, h₂, h₃⟩ := Prog.path_bind_ret_iff.mp h₁
        rcases result with e | ⟨id, tx⟩
        · obtain ⟨_, es₄, rfl, h₄⟩ := Prog.path_op_ret_iff.mp h₃
          exact .inl (Prog.ret.inj (Prog.path_ret_iff.mp h₄).2)
        · obtain ⟨_, es₄, rfl, h₄⟩ := Prog.path_op_ret_iff.mp h₃
          refine .inr ⟨id, Prog.ret.inj (Prog.path_ret_iff.mp h₄).2, ?_⟩
          obtain ⟨hfresh, ⟨row, n, hrow, hsub, hserver, hupsert⟩, st, hst, hinsert⟩ :=
            register_path h₂
          exact
            { validated := ⟨i, _, rfl⟩
              fresh := .tail _ (List.mem_append_left _ hfresh)
              row := ⟨row, n, hrow, hsub, hserver, .tail _ (List.mem_append_left _ hupsert)⟩
              entry := ⟨st, hst, .tail _ (List.mem_append_left _ hinsert)⟩ }
    | heartbeat | httpResponse | tcpConnect | tcpData | tcpDisconnect | tcpListenResponse |
        connectionEstablished =>
      exact .inl (ifRegistered_ret h)
    | _ => exact .inl (Prog.ret.inj (Prog.path_ret_iff.mp h).2)

/-! ## The agent of a reader -/

/-- The id under which an event inserts an entry into the agents map of `me`. -/
def insertedAgent (me : String) : Event serverSig → Option String
  | ⟨.node n (.agentsInsert id _), _⟩ => if n = me then some id else none
  | _ => none

/-- The last such id of events, the oldest of which comes first. -/
def lastInserted (me : String) : List (Event serverSig) → Option String
  | [] => none
  | e :: es => (lastInserted me es).or (insertedAgent me e)

@[simp] theorem lastInserted_nil : lastInserted me [] = none := rfl

@[simp] theorem lastInserted_cons (e : Event serverSig) (es : List (Event serverSig)) :
    lastInserted me (e :: es) = (lastInserted me es).or (insertedAgent me e) := rfl

@[simp] theorem lastInserted_append (es es' : List (Event serverSig)) :
    lastInserted me (es ++ es') = (lastInserted me es').or (lastInserted me es) := by
  induction es with
  | nil => simp
  | cons e es ih => simp [ih, Option.or_assoc]

theorem lastInserted_eq_none {es : List (Event serverSig)}
    (h : ∀ e ∈ es, insertedAgent me e = none) : lastInserted me es = none := by
  induction es with
  | nil => rfl
  | cons e es ih =>
    have hrest := ih fun e' he' => h e' (List.mem_cons_of_mem _ he')
    simp [hrest, h e (List.mem_cons_self ..)]

/-- The frame is a `Register`. -/
def isRegister : Option Message → Bool
  | some (.register ..) => true
  | _ => false

/-- Only a `Register` leads to an insertion. -/
theorem frameOp_insertedAgent {reader : Reader} {frame : Option Message} {o : Op} (r : o.Res)
    (h : FrameOp X me reader frame o) (hframe : isRegister frame = false) :
    insertedAgent me ⟨o, r⟩ = none := by
  rcases frame with _ | m
  · exact h.elim
  cases m with
  | register => cases hframe
  | heartbeat =>
    obtain ⟨id, -, rfl | rfl | ⟨now, rfl⟩⟩ := h <;> rfl
  | httpResponse | tcpConnect | tcpDisconnect | tcpListenResponse | connectionEstablished =>
    obtain ⟨-, rfl⟩ := h
    rfl
  | _ => exact h.elim

theorem register_lastInserted {subdomain : String} {localPort : UInt16} {localHost : String}
    {protocol : Protocol} {es : List (Event serverSig)} {id : String} {tx : Nat}
    (h : (AgentRegistry.register B me subdomain localPort localHost protocol).Path es
      (.ret (.ok (id, tx)))) : lastInserted me es = some id := by
  obtain ⟨before, row, n, now, st, rfl, -⟩ := register_ok h
  simp [insertedAgent]

/-- After a frame the reader has the agent id of the last insertion, or the one it had. -/
theorem handleFrame_agentId {reader reader' : Reader} {frame : Option Message}
    {es : List (Event serverSig)}
    (h : (handleFrame X B me reader frame).Path es (.ret (some reader'))) :
    reader'.agentId = (lastInserted me es).or reader.agentId := by
  cases hframe : isRegister frame with
  | false =>
    have hsame : reader' = reader := by
      rcases handleFrame_ret h with heq | ⟨_, _, _, _, _, rfl, -⟩
      · exact Option.some.inj heq
      · cases hframe
    have hnone : lastInserted me es = none := lastInserted_eq_none fun e he =>
      frameOp_insertedAgent e.2 ((h.issues (handleFrame_issues reader frame)).1 e he) hframe
    simp [hsame, hnone]
  | true =>
    rcases frame with _ | m
    · cases hframe
    cases m with
    | register subdomain localPort localHost protocol apiKey =>
      rw [handleFrame, handleRegister_eq] at h
      obtain ⟨valid, es₁, rfl, h₁⟩ := Prog.path_op_ret_iff.mp h
      rcases valid with e | _ | i
      · obtain ⟨_, es₂, rfl, h₂⟩ := Prog.path_op_ret_iff.mp h₁
        cases (Prog.path_ret_iff.mp h₂).2
      · obtain ⟨_, es₂, rfl, h₂⟩ := Prog.path_op_ret_iff.mp h₁
        cases (Prog.path_ret_iff.mp h₂).2
      · obtain ⟨es₂, es₃, result, rfl, h₂, h₃⟩ := Prog.path_bind_ret_iff.mp h₁
        rcases result with e | ⟨id, tx⟩
        · obtain ⟨_, es₄, rfl, h₄⟩ := Prog.path_op_ret_iff.mp h₃
          cases (Prog.path_ret_iff.mp h₄).2
        · obtain ⟨_, es₄, rfl, h₄⟩ := Prog.path_op_ret_iff.mp h₃
          obtain ⟨rfl, hret⟩ := Prog.path_ret_iff.mp h₄
          obtain rfl := Option.some.inj (Prog.ret.inj hret)
          simp [register_lastInserted h₂, insertedAgent]
    | _ => cases hframe

/-! ## Frame by frame -/

variable (X B me) in
/-- After the events, a loop that began with the first reader and frames stands between two frames
    with the last reader and frames. -/
inductive Between : Reader → List (Option Message) → List (Event serverSig) → Reader →
    List (Option Message) → Prop where
  | here (reader : Reader) (frames : List (Option Message)) : Between reader frames [] reader frames
  | next {reader reader' reader'' : Reader} {frame : Option Message}
      {frames rest : List (Option Message)} {es es' : List (Event serverSig)}
      (hframe : (handleFrame X B me reader frame).Path es (.ret (some reader')))
      (hrest : Between reader' frames es' reader'' rest) :
      Between reader (frame :: frames) (es ++ es') reader'' rest

/-- The reader's agent id is that of the last `Register` admitted. -/
theorem Between.agentId {reader reader' : Reader} {frames rest : List (Option Message)}
    {es : List (Event serverSig)} (h : Between X B me reader frames es reader' rest) :
    reader'.msgTx = reader.msgTx ∧
    (reader'.agentId = reader.agentId ∨
      ∃ subdomain apiKey id newer cur older, reader'.agentId = some id ∧
        es = older ++ cur ++ newer ∧ Admitted X me subdomain apiKey id cur) := by
  induction h with
  | here reader frames => exact ⟨rfl, .inl rfl⟩
  | @next reader reader' reader'' frame frames rest es es' hframe hrest ih =>
    obtain ⟨htx, hid⟩ := ih
    have hthis : reader'.msgTx = reader.msgTx ∧ (reader'.agentId = reader.agentId ∨
        ∃ subdomain apiKey id, reader'.agentId = some id ∧
          Admitted X me subdomain apiKey id es) := by
      rcases handleFrame_ret hframe with heq | ⟨subdomain, _, _, _, apiKey, -, hnone | hsome⟩
      · obtain rfl := Option.some.inj heq
        exact ⟨rfl, .inl rfl⟩
      · cases hnone
      · obtain ⟨id, heq, hadmitted⟩ := hsome
        obtain rfl := Option.some.inj heq
        exact ⟨rfl, .inr ⟨subdomain, apiKey, id, rfl, hadmitted⟩⟩
    refine ⟨htx.trans hthis.1, ?_⟩
    rcases hid with hsame | ⟨subdomain, apiKey, id, newer, cur, older, hid, rfl, hadmitted⟩
    · rcases hthis.2 with hold | ⟨subdomain, apiKey, id, hid, hadmitted⟩
      · exact .inl (hsame.trans hold)
      · exact .inr ⟨subdomain, apiKey, id, es', es, [], hsame.trans hid, rfl, hadmitted⟩
    · exact .inr ⟨subdomain, apiKey, id, newer, cur, es ++ older, hid,
        by simp only [List.append_assoc], hadmitted⟩

/-- Between two frames the reader has the agent id of the last insertion. -/
theorem Between.lastInserted {reader reader' : Reader} {frames rest : List (Option Message)}
    {es : List (Event serverSig)} (h : Between X B me reader frames es reader' rest) :
    reader'.agentId = (lastInserted me es).or reader.agentId := by
  induction h with
  | here reader frames => simp
  | next hframe hrest ih => simp [ih, handleFrame_agentId hframe, Option.or_assoc]

theorem Between.frames {reader reader' : Reader} {frames rest : List (Option Message)}
    {es : List (Event serverSig)} (h : Between X B me reader frames es reader' rest) :
    ∃ read, frames = read ++ rest := by
  induction h with
  | here reader frames => exact ⟨[], rfl⟩
  | @next _ _ _ frame _ _ _ _ _ _ ih =>
    obtain ⟨read, rfl⟩ := ih
    exact ⟨frame :: read, rfl⟩

variable (X B me) in
/-- What the loop does after a frame. -/
def resume (later : List (Option Message)) : Option Reader → ServerProg (List (Option Message))
  | some reader => handleFrames X B me reader later
  | none => .ret later

theorem handleFrames_cons (reader : Reader) (frame : Option Message)
    (frames : List (Option Message)) :
    handleFrames X B me reader (frame :: frames) =
      handleFrame X B me reader frame >>= resume X B me frames := by
  refine congrArg (handleFrame X B me reader frame >>= ·) (funext fun next => ?_)
  cases next <;> rfl

/-- What every frame may lead to, the loop may. -/
theorem handleFrames_issues {P : Op → Prop} {frames : List (Option Message)}
    (h : ∀ reader, ∀ frame ∈ frames, ∀ o, FrameOp X me reader frame o → P o) (reader : Reader) :
    (handleFrames X B me reader frames).Issues P := by
  induction frames generalizing reader with
  | nil => trivial
  | cons frame frames ih =>
    rw [handleFrames_cons]
    refine ((handleFrame_issues reader frame).mono (h reader frame (List.mem_cons_self ..))).bind
      fun next => ?_
    cases next with
    | none => trivial
    | some reader' =>
      exact ih (fun reader frame hframe => h reader frame (List.mem_cons_of_mem _ hframe)) reader'

/-- The last event of a loop happens while it handles one of its frames. -/
theorem handleFrames_last {reader : Reader} {frames : List (Option Message)}
    {es : List (Event serverSig)} {e : Event serverSig} {q : ServerProg (List (Option Message))}
    (h : (handleFrames X B me reader frames).Path (es ++ [e]) q) :
    ∃ before cur reader' frame later p, es = before ++ cur ∧
      Between X B me reader frames before reader' (frame :: later) ∧
      (handleFrame X B me reader' frame).Path (cur ++ [e]) p ∧ q = p >>= resume X B me later := by
  induction frames generalizing reader es with
  | nil => exact absurd h Prog.not_path_ret_snoc
  | cons frame frames ih =>
    rw [handleFrames_cons] at h
    rcases Prog.path_bind_snoc_iff.mp h with ⟨p, hp, hq⟩ | ⟨es₁, es₂, next, rfl, h₁, h₂⟩
    · exact ⟨[], es, reader, frame, frames, p, rfl, .here _ _, hp, hq⟩
    · cases next with
      | none => exact absurd h₂ Prog.not_path_ret_snoc
      | some reader' =>
        obtain ⟨before, cur, reader'', frame', later, p, rfl, hbetween, hp, hq⟩ := ih h₂
        exact ⟨es₁ ++ before, cur, reader'', frame', later, p,
          (List.append_assoc ..).symm, .next h₁ hbetween, hp, hq⟩

/-! ## Whole connections -/

variable (me) in
/-- What the connection does after its loop. -/
def finish (conn : Nat) (unread : List (Option Message)) : ServerProg (List (Option Message)) :=
  .op (.node me (.closeConnection conn)) fun _ => .ret unread

theorem handleAgentConnection_eq (conn : Nat) (frames : List (Option Message)) :
    handleAgentConnection X B me conn frames = .op (.node me (.openConnection conn)) fun msgTx =>
      handleFrames X B me ⟨msgTx, none⟩ frames >>= finish me conn := rfl

variable (X B me) in
/-- After the events the connection is handling `frame`, with `reader` and with `later` still to be
    read; `cur` are the events since it took the frame. -/
def Handling (conn : Nat) (frames : List (Option Message)) (es : List (Event serverSig))
    (reader : Reader) (frame : Option Message) (later : List (Option Message))
    (cur : List (Event serverSig)) : Prop :=
  ∃ msgTx before, es = ⟨.node me (.openConnection conn), msgTx⟩ :: (before ++ cur) ∧
    Between X B me ⟨msgTx, none⟩ frames before reader (frame :: later)

/-- The last event of a connection opens it, closes it, or happens while it handles a frame. -/
theorem connection_last {conn : Nat} {frames : List (Option Message)}
    {es : List (Event serverSig)} {o : Op} {r : o.Res}
    {q : ServerProg (List (Option Message))}
    (h : (handleAgentConnection X B me conn frames).Path (es ++ [⟨o, r⟩]) q) :
    o = .node me (.openConnection conn) ∨ o = .node me (.closeConnection conn) ∨
    ∃ reader frame later cur p, Handling X B me conn frames es reader frame later cur ∧
      (handleFrame X B me reader frame).Path (cur ++ [⟨o, r⟩]) p ∧
      q = (p >>= resume X B me later) >>= finish me conn := by
  rw [handleAgentConnection_eq] at h
  rcases Prog.path_op_snoc_iff.mp h with ⟨-, msgTx, he, -⟩ | ⟨msgTx, es', rfl, h₁⟩
  · exact .inl (congrArg Sigma.fst he)
  rcases Prog.path_bind_snoc_iff.mp h₁ with ⟨p, hp, rfl⟩ | ⟨es₁, es₂, unread, -, -, h₂⟩
  · obtain ⟨before, cur, reader, frame, later, p', rfl, hbetween, hframe, rfl⟩ :=
      handleFrames_last hp
    exact .inr (.inr ⟨reader, frame, later, cur, p', ⟨msgTx, before, rfl, hbetween⟩, hframe, rfl⟩)
  · rcases Prog.path_op_snoc_iff.mp h₂ with ⟨-, _, he, -⟩ | ⟨_, _, -, h₃⟩
    · exact .inr (.inl (congrArg Sigma.fst he))
    · exact absurd h₃ Prog.not_path_ret_snoc

/-- The last operation of a connection opens it, closes it, or is one of the frame in hand. -/
theorem connection_op {conn : Nat} {frames : List (Option Message)} {es : List (Event serverSig)}
    {o : Op} {r : o.Res} {q : ServerProg (List (Option Message))}
    (h : (handleAgentConnection X B me conn frames).Path (es ++ [⟨o, r⟩]) q) :
    o = .node me (.openConnection conn) ∨ o = .node me (.closeConnection conn) ∨
    ∃ reader frame later cur, Handling X B me conn frames es reader frame later cur ∧
      FrameOp X me reader frame o := by
  rcases connection_last h with hopen | hclose |
    ⟨reader, frame, later, cur, p, hhandling, hframe, -⟩
  · exact .inl hopen
  · exact .inr (.inl hclose)
  · have hop := (hframe.issues (handleFrame_issues reader frame)).1
    exact .inr (.inr ⟨reader, frame, later, cur, hhandling, hop ⟨o, r⟩ (by simp)⟩)

/-- The critical sections that only a registered agent's messages lead to. -/
def ofAgent : NodeOp → Bool
  | .respond _ _ | .agentListening _ _ _ | .clientConnected _ => true
  | _ => false

/-- A message for one of these is handled with the agent id of the connection's last insertion. -/
theorem connection_ofAgent {conn : Nat} {frames : List (Option Message)}
    {es : List (Event serverSig)} {n : String} {o : NodeOp} {r : o.Res}
    {q : ServerProg (List (Option Message))} (ho : ofAgent o = true)
    (h : (handleAgentConnection X B me conn frames).Path (es ++ [⟨.node n o, r⟩]) q) :
    ∃ reader frame later cur, Handling X B me conn frames es reader frame later cur ∧
      FrameOp X me reader frame (.node n o) ∧ reader.agentId = lastInserted me es := by
  rcases connection_last h with hopen | hclose |
    ⟨reader, frame, later, cur, p, hhandling, hframe, -⟩
  · cases hopen
    cases ho
  · cases hclose
    cases ho
  · have hops := (hframe.issues (handleFrame_issues reader frame)).1
    have hop : FrameOp X me reader frame (.node n o) := hops ⟨.node n o, r⟩ (by simp)
    have hnoregister : isRegister frame = false := by
      rcases frame with _ | m
      · rfl
      cases m with
      | register =>
        rcases hop with heq | h
        · cases heq
        · cases h with
          | owner h => cases h
          | _ => cases ho
      | _ => rfl
    have hcur : lastInserted me cur = none := lastInserted_eq_none fun e he =>
      frameOp_insertedAgent e.2 (hops e (List.mem_append_left _ he)) hnoregister
    refine ⟨reader, frame, later, cur, hhandling, hop, ?_⟩
    obtain ⟨msgTx, before, rfl, hbetween⟩ := hhandling
    simp [hbetween.lastInserted, hcur, insertedAgent]

end Connection

end Jrok
