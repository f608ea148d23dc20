import Jrok.Agent.Frames

/-!
# The replies of a connection

What `handle_agent_connection` offers to the channel of its writer task, read off its events. Each
frame has at most one reply, and the replies come in the order of the frames.
-/

namespace Jrok

open Concurrency

namespace Connection

variable {X : Codec} {B : Backend} {me : String}

/-- The message that an event offers to a channel. -/
def offeredMessage : Event serverSig → Option Message
  | ⟨.node _ (.send _ m), _⟩ => some m
  | _ => none

/-- The messages that events offer to channels. -/
def replies (es : List (Event serverSig)) : List Message := es.filterMap offeredMessage

@[simp] theorem replies_nil : replies [] = [] := rfl

@[simp] theorem replies_append (es es' : List (Event serverSig)) :
    replies (es ++ es') = replies es ++ replies es' := by simp [replies]

@[simp] theorem replies_send (n : String) (ch : Nat) (m : Message) (r : Bool)
    (es : List (Event serverSig)) :
    replies (⟨.node n (.send ch m), r⟩ :: es) = m :: replies es := by
  simp [replies, offeredMessage]

theorem replies_eq_nil {es : List (Event serverSig)}
    (h : ∀ e ∈ es, offeredMessage e = none) : replies es = [] :=
  List.filterMap_eq_nil_iff.mpr h

/-- A frame that a connection, registered or not, does not reply to. -/
def IsSilent (registered : Bool) : Option Message → Prop
  | some (.register ..) => False
  | some (.tcpConnect ..) | some (.tcpDisconnect ..) => registered = false
  | _ => True

/-- The replies to the frames that a connection has read: a `Register` is welcomed, or refused as the
    last thing that happens; of the other messages only `TcpConnect` and `TcpDisconnect` have a
    reply, their own text, and only once an agent is registered. -/
inductive Answered : Bool → List (Option Message) → List Message → Prop where
  | nil (registered : Bool) : Answered registered [] []
  | welcome {registered : Bool} {frames : List (Option Message)} {ms : List Message}
      (subdomain : String) (localPort : UInt16) (localHost protocol apiKey agentId : String)
      (hrest : Answered true frames ms) :
    Answered registered (some (.register subdomain localPort localHost protocol apiKey) :: frames)
      (.welcome agentId subdomain protocol :: ms)
  | refused (registered : Bool) (subdomain : String) (localPort : UInt16)
      (localHost protocol apiKey text : String) :
    Answered registered [some (.register subdomain localPort localHost protocol apiKey)]
      [.error text]
  | connect {frames : List (Option Message)} {ms : List Message} (connectionId clientIp : String)
      (hrest : Answered true frames ms) :
    Answered true (some (.tcpConnect connectionId clientIp) :: frames)
      (.tcpConnect connectionId clientIp :: ms)
  | disconnect {frames : List (Option Message)} {ms : List Message} (connectionId : String)
      (hrest : Answered true frames ms) :
    Answered true (some (.tcpDisconnect connectionId) :: frames)
      (.tcpDisconnect connectionId :: ms)
  | silent {registered : Bool} {frame : Option Message} {frames : List (Option Message)}
      {ms : List Message} (hframe : IsSilent registered frame)
      (hrest : Answered registered frames ms) :
    Answered registered (frame :: frames) ms

/-- Only these four kinds of messages are ever replies. -/
theorem Answered.kinds {registered : Bool} {frames : List (Option Message)} {ms : List Message}
    (h : Answered registered frames ms) {m : Message} (hm : m ∈ ms) :
    (∃ agentId subdomain protocol, m = .welcome agentId subdomain protocol) ∨
    (∃ text, m = .error text) ∨
    (∃ connectionId clientIp, m = .tcpConnect connectionId clientIp) ∨
    (∃ connectionId, m = .tcpDisconnect connectionId) := by
  induction h with
  | nil => simp at hm
  | welcome subdomain localPort localHost protocol apiKey agentId hrest ih =>
    rcases List.mem_cons.mp hm with rfl | hm
    · exact .inl ⟨_, _, _, rfl⟩
    · exact ih hm
  | refused =>
    obtain rfl := List.mem_singleton.mp hm
    exact .inr (.inl ⟨_, rfl⟩)
  | connect connectionId clientIp hrest ih =>
    rcases List.mem_cons.mp hm with rfl | hm
    · exact .inr (.inr (.inl ⟨_, _, rfl⟩))
    · exact ih hm
  | disconnect connectionId hrest ih =>
    rcases List.mem_cons.mp hm with rfl | hm
    · exact .inr (.inr (.inr ⟨_, rfl⟩))
    · exact ih hm
  | silent hframe hrest ih => exact ih hm

/-- Nothing is offered while an agent is being registered. -/
theorem replies_register {subdomain : String} {localPort : UInt16} {localHost : String}
    {protocol : Protocol} {es : List (Event serverSig)}
    {q : ServerProg (Except Error (String × Nat))}
    (h : (AgentRegistry.register B me subdomain localPort localHost protocol).Path es q) :
    replies es = [] := by
  have hissues : (AgentRegistry.register B me subdomain localPort localHost protocol).Issues
      fun o : Op => ∀ r, offeredMessage ⟨o, r⟩ = none := by
    rw [AgentRegistry.register_eq]
    refine ⟨fun _ => rfl, fun agentId => ⟨fun _ => rfl, fun token => ⟨fun _ => rfl, fun tx => ?_⟩⟩⟩
    refine Prog.Issues.bind ?_ fun result => ⟨fun _ => rfl, fun _ => trivial⟩
    refine (AgentRegistry.registerWith_issues B me agentId token tx subdomain localPort localHost
      protocol).mono fun o ho => ?_
    cases ho with
    | owner h => cases h <;> exact fun _ => rfl
    | _ => exact fun _ => rfl
  exact replies_eq_nil fun e he => (h.issues hissues).1 e he e.2

/-- One reply, and then the frame is done. -/
theorem path_reply {α : Type} {ch : Nat} {m : Message} {a : α} {es : List (Event serverSig)}
    {q : ServerProg α}
    (h : (Prog.op (.node me (.send ch m)) fun _ => .ret a : ServerProg α).Path es q) :
    (replies es = [] ∧ ∀ b, q ≠ .ret b) ∨ (replies es = [m] ∧ q = .ret a) := by
  rcases Prog.path_op_iff.mp h with ⟨rfl, rfl⟩ | ⟨sent, rest, rfl, hrest⟩
  · exact .inl ⟨rfl, nofun⟩
  · obtain ⟨rfl, rfl⟩ := Prog.path_ret_iff.mp hrest
    exact .inr ⟨rfl, rfl⟩

/-- The replies to the frame in hand: it may not have its reply yet, and has it once it is done. -/
structure FrameAnswered (reader : Reader) (frame : Option Message) (ms : List Message)
    (q : ServerProg (Option Reader)) : Prop where
  inHand : ms = [] ∨ Answered reader.agentId.isSome [frame] ms
  last : q = .ret none → Answered reader.agentId.isSome [frame] ms
  next : ∀ reader', q = .ret (some reader') → ∀ frames ms', Answered reader'.agentId.isSome frames ms' →
    Answered reader.agentId.isSome (frame :: frames) (ms ++ ms')

theorem FrameAnswered.of_unanswered {reader : Reader} {frame : Option Message}
    {q : ServerProg (Option Reader)} (hq : ∀ next, q ≠ .ret next) :
    FrameAnswered reader frame [] q :=
  ⟨.inl rfl, fun heq => absurd heq (hq _), fun _ heq => absurd heq (hq _)⟩

theorem register_answered {reader : Reader} {subdomain : String} {localPort : UInt16}
    {localHost protocol apiKey : String} {es : List (Event serverSig)}
    {q : ServerProg (Option Reader)}
    (h : (handleRegister X B me reader subdomain localPort localHost protocol apiKey).Path es q) :
    FrameAnswered reader (some (.register subdomain localPort localHost protocol apiKey))
      (replies es) q := by
  have hrefused : ∀ {text : String} {es : List (Event serverSig)} {q : ServerProg (Option Reader)},
      (Prog.op (.node me (.send reader.msgTx (.error text))) fun _ => .ret none :
        ServerProg (Option Reader)).Path es q →
      FrameAnswered reader (some (.register subdomain localPort localHost protocol apiKey))
        (replies es) q := by
    intro text es q h
    have hanswer := Answered.refused reader.agentId.isSome subdomain localPort localHost protocol
      apiKey text
    rcases path_reply h with ⟨hes, hq⟩ | ⟨hes, rfl⟩ <;> rw [hes]
    · exact .of_unanswered hq
    · exact ⟨.inr hanswer, fun _ => hanswer, nofun⟩
  rw [handleRegister_eq] at h
  rcases Prog.path_op_iff.mp h with ⟨rfl, rfl⟩ | ⟨valid, rest, rfl, hrest⟩
  · exact .of_unanswered nofun
  show FrameAnswered reader _ (replies rest) q
  rcases valid with e | _ | i
  · exact hrefused hrest
  · exact hrefused hrest
  rcases Prog.path_bind_iff.mp hrest with ⟨p, hp, rfl⟩ | ⟨es₁, es₂, result, rfl, hp, hlast⟩
  · rw [replies_register hp]
    refine .of_unanswered fun next => ?_
    rcases p with ⟨_ | _⟩ | _ <;> exact nofun
  · rw [replies_append, replies_register hp, List.nil_append]
    rcases result with e | ⟨id, tx⟩
    · exact hrefused hlast
    · rcases path_reply hlast with ⟨hes, hq⟩ | ⟨hes, rfl⟩ <;> rw [hes]
      · exact .of_unanswered hq
      · refine ⟨.inr (.welcome _ _ _ _ _ _ (.nil _)), nofun, fun reader' heq frames ms h => ?_⟩
        obtain rfl := Option.some.inj (Prog.ret.inj heq)
        exact .welcome _ _ _ _ _ _ h

/-- A frame without a reply leads to no offer. -/
theorem frameOp_silent {reader : Reader} {frame : Option Message} {o : Op} (r : o.Res)
    (hframe : IsSilent reader.agentId.isSome frame) (h : FrameOp X me reader frame o) :
    offeredMessage ⟨o, r⟩ = none := by
  rcases frame with _ | m
  · exact h.elim
  cases m with
  | register => exact hframe.elim
  | heartbeat =>
    obtain ⟨id, -, rfl | rfl | ⟨now, rfl⟩⟩ := h <;> rfl
  | tcpConnect | tcpDisconnect =>
    obtain ⟨hid, -⟩ := h
    exact absurd (hid.symm.trans hframe) nofun
  | httpResponse | tcpListenResponse | connectionEstablished =>
    obtain ⟨-, rfl⟩ := h
    rfl
  | _ => exact h.elim

/-- A silent frame leaves the reader as it was. -/
theorem silent_answered {reader : Reader} {frame : Option Message} {es : List (Event serverSig)}
    {q : ServerProg (Option Reader)} (hframe : IsSilent reader.agentId.isSome frame)
    (h : (handleFrame X B me reader frame).Path es q) :
    FrameAnswered reader frame (replies es) q := by
  have hes : replies es = [] := replies_eq_nil fun e he =>
    frameOp_silent e.2 hframe ((h.issues (handleFrame_issues reader frame)).1 e he)
  rw [hes]
  refine ⟨.inl rfl, fun hq => ?_, fun reader' hq frames ms hrest => .silent hframe ?_⟩
  · subst hq
    rcases handleFrame_ret h with heq | ⟨_, _, _, _, _, rfl, -⟩
    · cases heq
    · exact hframe.elim
  · subst hq
    rcases handleFrame_ret h with heq | ⟨_, _, _, _, _, rfl, -⟩
    · obtain rfl := Option.some.inj heq
      exact hrest
    · exact hframe.elim

/-- A registered connection gives back the message of the frame. -/
theorem echo_answered {reader : Reader} {id : String} {frame : Option Message} {m : Message}
    {es : List (Event serverSig)} {q : ServerProg (Option Reader)} (hid : reader.agentId = some id)
    (hanswer : ∀ frames ms, Answered true frames ms → Answered true (frame :: frames) (m :: ms))
    (h : (ifRegistered reader fun _ => reply me reader m).Path es q) :
    FrameAnswered reader frame (replies es) q := by
  rw [ifRegistered_eq, hid] at h
  rcases path_reply h with ⟨hes, hq⟩ | ⟨hes, rfl⟩ <;> rw [hes]
  · exact .of_unanswered hq
  · refine ⟨.inr ?_, nofun, fun reader' heq frames ms hrest => ?_⟩
    · rw [hid]
      exact hanswer _ _ (.nil _)
    · obtain rfl := Option.some.inj (Prog.ret.inj heq)
      rw [hid] at hrest ⊢
      exact hanswer frames ms hrest

theorem handleFrame_answered {reader : Reader} {frame : Option Message}
    {es : List (Event serverSig)} {q : ServerProg (Option Reader)}
    (h : (handleFrame X B me reader frame).Path es q) :
    FrameAnswered reader frame (replies es) q := by
  rcases frame with _ | m
  · exact silent_answered trivial h
  cases m with
  | register => exact register_answered h
  | tcpConnect connectionId clientIp =>
    cases hid : reader.agentId with
    | none => exact silent_answered (by simp [IsSilent, hid]) h
    | some id => exact echo_answered hid (fun _ _ => .connect connectionId clientIp) h
  | tcpDisconnect connectionId =>
    cases hid : reader.agentId with
    | none => exact silent_answered (by simp [IsSilent, hid]) h
    | some id => exact echo_answered hid (fun _ _ => .disconnect connectionId) h
  | _ => exact silent_answered trivial h

variable (X B me) in
/-- The frames that a loop has read, by its events. The one in hand may be counted or not. -/
inductive Progress : Reader → List (Option Message) → List (Event serverSig) →
    List (Option Message) → Prop where
  | here (reader : Reader) (frames : List (Option Message)) : Progress reader frames [] []
  | inHand {reader : Reader} {frame : Option Message} {es : List (Event serverSig)}
      {p : ServerProg (Option Reader)} (frames : List (Option Message))
      (hframe : (handleFrame X B me reader frame).Path es p) (hp : ∀ next, p ≠ .ret next) :
      Progress reader (frame :: frames) es []
  | last {reader : Reader} {frame : Option Message} {es : List (Event serverSig)}
      {p : ServerProg (Option Reader)} (frames : List (Option Message))
      (hframe : (handleFrame X B me reader frame).Path es p) :
      Progress reader (frame :: frames) es [frame]
  | next {reader reader' : Reader} {frame : Option Message} {frames read : List (Option Message)}
      {es es' : List (Event serverSig)}
      (hframe : (handleFrame X B me reader frame).Path es (.ret (some reader')))
      (hrest : Progress reader' frames es' read) :
      Progress reader (frame :: frames) (es ++ es') (frame :: read)

/-- A loop answers what it reads, and leaves the rest. -/
theorem handleFrames_answered {reader : Reader} {frames : List (Option Message)}
    {es : List (Event serverSig)} {q : ServerProg (List (Option Message))}
    (h : (handleFrames X B me reader frames).Path es q) :
    ∃ read, Progress X B me reader frames es read ∧
      Answered reader.agentId.isSome read (replies es) ∧
      ∀ unread, q = .ret unread → frames = read ++ unread := by
  induction frames generalizing reader es with
  | nil =>
    obtain ⟨rfl, rfl⟩ := Prog.path_ret_iff.mp h
    exact ⟨[], .here _ _, .nil _, fun unread heq => (Prog.ret.inj heq)⟩
  | cons frame frames ih =>
    -- the frame is done, and the loop ends or goes on
    have hdone : ∀ {es₁ es₂ : List (Event serverSig)} {next : Option Reader},
        (handleFrame X B me reader frame).Path es₁ (.ret next) →
        (resume X B me frames next).Path es₂ q →
        ∃ read, Progress X B me reader (frame :: frames) (es₁ ++ es₂) read ∧
          Answered reader.agentId.isSome read (replies (es₁ ++ es₂)) ∧
          ∀ unread, q = .ret unread → frame :: frames = read ++ unread := by
      intro es₁ es₂ next hp hrest
      have hframe := handleFrame_answered hp
      rw [replies_append]
      cases next with
      | none =>
        obtain ⟨rfl, rfl⟩ := Prog.path_ret_iff.mp hrest
        rw [replies_nil, List.append_nil, List.append_nil]
        exact ⟨[frame], .last frames hp, hframe.last rfl, fun unread heq => by
          rw [← Prog.ret.inj heq]; rfl⟩
      | some reader' =>
        obtain ⟨read, hprogress, hanswered, hunread⟩ := ih hrest
        exact ⟨frame :: read, .next hp hprogress, hframe.next reader' rfl read _ hanswered,
          fun unread heq => congrArg (frame :: ·) (hunread unread heq)⟩
    rw [handleFrames_cons] at h
    rcases Prog.path_bind_iff.mp h with ⟨p, hp, hq⟩ | ⟨es₁, es₂, next, rfl, hp, hrest⟩
    · rcases p with next | ⟨o, k⟩
      · rw [← List.append_nil es]
        exact hdone hp (Prog.path_nil_iff.mpr hq)
      · have hwaits : ∀ unread, q = .ret unread → False := by
          rintro unread rfl
          cases hq
        rcases (handleFrame_answered hp).inHand with hnone | hone
        · rw [hnone]
          exact ⟨[], .inHand frames hp nofun, .nil _, fun unread heq => (hwaits unread heq).elim⟩
        · exact ⟨[frame], .last frames hp, hone, fun unread heq => (hwaits unread heq).elim⟩
    · exact hdone hp hrest

variable (X B me) in
/-- The frames that a connection has read, by its events. -/
inductive Reads (conn : Nat) (frames : List (Option Message)) : List (Event serverSig) →
    List (Option Message) → Prop where
  | unopened : Reads conn frames [] []
  | opened {es closing : List (Event serverSig)} {read : List (Option Message)} (msgTx : Nat)
      (hloop : Progress X B me ⟨msgTx, none⟩ frames es read)
      (hclosing : ∀ e ∈ closing, e.1 = .node me (.closeConnection conn)) :
      Reads conn frames (⟨.node me (.openConnection conn), msgTx⟩ :: (es ++ closing)) read

/-- Whatever a connection has offered so far answers what it has read; when it returns, this is all
    but what it leaves. -/
theorem connection_answered {conn : Nat} {frames : List (Option Message)}
    {es : List (Event serverSig)} {q : ServerProg (List (Option Message))}
    (h : (handleAgentConnection X B me conn frames).Path es q) :
    ∃ read, Reads X B me conn frames es read ∧ Answered false read (replies es) ∧
      ∀ unread, q = .ret unread → frames = read ++ unread := by
  rw [handleAgentConnection_eq] at h
  rcases Prog.path_op_iff.mp h with ⟨rfl, rfl⟩ | ⟨msgTx, rest, rfl, hrest⟩
  · exact ⟨[], .unopened, .nil _, nofun⟩
  show ∃ read, _ ∧ Answered false read (replies rest) ∧ _
  rcases Prog.path_bind_iff.mp hrest with ⟨p, hp, rfl⟩ | ⟨es₁, es₂, unread, rfl, hp, hlast⟩
  · obtain ⟨read, hprogress, hanswered, -⟩ := handleFrames_answered hp
    refine ⟨read, ?_, hanswered, ?_⟩
    · rw [← List.append_nil rest]
      exact .opened msgTx hprogress (by simp)
    · intro unread heq
      cases p <;> cases heq
  · obtain ⟨read, hprogress, hanswered, hunread⟩ := handleFrames_answered hp
    rcases Prog.path_op_iff.mp hlast with ⟨rfl, rfl⟩ | ⟨r, _, rfl, hret⟩
    · rw [List.append_nil]
      refine ⟨read, ?_, hanswered, nofun⟩
      rw [← List.append_nil es₁]
      exact .opened msgTx hprogress (by simp)
    · obtain ⟨rfl, rfl⟩ := Prog.path_ret_iff.mp hret
      refine ⟨read, .opened msgTx hprogress (by simp), ?_, fun unread' heq => ?_⟩
      · rw [replies_append]
        show Answered false read (replies es₁ ++ [])
        rwa [List.append_nil]
      · rw [← Prog.ret.inj heq]
        exact hunread unread rfl

/-! ## Where the channels of a connection come from -/

/-- The channel of a reply is the one that the connection has been opened with. -/
theorem connection_send {conn : Nat} {frames : List (Option Message)}
    {es : List (Event serverSig)} {n : String} {ch : Nat} {m : Message} {r : Bool}
    {q : ServerProg (List (Option Message))}
    (h : (handleAgentConnection X B me conn frames).Path (es ++ [⟨.node n (.send ch m), r⟩]) q) :
    n = me ∧ ∃ rest, es = ⟨.node me (.openConnection conn), ch⟩ :: rest := by
  rcases connection_op h with hopen | hclose |
    ⟨reader, frame, later, cur, ⟨msgTx, before, rfl, hbetween⟩, hop⟩
  · cases hopen
  · cases hclose
  · have hn := (frameOp_node hop).1
    have htx := hbetween.agentId.1
    refine ⟨hn, before ++ cur, ?_⟩
    have hch : ch = reader.msgTx := by
      rcases frame with _ | m'
      · exact hop.elim
      cases m' with
      | register =>
        rcases hop with heq | hop
        · cases heq
        · cases hop with
          | owner h => cases h
          | send => rfl
      | heartbeat => obtain ⟨id, -, heq | heq | ⟨now, heq⟩⟩ := hop <;> cases heq
      | tcpConnect | tcpDisconnect =>
        obtain ⟨-, heq⟩ := hop
        cases heq
        rfl
      | httpResponse | tcpListenResponse | connectionEstablished =>
        obtain ⟨-, heq⟩ := hop
        cases heq
      | _ => exact hop.elim
    rw [hch, htx]

/-- The channel of an insertion, and the one whose receiver is dropped, were made before. -/
theorem register_channel {subdomain : String} {localPort : UInt16} {localHost : String}
    {protocol : Protocol} {es : List (Event serverSig)} {n : String} {o : NodeOp} {r : o.Res}
    {q : ServerProg (Except Error (String × Nat))}
    (h : (AgentRegistry.register B me subdomain localPort localHost protocol).Path
      (es ++ [⟨.node n o, r⟩]) q) :
    o = .channel ∨ ∃ tx, (⟨.node me .channel, tx⟩ : Event serverSig) ∈ es ∧
      ((∃ id st, o = .agentsInsert id st ∧ st.tx = tx) ∨ o = .dropReceiver tx) := by
  rw [AgentRegistry.register_eq] at h
  rcases Prog.path_op_snoc_iff.mp h with ⟨-, _, he, -⟩ | ⟨agentId, es₁, rfl, h₁⟩
  · cases congrArg Sigma.fst he
  rcases Prog.path_op_snoc_iff.mp h₁ with ⟨-, _, he, -⟩ | ⟨token, es₂, rfl, h₂⟩
  · cases congrArg Sigma.fst he
  rcases Prog.path_op_snoc_iff.mp h₂ with ⟨-, _, he, -⟩ | ⟨tx, es₃, rfl, h₃⟩
  · cases congrArg Sigma.fst he
    exact .inl rfl
  refine .inr ⟨tx, by simp, ?_⟩
  rcases Prog.path_bind_snoc_iff.mp h₃ with ⟨p, hp, -⟩ | ⟨es₄, es₅, result, -, -, hlast⟩
  · have hop := (hp.issues (AgentRegistry.registerWith_issues B me agentId token tx subdomain
      localPort localHost protocol)).1 ⟨.node n o, r⟩ (by simp)
    cases hop with
    | owner h => cases h
    | insert _ id st htx => exact .inl ⟨id, st, rfl, htx⟩
  · rcases Prog.path_op_snoc_iff.mp hlast with ⟨-, _, he, -⟩ | ⟨_, _, -, hret⟩
    · cases congrArg Sigma.fst he
      exact .inr rfl
    · exact absurd hret Prog.not_path_ret_snoc

/-- A connection inserts an entry only with a channel that it has made for it, and drops only the
    receivers of such channels. -/
theorem connection_channel {conn : Nat} {frames : List (Option Message)}
    {es : List (Event serverSig)} {n : String} {o : NodeOp} {r : o.Res} {tx : Nat}
    {q : ServerProg (List (Option Message))}
    (ho : (∃ id st, o = .agentsInsert id st ∧ st.tx = tx) ∨ o = .dropReceiver tx)
    (h : (handleAgentConnection X B me conn frames).Path (es ++ [⟨.node n o, r⟩]) q) :
    n = me ∧ (⟨.node me .channel, tx⟩ : Event serverSig) ∈ es := by
  rcases connection_last h with hopen | hclose |
    ⟨reader, frame, later, cur, p, ⟨msgTx, before, rfl, -⟩, hframe, -⟩
  · rcases ho with ⟨id, st, rfl, -⟩ | rfl <;> cases hopen
  · rcases ho with ⟨id, st, rfl, -⟩ | rfl <;> cases hclose
  have hop := (hframe.issues (handleFrame_issues reader frame)).1 ⟨.node n o, r⟩ (by simp)
  refine ⟨(frameOp_node hop).1, ?_⟩
  rcases frame with _ | m
  · exact hop.elim
  cases m with
  | register subdomain localPort localHost protocol apiKey =>
    rw [handleFrame, handleRegister_eq] at hframe
    have hlast : ∀ {m : Message} {v : Option Reader} {es : List (Event serverSig)},
        ¬ (Prog.op (.node me (.send reader.msgTx m)) fun _ => .ret v :
          ServerProg (Option Reader)).Path (es ++ [⟨.node n o, r⟩]) p := by
      intro m v es h
      rcases Prog.path_op_snoc_iff.mp h with ⟨-, _, he, -⟩ | ⟨_, _, -, hret⟩
      · rcases ho with ⟨id, st, rfl, -⟩ | rfl <;> cases congrArg Sigma.fst he
      · exact absurd hret Prog.not_path_ret_snoc
    rcases Prog.path_op_snoc_iff.mp hframe with ⟨-, _, he, -⟩ | ⟨valid, rest, rfl, hrest⟩
    · cases congrArg Sigma.fst he
    rcases valid with e | _ | i
    · exact absurd hrest hlast
    · exact absurd hrest hlast
    rcases Prog.path_bind_snoc_iff.mp hrest with ⟨p', hp, -⟩ | ⟨es₁, es₂, result, -, -, hsend⟩
    · rcases register_channel hp with rfl | ⟨tx', hmade, hkind⟩
      · rcases ho with ⟨id, st, heq, -⟩ | heq <;> cases heq
      · have htx : tx' = tx := by
          rcases ho with ⟨id, st, rfl, hst⟩ | rfl <;> rcases hkind with ⟨_, _, heq, hst'⟩ | heq <;>
            cases heq
          · exact hst'.symm.trans hst
          · rfl
        subst htx
        simp [hmade]
    · rcases result with e | ⟨id, tx'⟩
      · exact absurd hsend hlast
      · exact absurd hsend hlast
  | heartbeat =>
    obtain ⟨id, -, heq | heq | ⟨now, heq⟩⟩ := hop <;>
      rcases ho with ⟨_, _, rfl, -⟩ | rfl <;> cases heq
  | httpResponse | tcpConnect | tcpDisconnect | tcpListenResponse | connectionEstablished =>
    obtain ⟨-, heq⟩ := hop
    rcases ho with ⟨_, _, rfl, -⟩ | rfl <;> cases heq
  | _ => exact hop.elim

end Connection

end Jrok
