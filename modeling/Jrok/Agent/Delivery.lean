import Jrok.Agent.Connection

/-!
# Delivery to agents

The channel that `register` stores in the registry and the channel that the writer task of the
connection drains are two different ones: `handle_agent_connection` ignores the sender that
`register` returns. No entry of the map ever leads to the queue of a connection, whatever the
interleaving of connections, writers and senders.
-/

namespace Jrok

open Concurrency

namespace Connection

/-- The channel exists and no writer drains it. -/
structure Undrained (ch : Nat) (n : Node) : Prop where
  lt : ch < n.nextChan
  ne : ∀ k, n.writer k ≠ some ch

/-- No entry of the map has the channel of a writer. -/
structure ChannelInv (n : Node) : Prop where
  entry : ∀ id st, n.agents.lookup id = some st → Undrained st.tx n
  writer : ∀ k ch, n.writer k = some ch → ch < n.nextChan

/-- Channels are numbered upwards, and a writer gets a new one. -/
structure Grows (n n' : Node) : Prop where
  nextChan : n.nextChan ≤ n'.nextChan
  writer : ∀ k ch, n'.writer k = some ch → n.writer k = some ch ∨ n.nextChan ≤ ch

theorem Grows.refl (n : Node) : Grows n n := ⟨le_refl _, fun _ _ hk => .inl hk⟩

theorem Grows.trans {n₁ n₂ n₃ : Node} (h₁ : Grows n₁ n₂) (h₂ : Grows n₂ n₃) : Grows n₁ n₃ where
  nextChan := le_trans h₁.nextChan h₂.nextChan
  writer k ch hk := by
    rcases h₂.writer k ch hk with hold | hnew
    · exact h₁.writer k ch hold
    · exact .inr (le_trans h₁.nextChan hnew)

theorem Undrained.mono {ch : Nat} {n n' : Node} (h : Undrained ch n) (hg : Grows n n') :
    Undrained ch n' where
  lt := lt_of_lt_of_le h.lt hg.nextChan
  ne k hk := by
    rcases hg.writer k ch hk with hold | hnew
    · exact h.ne k hold
    · exact absurd h.lt (not_lt.mpr hnew)

/-- Entries are inserted only with channels that satisfy `P`. -/
def InsertsOnly (me : String) (P : Nat → Prop) : Op → Prop
  | .node n (.agentsInsert _ st) => n = me → P st.tx
  | _ => True

section Steps

variable {B : Backend} {faulty : Bool} {me : String}

/-- An operation that inserts only undrained channels keeps the invariant. -/
theorem ChannelInv.step {c : Choice} {o : Op} {r : o.Res} {w w' : World}
    (hI : ChannelInv (w.node me)) (ho : InsertsOnly me (fun ch => Undrained ch (w.node me)) o)
    (h : World.handler B faulty c o w = some (r, w')) :
    ChannelInv (w'.node me) ∧ Grows (w.node me) (w'.node me) := by
  obtain ⟨hnext, hwriter⟩ := World.handler_writer h me
  have hgrows : Grows (w.node me) (w'.node me) := by
    refine ⟨hnext, fun k ch hk => (hwriter k ch hk).imp_right fun hnew => ?_⟩
    exact le_of_eq hnew.1.symm
  refine ⟨⟨fun id st hst => ?_, fun k ch hk => ?_⟩, hgrows⟩
  · refine Undrained.mono ?_ hgrows
    rcases World.agents_cases h me with ⟨id', st', rfl, hmap⟩ | ⟨id', rfl, hmap⟩ | ⟨-, -, hmap⟩
    · rw [hmap] at hst
      by_cases hid : id = id'
      · subst hid
        obtain rfl : st' = st := by simpa using hst
        exact ho rfl
      · rw [AList.lookup_insert_ne hid] at hst
        exact hI.entry id st hst
    · rw [hmap] at hst
      by_cases hid : id = id'
      · subst hid
        simp at hst
      · rw [AList.lookup_erase_ne hid] at hst
        exact hI.entry id st hst
    · rw [hmap] at hst
      exact hI.entry id st hst
  · rcases hwriter k ch hk with hold | ⟨-, hnew⟩
    · exact lt_of_lt_of_le (hI.writer k ch hold) hnext
    · exact hnew

/-- Correct under the interference of the other jobs. -/
abbrev SafeJob {α : Type} (B : Backend) (faulty : Bool) (me : String) (p : ServerProg α) : Prop :=
  p.Safe (World.handler B faulty) (fun w => ChannelInv (w.node me))
    (fun w w' => Grows (w.node me) (w'.node me)) (fun w w' => Grows (w.node me) (w'.node me))

/-- A program that inserts nothing is safe. -/
theorem safe_of_issues {α : Type} {p : ServerProg α}
    (hp : p.Issues (InsertsOnly me fun _ => False)) : SafeJob B faulty me p := by
  intro w
  refine hp.wp fun c o w₁ r w₂ ho hI hop => hI.step ?_ hop
  cases o with
  | node n o =>
    cases o with
    | agentsInsert id st => exact fun hn => (ho hn).elim
    | _ => trivial
  | _ => trivial

theorem insertsOnly_of_upkeep {P : Nat → Prop} {o : Op} (ho : AgentRegistry.UpkeepOp o) :
    InsertsOnly me P o := by
  cases ho <;> trivial

theorem insertsOnly_of_register {P : Nat → Prop} {tx : Nat} {o : Op} (htx : P tx)
    (ho : AgentRegistry.RegisterOp tx o) : InsertsOnly me P o := by
  cases ho with
  | owner h => cases h <;> trivial
  | insert n id st h => exact fun _ => h ▸ htx
  | _ => trivial

/-- A registration inserts its own channel, which no writer ever gets. -/
theorem safe_register (subdomain : String) (localPort : UInt16) (localHost : String)
    (protocol : Protocol) :
    SafeJob B faulty me
      (AgentRegistry.register B me subdomain localPort localHost protocol) := by
  intro w
  simp only [AgentRegistry.register_eq, Prog.wp_op]
  intro w₁ _ hI₁ c agentId w₂ hid
  obtain ⟨hI₂, hG₂⟩ := hI₁.step (o := .uuid) trivial hid
  refine ⟨hI₂, hG₂, fun w₃ _ hI₃ c token w₄ htoken => ?_⟩
  obtain ⟨hI₄, hG₄⟩ := hI₃.step (o := .uuid) trivial htoken
  refine ⟨hI₄, hG₄, fun w₅ _ hI₅ c tx w₆ hchan => ?_⟩
  obtain ⟨hI₆, hG₆⟩ := hI₅.step (o := .node me .channel) trivial hchan
  have htx : Undrained tx (w₆.node me) := by
    obtain ⟨n', hn', rfl⟩ := World.exec_node.mp hchan
    cases c <;> simp only [NodeOp.exec, reduceCtorEq, Option.some.injEq, Prod.mk.injEq] at hn'
    obtain ⟨rfl, rfl⟩ := hn'
    rw [World.setNode_node_self]
    exact ⟨Nat.lt_succ_self _, fun k hk => lt_irrefl _ (hI₅.writer k _ hk)⟩
  have hwith := (AgentRegistry.registerWith_issues B me agentId token tx subdomain localPort
    localHost protocol).wp_assuming (h := World.handler B faulty)
      (I := fun w => ChannelInv (w.node me)) (A := fun w => Undrained tx (w.node me))
      (R := fun w w' => Grows (w.node me) (w'.node me))
      (G := fun w w' => Grows (w.node me) (w'.node me))
      (fun _ _ hA hR => hA.mono hR) (fun _ _ hA hG => hA.mono hG)
      (fun c o w r w' ho hI hA hop => hI.step (insertsOnly_of_register hA ho) hop) htx
  refine ⟨hI₆, hG₆, Prog.wp_bind.mpr (Prog.wp_mono (fun result w₇ _ => ?_) hwith)⟩
  exact safe_of_issues (p := .op (.node me (.dropReceiver tx)) fun _ => .ret result)
    ⟨trivial, fun _ => trivial⟩ w₇

theorem safe_critical {o : NodeOp} (ho : InsertsOnly me (fun _ => False) (.node me o)) :
    SafeJob B faulty me (critical me o) :=
  safe_of_issues ⟨ho, fun _ => trivial⟩

theorem safe_registryCall (call : AgentRegistry.RegistryCall) :
    SafeJob B faulty me (call.run B me) := by
  cases call with
  | register subdomain localPort localHost protocol =>
    exact (safe_register subdomain localPort localHost protocol).bind fun _ => Prog.safe_ret _
  | updateHeartbeat id =>
    exact safe_of_issues ((AgentRegistry.updateHeartbeat_issues me id).mono
      fun _ => insertsOnly_of_upkeep)
  | unregister id =>
    exact safe_of_issues ((AgentRegistry.unregister_issues me id).mono
      fun _ => insertsOnly_of_upkeep)
  | cleanupStale timeoutMs =>
    exact safe_of_issues ((AgentRegistry.cleanupStale_issues me timeoutMs).mono
      fun _ => insertsOnly_of_upkeep)

theorem safe_sendMessage (agentId : String) (message : Message) :
    SafeJob B faulty me (AgentRegistry.sendMessage me agentId message).run := by
  rw [AgentRegistry.sendMessage_eq]
  refine safe_of_issues ⟨trivial, fun r => ?_⟩
  rcases r with _ | _ | _ <;> trivial

variable {X : Codec}

theorem safe_handleResponse (requestId : String) (status : UInt16) (headers : StringMap String)
    (body : Option String) :
    SafeJob B faulty me
      (AgentRegistry.handleResponse me X requestId status headers body) :=
  (safe_critical (by trivial)).bind fun _ => Prog.safe_ret _

theorem safe_reply (reader : Reader) (m : Message) :
    SafeJob B faulty me (reply me reader m) :=
  (safe_critical (by trivial)).bind fun _ => Prog.safe_ret _

theorem safe_ifRegistered {reader : Reader} {f : String → ServerProg Unit}
    (hf : ∀ id, SafeJob B faulty me (f id)) : SafeJob B faulty me (ifRegistered reader f) := by
  unfold ifRegistered
  cases reader.agentId with
  | none => exact Prog.safe_ret _
  | some id => exact (hf id).bind fun _ => Prog.safe_ret _

theorem safe_handleRegister (reader : Reader) (subdomain : String) (localPort : UInt16)
    (localHost protocol apiKey : String) :
    SafeJob B faulty me
      (handleRegister X B me reader subdomain localPort localHost protocol apiKey) := by
  have hvalidate : SafeJob B faulty me (Db.validateApiKey X apiKey).run := by
    rw [Db.run_validateApiKey]
    exact safe_of_issues ⟨trivial, fun _ => trivial⟩
  have hrefuse : ∀ m, SafeJob B faulty me (reply me reader m >>= fun _ => pure none) :=
    fun m => (safe_reply reader m).bind fun _ => Prog.safe_ret (none : Option Reader)
  apply hvalidate.bind
  intro valid
  rcases valid with e | _ | _
  · exact hrefuse _
  · exact hrefuse _
  · apply (safe_register subdomain localPort localHost _).bind
    intro result
    cases result with
    | ok agent => exact (safe_reply reader _).bind fun _ => Prog.safe_ret _
    | error e => exact hrefuse _

/-- Whatever frame arrives, its handling is safe. -/
theorem safe_handleFrame (reader : Reader) (frame : Option Message) :
    SafeJob B faulty me (handleFrame X B me reader frame) := by
  cases frame with
  | none => exact Prog.safe_ret _
  | some m =>
    cases m with
    | register subdomain localPort localHost protocol apiKey =>
      exact safe_handleRegister reader subdomain localPort localHost protocol apiKey
    | heartbeat =>
      exact safe_ifRegistered fun id =>
        (safe_registryCall (.updateHeartbeat id)).bind fun _ => Prog.safe_ret _
    | httpResponse requestId status headers body =>
      exact safe_ifRegistered fun _ =>
        (safe_handleResponse requestId status headers _).bind fun _ => Prog.safe_ret _
    | tcpConnect connectionId clientIp => exact safe_ifRegistered fun _ => safe_reply reader _
    | tcpData connectionId data => exact safe_ifRegistered fun _ => Prog.safe_ret _
    | tcpDisconnect connectionId => exact safe_ifRegistered fun _ => safe_reply reader _
    | tcpListenResponse sessionId endpoint agentNat =>
      exact safe_ifRegistered fun _ => (safe_critical (by trivial)).bind fun _ => Prog.safe_ret _
    | connectionEstablished sessionId direct =>
      exact safe_ifRegistered fun _ => (safe_critical (by trivial)).bind fun _ => Prog.safe_ret _
    | _ => exact Prog.safe_ret _

theorem safe_writeNext (conn : Nat) : SafeJob B faulty me (writeNext me conn) := by
  have hclose : SafeJob B faulty me (critical me (.closeWriter conn) >>= fun _ => pure false) :=
    (safe_critical (by trivial)).bind fun _ => Prog.safe_ret _
  apply (safe_critical (by trivial)).bind
  intro next
  cases next with
  | none => exact hclose
  | some m =>
    apply (safe_critical (by trivial)).bind
    intro ok
    cases ok with
    | true => exact Prog.safe_ret _
    | false => exact hclose

/-- Every program that a job runs is safe. -/
theorem safe_jobBody {job : Job} {state : JobState} {input : JobInput} {p : ServerProg JobState}
    (hp : jobBody X B me job state input = some p) : SafeJob B faulty me p := by
  have hclose : ∀ conn, SafeJob B faulty me (close me conn) :=
    fun conn => (safe_critical (by trivial)).bind fun _ => Prog.safe_ret _
  unfold jobBody at hp
  split at hp
  · obtain rfl := Option.some.inj hp
    exact (safe_critical (by trivial)).bind fun _ => Prog.safe_ret _
  · obtain rfl := Option.some.inj hp
    apply (safe_handleFrame _ _).bind
    intro reader
    cases reader with
    | none => exact hclose _
    | some reader => exact Prog.safe_ret _
  · obtain rfl := Option.some.inj hp
    exact hclose _
  · obtain rfl := Option.some.inj hp
    apply (safe_writeNext _).bind
    intro more
    cases more <;> exact Prog.safe_ret _
  · obtain rfl := Option.some.inj hp
    exact (safe_registryCall _).bind fun _ => Prog.safe_ret _
  · obtain rfl := Option.some.inj hp
    exact (safe_sendMessage _ _).bind fun _ => Prog.safe_ret _
  · obtain rfl := Option.some.inj hp
    exact (safe_critical (by trivial)).bind fun _ => Prog.safe_ret _
  · obtain rfl := Option.some.inj hp
    refine Prog.Safe.bind ?_ fun _ => Prog.safe_ret _
    exact (safe_critical (by trivial)).bind fun _ => Prog.safe_ret _
  · simp at hp

end Steps

/-! ## Sending -/

section Sending

variable {B : Backend} {faulty : Bool} {me id : String} {m : Message} {w w' : World}

/-- `send_message` returns `Ok`, and the message is then the last one in the queue that the writer
    of the connection drains. -/
def Delivers (B : Backend) (faulty : Bool) (me id : String) (m : Message) (conn : Nat)
    (w : World) : Prop :=
  ∃ ch cs w', (w.node me).writer conn = some ch ∧
    (AgentRegistry.sendMessage me id m).run.play (World.handler B faulty) cs w =
      some (.ok (), w') ∧
    ((w'.node me).chan ch).queue = ((w.node me).chan ch).queue ++ [m]

/-- A send through the map reaches the channel of the entry and no other. -/
theorem agentsSend_step {c : Choice} {r : Option Bool}
    (h : World.handler B faulty c (.node me (.agentsSend id m)) w = some (r, w')) :
    (r = none ∧ (w.node me).agents.lookup id = none) ∨
    ∃ st ok, (w.node me).agents.lookup id = some st ∧ r = some ok ∧
      (((w.node me).chan st.tx).receiver = false → ok = false) ∧
      ∀ ch, ch ≠ st.tx → (w'.node me).chan ch = (w.node me).chan ch := by
  obtain ⟨n', hn', rfl⟩ := World.exec_node.mp h
  cases c <;> simp only [NodeOp.exec, reduceCtorEq] at hn'
  split at hn'
  case h_1 st hst =>
    obtain ⟨⟨ok, c'⟩, hsend, hr⟩ := Option.map_eq_some_iff.mp hn'
    obtain ⟨rfl, rfl⟩ := Prod.mk.inj hr
    refine .inr ⟨st, ok, hst, rfl, fun hdead => ?_, fun ch hch => ?_⟩
    · rw [Chan.send, hdead] at hsend
      exact (Prod.mk.inj (Option.some.inj hsend)).1.symm
    · simp [Node.setChan, hch]
  case h_2 hnone => exact .inl ⟨(Prod.mk.inj (Option.some.inj hn')).1.symm, hnone⟩

/-- An entry with another channel does not lead to the connection. -/
theorem not_delivers {conn : Nat}
    (hentry : ∀ st, (w.node me).agents.lookup id = some st →
      (w.node me).writer conn ≠ some st.tx) : ¬ Delivers B faulty me id m conn w := by
  rintro ⟨ch, cs, w', hwriter, hplay, hqueue⟩
  obtain ⟨c, sent, hop, hok, -⟩ := AgentRegistry.sendMessage_play hplay
  obtain rfl := hok.mp rfl
  rcases agentsSend_step hop with ⟨hnone, -⟩ | ⟨st, ok, hst, -, -, hkept⟩
  · simp at hnone
  · have hne : ch ≠ st.tx := by
      rintro rfl
      exact hentry st hst hwriter
    rw [hkept ch hne] at hqueue
    simp at hqueue

end Sending

/-- The jobs keep the channels of the map and those of the writers apart; they need to know
    nothing between two programs. -/
def channelOutline (X : Codec) (B : Backend) (me : String) (faulty : Bool) :
    System.Outline (jobs X B me faulty) where
  inv w := ChannelInv (w.node me)
  rely _ w w' := Grows (w.node me) (w'.node me)
  guar _ w w' := Grows (w.node me) (w'.node me)
  loc _ _ _ := True
  rely_refl _ w := .refl (w.node me)
  rely_trans _ _ _ _ := Grows.trans
  guar_rely _ _ _ _ _ h := h
  loc_stable _ _ _ _ _ _ := trivial
  body_ok _ _ _ _ w hp _ _ := safe_jobBody hp w

/-- From a start of the server on, whatever its jobs do: no `send_message` to any agent ever puts
    a message into the queue of any connection. -/
theorem never_delivered {X : Codec} {B : Backend} {me : String} {faulty : Bool}
    {c₀ c : Config serverSig Job JobState World} (hstart : c₀.shared.node me = .new)
    (hidle : ∀ job, c₀.task job = .idle .fresh) (hr : (jobs X B me faulty).Reachable c₀ c)
    (id : String) (m : Message) (conn : Nat) : ¬ Delivers B faulty me id m conn c.shared := by
  have hholds : (channelOutline X B me faulty).Holds c₀ := by
    refine ⟨?_, fun job => ?_⟩
    · show ChannelInv (c₀.shared.node me)
      rw [hstart]
      exact ⟨fun id st hst => by simp [Node.new] at hst, fun k ch hk => by simp [Node.new] at hk⟩
    · rw [hidle job]
      trivial
  have hI : ChannelInv (c.shared.node me) := (hholds.reachable hr).1
  exact not_delivers fun st hst => (hI.entry id st hst).ne conn

/-- The two codecs on the API key `secret`. -/
def secretCodec : Codec where
  encode _ := "U0wZmqA75BuWHf4jTv1sArxzLM1OPRq93hqUODUtJEs="
  decode _ := none
  hmacSha256 _ _ :=
    [83, 76, 25, 154, 160, 59, 228, 27, 150, 29, 254, 35, 78, 253, 108, 2, 188, 115, 44, 205,
      78, 61, 26, 189, 222, 26, 148, 56, 53, 45, 36, 75]

/-- A server that has just started, in front of a database with that API key. -/
def serverStart : Config serverSig Job JobState World :=
  let key : ApiKey := ⟨"1", "U0wZmqA75BuWHf4jTv1sArxzLM1OPRq93hqUODUtJEs=", "secr", none, 0⟩
  ⟨{ World.started "a" with
      db := ((Sql.createApiKey key).exec (.keyed none) (World.started "a").db).2 },
    fun _ => .idle .fresh⟩

/-- A WebSocket is opened and its agent registers `demo`. -/
def demoConnection : List (Move Job JobInput Choice) :=
  [.start (.reader 0) .connect, .act (.reader 0) .go, .finish (.reader 0),
    .start (.reader 0) (.frame (some (.register "demo" 8080 "localhost" "http" "secret"))),
    .act (.reader 0) .go, .act (.reader 0) (.fresh "i"), .act (.reader 0) (.fresh "k"),
    .act (.reader 0) .go, .act (.reader 0) .go, .act (.reader 0) (.read 1000),
    .act (.reader 0) (.read 1000), .act (.reader 0) (.read 1000), .act (.reader 0) .go,
    .act (.reader 0) (.read 1000), .act (.reader 0) .go, .act (.reader 0) .go,
    .act (.reader 0) .go, .finish (.reader 0)]

/-- No message to that agent is delivered. -/
theorem never_delivered_demo :
    ∃ c, (jobs secretCodec (.keyed none) "a" false).Reachable serverStart c ∧
      ¬ Delivers (.keyed none) false "a" "i" .heartbeatAck 0 c.shared := by
  have hrun : ((jobs secretCodec (.keyed none) "a" false).replay demoConnection
      serverStart).map (fun c => (c.shared.node "a").nextChan) = some 2 := by decide +kernel
  obtain ⟨c, hc, -⟩ := Option.map_eq_some_iff.mp hrun
  exact ⟨c, ⟨_, hc⟩, never_delivered rfl (fun _ => rfl) ⟨_, hc⟩ "i" .heartbeatAck 0⟩

/-- Its connection is still running and has been welcomed, but every send to it fails. -/
theorem send_fails_demo :
    ∃ c, (jobs secretCodec (.keyed none) "a" false).Reachable serverStart c ∧
      "i" ∈ (c.shared.node "a").agents ∧ (c.shared.node "a").running 0 = true ∧
      ((c.shared.node "a").chan 0).queue = [.welcome "i" "demo" "http"] ∧
      ∀ m, ¬ Delivers (.keyed none) false "a" "i" m 0 c.shared ∧
        ∀ cs r w', (AgentRegistry.sendMessage "a" "i" m).run.play
          (World.handler (.keyed none) false) cs c.shared = some (r, w') →
            r = .error (.internal "Failed to send message: channel closed") := by
  have hrun : ((jobs secretCodec (.keyed none) "a" false).replay demoConnection
      serverStart).map (fun c => (((c.shared.node "a").agents.lookup "i").map (·.tx),
        ((c.shared.node "a").chan 0).queue, (c.shared.node "a").writer 0,
        [(c.shared.node "a").running 0, ((c.shared.node "a").chan 1).receiver])) =
      some (some 1, [.welcome "i" "demo" "http"], some 0, [true, false]) := by decide +kernel
  obtain ⟨c, hc, hproj⟩ := Option.map_eq_some_iff.mp hrun
  simp only [Prod.mk.injEq, List.cons.injEq, and_true] at hproj
  obtain ⟨htx, hqueue, hwriter, hrunning, hdead⟩ := hproj
  obtain ⟨st, hst, hone⟩ := Option.map_eq_some_iff.mp htx
  refine ⟨c, ⟨_, hc⟩, ?_, hrunning, hqueue, fun m => ⟨?_, fun cs r w' hplay => ?_⟩⟩
  · exact AList.lookup_isSome.mp (by rw [hst]; rfl)
  · apply not_delivers
    intro st' hst'
    obtain rfl := Option.some.inj (hst.symm.trans hst')
    rw [hwriter, hone]
    decide
  · obtain ⟨_, sent, hop, -, herr⟩ := AgentRegistry.sendMessage_play hplay
    rcases agentsSend_step hop with ⟨-, hnone⟩ | ⟨st', ok, hst', hsent, hfail, -⟩
    · simp [hst] at hnone
    · obtain rfl := Option.some.inj (hst.symm.trans hst')
      exact herr (hsent.trans (congrArg some (hfail (hone ▸ hdead))))


end Connection

end Jrok
