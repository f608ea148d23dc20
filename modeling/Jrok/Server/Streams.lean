import Jrok.Agent.Delivery
import Jrok.Agent.Replies
import Jrok.Concurrency.Pipe
import Jrok.Server.Traffic

/-!
# The stream of a connection

From the task that reads a connection to the socket that its writer task writes to: the replies go
through a channel that nobody else uses, and the writer takes them off one at a time.
-/

namespace Jrok

open Concurrency

/-! ## Channels, step by step -/

/-- The channel that a critical section may change. -/
def NodeOp.channelOf (n : Node) : NodeOp → Option Nat
  | .send c _ | .dropReceiver c => some c
  | .agentsSend id _ => (n.agents.lookup id).map (·.tx)
  | .channel | .openConnection _ => some n.nextChan
  | .recv conn | .closeWriter conn => n.writer conn
  | _ => none

/-- What a critical section leaves of the channels, the sockets and the writers. -/
structure NodeOp.Frame (o : NodeOp) (n n' : Node) : Prop where
  chan : ∀ ch, o.channelOf n ≠ some ch → n'.chan ch = n.chan ch
  sent : ∀ conn, (∀ m, o ≠ .socketSend conn m) → n'.sent conn = n.sent conn
  writer : ∀ conn, o ≠ .openConnection conn → n'.writer conn = n.writer conn
  running : ∀ conn, o ≠ .openConnection conn → o ≠ .closeConnection conn →
    n'.running conn = n.running conn

theorem NodeOp.Frame.of_same {o : NodeOp} {n n' : Node} (hchan : n'.chan = n.chan)
    (hsent : n'.sent = n.sent) (hwriter : n'.writer = n.writer)
    (hrunning : n'.running = n.running) : o.Frame n n' where
  chan ch _ := congrFun hchan ch
  sent conn _ := congrFun hsent conn
  writer conn _ := congrFun hwriter conn
  running conn _ _ := congrFun hrunning conn

theorem NodeOp.Frame.of_setChan {o : NodeOp} {n : Node} {k : Nat} (x : Chan)
    (hk : o.channelOf n = some k) : o.Frame n (n.setChan k x) where
  chan ch hne := by
    have hch : ch ≠ k := fun heq => hne (heq ▸ hk)
    simp [Node.setChan, hch]
  sent _ _ := rfl
  writer _ _ := rfl
  running _ _ _ := rfl

theorem NodeOp.exec_keeps {c : Choice} {o : NodeOp} {n n' : Node} {r : o.Res}
    (h : o.exec c n = some (r, n')) : o.Frame n n' := by
  cases o <;> cases c <;> simp only [exec, reduceCtorEq, Option.some.injEq, Prod.mk.injEq] at h
  case channel.go =>
    obtain ⟨-, rfl⟩ := h
    have hchan : NodeOp.channel.Frame n (n.setChan n.nextChan _) := .of_setChan ⟨[], true⟩ rfl
    exact ⟨hchan.chan, fun _ _ => rfl, fun _ _ => rfl, fun _ _ _ => rfl⟩
  case closeConnection.go conn =>
    obtain ⟨-, rfl⟩ := h
    refine ⟨fun _ _ => rfl, fun _ _ => rfl, fun _ _ => rfl, fun conn' _ hne => ?_⟩
    have hconn : conn' ≠ conn := fun heq => hne (heq ▸ rfl)
    simp [hconn]
  case dropReceiver.go =>
    obtain ⟨-, rfl⟩ := h
    exact .of_setChan _ rfl
  case send.go =>
    obtain ⟨s, -, hs⟩ := Option.map_eq_some_iff.mp h
    obtain ⟨-, rfl⟩ := Prod.mk.inj hs
    exact .of_setChan _ rfl
  case agentsSend.go id m =>
    split at h
    case h_1 st hst =>
      obtain ⟨s, -, hs⟩ := Option.map_eq_some_iff.mp h
      obtain ⟨-, rfl⟩ := Prod.mk.inj hs
      exact .of_setChan _ (by simp [channelOf, hst])
    case h_2 =>
      obtain ⟨-, rfl⟩ := Prod.mk.inj (Option.some.inj h)
      exact .of_same rfl rfl rfl rfl
  case openConnection.go conn =>
    split at h
    · obtain ⟨-, rfl⟩ := Prod.mk.inj (Option.some.inj h)
      refine ⟨fun ch hne => ?_, fun _ _ => rfl, fun conn' hne => ?_, fun conn' hne _ => ?_⟩
      · have hch : ch ≠ n.nextChan := fun heq => hne (heq ▸ rfl)
        simp [Node.newChan, hch]
      all_goals
        have hconn : conn' ≠ conn := fun heq => hne (heq ▸ rfl)
        simp [hconn]
    · cases h
  case recv.go conn =>
    split at h
    · rename_i k hk
      split at h
      · obtain ⟨-, rfl⟩ := Prod.mk.inj (Option.some.inj h)
        exact .of_setChan _ hk
      · split at h
        · cases h
        · obtain ⟨-, rfl⟩ := Prod.mk.inj (Option.some.inj h)
          exact .of_same rfl rfl rfl rfl
    · cases h
  case closeWriter.go conn =>
    split at h
    · rename_i k hk
      obtain ⟨-, rfl⟩ := Prod.mk.inj (Option.some.inj h)
      exact .of_setChan _ hk
    · cases h
  case socketSend.io conn m ok =>
    obtain ⟨-, rfl⟩ := h
    cases ok
    · exact .of_same rfl rfl rfl rfl
    · refine ⟨fun _ _ => rfl, fun conn' hne => ?_, fun _ _ => rfl, fun _ _ _ => rfl⟩
      have hconn : conn' ≠ conn := by
        rintro rfl
        exact hne m rfl
      simp [hconn]
  case agentsIter.order | respond.go | oneshotRecv.go | oneshotRecv.timeout =>
    repeat' split at h
    all_goals first
      | contradiction
      | obtain ⟨-, rfl⟩ := Prod.mk.inj (Option.some.inj h); exact .of_same rfl rfl rfl rfl
  all_goals
    obtain ⟨-, rfl⟩ := h
    exact .of_same rfl rfl rfl rfl

/-! ## What each operation does to a channel -/

section Inversion

variable {B : Backend} {faulty : Bool} {c : Choice} {w w' : World} {me : String} {conn ch : Nat}

/-- A send appends, or is refused by a channel that is shut. -/
theorem World.exec_send {m : Message} {ok : Bool}
    (h : World.handler B faulty c (.node me (.send ch m)) w = some (ok, w')) :
    let before := (w.node me).chan ch
    (before.receiver = false ∧ (w'.node me).chan ch = before) ∨
    (before.receiver = true ∧ before.queue.length < Chan.capacity ∧
      (w'.node me).chan ch = { before with queue := before.queue ++ [m] }) := by
  obtain ⟨n', hn', rfl⟩ := World.exec_node.mp h
  cases c <;> simp only [NodeOp.exec, reduceCtorEq] at hn'
  obtain ⟨s, hsend, hs⟩ := Option.map_eq_some_iff.mp hn'
  obtain ⟨-, rfl⟩ := Prod.mk.inj hs
  rw [World.setNode_node_self]
  simp only [Node.setChan, Function.update_self]
  cases hreceiver : ((w.node me).chan ch).receiver with
  | false =>
    simp only [Chan.send, hreceiver, Bool.not_false, if_true] at hsend
    obtain rfl := Option.some.inj hsend
    exact .inl ⟨rfl, rfl⟩
  | true =>
    simp only [Chan.send, hreceiver, Bool.not_true, Bool.false_eq_true, if_false,
      Option.ite_none_right_eq_some] at hsend
    obtain ⟨hroom, hsend⟩ := hsend
    obtain rfl := Option.some.inj hsend
    exact .inr ⟨rfl, hroom, by simp⟩

/-- The writer takes the first message; it hears that there will be none once the connection has
    ended. -/
theorem World.exec_recv {taken : Option Message}
    (h : World.handler B faulty c (.node me (.recv conn)) w = some (taken, w')) :
    ∃ ch, (w.node me).writer conn = some ch ∧
      match taken with
      | some m => ∃ rest, ((w.node me).chan ch).queue = m :: rest ∧
        (w'.node me).chan ch = { (w.node me).chan ch with queue := rest }
      | none => ((w.node me).chan ch).queue = [] ∧ (w.node me).running conn = false ∧ w' = w := by
  obtain ⟨n', hn', rfl⟩ := World.exec_node.mp h
  cases c <;> simp only [NodeOp.exec, reduceCtorEq] at hn'
  split at hn'
  case h_1 k hk =>
    refine ⟨k, hk, ?_⟩
    split at hn'
    case h_1 m rest hqueue =>
      obtain ⟨rfl, rfl⟩ := Prod.mk.inj (Option.some.inj hn')
      exact ⟨rest, hqueue, by simp [Node.setChan]⟩
    case h_2 hqueue =>
      split at hn'
      · cases hn'
      · rename_i hrunning
        obtain ⟨rfl, rfl⟩ := Prod.mk.inj (Option.some.inj hn')
        exact ⟨hqueue, by simpa using hrunning, by simp⟩
  case h_2 => cases hn'

theorem World.exec_closeWriter {r : Unit}
    (h : World.handler B faulty c (.node me (.closeWriter conn)) w = some (r, w')) :
    ∃ ch, (w.node me).writer conn = some ch ∧
      (w'.node me).chan ch = { (w.node me).chan ch with receiver := false } := by
  obtain ⟨n', hn', rfl⟩ := World.exec_node.mp h
  cases c <;> simp only [NodeOp.exec, reduceCtorEq] at hn'
  split at hn'
  case h_1 k hk =>
    obtain ⟨-, rfl⟩ := Prod.mk.inj (Option.some.inj hn')
    exact ⟨k, hk, by simp [Node.setChan]⟩
  case h_2 => cases hn'

theorem World.exec_socketSend {m : Message} {ok : Bool}
    (h : World.handler B faulty c (.node me (.socketSend conn m)) w = some (ok, w')) :
    (w'.node me).sent conn =
      if ok then (w.node me).sent conn ++ [m] else (w.node me).sent conn := by
  obtain ⟨n', hn', rfl⟩ := World.exec_node.mp h
  cases c <;> simp only [NodeOp.exec, reduceCtorEq, Option.some.injEq, Prod.mk.injEq] at hn'
  obtain ⟨rfl, rfl⟩ := hn'
  rw [World.setNode_node_self]
  split <;> simp

/-- A connection is opened once, with an empty channel. -/
theorem World.exec_openConnection
    (h : World.handler B faulty c (.node me (.openConnection conn)) w = some (ch, w')) :
    (w.node me).writer conn = none ∧ ch = (w.node me).nextChan ∧
    (w'.node me).writer conn = some ch ∧ (w'.node me).chan ch = ⟨[], true⟩ ∧
    (w'.node me).nextChan = ch + 1 := by
  obtain ⟨n', hn', rfl⟩ := World.exec_node.mp h
  cases c <;> simp only [NodeOp.exec, reduceCtorEq] at hn'
  split at hn'
  case h_1 hnone =>
    obtain ⟨rfl, rfl⟩ := Prod.mk.inj (Option.some.inj hn')
    exact ⟨hnone, rfl, by simp [Node.newChan], by simp [Node.newChan], by simp [Node.newChan]⟩
  case h_2 => cases hn'

theorem World.exec_channel
    (h : World.handler B faulty c (.node me .channel) w = some (ch, w')) :
    ch = (w.node me).nextChan ∧ (w'.node me).nextChan = ch + 1 ∧
      (w'.node me).writer = (w.node me).writer := by
  obtain ⟨n', hn', rfl⟩ := World.exec_node.mp h
  cases c <;> simp only [NodeOp.exec, reduceCtorEq, Option.some.injEq, Prod.mk.injEq] at hn'
  obtain ⟨rfl, rfl⟩ := hn'
  simp [Node.newChan]

theorem World.node_keeps {o : NodeOp} {r : o.Res}
    (h : World.handler B faulty c (.node me o) w = some (r, w')) :
    o.Frame (w.node me) (w'.node me) := by
  obtain ⟨n', hn', rfl⟩ := World.exec_node.mp h
  simpa using NodeOp.exec_keeps hn'

/-- Any other operation leaves the memory of `me` alone. -/
theorem World.other_keeps {o : Op} {r : o.Res} (h : World.handler B faulty c o w = some (r, w'))
    (hne : ∀ o', o ≠ .node me o') : w'.node me = w.node me := by
  cases o with
  | now =>
    obtain ⟨-, -, -, rfl⟩ := World.exec_now.mp h
    rfl
  | uuid =>
    obtain ⟨-, -, rfl⟩ := World.exec_uuid.mp h
    rfl
  | sql q => rcases World.exec_sql.mp h with ⟨-, -, rfl⟩ | ⟨e, -, -, -, rfl⟩ <;> rfl
  | node n o =>
    obtain ⟨n', hn', rfl⟩ := World.exec_node.mp h
    have hme : me ≠ n := fun heq => hne o (heq ▸ rfl)
    exact World.setNode_node_ne _ _ hme

end Inversion

namespace Connection

/-! ## The writer task -/

/-- What the writer task of a connection is doing: about to take the next message, holding one that
    a pass through its loop has taken, or done. -/
inductive Hand where
  | free
  | holding (t : String × Work) (m : Message)
  | ended (lost : Option Message)

/-- The message that has been taken and not been written. -/
def Hand.message : Hand → Option Message
  | .free => none
  | .holding _ m => some m
  | .ended lost => lost

def Hand.isFree : Hand → Bool
  | .free => true
  | _ => false

/-- The hand of the writer task of a connection, from what it has last received or written. -/
def writerHand (me : String) (conn : Nat) : ServerLog → Hand
  | [] => .free
  | (t, ⟨.node n (.recv k), some m⟩) :: older =>
    if n = me ∧ k = conn then .holding t m else writerHand me conn older
  | (_, ⟨.node n (.recv k), none⟩) :: older =>
    if n = me ∧ k = conn then .ended none else writerHand me conn older
  | (_, ⟨.node n (.socketSend k _), true⟩) :: older =>
    if n = me ∧ k = conn then .free else writerHand me conn older
  | (_, ⟨.node n (.socketSend k m), false⟩) :: older =>
    if n = me ∧ k = conn then .ended (some m) else writerHand me conn older
  | _ :: older => writerHand me conn older

/-- The operations of a writer task that its hand depends on. -/
def ofWriter (me : String) (conn : Nat) : Op → Bool
  | .node n (.recv k) | .node n (.socketSend k _) => n = me ∧ k = conn
  | _ => false

theorem writerHand_cons {me : String} {conn : Nat} {t : String × Work} {o : Op} {r : o.Res}
    {log : ServerLog} (ho : ofWriter me conn o = false) :
    writerHand me conn ((t, ⟨o, r⟩) :: log) = writerHand me conn log := by
  cases o with
  | node n o =>
    cases o with
    | recv k =>
      have hne : ¬ (n = me ∧ k = conn) := of_decide_eq_false ho
      cases r <;> simp only [writerHand, if_neg hne]
    | socketSend k m =>
      have hne : ¬ (n = me ∧ k = conn) := of_decide_eq_false ho
      cases r <;> simp only [writerHand, if_neg hne]
    | _ => rfl
  | _ => rfl

/-- A pass of the writer through its loop begins when the one before has written its message. -/
def inTurn : Op → ServerLog → Bool
  | .node me (.recv conn), log => (writerHand me conn log).isFree
  | _, _ => true

/-- The servers at work, where the passes of each writer task through its loop come one after
    another. -/
abbrev writing (D : Deployment) (T : Traffic) (faulty lookups : Bool) :
    System serverSig (String × Work) (Option (Option Answer)) Unit
      (World × Log serverSig (String × Work)) Choice :=
  (openServing D T faulty lookups).restrict fun _ o _ x => inTurn o x.2

variable {D : Deployment} {T : Traffic} {me : String} {log : ServerLog}

/-- What a connection has offered to its writer. -/
def replied (me : String) (conn : Nat) (log : ServerLog) : List Message :=
  replies (Log.own (me, .connection conn) log)

theorem replied_cons {conn : Nat} {t : String × Work} {e : Event serverSig}
    (h : offeredMessage e = none ∨ t ≠ (me, .connection conn)) :
    replied me conn ((t, e) :: log) = replied me conn log := by
  unfold replied
  by_cases ht : t = (me, .connection conn)
  · have hnone : offeredMessage e = none := h.resolve_right fun hne => hne ht
    simp [Log.own, ht, replies, hnone]
  · simp [Log.own, ht]

theorem replied_cons_send {conn ch : Nat} {n : String} {m : Message} {r : Bool} :
    replied me conn (((me, .connection conn), ⟨.node n (.send ch m), r⟩) :: log) =
      replied me conn log ++ [m] := by
  simp [replied, Log.own, replies, offeredMessage]

/-! ## Who performs what -/

theorem performs_head {t : String × Work} {e : Event serverSig}
    (h : System.Follows (program D T) ((t, e) :: log)) : t.2.Performs D T t.1 e.1 :=
  performs (show System.Follows _ ([] ++ _) from h)

/-- The events of a connection, the last one included. -/
theorem connection_head {conn : Nat} {e : Event serverSig}
    (h : System.Follows (program D T) (((me, .connection conn), e) :: log)) :
    ∃ p, (handleAgentConnection D.codec D.backend me conn (T.frames me conn)).Path
      (Log.own (me, .connection conn) log ++ [e]) p :=
  connection_path (show System.Follows _ ([] ++ _) from h)

/-- The critical sections that only the task of a connection performs. -/
def ofConnection : NodeOp → Bool
  | .send _ _ | .dropReceiver _ | .agentsInsert _ _ => true
  | .openConnection _ | .closeConnection _ => true
  | _ => false

theorem connection_task {t : String × Work} {n : String} {o : NodeOp} {r : o.Res}
    (ho : ofConnection o = true)
    (hf : System.Follows (program D T) ((t, ⟨.node n o, r⟩) :: log)) :
    ∃ conn, t = (n, .connection conn) := by
  obtain ⟨server, work⟩ := t
  have hperforms : work.Performs D T server (.node n o) := performs_head hf
  cases work with
  | request k =>
    simp only [Work.Performs] at hperforms
    cases hcall : T.request server k <;> rw [hcall] at hperforms <;> cases hperforms <;> cases ho
  | connection conn =>
    rcases hperforms with heq | heq | ⟨reader, frame, -, hframe⟩
    · cases heq
      exact ⟨conn, rfl⟩
    · cases heq
      exact ⟨conn, rfl⟩
    · obtain ⟨rfl, -⟩ := frameOp_node hframe
      exact ⟨conn, rfl⟩
  | writer conn k =>
    rcases hperforms with heq | heq | ⟨m, heq⟩ <;> cases heq <;> cases ho
  | heartbeat | cleanup | shutdown =>
    cases hperforms with
    | upkeep h => cases h <;> cases ho
    | store => cases ho

/-- The operations of a writer are those of one of its passes. -/
theorem writer_task {conn : Nat} {t : String × Work} {o : Op} {r : o.Res}
    (ho : ofWriter me conn o = true)
    (hf : System.Follows (program D T) ((t, ⟨o, r⟩) :: log)) :
    ∃ k p, t = (me, .writer conn k) ∧ (writeNext me conn).Path (Log.own t log ++ [⟨o, r⟩]) p := by
  obtain ⟨server, work⟩ := t
  have hperforms : work.Performs D T server o := performs_head hf
  cases o with
  | node n o =>
    cases work with
    | request k =>
      simp only [Work.Performs] at hperforms
      cases hcall : T.request server k <;> rw [hcall] at hperforms <;> cases hperforms <;> cases ho
    | connection conn' =>
      rcases hperforms with heq | heq | ⟨reader, frame, -, hframe⟩
      · cases heq
        cases ho
      · cases heq
        cases ho
      · have hof := (frameOp_node hframe).2.1
        cases o <;> simp [ofWriter, ofFrame] at ho hof
    | writer conn' k =>
      obtain ⟨p, hp⟩ := System.Follows.at_split (show System.Follows _ ([] ++ _) from hf)
      obtain ⟨p', hp'⟩ := hp.of_bind_ret
      have hown : server = me ∧ conn' = conn := by
        rcases hperforms with heq | heq | ⟨m, heq⟩ <;> cases heq
        · exact of_decide_eq_true ho
        · cases ho
        · exact of_decide_eq_true ho
      obtain ⟨rfl, rfl⟩ := hown
      exact ⟨k, p', rfl, hp'⟩
    | heartbeat | cleanup | shutdown =>
      cases hperforms with
      | upkeep h => cases h <;> cases ho
      | store => cases ho
  | _ => cases ho

/-- A pass begins with the receipt, and writes what it has received. -/
theorem writeNext_path {conn : Nat} {es : List (Event serverSig)} {o : Op} {r : o.Res}
    {p : ServerProg Bool} (h : (writeNext me conn).Path (es ++ [⟨o, r⟩]) p) :
    (o = .node me (.recv conn) ∧ es = []) ∨ o = .node me (.closeWriter conn) ∨
    ∃ m, o = .node me (.socketSend conn m) ∧ es = [⟨.node me (.recv conn), some m⟩] := by
  have hclose : ∀ {es : List (Event serverSig)},
      (Prog.op (.node me (.closeWriter conn)) fun _ => .ret false : ServerProg Bool).Path
        (es ++ [⟨o, r⟩]) p → o = .node me (.closeWriter conn) := by
    intro es h
    rcases Prog.path_op_snoc_iff.mp h with ⟨-, _, he, -⟩ | ⟨_, _, -, hret⟩
    · exact congrArg Sigma.fst he
    · exact absurd hret Prog.not_path_ret_snoc
  rcases Prog.path_op_snoc_iff.mp h with ⟨rfl, _, he, -⟩ | ⟨taken, es₁, rfl, h₁⟩
  · exact .inl ⟨congrArg Sigma.fst he, rfl⟩
  cases taken with
  | none => exact .inr (.inl (hclose h₁))
  | some m =>
    rcases Prog.path_op_snoc_iff.mp h₁ with ⟨rfl, _, he, -⟩ | ⟨ok, es₂, rfl, h₂⟩
    · exact .inr (.inr ⟨m, congrArg Sigma.fst he, rfl⟩)
    · cases ok with
      | true => exact absurd h₂ Prog.not_path_ret_snoc
      | false => exact .inr (.inl (hclose h₂))

/-! ## Whose channel is whose -/

/-- The channels of the writers are made for their connections; those of the map are others. -/
structure Channels (me : String) (w : World) (log : ServerLog) : Prop where
  made : ∀ t tx, (t, (⟨.node me .channel, tx⟩ : Event serverSig)) ∈ log →
    Undrained tx (w.node me)
  entry : ∀ id st, (w.node me).agents.lookup id = some st → Undrained st.tx (w.node me)
  opened : ∀ t conn ch, (t, (⟨.node me (.openConnection conn), ch⟩ : Event serverSig)) ∈ log →
    (w.node me).writer conn = some ch
  below : ∀ conn ch, (w.node me).writer conn = some ch → ch < (w.node me).nextChan
  apart : ∀ conn conn' ch, (w.node me).writer conn = some ch → (w.node me).writer conn' = some ch →
    conn = conn'

section Steps

variable {B : Backend} {faulty : Bool} {c : Choice} {w w' : World} {t : String × Work} {o : Op}
  {r : o.Res} {conn ch : Nat}

theorem handler_grows (h : World.handler B faulty c o w = some (r, w')) (me : String) :
    Grows (w.node me) (w'.node me) := by
  obtain ⟨hnext, hwriter⟩ := World.handler_writer h me
  exact ⟨hnext, fun k ch hk => (hwriter k ch hk).imp_right fun hnew => le_of_eq hnew.1.symm⟩

/-- A writer stays, and there is a new one only for a connection that is opened. -/
theorem writer_step (h : World.handler B faulty c o w = some (r, w')) (me : String) (conn : Nat) :
    (w'.node me).writer conn = (w.node me).writer conn ∨
    (o = .node me (.openConnection conn) ∧ (w.node me).writer conn = none ∧
      (w'.node me).writer conn = some (w.node me).nextChan ∧
      HEq r (w.node me).nextChan) := by
  by_cases hme : ∃ o', o = .node me o'
  · obtain ⟨o, rfl⟩ := hme
    by_cases ho : o = .openConnection conn
    · subst ho
      obtain ⟨hnone, hr, hsome, -, -⟩ := World.exec_openConnection h
      exact .inr ⟨rfl, hnone, hr ▸ hsome, heq_of_eq hr⟩
    · exact .inl ((World.node_keeps h).writer conn ho)
  · exact .inl (by rw [World.other_keeps h fun o' heq => hme ⟨o', heq⟩])

theorem Channels.step (hC : Channels me w log)
    (hf : System.Follows (program D T) ((t, ⟨o, r⟩) :: log))
    (h : World.handler B faulty c o w = some (r, w')) : Channels me w' ((t, ⟨o, r⟩) :: log) where
  made t' tx hmade := by
    have hgrows := handler_grows h me
    rcases List.mem_cons.mp hmade with heq | hold
    · cases heq
      obtain ⟨rfl, hnext, hwriter⟩ := World.exec_channel h
      refine ⟨hnext ▸ Nat.lt_succ_self _, fun k hk => ?_⟩
      rw [hwriter] at hk
      exact lt_irrefl _ (hC.below k _ hk)
    · exact (hC.made t' tx hold).mono hgrows
  entry id st hst := by
    refine Undrained.mono ?_ (handler_grows h me)
    rcases World.agents_cases h me with ⟨id', st', rfl, hmap⟩ | ⟨id', rfl, hmap⟩ | ⟨-, -, hmap⟩
    · rw [hmap] at hst
      by_cases hid : id = id'
      · subst hid
        obtain rfl : st' = st := by simpa using hst
        obtain ⟨k, rfl⟩ := connection_task rfl hf
        obtain ⟨p, hp⟩ := connection_head hf
        obtain ⟨-, hmade⟩ := connection_channel (.inl ⟨id, st', rfl, rfl⟩) hp
        exact hC.made _ _ (Log.mem_own.mp hmade)
      · rw [AList.lookup_insert_ne hid] at hst
        exact hC.entry id st hst
    · rw [hmap] at hst
      by_cases hid : id = id'
      · subst hid
        simp at hst
      · rw [AList.lookup_erase_ne hid] at hst
        exact hC.entry id st hst
    · rw [hmap] at hst
      exact hC.entry id st hst
  opened t' conn ch hopened := by
    rcases List.mem_cons.mp hopened with heq | hold
    · cases heq
      exact (World.exec_openConnection h).2.2.1
    · have hch := hC.opened t' conn ch hold
      rcases writer_step h me conn with hsame | ⟨-, hnone, -⟩
      · exact hsame.trans hch
      · simp [hnone] at hch
  below conn ch hch := by
    obtain ⟨hnext, hwriter⟩ := World.handler_writer h me
    rcases hwriter conn ch hch with hold | ⟨-, hlt⟩
    · exact lt_of_lt_of_le (hC.below conn ch hold) hnext
    · exact hlt
  apart conn conn' ch hch hch' := by
    rcases writer_step h me conn with hsame | ⟨rfl, -, hnew, -⟩ <;>
      rcases writer_step h me conn' with hsame' | ⟨ho', -, hnew', -⟩
    · exact hC.apart conn conn' ch (hsame ▸ hch) (hsame' ▸ hch')
    · obtain rfl := Option.some.inj (hnew'.symm.trans hch')
      exact absurd (hC.below conn _ (hsame ▸ hch)) (lt_irrefl _)
    · obtain rfl := Option.some.inj (hnew.symm.trans hch)
      exact absurd (hC.below conn' _ (hsame' ▸ hch')) (lt_irrefl _)
    · cases ho'
      rfl

/-! ## The pipe of a connection -/

/-- The pipe is what the state and the log say. -/
structure Carries (me : String) (conn ch : Nat) (w : World) (log : ServerLog)
    (p : Pipe Message Chan.capacity) : Prop where
  offered : p.offered = replied me conn log
  delivered : p.delivered = (w.node me).sent conn
  hand : p.hand = (writerHand me conn log).message
  chan : (w.node me).chan ch = ⟨p.queue, p.isOpen⟩

/-- Nothing has happened on a connection that has not been opened, and a connection that has been
    opened has a pipe. A pass of the writer that has received a message and done nothing else is the
    one that holds it. -/
structure Streaming (me : String) (w : World) (log : ServerLog) : Prop where
  channels : Channels me w log
  hand : ∀ conn t m, Log.own t log = [⟨.node me (.recv conn), some m⟩] →
    writerHand me conn log = .holding t m
  unopened : ∀ conn, (w.node me).writer conn = none →
    replied me conn log = [] ∧ (w.node me).sent conn = [] ∧ writerHand me conn log = .free
  pipe : ∀ conn ch, (w.node me).writer conn = some ch → ∃ p, Carries me conn ch w log p

theorem Carries.frame {p : Pipe Message Chan.capacity} (hp : Carries me conn ch w log p)
    (hchan : (w'.node me).chan ch = (w.node me).chan ch)
    (hsent : (w'.node me).sent conn = (w.node me).sent conn)
    (hoffered : offeredMessage ⟨o, r⟩ = none ∨ t ≠ (me, .connection conn))
    (hwriter : ofWriter me conn o = false) : Carries me conn ch w' ((t, ⟨o, r⟩) :: log) p where
  offered := by rw [replied_cons hoffered, hp.offered]
  delivered := by rw [hsent, hp.delivered]
  hand := by rw [writerHand_cons hwriter, hp.hand]
  chan := hchan.trans hp.chan

/-- A connection sends through the channel that it was opened with. -/
theorem send_event (hC : Channels me w log) {m : Message} {ok : Bool}
    (hf : System.Follows (program D T) ((t, ⟨.node me (.send ch m), ok⟩) :: log)) :
    ∃ conn, t = (me, .connection conn) ∧ (w.node me).writer conn = some ch := by
  obtain ⟨conn, rfl⟩ := connection_task rfl hf
  obtain ⟨p, hp⟩ := connection_head hf
  obtain ⟨-, rest, hown⟩ := connection_send hp
  refine ⟨conn, rfl, hC.opened (me, .connection conn) conn ch ?_⟩
  rw [← Log.mem_own, hown]
  exact List.mem_cons_self ..

/-- The other operations keep away from the channel of a connection. -/
theorem channelOf_ne (hC : Channels me w log) {o : NodeOp} {r : o.Res}
    (hf : System.Follows (program D T) ((t, ⟨.node me o, r⟩) :: log))
    (hwriter : (w.node me).writer conn = some ch) (hsend : ∀ m, o ≠ .send ch m)
    (hopen : o ≠ .openConnection conn) (hrecv : o ≠ .recv conn) (hclose : o ≠ .closeWriter conn) :
    o.channelOf (w.node me) ≠ some ch := by
  cases o with
  | send c m =>
    rintro heq
    obtain rfl := Option.some.inj heq
    exact hsend m rfl
  | dropReceiver c =>
    rintro heq
    obtain rfl := Option.some.inj heq
    obtain ⟨k, rfl⟩ := connection_task rfl hf
    obtain ⟨p, hp⟩ := connection_head hf
    obtain ⟨-, hmade⟩ := connection_channel (.inr rfl) hp
    exact (hC.made _ _ (Log.mem_own.mp hmade)).ne conn hwriter
  | agentsSend id m =>
    intro heq
    obtain ⟨st, hst, rfl⟩ := Option.map_eq_some_iff.mp heq
    exact (hC.entry id st hst).ne conn hwriter
  | channel | openConnection _ =>
    rintro heq
    obtain rfl := Option.some.inj heq
    exact absurd (hC.below conn _ hwriter) (lt_irrefl _)
  | recv conn' =>
    intro heq
    obtain rfl := hC.apart conn conn' ch hwriter heq
    exact hrecv rfl
  | closeWriter conn' =>
    intro heq
    obtain rfl := hC.apart conn conn' ch hwriter heq
    exact hclose rfl
  | _ => exact nofun

/-- A reply enters the queue, or is refused. -/
theorem Carries.send {m : Message} {ok : Bool} {p : Pipe Message Chan.capacity}
    (hp : Carries me conn ch w log p)
    (h : World.handler B faulty c (.node me (.send ch m)) w = some (ok, w')) :
    ∃ p', Carries me conn ch w'
      (((me, .connection conn), ⟨.node me (.send ch m), ok⟩) :: log) p' := by
  have hsent := (World.node_keeps h).sent conn nofun
  rcases World.exec_send h with ⟨hshut, hchan⟩ | ⟨hopen, hroom, hchan⟩ <;> rw [hp.chan] at hchan
  · rw [hp.chan] at hshut
    exact ⟨p.refuse m hshut, ⟨by rw [replied_cons_send, ← hp.offered]; rfl,
      by rw [hsent]; exact hp.delivered, by rw [writerHand_cons rfl]; exact hp.hand, hchan⟩⟩
  · rw [hp.chan] at hopen hroom
    exact ⟨p.enqueue m hopen hroom, ⟨by rw [replied_cons_send, ← hp.offered]; rfl,
      by rw [hsent]; exact hp.delivered, by rw [writerHand_cons rfl]; exact hp.hand, hchan⟩⟩

/-- The writer, whose hand is empty, takes a message. -/
theorem Carries.recv {taken : Option Message} {p : Pipe Message Chan.capacity}
    (hp : Carries me conn ch w log p) (hwriter : (w.node me).writer conn = some ch)
    (hturn : writerHand me conn log = .free)
    (h : World.handler B faulty c (.node me (.recv conn)) w = some (taken, w')) :
    ∃ p', Carries me conn ch w' ((t, ⟨.node me (.recv conn), taken⟩) :: log) p' := by
  have hsent := (World.node_keeps h).sent conn nofun
  have hempty : p.hand = none := by rw [hp.hand, hturn]; rfl
  obtain ⟨k, hk, htaken⟩ := World.exec_recv h
  obtain rfl := Option.some.inj (hwriter.symm.trans hk)
  cases taken with
  | none =>
    obtain ⟨-, -, rfl⟩ := htaken
    exact ⟨p, ⟨by rw [replied_cons (.inl rfl)]; exact hp.offered, hp.delivered,
      by simp [writerHand, Hand.message, hempty], hp.chan⟩⟩
  | some m =>
    obtain ⟨rest, hqueue, hchan⟩ := htaken
    rw [hp.chan] at hqueue hchan
    exact ⟨p.take hempty hqueue, ⟨by rw [replied_cons (.inl rfl)]; exact hp.offered,
      by rw [hsent]; exact hp.delivered, by simp [writerHand, Hand.message, Pipe.take], hchan⟩⟩

/-- The writer hands on what it holds, or fails to. -/
theorem Carries.write {m : Message} {ok : Bool} {p : Pipe Message Chan.capacity}
    (hp : Carries me conn ch w log p) (hholds : writerHand me conn log = .holding t m)
    (h : World.handler B faulty c (.node me (.socketSend conn m)) w = some (ok, w')) :
    ∃ p', Carries me conn ch w' ((t, ⟨.node me (.socketSend conn m), ok⟩) :: log) p' := by
  have hchan := (World.node_keeps h).chan ch nofun
  have hhand : p.hand = some m := by rw [hp.hand, hholds]; rfl
  have hsent := World.exec_socketSend h
  cases ok with
  | true =>
    exact ⟨p.deliver hhand, ⟨by rw [replied_cons (.inl rfl)]; exact hp.offered,
      by rw [hsent, ← hp.delivered]; rfl, by simp [writerHand, Hand.message, Pipe.deliver],
      hchan.trans hp.chan⟩⟩
  | false =>
    exact ⟨p, ⟨by rw [replied_cons (.inl rfl)]; exact hp.offered,
      by rw [hsent]; exact hp.delivered, by simp [writerHand, Hand.message, hhand],
      hchan.trans hp.chan⟩⟩

theorem Carries.close {r : Unit} {p : Pipe Message Chan.capacity}
    (hp : Carries me conn ch w log p) (hwriter : (w.node me).writer conn = some ch)
    (h : World.handler B faulty c (.node me (.closeWriter conn)) w = some (r, w')) :
    ∃ p', Carries me conn ch w' ((t, ⟨.node me (.closeWriter conn), r⟩) :: log) p' := by
  have hsent := (World.node_keeps h).sent conn nofun
  obtain ⟨k, hk, hchan⟩ := World.exec_closeWriter h
  obtain rfl := Option.some.inj (hwriter.symm.trans hk)
  rw [hp.chan] at hchan
  exact ⟨p.shut, ⟨by rw [replied_cons (.inl rfl)]; exact hp.offered,
    by rw [hsent]; exact hp.delivered, by rw [writerHand_cons rfl]; exact hp.hand, hchan⟩⟩

/-- A write is the second operation of a pass that holds the message. -/
theorem Streaming.holds {m : Message} {ok : Bool} (hS : Streaming me w log)
    (hf : System.Follows (program D T) ((t, ⟨.node me (.socketSend conn m), ok⟩) :: log)) :
    writerHand me conn log = .holding t m := by
  have ho : ofWriter me conn (.node me (.socketSend conn m)) = true := by simp [ofWriter]
  obtain ⟨k, p, rfl, hp⟩ := writer_task ho hf
  rcases writeNext_path hp with ⟨heq, -⟩ | heq | ⟨m', heq, hown⟩ <;> cases heq
  exact hS.hand conn _ m hown

/-- An operation that is none of the connection's or its writer's leaves the pipe alone. -/
theorem Streaming.pipe_frame (hS : Streaming me w log)
    (hf : System.Follows (program D T) ((t, ⟨o, r⟩) :: log))
    (h : World.handler B faulty c o w = some (r, w')) (hwriter : (w.node me).writer conn = some ch)
    (hsend : ∀ m, o ≠ .node me (.send ch m)) (hopen : o ≠ .node me (.openConnection conn))
    (hclose : o ≠ .node me (.closeWriter conn)) (hof : ofWriter me conn o = false) :
    ∃ p, Carries me conn ch w' ((t, ⟨o, r⟩) :: log) p := by
  obtain ⟨p, hp⟩ := hS.pipe conn ch hwriter
  -- a send by the connection is one through its own channel
  have hoffered : offeredMessage ⟨o, r⟩ = none ∨ t ≠ (me, .connection conn) := by
    rcases o with _ | _ | _ | ⟨n, o⟩ <;> try exact .inl rfl
    cases o with
    | send c m =>
      refine .inr fun ht => ?_
      obtain ⟨conn', ht'⟩ := connection_task rfl hf
      obtain ⟨rfl, hconn⟩ := Prod.mk.inj (ht.symm.trans ht')
      obtain rfl := Work.connection.inj hconn
      obtain ⟨conn', ht', hc⟩ := send_event hS.channels hf
      obtain rfl := Work.connection.inj (Prod.mk.inj (ht.symm.trans ht')).2
      obtain rfl := Option.some.inj (hc.symm.trans hwriter)
      exact hsend m rfl
    | _ => exact .inl rfl
  by_cases hme : ∃ o', o = .node me o'
  · obtain ⟨o, rfl⟩ := hme
    have hrecv : o ≠ .recv conn ∧ ∀ m, o ≠ .socketSend conn m := by
      constructor
      · rintro rfl
        simp [ofWriter] at hof
      · rintro m rfl
        simp [ofWriter] at hof
    have hkeeps := World.node_keeps h
    have hne := channelOf_ne hS.channels hf hwriter (fun m heq => hsend m (heq ▸ rfl))
      (fun heq => hopen (heq ▸ rfl)) hrecv.1 (fun heq => hclose (heq ▸ rfl))
    exact ⟨p, hp.frame (hkeeps.chan ch hne) (hkeeps.sent conn hrecv.2) hoffered hof⟩
  · have hnode := World.other_keeps h fun o' heq => hme ⟨o', heq⟩
    exact ⟨p, hp.frame (by rw [hnode]) (by rw [hnode]) hoffered hof⟩

theorem Streaming.pipe_step (hS : Streaming me w log)
    (hf : System.Follows (program D T) ((t, ⟨o, r⟩) :: log)) (hturn : inTurn o log = true)
    (h : World.handler B faulty c o w = some (r, w'))
    (hwriter' : (w'.node me).writer conn = some ch) :
    ∃ p, Carries me conn ch w' ((t, ⟨o, r⟩) :: log) p := by
  rcases writer_step h me conn with hsame | ⟨rfl, hnone, hnew, hr⟩
  swap
  · obtain ⟨hreplied, hsent, hfree⟩ := hS.unopened conn hnone
    obtain rfl := Option.some.inj (hnew.symm.trans hwriter')
    obtain rfl := eq_of_heq hr
    have hkeeps := (World.node_keeps h).sent conn nofun
    exact ⟨.new, ⟨by rw [replied_cons (.inl rfl), hreplied]; rfl, by rw [hkeeps, hsent]; rfl,
      by rw [writerHand_cons rfl, hfree]; rfl, (World.exec_openConnection h).2.2.2.1⟩⟩
  have hwriter : (w.node me).writer conn = some ch := hsame.symm.trans hwriter'
  obtain ⟨p, hp⟩ := hS.pipe conn ch hwriter
  by_cases hsend : ∃ m, o = .node me (.send ch m)
  · obtain ⟨m, rfl⟩ := hsend
    obtain ⟨conn', rfl, hc⟩ := send_event hS.channels hf
    obtain rfl := hS.channels.apart conn' conn ch hc hwriter
    exact hp.send h
  by_cases hclose : o = .node me (.closeWriter conn)
  · subst hclose
    exact hp.close hwriter h
  cases hof : ofWriter me conn o with
  | false =>
    refine hS.pipe_frame hf h hwriter (fun m heq => hsend ⟨m, heq⟩) ?_ hclose hof
    rintro rfl
    rw [(World.exec_openConnection h).1] at hwriter
    cases hwriter
  | true =>
    rcases o with _ | _ | _ | ⟨n, o⟩ <;> try cases hof
    cases o with
    | recv conn' =>
      obtain ⟨rfl, rfl⟩ : n = me ∧ conn' = conn := by simpa [ofWriter] using hof
      refine hp.recv hwriter ?_ h
      simp only [inTurn] at hturn
      cases hhand : writerHand n conn' log with
      | free => rfl
      | _ => simp [hhand, Hand.isFree] at hturn
    | socketSend conn' m =>
      obtain ⟨rfl, rfl⟩ : n = me ∧ conn' = conn := by simpa [ofWriter] using hof
      exact hp.write (hS.holds hf) h
    | _ => cases hof

/-- Nobody else takes or writes while a pass holds a message. -/
theorem Streaming.hand_step (hS : Streaming me w log)
    (hf : System.Follows (program D T) ((t, ⟨o, r⟩) :: log)) (hturn : inTurn o log = true)
    {u : String × Work} {m : Message}
    (hown : Log.own u ((t, ⟨o, r⟩) :: log) = [⟨.node me (.recv conn), some m⟩]) :
    writerHand me conn ((t, ⟨o, r⟩) :: log) = .holding u m := by
  by_cases ht : t = u
  · subst ht
    rw [Log.own, if_pos rfl] at hown
    have hnil : ([] : List (Event serverSig)) ++ [⟨.node me (.recv conn), some m⟩] =
      Log.own t log ++ [⟨o, r⟩] := hown.symm
    cases (List.cons.inj (List.append_inj' hnil rfl).2).1
    simp [writerHand]
  · rw [Log.own, if_neg ht] at hown
    have hholds := hS.hand conn u m hown
    cases hof : ofWriter me conn o with
    | false => rw [writerHand_cons hof, hholds]
    | true =>
      rcases o with _ | _ | _ | ⟨n, o⟩ <;> try cases hof
      cases o with
      | recv conn' =>
        obtain ⟨rfl, rfl⟩ : n = me ∧ conn' = conn := by simpa [ofWriter] using hof
        simp [inTurn, hholds, Hand.isFree] at hturn
      | socketSend conn' m' =>
        obtain ⟨rfl, rfl⟩ : n = me ∧ conn' = conn := by simpa [ofWriter] using hof
        obtain ⟨hut, -⟩ := Hand.holding.inj (hholds.symm.trans (hS.holds hf))
        exact absurd hut.symm ht
      | _ => cases hof

theorem Streaming.unopened_step (hS : Streaming me w log)
    (hf : System.Follows (program D T) ((t, ⟨o, r⟩) :: log))
    (h : World.handler B faulty c o w = some (r, w')) (hnone' : (w'.node me).writer conn = none) :
    replied me conn ((t, ⟨o, r⟩) :: log) = [] ∧ (w'.node me).sent conn = [] ∧
      writerHand me conn ((t, ⟨o, r⟩) :: log) = .free := by
  have hnone : (w.node me).writer conn = none := by
    rcases writer_step h me conn with hsame | ⟨-, -, hnew, -⟩
    · exact hsame.symm.trans hnone'
    · simp [hnew] at hnone'
  obtain ⟨hreplied, hsent, hfree⟩ := hS.unopened conn hnone
  have hoffered : offeredMessage ⟨o, r⟩ = none ∨ t ≠ (me, .connection conn) := by
    rcases o with _ | _ | _ | ⟨n, o⟩ <;> try exact .inl rfl
    cases o with
    | send ch m =>
      refine .inr fun ht => ?_
      obtain ⟨conn', ht'⟩ := connection_task rfl hf
      obtain ⟨rfl, -⟩ := Prod.mk.inj (ht.symm.trans ht')
      obtain ⟨conn', ht', hch⟩ := send_event hS.channels hf
      obtain rfl := Work.connection.inj (Prod.mk.inj (ht.symm.trans ht')).2
      simp [hnone] at hch
    | _ => exact .inl rfl
  have hof : ofWriter me conn o = false := by
    rcases o with _ | _ | _ | ⟨n, o⟩ <;> try rfl
    cases o with
    | recv conn' =>
      refine decide_eq_false ?_
      rintro ⟨rfl, rfl⟩
      obtain ⟨ch, hch, -⟩ := World.exec_recv h
      simp [hnone] at hch
    | socketSend conn' m =>
      refine decide_eq_false ?_
      rintro ⟨rfl, rfl⟩
      cases hfree.symm.trans (hS.holds hf)
    | _ => rfl
  have hkept : (w'.node me).sent conn = (w.node me).sent conn := by
    by_cases hme : ∃ o', o = .node me o'
    · obtain ⟨o, rfl⟩ := hme
      refine (World.node_keeps h).sent conn ?_
      rintro m rfl
      simp [ofWriter] at hof
    · rw [World.other_keeps h fun o' heq => hme ⟨o', heq⟩]
  exact ⟨by rw [replied_cons hoffered, hreplied], hkept.trans hsent,
    by rw [writerHand_cons hof, hfree]⟩

theorem Streaming.step (hS : Streaming me w log)
    (hf : System.Follows (program D T) ((t, ⟨o, r⟩) :: log)) (hturn : inTurn o log = true)
    (h : World.handler B faulty c o w = some (r, w')) : Streaming me w' ((t, ⟨o, r⟩) :: log) where
  channels := hS.channels.step hf h
  hand _ _ _ hown := hS.hand_step hf hturn hown
  unopened _ hnone := hS.unopened_step hf h hnone
  pipe _ _ hwriter := hS.pipe_step hf hturn h hwriter

/-- A send or a look-up without effect. -/
theorem Streaming.idle (hS : Streaming me w log)
    (hf : System.Follows (program D T) ((t, ⟨o, r⟩) :: log)) (hturn : inTurn o log = true)
    (ho : (∃ n id m, o = .node n (.agentsSend id m)) ∨ ∃ n, o = .node n .agentsIter) :
    Streaming me w ((t, ⟨o, r⟩) :: log) := by
  have hoffered : offeredMessage ⟨o, r⟩ = none := by
    rcases ho with ⟨n, id, m, rfl⟩ | ⟨n, rfl⟩ <;> rfl
  have hof : ∀ conn, ofWriter me conn o = false := by
    rcases ho with ⟨n, id, m, rfl⟩ | ⟨n, rfl⟩ <;> exact fun _ => rfl
  refine ⟨⟨fun u tx hmade => ?_, hS.channels.entry, fun u conn ch hopened => ?_, hS.channels.below,
    hS.channels.apart⟩, fun _ _ _ hown => hS.hand_step hf hturn hown, fun conn hnone => ?_,
    fun conn ch hwriter => ?_⟩
  · rcases List.mem_cons.mp hmade with heq | hold
    · rcases ho with ⟨n, id, m, rfl⟩ | ⟨n, rfl⟩ <;> cases heq
    · exact hS.channels.made u tx hold
  · rcases List.mem_cons.mp hopened with heq | hold
    · rcases ho with ⟨n, id, m, rfl⟩ | ⟨n, rfl⟩ <;> cases heq
    · exact hS.channels.opened u conn ch hold
  · obtain ⟨hreplied, hsent, hfree⟩ := hS.unopened conn hnone
    exact ⟨by rw [replied_cons (.inl hoffered), hreplied], hsent,
      by rw [writerHand_cons (hof conn), hfree]⟩
  · obtain ⟨p, hp⟩ := hS.pipe conn ch hwriter
    exact ⟨p, hp.frame rfl rfl (.inl hoffered) (hof conn)⟩

theorem Streaming.start (hnew : w.node me = .new) : Streaming me w [] where
  channels :=
    { made := by simp
      entry := by simp [hnew, Node.new]
      opened := by simp
      below := by simp [hnew, Node.new]
      apart := by simp [hnew, Node.new] }
  hand := by simp [Log.own]
  unopened := by simp [hnew, Node.new, replied, replies, Log.own, writerHand]
  pipe := by simp [hnew, Node.new]

end Steps

/-! ## Runs -/

/-- The replies of a connection answer the frames that it has read, in their order, and once it has
    returned all but those that it leaves. What has been written to its socket is the first part
    of them; while its writer task has not given up, the rest is the message that the writer holds
    and the queue, which never exceeds its bound. -/
structure StreamsReplies (D : Deployment) (me : String) (conn : Nat)
    (frames : List (Option Message)) (w : World) (log : ServerLog) : Prop where
  answered : ∃ read,
    Reads D.codec D.backend me conn frames (Log.own (me, .connection conn) log) read ∧
    Answered false read (replied me conn log)
  returned : ∀ unread, (handleAgentConnection D.codec D.backend me conn frames).Path
      (Log.own (me, .connection conn) log) (.ret unread) →
    ∃ read, frames = read ++ unread ∧ Answered false read (replied me conn log)
  sent_prefix : (w.node me).sent conn <+: replied me conn log
  on_its_way : ∀ ch, (w.node me).writer conn = some ch →
    ((w.node me).chan ch).queue.length ≤ Chan.capacity ∧
    (((w.node me).chan ch).receiver = true →
      replied me conn log = (w.node me).sent conn ++
        ((writerHand me conn log).message.toList ++ ((w.node me).chan ch).queue))

section Runs

variable {faulty lookups : Bool} {c₀ c : ServerPool}

theorem streaming_reachable (hidle : ∀ t, c₀.task t = .idle none) (hlog : c₀.shared.2 = [])
    (hnew : c₀.shared.1.node me = .new) (hr : (writing D T faulty lookups).Reachable c₀ c) :
    System.Traced (program D T) c ∧ Streaming me c.shared.1 c.shared.2 :=
  System.keepsLog_restrict.invariant hr hidle hlog (fun w log => Streaming me w log) (.start hnew)
    fun w log t ch o r w' _ hf hturn hS hop => by
      rcases World.openHandler_cases hop with hop | ⟨rfl, hsend | ⟨n, rfl, -⟩⟩
      · exact hS.step hf hturn hop
      · exact hS.idle hf hturn (.inl hsend)
      · exact hS.idle hf hturn (.inr ⟨n, rfl⟩)

theorem replied_answered (hf : System.Follows (program D T) log) (conn : Nat) :
    ∃ read, Reads D.codec D.backend me conn (T.frames me conn)
      (Log.own (me, .connection conn) log) read ∧ Answered false read (replied me conn log) := by
  obtain ⟨p, hp⟩ := connection_own hf conn
  obtain ⟨read, hreads, hanswered, -⟩ := connection_answered hp
  exact ⟨read, hreads, hanswered⟩

theorem Streaming.sent_prefix {w : World} (hS : Streaming me w log) (conn : Nat) :
    (w.node me).sent conn <+: replied me conn log := by
  cases hwriter : (w.node me).writer conn with
  | none =>
    obtain ⟨-, hsent, -⟩ := hS.unopened conn hwriter
    rw [hsent]
    exact List.nil_prefix
  | some ch =>
    obtain ⟨pipe, hpipe⟩ := hS.pipe conn ch hwriter
    rw [← hpipe.delivered, ← hpipe.offered]
    exact pipe.delivered_prefix

/-- In every run of any number of servers, whatever their other tasks do. -/
theorem streams_replies (hidle : ∀ t, c₀.task t = .idle none) (hlog : c₀.shared.2 = [])
    (hnew : c₀.shared.1.node me = .new) (hr : (writing D T faulty lookups).Reachable c₀ c)
    (conn : Nat) : StreamsReplies D me conn (T.frames me conn) c.shared.1 c.shared.2 := by
  obtain ⟨htraced, hS⟩ := streaming_reachable hidle hlog hnew hr
  refine ⟨replied_answered htraced.follows conn, fun unread hp => ?_, hS.sent_prefix conn,
    fun ch hwriter => ?_⟩
  · obtain ⟨read, -, hanswered, hunread⟩ := connection_answered hp
    exact ⟨read, hunread unread rfl, hanswered⟩
  · obtain ⟨pipe, hpipe⟩ := hS.pipe conn ch hwriter
    rw [hpipe.chan, ← hpipe.offered, ← hpipe.delivered, ← hpipe.hand]
    exact ⟨pipe.bounded, pipe.offered_of_open⟩

end Runs

/-- An agent registers, and connects a client. -/
def connecting : Traffic where
  request _ _ := .sessionStatus ""
  frames _ _ := [some (.register "app" 8080 "localhost" "http" "secret"),
    some (.tcpConnect "c" "203.0.113.7")]

/-- Both replies are offered, and the writer has written the first of them. -/
def connected : List (Move (String × Work) Unit Choice) :=
  registering 0 "agent" "token" ++
    [.act ("s", .connection 0) .go, .start ("s", .writer 0 0) (), .act ("s", .writer 0 0) .go,
      .act ("s", .writer 0 0) (.io true)]

theorem streams_replies_connected :
    ∃ c, (writing .sample connecting false false).Reachable ready c ∧
      (c.shared.1.node "s").sent 0 = [.welcome "agent" "app" "http"] ∧
      ((c.shared.1.node "s").chan 0).queue = [.tcpConnect "c" "203.0.113.7"] ∧
      StreamsReplies .sample "s" 0 (connecting.frames "s" 0) c.shared.1 c.shared.2 := by
  have hrun : ((writing .sample connecting false false).replay connected ready).map (fun c =>
      ((c.shared.1.node "s").sent 0, ((c.shared.1.node "s").chan 0).queue)) =
      some ([.welcome "agent" "app" "http"], [.tcpConnect "c" "203.0.113.7"]) := by decide +kernel
  obtain ⟨c, hc, hproj⟩ := Option.map_eq_some_iff.mp hrun
  obtain ⟨hsent, hqueue⟩ := Prod.mk.inj hproj
  exact ⟨c, ⟨_, hc⟩, hsent, hqueue, streams_replies (fun _ => rfl) rfl rfl ⟨_, hc⟩ 0⟩

end Connection

end Jrok
