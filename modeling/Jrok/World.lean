import Jrok.Concurrency.Pool
import Jrok.Db.Statements
import Jrok.Int64
import Jrok.Node

/-!
# The world

Any number of server processes, named by their `server_id`, share one database and one clock.
An operation of a program is a clock reading, a random UUID, one SQL statement, or one critical
section on the memory of the process that runs it.

The clock is the last reading taken: a reading is never smaller than an earlier one, and is a
non-negative `i64`. A UUID is never handed out twice. Where `faulty` is set, a SQL statement may
also fail without effect.
-/

namespace Jrok

open Concurrency

structure World where
  db : Database
  clock : Int
  issued : List String
  node : String → Node

/-- A migrated database and no process that has done anything yet. -/
def World.boot : World := ⟨.migrated, 0, [], fun _ => .new⟩

/-- A migrated database in which one server has registered itself. -/
def World.started (me : String) : World :=
  { World.boot with db := ((Sql.registerServer me "h" "t" 0).exec (.keyed none) .migrated).2 }

def World.setNode (w : World) (me : String) (n : Node) : World :=
  { w with node := Function.update w.node me n }

@[simp] theorem World.setNode_db (w : World) (me : String) (n : Node) :
    (w.setNode me n).db = w.db := rfl
@[simp] theorem World.setNode_clock (w : World) (me : String) (n : Node) :
    (w.setNode me n).clock = w.clock := rfl
@[simp] theorem World.setNode_issued (w : World) (me : String) (n : Node) :
    (w.setNode me n).issued = w.issued := rfl
@[simp] theorem World.setNode_node_self (w : World) (me : String) (n : Node) :
    (w.setNode me n).node me = n := by simp [setNode]
@[simp] theorem World.setNode_self (w : World) (me : String) : w.setNode me (w.node me) = w := by
  simp [setNode]
theorem World.setNode_node_ne (w : World) {me other : String} (n : Node) (h : other ≠ me) :
    (w.setNode me n).node other = w.node other := by simp [setNode, h]

inductive Op where
  /-- `current_time_ms()` -/
  | now
  /-- `Uuid::new_v4()` -/
  | uuid
  | sql (q : Sql)
  | node (me : String) (o : NodeOp)

@[reducible] def Op.Res : Op → Type
  | .now => Int
  | .uuid => String
  | .sql q => Except DbError q.Res
  | .node _ o => o.Res

abbrev serverSig : Sig := ⟨Op, Op.Res⟩

/-- Readings of the clock stay below this bound. -/
def clockBound : Int := 2 ^ 63

/-- What an operation answers and does. -/
def World.exec (B : Backend) (faulty : Bool) : Choice → (o : Op) → World → Option (o.Res × World)
  | .read n, .now, w =>
    if w.clock ≤ n ∧ n < clockBound then some (n, { w with clock := n }) else none
  | .fresh u, .uuid, w =>
    if u ∈ w.issued then none else some (u, { w with issued := u :: w.issued })
  | .go, .sql q, w => some ((q.exec B w.db).1, { w with db := (q.exec B w.db).2 })
  | .fail e, .sql _, w => if faulty then some (.error e, w) else none
  | c, .node me o, w => (o.exec c (w.node me)).map fun r => (r.1, w.setNode me r.2)
  | _, _, _ => none

/-- The handler of the operations of server programs. -/
def World.handler (B : Backend) (faulty : Bool) : Handler serverSig World Choice :=
  World.exec B faulty

section Inversion

variable {B : Backend} {faulty : Bool} {c : Choice} {w w' : World}

theorem World.exec_now {r : Int} :
    World.handler B faulty c .now w = some (r, w') ↔
      c = .read r ∧ w.clock ≤ r ∧ r < clockBound ∧ w' = { w with clock := r } := by
  cases c with
  | read n =>
    simp only [handler, exec, Option.ite_none_right_eq_some, Option.some.injEq, Prod.mk.injEq,
      Choice.read.injEq]
    constructor
    · rintro ⟨⟨hlo, hhi⟩, rfl, rfl⟩
      exact ⟨rfl, hlo, hhi, rfl⟩
    · rintro ⟨rfl, hlo, hhi, rfl⟩
      exact ⟨⟨hlo, hhi⟩, rfl, rfl⟩
  | _ => simp [handler, exec]

theorem World.exec_uuid {r : String} :
    World.handler B faulty c .uuid w = some (r, w') ↔
      c = .fresh r ∧ r ∉ w.issued ∧ w' = { w with issued := r :: w.issued } := by
  cases c with
  | fresh u =>
    simp only [handler, exec, Option.ite_none_left_eq_some, Option.some.injEq, Prod.mk.injEq,
      Choice.fresh.injEq]
    constructor
    · rintro ⟨hu, rfl, rfl⟩
      exact ⟨rfl, hu, rfl⟩
    · rintro ⟨rfl, hu, rfl⟩
      exact ⟨hu, rfl, rfl⟩
  | _ => simp [handler, exec]

theorem World.exec_sql {q : Sql} {r : Except DbError q.Res} :
    World.handler B faulty c (.sql q) w = some (r, w') ↔
      (c = .go ∧ r = (q.exec B w.db).1 ∧ w' = { w with db := (q.exec B w.db).2 }) ∨
      (∃ e, c = .fail e ∧ faulty = true ∧ r = .error e ∧ w' = w) := by
  cases c with
  | go =>
    simp only [handler, exec, Option.some.injEq, Prod.mk.injEq, true_and, reduceCtorEq, false_and,
      exists_false, or_false]
    exact and_congr eq_comm eq_comm
  | fail e =>
    simp only [handler, exec, Option.ite_none_right_eq_some, Option.some.injEq, Prod.mk.injEq,
      reduceCtorEq, false_and, false_or, Choice.fail.injEq]
    constructor
    · rintro ⟨hf, rfl, rfl⟩
      exact ⟨e, rfl, hf, rfl, rfl⟩
    · rintro ⟨e', rfl, hf, rfl, rfl⟩
      exact ⟨hf, rfl, rfl⟩
  | _ => simp [handler, exec]

/-- Where database calls do not fail, a statement is executed. -/
theorem World.exec_sql_go {q : Sql} {r : Except DbError q.Res} :
    World.handler B false c (.sql q) w = some (r, w') ↔
      c = .go ∧ r = (q.exec B w.db).1 ∧ w' = { w with db := (q.exec B w.db).2 } := by
  apply exec_sql.trans
  simp

theorem World.exec_node {me : String} {o : NodeOp} {r : o.Res} :
    World.handler B faulty c (.node me o) w = some (r, w') ↔
      ∃ n', o.exec c (w.node me) = some (r, n') ∧ w' = w.setNode me n' := by
  have hexec : World.handler B faulty c (.node me o) w =
      (o.exec c (w.node me)).map fun r => (r.1, w.setNode me r.2) := by
    cases c <;> rfl
  rw [hexec, Option.map_eq_some_iff]
  constructor
  · rintro ⟨⟨r', n'⟩, ho, heq⟩
    obtain ⟨rfl, rfl⟩ := Prod.mk.inj heq
    exact ⟨n', ho, rfl⟩
  · rintro ⟨n', ho, rfl⟩
    exact ⟨(r, n'), ho, rfl⟩

end Inversion

/-- No operation sets the clock back. -/
theorem World.handler_clock {B : Backend} {faulty : Bool} {c : Choice} {o : Op} {w w' : World}
    {r : o.Res} (h : World.handler B faulty c o w = some (r, w')) : w.clock ≤ w'.clock := by
  cases o with
  | now =>
    obtain ⟨-, hlo, -, rfl⟩ := exec_now.mp h
    exact hlo
  | uuid =>
    obtain ⟨-, -, rfl⟩ := exec_uuid.mp h
    exact le_refl _
  | sql q =>
    rcases exec_sql.mp h with ⟨-, -, rfl⟩ | ⟨e, -, -, -, rfl⟩ <;> exact le_refl _
  | node n o =>
    obtain ⟨n', -, rfl⟩ := exec_node.mp h
    exact le_refl _

/-- What an operation does to the agents map of process `me`. -/
def Op.onAgents (me : String) : Op → StringMap AgentState → StringMap AgentState
  | .node n o, m => if n = me then o.onAgents m else m
  | _, m => m

theorem World.handler_agents {B : Backend} {faulty : Bool} {c : Choice} {o : Op} {w w' : World}
    {r : o.Res} (h : World.handler B faulty c o w = some (r, w')) (me : String) :
    (w'.node me).agents = o.onAgents me (w.node me).agents := by
  cases o with
  | now =>
    obtain ⟨-, -, -, rfl⟩ := exec_now.mp h
    rfl
  | uuid =>
    obtain ⟨-, -, rfl⟩ := exec_uuid.mp h
    rfl
  | sql q =>
    rcases exec_sql.mp h with ⟨-, -, rfl⟩ | ⟨e, -, -, -, rfl⟩ <;> rfl
  | node n o =>
    obtain ⟨n', hn', rfl⟩ := exec_node.mp h
    by_cases hme : n = me
    · subst hme
      simpa [Op.onAgents] using (NodeOp.exec_effect hn').agents
    · simp [Op.onAgents, hme, World.setNode_node_ne _ _ (Ne.symm hme)]

/-- An operation inserts an entry of `me`, removes one, or leaves the agents map of `me` alone. -/
theorem World.agents_cases {B : Backend} {faulty : Bool} {c : Choice} {o : Op} {w w' : World}
    {r : o.Res} (h : World.handler B faulty c o w = some (r, w')) (me : String) :
    (∃ id st, o = .node me (.agentsInsert id st) ∧
      (w'.node me).agents = (w.node me).agents.insert id st) ∨
    (∃ id, o = .node me (.agentsRemove id) ∧
      (w'.node me).agents = (w.node me).agents.erase id) ∨
    ((∀ id st, o ≠ .node me (.agentsInsert id st)) ∧ (∀ id, o ≠ .node me (.agentsRemove id)) ∧
      (w'.node me).agents = (w.node me).agents) := by
  have hagents := handler_agents h me
  cases o with
  | node n o =>
    by_cases hn : n = me
    · subst hn
      cases o with
      | agentsInsert id st =>
        exact .inl ⟨id, st, rfl, by simpa [Op.onAgents, NodeOp.onAgents] using hagents⟩
      | agentsRemove id =>
        exact .inr (.inl ⟨id, rfl, by simpa [Op.onAgents, NodeOp.onAgents] using hagents⟩)
      | _ =>
        refine .inr (.inr ⟨by simp, by simp, ?_⟩)
        simpa [Op.onAgents, NodeOp.onAgents] using hagents
    · exact .inr (.inr ⟨by simp [hn], by simp [hn], by simpa [Op.onAgents, hn] using hagents⟩)
  | _ => exact .inr (.inr ⟨by simp, by simp, hagents⟩)

/-- Channel numbers grow, and a writer's channel is a new one. -/
theorem World.handler_writer {B : Backend} {faulty : Bool} {c : Choice} {o : Op} {w w' : World}
    {r : o.Res} (h : World.handler B faulty c o w = some (r, w')) (me : String) :
    (w.node me).nextChan ≤ (w'.node me).nextChan ∧
    ∀ k ch, (w'.node me).writer k = some ch →
      (w.node me).writer k = some ch ∨
        (ch = (w.node me).nextChan ∧ ch < (w'.node me).nextChan) := by
  have hsame : w'.node me = w.node me →
      (w.node me).nextChan ≤ (w'.node me).nextChan ∧
      ∀ k ch, (w'.node me).writer k = some ch →
        (w.node me).writer k = some ch ∨
          (ch = (w.node me).nextChan ∧ ch < (w'.node me).nextChan) := by
    intro hnode
    rw [hnode]
    exact ⟨le_refl _, fun _ _ hk => .inl hk⟩
  cases o with
  | now =>
    obtain ⟨-, -, -, rfl⟩ := exec_now.mp h
    exact hsame rfl
  | uuid =>
    obtain ⟨-, -, rfl⟩ := exec_uuid.mp h
    exact hsame rfl
  | sql q =>
    rcases exec_sql.mp h with ⟨-, -, rfl⟩ | ⟨e, -, -, -, rfl⟩ <;> exact hsame rfl
  | node n o =>
    obtain ⟨n', hn', rfl⟩ := exec_node.mp h
    by_cases hme : n = me
    · subst hme
      have heffect := NodeOp.exec_effect hn'
      simpa using ⟨heffect.nextChan, heffect.writer⟩
    · exact hsame (World.setNode_node_ne _ _ (Ne.symm hme))

/-! ## Sends and look-ups with any outcome -/

/-- Like `World.exec`, except that a send through the agents map may end in any way, without effect,
    and where `lookups` is set an iteration over it may list anything. -/
def World.openExec (B : Backend) (faulty lookups : Bool) :
    Choice → (o : Op) → World → Option (o.Res × World)
  | .order l, .node me .agentsIter, w =>
    if lookups || decide (l.Perm (w.node me).agents.entries) then some (l, w) else none
  | .io ok, .node _ (.agentsSend _ _), w => some (some ok, w)
  | .timeout, .node _ (.agentsSend _ _), w => some (none, w)
  | c, o, w => World.exec B faulty c o w

def World.openHandler (B : Backend) (faulty lookups : Bool) : Handler serverSig World Choice :=
  World.openExec B faulty lookups

theorem World.openHandler_cases {B : Backend} {faulty lookups : Bool} {c : Choice} {o : Op}
    {w w' : World} {r : o.Res}
    (h : World.openHandler B faulty lookups c o w = some (r, w')) :
    World.handler B faulty c o w = some (r, w') ∨
    (w' = w ∧ ((∃ n id m, o = .node n (.agentsSend id m)) ∨
      ∃ n, o = .node n .agentsIter ∧ lookups = true)) := by
  unfold openHandler openExec at h
  split at h
  · split at h
    · rename_i hlisted
      obtain ⟨rfl, rfl⟩ := Prod.mk.inj (Option.some.inj h)
      rcases Bool.or_eq_true_iff.mp hlisted with hlookups | hperm
      · exact .inr ⟨rfl, .inr ⟨_, rfl, hlookups⟩⟩
      · refine .inl (World.exec_node.mpr ⟨_, if_pos (of_decide_eq_true hperm), ?_⟩)
        rw [World.setNode_self]
    · cases h
  · obtain ⟨-, rfl⟩ := Prod.mk.inj (Option.some.inj h)
    exact .inr ⟨rfl, .inl ⟨_, _, _, rfl⟩⟩
  · obtain ⟨-, rfl⟩ := Prod.mk.inj (Option.some.inj h)
    exact .inr ⟨rfl, .inl ⟨_, _, _, rfl⟩⟩
  · exact .inl h

end Jrok
