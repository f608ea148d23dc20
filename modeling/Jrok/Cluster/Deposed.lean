import Jrok.Cluster.Tick

/-!
# Deposed leaders

What a tick of server `s` makes of its `is_leader` flag while the row names another server all
the time. Other servers may do anything between two operations of the tick that keeps it so.

The branch that runs for leadership stores the flag only when it wins, so a deposed leader that
enters it keeps its flag.
-/

namespace Jrok

open Concurrency

namespace Cluster

/-- The row names a server other than `s`. -/
def LedByOther (s : String) (w : World) : Prop := ∃ u, w.db.leader = some u ∧ u ≠ s

/-- What a tick has seen: its last reading of the clock and its first read of the row. -/
structure TickView where
  reading : Option Int
  row : Option ClusterState

def TickView.start : TickView := ⟨none, none⟩

def viewAfter : (o : Op) → o.Res → World → TickView → TickView
  | .now, n, _, g => { g with reading := some n }
  | .sql .getClusterState, .ok row, _, g => { g with row := g.row.or row }
  | _, _, _, g => g

/-- The operations of server `s` in a tick in which every database call returns `Ok`. -/
abbrev tickHandler (B : Backend) : Handler serverSig (World × TickView) Choice :=
  (World.handler B false).observe viewAfter

/-- Other servers act while the row names another server than `s`. The flag of `s` is its own. -/
structure Others (s : String) (x x' : World × TickView) : Prop where
  before : LedByOther s x.1
  after : LedByOther s x'.1
  clock : x.1.clock ≤ x'.1.clock
  flag : (x'.1.node s).isLeader = (x.1.node s).isLeader
  view : x'.2 = x.2

/-- A tick of `s` from `x` to `x'` with the row naming another server at every moment. -/
abbrev DeposedTick (B : Backend) (config : ServerConfig) (x x' : World × TickView) : Prop :=
  Prog.Run (tickHandler B) (Others config.serverId) (heartbeatTick config) x () x'

/-- The flag of `s` and the view of its tick stay. -/
structure Same (s : String) (x x' : World × TickView) : Prop where
  flag : (x'.1.node s).isLeader = (x.1.node s).isLeader
  view : x'.2 = x.2

theorem Same.trans {s : String} {x y z : World × TickView} (h₁ : Same s x y) (h₂ : Same s y z) :
    Same s x z :=
  ⟨h₂.flag.trans h₁.flag, h₂.view.trans h₁.view⟩

theorem Others.same {s : String} {x x' : World × TickView} (h : Others s x x') : Same s x x' :=
  ⟨h.flag, h.view⟩

section Steps

variable {B : Backend} {c : Choice} {s : String} {x x' : World × TickView} {config : ServerConfig}

/-- A statement answers what `Sql.exec` says and leaves the memory of all processes alone. -/
theorem sql_step {q : Sql} {r : Except DbError q.Res}
    (h : tickHandler B c (.sql q) x = some (r, x')) :
    r = (q.exec B x.1.db).1 ∧ x'.1 = { x.1 with db := (q.exec B x.1.db).2 } ∧
      x'.2 = viewAfter (.sql q) r x.1 x.2 := by
  obtain ⟨hop, hg⟩ := Handler.observe_eq_some.mp h
  obtain ⟨-, hr, hw⟩ := World.exec_sql_go.mp hop
  exact ⟨hr, hw, hg⟩

theorem now_step {n : Int} (h : tickHandler B c .now x = some (n, x')) :
    (x'.1.node s).isLeader = (x.1.node s).isLeader ∧ x'.2 = { x.2 with reading := some n } := by
  obtain ⟨hop, hg⟩ := Handler.observe_eq_some.mp h
  obtain ⟨-, -, -, hw⟩ := World.exec_now.mp hop
  exact ⟨by rw [hw], hg⟩

/-- A read of the row is the first one of the tick, or leaves no trace. -/
theorem read_step {r : Except DbError (Option ClusterState)}
    (h : tickHandler B c (.sql .getClusterState) x = some (r, x')) :
    r = .ok x.1.db.clusterState ∧ (x'.1.node s).isLeader = (x.1.node s).isLeader ∧
      x'.2 = { x.2 with row := x.2.row.or x.1.db.clusterState } := by
  obtain ⟨rfl, hw, hg⟩ := sql_step h
  exact ⟨rfl, by rw [hw], hg⟩

/-- The last operation of a tick that stores the flag, whatever the other servers do. -/
theorem run_storeLeader {R : World × TickView → World × TickView → Prop} {b : Bool}
    (h : Prog.Run (tickHandler B) R (storeLeader config b) x () x') :
    ∃ x₁ x₂, R x x₁ ∧ R x₂ x' ∧ (x₂.1.node config.serverId).isLeader = b ∧
      x₂.1.db = x₁.1.db ∧ x₂.2 = x₁.2 := by
  obtain ⟨x₁, c, r, x₂, hR, hop, hret⟩ := Prog.run_op_iff.mp h
  obtain ⟨-, hR₂⟩ := Prog.run_ret_iff.mp hret
  obtain ⟨hop, hg⟩ := Handler.observe_eq_some.mp hop
  obtain ⟨n', hn', hw⟩ := World.exec_node.mp hop
  have hflag : n'.isLeader = b := by
    cases c <;> simp only [NodeOp.exec, Option.some.injEq, Prod.mk.injEq, reduceCtorEq] at hn'
    rw [← hn'.2]
  refine ⟨x₁, x₂, hR, hR₂, ?_, ?_, hg⟩
  · rw [hw, World.setNode_node_self, hflag]
  · rw [hw, World.setNode_db]

/-- Running for leadership cannot succeed here, and leaves the flag as it was. -/
theorem run_campaign {n : Int} {row : ClusterState} (hrow : x.2.row = some row)
    (h : Prog.Run (tickHandler B) (Others config.serverId) (campaign config n) x () x') :
    Same config.serverId x x' := by
  rw [campaign_eq] at h
  obtain ⟨x₁, c, r, x₂, hR₁, hread, h⟩ := Prog.run_op_iff.mp h
  obtain ⟨x₃, c, r', x₄, hR₂, hbecome, h⟩ := Prog.run_op_iff.mp h
  obtain ⟨-, hflag, hview⟩ := read_step (s := config.serverId) hread
  have h₂ : Same config.serverId x₁ x₂ := by
    refine ⟨hflag, ?_⟩
    rw [hview, hR₁.view, hrow]
    simp only [Option.some_or]
    rw [← hrow]
  obtain ⟨hr', hw, hg⟩ := sql_step hbecome
  have h₄ : Same config.serverId x x₃ := (hR₁.same.trans h₂).trans hR₂.same
  rcases Sql.exec_becomeLeader B x₃.1.db config.serverId
    (newTerm ((r.mapError .database).map fun row => row.map ClusterState.decode)) n
    (subI64 n 15000) with hsame | ⟨row', -, -, hwon⟩
  · rw [hsame] at hr' hw
    subst hr'
    obtain ⟨-, hR₃⟩ := Prog.run_ret_iff.mp h
    exact (h₄.trans ⟨by rw [hw], hg⟩).trans hR₃.same
  · -- had it won, the row would name `s` right after
    rw [hwon] at hw
    obtain ⟨y, hR₃⟩ := h.others_first
    obtain ⟨u, hu, hne⟩ := hR₃.before
    have hself : x₄.1.db.leader = some config.serverId := by rw [hw]; rfl
    exact absurd (Option.some.inj (hu.symm.trans hself)) hne

/-- The decision of a tick that has read a row which names another server. -/
theorem run_elect {n : Int} {row : ClusterState} {u : String} (hu : row.leaderId = some u)
    (hne : u ≠ config.serverId) (hrow : x.2.row = some row)
    (h : Prog.Run (tickHandler B) (Others config.serverId)
      (elect config n (.ok (some row.decode))) x () x') :
    ((x'.1.node config.serverId).isLeader = false ↔
      (x.1.node config.serverId).isLeader = false ∨
        (row.decode.leaderId ≠ none ∧ leaderExpired config n row.lastHeartbeat = false)) ∧
    x'.2 = x.2 := by
  have hdecode : row.decode.leaderId = none ∨ row.decode.leaderId = some u := by
    rw [ClusterState.decode, hu]
    unfold decodeLeaderId
    dsimp only
    split <;> simp
  have hself : row.decode.leaderId ≠ some config.serverId := by
    rcases hdecode with hnone | hsome
    · simp [hnone]
    · simpa [hsome] using hne
  unfold elect at h
  dsimp only at h
  split at h
  case isTrue hrun =>
    have hsame := run_campaign hrow h
    refine ⟨?_, hsame.view⟩
    rw [hsame.flag]
    constructor
    · exact .inl
    · rintro (hflag | ⟨hleader, hexpired⟩)
      · exact hflag
      · rcases hrun with hnone | htrue
        · exact absurd hnone hleader
        · exact absurd (htrue.symm.trans hexpired) (by decide)
  case isFalse hstay =>
    obtain ⟨x₁, x₂, hR₁, hR₂, hflag, -, hview⟩ := run_storeLeader h
    refine ⟨iff_of_true (hR₂.flag.trans hflag) (.inr ?_), hR₂.view.trans (hview.trans hR₁.view)⟩
    obtain ⟨hleader, hexpired⟩ := not_or.mp hstay
    exact ⟨hleader, Bool.eq_false_iff.mpr hexpired⟩

end Steps

/-- A deposed server ends its tick with the flag down exactly if the flag was down before, or the
    row that the tick reads has a leader and is not expired by the loop's own test. -/
theorem steps_down_iff {B : Backend} {config : ServerConfig} {w : World}
    {x' : World × TickView} (h : DeposedTick B config (w, .start) x') :
    ∃ n row, x'.2 = ⟨some n, some row⟩ ∧
      ((x'.1.node config.serverId).isLeader = false ↔
        (w.node config.serverId).isLeader = false ∨
          (row.decode.leaderId ≠ none ∧ leaderExpired config n row.lastHeartbeat = false)) := by
  unfold DeposedTick at h
  rw [heartbeatTick_eq] at h
  obtain ⟨x₁, c, beat, x₂, hR₁, hbeat, h⟩ := Prog.run_op_iff.mp h
  obtain ⟨x₃, c, r, x₄, hR₃, hsend, h⟩ := Prog.run_op_iff.mp h
  obtain ⟨hr, hw₄, hg₄⟩ := sql_step hsend
  subst hr
  obtain ⟨x₅, c, n, x₆, hR₅, hnow, h⟩ := Prog.run_op_iff.mp h
  obtain ⟨x₇, c, r, x₈, hR₇, hread, h⟩ := Prog.run_op_iff.mp h
  obtain ⟨hflag₂, hview₂⟩ := now_step (s := config.serverId) hbeat
  obtain ⟨hflag₆, hview₆⟩ := now_step (s := config.serverId) hnow
  obtain ⟨rfl, hflag₈, hview₈⟩ := read_step (s := config.serverId) hread
  obtain ⟨u, hu, hne⟩ := hR₇.after
  obtain ⟨row, hrow, hleader⟩ := Option.bind_eq_some_iff.mp hu
  have hview : x₈.2 = ⟨some n, some row⟩ := by
    rw [hview₈, hR₇.view, hview₆, hR₅.view, hg₄, hR₃.view, hview₂, hR₁.view, hrow]
    rfl
  have hflag : (x₈.1.node config.serverId).isLeader = (w.node config.serverId).isLeader := by
    rw [hflag₈, hR₇.flag, hflag₆, hR₅.flag, hw₄, hR₃.flag, hflag₂, hR₁.flag]
  rw [hrow] at h
  obtain ⟨hiff, hview'⟩ := run_elect hleader hne (by rw [hview]) h
  rw [hflag] at hiff
  exact ⟨n, row, hview'.trans hview, hiff⟩

/-- Server `b` leads by the row, with the stamp `n`; server `a` still takes itself for the
    leader. -/
def ledByB (n : Int) : World where
  db := { Database.migrated with clusterState := some ⟨some "b", 1, n⟩ }
  clock := 36000
  issued := []
  node _ := { Node.new with isLeader := true }

/-- At any two stamps of `b` the state before the tick of `a`, and between two of its
    operations, is one that others may lead to. -/
theorem others_ledByB (n m : Int) (g : TickView) : Others "a" (ledByB n, g) (ledByB m, g) where
  before := ⟨"b", rfl, by decide⟩
  after := ⟨"b", rfl, by decide⟩
  clock := le_refl _
  flag := rfl
  view := rfl

def configA : ServerConfig := { serverId := "a", httpHost := "h", tcpHost := "t" }

/-- Server `b` renews late, between the read of `a` and its `become_leader`. -/
theorem tick_late_renewal : DeposedTick .migrated configA (ledByB 20000, .start)
    (ledByB 36000, ⟨some 36000, some ⟨some "b", 1, 20000⟩⟩) := by
  have hcalm := others_ledByB 20000 20000
  unfold DeposedTick
  rw [heartbeatTick_eq]
  refine .op (c := .read 36000) (hcalm _) rfl ?_
  refine .op (c := .go) (hcalm _) rfl ?_
  refine .op (c := .read 36000) (hcalm _) rfl ?_
  refine .op (c := .go) (hcalm _) rfl ?_
  show Prog.Run _ _ (campaign configA 36000) _ _ _
  rw [campaign_eq]
  refine .op (c := .go) (hcalm _) rfl ?_
  refine .op (c := .go) (others_ledByB 20000 36000 _) rfl ?_
  exact .ret (others_ledByB 36000 36000 _)

theorem steps_down_iff_late_renewal :
    ∃ n row, (⟨some 36000, some ⟨some "b", 1, 20000⟩⟩ : TickView) = ⟨some n, some row⟩ ∧
      (((ledByB 36000).node "a").isLeader = false ↔
        ((ledByB 20000).node "a").isLeader = false ∨
          (row.decode.leaderId ≠ none ∧ leaderExpired configA n row.lastHeartbeat = false)) :=
  steps_down_iff tick_late_renewal

/-- After the tick with the late renewal server `a` keeps its flag. -/
theorem keeps_flag_late_renewal :
    ∃ x', DeposedTick .migrated configA (ledByB 20000, .start) x' ∧
      (x'.1.node configA.serverId).isLeader = true :=
  ⟨_, tick_late_renewal, rfl⟩

end Cluster

end Jrok
