import Jrok.Cluster.Deposed

/-!
# Uncontested ticks

What a tick of server `s` makes of the `cluster_state` row while no other server writes it. The loop
takes the leader's lease for expired by the configured timeout; the statement that would take it
over has a constant of its own.
-/

namespace Jrok

open Concurrency

namespace Cluster

/-- Other servers act, but not on the `cluster_state` row. The flag of `s` is its own. -/
structure Uncontested (s : String) (x x' : World × TickView) : Prop where
  row : x'.1.db.clusterState = x.1.db.clusterState
  clock : x.1.clock ≤ x'.1.clock
  flag : (x'.1.node s).isLeader = (x.1.node s).isLeader
  view : x'.2 = x.2

/-- A tick of the server from `x` to `x'` in which all database calls succeed and no other server
    writes the row. -/
abbrev UncontestedTick (B : Backend) (config : ServerConfig) (x x' : World × TickView) : Prop :=
  Prog.Run (tickHandler B) (Uncontested config.serverId) (heartbeatTick config) x () x'

/-- The row names the server, with the stamp `n`, and the server takes itself for the leader. -/
structure Leads (s : String) (n : Int) (w : World) : Prop where
  leader : w.db.leader = some s
  stamp : w.db.leaderStamp = n
  flag : (w.node s).isLeader = true

/-- The loop finds no leader in the row, or finds itself, or an expired one. -/
def Entitled (config : ServerConfig) (row : ClusterState) (n : Int) : Prop :=
  row.decode.leaderId = none ∨ row.decode.leaderId = some config.serverId ∨
    leaderExpired config n row.lastHeartbeat = true

section Steps

variable {B : Backend} {c : Choice} {s : String} {x x' : World × TickView} {config : ServerConfig}
  {row : ClusterState} {n : Int}

/-- The row and the flag of `s` stay. -/
structure Held (s : String) (w w' : World) : Prop where
  row : w'.db.clusterState = w.db.clusterState
  flag : (w'.node s).isLeader = (w.node s).isLeader

theorem Held.trans {w₁ w₂ w₃ : World} (h₁ : Held s w₁ w₂) (h₂ : Held s w₂ w₃) : Held s w₁ w₃ :=
  ⟨h₂.row.trans h₁.row, h₂.flag.trans h₁.flag⟩

theorem Held.leads {w w' : World} (h : Held s w w') (hl : Leads s n w) : Leads s n w' where
  leader := (Database.leader_congr h.row).trans hl.leader
  stamp := (Database.leaderStamp_congr h.row).trans hl.stamp
  flag := h.flag.trans hl.flag

theorem Held.leads_congr {w w' : World} (h : Held s w w') : Leads s n w' ↔ Leads s n w :=
  ⟨Held.leads ⟨h.row.symm, h.flag.symm⟩, h.leads⟩

theorem Uncontested.held (h : Uncontested s x x') : Held s x.1 x'.1 := ⟨h.row, h.flag⟩

theorem run_storeLeader_leads
    (h : Prog.Run (tickHandler B) (Uncontested config.serverId) (storeLeader config true) x () x') :
    Leads config.serverId n x'.1 ↔
      x.1.db.leader = some config.serverId ∧ x.1.db.leaderStamp = n := by
  obtain ⟨x₁, x₂, hR₁, hR₂, hflag, hdb, -⟩ := run_storeLeader h
  rw [hR₂.held.leads_congr]
  constructor
  · intro hl
    rw [← Database.leader_congr hR₁.row, ← Database.leaderStamp_congr hR₁.row, ← hdb]
    exact ⟨hl.leader, hl.stamp⟩
  · intro hl
    rw [← Database.leader_congr hR₁.row, ← Database.leaderStamp_congr hR₁.row, ← hdb] at hl
    exact ⟨hl.1, hl.2, hflag⟩

/-- A read of the row leaves the world as it is. -/
theorem read_world {r : Except DbError (Option ClusterState)}
    (h : tickHandler B c (.sql .getClusterState) x = some (r, x')) :
    r = .ok x.1.db.clusterState ∧ x'.1 = x.1 := by
  obtain ⟨rfl, hw, -⟩ := sql_step h
  exact ⟨rfl, hw⟩

theorem now_held {m : Int} (h : tickHandler B c .now x = some (m, x')) :
    Held s x.1 x'.1 ∧ x'.2.reading = some m := by
  obtain ⟨hop, hg⟩ := Handler.observe_eq_some.mp h
  obtain ⟨-, -, -, hw⟩ := World.exec_now.mp hop
  exact ⟨⟨by rw [hw], by rw [hw]⟩, by rw [hg]; rfl⟩

/-- Running for leadership wins a row without leader, or with a stamp before the cutoff of the
    statement. -/
theorem run_campaign_uncontested (hrow : x.1.db.clusterState = some row)
    (h : Prog.Run (tickHandler B) (Uncontested config.serverId) (campaign config n) x () x') :
    Leads config.serverId n x'.1 ↔
      row.leaderId = none ∨ row.lastHeartbeat < subI64 n 15000 ∨ Leads config.serverId n x.1 := by
  rw [campaign_eq] at h
  obtain ⟨x₁, c, r, x₂, hR₁, hread, h⟩ := Prog.run_op_iff.mp h
  obtain ⟨x₃, c, r', x₄, hR₃, hbecome, h⟩ := Prog.run_op_iff.mp h
  obtain ⟨-, hw₂⟩ := read_world hread
  obtain ⟨hr', hw₄, -⟩ := sql_step hbecome
  have hheld₁ : Held config.serverId x.1 x₂.1 := by
    rw [hw₂]
    exact hR₁.held
  have hheld₃ := hheld₁.trans hR₃.held
  have hrow₃ : x₃.1.db.clusterState = some row := hheld₃.row.trans hrow
  by_cases hfree : row.leaderId = none ∨ row.lastHeartbeat < subI64 n 15000
  · simp only [Sql.exec, hrow₃, if_pos hfree] at hr' hw₄
    subst hr'
    apply iff_of_true
    · apply (run_storeLeader_leads h).mpr
      rw [hw₄]
      exact ⟨rfl, rfl⟩
    · rw [← or_assoc]
      exact Or.inl hfree
  · simp only [Sql.exec, hrow₃, if_neg hfree] at hr' hw₄
    subst hr'
    obtain ⟨-, hR₅⟩ := Prog.run_ret_iff.mp h
    rw [hR₅.held.leads_congr, hw₄, hheld₃.leads_congr, ← or_assoc, or_iff_right hfree]

/-- Renewing stamps a row that names the server. -/
theorem run_hold_uncontested (hrow : x.1.db.clusterState = some row)
    (hself : row.leaderId = some config.serverId)
    (h : Prog.Run (tickHandler B) (Uncontested config.serverId) (hold config n) x () x') :
    Leads config.serverId n x'.1 := by
  rw [hold_eq] at h
  obtain ⟨x₁, c, r, x₂, hR₁, hrenew, h⟩ := Prog.run_op_iff.mp h
  obtain ⟨hr, hw₂, -⟩ := sql_step hrenew
  have hrow₁ : x₁.1.db.clusterState = some row := by rw [hR₁.row, hrow]
  simp only [Sql.exec, hrow₁, if_pos hself] at hr hw₂
  subst hr
  apply (run_storeLeader_leads h).mpr
  rw [hw₂]
  exact ⟨hself, rfl⟩

theorem decode_leaderId {u : String} (h : row.decode.leaderId = some u) : row.leaderId = some u := by
  have hdecode : decodeLeaderId row.leaderId = some u := h
  cases hl : row.leaderId with
  | none =>
    rw [hl] at hdecode
    cases hdecode
  | some s =>
    rw [hl, decodeLeaderId] at hdecode
    split at hdecode
    · cases hdecode
    · exact hdecode

/-- The decision of an entitled server. -/
theorem run_elect_uncontested (hrow : x.1.db.clusterState = some row)
    (hentitled : Entitled config row n)
    (h : Prog.Run (tickHandler B) (Uncontested config.serverId)
      (elect config n (.ok (some row.decode))) x () x') :
    Leads config.serverId n x'.1 ↔
      row.leaderId = none ∨ row.lastHeartbeat < subI64 n 15000 ∨
        (row.decode.leaderId = some config.serverId ∧
          leaderExpired config n row.lastHeartbeat = false) ∨
        Leads config.serverId n x.1 := by
  unfold elect at h
  dsimp only at h
  split at h
  case isTrue hrun =>
    have hnot : ¬ (row.decode.leaderId = some config.serverId ∧
        leaderExpired config n row.lastHeartbeat = false) := by
      intro hself
      cases hrun with
      | inl hnone =>
        rw [hself.1] at hnone
        cases hnone
      | inr hexpired =>
        have hexpired' : leaderExpired config n row.lastHeartbeat = true := hexpired
        rw [hself.2] at hexpired'
        cases hexpired'
    rw [run_campaign_uncontested hrow h, or_iff_right hnot]
  case isFalse hstay =>
    obtain ⟨hsome, hlive⟩ := not_or.mp hstay
    have hself : row.decode.leaderId = some config.serverId := by
      obtain hnone | hself | hexpired := hentitled
      · exact (hsome hnone).elim
      · exact hself
      · exact (hlive hexpired).elim
    rw [if_pos hself] at h
    apply iff_of_true (run_hold_uncontested hrow (decode_leaderId hself) h)
    exact Or.inr (Or.inr (Or.inl ⟨hself, Bool.eq_false_iff.mpr hlive⟩))

/-- The decision does not read the clock again. -/
theorem elect_issues (state : Except Error (Option ClusterState)) :
    (elect config n state).Issues (fun o => o ≠ Op.now) := by
  have hstore : ∀ b, (storeLeader config b).Issues (fun o => o ≠ Op.now) := by
    intro b
    exact ⟨by simp, fun _ => trivial⟩
  have hcampaign : (campaign config n).Issues (fun o => o ≠ Op.now) := by
    rw [campaign_eq]
    refine ⟨by simp, fun r => ⟨by simp, fun r' => ?_⟩⟩
    dsimp only
    split
    · exact hstore true
    · trivial
  have hhold : (hold config n).Issues (fun o => o ≠ Op.now) := by
    rw [hold_eq]
    refine ⟨by simp, fun r => ?_⟩
    dsimp only
    split
    · exact hstore true
    · exact hstore false
  unfold elect
  split
  · split
    · exact hcampaign
    · split
      · exact hhold
      · exact hstore false
  · exact hcampaign
  · trivial

theorem reading_of_ne_now {o : Op} {r : o.Res} {m : Int} (ho : o ≠ .now)
    (hx : x.2.reading = some m) (h : tickHandler B c o x = some (r, x')) :
    x'.2.reading = some m := by
  obtain ⟨-, hg⟩ := Handler.observe_eq_some.mp h
  rw [hg]
  unfold viewAfter
  split
  · exact (ho rfl).elim
  · exact hx
  · exact hx

end Steps

/-- A server that the row entitles to lead does so after its tick exactly where the statement that
    takes the lease over agrees that it is free, or where it holds an unexpired lease itself, or
    where nothing was to be done. -/
theorem leads_iff {B : Backend} {config : ServerConfig} {w : World} {row : ClusterState}
    {x' : World × TickView} (hrow : w.db.clusterState = some row)
    (h : UncontestedTick B config (w, .start) x') :
    ∃ n, x'.2.reading = some n ∧ (Entitled config row n →
      (Leads config.serverId n x'.1 ↔
        row.leaderId = none ∨ row.lastHeartbeat < subI64 n 15000 ∨
          (row.decode.leaderId = some config.serverId ∧
            leaderExpired config n row.lastHeartbeat = false) ∨
          Leads config.serverId n w)) := by
  unfold UncontestedTick at h
  rw [heartbeatTick_eq] at h
  obtain ⟨x₁, c, beat, x₂, hR₁, hbeat, h⟩ := Prog.run_op_iff.mp h
  obtain ⟨x₃, c, r, x₄, hR₃, hsend, h⟩ := Prog.run_op_iff.mp h
  obtain ⟨hr, hw₄, hg₄⟩ := sql_step hsend
  subst hr
  obtain ⟨x₅, c, n, x₆, hR₅, hnow, h⟩ := Prog.run_op_iff.mp h
  obtain ⟨x₇, c, r, x₈, hR₇, hread, h⟩ := Prog.run_op_iff.mp h
  obtain ⟨rfl, hw₈⟩ := read_world hread
  have hsent : Held config.serverId x₃.1 x₄.1 := ⟨by rw [hw₄]; rfl, by rw [hw₄]⟩
  have hheld₄ : Held config.serverId w x₄.1 :=
    ((hR₁.held.trans (now_held hbeat).1).trans hR₃.held).trans hsent
  have hheld₇ : Held config.serverId w x₇.1 :=
    ((hheld₄.trans hR₅.held).trans (now_held hnow).1).trans hR₇.held
  have hheld₈ : Held config.serverId w x₈.1 := by
    rw [hw₈]
    exact hheld₇
  have hreading : x₈.2.reading = some n := by
    apply reading_of_ne_now (by simp) _ hread
    rw [hR₇.view]
    exact (now_held (s := config.serverId) hnow).2
  rw [hheld₇.row.trans hrow] at h
  refine ⟨n, ?_, ?_⟩
  · apply (elect_issues _).run (fun x => x.2.reading = some n) _ _ hreading h
    · intro y y' hy hR
      rw [hR.view, hy]
    · intro c o y r y' ho hy hop
      exact reading_of_ne_now ho hy hop
  · intro hentitled
    rw [run_elect_uncontested (hheld₈.row.trans hrow) hentitled h, hheld₈.leads_congr]

/-- Server `a` with a timeout of five seconds. -/
def hastyA : ServerConfig :=
  { serverId := "a", httpHost := "h", tcpHost := "t", leaderTimeoutMs := 5000 }

/-- The stamp of server `b` is ten seconds old, and server `a` has just started. -/
def silentB : World where
  db := { Database.migrated with clusterState := some ⟨some "b", 1, 20000⟩ }
  clock := 30000
  issued := []
  node _ := .new

theorem uncontested_silentB (g : TickView) : Uncontested "a" (silentB, g) (silentB, g) where
  row := rfl
  clock := le_refl _
  flag := rfl
  view := rfl

theorem tick_silentB : UncontestedTick .migrated hastyA (silentB, .start)
    (silentB, ⟨some 30000, some ⟨some "b", 1, 20000⟩⟩) := by
  unfold UncontestedTick
  rw [heartbeatTick_eq]
  refine .op (c := .read 30000) (uncontested_silentB _) rfl ?_
  refine .op (c := .go) (uncontested_silentB _) rfl ?_
  refine .op (c := .read 30000) (uncontested_silentB _) rfl ?_
  refine .op (c := .go) (uncontested_silentB _) rfl ?_
  show Prog.Run _ _ (campaign hastyA 30000) _ _ _
  rw [campaign_eq]
  refine .op (c := .go) (uncontested_silentB _) rfl ?_
  refine .op (c := .go) (uncontested_silentB _) rfl ?_
  exact .ret (uncontested_silentB _)

theorem leads_iff_silentB :
    ∃ n, (⟨some 30000, some ⟨some "b", 1, 20000⟩⟩ : TickView).reading = some n ∧
      (Entitled hastyA ⟨some "b", 1, 20000⟩ n →
        (Leads "a" n silentB ↔
          (some "b" = none ∨ 20000 < subI64 n 15000 ∨
            ((⟨some "b", 1, 20000⟩ : ClusterState).decode.leaderId = some "a" ∧
              leaderExpired hastyA n 20000 = false) ∨
            Leads "a" n silentB))) :=
  leads_iff rfl tick_silentB

/-- Expired by the configured timeout, the leader is not replaced. -/
theorem not_taken_over :
    ∃ x', UncontestedTick .migrated hastyA (silentB, .start) x' ∧ x'.2.reading = some 30000 ∧
      1 ≤ hastyA.leaderTimeoutMs.toNat ∧ hastyA.leaderTimeoutMs.toNat < 2 ^ 63 ∧
      silentB.db.clusterState = some ⟨some "b", 1, 20000⟩ ∧ (20000 : Int) ≤ 30000 ∧
      leaderExpired hastyA 30000 20000 = true ∧ x'.1.db.leader = some "b" ∧
      ¬ Leads hastyA.serverId 30000 x'.1 := by
  refine ⟨_, tick_silentB, rfl, by decide, by decide, rfl, by decide, by decide, rfl, ?_⟩
  intro hl
  have hb : some "b" = some "a" := hl.leader
  exact absurd hb (by decide)

end Cluster

end Jrok
