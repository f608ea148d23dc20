import Jrok.Cluster.Loops
import Mathlib.Algebra.Order.Group.Int

/-!
# One tick under interference

What the servers of a fleet do to the `cluster_state` row between the statements of a tick: time
moves forward, and after any change by another server the row names that server. Hence the
reading that a tick takes at its start stays ahead of the stamp of the row for as long as nobody
else is the leader, however long the tick stalls.

`TickRules` is the proof rule for a tick. A property of the runs of the fleet supplies its
invariant, its rely and guarantee, and one step lemma each for the operations that leave the row
alone, for the read before `become_leader`, for `become_leader` and for `renew_leadership`.
-/

namespace Jrok

open Concurrency

namespace Cluster

/-- The operations of other servers as server `s` sees them. -/
def RowRely (s : String) (w w' : World) : Prop :=
  w.clock ≤ w'.clock ∧
    ((w'.db.leader = none ∨ w'.db.leader = some s) → w'.db.clusterState = w.db.clusterState)

/-- What a server does: its changes of the row name it and do not set the stamp back. -/
structure RowGuar (s : String) (w w' : World) : Prop where
  clock : w.clock ≤ w'.clock
  row : w'.db.clusterState = w.db.clusterState ∨ w'.db.leader = some s
  stamp : w.db.leaderStamp ≤ w'.db.leaderStamp

theorem RowRely.refl (s : String) (w : World) : RowRely s w w := ⟨le_refl _, fun _ => rfl⟩

theorem RowRely.trans {s : String} {w₁ w₂ w₃ : World} (h₁ : RowRely s w₁ w₂)
    (h₂ : RowRely s w₂ w₃) : RowRely s w₁ w₃ := by
  refine ⟨h₁.1.trans h₂.1, fun hl => ?_⟩
  have hrow := h₂.2 hl
  refine hrow.trans (h₁.2 ?_)
  rwa [← Database.leader_congr hrow]

theorem RowGuar.rely {s u : String} {w w' : World} (hne : s ≠ u) (h : RowGuar s w w') :
    RowRely u w w' := by
  refine ⟨h.clock, fun hu => ?_⟩
  rcases h.row with hrow | hs
  · exact hrow
  · simp [hs, hne] at hu

/-- The reading `n` that server `s` took in this tick: it lies in the past, and it is not before
    the stamp as long as no other server is the leader. -/
structure Fresh (s : String) (n : Int) (w : World) : Prop where
  nonneg : 0 ≤ n
  bounded : n < clockBound
  le_clock : n ≤ w.clock
  ahead : w.db.leader = none ∨ w.db.leader = some s → w.db.leaderStamp ≤ n

theorem Fresh.stable {s : String} {n : Int} {w w' : World} (h : Fresh s n w)
    (hR : RowRely s w w') : Fresh s n w' where
  nonneg := h.nonneg
  bounded := h.bounded
  le_clock := h.le_clock.trans hR.1
  ahead hl := by
    have hrow := hR.2 hl
    rw [Database.leader_congr hrow] at hl
    rw [Database.leaderStamp_congr hrow]
    exact h.ahead hl

/-- The cutoff that `become_leader` binds does not wrap. -/
theorem Fresh.cutoff {s : String} {n : Int} {w : World} (h : Fresh s n w) :
    subI64 n 15000 = n - 15000 := by
  have h0 := h.nonneg
  have hb := h.bounded
  exact subI64_of_range (by omega) (by unfold clockBound at hb; omega)

/-- A step that leaves the row alone. -/
structure Quiet (w w' : World) : Prop where
  clock : w.clock ≤ w'.clock
  row : w'.db.clusterState = w.db.clusterState

theorem Quiet.of_eq {w w' : World} (h : w' = w) : Quiet w w' := ⟨h ▸ le_refl _, h ▸ rfl⟩

theorem Quiet.rely {s : String} {w w' : World} (h : Quiet w w') : RowRely s w w' :=
  ⟨h.clock, fun _ => h.row⟩

theorem Quiet.guar {s : String} {w w' : World} (h : Quiet w w') : RowGuar s w w' :=
  ⟨h.clock, .inl h.row, (Database.leaderStamp_congr h.row).ge⟩

/-- The operations of a tick that leave the row alone. -/
inductive QuietOp (s : String) : Op → Prop where
  | now : QuietOp s .now
  | beat (n : Int) : QuietOp s (.sql (.sendHeartbeat n s))
  | read : QuietOp s (.sql .getClusterState)
  | store (b : Bool) : QuietOp s (.node s (.storeLeader b))

section Steps

variable {B : Backend} {faulty : Bool} {s : String} {c : Choice} {w w' : World}

theorem QuietOp.quiet {o : Op} {r : o.Res} (ho : QuietOp s o)
    (h : World.handler B faulty c o w = some (r, w')) : Quiet w w' := by
  cases ho with
  | now =>
    obtain ⟨-, hlo, -, hw⟩ := World.exec_now.mp h
    exact ⟨by rw [hw]; exact hlo, by rw [hw]⟩
  | beat n =>
    rcases World.exec_sql.mp h with ⟨-, -, hw⟩ | ⟨e, -, -, -, hw⟩
    · exact ⟨by rw [hw], by rw [hw]; rfl⟩
    · exact ⟨by rw [hw], by rw [hw]⟩
  | read =>
    rcases World.exec_sql.mp h with ⟨-, -, hw⟩ | ⟨e, -, -, -, hw⟩
    · exact ⟨by rw [hw], by rw [hw]; rfl⟩
    · exact ⟨by rw [hw], by rw [hw]⟩
  | store b =>
    obtain ⟨n', -, hw⟩ := World.exec_node.mp h
    exact ⟨by rw [hw]; rfl, by rw [hw]; rfl⟩

/-- `become_leader` fails, changes no row, or wins a row that is free or stamped before the
    cutoff. -/
theorem becomeLeader_cases {term n old : Int} {r : Except DbError Nat}
    (h : World.handler B faulty c (.sql (.becomeLeader s term n old)) w = some (r, w')) :
    (w' = w ∧ (r = .ok 0 ∨ ∃ e, r = .error e)) ∨
    (∃ row, w.db.clusterState = some row ∧ (row.leaderId = none ∨ row.lastHeartbeat < old) ∧
      r = .ok 1 ∧
      w' = { w with db := { w.db with clusterState := some ⟨some s, term, n⟩ } }) := by
  rcases World.exec_sql.mp h with ⟨-, hr, hw⟩ | ⟨e, -, -, hr, hw⟩
  · rcases Sql.exec_becomeLeader B w.db s term n old with hsame | ⟨row, hrow, hfree, hnew⟩
    · rw [hsame] at hr hw
      exact .inl ⟨hw, .inl hr⟩
    · rw [hnew] at hr hw
      exact .inr ⟨row, hrow, hfree, hr, hw⟩
  · exact .inl ⟨hw, .inr ⟨e, hr⟩⟩

/-- `renew_leadership` fails, changes no row, or stamps the row of its own server. -/
theorem renewLeadership_cases {n : Int} {r : Except DbError Nat}
    (h : World.handler B faulty c (.sql (.renewLeadership n s)) w = some (r, w')) :
    (w' = w ∧ (r = .ok 0 ∨ ∃ e, r = .error e)) ∨
    (∃ row, w.db.clusterState = some row ∧ row.leaderId = some s ∧ r = .ok 1 ∧
      w' = { w with
        db := { w.db with clusterState := some { row with lastHeartbeat := n } } }) := by
  rcases World.exec_sql.mp h with ⟨-, hr, hw⟩ | ⟨e, -, -, hr, hw⟩
  · rcases Sql.exec_renewLeadership B w.db s n with hsame | ⟨row, hrow, hholds, hnew⟩
    · rw [hsame] at hr hw
      exact .inl ⟨hw, .inl hr⟩
    · rw [hnew] at hr hw
      exact .inr ⟨row, hrow, hholds, hr, hw⟩
  · exact .inl ⟨hw, .inr ⟨e, hr⟩⟩

theorem leader_of_row {row : ClusterState} (h : w.db.clusterState = some row) :
    w.db.leader = row.leaderId ∧ w.db.leaderStamp = row.lastHeartbeat := by
  simp [Database.leader, Database.leaderStamp, h]

/-- A row that a fresh reading wins is stamped no later than that reading. -/
theorem Fresh.stamp_le_of_won {n : Int} {row : ClusterState} (hf : Fresh s n w)
    (hrow : w.db.clusterState = some row)
    (hfree : row.leaderId = none ∨ row.lastHeartbeat < subI64 n 15000) :
    w.db.leaderStamp ≤ n := by
  obtain ⟨hleader, hstamp⟩ := leader_of_row hrow
  rcases hfree with hnone | hlate
  · exact hf.ahead (.inl (hleader.trans hnone))
  · rw [hf.cutoff] at hlate
    omega

end Steps

/-! ## The proof rule -/

section Rules

variable {γ : Type} (B : Backend) (f : (o : Op) → o.Res → World → γ → γ) (s : String)
  (I : World × γ → Prop) (R G : World × γ → World × γ → Prop) (asks : Int → World × γ → Prop)

/-- What has to be shown of the operations of a tick of server `s` for an invariant `I`, a rely
    `R` and a guarantee `G`. `asks term` is what is known of the term that the read before
    `become_leader` leads to. -/
structure TickRules : Prop where
  rely_row : ∀ {x x'}, R x x' → RowRely s x.1 x'.1
  time : ∀ {x}, I x → 0 ≤ x.1.clock ∧ x.1.db.leaderStamp ≤ x.1.clock
  quiet : ∀ {c o r x x'}, QuietOp s o → I x →
    (World.handler B true).observe f c o x = some (r, x') → I x' ∧ G x x'
  reads : ∀ {c r x x'}, I x →
    (World.handler B true).observe f c (.sql .getClusterState) x = some (r, x') →
    asks (newTerm ((r.mapError .database).map fun row => row.map ClusterState.decode)) x'
  asks_rely : ∀ {term x x'}, asks term x → R x x' → asks term x'
  become : ∀ {c term n r x x'}, I x → Fresh s n x.1 → asks term x →
    (World.handler B true).observe f c (.sql (.becomeLeader s term n (subI64 n 15000))) x =
      some (r, x') → I x' ∧ G x x'
  renew : ∀ {c n r x x'}, I x → Fresh s n x.1 →
    (World.handler B true).observe f c (.sql (.renewLeadership n s)) x = some (r, x') →
    I x' ∧ G x x'

namespace TickRules

variable {B f s I R G asks} (T : TickRules B f s I R G asks) {config : ServerConfig}
  {x : World × γ}

/-- A program of the server is correct under interference. -/
abbrev Ok (_ : TickRules B f s I R G asks) (p : ServerProg Unit) (x : World × γ) : Prop :=
  p.wp ((World.handler B true).observe f) I R G (fun _ _ => True) x

/-- A quiet operation is correct if what follows is. -/
theorem op_quiet {o : Op} {k : o.Res → ServerProg Unit} (ho : QuietOp s o)
    (hk : ∀ {c r x₁ x₂}, R x x₁ → I x₁ →
      (World.handler B true).observe f c o x₁ = some (r, x₂) → Quiet x₁.1 x₂.1 →
      T.Ok (k r) x₂) : T.Ok (.op o k) x := by
  intro x₁ hR hI c r x₂ hop
  obtain ⟨hI₂, hG⟩ := T.quiet ho hI hop
  exact ⟨hI₂, hG, hk hR hI hop (ho.quiet (Handler.observe_eq_some.mp hop).1)⟩

theorem storeLeader (hs : config.serverId = s) (b : Bool) :
    T.Ok (Cluster.storeLeader config b) x := by
  subst hs
  exact T.op_quiet (.store b) fun _ _ _ _ => trivial

theorem campaign (hs : config.serverId = s) {n : Int} (hf : Fresh s n x.1) :
    T.Ok (Cluster.campaign config n) x := by
  rw [campaign_eq, hs]
  refine T.op_quiet .read fun hR hI hop hq => ?_
  have hasks := T.reads hI hop
  have hf₂ := (hf.stable (T.rely_row hR)).stable hq.rely
  -- the server may stall here: neither its reading nor what it asks for gets old
  intro x₃ hR₃ hI₃ c r x₄ hop₄
  obtain ⟨hI₄, hG⟩ := T.become hI₃ (hf₂.stable (T.rely_row hR₃)) (T.asks_rely hasks hR₃) hop₄
  refine ⟨hI₄, hG, ?_⟩
  dsimp only
  split
  · exact T.storeLeader hs true
  · trivial

theorem hold (hs : config.serverId = s) {n : Int} (hf : Fresh s n x.1) :
    T.Ok (Cluster.hold config n) x := by
  rw [hold_eq, hs]
  intro x₁ hR hI c r x₂ hop
  obtain ⟨hI₂, hG⟩ := T.renew hI (hf.stable (T.rely_row hR)) hop
  refine ⟨hI₂, hG, ?_⟩
  dsimp only
  split
  · exact T.storeLeader hs true
  · exact T.storeLeader hs false

theorem elect (hs : config.serverId = s) {n : Int} (hf : Fresh s n x.1)
    (state : Except Error (Option ClusterState)) : T.Ok (Cluster.elect config n state) x := by
  unfold Cluster.elect
  split
  · split
    · exact T.campaign hs hf
    · split
      · exact T.hold hs hf
      · exact T.storeLeader hs false
  · exact T.campaign hs hf
  · trivial

/-- The proof rule: a tick is correct whatever the other servers do within `R`. -/
theorem tick (hs : config.serverId = s) : T.Ok (heartbeatTick config) x := by
  rw [heartbeatTick_eq, hs]
  refine T.op_quiet .now fun {_ beat _ _} _ _ _ _ => ?_
  refine T.op_quiet (.beat beat) fun {_ r _ _} _ _ _ _ => ?_
  cases r with
  | error e => trivial
  | ok count =>
    refine T.op_quiet .now fun {_ n _ x₂} _ hI hop hq => ?_
    obtain ⟨-, hlo, hhi, hw⟩ := World.exec_now.mp (Handler.observe_eq_some.mp hop).1
    obtain ⟨hnonneg, hstamp⟩ := T.time hI
    have hf : Fresh s n x₂.1 := by
      refine ⟨hnonneg.trans hlo, hhi, by rw [hw], fun _ => ?_⟩
      rw [Database.leaderStamp_congr hq.row]
      exact hstamp.trans hlo
    refine T.op_quiet .read fun hR _ _ hq => ?_
    exact T.elect hs ((hf.stable (T.rely_row hR)).stable hq.rely) _

end TickRules

end Rules

/-- The rules for every server give a proof outline of the fleet. -/
def TickRules.outline {γ : Type} {f : String → (o : Op) → o.Res → World → γ → γ}
    {I : World × γ → Prop} {R G : String → World × γ → World × γ → Prop}
    {asks : String → Int → World × γ → Prop} (F : Fleet) (B : Backend)
    (T : ∀ s, TickRules B (f s) s I (R s) (G s) (asks s)) (hrefl : ∀ s x, R s x x)
    (htrans : ∀ s x y z, R s x y → R s y z → R s x z)
    (hguar : ∀ s u x x', s ≠ u → G s x x' → R u x x') :
    System.Outline ((F.heartbeats B true).observe f) where
  inv := I
  rely := R
  guar := G
  loc _ _ _ := True
  rely_refl := hrefl
  rely_trans := htrans
  guar_rely := hguar
  loc_stable _ _ _ _ _ _ := trivial
  body_ok s l i p x hp _ _ := by
    obtain rfl : heartbeatTick (F.config s) = p := by simpa [Fleet.heartbeats] using hp
    exact (T s).tick (F.serverId_eq s)

end Cluster

end Jrok
