import Jrok.Agent.Registry
import Jrok.Cluster.Loops

/-!
# Subdomain ownership

Several servers register agents against one database. A registration reads the owner of its
subdomain and the health of that server, and only then writes its row: the upsert itself has no
condition. Two servers that both read before either writes both register. The claims of healthy
servers stay disjoint as long as what a registration has read still holds when it writes its row
and when it inserts its entry.
-/

namespace Jrok

open Concurrency

/-- The server has a row that says it is healthy. -/
def Database.healthy (db : Database) (serverId : String) : Bool :=
  db.servers.rows.any fun s => s.id = serverId && s.isHealthy

/-- Another healthy server has the active row of the subdomain. -/
def Database.heldElsewhere (db : Database) (serverId subdomain : String) : Bool :=
  db.agents.rows.any fun r =>
    r.subdomain = subdomain && r.active && r.serverId ≠ serverId && db.healthy r.serverId

theorem Database.healthy_of_map {db db' : Database} {f : Server → Server}
    (hf : ∀ s, (f s).id = s.id ∧ ((f s).isHealthy = true → s.isHealthy = true))
    (hrows : db'.servers.rows = db.servers.rows.map f) {serverId : String}
    (h : db'.healthy serverId = true) : db.healthy serverId = true := by
  unfold healthy at h ⊢
  rw [hrows, List.any_map] at h
  obtain ⟨s, hs, hmatch⟩ := List.any_eq_true.mp h
  simp only [Function.comp_apply, Bool.and_eq_true, decide_eq_true_eq, (hf s).1] at hmatch
  exact List.any_eq_true.mpr ⟨s, hs, by simp [hmatch.1, (hf s).2 hmatch.2]⟩

theorem Database.eq_of_not_heldElsewhere {db : Database} {serverId subdomain : String}
    {r : AgentRow} (h : db.heldElsewhere serverId subdomain = false) (hr : r ∈ db.agents)
    (hsub : r.subdomain = subdomain) (hactive : r.active = true)
    (hhealthy : db.healthy r.serverId = true) : r.serverId = serverId := by
  have hnot := List.any_eq_false.mp h r hr
  by_contra hne
  simp [hsub, hactive, hne, hhealthy] at hnot

namespace AgentRegistry

/-! ## The servers and their claims -/

/-- What a server does to the tables of agents and servers after its start. -/
inductive ServerCall where
  | registry (call : RegistryCall)
  | heartbeat
  | markServersUnhealthy (timeoutMs : UInt64)
  | shutdown

def ServerCall.run (F : Fleet) (B : Backend) (me : String) :
    ServerCall → ServerProg (Except Error Unit)
  | .registry call => call.run B me
  | .heartbeat => (Db.sendHeartbeat me).run
  | .markServersUnhealthy timeoutMs => (Db.markServersUnhealthy timeoutMs).run
  | .shutdown => (Cluster.shutdown (F.config me)).run

/-- Any number of concurrent calls on every server; a stored row can be read back. -/
def serverPool (F : Fleet) (text : String) :
    System serverSig (String × Nat) Unit ServerCall World Choice where
  handler _ := World.handler (.keyed (some text)) false
  body t _ call := some (call.run F (.keyed (some text)) t.1 >>= fun _ => .ret ())

/-- A registration that has written its row; `returned` once it has inserted its entry, after
    which nothing can make it fail. -/
structure Claim where
  server : String
  subdomain : String
  id : String
  returned : Bool
  deriving DecidableEq

/-- A statement deactivates the active row of the claim. -/
def Claim.deactivated (db db' : Database) (c : Claim) : Bool :=
  db.agents.rows.any fun r => r.subdomain = c.subdomain && r.serverId = c.server && r.active &&
    db'.agents.rows.any fun r' => r'.id = r.id && !r'.active

/-- The claims that have neither been unregistered nor deactivated, and whether a registration
    has ever returned against the claim of another healthy server. -/
structure Ownership where
  claims : List Claim
  clash : Bool

def ownershipAfter (B : Backend) : (o : Op) → o.Res → World → Ownership → Ownership
  | .sql (.registerAgent row), .ok _, _, g =>
    { g with claims := ⟨row.serverId, row.subdomain, row.id, false⟩ :: g.claims }
  | .sql q, _, w, g =>
    { g with claims := g.claims.filter fun c => !c.deactivated w.db (q.exec B w.db).2 }
  | .node n (.agentsInsert id st), _, w, g =>
    { claims := g.claims.map fun c =>
        if c.server = n ∧ c.id = id then { c with returned := true } else c
      clash := g.clash || g.claims.any fun c =>
        c.returned && c.subdomain = st.subdomain && c.server ≠ n && w.db.healthy c.server }
  | .node n (.agentsRemove id), _, _, g =>
    { g with claims := g.claims.filter fun c => !(c.server = n && c.id = id) }
  | _, _, _, g => g

theorem ownershipAfter_sql {B : Backend} {q : Sql} {r : Except DbError q.Res} {w : World}
    {g : Ownership} (hq : ∀ row, q ≠ .registerAgent row) :
    ownershipAfter B (.sql q) r w g =
      { g with claims := g.claims.filter fun c => !c.deactivated w.db (q.exec B w.db).2 } := by
  cases q with
  | registerAgent row => exact absurd rfl (hq row)
  | _ => rfl

/-- Another healthy server holds the subdomain of the row written or of the entry inserted. -/
def contested : Op → World → Bool
  | .sql (.registerAgent row), w => w.db.heldElsewhere row.serverId row.subdomain
  | .node n (.agentsInsert _ st), w => w.db.heldElsewhere n st.subdomain
  | _, _ => false

/-- The operations of the calls: no server registers itself, and a row is written active. -/
def AfterStart : Op → Prop
  | .sql (.registerServer _ _ _ _) => False
  | .sql (.registerAgent row) => row.active = true
  | _ => True

theorem UpkeepOp.afterStart {o : Op} (ho : UpkeepOp o) : AfterStart o := by
  cases ho <;> trivial

theorem RegisterOp.afterStart {tx : Nat} {o : Op} (ho : RegisterOp tx o) : AfterStart o := by
  cases ho with
  | owner h => cases h <;> trivial
  | upsert row h => exact h
  | _ => trivial

theorem RegistryCall.afterStart {B : Backend} {me : String} (call : RegistryCall) :
    (call.run B me).Issues AfterStart := by
  cases call with
  | register subdomain localPort localHost protocol =>
    refine Prog.Issues.bind ?_ fun _ => trivial
    rw [register_eq]
    refine ⟨trivial, fun agentId => ⟨trivial, fun token => ⟨trivial, fun tx => ?_⟩⟩⟩
    exact ((registerWith_issues B me agentId token tx subdomain localPort localHost
      protocol).mono fun _ => RegisterOp.afterStart).bind fun _ => ⟨trivial, fun _ => trivial⟩
  | updateHeartbeat id => exact (updateHeartbeat_issues me id).mono fun _ => UpkeepOp.afterStart
  | unregister id => exact (unregister_issues me id).mono fun _ => UpkeepOp.afterStart
  | cleanupStale timeoutMs =>
    exact (cleanupStale_issues me timeoutMs).mono fun _ => UpkeepOp.afterStart

/-- No server registers itself after its start, and every row is written active. -/
theorem ServerCall.afterStart {F : Fleet} {B : Backend} {me : String} (call : ServerCall) :
    (call.run F B me).Issues AfterStart := by
  cases call with
  | registry call => exact call.afterStart
  | heartbeat =>
    rw [run, Db.sendHeartbeat, run_executeAt]
    exact ⟨trivial, fun _ => ⟨trivial, fun _ => trivial⟩⟩
  | markServersUnhealthy timeoutMs =>
    rw [run, Db.run_markServersUnhealthy]
    refine ⟨trivial, fun now => ⟨trivial, fun r => ?_⟩⟩
    cases r with
    | ok n => exact ⟨trivial, fun _ => trivial⟩
    | error e => trivial
  | shutdown =>
    rw [run, Cluster.shutdown]
    refine Prog.Issues.run_bind ?_ fun _ => ?_
    · rw [Db.markServerUnhealthy, run_execute]
      exact ⟨trivial, fun _ => trivial⟩
    · rw [Db.unregisterAllAgents, run_executeAt]
      exact ⟨trivial, fun _ => ⟨trivial, fun _ => trivial⟩⟩

/-! ## The invariant -/

/-- One row for each subdomain, and a row for the claim of every healthy server. -/
structure OwnershipInv (x : World × Ownership) : Prop where
  one : ∀ r ∈ x.1.db.agents, ∀ r' ∈ x.1.db.agents, r.subdomain = r'.subdomain → r = r'
  row : ∀ c ∈ x.2.claims, x.1.db.healthy c.server = true →
    ∃ r ∈ x.1.db.agents, r.subdomain = c.subdomain ∧ r.serverId = c.server ∧ r.active = true
  clash : x.2.clash = false

section Steps

variable {x x' : World × Ownership}

/-- Claims may go away and their flag may change while the tables stay. -/
theorem OwnershipInv.of_db (hI : OwnershipInv x) (hdb : x'.1.db = x.1.db)
    (hclaims : ∀ c ∈ x'.2.claims, ∃ c₀ ∈ x.2.claims, c₀.server = c.server ∧
      c₀.subdomain = c.subdomain) (hclash : x'.2.clash = false) : OwnershipInv x' where
  one := by rw [hdb]; exact hI.one
  row c hc hhealthy := by
    rw [hdb] at hhealthy ⊢
    obtain ⟨c₀, hc₀, hserver, hsub⟩ := hclaims c hc
    rw [← hserver] at hhealthy ⊢
    rw [← hsub]
    exact hI.row c₀ hc₀ hhealthy
  clash := hclash

/-- Claims drop out with their rows. -/
theorem OwnershipInv.of_rows {f : AgentRow → AgentRow} {g : Server → Server}
    (hI : OwnershipInv x)
    (hf : ∀ r, (f r).id = r.id ∧ (f r).subdomain = r.subdomain ∧ (f r).serverId = r.serverId)
    (hagents : x'.1.db.agents.rows = x.1.db.agents.rows.map f)
    (hg : ∀ s, (g s).id = s.id ∧ ((g s).isHealthy = true → s.isHealthy = true))
    (hservers : x'.1.db.servers.rows = x.1.db.servers.rows.map g)
    (hclaims : x'.2.claims = x.2.claims.filter fun c => !c.deactivated x.1.db x'.1.db)
    (hclash : x'.2.clash = x.2.clash) : OwnershipInv x' where
  one r hr r' hr' hsub := by
    rw [Relational.Table.mem_iff, hagents, List.mem_map] at hr hr'
    obtain ⟨r, hr, rfl⟩ := hr
    obtain ⟨r', hr', rfl⟩ := hr'
    rw [(hf r).2.1, (hf r').2.1] at hsub
    rw [hI.one r hr r' hr' hsub]
  row c hc hhealthy := by
    rw [hclaims, List.mem_filter] at hc
    obtain ⟨hc, hkept⟩ := hc
    obtain ⟨r, hr, hsub, hserver, hactive⟩ :=
      hI.row c hc (Database.healthy_of_map hg hservers hhealthy)
    have hmem : f r ∈ x'.1.db.agents.rows := hagents ▸ List.mem_map_of_mem hr
    refine ⟨f r, hmem, (hf r).2.1.trans hsub, (hf r).2.2.trans hserver, ?_⟩
    by_contra hinactive
    have hdeactivated : c.deactivated x.1.db x'.1.db = true := by
      refine List.any_eq_true.mpr ⟨r, hr, ?_⟩
      simp only [hsub, hserver, hactive, decide_true, Bool.and_self, Bool.true_and]
      exact List.any_eq_true.mpr ⟨f r, hmem, by simp [(hf r).1, hinactive]⟩
    simp [hdeactivated] at hkept
  clash := hclash.trans hI.clash

/-- A row written for a new claim, against which no other healthy server holds the subdomain. -/
theorem OwnershipInv.claim {row : AgentRow} (hI : OwnershipInv x)
    (hunheld : x.1.db.heldElsewhere row.serverId row.subdomain = false)
    (hhealthy : ∀ s, x'.1.db.healthy s = true → x.1.db.healthy s = true)
    (hnew : ∃ r ∈ x'.1.db.agents, r.subdomain = row.subdomain ∧ r.serverId = row.serverId ∧
      r.active = true)
    (hold : ∀ r ∈ x.1.db.agents, r.subdomain ≠ row.subdomain → r ∈ x'.1.db.agents)
    (hone : ∀ r ∈ x'.1.db.agents, ∀ r' ∈ x'.1.db.agents, r.subdomain = r'.subdomain → r = r')
    (hg : x'.2 = { x.2 with
      claims := ⟨row.serverId, row.subdomain, row.id, false⟩ :: x.2.claims }) :
    OwnershipInv x' where
  one := hone
  clash := by rw [hg]; exact hI.clash
  row c hc hs := by
    rw [hg] at hc
    rcases List.mem_cons.mp hc with rfl | hc
    · exact hnew
    · obtain ⟨r, hr, hsub, hserver, hactive⟩ := hI.row c hc (hhealthy c.server hs)
      by_cases hd : r.subdomain = row.subdomain
      · -- the row of the old claim is now the new one, so its server is the same
        have howner := Database.eq_of_not_heldElsewhere hunheld hr hd hactive
          (hserver ▸ hhealthy c.server hs)
        rw [← hsub, hd, ← hserver, howner]
        exact hnew
      · exact ⟨r, hold r hr hd, hsub, hserver, hactive⟩

/-- The upsert of a registration that no other healthy server stands against. -/
theorem OwnershipInv.upsert {B : Backend} {row : AgentRow} {r : Except DbError Nat}
    (hI : OwnershipInv x) (hactive : row.active = true)
    (hunheld : x.1.db.heldElsewhere row.serverId row.subdomain = false)
    (hr : r = ((Sql.registerAgent row).exec B x.1.db).1)
    (hw : x'.1 = { x.1 with db := ((Sql.registerAgent row).exec B x.1.db).2 })
    (hg : x'.2 = ownershipAfter B (.sql (.registerAgent row)) r x.1 x.2) : OwnershipInv x' := by
  obtain ⟨g, hgkeep, hservers⟩ :=
    Sql.exec_servers B x.1.db (q := .registerAgent row) (by intros; simp)
  have hhealthy : ∀ s, x'.1.db.healthy s = true → x.1.db.healthy s = true := by
    intro s hs
    exact Database.healthy_of_map hgkeep (by rw [hw]; exact hservers) hs
  have hmem : ∀ r', r' ∈ x'.1.db.agents ↔
      r' ∈ ((Sql.registerAgent row).exec B x.1.db).2.agents := by
    intro r'
    rw [hw]
  rcases Sql.exec_registerAgent B x.1.db row with ⟨e, hexec⟩ | ⟨n, hok, ⟨r₀, hr₀, hd₀⟩, hrows⟩ |
    ⟨hok, hboth, hrows⟩
  · rw [hexec] at hr hw
    subst hr
    refine hI.of_db (by rw [hw]) (fun c hc => ?_) (by rw [hg]; exact hI.clash)
    rw [hg] at hc
    exact ⟨c, List.mem_of_mem_filter hc, rfl, rfl⟩
  · have hagents := fun r' => (hmem r').trans (hrows r')
    refine hI.claim hunheld hhealthy ⟨_, (hagents _).mpr ⟨r₀, hr₀, if_pos hd₀⟩, hd₀, rfl, rfl⟩
      (fun r' hr' hd => (hagents r').mpr ⟨r', hr', if_neg hd⟩) ?_ (by rw [hg, hr, hok]; rfl)
    intro r₁ hr₁ r₂ hr₂ hsub
    obtain ⟨s₁, hs₁, rfl⟩ := (hagents r₁).mp hr₁
    obtain ⟨s₂, hs₂, rfl⟩ := (hagents r₂).mp hr₂
    have hkeep : ∀ r : AgentRow, (if r.subdomain = row.subdomain then
        { row with id := r.id, subdomain := r.subdomain, active := true } else r).subdomain =
          r.subdomain := by
      intro r
      split <;> rfl
    rw [hkeep, hkeep] at hsub
    rw [hI.one s₁ hs₁ s₂ hs₂ hsub]
  · have hagents := fun r' => (hmem r').trans (hrows r')
    refine hI.claim hunheld hhealthy ⟨row, (hagents row).mpr (.inr rfl), rfl, rfl, hactive⟩
      (fun r' hr' _ => (hagents r').mpr (.inl hr')) ?_ (by rw [hg, hr, hok]; rfl)
    intro r₁ hr₁ r₂ hr₂ hsub
    rcases (hagents r₁).mp hr₁ with hr₁ | rfl <;> rcases (hagents r₂).mp hr₂ with hr₂ | rfl
    · exact hI.one r₁ hr₁ r₂ hr₂ hsub
    · exact absurd hsub (hboth r₁ hr₁).2
    · exact absurd hsub.symm (hboth r₂ hr₂).2
    · rfl

/-- Any other statement of a server after its start. -/
theorem OwnershipInv.statement {B : Backend} {q : Sql} {r : Except DbError q.Res}
    (hI : OwnershipInv x) (hq : ∀ row, q ≠ .registerAgent row) (ho : AfterStart (.sql q))
    (hw : x'.1 = { x.1 with db := (q.exec B x.1.db).2 })
    (hg : x'.2 = ownershipAfter B (.sql q) r x.1 x.2) : OwnershipInv x' := by
  obtain ⟨f, hf, hagents⟩ := Sql.exec_agents B x.1.db hq
  obtain ⟨g, hgkeep, hservers⟩ := Sql.exec_servers B x.1.db (q := q) (by
    rintro id httpHost tcpHost now rfl
    exact ho)
  rw [ownershipAfter_sql hq] at hg
  refine hI.of_rows (fun r => ⟨(hf r).1, (hf r).2.1, (hf r).2.2.1⟩) (by rw [hw]; exact hagents)
    hgkeep (by rw [hw]; exact hservers) ?_ ?_
  · rw [hg, hw]
  · rw [hg]

/-- No claim of another healthy server is there when an uncontested entry is inserted. -/
theorem OwnershipInv.no_clash {n id : String} {st : AgentState} (hI : OwnershipInv x)
    (hunheld : x.1.db.heldElsewhere n st.subdomain = false) (B : Backend) :
    (ownershipAfter B (.node n (.agentsInsert id st)) () x.1 x.2).clash = false := by
  simp only [ownershipAfter, hI.clash, Bool.false_or]
  apply List.any_eq_false.mpr
  intro c hc hmatch
  simp only [Bool.and_eq_true, decide_eq_true_eq] at hmatch
  obtain ⟨⟨⟨-, hd⟩, hother⟩, hhealthy⟩ := hmatch
  obtain ⟨r, hr, hsub, hserver, hactive⟩ := hI.row c hc hhealthy
  have howner := Database.eq_of_not_heldElsewhere hunheld hr (hsub.trans hd) hactive
    (hserver ▸ hhealthy)
  exact hother (hserver.symm.trans howner)

/-- Every operation that the servers issue and that is not contested keeps the invariant. -/
theorem OwnershipInv.step {B : Backend} {c : Choice} {o : Op} {r : o.Res} (hI : OwnershipInv x)
    (ho : AfterStart o) (hunheld : contested o x.1 = false)
    (h : (World.handler B false).observe (ownershipAfter B) c o x = some (r, x')) :
    OwnershipInv x' := by
  obtain ⟨hop, hg⟩ := Handler.observe_eq_some.mp h
  have hsame : x'.1.db = x.1.db → x'.2 = x.2 → OwnershipInv x' := by
    intro hdb hclaims
    exact ⟨by rw [hdb]; exact hI.one, by rw [hdb, hclaims]; exact hI.row,
      by rw [hclaims]; exact hI.clash⟩
  cases o with
  | now =>
    obtain ⟨-, -, -, hw⟩ := World.exec_now.mp hop
    exact hsame (by rw [hw]) hg
  | uuid =>
    obtain ⟨-, -, hw⟩ := World.exec_uuid.mp hop
    exact hsame (by rw [hw]) hg
  | sql q =>
    obtain ⟨-, hr, hw⟩ := World.exec_sql_go.mp hop
    by_cases hupsert : ∃ row, q = .registerAgent row
    · obtain ⟨row, rfl⟩ := hupsert
      exact hI.upsert ho hunheld hr hw hg
    · exact hI.statement (fun row hrow => hupsert ⟨row, hrow⟩) ho hw hg
  | node n o =>
    obtain ⟨n', -, hw⟩ := World.exec_node.mp hop
    have hdb : x'.1.db = x.1.db := by rw [hw]; rfl
    cases o with
    | agentsInsert id st =>
      refine hI.of_db hdb (fun c hc => ?_) (by rw [hg]; exact hI.no_clash hunheld B)
      rw [hg] at hc
      obtain ⟨c₀, hc₀, rfl⟩ := List.mem_map.mp hc
      refine ⟨c₀, hc₀, ?_⟩
      split <;> exact ⟨rfl, rfl⟩
    | agentsRemove id =>
      refine hI.of_db hdb (fun c hc => ?_) (by rw [hg]; exact hI.clash)
      rw [hg] at hc
      exact ⟨c, List.mem_of_mem_filter hc, rfl, rfl⟩
    | _ => exact hsame hdb hg

end Steps

/-- The servers with their claims as history. -/
abbrev claimPool (F : Fleet) (text : String) :
    System serverSig (String × Nat) Unit ServerCall (World × Ownership) Choice :=
  (serverPool F text).observe fun _ => ownershipAfter (.keyed (some text))

/-- Its runs in which every registration finds its subdomain unheld at both of its writes. -/
abbrev unheldPool (F : Fleet) (text : String) :
    System serverSig (String × Nat) Unit ServerCall (World × Ownership) Choice :=
  (claimPool F text).restrict fun _ o _ x => contested o x.1 = false

/-- In every such run no registration has returned against a claim of another healthy server, and
    no two healthy servers have a claim on the same subdomain. -/
theorem subdomain_owned {F : Fleet} {text : String}
    {c₀ c : Config serverSig (String × Nat) Unit (World × Ownership)}
    (hidle : ∀ t, c₀.task t = .idle ())
    (hone : ∀ r ∈ c₀.shared.1.db.agents, ∀ r' ∈ c₀.shared.1.db.agents,
      r.subdomain = r'.subdomain → r = r')
    (hnone : c₀.shared.2 = ⟨[], false⟩) (hr : (unheldPool F text).Reachable c₀ c) :
    c.shared.2.clash = false ∧
    ∀ a ∈ c.shared.2.claims, ∀ b ∈ c.shared.2.claims, a.subdomain = b.subdomain →
      c.shared.1.db.healthy a.server = true → c.shared.1.db.healthy b.server = true →
      a.server = b.server := by
  have hI : OwnershipInv c.shared := by
    refine hr.shared_invariant_of_issues (P := fun _ => AfterStart) ?_ ?_ OwnershipInv ?_
      ⟨hone, by simp [hnone], by rw [hnone]⟩
    · intro t l call p hp
      obtain rfl := Option.some.inj hp
      exact call.afterStart.bind fun _ => trivial
    · intro t
      rw [hidle t]
      trivial
    · intro t ch o x r x' ho hI hop
      rw [System.restrict_handler] at hop
      obtain ⟨hop, hunheld⟩ := Handler.restrict_eq_some.mp hop
      exact hI.step ho hunheld hop
  refine ⟨hI.clash, fun a ha b hb hsub hhealthya hhealthyb => ?_⟩
  obtain ⟨r, hr, hra, hserver, -⟩ := hI.row a ha hhealthya
  obtain ⟨r', hr', hrb, hserver', -⟩ := hI.row b hb hhealthyb
  rw [← hserver, ← hserver', hI.one r hr r' hr' (by rw [hra, hrb, hsub])]

/-- Two healthy servers `a` and `b`, between calls. -/
def twoServers : Config serverSig (String × Nat) Unit (World × Ownership) :=
  let db := ((Sql.registerServer "a" "h" "t" 0).exec (.keyed none) .migrated).2
  let db := ((Sql.registerServer "b" "h" "t" 0).exec (.keyed none) db).2
  ⟨({ World.boot with db := db }, ⟨[], false⟩), fun _ => .idle ()⟩

/-- A registration of `demo` on a server: up to its reads, and from there to its end. -/
def ownerReads (t : String × Nat) (id token : String) (reads : Nat) :
    List (Move (String × Nat) ServerCall Choice) :=
  [.start t (.registry (.register "demo" 8080 "localhost" .http)), .act t (.fresh id),
    .act t (.fresh token), .act t .go] ++ List.replicate reads (.act t .go)

def ownerWrites (t : String × Nat) (now : Int) : List (Move (String × Nat) ServerCall Choice) :=
  [.act t (.read now), .act t (.read now), .act t (.read now), .act t .go, .act t (.read now),
    .act t .go, .act t .go, .finish t]

/-- The second registration finds the row of the first and its healthy server, and is refused. -/
theorem subdomain_owned_in_turn :
    ∃ c, (unheldPool (.behind "h" "t") "").Reachable twoServers c ∧ c.shared.2.clash = false ∧
      ∀ a ∈ c.shared.2.claims, ∀ b ∈ c.shared.2.claims, a.subdomain = b.subdomain →
        c.shared.1.db.healthy a.server = true → c.shared.1.db.healthy b.server = true →
        a.server = b.server := by
  have hrun : ((unheldPool (.behind "h" "t") "").replay
      (ownerReads ("a", 0) "i" "k" 1 ++ ownerWrites ("a", 0) 1000 ++
        ownerReads ("b", 0) "j" "l" 3 ++ [.finish ("b", 0)]) twoServers).map
          (fun c => c.shared.2.claims) = some [⟨"a", "demo", "i", true⟩] := by decide +kernel
  obtain ⟨c, hc, -⟩ := Option.map_eq_some_iff.mp hrun
  exact ⟨c, ⟨_, hc⟩, subdomain_owned (fun _ => rfl)
    (fun r hr => absurd hr (Relational.Table.notMem_empty r)) rfl ⟨_, hc⟩⟩

/-- Both servers read before either writes, and both registrations return. -/
theorem subdomain_owned_twice :
    ∃ c, (claimPool (.behind "h" "t") "").Reachable twoServers c ∧ c.shared.2.clash = true ∧
      c.shared.2.claims = [⟨"b", "demo", "j", true⟩, ⟨"a", "demo", "i", true⟩] ∧
      c.shared.1.db.healthy "a" = true ∧ c.shared.1.db.healthy "b" = true ∧
      "i" ∈ (c.shared.1.node "a").agents ∧ "j" ∈ (c.shared.1.node "b").agents := by
  have hrun : ((claimPool (.behind "h" "t") "").replay
      (ownerReads ("a", 0) "i" "k" 1 ++ ownerReads ("b", 0) "j" "l" 1 ++
        ownerWrites ("a", 0) 1000 ++ ownerWrites ("b", 0) 2000) twoServers).map
          (fun c => (c.shared.2.claims,
            [c.shared.2.clash, c.shared.1.db.healthy "a", c.shared.1.db.healthy "b"],
            [(c.shared.1.node "a").agents.keys, (c.shared.1.node "b").agents.keys])) =
      some ([⟨"b", "demo", "j", true⟩, ⟨"a", "demo", "i", true⟩], [true, true, true],
        [["i"], ["j"]]) := by decide +kernel
  obtain ⟨c, hc, hproj⟩ := Option.map_eq_some_iff.mp hrun
  simp only [Prod.mk.injEq, List.cons.injEq, and_true] at hproj
  obtain ⟨hclaims, ⟨hclash, ha, hb⟩, hkeysa, hkeysb⟩ := hproj
  refine ⟨c, ⟨_, hc⟩, hclash, hclaims, ha, hb, ?_, ?_⟩
  · show "i" ∈ (c.shared.1.node "a").agents.keys
    simp [hkeysa]
  · show "j" ∈ (c.shared.1.node "b").agents.keys
    simp [hkeysb]

end AgentRegistry

end Jrok
