import Jrok.Agent.Registry

/-!
# Registry and table

The correspondence between the in-memory map of a server and its active rows in `agents`, under
calls that run one after another. Two statements break it. The upsert of `register` keeps the id
of an existing row of the subdomain, while the map gets the new id. And the sweep of the table
takes its own reading of the clock, so that it may deactivate the row of an agent that the sweep
of the map has kept.
-/

namespace Jrok

open Concurrency

namespace AgentRegistry

/-- Every entry of the map is the id of an active row of this server with the same subdomain, and
    every active row of this server has its id in the map. -/
structure Agree (me : String) (w : World) : Prop where
  entry : ∀ id st, (w.node me).agents.lookup id = some st → ∃ r ∈ w.db.agents,
    r.id = id ∧ r.subdomain = st.subdomain ∧ r.serverId = me ∧ r.active = true
  row : ∀ r ∈ w.db.agents, r.serverId = me → r.active = true → r.id ∈ (w.node me).agents

/-- An upsert hits no row of its subdomain, and a sweep of the table no row whose id is in the map
    of its server. -/
def InStep : Op → World → Prop
  | .sql (.registerAgent row), w => ∀ r ∈ w.db.agents.rows, r.subdomain ≠ row.subdomain
  | .sql (.cleanupStaleAgents serverId cutoff), w => ∀ r ∈ w.db.agents.rows,
    r.serverId = serverId → r.lastHeartbeat < cutoff → r.active = true →
      r.id ∉ (w.node serverId).agents
  | _, _ => True

instance (o : Op) (w : World) : Decidable (InStep o w) := by
  unfold InStep
  split <;> infer_instance

/-- The operations of calls whose steps meet this condition, with `subdomain` as a key. -/
abbrev inStepHandler (text : Option String) : Handler serverSig World Choice :=
  (World.handler (.keyed text) false).restrict fun o _ w => InStep o w

/-- The invariant: besides the correspondence, no id of a row will be handed out again. -/
structure AgreeInv (me : String) (w : World) : Prop where
  agree : Agree me w
  issued : ∀ r ∈ w.db.agents, r.id ∈ w.issued

section Steps

variable {me : String} {w w' : World}

/-- Steps that change neither the map nor the rows keep the invariant. -/
theorem AgreeInv.of_same (hI : AgreeInv me w) (hrows : w'.db.agents = w.db.agents)
    (hmap : (w'.node me).agents = (w.node me).agents) (hissued : w.issued ⊆ w'.issued) :
    AgreeInv me w' where
  agree := ⟨by rw [hrows, hmap]; exact hI.agree.entry, by rw [hrows, hmap]; exact hI.agree.row⟩
  issued r hr := hissued (hI.issued r (hrows ▸ hr))

theorem AgreeInv.same (hI : AgreeInv me w) (h : SameAgents w w') : AgreeInv me w' :=
  hI.of_same h.rows (h.map me) h.issued

/-- A new row and a new entry under the same id. -/
theorem AgreeInv.add {row : AgentRow} {st : AgentState} (hI : AgreeInv me w)
    (hrows : ∀ r, r ∈ w'.db.agents ↔ r ∈ w.db.agents ∨ r = row)
    (hmap : (w'.node me).agents = (w.node me).agents.insert row.id st)
    (hissued : w.issued ⊆ w'.issued) (hid : row.id ∈ w'.issued) (hserver : row.serverId = me)
    (hactive : row.active = true) (hsub : row.subdomain = st.subdomain) : AgreeInv me w' where
  agree := by
    refine ⟨fun id st' h => ?_, fun r hr hme hr' => ?_⟩
    · rw [hmap] at h
      by_cases hrow : id = row.id
      · subst hrow
        obtain rfl : st = st' := by simpa using h
        exact ⟨row, (hrows row).mpr (.inr rfl), rfl, hsub, hserver, hactive⟩
      · rw [AList.lookup_insert_ne hrow] at h
        obtain ⟨r, hr, hprops⟩ := hI.agree.entry id st' h
        exact ⟨r, (hrows r).mpr (.inl hr), hprops⟩
    · rw [hmap]
      apply AList.mem_insert _ |>.mpr
      rcases (hrows r).mp hr with hold | rfl
      · exact .inr (hI.agree.row r hold hme hr')
      · exact .inl rfl
  issued r hr := by
    rcases (hrows r).mp hr with hold | rfl
    · exact hissued (hI.issued r hold)
    · exact hid

/-- An entry is removed and the row with its id is deactivated. -/
theorem AgreeInv.remove (hI : AgreeInv me w) (id : String) (f : AgentRow → AgentRow)
    (hrows : ∀ r', r' ∈ w'.db.agents ↔ ∃ r ∈ w.db.agents, (if r.id = id then f r else r) = r')
    (hmap : (w'.node me).agents = (w.node me).agents.erase id)
    (hf : ∀ r, (f r).id = r.id ∧ (f r).active = false) (hissued : w.issued ⊆ w'.issued) :
    AgreeInv me w' where
  agree := by
    refine ⟨fun k st h => ?_, fun r' hr' hme hactive => ?_⟩
    · rw [hmap] at h
      have hk : k ≠ id := by
        rintro rfl
        simp at h
      rw [AList.lookup_erase_ne hk] at h
      obtain ⟨r, hr, hid, hprops⟩ := hI.agree.entry k st h
      exact ⟨r, (hrows r).mpr ⟨r, hr, if_neg (hid ▸ hk)⟩, hid, hprops⟩
    · obtain ⟨r, hr, rfl⟩ := (hrows r').mp hr'
      rw [hmap]
      split at hactive
      · rw [(hf r).2] at hactive
        exact Bool.noConfusion hactive
      · rename_i hid
        rw [if_neg hid] at hme ⊢
        exact AList.mem_erase.mpr ⟨hid, hI.agree.row r hr hme hactive⟩
  issued r' hr' := by
    obtain ⟨r, hr, rfl⟩ := (hrows r').mp hr'
    have hkeep : (if r.id = id then f r else r).id = r.id := by
      split
      · exact (hf r).1
      · rfl
    rw [hkeep]
    exact hissued (hI.issued r hr)

/-- A statement that changes nothing of a row but its heartbeat. -/
theorem AgreeInv.touch {p : AgentRow → Bool} {n : Int} (hI : AgreeInv me w)
    (hrows : ∀ r', r' ∈ w'.db.agents ↔
      ∃ r ∈ w.db.agents, (if p r then { r with lastHeartbeat := n } else r) = r')
    (hmap : (w'.node me).agents = (w.node me).agents) (hissued : w.issued ⊆ w'.issued) :
    AgreeInv me w' where
  agree := by
    refine ⟨fun id st h => ?_, fun r' hr' hme hactive => ?_⟩
    · rw [hmap] at h
      obtain ⟨r, hr, hprops⟩ := hI.agree.entry id st h
      refine ⟨_, (hrows _).mpr ⟨r, hr, rfl⟩, ?_⟩
      split <;> exact hprops
    · obtain ⟨r, hr, rfl⟩ := (hrows r').mp hr'
      rw [hmap]
      split at hme <;> simp_all [hI.agree.row r hr]
  issued r' hr' := by
    obtain ⟨r, hr, rfl⟩ := (hrows r').mp hr'
    have hkeep : (if p r then { r with lastHeartbeat := n } else r).id = r.id := by
      split <;> rfl
    rw [hkeep]
    exact hissued (hI.issued r hr)

end Steps

section Calls

variable {text : Option String} {me : String} {w : World}

/-- Every uninterrupted run of the program restores the invariant. -/
abbrev Restores {α : Type} (text : Option String) (me : String) (p : ServerProg α) (w : World) :
    Prop :=
  p.post (inStepHandler text) (fun _ => AgreeInv me) w

/-- An operation that leaves the agents alone is taken with the invariant on both sides. -/
theorem sameAgents_of_step {c : Choice} {o : Op} {r : o.Res} {w w' : World} (ho : AgentsKept o)
    (h : inStepHandler text c o w = some (r, w')) : SameAgents w w' :=
  ho.same (Handler.restrict_eq_some.mp h).1

/-- A statement goes through, and meets its condition. -/
theorem sql_of_step {c : Choice} {q : Sql} {r : Except DbError q.Res} {w w' : World}
    (h : inStepHandler text c (.sql q) w = some (r, w')) :
    InStep (.sql q) w ∧ r = (q.exec (.keyed text) w.db).1 ∧
      w' = { w with db := (q.exec (.keyed text) w.db).2 } := by
  obtain ⟨hop, hin⟩ := Handler.restrict_eq_some.mp h
  exact ⟨hin, (World.exec_sql_go.mp hop).2⟩

theorem restores_unregister {id : String} (hI : AgreeInv me w) :
    Restores text me (unregister me id).run w := by
  rw [Restores, unregister_eq, Prog.post_op]
  intro c st w₁ hremove
  obtain ⟨rfl, hdb, hclock, hissued, hmap⟩ := remove_step (Handler.restrict_eq_some.mp hremove).1
  cases hst : (w.node me).agents.lookup id with
  | none =>
    refine Prog.post_ret.mpr (hI.of_same (by rw [hdb]) ?_ (by rw [hissued]; exact fun _ h => h))
    rw [hmap, erase_of_lookup_none hst]
  | some st =>
    simp only [Prog.post_op, Prog.post_ret]
    intro c now w₂ hnow c r w₃ hsql
    have hsame := sameAgents_of_step .now hnow
    obtain ⟨-, -, rfl⟩ := sql_of_step hsql
    refine hI.remove id (fun r => { r with active := false, lastHeartbeat := now })
      (fun r' => ?_) ?_ (fun r => ⟨rfl, rfl⟩) ?_
    · rw [← hdb, ← hsame.rows]
      exact (Relational.Table.mem_updateWhere (by intro; rfl)).trans (by simp)
    · show (w₂.node me).agents = _
      rw [hsame.map, hmap]
    · rw [← hissued]
      exact hsame.issued

theorem restores_updateHeartbeat {id : String} (hI : AgreeInv me w) :
    Restores text me (updateHeartbeat me id).run w := by
  simp only [Restores, updateHeartbeat_eq, Prog.post_op, Prog.post_ret]
  intro c st w₁ hget c now w₂ hnow c r w₃ hsql
  have hsame := (sameAgents_of_step (.getMut me id) hget).trans (sameAgents_of_step .now hnow)
  obtain ⟨-, -, rfl⟩ := sql_of_step hsql
  refine (hI.same hsame).touch (p := fun r => r.id = id) (n := now) (fun r' => ?_) rfl
    fun _ h => h
  exact Relational.Table.mem_updateWhere (by intro; rfl)

theorem restores_unregisterAll {ids : List String} (hI : AgreeInv me w) :
    Restores text me (unregisterAll me ids).run w := by
  induction ids generalizing w with
  | nil => exact Prog.post_ret.mpr hI
  | cons id rest ih =>
    rw [Restores, unregisterAll_cons, Prog.post_bind]
    refine Prog.post_mono (fun r w' hI' => ?_) (restores_unregister hI)
    cases r with
    | ok u => exact ih hI'
    | error e => exact Prog.post_ret.mpr hI'

/-- A sweep of the table in step has no row to deactivate. -/
theorem AgreeInv.sweep {cutoff : Int} (hI : AgreeInv me w)
    (hin : InStep (.sql (.cleanupStaleAgents me cutoff)) w) (B : Backend) :
    AgreeInv me { w with db := ((Sql.cleanupStaleAgents me cutoff).exec B w.db).2 } := by
  have hnone : ∀ r ∈ w.db.agents.rows,
      (decide (r.serverId = me) && decide (r.lastHeartbeat < cutoff) && r.active) = false := by
    intro r hr
    by_contra hmatch
    simp only [Bool.not_eq_false, Bool.and_eq_true, decide_eq_true_eq] at hmatch
    obtain ⟨⟨hserver, hstale⟩, hactive⟩ := hmatch
    exact hin r hr hserver hstale hactive (hI.agree.row r hr hserver hactive)
  have hrows : ∀ r', r' ∈ ((Sql.cleanupStaleAgents me cutoff).exec B w.db).2.agents ↔
      r' ∈ w.db.agents := by
    intro r'
    apply (Relational.Table.mem_updateWhere (by intro; rfl)).trans
    constructor
    · rintro ⟨r, hr, rfl⟩
      rwa [hnone r hr]
    · intro hr
      exact ⟨r', hr, by rw [hnone r' hr]; rfl⟩
  refine ⟨⟨fun id st h => ?_, fun r hr => hI.agree.row r ((hrows r).mp hr)⟩,
    fun r hr => hI.issued r ((hrows r).mp hr)⟩
  obtain ⟨r, hr, hprops⟩ := hI.agree.entry id st h
  exact ⟨r, (hrows r).mpr hr, hprops⟩

theorem restores_cleanupStale {timeoutMs : Int} (hI : AgreeInv me w) :
    Restores text me (cleanupStale me timeoutMs).run w := by
  rw [Restores, cleanupStale_eq, Prog.post_op]
  intro c now w₁ hnow
  rw [Prog.post_op]
  intro c entries w₂ hiter
  have hsame := (sameAgents_of_step .now hnow).trans (sameAgents_of_step (.iter me) hiter)
  rw [Prog.post_bind]
  refine Prog.post_mono (fun r w₃ hI₃ => ?_) (restores_unregisterAll (hI.same hsame))
  cases r with
  | error e => exact Prog.post_ret.mpr hI₃
  | ok u =>
    simp only [Prog.post_op, Prog.post_ret]
    intro c now w₄ hnow c r w₅ hsql
    obtain ⟨hin, -, rfl⟩ := sql_of_step hsql
    exact (hI₃.same (sameAgents_of_step .now hnow)).sweep hin _

/-- The check before the upsert changes nothing. -/
theorem checkOwner_post {subdomain : String} :
    (checkOwner (.keyed text) me subdomain).run.post (inStepHandler text) (fun _ w' => w' = w)
      w := by
  refine (checkOwner_issues _ me subdomain).post (fun w' => w' = w) ?_ rfl
  rintro c o w₁ r w₂ ho rfl hop
  exact ho.same (Handler.restrict_eq_some.mp hop).1

theorem restores_registerWith {agentId token subdomain localHost : String} {tx : Nat}
    {localPort : UInt16} {protocol : Protocol} (hI : AgreeInv me w) (hid : agentId ∈ w.issued) :
    Restores text me (registerWith (.keyed text) me agentId token tx subdomain localPort localHost
      protocol).run w := by
  rw [Restores, registerWith_eq, Prog.post_bind]
  refine Prog.post_mono ?_ checkOwner_post
  rintro r w rfl
  cases r with
  | error e => exact Prog.post_ret.mpr hI
  | ok u =>
    simp only [Prog.post_op]
    intro c connectedAt w₁ h₁ c beat w₂ h₂ c now w₃ h₃ c r w₄ hupsert
    have hsame := ((sameAgents_of_step .now h₁).trans (sameAgents_of_step .now h₂)).trans
      (sameAgents_of_step .now h₃)
    obtain ⟨hnew, hr, hw₄⟩ := sql_of_step hupsert
    rcases Sql.exec_registerAgent (.keyed text) w₃.db _ with ⟨e, hexec⟩ |
      ⟨n, -, ⟨r₀, hr₀, hsub⟩, -⟩ | ⟨hok, -, hrows⟩
    · rw [hexec] at hr hw₄
      subst hr hw₄
      exact Prog.post_ret.mpr (hI.same hsame)
    · exact absurd hsub (hnew r₀ hr₀)
    · rw [hok] at hr
      subst hr hw₄
      simp only [Prog.post_op, Prog.post_ret]
      intro c stamp w₅ h₅ c _ w₆ hinsert
      have hsame₅ := sameAgents_of_step .now h₅
      obtain ⟨hdb, -, hissued, hmap⟩ := insert_step (Handler.restrict_eq_some.mp hinsert).1
      have hadded := fun r =>
        Iff.trans (a := r ∈ w₆.db.agents) (by rw [hdb, hsame₅.rows]) (hrows r)
      rw [hsame.rows] at hadded
      rw [hsame₅.map, hsame.map] at hmap
      have hsub : w.issued ⊆ w₆.issued := by
        rw [hissued]
        exact fun u hu => hsame₅.issued (hsame.issued hu)
      exact hI.add hadded hmap hsub (hsub hid) rfl rfl rfl

theorem restores_register {subdomain localHost : String} {localPort : UInt16}
    {protocol : Protocol} (hI : AgreeInv me w) :
    Restores text me (register (.keyed text) me subdomain localPort localHost protocol) w := by
  simp only [Restores, register_eq, Prog.post_op]
  intro c agentId w₁ hid c token w₂ htoken c tx w₃ hchan
  obtain ⟨-, -, hw₁⟩ := World.exec_uuid.mp (Handler.restrict_eq_some.mp hid).1
  have hsame₂ := (sameAgents_of_step .uuid htoken).trans (sameAgents_of_step (.channel me) hchan)
  have hsame := (sameAgents_of_step .uuid hid).trans hsame₂
  rw [Prog.post_bind]
  refine Prog.post_mono (fun result w₄ hI₄ => ?_) (restores_registerWith (hI.same hsame)
    (hsame₂.issued (by rw [hw₁]; exact List.mem_cons_self)))
  simp only [Prog.post_op, Prog.post_ret]
  intro c _ w₅ hdrop
  exact hI₄.same (sameAgents_of_step (.dropReceiver me tx) hdrop)

/-- Every call restores the invariant. -/
theorem restores_call (call : RegistryCall) (hI : AgreeInv me w) :
    Restores text me (call.run (.keyed text) me) w := by
  cases call with
  | register subdomain localPort localHost protocol =>
    rw [RegistryCall.run, Restores, Prog.post_bind]
    exact Prog.post_mono (fun _ _ => Prog.post_ret.mpr) (restores_register hI)
  | updateHeartbeat id => exact restores_updateHeartbeat hI
  | unregister id => exact restores_unregister hI
  | cleanupStale timeoutMs => exact restores_cleanupStale hI

/-- The registry and the table agree after every sequence of calls whose steps meet the
    condition, if they agree at the start. -/
theorem registry_agrees {calls : List (RegistryCall × List Choice)} {w' : World}
    (hagree : Agree me w) (hissued : ∀ r ∈ w.db.agents, r.id ∈ w.issued)
    (hrun : playAll (inStepHandler text) (RegistryCall.run (.keyed text) me) calls w = some w') :
    Agree me w' :=
  (playAll_invariant (AgreeInv me) (fun call _ hI => restores_call call hI) ⟨hagree, hissued⟩
    hrun).agree

end Calls

/-- On an empty table and with an empty map the two agree. -/
theorem agree_started (me : String) : Agree me (.started me) where
  entry id st h := by simp [World.started, World.boot, Node.new] at h
  row r hr := absurd hr (Relational.Table.notMem_empty r)

/-- The choices of a registration by itself that finds no active row of its subdomain. -/
def registerChoices (id token : String) (now : Int) : List Choice :=
  [.fresh id, .fresh token, .go, .go, .read now, .read now, .read now, .go, .read now, .go, .go]

def registerDemo : RegistryCall := .register "demo" 8080 "localhost" .http

/-- A first registration and a heartbeat. -/
theorem registry_agrees_first_registration :
    ∃ w', playAll (inStepHandler none) (RegistryCall.run (.keyed none) "a")
        [(registerDemo, registerChoices "i" "k" 1000),
          (.updateHeartbeat "i", [.go, .read 2000, .go])] (.started "a") = some w' ∧ Agree "a" w' := by
  have hrun : ((playAll (inStepHandler none) (RegistryCall.run (.keyed none) "a")
      [(registerDemo, registerChoices "i" "k" 1000),
        (.updateHeartbeat "i", [.go, .read 2000, .go])] (.started "a")).map (·.clock)) = some 2000 := by
    decide +kernel
  obtain ⟨w', hw', -⟩ := Option.map_eq_some_iff.mp hrun
  exact ⟨w', hw', registry_agrees (agree_started "a")
    (fun r hr => absurd hr (Relational.Table.notMem_empty r)) hw'⟩

/-- An agent that unregisters and comes back has a new id in the map and its old one in the
    table. -/
theorem registry_disagrees_after_return :
    ∃ w', playAll (World.handler (.keyed none) false) (RegistryCall.run (.keyed none) "a")
        [(registerDemo, registerChoices "i" "k" 1000), (.unregister "i", [.go, .read 2000, .go]),
          (registerDemo, registerChoices "j" "l" 3000)] (.started "a") = some w' ∧ ¬ Agree "a" w' := by
  have hrun : ((playAll (World.handler (.keyed none) false) (RegistryCall.run (.keyed none) "a")
      [(registerDemo, registerChoices "i" "k" 1000), (.unregister "i", [.go, .read 2000, .go]),
        (registerDemo, registerChoices "j" "l" 3000)] (.started "a")).map fun w =>
          ((w.node "a").agents.lookup "j", w.db.agents.rows.map (·.id))) =
      some (some ⟨1, "demo", 8080, "localhost", .http, 3000⟩, ["i"]) := by decide +kernel
  obtain ⟨w', hw', hproj⟩ := Option.map_eq_some_iff.mp hrun
  obtain ⟨hmap, hrows⟩ := Prod.mk.inj hproj
  refine ⟨w', hw', fun hagree => ?_⟩
  obtain ⟨r, hr, hid, -⟩ := hagree.entry "j" _ hmap
  have hmem : r.id ∈ w'.db.agents.rows.map (·.id) := List.mem_map_of_mem hr
  rw [hrows, hid] at hmem
  exact absurd hmem (by decide)

end AgentRegistry

end Jrok
