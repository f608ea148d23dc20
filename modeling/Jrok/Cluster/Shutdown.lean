import Jrok.Server.Traffic

/-!
# After a shutdown

`shutdown` marks the server unhealthy and deactivates its agents, and leaves its loops and its
listener running. Nothing sets the health flag again; but an agent that registers later is active
again, and a later tick of the heartbeat loop takes the leader row, or renews it. Where no
statement of these kinds goes through, the shutdown is final.
-/

namespace Jrok

open Concurrency

namespace Cluster

/-! ## What a shutdown leaves in the database -/

/-- The row of the server says that it is unhealthy. -/
def Unhealthy (s : String) (db : Database) : Prop :=
  ∀ row ∈ db.servers, row.id = s → row.isHealthy = false

/-- No agent of the server is active. -/
def Inactive (s : String) (db : Database) : Prop :=
  ∀ row ∈ db.agents, row.serverId = s → row.active = false

/-- Executed on the database, the statement brings the server `s` back: the table takes the row of
    one of its agents, or the leader row is free for it, or names it already. -/
def bringsBack (B : Backend) (s : String) (db : Database) : Sql → Bool
  | .registerAgent row => row.serverId = s && (db.registerAgent B row).1.isOk
  | .becomeLeader id _ _ staleBefore => id = s &&
    match db.clusterState with
    | some row => row.leaderId = none || row.lastHeartbeat < staleBefore
    | none => false
  | .renewLeadership _ id => id = s && db.leader = some s
  | _ => false

/-- The event has written the leader row with the leader `s`. -/
def writesLeader (s : String) : Event serverSig → Bool
  | ⟨.sql (.becomeLeader id _ _ _), .ok n⟩ => id = s && n ≠ 0
  | ⟨.sql (.renewLeadership _ id), .ok n⟩ => id = s && n ≠ 0
  | _ => false

section Statements

variable {B : Backend} {s : String} {db : Database} {q : Sql}

theorem unhealthy_marked : Unhealthy s ((Sql.markServerUnhealthy s).exec B db).2 := by
  intro row hrow hid
  obtain ⟨r, -, rfl⟩ := (Relational.Table.mem_updateWhere (by intro; rfl)).mp hrow
  by_cases hr : r.id = s
  · simp [hr]
  · simp [hr] at hid

theorem Unhealthy.exec (h : Unhealthy s db)
    (hq : ∀ id httpHost tcpHost now, q ≠ .registerServer id httpHost tcpHost now) :
    Unhealthy s (q.exec B db).2 := by
  obtain ⟨f, hf, hrows⟩ := Sql.exec_servers B db hq
  intro row hrow hid
  rw [Relational.Table.mem_iff, hrows] at hrow
  obtain ⟨r, hr, rfl⟩ := List.mem_map.mp hrow
  have hdown := h r hr ((hf r).1.symm.trans hid)
  exact Bool.eq_false_iff.mpr fun hup => by simp [(hf r).2 hup] at hdown

theorem inactive_unregistered {now : Int} :
    Inactive s ((Sql.unregisterAllAgents now s).exec B db).2 := by
  intro row hrow hserver
  obtain ⟨r, -, rfl⟩ := (Relational.Table.mem_updateWhere (by intro; rfl)).mp hrow
  by_cases hr : r.serverId = s
  · simp [hr]
  · simp [hr] at hserver

theorem Inactive.exec (h : Inactive s db) (hq : bringsBack B s db q = false) :
    Inactive s (q.exec B db).2 := by
  by_cases hupsert : ∃ row, q = .registerAgent row
  · obtain ⟨row, rfl⟩ := hupsert
    have hother (n : Nat) (hok : ((Sql.registerAgent row).exec B db).1 = .ok n) :
        row.serverId ≠ s := by
      rintro rfl
      have hok' : (db.registerAgent B row).1 = .ok n := hok
      simp [bringsBack, hok', Except.isOk, Except.toBool] at hq
    rcases Sql.exec_registerAgent B db row with ⟨e, hexec⟩ | ⟨n, hok, -, hmem⟩ | ⟨hok, -, hmem⟩
    · rw [hexec]
      exact h
    · intro row' hrow' hserver
      obtain ⟨r, hr, rfl⟩ := (hmem row').mp hrow'
      by_cases hsub : r.subdomain = row.subdomain
      · simp only [hsub, if_true] at hserver
        exact absurd hserver (hother n hok)
      · simp only [hsub, if_false] at hserver ⊢
        exact h r hr hserver
    · intro row' hrow' hserver
      rcases (hmem row').mp hrow' with hold | rfl
      · exact h row' hold hserver
      · exact absurd hserver (hother 1 hok)
  · obtain ⟨f, hf, hrows⟩ := Sql.exec_agents B db fun row hrow => hupsert ⟨row, hrow⟩
    intro row hrow hserver
    rw [Relational.Table.mem_iff, hrows] at hrow
    obtain ⟨r, hr, rfl⟩ := List.mem_map.mp hrow
    have hdown := h r hr ((hf r).2.2.1.symm.trans hserver)
    exact Bool.eq_false_iff.mpr fun hup => by simp [(hf r).2.2.2 hup] at hdown

/-- A rejected statement brings nothing back. -/
theorem bringsBack_error {e : DbError} (he : (q.exec B db).1 = .error e) :
    bringsBack B s db q = false := by
  cases q with
  | registerAgent row =>
    have hrejected : (db.registerAgent B row).1 = .error e := he
    simp [bringsBack, hrejected, Except.isOk, Except.toBool]
  | becomeLeader id term now old =>
    rcases Sql.exec_becomeLeader B db id term now old with hexec | ⟨row, -, -, hexec⟩ <;>
      simp [hexec] at he
  | renewLeadership now id =>
    rcases Sql.exec_renewLeadership B db id now with hexec | ⟨row, -, -, hexec⟩ <;>
      simp [hexec] at he
  | _ => rfl

/-- A statement that does not bring the server back does not make it the leader. -/
theorem writesLeader_exec (hq : bringsBack B s db q = false) :
    writesLeader s ⟨.sql q, (q.exec B db).1⟩ = false := by
  cases q with
  | becomeLeader id term now old =>
    rcases Sql.exec_becomeLeader B db id term now old with hexec | ⟨row, hrow, hfree, hexec⟩
    · simp [hexec, writesLeader]
    · rw [hexec]
      simp only [bringsBack, hrow, Bool.and_eq_false_iff] at hq
      rcases hq with hid | hheld
      · simpa [writesLeader] using hid
      · rcases hfree with hnone | hold
        · simp [hnone] at hheld
        · simp [hold] at hheld
  | renewLeadership now id =>
    rcases Sql.exec_renewLeadership B db id now with hexec | ⟨row, hrow, hleader, hexec⟩
    · simp [hexec, writesLeader]
    · rw [hexec]
      by_cases hid : id = s
      · subst hid
        simp [bringsBack, Database.leader, hrow, hleader] at hq
      · simp [writesLeader, hid]
  | _ => cases hexec : (Sql.exec B _ db).1 <;> rfl

end Statements

/-! ## The tasks of a server -/

variable {D : Deployment} {T : Traffic} {s : String} {newer older log : ServerLog}

theorem shutdown_eq (config : ServerConfig) :
    (shutdown config).run = .op (.sql (.markServerUnhealthy config.serverId)) fun
      | .ok _ => .op .now fun now =>
        .op (.sql (.unregisterAllAgents now config.serverId)) fun r =>
          .ret ((r.mapError .database).map fun _ => ())
      | .error e => .ret (.error (.database e)) := by
  refine congrArg (Prog.op _) (funext fun r => ?_)
  cases r with
  | error e => rfl
  | ok n =>
    refine congrArg (Prog.op _) (funext fun now => congrArg (Prog.op _) (funext fun r => ?_))
    cases r <;> rfl

/-- The `shutdown` of the server `s` has returned `Ok`, or is about to. -/
def hasShutDown (s : String) : ServerLog → Bool
  | [] => false
  | ((u, .shutdown), ⟨.sql (.unregisterAllAgents _ _), .ok _⟩) :: older =>
    u = s || hasShutDown s older
  | _ :: older => hasShutDown s older

theorem hasShutDown_cons {u : String × Work} {o : Op} {r : o.Res}
    (h : hasShutDown s ((u, ⟨o, r⟩) :: older) = true) :
    hasShutDown s older = true ∨ (u = (s, .shutdown) ∧ ∃ now id n,
      (⟨o, r⟩ : Event serverSig) = ⟨.sql (.unregisterAllAgents now id), .ok n⟩) := by
  unfold hasShutDown at h
  split at h
  · cases h
  · rename_i server now id n older' heq
    obtain ⟨hhead, rfl⟩ := List.cons.inj heq
    obtain ⟨rfl, hevent⟩ := Prod.mk.inj hhead
    rcases Bool.or_eq_true_iff.mp h with hserver | hold
    · obtain rfl := of_decide_eq_true hserver
      exact .inr ⟨rfl, now, id, n, hevent⟩
    · exact .inl hold
  · rename_i heq
    obtain ⟨-, rfl⟩ := List.cons.inj heq
    exact .inl h

/-- Before it deactivates its agents, a server has marked itself unhealthy. -/
theorem unregisterAll_event {now : Int} {id : String} {r : Except DbError Nat}
    (hf : System.Follows (program D T) (newer ++ ((s, .shutdown),
      ⟨.sql (.unregisterAllAgents now id), r⟩) :: older)) :
    id = s ∧ ∃ n, ((s, Work.shutdown), (⟨.sql (.markServerUnhealthy s), .ok n⟩ :
      Event serverSig)) ∈ older := by
  obtain ⟨p, hp⟩ := hf.at_split
  have hshutdown : ∃ p', (shutdown (D.fleet.config s)).run.Path (Log.own (s, .shutdown) older ++
      [⟨.sql (.unregisterAllAgents now id), r⟩]) p' := hp.of_bind_ret
  obtain ⟨p', hp'⟩ := hshutdown
  rw [shutdown_eq, D.fleet.serverId_eq] at hp'
  rcases Prog.path_op_snoc_iff.mp hp' with ⟨-, _, he, -⟩ | ⟨marked, es₁, hown, h₁⟩
  · cases congrArg Sigma.fst he
  cases marked with
  | error e => exact absurd h₁ Prog.not_path_ret_snoc
  | ok n =>
    rcases Prog.path_op_snoc_iff.mp h₁ with ⟨-, _, he, -⟩ | ⟨now', es₂, rfl, h₂⟩
    · cases congrArg Sigma.fst he
    rcases Prog.path_op_snoc_iff.mp h₂ with ⟨-, _, he, -⟩ | ⟨_, es₃, rfl, h₃⟩
    · cases congrArg Sigma.fst he
      refine ⟨rfl, n, ?_⟩
      rw [← Log.mem_own, hown]
      exact List.mem_cons_self ..
    · exact absurd h₃ Prog.not_path_ret_snoc

/-- No task registers the server again. -/
theorem not_registerServer {u : String × Work} {id httpHost tcpHost : String} {now : Int}
    {r : Except DbError Nat} (hf : System.Follows (program D T)
      (newer ++ (u, ⟨.sql (.registerServer id httpHost tcpHost now), r⟩) :: older)) : False := by
  obtain ⟨server, work⟩ := u
  have hperforms : work.Performs D T server (.sql (.registerServer id httpHost tcpHost now)) :=
    performs hf
  cases work with
  | request n =>
    simp only [Work.Performs] at hperforms
    cases hcall : T.request server n <;> rw [hcall] at hperforms <;> cases hperforms
  | connection conn =>
    rcases hperforms with heq | heq | ⟨reader, frame, -, hframe⟩
    · cases heq
    · cases heq
    · rcases frame with _ | m
      · exact hframe.elim
      cases m with
      | register =>
        rcases hframe with heq | h
        · cases heq
        · cases h with
          | owner h => cases h
      | heartbeat =>
        obtain ⟨_, -, heq | heq | ⟨_, heq⟩⟩ := hframe <;> cases heq
      | httpResponse | tcpConnect | tcpDisconnect | tcpListenResponse | connectionEstablished =>
        cases hframe.2
      | _ => exact hframe.elim
  | writer conn k =>
    rcases hperforms with heq | heq | ⟨m, heq⟩ <;> cases heq
  | heartbeat | cleanup | shutdown =>
    cases hperforms with
    | upkeep h => cases h

/-! ## Every run -/

/-- A statement that goes through once the server has shut down does not bring it back. -/
def staysDown (B : Backend) (s : String) : (o : Op) → o.Res → World × ServerLog → Bool
  | .sql q, .ok _, x => !hasShutDown s x.2 || !bringsBack B s x.1.db q
  | _, _, _ => true

/-- The servers at work, where nothing brings `s` back after its shutdown. -/
abbrev shuttingDown (D : Deployment) (T : Traffic) (faulty : Bool) (s : String) :
    System serverSig (String × Work) (Option (Option Answer)) Unit (World × ServerLog) Choice :=
  (serving D T (World.handler D.backend faulty)).logged.restrict fun _ o r x =>
    staysDown D.backend s o r x = true

/-- What the log says of the shutdown of `s` holds of the database. -/
structure Down (s : String) (w : World) (log : ServerLog) : Prop where
  unhealthy : ∀ n, ((s, Work.shutdown), (⟨.sql (.markServerUnhealthy s), .ok n⟩ :
    Event serverSig)) ∈ log → Unhealthy s w.db
  inactive : hasShutDown s log = true → Inactive s w.db
  quiet : ∀ newer older u e, log = newer ++ (u, e) :: older → hasShutDown s older = true →
    writesLeader s e = false

/-- A shutdown is final: the server is unhealthy, none of its agents is active, and nothing has
    written the leader row for it since. -/
structure Final (s : String) (c : ServerPool) : Prop where
  unhealthy : Unhealthy s c.shared.1.db
  inactive : Inactive s c.shared.1.db
  quiet : ∀ newer older u e, c.shared.2 = newer ++ (u, e) :: older → hasShutDown s older = true →
    writesLeader s e = false

section Runs

variable {faulty : Bool} {w w' : World} {u : String × Work}

/-- One more event. -/
theorem Down.cons {e : Event serverSig} (h : Down s w log)
    (hunhealthy : Unhealthy s w.db → Unhealthy s w'.db)
    (hmarked : ∀ n, e = ⟨.sql (.markServerUnhealthy s), .ok n⟩ → Unhealthy s w'.db)
    (hinactive : hasShutDown s log = true → Inactive s w.db → Inactive s w'.db)
    (hdown : u = (s, .shutdown) → ∀ now id n,
      e = ⟨.sql (.unregisterAllAgents now id), .ok n⟩ → Inactive s w'.db)
    (hquiet : hasShutDown s log = true → writesLeader s e = false) :
    Down s w' ((u, e) :: log) where
  unhealthy n hmem := by
    rcases List.mem_cons.mp hmem with heq | hold
    · exact hmarked n (Prod.mk.inj heq).2.symm
    · exact hunhealthy (h.unhealthy n hold)
  inactive hafter := by
    rcases hasShutDown_cons hafter with hbefore | ⟨hu, now, id, n, he⟩
    · exact hinactive hbefore (h.inactive hbefore)
    · exact hdown hu now id n he
  quiet newer older u' e' hsplit hbefore := by
    cases newer with
    | nil =>
      obtain ⟨heq, rfl⟩ := List.cons.inj hsplit
      obtain ⟨-, rfl⟩ := Prod.mk.inj heq
      exact hquiet hbefore
    | cons head newer => exact h.quiet newer older u' e' (List.cons.inj hsplit).2 hbefore

/-- The event is a statement that has gone through. -/
def goesThrough : Event serverSig → Bool
  | ⟨.sql _, .ok _⟩ => true
  | _ => false

/-- An event that leaves the database alone. -/
theorem Down.quiet_event {e : Event serverSig} (h : Down s w log) (hdb : w'.db = w.db)
    (hfailed : goesThrough e = false) : Down s w' ((u, e) :: log) := by
  refine h.cons (by rw [hdb]; exact fun hdown => hdown) ?_ (by rw [hdb]; exact fun _ hdown => hdown)
    ?_ ?_
  · rintro n rfl
    cases hfailed
  · rintro - now id n rfl
    cases hfailed
  · intro _
    obtain ⟨o, r⟩ := e
    cases o with
    | sql q =>
      cases r with
      | ok a => cases hfailed
      | error e => cases q <;> rfl
    | _ => rfl

/-- Every operation that does not bring the server back keeps it down. -/
theorem Down.step {c : Choice} {o : Op} {r : o.Res} (h : Down s w log)
    (hf : System.Follows (program D T) ([] ++ (u, ⟨o, r⟩) :: log))
    (hstays : staysDown D.backend s o r (w, log) = true)
    (hop : World.handler D.backend faulty c o w = some (r, w')) :
    Down s w' ((u, ⟨o, r⟩) :: log) := by
  cases o with
  | now =>
    obtain ⟨-, -, -, rfl⟩ := World.exec_now.mp hop
    exact h.quiet_event rfl rfl
  | uuid =>
    obtain ⟨-, -, rfl⟩ := World.exec_uuid.mp hop
    exact h.quiet_event rfl rfl
  | node n o =>
    obtain ⟨n', -, rfl⟩ := World.exec_node.mp hop
    exact h.quiet_event rfl rfl
  | sql q =>
    rcases World.exec_sql.mp hop with ⟨-, hr, rfl⟩ | ⟨e, -, -, rfl, rfl⟩
    · have hbrings : hasShutDown s log = true → bringsBack D.backend s w.db q = false := by
        intro hdown
        cases r with
        | ok a => simpa [staysDown, hdown] using hstays
        | error e => exact bringsBack_error hr.symm
      refine h.cons (fun hdown => hdown.exec ?_) ?_ (fun hafter hdown => hdown.exec (hbrings hafter))
        ?_ ?_
      · rintro id httpHost tcpHost now rfl
        exact not_registerServer hf
      · intro n he
        cases he
        exact unhealthy_marked (B := D.backend)
      · rintro rfl now id n he
        cases he
        obtain ⟨rfl, -⟩ := unregisterAll_event hf
        exact inactive_unregistered (B := D.backend)
      · intro hdown
        rw [hr]
        exact writesLeader_exec (hbrings hdown)
    · exact h.quiet_event rfl rfl

theorem hasShutDown_event (h : hasShutDown s log = true) :
    ∃ newer older now id n, log = newer ++ ((s, .shutdown),
      ⟨.sql (.unregisterAllAgents now id), .ok n⟩) :: older := by
  induction log with
  | nil => cases h
  | cons head log ih =>
    obtain ⟨u, o, r⟩ := head
    rcases hasShutDown_cons h with hbefore | ⟨rfl, now, id, n, he⟩
    · obtain ⟨newer, older, now, id, n, rfl⟩ := ih hbefore
      exact ⟨(u, ⟨o, r⟩) :: newer, older, now, id, n, rfl⟩
    · rw [he]
      exact ⟨[], log, now, id, n, rfl⟩

/-- In every run in which no statement brings the server back after its shutdown, the shutdown is
    final, however the loops, the requests and the connections go on. -/
theorem shutdown_final {c₀ c : ServerPool} (hidle : ∀ t, c₀.task t = .idle none)
    (hlog : c₀.shared.2 = []) (hr : (shuttingDown D T faulty s).Reachable c₀ c)
    (hdown : hasShutDown s c.shared.2 = true) : Final s c := by
  obtain ⟨htraced, h⟩ := System.keepsLog_restrict.invariant hr hidle hlog (Down s)
    ⟨by simp, by simp [hasShutDown], by simp⟩
    fun w log u ch o r w' _ hf hstays hbefore hop => hbefore.step hf hstays hop
  obtain ⟨newer, older, now, id, n, hsplit⟩ := hasShutDown_event hdown
  have hf := htraced.follows
  rw [hsplit] at hf
  obtain ⟨-, m, hmarked⟩ := unregisterAll_event hf
  refine ⟨h.unhealthy m ?_, h.inactive hdown, h.quiet⟩
  rw [hsplit]
  exact List.mem_append_right _ (.tail _ hmarked)

end Runs

/-! ## A server that comes back -/

/-- The latest event, after the shutdown of `s`, has written the leader row for `s`. -/
def leadsAgain (s : String) : ServerLog → Bool
  | [] => false
  | (_, e) :: older => hasShutDown s older && writesLeader s e

theorem not_final_of_leadsAgain {c : ServerPool} (h : leadsAgain s c.shared.2 = true) :
    ¬ Final s c := by
  intro hfinal
  cases hlog : c.shared.2 with
  | nil =>
    rw [hlog] at h
    cases h
  | cons head older =>
    rw [hlog] at h
    obtain ⟨hdown, hwrites⟩ := Bool.and_eq_true_iff.mp h
    have hquiet := hfinal.quiet [] older head.1 head.2 hlog hdown
    rw [hwrites] at hquiet
    cases hquiet

/-- An active agent of the server `s`. -/
def servesAgents (s : String) (c : ServerPool) : Bool :=
  c.shared.1.db.agents.rows.any fun row => row.serverId = s && row.active

theorem not_final_of_servesAgents {c : ServerPool} (h : servesAgents s c = true) : ¬ Final s c := by
  intro hfinal
  obtain ⟨row, hrow, hboth⟩ := List.any_eq_true.mp h
  simp only [Bool.and_eq_true, decide_eq_true_eq] at hboth
  have hinactive := hfinal.inactive row hrow hboth.1
  rw [hboth.2] at hinactive
  cases hinactive

/-- The server `s` has registered, and the leader row is as given. -/
def registered (row : ClusterState) : ServerPool :=
  let db := ((Sql.registerServer "s" "0.0.0.0" "0.0.0.0" 500).exec (.keyed none)
    ApiKeys.keyStored.db).2
  ⟨({ ApiKeys.keyStored with db := { db with clusterState := some row }, clock := 500 }, []),
    fun _ => .idle none⟩

/-- An agent registers on each connection. -/
def oneAgent : Traffic where
  request _ _ := .proxy Tunnel.getIndex
  frames _ _ := [some (.register "app" 80 "localhost" "http" "secret")]

/-- Ctrl-C. -/
def stopping : List (Move (String × Work) Unit Choice) :=
  [.start ("s", .shutdown) (), .act ("s", .shutdown) .go, .act ("s", .shutdown) (.read 1000),
    .act ("s", .shutdown) .go, .finish ("s", .shutdown)]

/-- A tick of the heartbeat loop up to the read of the leader row. -/
def beating : List (Move (String × Work) Unit Choice) :=
  .start ("s", .heartbeat 0) () ::
    [.read 1000, .go, .read 1000, .go].map fun c => .act ("s", .heartbeat 0) c

/-- The next tick after the shutdown takes the free leader row; an agent that registers after it is
    active. -/
theorem back_after_shutdown :
    (∃ c, (serving .sample oneAgent (World.handler (.keyed none) false)).logged.Reachable
        (registered ⟨none, 0, 0⟩) c ∧
      hasShutDown "s" c.shared.2 = true ∧ c.shared.1.db.leader = some "s" ∧ ¬ Final "s" c) ∧
    ∃ c, (serving .sample oneAgent (World.handler (.keyed none) false)).logged.Reachable
        (registered ⟨none, 0, 0⟩) c ∧
      hasShutDown "s" c.shared.2 = true ∧ servesAgents "s" c = true ∧ ¬ Final "s" c := by
  have hleads : ((serving .sample oneAgent (World.handler (.keyed none) false)).logged.replay
      (stopping ++ beating ++ [.act ("s", .heartbeat 0) .go, .act ("s", .heartbeat 0) .go])
      (registered ⟨none, 0, 0⟩)).map (fun c => (hasShutDown "s" c.shared.2, c.shared.1.db.leader,
        leadsAgain "s" c.shared.2)) = some (true, some "s", true) := by decide +kernel
  have hserves : ((serving .sample oneAgent (World.handler (.keyed none) false)).logged.replay
      (stopping ++ registering 0 "a" "x") (registered ⟨none, 0, 0⟩)).map
        (fun c => (hasShutDown "s" c.shared.2, servesAgents "s" c)) = some (true, true) := by
    decide +kernel
  refine ⟨?_, ?_⟩
  · obtain ⟨c, hc, hall⟩ := Option.map_eq_some_iff.mp hleads
    simp only [Prod.mk.injEq] at hall
    exact ⟨c, ⟨_, hc⟩, hall.1, hall.2.1, not_final_of_leadsAgain hall.2.2⟩
  · obtain ⟨c, hc, hboth⟩ := Option.map_eq_some_iff.mp hserves
    obtain ⟨hdown, hserving⟩ := Prod.mk.inj hboth
    exact ⟨c, ⟨_, hc⟩, hdown, hserving, not_final_of_servesAgents hserving⟩

/-- The next tick after the shutdown finds another leader. -/
theorem shutdown_final_standby : ∃ c,
    (shuttingDown .sample oneAgent false "s").Reachable (registered ⟨some "b", 1, 900⟩) c ∧
      hasShutDown "s" c.shared.2 = true ∧ c.shared.1.db.leader = some "b" ∧ Final "s" c := by
  have hrun : ((shuttingDown .sample oneAgent false "s").replay
      (stopping ++ beating ++ [.act ("s", .heartbeat 0) .go, .finish ("s", .heartbeat 0)])
      (registered ⟨some "b", 1, 900⟩)).map
        (fun c => (hasShutDown "s" c.shared.2, c.shared.1.db.leader)) = some (true, some "b") := by
    decide +kernel
  obtain ⟨c, hc, hboth⟩ := Option.map_eq_some_iff.mp hrun
  obtain ⟨hdown, hleader⟩ := Prod.mk.inj hboth
  exact ⟨c, ⟨_, hc⟩, hdown, hleader, shutdown_final (fun _ => rfl) rfl ⟨_, hc⟩ hdown⟩

end Cluster

end Jrok
