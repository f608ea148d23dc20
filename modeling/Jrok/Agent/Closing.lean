import Jrok.Agent.Frames
import Jrok.Db.ApiKeys

/-!
# What a closed connection leaves behind

`handle_agent_connection` never unregisters: an agent that was registered on a connection is still in
the map when the task has ended. So nothing is left behind exactly when nothing was registered,
which the first `Register` decides, since a refused one ends the connection.
-/

namespace Jrok

open Concurrency

namespace Connection

/-! ## Runs with all database calls succeeding -/

/-- The database call that ends with this response has not failed, and the row it reads decodes. -/
def succeeds (B : Backend) : (o : Op) → o.Res → Bool
  | .sql (.getAgentBySubdomain _), .ok (some row) => (row.decode B).isOk
  | .sql _, .ok _ => true
  | .sql _, .error _ => false
  | _, _ => true

/-- The ids under which a connection of `me` has inserted agents, the latest first. -/
def registeredIds (me : String) : Op → List String → List String
  | .node n (.agentsInsert id _), ids => if n = me then id :: ids else ids
  | _, ids => ids

/-- The handler in which database calls succeed, with the ids that have been registered. -/
def closingHandler (B : Backend) (me : String) :
    Handler serverSig (World × List String) Choice :=
  ((World.handler B true).restrict fun o r _ => succeeds B o r = true).observe
    fun o _ _ ids => registeredIds me o ids

/-- The others leave the database and the agents map of `me` alone. -/
structure Aside (me : String) (x x' : World × List String) : Prop where
  db : x'.1.db = x.1.db
  agents : (x'.1.node me).agents = (x.1.node me).agents
  ids : x'.2 = x.2

theorem Aside.refl {me : String} (x : World × List String) : Aside me x x := ⟨rfl, rfl, rfl⟩

theorem Aside.trans {me : String} {x y z : World × List String} (h₁ : Aside me x y)
    (h₂ : Aside me y z) : Aside me x z :=
  ⟨h₂.db.trans h₁.db, h₂.agents.trans h₁.agents, h₂.ids.trans h₁.ids⟩

/-- No id that was registered is in the map, and no row of such an id is active. -/
def NothingLeft (me : String) (x : World × List String) : Prop :=
  ∀ id ∈ x.2, id ∉ (x.1.node me).agents ∧ ∀ r ∈ x.1.db.agents, r.id = id → r.active = false

/-- The newest active row of the subdomain belongs to another server, and that one is healthy. -/
def Held (me : String) (db : Database) (subdomain : String) : Prop :=
  ∃ row server, latestAgent (activeAgentsOf db.agents.rows subdomain) = some row ∧
    row.serverId ≠ me ∧ db.servers.find? row.serverId = some server ∧ server.isHealthy = true

/-- The key is not in the table, or the subdomain is held. -/
def Refusal (X : Codec) (me : String) (db : Database) (subdomain apiKey : String) : Prop :=
  (∀ k ∈ db.apiKeys, k.keyHash ≠ X.hashApiKey apiKey) ∨ Held me db subdomain

/-- The subdomain and the key of the first `Register`. -/
def firstRegister : List (Option Message) → Option (String × String)
  | [] => none
  | some (.register subdomain _ _ _ apiKey) :: _ => some (subdomain, apiKey)
  | _ :: frames => firstRegister frames

/-- There is no `Register`, or the first one is refused. -/
def Refused (X : Codec) (me : String) (db : Database) (frames : List (Option Message)) : Prop :=
  ∀ subdomain apiKey, firstRegister frames = some (subdomain, apiKey) →
    Refusal X me db subdomain apiKey

/-! ## Steps -/

section Steps

variable {X : Codec} {B : Backend} {me : String} {c : Choice} {x x' : World × List String}

/-- A statement answers and does what `Sql.exec` says. -/
theorem closing_sql {q : Sql} {r : Except DbError q.Res}
    (h : closingHandler B me c (.sql q) x = some (r, x')) :
    r = (q.exec B x.1.db).1 ∧ succeeds B (.sql q) r = true ∧
      x' = ({ x.1 with db := (q.exec B x.1.db).2 }, x.2) := by
  obtain ⟨hop, hids⟩ := Handler.observe_eq_some.mp h
  obtain ⟨hop, hok⟩ := Handler.restrict_eq_some.mp hop
  have hids : x'.2 = x.2 := by simpa [registeredIds] using hids
  rcases World.exec_sql.mp hop with ⟨-, hr, hw⟩ | ⟨e, -, -, rfl, -⟩
  · exact ⟨hr, hok, Prod.ext hw hids⟩
  · cases q <;> simp [succeeds] at hok

/-- The operations that leave the database and the agents map alone. -/
inductive AsideOp (me : String) : Op → Prop where
  | now : AsideOp me .now
  | uuid : AsideOp me .uuid
  | owner {o : Op} (h : AgentRegistry.OwnerRead o) : AsideOp me o
  | validate (keyHash : String) : AsideOp me (.sql (.validateApiKey keyHash))
  | node (o : NodeOp) (hinsert : ∀ id st, o ≠ .agentsInsert id st)
      (hremove : ∀ id, o ≠ .agentsRemove id) : AsideOp me (.node me o)

theorem AsideOp.aside {o : Op} {r : o.Res} (ho : AsideOp me o)
    (h : closingHandler B me c o x = some (r, x')) : Aside me x x' := by
  obtain ⟨hop, hids⟩ := Handler.observe_eq_some.mp h
  obtain ⟨hop, -⟩ := Handler.restrict_eq_some.mp hop
  have hagents := World.handler_agents hop me
  cases ho with
  | now =>
    obtain ⟨-, -, -, hw⟩ := World.exec_now.mp hop
    exact ⟨by rw [hw], hagents, hids⟩
  | uuid =>
    obtain ⟨-, -, hw⟩ := World.exec_uuid.mp hop
    exact ⟨by rw [hw], hagents, hids⟩
  | owner howner =>
    have hw := howner.same hop
    refine ⟨by rw [hw], by rw [hw], ?_⟩
    cases howner <;> exact hids
  | validate keyHash =>
    rcases World.exec_sql.mp hop with ⟨-, -, hw⟩ | ⟨e, -, -, -, hw⟩
    · exact ⟨by rw [hw]; rfl, hagents, hids⟩
    · exact ⟨by rw [hw], hagents, hids⟩
  | node o hinsert hremove =>
    obtain ⟨n', -, hw⟩ := World.exec_node.mp hop
    refine ⟨by rw [hw]; rfl, ?_, ?_⟩
    · cases o with
      | agentsInsert id st => exact absurd rfl (hinsert id st)
      | agentsRemove id => exact absurd rfl (hremove id)
      | _ => simpa [Op.onAgents, NodeOp.onAgents] using hagents
    · cases o with
      | agentsInsert id st => exact absurd rfl (hinsert id st)
      | _ => exact hids

theorem closing_insert {id : String} {st : AgentState} {r : Unit}
    (h : closingHandler B me c (.node me (.agentsInsert id st)) x = some (r, x')) :
    x'.2 = id :: x.2 ∧ (x'.1.node me).agents = (x.1.node me).agents.insert id st := by
  obtain ⟨hop, hids⟩ := Handler.observe_eq_some.mp h
  obtain ⟨hop, -⟩ := Handler.restrict_eq_some.mp hop
  exact ⟨by simpa [registeredIds] using hids, (AgentRegistry.insert_step hop).2.2.2⟩

/-- Every id that was registered is in the map. -/
def Listed (me : String) (x : World × List String) : Prop := ∀ id ∈ x.2, id ∈ (x.1.node me).agents

theorem Listed.aside (h : Listed me x) (ha : Aside me x x') : Listed me x' := by
  intro id hid
  rw [ha.agents]
  exact h id (ha.ids ▸ hid)

theorem Listed.insert {id : String} {st : AgentState} {r : Unit} (h : Listed me x)
    (hop : closingHandler B me c (.node me (.agentsInsert id st)) x = some (r, x')) :
    Listed me x' ∧ id ∈ x'.2 := by
  obtain ⟨hids, hmap⟩ := closing_insert hop
  refine ⟨fun id' hid' => ?_, by simp [hids]⟩
  rw [hmap, AList.mem_insert]
  rw [hids] at hid'
  exact (List.mem_cons.mp hid').imp_right (h id')

/-- The operations of a connection: it never removes an entry. -/
inductive KeepsOp (me : String) : Op → Prop where
  | aside {o : Op} (h : AsideOp me o) : KeepsOp me o
  | sql (q : Sql) : KeepsOp me (.sql q)
  | insert (id : String) (st : AgentState) : KeepsOp me (.node me (.agentsInsert id st))

theorem frameOp_keeps {reader : Reader} {frame : Option Message} {o : Op}
    (h : FrameOp X me reader frame o) : KeepsOp me o := by
  rcases frame with _ | m
  · exact h.elim
  cases m with
  | register =>
    rcases h with rfl | h
    · exact .sql _
    · cases h with
      | now => exact .aside .now
      | uuid => exact .aside .uuid
      | channel => exact .aside (.node _ nofun nofun)
      | dropReceiver => exact .aside (.node _ nofun nofun)
      | owner h => exact .aside (.owner h)
      | upsert row => exact .sql _
      | insert id st => exact .insert id st
      | send => exact .aside (.node _ nofun nofun)
  | heartbeat =>
    obtain ⟨id, -, rfl | rfl | ⟨now, rfl⟩⟩ := h
    · exact .aside (.node _ nofun nofun)
    · exact .aside .now
    · exact .sql _
  | httpResponse | tcpConnect | tcpDisconnect | tcpListenResponse | connectionEstablished =>
    obtain ⟨-, rfl⟩ := h
    exact .aside (.node _ nofun nofun)
  | _ => exact h.elim

/-- What a connection has registered stays in the map. -/
theorem run_keeps {α : Type} {p : ServerProg α} (hp : p.Issues (KeepsOp me)) {a : α}
    (hrun : p.Run (closingHandler B me) (Aside me) x a x') (hne : x.2 ≠ []) (h : Listed me x) :
    x'.2 ≠ [] ∧ Listed me x' := by
  refine hp.run (fun y => y.2 ≠ [] ∧ Listed me y) ?_ ?_ ⟨hne, h⟩ hrun
  · rintro y y' ⟨hne, h⟩ ha
    exact ⟨ha.ids ▸ hne, h.aside ha⟩
  · rintro c o y r y' ho ⟨hne, h⟩ hop
    cases ho with
    | aside ho =>
      have ha := ho.aside hop
      exact ⟨ha.ids ▸ hne, h.aside ha⟩
    | sql q =>
      obtain ⟨-, -, rfl⟩ := closing_sql hop
      exact ⟨hne, h⟩
    | insert id st =>
      obtain ⟨hlisted, hmem⟩ := h.insert hop
      exact ⟨List.ne_nil_of_mem hmem, hlisted⟩

/-! ## The first `Register` -/

theorem decode_serverId {row : AgentRow} {agent : Agent} (h : row.decode B = .ok agent) :
    agent.serverId = row.serverId := by
  unfold AgentRow.decode at h
  cases htext : B.getText row.tunnelId with
  | error e => simp [htext, bind, Except.bind] at h
  | ok text =>
    rw [htext] at h
    obtain rfl := Except.ok.inj h
    rfl

theorem not_held_of_none {db : Database} {subdomain : String}
    (hrow : latestAgent (activeAgentsOf db.agents.rows subdomain) = none) :
    ¬ Held me db subdomain := by
  rintro ⟨row, server, hsome, -⟩
  cases hrow.symm.trans hsome

/-- The newest active row of the subdomain decides. -/
theorem held_iff {db : Database} {subdomain : String} {row : AgentRow}
    (hrow : latestAgent (activeAgentsOf db.agents.rows subdomain) = some row) :
    Held me db subdomain ↔ row.serverId ≠ me ∧
      ∃ server, db.servers.find? row.serverId = some server ∧ server.isHealthy = true := by
  constructor
  · rintro ⟨row', server, hsome, hne, hfound, hhealthy⟩
    obtain rfl := Option.some.inj (hrow.symm.trans hsome)
    exact ⟨hne, server, hfound, hhealthy⟩
  · rintro ⟨hne, server, hfound, hhealthy⟩
    exact ⟨row, server, hrow, hne, hfound, hhealthy⟩

/-- The check of `register` refuses exactly the subdomains that are held. -/
theorem run_checkOwner {subdomain : String} {r : Except Error Unit}
    (hrun : (AgentRegistry.checkOwner B me subdomain).run.Run (closingHandler B me) (Aside me)
      x r x') :
    Aside me x x' ∧
    ((r = .ok () ∧ ¬ Held me x.1.db subdomain) ∨ ((∃ e, r = .error e) ∧ Held me x.1.db subdomain)) := by
  have haside : Aside me x x' := (AgentRegistry.checkOwner_issues B me subdomain).run
    (fun y => Aside me x y) (fun _ _ h₁ h₂ => h₁.trans h₂)
    (fun c o y r y' ho h hop => h.trans ((AsideOp.owner ho).aside hop)) (.refl x) hrun
  refine ⟨haside, ?_⟩
  rw [AgentRegistry.checkOwner_eq] at hrun
  obtain ⟨x₁, c, found, x₂, hR₁, hop, hrest⟩ := Prog.run_op_iff.mp hrun
  obtain ⟨rfl, hok, rfl⟩ := closing_sql hop
  have hdb : x₁.1.db = x.1.db := hR₁.db
  simp only [Sql.exec, hdb] at hrest hok
  cases hrow : latestAgent (activeAgentsOf x.1.db.agents.rows subdomain) with
  | none =>
    simp only [hrow] at hrest
    exact .inl ⟨(Prog.run_ret_iff.mp hrest).1, not_held_of_none hrow⟩
  | some row =>
    rw [held_iff hrow]
    simp only [hrow, succeeds] at hrest hok
    cases hdecode : row.decode B with
    | error e => simp [hdecode, Except.isOk, Except.toBool] at hok
    | ok agent =>
      have hserver := decode_serverId hdecode
      simp only [Except.mapError, Except.bind, Db.decodeFirst, hdecode, Except.map] at hrest
      by_cases hme : agent.serverId = me
      · rw [if_pos hme] at hrest
        exact .inl ⟨(Prog.run_ret_iff.mp hrest).1, fun hheld => hheld.1 (hserver ▸ hme)⟩
      · rw [if_neg hme] at hrest
        obtain ⟨x₃, c', server, x₄, hR₂, hop', hrest'⟩ := Prog.run_op_iff.mp hrest
        obtain ⟨rfl, -, -⟩ := closing_sql hop'
        have hdb₃ : x₃.1.db.servers = x.1.db.servers := by rw [hR₂.db]
        simp only [Sql.exec, hdb₃, hserver] at hrest'
        cases hfind : x.1.db.servers.find? row.serverId with
        | none =>
          simp only [hfind] at hrest'
          exact .inl ⟨(Prog.run_ret_iff.mp hrest').1, by simp⟩
        | some server =>
          simp only [hfind] at hrest'
          cases hhealthy : server.isHealthy with
          | true =>
            simp only [hhealthy, if_true] at hrest'
            exact .inr ⟨⟨_, (Prog.run_ret_iff.mp hrest').1⟩, hserver ▸ hme, server, rfl, hhealthy⟩
          | false =>
            simp only [hhealthy, Bool.false_eq_true, if_false] at hrest'
            exact .inl ⟨(Prog.run_ret_iff.mp hrest').1, by simp [hhealthy]⟩

/-- One more operation that leaves the database and the map alone. -/
theorem run_asideOp {α : Type} {o : Op} {k : o.Res → ServerProg α} {a : α}
    (hrun : (Prog.op (S := serverSig) o k).Run (closingHandler B me) (Aside me) x a x')
    (ho : AsideOp me o) :
    ∃ r y, Aside me x y ∧ (k r).Run (closingHandler B me) (Aside me) y a x' := by
  obtain ⟨x₁, c, r, x₂, hR, hop, hrest⟩ := Prog.run_op_iff.mp hrun
  exact ⟨r, x₂, hR.trans (ho.aside hop), hrest⟩

theorem run_registerWith {agentId token : String} {tx : Nat} {subdomain : String}
    {localPort : UInt16} {localHost : String} {protocol : Protocol}
    {result : Except Error (String × Nat)}
    (hrun : (AgentRegistry.registerWith B me agentId token tx subdomain localPort localHost
      protocol).run.Run (closingHandler B me) (Aside me) x result x') (hlisted : Listed me x) :
    ((∃ e, result = .error e) ∧ Held me x.1.db subdomain ∧ Aside me x x') ∨
    ((∃ a, result = .ok a) ∧ ¬ Held me x.1.db subdomain ∧ x'.2 ≠ [] ∧ Listed me x') := by
  rw [AgentRegistry.registerWith_eq] at hrun
  obtain ⟨owner, x₁, howner, h₁⟩ := hrun.of_bind Aside.refl
  obtain ⟨haside, ⟨rfl, hfree⟩ | ⟨⟨e, rfl⟩, hheld⟩⟩ := run_checkOwner howner
  · refine .inr ?_
    obtain ⟨_, x₂, hx₂, h₂⟩ := run_asideOp h₁ .now
    obtain ⟨_, x₃, hx₃, h₃⟩ := run_asideOp h₂ .now
    obtain ⟨_, x₄, hx₄, h₄⟩ := run_asideOp h₃ .now
    obtain ⟨x₅, c, stored, x₆, hR₅, hop, h₆⟩ := Prog.run_op_iff.mp h₄
    obtain ⟨-, hok, hx₆⟩ := closing_sql hop
    cases stored with
    | error e => simp [succeeds] at hok
    | ok n =>
      have hlisted₆ : Listed me x₆ := by
        have hlisted₅ := hlisted.aside
          ((((haside.trans hx₂).trans hx₃).trans hx₄).trans hR₅)
        rw [hx₆]
        exact hlisted₅
      obtain ⟨_, x₇, hx₇, h₇⟩ := run_asideOp h₆ .now
      obtain ⟨x₈, c', u, x₉, hR₈, hinsert, h₉⟩ := Prog.run_op_iff.mp h₇
      obtain ⟨rfl, hR₉⟩ := Prog.run_ret_iff.mp h₉
      obtain ⟨hlisted₉, hmem⟩ := ((hlisted₆.aside hx₇).aside hR₈).insert hinsert
      exact ⟨⟨_, rfl⟩, hfree, List.ne_nil_of_mem (hR₉.ids ▸ hmem), hlisted₉.aside hR₉⟩
  · obtain ⟨rfl, hR⟩ := Prog.run_ret_iff.mp h₁
    exact .inl ⟨⟨e, rfl⟩, hheld, haside.trans hR⟩

theorem run_register {subdomain : String} {localPort : UInt16} {localHost : String}
    {protocol : Protocol} {result : Except Error (String × Nat)}
    (hrun : (AgentRegistry.register B me subdomain localPort localHost protocol).Run
      (closingHandler B me) (Aside me) x result x') (hlisted : Listed me x) :
    ((∃ e, result = .error e) ∧ Held me x.1.db subdomain ∧ Aside me x x') ∨
    ((∃ a, result = .ok a) ∧ ¬ Held me x.1.db subdomain ∧ x'.2 ≠ [] ∧ Listed me x') := by
  rw [AgentRegistry.register_eq] at hrun
  obtain ⟨agentId, x₁, hx₁, h₁⟩ := run_asideOp hrun .uuid
  obtain ⟨token, x₂, hx₂, h₂⟩ := run_asideOp h₁ .uuid
  obtain ⟨tx, x₃, hx₃, h₃⟩ := run_asideOp h₂ (.node _ nofun nofun)
  obtain ⟨result', x₄, hwith, h₄⟩ := h₃.of_bind Aside.refl
  obtain ⟨_, x₅, hx₅, h₅⟩ := run_asideOp h₄ (.node _ nofun nofun)
  obtain ⟨rfl, hR⟩ := Prog.run_ret_iff.mp h₅
  have hbefore := (hx₁.trans hx₂).trans hx₃
  have hafter := hx₅.trans hR
  rw [← hbefore.db]
  rcases run_registerWith hwith (hlisted.aside hbefore) with
    ⟨herror, hheld, haside⟩ | ⟨hok, hfree, hne, hlisted₄⟩
  · exact .inl ⟨herror, hheld, (hbefore.trans haside).trans hafter⟩
  · exact .inr ⟨hok, hfree, hafter.ids ▸ hne, hlisted₄.aside hafter⟩

/-- A `Register` is refused and ends the loop, or leaves an agent in the map. -/
theorem run_handleRegister {reader : Reader} {subdomain : String} {localPort : UInt16}
    {localHost protocol apiKey : String} {next : Option Reader}
    (hrun : (handleRegister X B me reader subdomain localPort localHost protocol apiKey).Run
      (closingHandler B me) (Aside me) x next x') (hlisted : Listed me x) :
    (next = none ∧ Refusal X me x.1.db subdomain apiKey ∧ Aside me x x') ∨
    (next ≠ none ∧ ¬ Refusal X me x.1.db subdomain apiKey ∧ x'.2 ≠ [] ∧ Listed me x') := by
  rw [handleRegister_eq] at hrun
  obtain ⟨x₁, c, valid, x₂, hR₁, hop, h₂⟩ := Prog.run_op_iff.mp hrun
  obtain ⟨hvalid, hok, hx₂⟩ := closing_sql hop
  have hx₂ : Aside me x x₂ := by
    rw [hx₂]
    exact hR₁.trans (.refl x₁)
  have hkey : valid = .ok ((x.1.db.apiKeys.rows.find? fun k =>
      k.keyHash = X.hashApiKey apiKey).map (·.id)) := by
    rw [hvalid, hR₁.db]
    rfl
  subst hkey
  cases hfind : x.1.db.apiKeys.rows.find? fun k => k.keyHash = X.hashApiKey apiKey with
  | none =>
    rw [hfind] at h₂
    obtain ⟨_, x₃, hx₃, h₃⟩ := run_asideOp h₂ (.node _ nofun nofun)
    obtain ⟨rfl, hR⟩ := Prog.run_ret_iff.mp h₃
    refine .inl ⟨rfl, .inl fun k hk hhash => ?_, (hx₂.trans hx₃).trans hR⟩
    simpa [hhash] using List.find?_eq_none.mp hfind k hk
  | some key =>
    rw [hfind] at h₂
    have hstored : ¬ ∀ k ∈ x.1.db.apiKeys, k.keyHash ≠ X.hashApiKey apiKey := by
      intro hnone
      exact hnone key (List.mem_of_find?_eq_some hfind) (by simpa using List.find?_some hfind)
    obtain ⟨result, x₃, hregister, h₃⟩ := h₂.of_bind Aside.refl
    rcases run_register hregister (hlisted.aside hx₂) with
      ⟨⟨e, rfl⟩, hheld, haside⟩ | ⟨⟨a, rfl⟩, hfree, hne, hlisted₃⟩
    · obtain ⟨_, x₄, hx₄, h₄⟩ := run_asideOp h₃ (.node _ nofun nofun)
      obtain ⟨rfl, hR⟩ := Prog.run_ret_iff.mp h₄
      rw [hx₂.db] at hheld
      exact .inl ⟨rfl, .inr hheld, ((hx₂.trans haside).trans hx₄).trans hR⟩
    · obtain ⟨_, x₄, hx₄, h₄⟩ := run_asideOp h₃ (.node _ nofun nofun)
      obtain ⟨rfl, hR⟩ := Prog.run_ret_iff.mp h₄
      rw [hx₂.db] at hfree
      have hafter := hx₄.trans hR
      exact .inr ⟨by simp, not_or.mpr ⟨hstored, hfree⟩, hafter.ids ▸ hne, hlisted₃.aside hafter⟩

/-- Without an agent id, the first `Register` decides whether anything is registered. -/
theorem run_handleFrames {reader : Reader} {frames unread : List (Option Message)}
    (hid : reader.agentId = none)
    (hrun : (handleFrames X B me reader frames).Run (closingHandler B me) (Aside me) x unread x')
    (hlisted : Listed me x) :
    (Refused X me x.1.db frames ∧ x'.2 = x.2) ∨
    (¬ Refused X me x.1.db frames ∧ x'.2 ≠ [] ∧ Listed me x') := by
  induction frames generalizing x with
  | nil =>
    obtain ⟨-, hR⟩ := Prog.run_ret_iff.mp hrun
    exact .inl ⟨nofun, hR.ids⟩
  | cons frame frames ih =>
    have hskip : firstRegister (frame :: frames) = firstRegister frames →
        handleFrame X B me reader frame = .ret (some reader) →
        (Refused X me x.1.db (frame :: frames) ∧ x'.2 = x.2) ∨
          (¬ Refused X me x.1.db (frame :: frames) ∧ x'.2 ≠ [] ∧ Listed me x') := by
      intro hfirst hframe
      rw [handleFrames_cons, hframe] at hrun
      have hrest := ih hrun hlisted
      simpa only [Refused, hfirst] using hrest
    rcases frame with _ | m
    · exact hskip rfl rfl
    cases m with
    | register subdomain localPort localHost protocol apiKey =>
      have hrefused : Refused X me x.1.db (some (.register subdomain localPort localHost protocol
          apiKey) :: frames) ↔ Refusal X me x.1.db subdomain apiKey := by
        simp [Refused, firstRegister]
      rw [handleFrames_cons] at hrun
      obtain ⟨next, x₁, hframe, h₁⟩ := hrun.of_bind Aside.refl
      rw [hrefused]
      rcases run_handleRegister hframe hlisted with
        ⟨rfl, hrefusal, haside⟩ | ⟨hnext, hadmitted, hne, hlisted₁⟩
      · obtain ⟨-, hR⟩ := Prog.run_ret_iff.mp h₁
        exact .inl ⟨hrefusal, (haside.trans hR).ids⟩
      · cases next with
        | none => exact absurd rfl hnext
        | some reader' =>
          have hkeeps : (handleFrames X B me reader' frames).Issues (KeepsOp me) :=
            handleFrames_issues (fun _ _ _ _ ho => frameOp_keeps ho) reader'
          exact .inr ⟨hadmitted, run_keeps hkeeps h₁ hne hlisted₁⟩
    | heartbeat | httpResponse | tcpConnect | tcpData | tcpDisconnect | tcpListenResponse |
        connectionEstablished =>
      apply hskip rfl
      rw [handleFrame, ifRegistered_eq, hid]
    | _ => exact hskip rfl rfl

/-- With all database calls succeeding, and the other tasks leaving the database and the map of the
    server alone, a connection that has ended has left nothing behind exactly if its first
    `Register` was refused or there was none. -/
theorem nothing_left_iff {w w' : World} {ids : List String} {conn : Nat}
    {frames unread : List (Option Message)}
    (hrun : (handleAgentConnection X B me conn frames).Run (closingHandler B me) (Aside me)
      (w, []) unread (w', ids)) :
    NothingLeft me (w', ids) ↔ Refused X me w.db frames := by
  rw [handleAgentConnection_eq] at hrun
  obtain ⟨msgTx, x₁, hopen, h₁⟩ := run_asideOp hrun (.node _ nofun nofun)
  obtain ⟨left, x₂, hframes, h₂⟩ := h₁.of_bind Aside.refl
  obtain ⟨_, x₃, hclose, h₃⟩ := run_asideOp h₂ (.node _ nofun nofun)
  obtain ⟨-, hR⟩ := Prog.run_ret_iff.mp h₃
  have hafter : Aside me x₂ (w', ids) := hclose.trans hR
  have hempty : x₁.2 = [] := hopen.ids
  have hlisted : Listed me x₁ := by simp [Listed, hempty]
  rw [show w.db = x₁.1.db from hopen.db.symm]
  rcases run_handleFrames rfl hframes hlisted with ⟨hrefused, hids⟩ | ⟨hadmitted, hne, hlisted₂⟩
  · have hnone : ids = [] := (hafter.ids.trans hids).trans hempty
    exact iff_of_true (by simp [NothingLeft, hnone]) hrefused
  · refine iff_of_false (fun hleft => ?_) hadmitted
    obtain ⟨id, hid⟩ := List.exists_mem_of_ne_nil _ hne
    have hid' : id ∈ ids := by
      rw [show ids = x₂.2 from hafter.ids]
      exact hid
    exact (hleft id hid').1 (hlisted₂.aside hafter id hid')

end Steps

/-- A connection that registers `app` and is closed by its agent. -/
def openedAndClosed : ServerProg (List (Option Message)) :=
  handleAgentConnection ApiKeys.sampleCodec (.keyed none) "s" 0
    [some (.register "app" 80 "localhost" "http" "secret")]

def openedAndClosedChoices : List Choice :=
  [.go, .go, .fresh "i", .fresh "k", .go, .go, .read 1000, .read 1000, .read 1000, .go,
    .read 1000, .go, .go, .go, .go]

theorem openedAndClosed_run :
    ∃ w', openedAndClosed.Run (closingHandler (.keyed none) "s") (Aside "s") (ApiKeys.keyStored, [])
        [] (w', ["i"]) ∧ "i" ∈ (w'.node "s").agents ∧
      ∃ r ∈ w'.db.agents, r.id = "i" ∧ r.active = true := by
  have hplay : (openedAndClosed.play (closingHandler (.keyed none) "s") openedAndClosedChoices
      (ApiKeys.keyStored, [])).map (fun x => (x.1, x.2.2, ((x.2.1.node "s").agents.lookup "i").isSome,
        x.2.1.db.agents.rows.map fun r => (r.id, r.active))) =
      some ([], ["i"], true, [("i", true)]) := by
    decide +kernel
  obtain ⟨⟨unread, w', ids⟩, hrun, hproj⟩ := Option.map_eq_some_iff.mp hplay
  simp only [Prod.mk.injEq] at hproj
  obtain ⟨rfl, rfl, hmap, hrows⟩ := hproj
  obtain ⟨r, hr, hid⟩ := List.mem_map.mp (hrows ▸ List.mem_singleton_self ("i", true))
  exact ⟨w', .of_play Aside.refl hrun, AList.lookup_isSome.mp hmap, r, hr, Prod.mk.inj hid⟩

/-- Its agent is still in the map, and its row is active. -/
theorem left_behind :
    ∃ w', openedAndClosed.Run (closingHandler (.keyed none) "s") (Aside "s") (ApiKeys.keyStored, [])
        [] (w', ["i"]) ∧ "i" ∈ (w'.node "s").agents ∧
      (∃ r ∈ w'.db.agents, r.id = "i" ∧ r.active = true) ∧ ¬ NothingLeft "s" (w', ["i"]) := by
  obtain ⟨w', hrun, hmem, hactive⟩ := openedAndClosed_run
  exact ⟨w', hrun, hmem, hactive, fun hleft => (hleft "i" (by simp)).1 hmem⟩

/-- A connection whose first `Register` has a key that was never created. -/
def turnedAway : List (Option Message) :=
  [some (.register "app" 80 "localhost" "http" "guess"),
    some (.register "app" 80 "localhost" "http" "secret")]

/-- The first connection's `Register` was not refused, and its agent stays; the other's was, and
    the frame behind it is not read. -/
theorem nothing_left_iff_sides :
    (∃ w', openedAndClosed.Run (closingHandler (.keyed none) "s") (Aside "s")
        (ApiKeys.keyStored, []) [] (w', ["i"]) ∧
      ¬ Refused ApiKeys.sampleCodec "s" ApiKeys.keyStored.db
        [some (.register "app" 80 "localhost" "http" "secret")] ∧
      ¬ NothingLeft "s" (w', ["i"])) ∧
    ∃ unread w', (handleAgentConnection ApiKeys.sampleCodec (.keyed none) "s" 0 turnedAway).Run
        (closingHandler (.keyed none) "s") (Aside "s") (ApiKeys.keyStored, []) unread (w', []) ∧
      unread.length = 1 ∧ Refused ApiKeys.sampleCodec "s" ApiKeys.keyStored.db turnedAway ∧
      NothingLeft "s" (w', []) := by
  constructor
  · obtain ⟨w', hrun, hmem, -⟩ := openedAndClosed_run
    have hleft : ¬ NothingLeft "s" (w', ["i"]) := fun hleft => (hleft "i" (by simp)).1 hmem
    exact ⟨w', hrun, mt (nothing_left_iff hrun).mpr hleft, hleft⟩
  · have hends : ((handleAgentConnection ApiKeys.sampleCodec (.keyed none) "s" 0 turnedAway).play
        (closingHandler (.keyed none) "s") [.go, .go, .go, .go] (ApiKeys.keyStored, [])).map
          (fun x => (x.1.length, x.2.2)) = some (1, []) := by decide +kernel
    obtain ⟨⟨unread, w', ids⟩, hplay, hproj⟩ := Option.map_eq_some_iff.mp hends
    obtain ⟨hunread, rfl⟩ := Prod.mk.inj hproj
    have hrun := Prog.Run.of_play (@Aside.refl "s") hplay
    have hleft : NothingLeft "s" (w', []) := by simp [NothingLeft]
    exact ⟨unread, w', hrun, hunread, (nothing_left_iff hrun).mp hleft, hleft⟩

end Connection

end Jrok
