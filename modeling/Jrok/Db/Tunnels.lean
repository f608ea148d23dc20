import Jrok.Db.ForeignKeys

/-!
# Tunnels

`create_tunnel` inserts the tunnel of a subdomain, or brings the one that is there up to date;
`get_tunnel_by_subdomain` reads it. A tunnel keeps the id, the API key and the time of its first
creation, and has the protocol, the port and the time of its latest one. The first creation of a
subdomain can be refused: for an id that is taken, or for an API key that is not there.
-/

namespace Jrok

open Concurrency

structure Tunnel where
  id : String
  subdomain : String
  protocol : Protocol
  tcpPort : Option UInt16
  apiKeyId : Option String
  createdAt : Int
  updatedAt : Int
  active : Bool
  deriving DecidableEq, Repr

/-- The row of the VALUES clause of `create_tunnel`; the times of the tunnel itself are unused. -/
def Tunnel.row (tunnel : Tunnel) (now : Int) : TunnelRow where
  id := tunnel.id
  subdomain := tunnel.subdomain
  protocol := tunnel.protocol.text
  tcpPort := tunnel.tcpPort.map fun p => p.toNat
  apiKeyId := tunnel.apiKeyId
  createdAt := now
  updatedAt := now
  active := true

/-- The row decoder of `get_tunnel_by_subdomain`. -/
def TunnelRow.decode (row : TunnelRow) : Tunnel where
  id := row.id
  subdomain := row.subdomain
  protocol := .fromStr row.protocol
  tcpPort := row.tcpPort.map UInt16.ofInt
  apiKeyId := row.apiKeyId
  createdAt := row.createdAt
  updatedAt := row.updatedAt
  active := row.active

/-- What a later creation leaves of a row. -/
def TunnelRow.updated (row latest : TunnelRow) : TunnelRow :=
  { row with
    protocol := latest.protocol
    tcpPort := latest.tcpPort
    updatedAt := latest.updatedAt
    active := true }

namespace Db

def createTunnel (tunnel : Tunnel) : Call Unit :=
  executeAt fun now => .createTunnel (tunnel.row now)

def getTunnelBySubdomain (subdomain : String) : Call (Option Tunnel) := do
  let row ← statement (.getTunnelBySubdomain subdomain)
  return row.map TunnelRow.decode

theorem run_getTunnelBySubdomain (subdomain : String) :
    (getTunnelBySubdomain subdomain).run = .op (.sql (.getTunnelBySubdomain subdomain)) fun r =>
      .ret ((r.mapError .database).map fun row => row.map TunnelRow.decode) := by
  refine congrArg (Prog.op _) (funext fun r => ?_)
  cases r <;> rfl

/-- The decoder gives back what two creations have bound. -/
theorem decode_updated (first latest : Tunnel) (now now' : Int) :
    ((first.row now).updated (latest.row now')).decode =
      ⟨first.id, first.subdomain, latest.protocol, latest.tcpPort, first.apiKeyId, now, now',
        true⟩ := by
  have hport : (latest.tcpPort.map fun p : UInt16 => (p.toNat : Int)).map UInt16.ofInt =
      latest.tcpPort := by
    rw [Option.map_map]
    refine (Option.map_congr fun p _ => ?_).trans Option.map_id'
    show UInt16.ofInt (p.toNat : Int) = p
    have hlt : p.toNat % 2 ^ 16 = p.toNat := Nat.mod_eq_of_lt p.toNat_lt
    rw [UInt16.ofInt, ← UInt16.toNat_inj, UInt16.toNat_ofNat']
    omega
  simp [Tunnel.row, TunnelRow.updated, TunnelRow.decode, hport]

/-! ## The upsert -/

/-- The tunnel of a subdomain. -/
def tunnelOf (db : Database) (subdomain : String) : Option TunnelRow :=
  db.tunnels.rows.find? fun row => row.subdomain = subdomain

/-- Every row is the tunnel of its subdomain. -/
def OneTunnelEach (db : Database) : Prop :=
  ∀ row ∈ db.tunnels, tunnelOf db row.subdomain = some row

/-- The update of the rows of one subdomain changes the tunnel of no other. -/
theorem tunnelOf_update (db : Database) (row : TunnelRow) (subdomain : String) :
    (db.tunnels.rows.map fun r => if decide (r.subdomain = row.subdomain) = true then
        r.updated row else r).find? (fun r => r.subdomain = subdomain) =
      if row.subdomain = subdomain then (tunnelOf db subdomain).map fun first => first.updated row
      else tunnelOf db subdomain := by
  have hsub : ∀ r : TunnelRow, (if decide (r.subdomain = row.subdomain) = true then r.updated row
      else r).subdomain = r.subdomain := by
    intro r
    split <;> rfl
  simp only [List.find?_map, Function.comp_def, hsub]
  cases hfound : db.tunnels.rows.find? fun r => r.subdomain = subdomain with
  | none => simp [tunnelOf, hfound]
  | some first =>
    have hfirst : first.subdomain = subdomain := by simpa using List.find?_some hfound
    by_cases hsame : row.subdomain = subdomain
    · simp [tunnelOf, hfound, hfirst, hsame]
    · simp [tunnelOf, hfound, hfirst, hsame, Ne.symm hsame]

/-- What a creation that goes through makes of the tunnels. -/
structure Upserts (row : TunnelRow) (db db' : Database) : Prop where
  tunnel : ∀ subdomain, tunnelOf db' subdomain =
    if row.subdomain = subdomain then
      some (((tunnelOf db subdomain).map fun first => first.updated row).getD row)
    else tunnelOf db subdomain
  rows : ∀ r' ∈ db'.tunnels,
    (∃ r ∈ db.tunnels, r' = if r.subdomain = row.subdomain then r.updated row else r) ∨
    (r' = row ∧ tunnelOf db row.subdomain = none)

/-- The row of the subdomain is updated. -/
theorem upserts_update {db : Database} {row : TunnelRow}
    (hsub : (db.tunnels.rows.any fun r => r.subdomain = row.subdomain) = true) :
    Upserts row db { db with
      tunnels := db.tunnels.updateWhere (fun r => r.subdomain = row.subdomain)
        fun r => r.updated row } := by
  refine ⟨fun subdomain => ?_, fun r' hr' => ?_⟩
  · refine (tunnelOf_update db row subdomain).trans ?_
    by_cases hsame : row.subdomain = subdomain
    · subst hsame
      obtain ⟨first, hfirst⟩ := Option.isSome_iff_exists.mp
        ((List.find?_isSome.trans List.any_eq_true.symm).mpr hsub)
      simp [tunnelOf, hfirst]
    · rw [if_neg hsame, if_neg hsame]
  · obtain ⟨r, hr, rfl⟩ := (Relational.Table.mem_updateWhere (by intro; rfl)).mp hr'
    exact .inl ⟨r, hr, by simp [TunnelRow.updated]⟩

/-- The row of a new subdomain is inserted. -/
theorem upserts_insert {db : Database} {row : TunnelRow} {t : Relational.Table TunnelRow (·.id)}
    (hsub : (db.tunnels.rows.any fun r => r.subdomain = row.subdomain) = false)
    (hins : db.tunnels.insert? row = some t) : Upserts row db { db with tunnels := t } := by
  have hother : ∀ r ∈ db.tunnels.rows, r.subdomain ≠ row.subdomain := fun r hr => by
    simpa using List.any_eq_false.mp hsub r hr
  have hnone : tunnelOf db row.subdomain = none :=
    List.find?_eq_none.mpr fun r hr => by simpa using hother r hr
  refine ⟨fun subdomain => ?_, fun r' hr' => ?_⟩
  · rw [tunnelOf, Relational.Table.insert?_rows hins, List.find?_append]
    by_cases hsame : row.subdomain = subdomain
    · subst hsame
      have hrows : db.tunnels.rows.find? (fun r => r.subdomain = row.subdomain) = none := hnone
      simp [hrows, hnone]
    · simp [hsame, tunnelOf]
  · rcases (Relational.Table.mem_insert? hins r').mp hr' with hold | rfl
    · exact .inl ⟨r', hold, by rw [if_neg (hother r' hold)]⟩
    · exact .inr ⟨rfl, hnone⟩

theorem tunnelOf_eq_none_iff {db : Database} {subdomain : String} :
    tunnelOf db subdomain = none ↔ ∀ r ∈ db.tunnels, r.subdomain ≠ subdomain := by
  simp [tunnelOf, Relational.Table.mem_iff]

/-- A creation is refused without effect where its subdomain has no tunnel and its id is taken;
    otherwise it inserts its row or updates the one of its subdomain. -/
theorem exec_createTunnel (B : Backend) (db : Database) (row : TunnelRow) :
    (tunnelOf db row.subdomain = none ∧ (∃ other ∈ db.tunnels, other.id = row.id) ∧
      (Sql.createTunnel row).exec B db = (.error .constraint, db)) ∨
    ((tunnelOf db row.subdomain = none → ∀ other ∈ db.tunnels, other.id ≠ row.id) ∧
      ((Sql.createTunnel row).exec B db).1 = .ok 1 ∧
      Upserts row db ((Sql.createTunnel row).exec B db).2) := by
  cases hsub : db.tunnels.rows.any fun r => r.subdomain = row.subdomain with
  | true =>
    obtain ⟨r, hr, hsame⟩ := List.any_eq_true.mp hsub
    refine .inr ⟨fun hnone => ?_, ?_⟩
    · exact absurd (of_decide_eq_true hsame) (tunnelOf_eq_none_iff.mp hnone r hr)
    · simp only [Sql.exec, Database.createTunnel, hsub, if_true, true_and]
      exact upserts_update hsub
  | false =>
    have hnone : tunnelOf db row.subdomain = none := tunnelOf_eq_none_iff.mpr fun r hr => by
      simpa using List.any_eq_false.mp hsub r hr
    cases hins : db.tunnels.insert? row with
    | none =>
      refine .inl ⟨hnone, Relational.Table.insert?_eq_none_iff.mp hins, ?_⟩
      simp only [Sql.exec, Database.createTunnel, hsub, hins, Bool.false_eq_true, if_false]
    | some t =>
      refine .inr ⟨fun _ other hother hid => ?_, ?_⟩
      · cases hins.symm.trans (Relational.Table.insert?_eq_none_iff.mpr ⟨other, hother, hid⟩)
      · simp only [Sql.exec, Database.createTunnel, hsub, hins, Bool.false_eq_true, if_false,
          true_and]
        exact upserts_insert hsub hins

/-- The first creation of a subdomain is refused for an id that is taken or an API key that is not
    there; the later ones are not. -/
theorem createTunnel_refused_iff {B : Backend} {db : Database} {row : TunnelRow} :
    (∃ e, ((Sql.createTunnel row).execEnforced B db).1 = .error e) ↔
      tunnelOf db row.subdomain = none ∧ ((∃ other ∈ db.tunnels, other.id = row.id) ∨
        ∃ key, row.apiKeyId = some key ∧ db.apiKeys.find? key = none) := by
  have hdangles : (Sql.createTunnel row).dangles db = true ↔
      tunnelOf db row.subdomain = none ∧
        ∃ key, row.apiKeyId = some key ∧ db.apiKeys.find? key = none := by
    simp [Sql.dangles, tunnelOf, Option.any_eq_true]
  rcases exec_createTunnel B db row with ⟨hnone, htaken, hexec⟩ | ⟨hfree, hok, -⟩
  · simp [Sql.execEnforced, hexec, Except.isOk, Except.toBool, hnone, htaken]
  · by_cases hrefused : (Sql.createTunnel row).dangles db = true
    · obtain ⟨hnone, hkey⟩ := hdangles.mp hrefused
      simp [Sql.execEnforced, hok, Except.isOk, Except.toBool, hrefused, hnone, hkey]
    · have hpass : ((Sql.createTunnel row).execEnforced B db).1 = .ok 1 := by
        simp [Sql.execEnforced, hok, hrefused]
      rw [hpass]
      constructor
      · rintro ⟨e, he⟩
        cases he
      · rintro ⟨hnone, ⟨other, hother, hid⟩ | hkey⟩
        · exact absurd hid (hfree hnone other hother)
        · exact absurd (hdangles.mpr ⟨hnone, hkey⟩) hrefused

theorem OneTunnelEach.create {B : Backend} {db : Database} {row : TunnelRow}
    (h : OneTunnelEach db) : OneTunnelEach ((Sql.createTunnel row).exec B db).2 := by
  rcases exec_createTunnel B db row with ⟨-, -, hexec⟩ | ⟨-, -, htunnel, hrows⟩
  · rw [hexec]
    exact h
  · intro r' hr'
    rw [htunnel]
    rcases hrows r' hr' with ⟨r, hr, rfl⟩ | ⟨rfl, hnone⟩
    · by_cases hsame : r.subdomain = row.subdomain
      · rw [if_pos hsame]
        have hold : tunnelOf db (r.updated row).subdomain = some r := h r hr
        rw [if_pos (show row.subdomain = (r.updated row).subdomain from hsame.symm), hold]
        rfl
      · rw [if_neg hsame, if_neg (Ne.symm hsame), h r hr]
    · simp [hnone]

/-- No other statement touches the tunnels. -/
theorem exec_tunnels {B : Backend} {db : Database} {q : Sql} (hq : ∀ row, q ≠ .createTunnel row) :
    (q.exec B db).2.tunnels = db.tunnels := by
  cases q with
  | createTunnel row => exact absurd rfl (hq row)
  | _ =>
    simp only [Sql.exec, Database.updateAgents, Database.updateServers, Database.registerAgent]
    repeat' split
    all_goals rfl

/-! ## The tunnels of a log -/

variable {τ : Type}

/-- The row of a creation for the subdomain that has gone through. -/
def creation (subdomain : String) : Event serverSig → Option TunnelRow
  | ⟨.sql (.createTunnel row), .ok _⟩ => if row.subdomain = subdomain then some row else none
  | _ => none

/-- The creations for a subdomain, the latest first. -/
def creations (subdomain : String) (log : Log serverSig τ) : List TunnelRow :=
  log.filterMap fun e => creation subdomain e.2

theorem creations_cons (subdomain : String) (t : τ) (e : Event serverSig) (log : Log serverSig τ) :
    creations subdomain ((t, e) :: log) =
      (creation subdomain e).toList ++ creations subdomain log := by
  cases h : creation subdomain e <;> simp [creations, h]

theorem creations_append (subdomain : String) (newer older : Log serverSig τ) :
    creations subdomain (newer ++ older) =
      creations subdomain newer ++ creations subdomain older :=
  List.filterMap_append

/-- What creations, the latest first, make of a subdomain. -/
def created : List TunnelRow → Option TunnelRow
  | [] => none
  | latest :: rows => some (((created rows).map fun first => first.updated latest).getD latest)

/-- The tunnel keeps the id of its first creation. -/
theorem created_first (rows : List TunnelRow) (first : TunnelRow) :
    ∃ row, created (rows ++ [first]) = some row ∧ row.id = first.id := by
  induction rows with
  | nil => exact ⟨first, rfl, rfl⟩
  | cons latest rows ih =>
    obtain ⟨row, hrow, hid⟩ := ih
    refine ⟨row.updated latest, ?_, hid⟩
    rw [List.cons_append, created, hrow]
    rfl

/-- The tunnels are those that the creations of the log make. -/
structure TunnelsCreated (db : Database) (log : Log serverSig τ) : Prop where
  oneEach : OneTunnelEach db
  tunnel : ∀ subdomain, tunnelOf db subdomain = created (creations subdomain log)

section Steps

variable {B : Backend} {db db' : Database} {log : Log serverSig τ} {t : τ}

theorem TunnelsCreated.other {e : Event serverSig} (h : TunnelsCreated db log)
    (hsame : db'.tunnels = db.tunnels) (hnone : ∀ subdomain, creation subdomain e = none) :
    TunnelsCreated db' ((t, e) :: log) := by
  have htunnel : tunnelOf db' = tunnelOf db := by
    funext subdomain
    rw [tunnelOf, hsame]
    rfl
  refine ⟨fun row hrow => ?_, fun subdomain => ?_⟩
  · rw [htunnel]
    exact h.oneEach row (hsame ▸ hrow)
  · rw [htunnel, h.tunnel, creations_cons, hnone, Option.toList_none, List.nil_append]

theorem TunnelsCreated.create {row : TunnelRow} {n : Nat} (h : TunnelsCreated db log)
    (hok : ((Sql.createTunnel row).exec B db).1 = .ok n) :
    TunnelsCreated ((Sql.createTunnel row).exec B db).2
      ((t, ⟨.sql (.createTunnel row), .ok n⟩) :: log) := by
  refine ⟨h.oneEach.create, fun subdomain => ?_⟩
  rcases exec_createTunnel B db row with ⟨-, -, hexec⟩ | ⟨-, -, hupserts⟩
  · rw [hexec] at hok
    cases hok
  · rw [hupserts.tunnel, h.tunnel, creations_cons]
    by_cases hsame : row.subdomain = subdomain
    · have hrow : creation subdomain ⟨.sql (.createTunnel row), .ok n⟩ = some row := if_pos hsame
      rw [if_pos hsame, hrow]
      rfl
    · have hrow : creation subdomain ⟨.sql (.createTunnel row), .ok n⟩ = none := if_neg hsame
      rw [if_neg hsame, hrow]
      rfl

/-- One statement that goes through. -/
theorem TunnelsCreated.exec {q : Sql} {a : q.Res} (h : TunnelsCreated db log)
    (hok : (q.exec B db).1 = .ok a) :
    TunnelsCreated (q.exec B db).2 ((t, ⟨.sql q, .ok a⟩) :: log) := by
  by_cases hq : ∃ row, q = .createTunnel row
  · obtain ⟨row, rfl⟩ := hq
    exact h.create hok
  · refine h.other (exec_tunnels fun row hrow => hq ⟨row, hrow⟩) fun _ => ?_
    cases q with
    | createTunnel row => exact absurd ⟨row, rfl⟩ hq
    | _ => rfl

end Steps

/-- Only a creation that has gone through is one. -/
theorem creation_eq_some {subdomain : String} {e : Event serverSig} {row : TunnelRow}
    (h : creation subdomain e = some row) :
    ∃ n, e = ⟨.sql (.createTunnel row), .ok n⟩ ∧ row.subdomain = subdomain := by
  obtain ⟨o, r⟩ := e
  rcases o with _ | _ | q | _ <;> try cases h
  cases q <;> rcases r with _ | n <;> try cases h
  obtain ⟨hsub, heq⟩ := Option.ite_none_right_eq_some.mp h
  obtain rfl := Option.some.inj heq
  exact ⟨n, rfl, hsub⟩

theorem tunnelsCreated_after {B : Backend} {faulty : Bool} {db₀ : Database}
    {log : Log serverSig τ} (hempty : db₀.tunnels = .empty)
    (hcausal : Causal (fun e older => Database.Answers B faulty (.after B db₀ older) e.2) log) :
    TunnelsCreated (.after B db₀ log) log := by
  refine Database.after_invariant TunnelsCreated hcausal ⟨?_, fun subdomain => ?_⟩
    (fun db older t q a h hok => h.exec hok) (fun db older t e h hnot => h.other rfl fun sub => ?_)
  · simp [OneTunnelEach, hempty]
  · simp [tunnelOf, hempty, Relational.Table.empty, creations, created]
  · rw [Option.eq_none_iff_forall_ne_some]
    intro row hrow
    obtain ⟨n, rfl, -⟩ := creation_eq_some hrow
    exact hnot _ _ rfl

/-! ## Calls -/

inductive TunnelCall where
  | create (tunnel : Tunnel)
  | get (subdomain : String)
  deriving DecidableEq

inductive TunnelAnswer where
  | created (r : Except Error Unit)
  | found (r : Except Error (Option Tunnel))
  deriving DecidableEq

def TunnelCall.run : TunnelCall → ServerProg TunnelAnswer
  | .create tunnel => do return .created (← (createTunnel tunnel).run)
  | .get subdomain => do return .found (← (getTunnelBySubdomain subdomain).run)

/-- The statements of these calls. -/
def onTunnels : Sql → Bool
  | .createTunnel _ | .getTunnelBySubdomain _ => true
  | _ => false

theorem TunnelCall.issues (call : TunnelCall) :
    call.run.Issues fun o : Op => o = .now ∨ ∃ q, o = .sql q ∧ onTunnels q = true := by
  cases call with
  | create tunnel =>
    refine Prog.Issues.bind ?_ fun _ => trivial
    rw [createTunnel, run_executeAt]
    exact ⟨.inl rfl, fun _ => ⟨.inr ⟨_, rfl, rfl⟩, fun _ => trivial⟩⟩
  | get subdomain =>
    refine Prog.Issues.bind ?_ fun _ => trivial
    rw [run_getTunnelBySubdomain]
    exact ⟨.inr ⟨_, rfl, rfl⟩, fun _ => trivial⟩

theorem exec_apiKeys_of_onTunnels {B : Backend} {db : Database} {q : Sql}
    (hq : onTunnels q = true) : (q.exec B db).2.apiKeys = db.apiKeys := by
  cases q with
  | createTunnel row =>
    simp only [Sql.exec, Database.createTunnel]
    repeat' split
    all_goals rfl
  | getTunnelBySubdomain subdomain => rfl
  | _ => cases hq

section Paths

variable {es : List (Event serverSig)}

theorem create_insert {call : TunnelCall} {row : TunnelRow} {r : Except DbError Nat}
    {p : ServerProg TunnelAnswer}
    (h : call.run.Path (es ++ [⟨.sql (.createTunnel row), r⟩]) p) :
    ∃ tunnel now, call = .create tunnel ∧ row = tunnel.row now := by
  obtain ⟨tunnel⟩ | ⟨subdomain⟩ := call
  · obtain ⟨q, hq⟩ := h.of_bind_ret
    rw [createTunnel, run_executeAt] at hq
    rcases Prog.path_op_snoc_iff.mp hq with ⟨-, _, he, -⟩ | ⟨now, es₁, rfl, h₁⟩
    · cases congrArg Sigma.fst he
    rcases Prog.path_op_snoc_iff.mp h₁ with ⟨-, _, he, -⟩ | ⟨_, es₂, rfl, h₂⟩
    · cases congrArg Sigma.fst he
      exact ⟨tunnel, now, rfl, rfl⟩
    · exact absurd h₂ Prog.not_path_ret_snoc
  · obtain ⟨q, hq⟩ := h.of_bind_ret
    rw [run_getTunnelBySubdomain] at hq
    rcases Prog.path_op_snoc_iff.mp hq with ⟨-, _, he, -⟩ | ⟨_, _, -, h₁⟩
    · cases congrArg Sigma.fst he
    · exact absurd h₁ Prog.not_path_ret_snoc

theorem create_returned {tunnel : Tunnel} {r : Except Error Unit}
    (h : (TunnelCall.create tunnel).run.Path es (.ret (.created r))) :
    ∃ now result, es = [⟨.now, now⟩, ⟨.sql (.createTunnel (tunnel.row now)), result⟩] ∧
      r = (result.mapError .database).map fun _ => () := by
  obtain ⟨es₁, es₂, r, rfl, hrun, hret⟩ := Prog.path_bind_ret_iff.mp h
  obtain ⟨rfl, hr⟩ := Prog.path_ret_iff.mp hret
  obtain rfl := TunnelAnswer.created.inj (Prog.ret.inj hr)
  rw [createTunnel, run_executeAt] at hrun
  obtain ⟨now, es₂, rfl, h₁⟩ := Prog.path_op_ret_iff.mp hrun
  obtain ⟨result, es₃, rfl, h₂⟩ := Prog.path_op_ret_iff.mp h₁
  obtain ⟨rfl, hresult⟩ := Prog.path_ret_iff.mp h₂
  exact ⟨now, result, rfl, Prog.ret.inj hresult⟩

theorem get_found {subdomain : String} {r : Option Tunnel}
    (h : (TunnelCall.get subdomain).run.Path es (.ret (.found (.ok r)))) :
    ∃ row, es = [⟨.sql (.getTunnelBySubdomain subdomain), .ok row⟩] ∧
      r = row.map TunnelRow.decode := by
  obtain ⟨es₁, es₂, r, rfl, hrun, hret⟩ := Prog.path_bind_ret_iff.mp h
  obtain ⟨rfl, hr⟩ := Prog.path_ret_iff.mp hret
  obtain rfl := TunnelAnswer.found.inj (Prog.ret.inj hr)
  rw [run_getTunnelBySubdomain] at hrun
  obtain ⟨result, es₂, rfl, h₁⟩ := Prog.path_op_ret_iff.mp hrun
  obtain ⟨rfl, hresult⟩ := Prog.path_ret_iff.mp h₁
  cases result with
  | error e => cases hresult
  | ok row => exact ⟨row, rfl, Except.ok.inj (Prog.ret.inj hresult)⟩

end Paths

/-! ## Every run -/

/-- The event is a creation of this tunnel for the subdomain, at this time. -/
def Creates (calls : τ → TunnelCall) (subdomain : String) (e : τ × Event serverSig)
    (tunnel : Tunnel) (now : Int) : Prop :=
  calls e.1 = .create tunnel ∧ tunnel.subdomain = subdomain ∧
    ∃ n, e.2 = ⟨.sql (.createTunnel (tunnel.row now)), .ok n⟩

/-- What there is to be told of a subdomain: nothing before its first creation, and then the first
    creation and the latest one in one tunnel. -/
inductive Told (calls : τ → TunnelCall) (subdomain : String) (log : Log serverSig τ) :
    Option Tunnel → Prop where
  | none (h : creations subdomain log = []) : Told calls subdomain log none
  | some (first latest : Tunnel) (now now' : Int)
      (hfirst : ∃ newer e older, log = newer ++ e :: older ∧ Creates calls subdomain e first now ∧
        creations subdomain older = [])
      (hlatest : ∃ newer e older, log = newer ++ e :: older ∧
        Creates calls subdomain e latest now' ∧ creations subdomain newer = []) :
    Told calls subdomain log (some ⟨first.id, subdomain, latest.protocol, latest.tcpPort,
      first.apiKeyId, now, now', true⟩)

section Runs

variable [DecidableEq τ] {calls : τ → TunnelCall} {subdomain : String} {log : Log serverSig τ}

/-- The row of a subdomain is made of the first and the latest of its creations. -/
theorem created_cases (hf : System.Follows (fun t => (calls t).run) log) :
    creations subdomain log = [] ∨ ∃ first latest now now',
      (∃ newer e older, log = newer ++ e :: older ∧ Creates calls subdomain e first now ∧
        creations subdomain older = []) ∧
      (∃ newer e older, log = newer ++ e :: older ∧ Creates calls subdomain e latest now' ∧
        creations subdomain newer = []) ∧
      created (creations subdomain log) = some ((first.row now).updated (latest.row now')) := by
  induction log with
  | nil => exact .inl rfl
  | cons e log ih =>
    obtain ⟨t, e⟩ := e
    have hold := ih hf.of_cons
    rw [creations_cons]
    cases hrow : creation subdomain e with
    | none =>
      refine hold.imp id ?_
      rintro ⟨first, latest, now, now', ⟨newer, d, older, rfl, hfirst, hnone⟩,
        ⟨newer', d', older', hsplit, hlatest, hnone'⟩, hcreated⟩
      refine ⟨first, latest, now, now', ⟨(t, e) :: newer, d, older, rfl, hfirst, hnone⟩,
        ⟨(t, e) :: newer', d', older', ?_, hlatest, ?_⟩, hcreated⟩
      · rw [hsplit]
        rfl
      · rw [creations_cons, hrow, hnone']
        rfl
    | some row =>
      obtain ⟨n, rfl, hsub⟩ := creation_eq_some hrow
      obtain ⟨p, hp⟩ := System.Follows.at_split (show System.Follows _ ([] ++ _) from hf)
      obtain ⟨tunnel, now, hcall, rfl⟩ := create_insert hp
      have hnew : Creates calls subdomain (t, ⟨.sql (.createTunnel (tunnel.row now)), .ok n⟩)
          tunnel now := ⟨hcall, hsub, n, rfl⟩
      rcases hold with hnone |
        ⟨first, latest, now', now'', ⟨newer, d, older, rfl, hfirst, hempty⟩, -, hcreated⟩
      · refine .inr ⟨tunnel, tunnel, now, now, ⟨[], _, log, rfl, hnew, hnone⟩,
          ⟨[], _, log, rfl, hnew, rfl⟩, ?_⟩
        rw [hnone]
        rfl
      · refine .inr ⟨first, tunnel, now', now, ⟨_ :: newer, d, older, rfl, hfirst, hempty⟩,
          ⟨[], _, _, rfl, hnew, rfl⟩, ?_⟩
        rw [Option.toList_some, List.singleton_append, created, hcreated]
        rfl

theorem told_of_follows (hf : System.Follows (fun t => (calls t).run) log) :
    Told calls subdomain log ((created (creations subdomain log)).map TunnelRow.decode) := by
  rcases created_cases hf with hnone | ⟨first, latest, now, now', hfirst, hlatest, hcreated⟩
  · rw [hnone]
    exact .none hnone
  · rw [hcreated, Option.map_some, decode_updated]
    obtain ⟨newer, e, older, hsplit, ⟨hcall, rfl, hevent⟩, hnone⟩ := hfirst
    exact .some first latest now now' ⟨newer, e, older, hsplit, ⟨hcall, rfl, hevent⟩, hnone⟩ hlatest

end Runs

/-- What has been told of a subdomain is the row of its creations. -/
theorem created_of_told {calls : τ → TunnelCall} {subdomain : String} {log : Log serverSig τ}
    {found : Tunnel} (h : Told calls subdomain log (some found)) :
    ∃ row, created (creations subdomain log) = some row ∧ row.id = found.id := by
  cases h with
  | some first latest now now' hfirst hlatest =>
    obtain ⟨newer, e, older, rfl, ⟨-, hsub, n, he⟩, hnone⟩ := hfirst
    have hcreations : creations subdomain (newer ++ e :: older) =
        creations subdomain newer ++ [first.row now] := by
      have hcreation : creation subdomain e.2 = some (first.row now) := by
        rw [he]
        exact if_pos hsub
      rw [creations_append, creations_cons, hnone, hcreation]
      rfl
    rw [hcreations]
    exact created_first _ _

/-- What stands in the way of a creation after the events of a log: its subdomain has not been
    created, and its id is the one of another subdomain or its API key is not among these. -/
def Hindered (calls : τ → TunnelCall) (apiKeys : Relational.Table ApiKey (·.id))
    (log : Log serverSig τ) (tunnel : Tunnel) : Prop :=
  Told calls tunnel.subdomain log none ∧
    ((∃ other found, Told calls other log (some found) ∧ found.id = tunnel.id) ∨
      ∃ key, tunnel.apiKeyId = some key ∧ apiKeys.find? key = none)

/-- What a call of `get_tunnel_by_subdomain` has found is the tunnel of the creations before it.
    Where statements do not fail, a creation is refused exactly if something stands in its way. -/
structure TunnelsKept (calls : τ → TunnelCall) (faulty : Bool)
    (apiKeys : Relational.Table ApiKey (·.id))
    (c : Config serverSig τ (Option TunnelAnswer) (World × Log serverSig τ)) : Prop where
  found : ∀ u subdomain r, calls u = .get subdomain → c.task u = .idle (some (.found (.ok r))) →
    ∃ newer older row, c.shared.2 =
        newer ++ (u, ⟨.sql (.getTunnelBySubdomain subdomain), .ok row⟩) :: older ∧
      Told calls subdomain older r
  refused : faulty = false → ∀ t tunnel r, calls t = .create tunnel →
    c.task t = .idle (some (.created r)) →
    ∃ newer older now result, c.shared.2 =
        newer ++ (t, ⟨.sql (.createTunnel (tunnel.row now)), result⟩) :: older ∧
      ((∃ e, r = .error e) ↔ Hindered calls apiKeys older tunnel)

section Runs

variable [DecidableEq τ] {calls : τ → TunnelCall} {B : Backend} {db₀ : Database}
  {log : Log serverSig τ}

/-- None of these calls touches the API keys. -/
theorem apiKeys_after (hf : System.Follows (fun t => (calls t).run) log) :
    (Database.after B db₀ log).apiKeys = db₀.apiKeys := by
  induction log with
  | nil => rfl
  | cons e log ih =>
    obtain ⟨t, o, r⟩ := e
    obtain ⟨p, hp⟩ := System.Follows.at_split (show System.Follows _ ([] ++ _) from hf)
    have ho := (hp.issues (calls t).issues).1 ⟨o, r⟩ (by simp)
    rw [← ih hf.of_cons]
    rcases ho with rfl | ⟨q, rfl, hq⟩
    · rfl
    · cases r with
      | error e => rfl
      | ok n => exact exec_apiKeys_of_onTunnels hq

/-- Something stands in the way of a creation exactly if the statement is refused. -/
theorem hindered_iff {tunnel : Tunnel} (now : Int)
    (hf : System.Follows (fun t => (calls t).run) log)
    (hcreated : TunnelsCreated (.after B db₀ log) log) :
    (∃ e, ((Sql.createTunnel (tunnel.row now)).execEnforced B (.after B db₀ log)).1 = .error e) ↔
      Hindered calls db₀.apiKeys log tunnel := by
  refine createTunnel_refused_iff.trans (and_congr ?_ (or_congr ?_ ?_))
  · show tunnelOf _ tunnel.subdomain = none ↔ _
    rw [hcreated.tunnel]
    constructor
    · intro hnone
      have htold : Told calls tunnel.subdomain log _ := told_of_follows hf
      rwa [hnone] at htold
    · rintro (hnone | _)
      rw [hnone]
      rfl
  · constructor
    · rintro ⟨other, hother, hid⟩
      have htold : Told calls other.subdomain log _ := told_of_follows hf
      rw [← hcreated.tunnel, hcreated.oneEach other hother] at htold
      exact ⟨other.subdomain, other.decode, htold, hid⟩
    · rintro ⟨other, found, htold, hid⟩
      obtain ⟨row, hrow, hsame⟩ := created_of_told htold
      rw [← hcreated.tunnel] at hrow
      exact ⟨row, List.mem_of_find?_eq_some hrow, hsame.trans hid⟩
  · rw [apiKeys_after hf]
    rfl

end Runs

/-- In every run of any number of tasks from a database without tunnels, under its foreign keys. -/
theorem tunnels_kept [DecidableEq τ] {calls : τ → TunnelCall} {B : Backend} {faulty : Bool}
    {c₀ c : Config serverSig τ (Option TunnelAnswer) (World × Log serverSig τ)}
    (hempty : c₀.shared.1.db.tunnels = .empty) (hidle : ∀ t, c₀.task t = .idle none)
    (hlog : c₀.shared.2 = [])
    (hr : (System.oneShot (fun _ => World.enforcedHandler B faulty) fun t =>
      (calls t).run).logged.Reachable c₀ c) :
    TunnelsKept calls faulty c₀.shared.1.db.apiKeys c := by
  have htraced : System.Traced (fun t => (calls t).run) c := hr.traced hidle hlog
  have hanswers := (System.keepsLog_logged.recorded World.recorded_enforced hr hidle hlog).2
  have hf := htraced.follows
  refine ⟨fun u subdomain r hcall hreturned => ?_, fun hfaulty t tunnel r hcall hreturned => ?_⟩
  · have hpath := htraced.returned hreturned
    rw [hcall] at hpath
    obtain ⟨row, hown, rfl⟩ := get_found hpath
    obtain ⟨newer, older, hsplit, -⟩ := Log.exists_split (show _ = [] ++ [_] from hown)
    rw [hsplit] at hanswers hf
    refine ⟨newer, older, row, hsplit, ?_⟩
    have hok := hanswers.at_split.1.of_ok
    obtain rfl : tunnelOf (.after B c₀.shared.1.db older) subdomain = row := Except.ok.inj hok
    rw [(tunnelsCreated_after hempty (hanswers.of_append.2.imp fun _ _ h => h.1)).tunnel]
    exact told_of_follows hf.of_append.of_cons
  · have hpath := htraced.returned hreturned
    rw [hcall] at hpath
    obtain ⟨now, result, hown, rfl⟩ := create_returned hpath
    obtain ⟨newer, older, hsplit, -⟩ := Log.exists_split (show _ = [_] ++ [_] from hown)
    rw [hsplit] at hanswers hf
    refine ⟨newer, older, now, result, hsplit, ?_⟩
    have hcreated := tunnelsCreated_after hempty (hanswers.of_append.2.imp fun _ _ h => h.1)
    rw [← hindered_iff now hf.of_append.of_cons hcreated]
    rcases hanswers.at_split.2 with hexec | ⟨htrue, -⟩
    · rw [← hexec]
      cases result <;> simp [Except.mapError, Except.map]
    · cases htrue.symm.trans hfaulty

/-- A tunnel is created and brought up to date, also under an id that is another's; a second
    subdomain asks for a taken id and for an API key that is not there. -/
def tunnelCalls : Nat → TunnelCall
  | 0 => .create ⟨"a", "app", .http, none, some "1", 0, 0, false⟩
  | 1 => .create ⟨"b", "web", .http, none, none, 0, 0, false⟩
  | 2 => .create ⟨"b", "app", .tcp, some 10022, some "2", 0, 0, false⟩
  | 3 => .create ⟨"a", "other", .http, none, none, 0, 0, false⟩
  | 4 => .create ⟨"c", "other", .http, none, some "2", 0, 0, false⟩
  | _ => .get "app"

def tunnelMoves : List (Move Nat Unit Choice) :=
  [0, 1, 2, 3, 4].flatMap (fun t =>
    [.start t (), .act t (.read (1000 * (t + 1))), .act t .go, .finish t]) ++
    [.start 5 (), .act 5 .go, .finish 5]

/-- The only API key has the id `1`. -/
def tunnelsStart : Config serverSig Nat (Option TunnelAnswer) (World × Log serverSig Nat) :=
  let key : ApiKey := ⟨"1", "hash", "secr", none, 0⟩
  ⟨({ World.boot with db := ((Sql.createApiKey key).exec .migrated .migrated).2 }, []),
    fun _ => .idle none⟩

theorem tunnels_kept_updated :
    ∃ c, (System.oneShot (fun _ => World.enforcedHandler .migrated false) fun t =>
        (tunnelCalls t).run).logged.Reachable tunnelsStart c ∧
      c.answer 2 = some (.created (.ok ())) ∧
      c.answer 3 = some (.created (.error (.database .constraint))) ∧
      c.answer 4 = some (.created (.error (.database .foreignKey))) ∧
      c.answer 5 = some (.found (.ok (some
        ⟨"a", "app", .tcp, some 10022, some "1", 1000, 3000, true⟩))) ∧
      TunnelsKept tunnelCalls false tunnelsStart.shared.1.db.apiKeys c := by
  have hrun : ((System.oneShot (fun _ => World.enforcedHandler .migrated false) fun t =>
      (tunnelCalls t).run).logged.replay tunnelMoves tunnelsStart).map
        (fun c => (c.answer 2, c.answer 3, c.answer 4, c.answer 5)) =
      some (some (.created (.ok ())), some (.created (.error (.database .constraint))),
        some (.created (.error (.database .foreignKey))), some (.found (.ok (some
          ⟨"a", "app", .tcp, some 10022, some "1", 1000, 3000, true⟩)))) := by decide +kernel
  obtain ⟨c, hc, hproj⟩ := Option.map_eq_some_iff.mp hrun
  simp only [Prod.mk.injEq] at hproj
  obtain ⟨hupdated, hrefused, hmissing, hfound⟩ := hproj
  exact ⟨c, ⟨_, hc⟩, hupdated, hrefused, hmissing, hfound,
    tunnels_kept rfl (fun _ => rfl) rfl ⟨_, hc⟩⟩

end Db

end Jrok
