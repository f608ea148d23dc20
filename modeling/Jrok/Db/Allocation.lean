import Jrok.Concurrency.Allocation
import Jrok.Db.ForeignKeys
import Jrok.Db.Ports

/-!
# TCP ports among many callers

Calls of `allocate_tcp_port` and `deallocate_tcp_port` by any number of tasks, statement by
statement in any order. Who holds a port is told by the statements that have succeeded. A port is
only given to a tunnel and a server that are in their tables.
-/

namespace Jrok.Db

open Concurrency

/-- A call on the ports. -/
inductive PortCall where
  | allocate (tunnelId serverId : String) (startPort endPort : UInt16)
  | deallocate (port : UInt16)
  deriving DecidableEq

/-- What such a call returns. -/
inductive PortAnswer where
  | allocated (r : Except Error (Option TcpPort))
  | deallocated (r : Except Error Unit)
  deriving DecidableEq

def PortCall.run : PortCall → ServerProg PortAnswer
  | .allocate tunnelId serverId startPort endPort => do
    return .allocated (← (allocateTcpPort tunnelId serverId startPort endPort).run)
  | .deallocate port => do return .deallocated (← (deallocateTcpPort port).run)

/-- The tunnel and the server that a port is allocated to. -/
def ownerOf (db : Database) (port : Int) : Option (String × String) :=
  (db.tcpPorts.find? port).map fun row => (row.tunnelId, row.serverId)

/-- What a statement that succeeds does to a port. -/
def allocation : Event serverSig → Option (Allocation Int (String × String))
  | ⟨.sql (.allocateTcpPort row), .ok _⟩ => some (.taken row.port (row.tunnelId, row.serverId))
  | ⟨.sql (.deallocateTcpPort port), .ok _⟩ => some (.freed port)
  | _ => none

variable {τ : Type}

def allocations (log : Log serverSig τ) : List (Allocation Int (String × String)) :=
  log.filterMap fun e => allocation e.2

/-- Who holds a port after the events of a log. -/
def portHolder (db₀ : Database) (log : Log serverSig τ) (port : Int) : Option (String × String) :=
  Allocation.holder (ownerOf db₀) port (allocations log)

/-! ## The table and the history -/

/-- The table is what the history says, and the history is orderly. -/
structure PortsKept (db₀ : Database) (w : World) (log : Log serverSig τ) : Prop where
  owners : ∀ port, ownerOf w.db port = portHolder db₀ log port
  orderly : Allocation.Orderly (ownerOf db₀) (allocations log)

/-- The statements that touch `tcp_ports`. -/
def onPorts : Sql → Bool
  | .allocateTcpPort _ | .deallocateTcpPort _ => true
  | _ => false

theorem exec_tcpPorts (B : Backend) (db : Database) {q : Sql} (hq : onPorts q = false) :
    (q.exec B db).2.tcpPorts = db.tcpPorts := by
  cases q with
  | allocateTcpPort | deallocateTcpPort => cases hq
  | _ =>
    simp only [Sql.exec, Database.createTunnel, Database.updateAgents, Database.updateServers,
      Database.registerAgent]
    repeat' split
    all_goals rfl

theorem ownerOf_deallocate (B : Backend) (db : Database) (port port' : Int) :
    ownerOf ((Sql.deallocateTcpPort port).exec B db).2 port' =
      if port = port' then none else ownerOf db port' := by
  simp only [ownerOf, Sql.exec, Relational.Table.find?_deleteWhere_key]
  split <;> rfl

/-- An insert takes a port that nobody holds, or is refused and changes nothing. -/
theorem exec_allocate (B : Backend) (db : Database) (row : TcpPortRow) :
    (∃ o, ownerOf db row.port = some o ∧
      (Sql.allocateTcpPort row).exec B db = (.error .constraint, db)) ∨
    (ownerOf db row.port = none ∧ ((Sql.allocateTcpPort row).exec B db).1 = .ok 1 ∧
      ∀ port, ownerOf ((Sql.allocateTcpPort row).exec B db).2 port =
        if row.port = port then some (row.tunnelId, row.serverId) else ownerOf db port) := by
  cases hins : db.tcpPorts.insert? row with
  | none =>
    obtain ⟨row', hmem, hkey⟩ := Relational.Table.insert?_eq_none_iff.mp hins
    refine .inl ⟨(row'.tunnelId, row'.serverId), ?_, by simp [Sql.exec, hins]⟩
    rw [ownerOf, Relational.Table.find?_eq_some_iff.mpr ⟨hmem, hkey⟩]
    rfl
  | some t =>
    refine .inr ⟨?_, by simp [Sql.exec, hins], fun port => ?_⟩
    · cases hrow : db.tcpPorts.find? row.port with
      | none => simp [ownerOf, hrow]
      | some row' =>
        have hnone := Relational.Table.insert?_eq_none_iff.mpr
          ⟨row', Relational.Table.find?_eq_some_iff.mp hrow⟩
        cases hins.symm.trans hnone
    · simp only [Sql.exec, hins, ownerOf, Relational.Table.find?_insert? hins]
      split <;> rfl

section Steps

variable {B : Backend} {faulty : Bool} {c : Choice} {w w' : World} {o : Op} {r : o.Res} {t : τ}
  {db₀ : Database} {log : Log serverSig τ}

/-- An operation that does nothing to the ports. -/
theorem PortsKept.idle (h : PortsKept db₀ w log) (hdb : w'.db.tcpPorts = w.db.tcpPorts)
    (hnone : allocation ⟨o, r⟩ = none) : PortsKept db₀ w' ((t, ⟨o, r⟩) :: log) := by
  have hlog : allocations ((t, ⟨o, r⟩) :: log) = allocations log := by simp [allocations, hnone]
  refine ⟨fun port => ?_, hlog ▸ h.orderly⟩
  rw [portHolder, hlog, ownerOf, hdb]
  exact h.owners port

theorem PortsKept.insert (h : PortsKept db₀ w log) (row : TcpPortRow) :
    PortsKept db₀ { w with db := ((Sql.allocateTcpPort row).exec B w.db).2 }
      ((t, ⟨.sql (.allocateTcpPort row), ((Sql.allocateTcpPort row).exec B w.db).1⟩) :: log) := by
  rcases exec_allocate B w.db row with ⟨o, -, hexec⟩ | ⟨hfree, hok, howner⟩
  · rw [hexec]
    exact h.idle rfl rfl
  · have hlog : allocations ((t, (⟨.sql (.allocateTcpPort row),
        ((Sql.allocateTcpPort row).exec B w.db).1⟩ : Event serverSig)) :: log) =
        .taken row.port (row.tunnelId, row.serverId) :: allocations log := by
      rw [hok]
      rfl
    refine ⟨fun port => ?_, hlog ▸ ⟨fun k o heq => ?_, h.orderly⟩⟩
    · rw [portHolder, hlog, howner, Allocation.holder]
      split
      · rfl
      · exact h.owners port
    · obtain ⟨rfl, -⟩ := Allocation.taken.inj heq
      exact (h.owners row.port).symm.trans hfree

theorem PortsKept.delete (h : PortsKept db₀ w log) (port : Int) :
    PortsKept db₀ { w with db := ((Sql.deallocateTcpPort port).exec B w.db).2 }
      ((t, ⟨.sql (.deallocateTcpPort port), ((Sql.deallocateTcpPort port).exec B w.db).1⟩) ::
        log) := by
  refine ⟨fun port' => ?_, ⟨nofun, h.orderly⟩⟩
  refine (ownerOf_deallocate B w.db port port').trans ?_
  show _ = Allocation.holder _ port' (.freed port :: allocations log)
  rw [Allocation.holder]
  split
  · rfl
  · exact h.owners port'

/-- One operation, of whatever program. -/
theorem PortsKept.step (h : PortsKept db₀ w log)
    (hop : World.handler B faulty c o w = some (r, w')) :
    PortsKept db₀ w' ((t, ⟨o, r⟩) :: log) := by
  cases o with
  | now =>
    obtain ⟨-, -, -, rfl⟩ := World.exec_now.mp hop
    exact h.idle rfl rfl
  | uuid =>
    obtain ⟨-, -, rfl⟩ := World.exec_uuid.mp hop
    exact h.idle rfl rfl
  | node n o =>
    obtain ⟨n', -, rfl⟩ := World.exec_node.mp hop
    exact h.idle rfl rfl
  | sql q =>
    rcases World.exec_sql.mp hop with ⟨-, rfl, rfl⟩ | ⟨e, -, -, rfl, rfl⟩
    swap
    · refine h.idle rfl ?_
      cases q <;> rfl
    cases hq : onPorts q with
    | false =>
      refine h.idle (exec_tcpPorts B w.db hq) ?_
      cases q <;> first | rfl | cases hq
    | true =>
      cases q with
      | allocateTcpPort row => exact h.insert row
      | deallocateTcpPort port => exact h.delete port
      | _ => cases hq

/-! ## Which inserts are refused -/

/-- The tunnel or the server of a row is not in its table. -/
def Unknown (db : Database) (row : TcpPortRow) : Prop :=
  db.tunnels.find? row.tunnelId = none ∨ db.servers.find? row.serverId = none

/-- Under the foreign keys an insert is refused for a port that somebody holds, or for a tunnel or a
    server that is not there. -/
theorem allocate_refused_iff {db : Database} {row : TcpPortRow} :
    (∃ e, ((Sql.allocateTcpPort row).execEnforced B db).1 = .error e) ↔
      (∃ o, ownerOf db row.port = some o) ∨ Unknown db row := by
  have hdangles : (Sql.allocateTcpPort row).dangles db = true ↔ Unknown db row := by
    simp [Sql.dangles, Unknown]
  rcases exec_allocate B db row with ⟨o, hheld, hexec⟩ | ⟨hfree, hok, -⟩
  · simp [Sql.execEnforced, hexec, Except.isOk, Except.toBool, hheld]
  · by_cases hrefused : (Sql.allocateTcpPort row).dangles db = true
    · simp [Sql.execEnforced, hok, Except.isOk, Except.toBool, hrefused, hdangles.mp hrefused]
    · have hpass : ((Sql.allocateTcpPort row).execEnforced B db).1 = .ok 1 := by
        simp [Sql.execEnforced, hok, hrefused]
      rw [hpass, hfree]
      constructor
      · rintro ⟨e, he⟩
        cases he
      · rintro (⟨o, ho⟩ | hunknown)
        · cases ho
        · exact absurd (hdangles.mpr hunknown) hrefused

/-- An insert goes through only for a tunnel and a server that are there; without failures it is
    refused exactly if somebody holds its port or one of the two is missing. -/
def Answered (db₀ : Database) (faulty : Bool) (e : τ × Event serverSig)
    (older : Log serverSig τ) : Prop :=
  ∀ row result, e.2 = ⟨.sql (.allocateTcpPort row), result⟩ →
    ((∃ n, result = .ok n) → ¬ Unknown db₀ row) ∧
    (faulty = false → ((∃ err, result = .error err) ↔
      (∃ o, portHolder db₀ older row.port = some o) ∨ Unknown db₀ row))

/-- Port statements leave the tunnels and the servers alone. -/
theorem exec_parents {db : Database} {q : Sql} (hq : onPorts q = true) :
    (q.exec B db).2.tunnels = db.tunnels ∧ (q.exec B db).2.servers = db.servers := by
  cases q with
  | allocateTcpPort row =>
    simp only [Sql.exec]
    split <;> exact ⟨rfl, rfl⟩
  | deallocateTcpPort port => exact ⟨rfl, rfl⟩
  | _ => cases hq

/-- What the runs under the foreign keys keep. -/
structure PortsServed (db₀ : Database) (faulty : Bool) (w : World) (log : Log serverSig τ) :
    Prop where
  kept : PortsKept db₀ w log
  parents : w.db.tunnels = db₀.tunnels ∧ w.db.servers = db₀.servers
  answered : Causal (Answered db₀ faulty) log

/-- One statement on the ports. -/
theorem PortsServed.step {q : Sql} {r : Except DbError q.Res} (h : PortsServed db₀ faulty w log)
    (hq : onPorts q = true)
    (hop : World.enforcedHandler B faulty c (.sql q) w = some (r, w')) :
    PortsServed db₀ faulty w' ((t, ⟨.sql q, r⟩) :: log) := by
  obtain ⟨c', hfails⟩ := World.execEnforced_fails hop
  refine ⟨h.kept.step hfails, ?_, ?_, h.answered⟩
  · rcases World.exec_sql.mp hfails with ⟨-, -, rfl⟩ | ⟨e, -, -, -, rfl⟩
    · obtain ⟨htunnels, hservers⟩ : (q.exec B w.db).2.tunnels = w.db.tunnels ∧
          (q.exec B w.db).2.servers = w.db.servers := exec_parents hq
      exact ⟨htunnels.trans h.parents.1, hservers.trans h.parents.2⟩
    · exact h.parents
  · rintro row result heq
    cases heq
    have hunknown : Unknown w.db row ↔ Unknown db₀ row := by
      rw [Unknown, h.parents.1, h.parents.2]
      rfl
    have hrefused : (∃ e, ((Sql.allocateTcpPort row).execEnforced B w.db).1 = .error e) ↔
        (∃ o, ownerOf w.db row.port = some o) ∨ Unknown w.db row := allocate_refused_iff
    rw [hunknown, h.kept.owners] at hrefused
    rcases World.execEnforced_sql hop with ⟨rfl, -⟩ | ⟨hfaulty, e, rfl, -⟩
    · refine ⟨?_, fun _ => hrefused⟩
      rintro ⟨n, hn⟩ hmissing
      obtain ⟨e, he⟩ := hrefused.mpr (.inr hmissing)
      cases hn.symm.trans he
    · exact ⟨nofun, fun hf => absurd (hfaulty.symm.trans hf) nofun⟩

end Steps

/-! ## What a call returns -/

/-- An insert of this port that succeeds. -/
def insertOk (tcpPort : TcpPort) (n : Nat) : Event serverSig :=
  ⟨.sql (.allocateTcpPort tcpPort.row), .ok n⟩

/-- One that does not. -/
def insertError (tcpPort : TcpPort) (e : DbError) : Event serverSig :=
  ⟨.sql (.allocateTcpPort tcpPort.row), .error e⟩

/-- The loop returns the port of its last insert, having tried those in front of it. -/
theorem allocateFrom_path {tunnelId serverId : String} {ports : List UInt16} {tcpPort : TcpPort}
    {es : List (Event serverSig)}
    (h : (allocateFrom tunnelId serverId ports).run.Path es (.ret (.ok (some tcpPort)))) :
    tcpPort.tunnelId = tunnelId ∧ tcpPort.serverId = serverId ∧
    ∃ tried rest failed n, ports = tried ++ tcpPort.port :: rest ∧
      es = failed ++ [insertOk tcpPort n] ∧
      ∀ port ∈ tried, ∃ e, insertError ⟨port, tunnelId, serverId⟩ e ∈ failed := by
  induction ports generalizing es with
  | nil =>
    obtain ⟨-, hret⟩ := Prog.path_ret_iff.mp h
    cases hret
  | cons port ports ih =>
    rw [run_allocateFrom] at h
    obtain ⟨r, later, rfl, hrest⟩ := Prog.path_op_ret_iff.mp h
    cases r with
    | ok n =>
      obtain ⟨rfl, hret⟩ := Prog.path_ret_iff.mp hrest
      cases hret
      exact ⟨rfl, rfl, [], ports, [], n, rfl, rfl, by simp⟩
    | error e =>
      obtain ⟨htunnel, hserver, tried, rest, failed, n, rfl, rfl, hfailed⟩ := ih hrest
      refine ⟨htunnel, hserver, port :: tried, rest,
        insertError ⟨port, tunnelId, serverId⟩ e :: failed, n, rfl, rfl, fun port' hport' => ?_⟩
      rcases List.mem_cons.mp hport' with rfl | hport'
      · exact ⟨e, List.mem_cons_self ..⟩
      · obtain ⟨e', he'⟩ := hfailed port' hport'
        exact ⟨e', List.mem_cons_of_mem _ he'⟩

/-- The ports in front of a port of a range. -/
theorem mem_tried {startPort endPort port : UInt16} {tried rest : List UInt16}
    (h : portRange startPort endPort = tried ++ port :: rest) {port' : UInt16}
    (hlo : startPort ≤ port') (hlt : port' < port) : port' ∈ tried := by
  have hsorted := pairwise_portRange startPort endPort
  have hport : port ∈ portRange startPort endPort := by simp [h]
  have hmem : port' ∈ portRange startPort endPort :=
    mem_portRange.mpr ⟨hlo, UInt16.lt_trans hlt (mem_portRange.mp hport).2⟩
  rw [h] at hsorted hmem
  rcases List.mem_append.mp hmem with htried | hrest
  · exact htried
  · exfalso
    rcases List.mem_cons.mp hrest with rfl | hlater
    · exact UInt16.lt_irrefl _ hlt
    · have hbehind := (List.pairwise_cons.mp (List.pairwise_append.mp hsorted).2.1).1 port' hlater
      exact UInt16.lt_asymm hlt hbehind

section Runs

variable {db₀ : Database} {faulty : Bool} {w : World} {log : Log serverSig τ} {B : Backend}

/-- The port is in the range, was inserted when nobody held it, for a tunnel and a server that are
    there, and the inserts of all ports of the range below it had failed. -/
structure AllocatedBy (db₀ : Database) (log : Log serverSig τ) (t : τ) (startPort endPort : UInt16)
    (tcpPort : TcpPort) : Prop where
  inRange : startPort ≤ tcpPort.port ∧ tcpPort.port < endPort
  known : ¬ Unknown db₀ tcpPort.row
  inserted : ∃ newer older n, log = newer ++ (t, insertOk tcpPort n) :: older ∧
    portHolder db₀ older tcpPort.port.toNat = none ∧
    ∀ port, startPort ≤ port → port < tcpPort.port →
      ∃ e, (t, insertError ⟨port, tcpPort.tunnelId, tcpPort.serverId⟩ e) ∈ older

/-- The rows of `tcp_ports` are those of the last inserts that no deletion follows, and a port that
    is inserted twice has been deleted in between. An insert goes through only for a tunnel and a
    server that are there; where statements do not fail, it is refused exactly if somebody holds
    the port or one of the two is missing. -/
structure PortsExclusive (db₀ : Database) (faulty : Bool) (w : World) (log : Log serverSig τ) :
    Prop where
  owners : ∀ port, ownerOf w.db port = portHolder db₀ log port
  freed : ∀ newer between older t u p p' n n',
    log = newer ++ (t, insertOk p n) :: (between ++ (u, insertOk p' n') :: older) →
    p.port = p'.port → ∃ v m, (v, ⟨.sql (.deallocateTcpPort p.port.toNat), .ok m⟩) ∈ between
  known : ∀ t p n, (t, insertOk p n) ∈ log → ¬ Unknown db₀ p.row
  refused : faulty = false → ∀ newer older t (p : TcpPort) result,
    log = newer ++ (t, ⟨.sql (.allocateTcpPort p.row), result⟩) :: older →
    ((∃ e, result = .error e) ↔
      (∃ o, portHolder db₀ older p.port.toNat = some o) ∨ Unknown db₀ p.row)

theorem allocations_append (newer older : Log serverSig τ) :
    allocations (newer ++ older) = allocations newer ++ allocations older :=
  List.filterMap_append

theorem allocations_insertOk (t : τ) (p : TcpPort) (n : Nat) (log : Log serverSig τ) :
    allocations ((t, insertOk p n) :: log) =
      .taken p.port.toNat (p.tunnelId, p.serverId) :: allocations log := rfl

/-- Only a deletion that succeeds frees a port. -/
theorem freed_of_mem {port : Int} (h : .freed port ∈ allocations log) :
    ∃ t m, (t, (⟨.sql (.deallocateTcpPort port), .ok m⟩ : Event serverSig)) ∈ log := by
  obtain ⟨⟨t, o, r⟩, he, hfreed⟩ := List.mem_filterMap.mp h
  rcases o with _ | _ | q | ⟨n, o⟩
  · cases hfreed
  · cases hfreed
  · cases q <;> rcases r with e | m <;> cases hfreed
    exact ⟨t, m, he⟩
  · cases hfreed

theorem PortsServed.known (h : PortsServed db₀ faulty w log) {t : τ} {p : TcpPort} {n : Nat}
    (hp : (t, insertOk p n) ∈ log) : ¬ Unknown db₀ p.row := by
  obtain ⟨newer, older, rfl⟩ := List.mem_iff_append.mp hp
  exact (h.answered.at_split _ _ rfl).1 ⟨n, rfl⟩

theorem PortsServed.exclusive (h : PortsServed db₀ faulty w log) :
    PortsExclusive db₀ faulty w log where
  owners := h.kept.owners
  freed := by
    rintro newer between older t u p p' n n' rfl hport
    have horderly := h.kept.orderly
    rw [allocations_append, allocations_insertOk, allocations_append, allocations_insertOk,
      ← hport] at horderly
    exact freed_of_mem horderly.freed_between
  known _ _ _ := h.known
  refused hf newer older t p result hlog := by
    have hcausal := h.answered
    rw [hlog] at hcausal
    exact (hcausal.at_split _ _ rfl).2 hf

theorem allocateFrom_issues (tunnelId serverId : String) (ports : List UInt16) :
    (allocateFrom tunnelId serverId ports).run.Issues
      fun o : Op => ∃ q, o = .sql q ∧ onPorts q = true := by
  induction ports with
  | nil => trivial
  | cons port ports ih =>
    rw [run_allocateFrom]
    refine ⟨⟨_, rfl, rfl⟩, fun r => ?_⟩
    cases r with
    | ok n => trivial
    | error e => exact ih

theorem PortCall.issues (call : PortCall) :
    call.run.Issues fun o : Op => ∃ q, o = .sql q ∧ onPorts q = true := by
  cases call with
  | allocate tunnelId serverId startPort endPort =>
    exact Prog.Issues.bind (allocateFrom_issues ..) fun _ => trivial
  | deallocate port =>
    refine Prog.Issues.bind ?_ fun _ => trivial
    rw [deallocateTcpPort, run_execute]
    exact ⟨⟨_, rfl, rfl⟩, fun _ => trivial⟩

/-- For any calls by any tasks, whatever fails and in whatever order the statements are executed,
    under the foreign keys. -/
theorem ports_exclusive [DecidableEq τ] {calls : τ → PortCall}
    {c₀ c : Config serverSig τ (Option PortAnswer) (World × Log serverSig τ)}
    (hidle : ∀ t, c₀.task t = .idle none) (hlog : c₀.shared.2 = [])
    (hr : (System.oneShot (fun _ => World.enforcedHandler B faulty) fun t =>
      (calls t).run).logged.Reachable c₀ c) :
    PortsExclusive c₀.shared.1.db faulty c.shared.1 c.shared.2 ∧
    ∀ t tunnelId serverId startPort endPort tcpPort,
      calls t = .allocate tunnelId serverId startPort endPort →
      c.task t = .idle (some (.allocated (.ok (some tcpPort)))) →
      tcpPort.tunnelId = tunnelId ∧ tcpPort.serverId = serverId ∧
        AllocatedBy c₀.shared.1.db c.shared.2 t startPort endPort tcpPort := by
  obtain ⟨htraced, hserved⟩ := System.keepsLog_logged.invariant hr hidle hlog
    (PortsServed c₀.shared.1.db faulty)
    ⟨⟨fun _ => rfl, trivial⟩, ⟨rfl, rfl⟩, trivial⟩ fun s log t ch o r s' _ hf _ h hop => by
      obtain ⟨p, hp⟩ := System.Follows.at_split (show System.Follows _ ([] ++ _) from hf)
      obtain ⟨q, rfl, hq⟩ := (hp.issues (calls t).issues).1 ⟨o, r⟩ (by simp)
      exact h.step hq hop
  refine ⟨hserved.exclusive, fun t tunnelId serverId startPort endPort tcpPort hcall hreturned =>
    ?_⟩
  have hpath := htraced t
  simp only [hreturned, hcall] at hpath
  obtain ⟨es, rest, r, hown, hrun, hret⟩ := Prog.path_bind_ret_iff.mp hpath
  obtain ⟨rfl, hr⟩ := Prog.path_ret_iff.mp hret
  obtain rfl := PortAnswer.allocated.inj (Prog.ret.inj hr)
  rw [List.append_nil] at hown
  obtain ⟨htunnel, hserver, tried, after, failed, n, hrange, rfl, hfailed⟩ := allocateFrom_path hrun
  obtain ⟨newer, older, hsplit, hfirst⟩ := Log.exists_split hown
  have hinserted : (t, insertOk tcpPort n) ∈ c.shared.2 := by simp [hsplit]
  refine ⟨htunnel, hserver, mem_portRange.mp (by simp [hrange]), hserved.known hinserted,
    newer, older, n, hsplit, ?_, fun port hlo hlt => ?_⟩
  · have horderly := hserved.kept.orderly
    rw [hsplit, allocations_append, allocations_insertOk] at horderly
    exact horderly.at_split _ _ rfl
  · obtain ⟨e, he⟩ := hfailed port (mem_tried hrange hlo hlt)
    refine ⟨e, ?_⟩
    rw [htunnel, hserver, ← Log.mem_own, hfirst]
    exact he

end Runs

/-- Two tunnels ask for a port of the same range; the first gives it back, the third gets it. There
    is no fourth. -/
def portCalls : Nat → PortCall
  | 0 => .allocate "tunnel0" "s" 10000 10002
  | 1 => .allocate "tunnel1" "s" 10000 10002
  | 2 => .deallocate 10000
  | 3 => .allocate "tunnel3" "t" 10000 10002
  | _ => .allocate "tunnel4" "t" 10002 10003

/-- The servers have registered and three tunnels are created. -/
def portsDb : Database :=
  let tunnel (id : String) : Sql := .createTunnel ⟨id, id, "tcp", none, none, 0, 0, true⟩
  [.registerServer "s" "h" "h" 0, .registerServer "t" "h" "h" 0, tunnel "tunnel0",
    tunnel "tunnel1", tunnel "tunnel3"].foldl (fun db q => (q.execEnforced .migrated db).2) .migrated

/-- No call has begun. -/
def noPorts : Config serverSig Nat (Option PortAnswer) (World × Log serverSig Nat) :=
  ⟨({ World.boot with db := portsDb }, []), fun _ => .idle none⟩

def portMoves : List (Move Nat Unit Choice) :=
  [.start 0 (), .start 1 (), .act 0 .go, .act 1 .go, .act 1 .go, .finish 1, .start 2 (), .act 2 .go,
    .start 3 (), .act 3 .go, .finish 3, .start 4 (), .act 4 .go, .finish 4]

theorem ports_exclusive_reuse :
    ∃ c, ((System.oneShot (fun _ => World.enforcedHandler .migrated false) fun t =>
        (portCalls t).run).logged.Reachable noPorts c) ∧
      c.shared.1.db.tcpPorts.rows = [⟨10001, "tunnel1", "s"⟩, ⟨10000, "tunnel3", "t"⟩] ∧
      c.answer 4 = some (.allocated (.ok none)) ∧
      PortsExclusive portsDb false c.shared.1 c.shared.2 ∧
      AllocatedBy portsDb c.shared.2 1 10000 10002 ⟨10001, "tunnel1", "s"⟩ := by
  have hrun : ((System.oneShot (fun _ => World.enforcedHandler .migrated false) fun t =>
      (portCalls t).run).logged.replay portMoves noPorts).map
        (fun c => (c.shared.1.db.tcpPorts.rows, c.answer 4, c.answer 1)) =
      some ([⟨10001, "tunnel1", "s"⟩, ⟨10000, "tunnel3", "t"⟩], some (.allocated (.ok none)),
        some (.allocated (.ok (some ⟨10001, "tunnel1", "s"⟩)))) := by decide +kernel
  obtain ⟨c, hc, hproj⟩ := Option.map_eq_some_iff.mp hrun
  obtain ⟨hrows, hanswers⟩ := Prod.mk.inj hproj
  obtain ⟨hnone, hreturned⟩ := Prod.mk.inj hanswers
  obtain ⟨hexclusive, hallocated⟩ := ports_exclusive (fun _ => rfl) rfl ⟨_, hc⟩
  exact ⟨c, ⟨_, hc⟩, hrows, hnone, hexclusive,
    (hallocated 1 _ _ _ _ _ rfl (Config.task_of_answer hreturned)).2.2⟩

end Jrok.Db
