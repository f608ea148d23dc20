import Jrok.Db.Calls

/-!
# Allocation of TCP ports

What `allocate_tcp_port` returns where some of its statements fail. The loop takes any error of an
insert for a taken port.
-/

namespace Jrok.Db

open Concurrency

/-- `tcp_ports` has a row of this port. -/
def Taken (w : World) (port : UInt16) : Prop := ∃ row ∈ w.db.tcpPorts, row.port = port.toNat

/-- The insert of this port fails, and not because of what is in the table. -/
def FailedAt (ports : List UInt16) (cs : List Choice) (port : UInt16) : Prop :=
  ∃ e, (port, Choice.fail e) ∈ ports.zip cs

@[simp] theorem failedAt_nil (cs : List Choice) (port : UInt16) : ¬ FailedAt [] cs port := by
  simp [FailedAt]

@[simp] theorem failedAt_go (next : UInt16) (ports : List UInt16) (cs : List Choice)
    (port : UInt16) : FailedAt (next :: ports) (.go :: cs) port ↔ FailedAt ports cs port := by
  simp [FailedAt]

@[simp] theorem failedAt_fail (next : UInt16) (ports : List UInt16) (e : DbError)
    (cs : List Choice) (port : UInt16) :
    FailedAt (next :: ports) (.fail e :: cs) port ↔ port = next ∨ FailedAt ports cs port := by
  simp [FailedAt, exists_or]

theorem FailedAt.mem {ports : List UInt16} {cs : List Choice} {port : UInt16}
    (h : FailedAt ports cs port) : port ∈ ports := by
  obtain ⟨e, he⟩ := h
  exact (List.of_mem_zip he).1

/-- How the loop goes over its ports, with the choice for each insert, and where it ends. -/
inductive Attempts (w : World) : List UInt16 → List Choice → Option UInt16 → Prop
  | exhausted : Attempts w [] [] none
  | free {port : UInt16} {ports : List UInt16} (hfree : ¬ Taken w port) :
      Attempts w (port :: ports) [.go] (some port)
  | taken {port : UInt16} {ports : List UInt16} {cs : List Choice} {found : Option UInt16}
      (htaken : Taken w port) (hrest : Attempts w ports cs found) :
      Attempts w (port :: ports) (.go :: cs) found
  | failed {port : UInt16} {ports : List UInt16} {e : DbError} {cs : List Choice}
      {found : Option UInt16} (hrest : Attempts w ports cs found) :
      Attempts w (port :: ports) (.fail e :: cs) found

/-- The row of `tcpPort` is added to `tcp_ports`, and nothing else happens. -/
structure Adds (tcpPort : TcpPort) (w w' : World) : Prop where
  rows : w'.db.tcpPorts.rows = w.db.tcpPorts.rows ++ [tcpPort.row]
  others : w' = { w with db := { w.db with tcpPorts := w'.db.tcpPorts } }

/-- The port is the first of the range that is not taken. -/
structure SmallestFree (w : World) (startPort endPort port : UInt16) : Prop where
  inRange : startPort ≤ port ∧ port < endPort
  free : ¬ Taken w port
  smallest : ∀ port', startPort ≤ port' → port' < port → Taken w port'

/-- What an allocation that returns `Ok` is to have found and done. -/
structure Exact (tunnelId serverId : String) (startPort endPort : UInt16) (w : World)
    (r : Except Error (Option TcpPort)) (w' : World) : Prop where
  found : ∀ tcpPort, r = .ok (some tcpPort) → tcpPort.tunnelId = tunnelId ∧
    tcpPort.serverId = serverId ∧ SmallestFree w startPort endPort tcpPort.port ∧
    Adds tcpPort w w'
  exhausted : r = .ok none →
    (∀ port, startPort ≤ port → port < endPort → Taken w port) ∧ w' = w

theorem mem_portRange {startPort endPort port : UInt16} :
    port ∈ portRange startPort endPort ↔ startPort ≤ port ∧ port < endPort := by
  rw [UInt16.le_iff_toNat_le, UInt16.lt_iff_toNat_lt]
  simp only [portRange, List.mem_map, List.mem_range'_1]
  constructor
  · rintro ⟨n, ⟨hlo, hhi⟩, rfl⟩
    have hend := endPort.toNat_lt
    rw [UInt16.toNat_ofNat_of_lt' (by simp only [UInt16.size]; omega)]
    omega
  · intro h
    exact ⟨port.toNat, by omega, UInt16.ofNat_toNat⟩

/-- The loop goes through the range upwards. -/
theorem pairwise_portRange (startPort endPort : UInt16) :
    (portRange startPort endPort).Pairwise (· < ·) := by
  rw [portRange, List.pairwise_map]
  have hrange : (List.range' startPort.toNat (endPort.toNat - startPort.toNat)).Pairwise (· < ·) :=
    List.pairwise_lt_range'
  apply hrange.imp_of_mem
  intro a b ha hb hlt
  rw [List.mem_range'_1] at ha hb
  have hend := endPort.toNat_lt
  rw [UInt16.lt_iff_toNat_lt, UInt16.toNat_ofNat_of_lt' (by simp only [UInt16.size]; omega),
    UInt16.toNat_ofNat_of_lt' (by simp only [UInt16.size]; omega)]
  exact hlt

section

variable {B : Backend} {tunnelId serverId : String} {w w' : World} {cs : List Choice}
  {ports : List UInt16} {r : Except Error (Option TcpPort)}

theorem exec_allocateTcpPort (B : Backend) (tcpPort : TcpPort) (w : World) :
    (Taken w tcpPort.port ∧
      (Sql.allocateTcpPort tcpPort.row).exec B w.db = (.error .constraint, w.db)) ∨
    (¬ Taken w tcpPort.port ∧ ∃ t, t.rows = w.db.tcpPorts.rows ++ [tcpPort.row] ∧
      (Sql.allocateTcpPort tcpPort.row).exec B w.db = (.ok 1, { w.db with tcpPorts := t })) := by
  cases h : w.db.tcpPorts.insert? tcpPort.row with
  | none =>
    apply Or.inl
    exact ⟨Relational.Table.insert?_eq_none_iff.mp h, by simp [Sql.exec, h]⟩
  | some t =>
    apply Or.inr
    refine ⟨?_, t, Relational.Table.insert?_rows h, by simp [Sql.exec, h]⟩
    intro htaken
    have hnone : w.db.tcpPorts.insert? tcpPort.row = none :=
      Relational.Table.insert?_eq_none_iff.mpr htaken
    rw [hnone] at h
    cases h

/-- A run of the loop ends at the first insert that succeeds, and returns no error. -/
theorem allocateFrom_attempts
    (h : (allocateFrom tunnelId serverId ports).run.play (World.handler B true) cs w =
      some (r, w')) :
    ∃ found : Option UInt16, Attempts w ports cs found ∧
      r = .ok (found.map fun port => ⟨port, tunnelId, serverId⟩) ∧
      (found = none → w' = w) ∧
      ∀ port, found = some port → Adds ⟨port, tunnelId, serverId⟩ w w' := by
  induction ports generalizing cs with
  | nil =>
    obtain ⟨rfl, rfl, rfl⟩ := Prog.play_ret_iff.mp h
    exact ⟨none, .exhausted, rfl, fun _ => rfl, by simp⟩
  | cons port ports ih =>
    rw [run_allocateFrom] at h
    obtain ⟨c, rest, a, w₁, rfl, hsql, h⟩ := Prog.play_op_iff.mp h
    obtain ⟨rfl, rfl, rfl⟩ | ⟨e, rfl, -, rfl, rfl⟩ := World.exec_sql.mp hsql
    · obtain ⟨htaken, hexec⟩ | ⟨hfree, t, ht, hexec⟩ :=
        exec_allocateTcpPort B ⟨port, tunnelId, serverId⟩ w
      · rw [hexec] at h
        obtain ⟨found, hattempts, hr, hnone, hsome⟩ := ih h
        exact ⟨found, .taken htaken hattempts, hr, hnone, hsome⟩
      · rw [hexec] at h
        obtain ⟨rfl, rfl, rfl⟩ := Prog.play_ret_iff.mp h
        refine ⟨some port, .free hfree, rfl, by simp, ?_⟩
        intro port' hport'
        obtain rfl := Option.some.inj hport'
        exact ⟨ht, rfl⟩
    · obtain ⟨found, hattempts, hr, hnone, hsome⟩ := ih h
      exact ⟨found, .failed hattempts, hr, hnone, hsome⟩

end

namespace Attempts

variable {w : World} {ports : List UInt16} {cs : List Choice} {found : Option UInt16}
  {port : UInt16}

theorem of_none (h : Attempts w ports cs none) (hmem : port ∈ ports) :
    Taken w port ∨ FailedAt ports cs port := by
  generalize hfound : (none : Option UInt16) = found at h
  induction h with
  | exhausted => cases hmem
  | free _ => cases hfound
  | taken htaken _ ih =>
    rw [failedAt_go]
    cases hmem with
    | head => exact Or.inl htaken
    | tail _ hmem => exact ih hmem hfound
  | failed _ ih =>
    rw [failedAt_fail]
    cases hmem with
    | head => exact Or.inr (Or.inl rfl)
    | tail _ hmem => exact (ih hmem hfound).imp_right Or.inr

theorem mem (h : Attempts w ports cs (some port)) : port ∈ ports ∧ ¬ Taken w port := by
  generalize hfound : some port = found at h
  induction h with
  | exhausted => cases hfound
  | free hfree =>
    cases hfound
    exact ⟨List.mem_cons_self, hfree⟩
  | taken _ _ ih => exact ⟨List.mem_cons_of_mem _ (ih hfound).1, (ih hfound).2⟩
  | failed _ ih => exact ⟨List.mem_cons_of_mem _ (ih hfound).1, (ih hfound).2⟩

/-- The ports below the one that is found are taken, or their inserts fail. -/
theorem taken_below (h : Attempts w ports cs (some port)) (hsorted : ports.Pairwise (· < ·))
    {port' : UInt16} (hmem : port' ∈ ports) (hlt : port' < port) :
    Taken w port' ∨ FailedAt ports cs port' := by
  generalize hfound : some port = found at h
  induction h with
  | exhausted => cases hmem
  | free _ =>
    cases hfound
    cases hmem with
    | head => exact (UInt16.lt_irrefl _ hlt).elim
    | tail _ hmem =>
      exact (UInt16.lt_asymm hlt ((List.pairwise_cons.mp hsorted).1 _ hmem)).elim
  | taken htaken _ ih =>
    rw [failedAt_go]
    cases hmem with
    | head => exact Or.inl htaken
    | tail _ hmem => exact ih (List.pairwise_cons.mp hsorted).2 hmem hfound
  | failed _ ih =>
    rw [failedAt_fail]
    cases hmem with
    | head => exact Or.inr (Or.inl rfl)
    | tail _ hmem => exact (ih (List.pairwise_cons.mp hsorted).2 hmem hfound).imp_right Or.inr

/-- No insert fails behind the one that succeeds. -/
theorem failed_below (h : Attempts w ports cs (some port)) (hsorted : ports.Pairwise (· < ·))
    {port' : UInt16} (hfailed : FailedAt ports cs port') : port' < port := by
  generalize hfound : some port = found at h
  induction h with
  | exhausted => cases hfound
  | free _ => simp [FailedAt] at hfailed
  | taken _ _ ih =>
    rw [failedAt_go] at hfailed
    exact ih (List.pairwise_cons.mp hsorted).2 hfailed hfound
  | failed hrest ih =>
    rw [failedAt_fail] at hfailed
    subst hfound
    obtain ⟨hlt, hsorted⟩ := List.pairwise_cons.mp hsorted
    cases hfailed with
    | inl heq => exact heq ▸ hlt port hrest.mem.1
    | inr hfailed => exact ih hsorted hfailed rfl

end Attempts

/-- What the loop ends with is right exactly if the inserts that fail are those of taken ports. -/
theorem Attempts.exact_iff {tunnelId serverId : String} {startPort endPort : UInt16} {w w' : World}
    {cs : List Choice} {found : Option UInt16}
    (h : Attempts w (portRange startPort endPort) cs found) (hnone : found = none → w' = w)
    (hsome : ∀ port, found = some port → Adds ⟨port, tunnelId, serverId⟩ w w') :
    Exact tunnelId serverId startPort endPort w
        (.ok (found.map fun port => ⟨port, tunnelId, serverId⟩)) w' ↔
      ∀ port, FailedAt (portRange startPort endPort) cs port → Taken w port := by
  have hsorted := pairwise_portRange startPort endPort
  constructor
  · intro hexact port hfailed
    have hrange := mem_portRange.mp hfailed.mem
    cases found with
    | none => exact (hexact.exhausted rfl).1 port hrange.1 hrange.2
    | some port' =>
      obtain ⟨-, -, hsmallest, -⟩ := hexact.found _ rfl
      exact hsmallest.smallest port hrange.1 (h.failed_below hsorted hfailed)
  · intro hfailed
    constructor
    · intro tcpPort htcpPort
      cases found with
      | none => cases htcpPort
      | some port =>
        cases htcpPort
        obtain ⟨hmem, hfree⟩ := h.mem
        have hrange := mem_portRange.mp hmem
        refine ⟨rfl, rfl, ⟨hrange, hfree, ?_⟩, hsome port rfl⟩
        intro port' hlo hlt
        have hmem' := mem_portRange.mpr ⟨hlo, UInt16.lt_trans hlt hrange.2⟩
        exact (h.taken_below hsorted hmem' hlt).elim id (hfailed port')
    · intro hr
      cases found with
      | some port => cases hr
      | none =>
        refine ⟨?_, hnone rfl⟩
        intro port hlo hhi
        exact (h.of_none (mem_portRange.mpr ⟨hlo, hhi⟩)).elim id (hfailed port)

/-- What an allocation returns is right exactly if the inserts that fail are those of taken ports;
    and as none of them makes it return an error, it is right and reports what fails exactly if
    nothing fails. -/
theorem allocateTcpPort_exact_iff {B : Backend} {tunnelId serverId : String}
    {startPort endPort : UInt16} {w w' : World} {cs : List Choice}
    {r : Except Error (Option TcpPort)}
    (h : (allocateTcpPort tunnelId serverId startPort endPort).run.play (World.handler B true)
      cs w = some (r, w')) :
    (Exact tunnelId serverId startPort endPort w r w' ↔
      ∀ port, FailedAt (portRange startPort endPort) cs port → Taken w port) ∧
    ((Exact tunnelId serverId startPort endPort w r w' ∧
        ((∃ port, FailedAt (portRange startPort endPort) cs port) → ∃ e, r = .error e)) ↔
      ∀ port, ¬ FailedAt (portRange startPort endPort) cs port) := by
  obtain ⟨found, hattempts, rfl, hnone, hsome⟩ := allocateFrom_attempts h
  have hexact := hattempts.exact_iff hnone hsome
  refine ⟨hexact, ?_, ?_⟩
  · rintro ⟨-, hreported⟩ port hfailed
    obtain ⟨e, he⟩ := hreported ⟨port, hfailed⟩
    cases he
  · intro hfailed
    refine ⟨hexact.mpr fun port hport => (hfailed port hport).elim, ?_⟩
    rintro ⟨port, hport⟩
    exact (hfailed port hport).elim

theorem run_locked :
    ∃ w', (allocateTcpPort "tunnel" "s" 10000 10002).run.play (World.handler .migrated true)
        [.fail (.other "database is locked"), .go] World.boot =
      some (.ok (some ⟨10001, "tunnel", "s"⟩), w') :=
  ⟨_, rfl⟩

/-- Where the insert of a free port fails, the next port is allocated. -/
theorem allocateTcpPort_skips_free_port :
    ∃ w', (allocateTcpPort "tunnel" "s" 10000 10002).run.play (World.handler .migrated true)
        [.fail (.other "database is locked"), .go] World.boot =
          some (.ok (some ⟨10001, "tunnel", "s"⟩), w') ∧
      ¬ Taken World.boot 10000 ∧
      ¬ Exact "tunnel" "s" 10000 10002 World.boot (.ok (some ⟨10001, "tunnel", "s"⟩)) w' := by
  have hfree : ¬ Taken World.boot 10000 := by
    rintro ⟨row, hrow, -⟩
    exact Relational.Table.notMem_empty row hrow
  obtain ⟨w', hrun⟩ := run_locked
  refine ⟨w', hrun, hfree, ?_⟩
  intro hexact
  obtain ⟨-, -, hsmallest, -⟩ := hexact.found _ rfl
  exact hfree (hsmallest.smallest 10000 (by decide) (by decide))

theorem allocateTcpPort_exact_iff_locked :
    ∃ w', (Exact "tunnel" "s" 10000 10002 World.boot (.ok (some ⟨10001, "tunnel", "s"⟩)) w' ↔
        ∀ port, FailedAt (portRange 10000 10002) [.fail (.other "database is locked"), .go] port →
          Taken World.boot port) ∧
      ((Exact "tunnel" "s" 10000 10002 World.boot (.ok (some ⟨10001, "tunnel", "s"⟩)) w' ∧
        ((∃ port,
            FailedAt (portRange 10000 10002) [.fail (.other "database is locked"), .go] port) →
          ∃ e, (.ok (some ⟨10001, "tunnel", "s"⟩) : Except Error (Option TcpPort)) = .error e)) ↔
        ∀ port,
          ¬ FailedAt (portRange 10000 10002) [.fail (.other "database is locked"), .go] port) := by
  obtain ⟨w', hrun⟩ := run_locked
  exact ⟨w', allocateTcpPort_exact_iff hrun⟩

end Jrok.Db
