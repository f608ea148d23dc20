import Jrok.Db.Serial

/-!
# Foreign keys

The driver enforces the foreign keys of `migrations/001_init.sql`: a statement that would leave a
row without the row it refers to is refused, after the other constraints have been looked at. A
refusal is a failure like any other, so what holds whatever fails holds with the foreign keys too.
-/

namespace Jrok

open Concurrency

/-- The statement would store a row that refers to a missing one, or delete a row that another one
    refers to. The update of `create_tunnel` leaves `api_key_id` alone and is not looked at. -/
def Sql.dangles : Sql → Database → Bool
  | .registerAgent row, db =>
    (db.servers.find? row.serverId).isNone ||
      row.tunnelId.any fun id => (db.tunnels.find? id).isNone
  | .createTunnel row, db =>
    (db.tunnels.rows.all fun r => r.subdomain ≠ row.subdomain) &&
      row.apiKeyId.any fun id => (db.apiKeys.find? id).isNone
  | .allocateTcpPort row, db =>
    (db.tunnels.find? row.tunnelId).isNone || (db.servers.find? row.serverId).isNone
  | .deleteApiKey id, db =>
    (db.apiKeys.find? id).isSome && db.tunnels.rows.any fun r => r.apiKeyId = some id
  | _, _ => false

/-- What a statement answers and does where the foreign keys are enforced. -/
def Sql.execEnforced (B : Backend) (q : Sql) (db : Database) : Except DbError q.Res × Database :=
  if (q.exec B db).1.isOk && q.dangles db then (.error .foreignKey, db) else q.exec B db

/-- Like `World.exec`, with the foreign keys enforced. -/
def World.execEnforced (B : Backend) (faulty : Bool) :
    Choice → (o : Op) → World → Option (o.Res × World)
  | .go, .sql q, w =>
    some ((q.execEnforced B w.db).1, { w with db := (q.execEnforced B w.db).2 })
  | c, o, w => World.exec B faulty c o w

def World.enforcedHandler (B : Backend) (faulty : Bool) : Handler serverSig World Choice :=
  World.execEnforced B faulty

/-- What goes through is what the statement does without foreign keys. -/
theorem Sql.execEnforced_ok {B : Backend} {q : Sql} {db : Database} {a : q.Res}
    (h : (q.execEnforced B db).1 = .ok a) :
    (q.exec B db).1 = .ok a ∧ q.dangles db = false ∧ q.execEnforced B db = q.exec B db := by
  unfold execEnforced at h ⊢
  split at h
  · cases h
  · rename_i hpass
    rw [h] at hpass
    have hkept : q.dangles db = false := by simpa [Except.isOk, Except.toBool] using hpass
    exact ⟨h, hkept, by rw [if_neg (by rw [h]; exact hpass)]⟩

/-- What does not go through changes nothing. -/
theorem Sql.execEnforced_error {B : Backend} {q : Sql} {db : Database} {e : DbError}
    (h : (q.execEnforced B db).1 = .error e) : (q.execEnforced B db).2 = db := by
  unfold execEnforced at h ⊢
  split at h
  · rename_i hrefused
    rw [if_pos hrefused]
  · rename_i hpass
    rw [if_neg hpass]
    exact Sql.exec_error h

section Inversion

variable {B : Backend} {faulty : Bool} {c : Choice} {w w' : World}

theorem World.execEnforced_sql {q : Sql} {r : Except DbError q.Res}
    (h : World.enforcedHandler B faulty c (.sql q) w = some (r, w')) :
    (r = (q.execEnforced B w.db).1 ∧ w' = { w with db := (q.execEnforced B w.db).2 }) ∨
    (faulty = true ∧ ∃ e, r = .error e ∧ w' = w) := by
  cases c with
  | go =>
    obtain ⟨rfl, rfl⟩ := Prod.mk.inj (Option.some.inj h)
    exact .inl ⟨rfl, rfl⟩
  | fail e =>
    have hfail : World.handler B faulty (.fail e) (.sql q) w = some (r, w') := h
    rcases World.exec_sql.mp hfail with ⟨hgo, -⟩ | ⟨e', -, hfaulty, rfl, rfl⟩
    · cases hgo
    · exact .inr ⟨hfaulty, e', rfl, rfl⟩
  | _ => cases h

/-- The other operations are as before. -/
theorem World.execEnforced_other {o : Op} (ho : ∀ q, o ≠ .sql q) :
    World.enforcedHandler B faulty c o w = World.handler B faulty c o w := by
  cases o with
  | sql q => exact absurd rfl (ho q)
  | _ => cases c <;> rfl

/-- Enforcing the foreign keys is one way in which statements fail. -/
theorem World.execEnforced_fails {o : Op} {r : o.Res}
    (h : World.enforcedHandler B faulty c o w = some (r, w')) :
    ∃ c', World.handler B true c' o w = some (r, w') := by
  cases o with
  | sql q =>
    rcases execEnforced_sql h with ⟨rfl, rfl⟩ | ⟨-, e, rfl, rfl⟩
    · cases hr : (q.execEnforced B w.db).1 with
      | ok a =>
        obtain ⟨hok, -, hsame⟩ := Sql.execEnforced_ok hr
        exact ⟨.go, World.exec_sql.mpr (.inl ⟨rfl, hok.symm, by rw [hsame]⟩)⟩
      | error e =>
        exact ⟨.fail e, World.exec_sql.mpr (.inr ⟨e, rfl, rfl, rfl, by
          rw [Sql.execEnforced_error hr]⟩)⟩
    · exact ⟨.fail e, World.exec_sql.mpr (.inr ⟨e, rfl, rfl, rfl, rfl⟩)⟩
  | now =>
    rw [execEnforced_other (by simp)] at h
    exact ⟨c, World.exec_now.mpr (World.exec_now.mp h)⟩
  | uuid =>
    rw [execEnforced_other (by simp)] at h
    exact ⟨c, World.exec_uuid.mpr (World.exec_uuid.mp h)⟩
  | node n o =>
    rw [execEnforced_other (by simp)] at h
    exact ⟨c, World.exec_node.mpr (World.exec_node.mp h)⟩

end Inversion

/-- A statement answers what it does under the foreign keys, or has failed. -/
def Database.AnswersEnforced (B : Backend) (faulty : Bool) (db : Database) :
    Event serverSig → Prop
  | ⟨.sql q, r⟩ => r = (q.execEnforced B db).1 ∨ (faulty = true ∧ ∃ e, r = .error e)
  | _ => True

variable {B : Backend} {faulty : Bool} {τ : Type}

/-- The database is what the statements of the log make of it, with foreign keys as without. -/
theorem World.recorded_enforced : Recorded (fun _ : τ => World.enforcedHandler B faulty) (·.db)
    (Database.record B)
    (fun db e => Database.Answers B true db e ∧ Database.AnswersEnforced B faulty db e) where
  step t ch o w r w' hop := by
    obtain ⟨c', hfails⟩ := World.execEnforced_fails hop
    obtain ⟨hdb, hanswers⟩ := World.recorded.step t c' o w r w' hfails
    refine ⟨hdb, hanswers, ?_⟩
    cases o with
    | sql q =>
      rcases World.execEnforced_sql hop with ⟨rfl, -⟩ | ⟨hfaulty, e, rfl, -⟩
      · exact .inl rfl
      · exact .inr ⟨hfaulty, e, rfl⟩
    | _ => trivial

end Jrok
