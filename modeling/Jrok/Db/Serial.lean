import Jrok.Concurrency.History
import Jrok.Db.Calls

/-!
# The statements of a log

A statement that has gone through has done to the database what it does when it is executed alone,
and one that has not has done nothing. So the database is what the statements of the log make of it
in their order, whichever tasks they belong to.
-/

namespace Jrok

open Concurrency

/-- What an event does to the database. -/
def Database.record (B : Backend) : Event serverSig → Database → Database
  | ⟨.sql q, .ok _⟩, db => (q.exec B db).2
  | _, db => db

/-- A statement answers what it does when it is executed alone, or has failed. -/
def Database.Answers (B : Backend) (faulty : Bool) (db : Database) : Event serverSig → Prop
  | ⟨.sql q, r⟩ => r = (q.exec B db).1 ∨ (faulty = true ∧ ∃ e, r = .error e)
  | _ => True

/-- The database after the events of a log. -/
abbrev Database.after {τ : Type} (B : Backend) (db₀ : Database) (log : Log serverSig τ) :
    Database :=
  Log.after (Database.record B) db₀ log

/-- A statement that is rejected changes nothing. -/
theorem Sql.exec_error {B : Backend} {q : Sql} {db : Database} {e : DbError}
    (h : (q.exec B db).1 = .error e) : (q.exec B db).2 = db := by
  cases q with
  | registerAgent row =>
    rcases Sql.exec_registerAgent B db row with ⟨_, hexec⟩ | ⟨n, hok, -⟩ | ⟨hok, -⟩
    · rw [hexec]
    · cases hok.symm.trans h
    · cases hok.symm.trans h
  | becomeLeader id term now old =>
    rcases Sql.exec_becomeLeader B db id term now old with hexec | ⟨row, -, -, hexec⟩ <;>
      simp [hexec] at h
  | renewLeadership now id =>
    rcases Sql.exec_renewLeadership B db id now with hexec | ⟨row, -, -, hexec⟩ <;>
      simp [hexec] at h
  | registerServer | createApiKey | createTunnel | allocateTcpPort =>
    -- in the other branches the answer is a number of rows
    simp only [Sql.exec, Database.createTunnel, Database.updateServers] at h ⊢
    repeat' split at h
    all_goals first | cases h; done | simp only [*, Bool.false_eq_true, if_true, if_false]
  | _ => cases h

variable {B : Backend} {faulty lookups : Bool} {τ : Type}

theorem World.recorded : Recorded (fun _ : τ => World.handler B faulty) (·.db) (Database.record B)
    (Database.Answers B faulty) where
  step _ ch o w r w' hop := by
    cases o with
    | now =>
      obtain ⟨-, -, -, rfl⟩ := World.exec_now.mp hop
      exact ⟨rfl, trivial⟩
    | uuid =>
      obtain ⟨-, -, rfl⟩ := World.exec_uuid.mp hop
      exact ⟨rfl, trivial⟩
    | node n o =>
      obtain ⟨n', -, rfl⟩ := World.exec_node.mp hop
      exact ⟨rfl, trivial⟩
    | sql q =>
      rcases World.exec_sql.mp hop with ⟨-, rfl, rfl⟩ | ⟨e, -, hfaulty, rfl, rfl⟩
      · refine ⟨?_, .inl rfl⟩
        cases hexec : (q.exec B w.db).1 with
        | ok a => rfl
        | error e => exact Sql.exec_error hexec
      · exact ⟨rfl, .inr ⟨hfaulty, e, rfl⟩⟩

/-- What an event adds to the UUIDs that have been handed out. -/
def issue : Event serverSig → List String → List String
  | ⟨.uuid, u⟩, ids => u :: ids
  | _, ids => ids

/-- A UUID is none of those handed out before. -/
def Fresh (ids : List String) : Event serverSig → Prop
  | ⟨.uuid, u⟩ => u ∉ ids
  | _ => True

theorem World.recorded_issued :
    Recorded (fun _ : τ => World.handler B faulty) (·.issued) issue Fresh where
  step _ ch o w r w' hop := by
    cases o with
    | now =>
      obtain ⟨-, -, -, rfl⟩ := World.exec_now.mp hop
      exact ⟨rfl, trivial⟩
    | uuid =>
      obtain ⟨-, hfresh, rfl⟩ := World.exec_uuid.mp hop
      exact ⟨rfl, hfresh⟩
    | node n o =>
      obtain ⟨n', -, rfl⟩ := World.exec_node.mp hop
      exact ⟨rfl, trivial⟩
    | sql q =>
      rcases World.exec_sql.mp hop with ⟨-, -, rfl⟩ | ⟨e, -, -, -, rfl⟩ <;> exact ⟨rfl, trivial⟩

theorem mem_issued {log : Log serverSig τ} {ids : List String} {t : τ} {u : String}
    (h : (t, (⟨.uuid, u⟩ : Event serverSig)) ∈ log) : u ∈ Log.after issue ids log := by
  induction log with
  | nil => cases h
  | cons e log ih =>
    obtain ⟨t', o, r⟩ := e
    rcases List.mem_cons.mp h with heq | hold
    · cases heq
      exact List.mem_cons_self ..
    · have hrest := ih hold
      cases o with
      | uuid => exact List.mem_cons_of_mem _ hrest
      | _ => exact hrest

/-- A UUID is handed out once. -/
theorem uuid_unique {log : Log serverSig τ} {ids : List String}
    (h : Causal (fun e older => Fresh (Log.after issue ids older) e.2) log) {t t' : τ} {u : String}
    (he : (t, (⟨.uuid, u⟩ : Event serverSig)) ∈ log)
    (he' : (t', (⟨.uuid, u⟩ : Event serverSig)) ∈ log) : t = t' := by
  have heq := h.unique (fun e => match e.2 with | ⟨.uuid, u⟩ => some u | _ => none)
    (fun e older v hfresh hv e' hold hv' => ?_) he he' rfl rfl
  · exact congrArg Prod.fst heq
  · obtain ⟨s, o, r⟩ := e
    obtain ⟨s', o', r'⟩ := e'
    cases o <;> cases hv
    cases o' <;> cases hv'
    exact hfresh (mem_issued hold)

/-- A statement that has gone through answers what it does when it is executed alone. -/
theorem Database.Answers.of_ok {db : Database} {q : Sql} {a : q.Res}
    (h : Database.Answers B faulty db ⟨.sql q, .ok a⟩) : (q.exec B db).1 = .ok a := by
  rcases h with h | ⟨-, e, he⟩
  · exact h.symm
  · cases he

/-- What a statement that goes through keeps, and no other event touches, holds of the database
    after a log. -/
theorem Database.after_invariant {db₀ : Database} {log : Log serverSig τ}
    (I : Database → Log serverSig τ → Prop)
    (hcausal : Causal (fun e older => Database.Answers B faulty (.after B db₀ older) e.2) log)
    (hstart : I db₀ [])
    (hsql : ∀ db older t (q : Sql) a, I db older → (q.exec B db).1 = .ok a →
      I (q.exec B db).2 ((t, ⟨.sql q, .ok a⟩) :: older))
    (hother : ∀ db older t e, I db older → (∀ q a, e ≠ ⟨.sql q, .ok a⟩) → I db ((t, e) :: older)) :
    I (.after B db₀ log) log := by
  induction log with
  | nil => exact hstart
  | cons e log ih =>
    obtain ⟨t, o, r⟩ := e
    obtain ⟨hanswers, hrest⟩ := hcausal
    have hold := ih hrest
    cases o with
    | sql q =>
      cases r with
      | error e => exact hother _ _ t _ hold fun _ _ => nofun
      | ok a => exact hsql _ _ t q a hold hanswers.of_ok
    | _ => exact hother _ _ t _ hold fun _ _ => nofun

end Jrok
