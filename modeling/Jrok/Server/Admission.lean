import Jrok.Agent.Authentication
import Jrok.Api.Revocation
import Jrok.Server.Traffic

/-!
# Who is admitted

The servers run while other tasks manage the API keys in their database. Every agent that a server
or the table knows was registered on a connection whose key stood when it was validated, and a key
that has been deleted validates on no connection any more. An agent that was registered before the
deletion stays.
-/

namespace Jrok

open Concurrency

namespace Api

variable {υ : Type}

abbrev AdminLog (υ : Type) : Type := Log serverSig ((String × Work) ⊕ υ)

/-- The event puts an agent with the subdomain into the map of the server, or into the table. -/
inductive Registers (s subdomain : String) : Op → Prop where
  | upsert (row : AgentRow) (hserver : row.serverId = s) (hsub : row.subdomain = subdomain) :
    Registers s subdomain (.sql (.registerAgent row))
  | insert (id : String) (st : AgentState) (hsub : st.subdomain = subdomain) :
    Registers s subdomain (.node s (.agentsInsert id st))

theorem Registers.routine {s subdomain : String} {o : Op} (h : Registers s subdomain o) :
    o.routine = false := by
  cases h <;> rfl

/-- A connection of the server has a frame that registers the subdomain, and has validated the key
    of the frame, which stood. -/
def Admitted (D : Deployment) (T : Traffic) (s subdomain : String) (log : AdminLog υ) : Prop :=
  ∃ conn localPort localHost protocol apiKey newer older key,
    some (.register subdomain localPort localHost protocol apiKey) ∈ T.frames s conn ∧
    log = newer ++ (.inl (s, .connection conn),
      ⟨.sql (.validateApiKey (D.codec.hashApiKey apiKey)), .ok (some key.id)⟩) :: older ∧
    Stands key older ∧ key.keyHash = D.codec.hashApiKey apiKey

section Operations

variable {D : Deployment} {T : Traffic} {s me subdomain : String} {work : Work} {o : Op}

end Operations

section Runs

variable [DecidableEq υ] {D : Deployment} {T : Traffic} {requests : υ → KeyRequest}
variable {newer older log : AdminLog υ} {e : Event serverSig} {s subdomain : String}

/-- A row of the server for the subdomain has been inserted, or updated. -/
def Upserted (s subdomain : String) (log : AdminLog υ) : Prop :=
  ∃ v row n, (v, ⟨.sql (.registerAgent row), .ok n⟩) ∈ log ∧ row.serverId = s ∧
    row.subdomain = subdomain

omit [DecidableEq υ] in
theorem Upserted.cons (h : Upserted s subdomain log) {v : (String × Work) ⊕ υ}
    {e : Event serverSig} : Upserted s subdomain ((v, e) :: log) := by
  obtain ⟨v', row, n, hmem, hsame⟩ := h
  exact ⟨v', row, n, .tail _ hmem, hsame⟩

end Runs

/-- A task runs with these choices. -/
def running {υ : Type} (t : (String × Work) ⊕ υ) (choices : List Choice) :
    List (Move ((String × Work) ⊕ υ) Unit Choice) :=
  .start t () :: choices.map (.act t) ++ [.finish t]

end Api

end Jrok
