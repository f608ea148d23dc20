import Jrok.Error
import Jrok.Relational.Table

/-!
# Database records

The records of `db/models.rs` and the rows the statements of `db/mod.rs` read and write. A row
has the column types of `migrations/001_init.sql`: TEXT is `String`, a nullable column is an
`Option`, INTEGER is `Int`. The columns `is_healthy` and `active`, into which only the literals
0 and 1 are ever written, are `Bool`.
-/

namespace Jrok

inductive Protocol where
  | http
  | tcp
  deriving DecidableEq, Repr

/-- `Protocol::fmt`. -/
def Protocol.text : Protocol → String
  | .http => "http"
  | .tcp => "tcp"

/-- `Protocol::from(&str)`: everything but `tcp`, in any case, is `Http`. -/
def Protocol.fromStr (s : String) : Protocol :=
  if s.toList.map Char.toLower = ['t', 'c', 'p'] then .tcp else .http

/-- Reading back the stored text gives the protocol. -/
@[simp] theorem Protocol.fromStr_text (p : Protocol) : Protocol.fromStr p.text = p := by
  cases p <;> decide

structure Server where
  id : String
  httpHost : String
  tcpHost : String
  startedAt : Int
  lastHeartbeat : Int
  isHealthy : Bool
  deriving DecidableEq, Repr

structure ClusterState where
  leaderId : Option String
  leaderTerm : Int
  lastHeartbeat : Int
  deriving DecidableEq, Repr

structure Agent where
  id : String
  subdomain : String
  serverId : String
  tunnelId : Option String
  localPort : UInt16
  localHost : String
  protocol : Protocol
  connectionToken : String
  connectedAt : Int
  lastHeartbeat : Int
  active : Bool
  deriving DecidableEq, Repr

structure ApiKey where
  id : String
  keyHash : String
  keyPrefix : String
  name : Option String
  createdAt : Int
  deriving DecidableEq, Repr

/-! ## Rows

`Server`, `ClusterState`, `ApiKey` have the column types of their tables and serve as rows. -/

structure AgentRow where
  id : String
  subdomain : String
  serverId : String
  tunnelId : Option String
  localPort : Int
  localHost : String
  protocol : String
  connectionToken : String
  connectedAt : Int
  lastHeartbeat : Int
  active : Bool
  deriving DecidableEq, Repr

structure TunnelRow where
  id : String
  subdomain : String
  protocol : String
  tcpPort : Option Int
  apiKeyId : Option String
  createdAt : Int
  updatedAt : Int
  active : Bool
  deriving DecidableEq, Repr

structure TcpPortRow where
  port : Int
  tunnelId : String
  serverId : String
  deriving DecidableEq, Repr

structure TcpPort where
  port : UInt16
  tunnelId : String
  serverId : String
  deriving DecidableEq, Repr

/-- The tables of the schema with their primary keys. `cluster_state` has at most the row with
    `id = 1`, so it is an option; the other columns of that row are `ClusterState`. -/
structure Database where
  apiKeys : Relational.Table ApiKey (·.id)
  servers : Relational.Table Server (·.id)
  clusterState : Option ClusterState
  tunnels : Relational.Table TunnelRow (·.id)
  agents : Relational.Table AgentRow (·.id)
  tcpPorts : Relational.Table TcpPortRow (·.port)

/-- The database right after `run_migrations` on a new file. -/
def Database.migrated : Database where
  apiKeys := .empty
  servers := .empty
  clusterState := some ⟨none, 0, 0⟩
  tunnels := .empty
  agents := .empty
  tcpPorts := .empty

end Jrok
