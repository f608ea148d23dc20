/-!
# Errors

The variants of the crate's `Error` that the modelled functions raise, with the texts of their
`Display` instances, and the errors the database driver reports.
-/

namespace Jrok

/-- The errors of a database call: a violated constraint, a violated foreign key, an `ON CONFLICT`
    target that is no key, a NULL read as a value, or any other failure with the driver's own
    text. -/
inductive DbError where
  | constraint
  | foreignKey
  | conflictTarget
  | nullValue
  | other (text : String)
  deriving DecidableEq, Repr

/-- The `Display` text of a database error. -/
def DbError.text : DbError → String
  | .constraint => "UNIQUE constraint failed"
  | .foreignKey => "FOREIGN KEY constraint failed"
  | .conflictTarget => "ON CONFLICT clause does not match any PRIMARY KEY or UNIQUE constraint"
  | .nullValue => "Null value"
  | .other text => text

/-- `crate::error::Error`. -/
inductive Error where
  | database (e : DbError)
  | agentNotFound (s : String)
  | tunnelNotFound (s : String)
  | subdomainTaken (s : String)
  | badRequest (s : String)
  | internal (s : String)
  deriving DecidableEq, Repr

/-- `Error::to_string`. -/
def Error.text : Error → String
  | .database e => "Database error: " ++ e.text
  | .agentNotFound s => "Agent not found: " ++ s
  | .tunnelNotFound s => "Tunnel not found: " ++ s
  | .subdomainTaken s => "Subdomain already taken: " ++ s
  | .badRequest s => "Bad request: " ++ s
  | .internal s => "Internal error: " ++ s

end Jrok
