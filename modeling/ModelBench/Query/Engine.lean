import ModelBench.Query.Memory
import ModelBench.Text.Lowercase

/-!
# Databases

Tests run in memory or on BigQuery, which this build cannot reach.
-/

namespace ModelBench

/-- The databases there are. -/
inductive EngineKind
  | memory
  | bigQuery
  deriving DecidableEq, Repr

/-- The database of a name, in any case of its letters. -/
def EngineKind.ofName? (name : String) : Option EngineKind :=
  match Text.toLower name with
  | "memory" => some .memory
  | "bigquery" => some .bigQuery
  | _ => none

namespace BigQuery

/-- The error of everything that needs the database. -/
def notCompiled : QueryError :=
  .configuration "BigQuery support not compiled. Rebuild with: cargo build --features bigquery"

/-- The error for a message of the database. -/
def classifyError (message : String) : QueryError :=
  let mentions (part : String) : Bool := Text.occursIn part.toList message.toList
  if mentions "Access Denied" || mentions "Permission" then .authentication message
  else if mentions "connection" || mentions "timed out" then .network message
  else .query message

/-- Connects with the credentials of the environment. -/
def connect (_project : String) : Except QueryError Unit := .error notCompiled

/-- Connects with the credentials in a file. -/
def connectWithKey (_project _keyPath : String) : Except QueryError Unit := .error notCompiled

end BigQuery

end ModelBench
