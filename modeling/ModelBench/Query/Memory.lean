import ModelBench.Query.Evaluation

/-!
# Answers that are prepared

A memory holds answers and errors for statements that are to come. Everything else is evaluated.
-/

namespace ModelBench

/-- Prepared answers under the statements they belong to, and errors for all statements in which a
text occurs. -/
structure Memory where
  relations : List (String × QueryResult)
  errors : List (String × QueryError)
  deriving Repr

namespace Memory

/-- The memory with nothing prepared. -/
def empty : Memory := ⟨[], []⟩

/-- A statement without the blanks on either side. -/
def trimmed (sql : String) : String := String.ofList (Text.trim sql.toList)

/-- The memory with an answer for a statement. An answer for the same statement is replaced. -/
def addRelation (m : Memory) (sql : String) (result : QueryResult) : Memory :=
  let key := trimmed sql
  { m with relations := (key, result) :: m.relations.filter fun entry => entry.1 != key }

/-- The memory with an error for all statements in which a text occurs. Errors added before come
first. -/
def addError (m : Memory) (part : String) (error : QueryError) : Memory :=
  { m with errors := m.errors ++ [(part, error)] }

/-- The memory with some answers. -/
def ofRelations (relations : List (String × QueryResult)) : Memory :=
  relations.foldl (fun m (sql, result) => m.addRelation sql result) empty

/-- The number of statements with an answer. -/
def relationCount (m : Memory) : Nat := m.relations.length

/-- The error for a statement. -/
def errorFor (m : Memory) (sql : String) : Option QueryError :=
  (m.errors.find? fun entry => Text.occursIn entry.1.toList sql.toList).map Prod.snd

/-- The answer of a query. -/
def execute (m : Memory) (sql : String) : Except QueryError QueryResult :=
  match m.errorFor sql with
  | some error => .error error
  | none => Query.evaluate (fun key => m.relations.lookup key) sql

/-- The name that a memory goes by. -/
def defaultName : String := "Memory"

/-- Checks the connection to a memory, which is there or is said not to be. -/
def checkConnection (connects : Bool) : Except QueryError Unit :=
  if connects then .ok () else .error (.network "Simulated connection failure")

end Memory

end ModelBench
