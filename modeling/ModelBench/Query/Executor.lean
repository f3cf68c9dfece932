import ModelBench.Query.Memory

/-!
# Executors in memory

An executor refers to the answers and the errors that are prepared for it. A clone refers to the
same ones, so both know what either of them is told.
-/

namespace ModelBench

/-- What executors refer to by its position: answers under their statements, and errors. -/
structure Shelf where
  relations : List (List (String × QueryResult))
  errors : List (List (String × QueryError))
  deriving Repr

/-- An executor, with the positions of its answers and of its errors. -/
structure Executor where
  relations : Nat
  errors : Nat
  /-- Whether there is a connection to it. -/
  connects : Bool
  name : String
  deriving DecidableEq, Repr

namespace Executor

/-- A new executor with some answers, and the shelf with what it refers to. -/
def ofRelations (relations : List (String × QueryResult)) (shelf : Shelf) : Executor × Shelf :=
  let memory := Memory.ofRelations relations
  (⟨shelf.relations.length, shelf.errors.length, true, Memory.defaultName⟩,
    ⟨shelf.relations ++ [memory.relations], shelf.errors ++ [memory.errors]⟩)

/-- The executor without a connection. -/
def withConnectionFailure (e : Executor) : Executor := { e with connects := false }

/-- The executor under another name. -/
def withName (e : Executor) (name : String) : Executor := { e with name := name }

/-- Another executor that refers to the same answers and errors. -/
def clone (e : Executor) : Executor where
  relations := e.relations
  errors := e.errors
  connects := e.connects
  name := e.name

/-- What is prepared for an executor. -/
def memory (e : Executor) (shelf : Shelf) : Memory :=
  ⟨shelf.relations.getD e.relations [], shelf.errors.getD e.errors []⟩

/-- The shelf after an executor is told an answer for a statement. -/
def addRelation (e : Executor) (sql : String) (result : QueryResult) (shelf : Shelf) : Shelf :=
  let memory := (e.memory shelf).addRelation sql result
  { shelf with relations := shelf.relations.set e.relations memory.relations }

/-- The shelf after an executor is told an error for all statements in which a text occurs. -/
def addError (e : Executor) (part : String) (error : QueryError) (shelf : Shelf) : Shelf :=
  let memory := (e.memory shelf).addError part error
  { shelf with errors := shelf.errors.set e.errors memory.errors }

/-- The number of statements that an executor has an answer for. -/
def relationCount (e : Executor) (shelf : Shelf) : Nat := (e.memory shelf).relationCount

/-- The answer of an executor to a query. -/
def execute (e : Executor) (shelf : Shelf) (sql : String) : Except QueryError QueryResult :=
  (e.memory shelf).execute sql

/-- Checks the connection to an executor. -/
def checkConnection (e : Executor) : Except QueryError Unit := Memory.checkConnection e.connects

end Executor

/-! ## Histories -/

/-- A call to an executor, which is given by its number among the clones. -/
inductive Call
  | clone (through : Nat)
  | addRelation (through : Nat) (sql : String) (result : QueryResult)
  | addError (through : Nat) (part : String) (error : QueryError)

/-- An executor with its clones, and what they refer to. -/
structure Executors where
  original : Executor
  clones : List Executor
  shelf : Shelf

namespace Executors

/-- An executor with some answers and no clone yet. -/
def ofRelations (relations : List (String × QueryResult)) (shelf : Shelf) : Executors :=
  let (original, shelf) := Executor.ofRelations relations shelf
  ⟨original, [], shelf⟩

/-- The executor and its clones, in the order in which they were made. -/
def all (x : Executors) : List Executor := x.original :: x.clones

/-- The executor of a number: the original is number zero, and it also stands for numbers of no
clone. -/
def numbered (x : Executors) (number : Nat) : Executor := x.all.getD number x.original

/-- The executors after a call. -/
def call (x : Executors) : Call → Executors
  | .clone through => { x with clones := x.clones ++ [(x.numbered through).clone] }
  | .addRelation through sql result =>
    { x with shelf := (x.numbered through).addRelation sql result x.shelf }
  | .addError through part error =>
    { x with shelf := (x.numbered through).addError part error x.shelf }

/-- The executors after some calls, one after another. -/
def run (x : Executors) (calls : List Call) : Executors := calls.foldl call x

end Executors

end ModelBench
