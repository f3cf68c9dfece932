import ModelBench.Json.Printer

/-!
# Results of queries

A query answers with columns and rows of cells, or with an error.
-/

namespace ModelBench

/-- The answer of a query. -/
structure QueryResult where
  columns : List String
  /-- The cells of every row, in the order of the columns. -/
  rows : List (List Json)
  deriving Repr

/-- Why a query was not answered. -/
inductive QueryError
  | authentication (reason : String)
  | query (reason : String)
  | invalidResponse (reason : String)
  | network (reason : String)
  | configuration (reason : String)
  | unsupported (reason : String)
  deriving DecidableEq, Repr

/-- The text of an error. -/
def QueryError.message : QueryError → String
  | .authentication reason => s!"Authentication failed: {reason}"
  | .query reason => s!"Query failed: {reason}"
  | .invalidResponse reason => s!"Invalid response: {reason}"
  | .network reason => s!"Network error: {reason}"
  | .configuration reason => s!"Configuration error: {reason}"
  | .unsupported reason => s!"Unsupported query: {reason}"

/-- The text of a cell: of a text the text itself, of anything else its JSON. -/
def Json.renderCell : Json → String
  | .null => "NULL"
  | .string s => s
  | other => other.render

namespace QueryResult

/-- The answer without columns and rows. -/
def empty : QueryResult := ⟨[], []⟩

/-- An answer whose cells are texts. -/
def ofTexts (columns : List String) (rows : List (List String)) : QueryResult :=
  ⟨columns, rows.map fun row => row.map Json.string⟩

/-- Whether there are no rows. -/
def isEmpty (r : QueryResult) : Bool := r.rows.isEmpty

/-- The number of rows. -/
def rowCount (r : QueryResult) : Nat := r.rows.length

/-- Every row as pairs of columns and texts of cells. -/
def records (r : QueryResult) : List (List (String × String)) :=
  r.rows.map fun row => (r.columns.zip row).map fun (column, cell) => (column, cell.renderCell)

end QueryResult

end ModelBench
