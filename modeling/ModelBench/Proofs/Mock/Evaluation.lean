import ModelBench.Query.Memory
import ModelBench.Proofs.Query.Relation

/-!
# Evaluating what was encoded

A memory with nothing prepared answers the statement of a mock with the table that the mock was
encoded from (`execute_asRelation`): every row, in the order of the file, with the values in the
ascending order of their columns. No value is mistaken for a part of the statement.
-/

namespace ModelBench

open Query Sql Text

variable {types : List (String × String)} {header : List String}

/-- The rows of a table on some columns: null where the table has an empty text, else the text. -/
def tableRows (columns header : List String) (rows : List (List String)) : List (List Json) :=
  rows.map fun row => columns.map fun column => cell (((header.zip row).lookup column).getD "")

/-- The answer that a table stands for has the values of the table under their columns. -/
theorem tableOf_eq (types : List (String × String)) {rows : List (List String)}
    (checked : EncodedMock.checkHeader header = .ok ()) :
    tableOf header rows = ⟨(EncodedMock.ofTable types header rows).columns,
      tableRows (EncodedMock.ofTable types header rows).columns header rows⟩ := by
  have nodup : header.Nodup := (EncodedMock.columns_perm header).nodup_iff.1
    ((EncodedMock.columns_sorted checked).imp ne_of_lt)
  rw [tableOf, tableRows, QueryResult.mk.injEq]
  refine ⟨rfl, List.map_congr_left fun row _ => ?_⟩
  rw [EncodedMock.valuesAt_order nodup, List.map_map]
  rfl

/-- A memory with nothing prepared evaluates every statement. -/
theorem execute_empty (sql : String) :
    Memory.empty.execute sql = evaluate (fun _ => none) sql := rfl

/-- A memory with nothing prepared answers the statement of a table with the table. -/
theorem execute_ofTable (isHeader : IsHeader types header) (rows : List (List String)) :
    Memory.empty.execute (EncodedMock.ofTable types header rows).asRelation =
      .ok (tableOf header rows) := by
  rw [execute_empty, evaluate_of_quiet (quiet_trim_asRelation isHeader rows)]
  exact relation_ofTable isHeader rows rfl

/-- What comma-separated values are encoded to is evaluated to their table: the columns in ascending
order, and the values of every row in the order of the columns, whatever these values are. -/
theorem execute_asRelation (path : String) (types : List (String × String)) (bytes : List UInt8)
    (encoded : EncodedMock) (accepted : EncodedMock.ofBytes path types bytes = .ok encoded)
    (isColumn : ∀ column ∈ encoded.columns, IsColumn [.asWord, .limit] column)
    (isType : ∀ column ∈ encoded.columns, ∀ type ∈ types.lookup column, IsType type) :
    ∃ header rows, Csv.AreTable (Csv.records bytes) header rows ∧ encoded.columns.Perm header ∧
      encoded.columns.Pairwise (· < ·) ∧ Memory.empty.execute encoded.asRelation =
        .ok ⟨encoded.columns, tableRows encoded.columns header rows⟩ := by
  obtain ⟨header, rows, table, checked, rfl⟩ := EncodedMock.exists_table_of_ofBytes accepted
  refine ⟨header, rows, table, EncodedMock.columns_perm header,
    EncodedMock.columns_sorted checked, ?_⟩
  rw [execute_ofTable (isHeader_of_columns checked isColumn isType), tableOf_eq types checked]

/-! ## An example -/

/-- A column with a value that reads like SQL, a backslash, a text that stands twice, and an empty
one. -/
def noteBytes : List UInt8 :=
  Text.Utf8.encode "a\n\"\"\") AS x\"\n\\\n\u00e9\n\u00e9\n\"\"\n"

/-- What they are encoded to under a type. -/
def notesEncoded : EncodedMock where
  sql := "\n SELECT CAST(\"\\\") AS x\" AS NUMERIC(9)) AS a" ++
    "\n UNION ALL \n\n SELECT CAST(\"\\\\\" AS NUMERIC(9)) AS a" ++
    "\n UNION ALL \n\n SELECT CAST(\"\u00e9\" AS NUMERIC(9)) AS a" ++
    "\n UNION ALL \n\n SELECT CAST(\"\u00e9\" AS NUMERIC(9)) AS a" ++
    "\n UNION ALL \n\n SELECT CAST(null AS NUMERIC(9)) AS a"
  columns := ["a"]
  rowCount := 5
  types := [("a", "NUMERIC(9)")]

theorem execute_notesEncoded :
    EncodedMock.ofBytes "notes.csv" [("a", "NUMERIC(9)")] noteBytes = .ok notesEncoded ∧
      (∀ column ∈ notesEncoded.columns, IsColumn [.asWord, .limit] column) ∧
      (∀ column ∈ notesEncoded.columns, ∀ type ∈ [("a", "NUMERIC(9)")].lookup column,
        IsType type) ∧
      ∃ header rows, Csv.AreTable (Csv.records noteBytes) header rows ∧
        notesEncoded.columns.Perm header ∧ notesEncoded.columns.Pairwise (· < ·) ∧
        Memory.empty.execute notesEncoded.asRelation =
          .ok ⟨notesEncoded.columns, tableRows notesEncoded.columns header rows⟩ := by
  have accepted : EncodedMock.ofBytes "notes.csv" [("a", "NUMERIC(9)")] noteBytes =
      .ok notesEncoded := by
    decide +kernel
  have isColumn : ∀ column ∈ notesEncoded.columns, IsColumn [.asWord, .limit] column := by
    decide +kernel
  have isType : ∀ column ∈ notesEncoded.columns,
      ∀ type ∈ [("a", "NUMERIC(9)")].lookup column, IsType type := by
    decide +kernel
  exact ⟨accepted, isColumn, isType,
    execute_asRelation "notes.csv" _ noteBytes notesEncoded accepted isColumn isType⟩

end ModelBench
