import ModelBench.Run
import ModelBench.Proofs.Generation
import ModelBench.Proofs.Json.Same
import ModelBench.Proofs.Mock.Evaluation
import ModelBench.Proofs.Query.Difference
import ModelBench.Proofs.Query.Memory

/-!
# The verdict of a test

A test of both directions passes in memory exactly when the model's rows on the expected columns are
the expected rows, as sets (`passed_iff_same_rows`). Each half of the test is a difference of two
balanced texts (`execute_exceptDistinct`), which is empty when all rows of the one are rows of the
other.
-/

namespace ModelBench

open Query Sql Text

variable {columns header : List String} {row : List Json} {rows : List (List String)}
  {memory : Memory}

/-! ## Expected rows -/

theorem map_cellAt_self (nodup : columns.Nodup) (length : row.length = columns.length) :
    columns.map (cellAt columns row) = row := by
  induction columns generalizing row with
  | nil => rw [List.map_nil, List.length_eq_zero_iff.1 length]
  | cons column columns ih =>
    cases row with
    | nil => cases length
    | cons value row =>
      obtain ⟨other, nodup⟩ := List.nodup_cons.1 nodup
      have tail : columns.map (cellAt (column :: columns) (value :: row)) =
          columns.map (cellAt columns row) := by
        refine List.map_congr_left fun name member => ?_
        have differs : (name == column) = false := beq_eq_false_iff_ne.2 fun same =>
          other (same ▸ member)
        rw [cellAt, cellAt, List.zip_cons_cons, List.lookup_cons, differs]
      have head : cellAt (column :: columns) (value :: row) column = value := by simp [cellAt]
      rw [List.map_cons, tail, ih nodup (Nat.succ.inj length), head]

theorem rowsOn_self {rows : List (List Json)} (nodup : columns.Nodup)
    (lengths : ∀ row ∈ rows, row.length = columns.length) :
    rowsOn ⟨columns, rows⟩ columns = rows := by
  rw [rowsOn, ← List.map_id rows, List.map_map]
  exact List.map_congr_left fun row member => map_cellAt_self nodup (lengths row member)

/-- The table of a mock has the values of its file. -/
theorem rowsOn_tableOf (types : List (String × String))
    (checked : EncodedMock.checkHeader header = .ok ()) :
    rowsOn (tableOf header rows) (EncodedMock.ofTable types header rows).columns =
      tableRows (EncodedMock.ofTable types header rows).columns header rows := by
  rw [tableOf_eq types checked]
  refine rowsOn_self ((EncodedMock.columns_sorted checked).imp ne_of_lt) fun row member => ?_
  obtain ⟨values, -, rfl⟩ := List.mem_map.1 member
  exact List.length_map _

theorem isCell_cell (value : String) : (cell value).IsCell := by
  rw [cell]
  split_ifs
  · exact .inl rfl
  · exact .inr ⟨value, rfl⟩

theorem isCell_of_mem_tableRows {cells : List Json} (h : cells ∈ tableRows columns header rows) :
    ∀ x ∈ cells, x.IsCell := by
  obtain ⟨row, -, rfl⟩ := List.mem_map.1 h
  intro x member
  obtain ⟨column, -, rfl⟩ := List.mem_map.1 member
  exact isCell_cell _

/-- Neither of two differences has a row exactly when the rows are the same, if those on one side
are rows of cells. -/
theorem differences_eq_nil_iff {others mine : List (List Json)}
    (cells : ∀ row ∈ others, ∀ x ∈ row, x.IsCell) :
    difference others mine = [] ∧ difference mine others = [] ↔
      ∀ row, row ∈ mine ↔ row ∈ others := by
  rw [difference_eq_nil_iff, difference_eq_nil_iff]
  constructor
  · rintro ⟨extra, missing⟩ row
    exact ⟨fun member => (Json.contains_iff_mem (.inr cells)).1 (extra row member),
      fun member => (Json.contains_iff_mem (.inl (cells row member))).1 (missing row member)⟩
  · intro same
    exact ⟨fun row member => (Json.contains_iff_mem (.inr cells)).2 ((same row).1 member),
      fun row member => (Json.contains_iff_mem (.inl (cells row member))).2 ((same row).2 member)⟩

/-! ## Halves -/

/-- The statement of a difference gives the rows of the first relation that are not rows of the
second. -/
theorem execute_exceptDistinct {l r : String} {left right : QueryResult}
    (silent : memory.Silent (ModelBench.exceptDistinct l r (String.intercalate "," columns)))
    (isColumn : ∀ column ∈ columns, IsColumn [.fromWord] column) (nonempty : columns ≠ [])
    (balanced : Balanced l.toList ∧ Balanced r.toList)
    (found : relation memory.known l.toList = .ok left ∧ relation memory.known r.toList = .ok right)
    (covers : ∀ column ∈ columns, column ∈ left.columns ∧ column ∈ right.columns) :
    memory.execute (ModelBench.exceptDistinct l r (String.intercalate "," columns)) =
      .ok ⟨columns, difference (rowsOn right columns) (rowsOn left columns)⟩ := by
  rw [execute_of_silent silent, evaluate_exceptDistinct isColumn nonempty balanced.1 balanced.2,
    found.1, found.2, minus]
  show (do
    let left ← project left columns
    let right ← project right columns
    return (⟨columns, difference right left⟩ : QueryResult)) = _
  rw [project_eq_rowsOn fun column member => (covers column member).1,
    project_eq_rowsOn fun column member => (covers column member).2]
  rfl

/-- Statements that are all answered give differences, none if no answer has a row. -/
theorem exists_diffs_of_answers {execute : Execute Id} {halves : List (DiffDirection × String)}
    {answers : List QueryResult}
    (answered : List.Forall₂ (fun half answer => execute half.2 = Except.ok answer) halves
      answers) :
    ∃ diffs, runHalves execute halves = Except.ok diffs ∧
      (diffs = [] ↔ ∀ answer ∈ answers, answer.rows = []) := by
  induction answered with
  | nil => exact ⟨[], rfl, by simp⟩
  | @cons half answer halves answers head _ ih =>
    obtain ⟨diffs, rest, empty⟩ := ih
    refine ⟨answer.diffs half.1 ++ diffs, ?_, ?_⟩
    · rw [runHalves]
      show (match execute half.2 with
        | .error e => Except.error (half.1, e)
        | .ok result =>
          match runHalves execute halves with
          | .error e => Except.error e
          | .ok diffs => Except.ok (result.diffs half.1 ++ diffs)) = _
      rw [head, rest]
    · rw [List.append_eq_nil_iff, empty, List.forall_mem_cons, QueryResult.diffs,
        QueryResult.records, List.map_eq_nil_iff, List.map_eq_nil_iff]

theorem passed_iff_diffs_eq_nil (spec : TestSpec) (diffs : List RowDiff) :
    (spec.verdict (.ok diffs)).status = .passed ↔ diffs = [] := by
  cases diffs with
  | nil => simp [TestSpec.verdict, TestResult.passed]
  | cons diff diffs => simp [TestSpec.verdict, TestResult.failed, TestResult.withDiagnostic]

/-- A test of both directions whose statements are answered passes when no answer has a row. -/
theorem passed_iff_of_answers {files : Volume} {manifest : Manifest} {spec : TestSpec}
    {filter : Filter} {execute : Execute Id} {sql : String} {expected : EncodedMock}
    {extra missing : QueryResult} (runs : filter.skips spec.name = false)
    (model : spec.modelSql files manifest = .ok sql)
    (encoded : spec.output.encode files = .ok expected)
    (first : execute (exceptDistinct sql expected.asRelation expected.columnList) =
      Except.ok extra)
    (second : execute (exceptDistinct expected.asRelation sql expected.columnList) =
      Except.ok missing) :
    TestResult.status (spec.run execute files manifest ⟨.both, filter⟩) = .passed ↔
      extra.rows = [] ∧ missing.rows = [] := by
  have answered : List.Forall₂ (fun (half : DiffDirection × String) answer =>
      execute half.2 = Except.ok answer)
      (AssertionQueries.ofEncoded sql expected .both).halves [extra, missing] :=
    .cons first (.cons second .nil)
  obtain ⟨diffs, run, empty⟩ := exists_diffs_of_answers answered
  have result : spec.run execute files manifest ⟨.both, filter⟩ = spec.verdict (.ok diffs) := by
    rw [TestSpec.run, runs, if_neg Bool.false_ne_true, generate_of_model .both model encoded]
    show spec.verdict (runHalves execute (AssertionQueries.ofEncoded sql expected .both).halves) = _
    rw [run]
  rw [result, passed_iff_diffs_eq_nil, empty]
  simp

/-! ## Verdicts -/

/-- A model with balanced SQL that evaluates to rows with all expected columns passes its test, in
both directions, exactly when its rows on these columns are the expected rows: no order and no
repetition of rows matters, and no value is mistaken for SQL. -/
theorem passed_iff_same_rows {files : Volume} {manifest : Manifest} {spec : TestSpec}
    {filter : Filter} {memory : Memory} {sql : String} {expected : EncodedMock}
    {answer : QueryResult} (runs : filter.skips spec.name = false)
    (model : spec.modelSql files manifest = .ok sql)
    (encoded : spec.output.encode files = .ok expected)
    (isColumn : ∀ column ∈ expected.columns, IsColumn [.asWord, .fromWord, .limit] column)
    (types : ∀ column ∈ expected.columns, ∀ type ∈ spec.output.types.lookup column, IsType type)
    (silent : ∀ half ∈ (AssertionQueries.ofEncoded sql expected .both).halves, memory.Silent half.2)
    (unknown : memory.known (Memory.trimmed expected.asRelation) = none)
    (answered : relation memory.known (trim sql.toList) = .ok answer)
    (covers : ∀ column ∈ expected.columns, column ∈ answer.columns)
    (balanced : Balanced sql.toList) :
    ∃ header rows, spec.output.Holds files header rows ∧ expected.columns.Perm header ∧
      expected.columns.Pairwise (· < ·) ∧
      (TestResult.status (spec.run (m := Id) memory.execute files manifest ⟨.both, filter⟩) =
          .passed ↔
        ∀ cells, cells ∈ rowsOn answer expected.columns ↔
          cells ∈ tableRows expected.columns header rows) := by
  obtain ⟨header, rows, holds, checked, rfl⟩ := exists_holds_of_encode encoded
  refine ⟨header, rows, holds, EncodedMock.columns_perm header,
    EncodedMock.columns_sorted checked, ?_⟩
  have mem_columns (column) : column ∈ (EncodedMock.order header).map Prod.fst ↔ column ∈ header :=
    (EncodedMock.columns_perm header).mem_iff
  have isHeader : IsHeader spec.output.types header :=
    ⟨EncodedMock.header_ne_nil checked,
      fun column member => (isColumn column ((mem_columns column).2 member)).mono (by simp),
      fun column member => types column ((mem_columns column).2 member)⟩
  have isFrom : ∀ column ∈ (EncodedMock.order header).map Prod.fst,
      IsColumn [.fromWord] column := fun column member =>
    (isColumn column member).mono (by simp)
  have mine : relation memory.known sql.toList = .ok answer :=
    (relation_congr (trim_trim _).symm).trans answered
  have others := relation_ofTable isHeader rows unknown
  have balanced' := balanced_asRelation isHeader rows
  -- each half is a difference of the model's rows and the table of the mock
  rw [AssertionQueries.halves_both, List.forall_mem_cons, List.forall_mem_singleton] at silent
  have first := execute_exceptDistinct silent.1 isFrom isHeader.columns_ne_nil
    ⟨balanced, balanced'⟩ ⟨mine, others⟩ fun column member => ⟨covers column member, member⟩
  have second := execute_exceptDistinct silent.2 isFrom isHeader.columns_ne_nil
    ⟨balanced', balanced⟩ ⟨others, mine⟩ fun column member => ⟨member, covers column member⟩
  rw [rowsOn_tableOf _ checked] at first second
  rw [passed_iff_of_answers runs model encoded first second]
  exact differences_eq_nil_iff fun row member => isCell_of_mem_tableRows member

/-! ## An example -/

/-- A test of a model whose rows are expected in another order, one of them null and one of them
with a value that reads like SQL. -/
def orders : TestSpec where
  name := "orders"
  model := "model.x.orders"
  mocks := []
  output := ⟨"orders.csv", [("note", "NUMERIC(10, 2)")]⟩

/-- The file of the expected rows: the header `note`, then `1`, an empty value and `") AS x`. -/
def ordersFiles : Volume where
  current := []
  nodes := [(["orders.csv"], .file [110, 111, 116, 101, 10, 49, 10, 34, 34, 10, 34, 34, 34, 41, 32,
    65, 83, 32, 120, 34, 10])]

def ordersManifest : Manifest where
  metadata := none
  nodes := [("model.x.orders",
    { uniqueId := "model.x.orders", name := "orders", resourceType := "model", database := "p"
      schema := "d", shortName := "orders", compiledCode := "SELECT * FROM t", dependsOn := []
      qualifiedName := [] })]
  sources := []

/-- The rows of the model, one of them twice. -/
def ordersAnswer : QueryResult where
  columns := ["id", "note"]
  rows := [[.number (.integer 3), .string "\") AS x"], [.number (.integer 2), .null],
    [.number (.integer 1), .string "1"], [.number (.integer 0), .null]]

def ordersMemory : Memory := ⟨[("SELECT * FROM t", ordersAnswer)], []⟩

/-- What the expected rows are encoded to. -/
def ordersExpected : EncodedMock where
  sql := "\n SELECT CAST(\"1\" AS NUMERIC(10, 2)) AS note" ++
    "\n UNION ALL \n\n SELECT CAST(null AS NUMERIC(10, 2)) AS note" ++
    "\n UNION ALL \n\n SELECT CAST(\"\\\") AS x\" AS NUMERIC(10, 2)) AS note"
  columns := ["note"]
  rowCount := 3
  types := [("note", "NUMERIC(10, 2)")]

theorem relation_orders :
    relation ordersMemory.known (trim "SELECT * FROM t".toList) = .ok ordersAnswer := by
  have key : String.ofList (trim (trim "SELECT * FROM t".toList)) = "SELECT * FROM t" := by
    decide +kernel
  refine relation_of_known ?_
  rw [key]
  exact List.lookup_cons_self

theorem passed_orders : ∃ header rows, orders.output.Holds ordersFiles header rows ∧
    ordersExpected.columns.Perm header ∧ ordersExpected.columns.Pairwise (· < ·) ∧
    (TestResult.status (orders.run (m := Id) ordersMemory.execute ordersFiles ordersManifest
        ⟨.both, .none⟩) = .passed ↔
      ∀ cells, cells ∈ rowsOn ordersAnswer ordersExpected.columns ↔
        cells ∈ tableRows ordersExpected.columns header rows) :=
  passed_iff_same_rows (by decide +kernel) (by decide +kernel) (by decide +kernel)
    (by decide +kernel) (by decide +kernel) (fun _ _ => List.forall_mem_nil _)
    (by decide +kernel) relation_orders (by decide +kernel) (by decide +kernel)

end ModelBench
