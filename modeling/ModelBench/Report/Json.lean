import ModelBench.Report.Basic

/-!
# Reports as JSON

`Report.render` writes a report and `Report.parse` reads one.
-/

namespace ModelBench

/-- A shape for texts. -/
def Json.Shape.string : Json.Shape := .text "a string"

/-! ## Writing -/

/-- The version as a JSON object. -/
def ReportVersion.toJson (v : ReportVersion) : Json :=
  .object [("major", .ofNat v.major), ("minor", .ofNat v.minor)]

/-- The summary as a JSON object. -/
def ReportSummary.toJson (s : ReportSummary) : Json :=
  .object [("total", .ofNat s.total), ("passed", .ofNat s.passed), ("failed", .ofNat s.failed),
    ("errored", .ofNat s.errored), ("skipped", .ofNat s.skipped)]

/-- The row as a JSON object: its fields are pairs of texts. -/
def RowDiff.toJson (d : RowDiff) : Json :=
  .object [("direction", .string d.direction.name),
    ("fields", .array (d.fields.map fun (column, value) => .array [.string column, .string value]))]

/-- The result as a JSON object. -/
def TestResult.toJson (r : TestResult) : Json :=
  .object [("name", .string r.name), ("model", .string r.model), ("status", .string r.status.name),
    ("diffs", .array (r.diffs.map RowDiff.toJson)),
    ("diagnostics", .array (r.diagnostics.map Diagnostic.toJson))]

/-- The report as a JSON object; metadata is left out when there is none. -/
def Report.toJson (r : Report) : Json :=
  .object ([("version", r.version.toJson), ("timestamp", .string r.timestamp),
    ("summary", r.summary.toJson), ("results", .array (r.results.map TestResult.toJson))] ++
    match r.metadata with
    | some value => [("metadata", value)]
    | none => [])

/-- The text of a report. -/
def Report.render (r : Report) : String := r.toJson.renderIndented

/-! ## Reading -/

/-- What a document that holds a version looks like. -/
def ReportVersion.shape : Json.Shape :=
  let number : Json.Shape := .count (Nat.pow 2 32 - 1) "u32"
  .record "ReportVersion" (.cons "major" number .required <| .cons "minor" number .required .nil)

/-- The version of a value of this shape. -/
def ReportVersion.ofJson (j : Json) : ReportVersion :=
  ⟨(j.field "major").toNat, (j.field "minor").toNat⟩

/-- What a document that holds a summary looks like. -/
def ReportSummary.shape : Json.Shape :=
  let number : Json.Shape := .count (Nat.pow 2 64 - 1) "usize"
  .record "ReportSummary"
    (.cons "total" number .required <| .cons "passed" number .required <|
    .cons "failed" number .required <| .cons "errored" number .required <|
    .cons "skipped" number .required .nil)

/-- The summary of a value of this shape. -/
def ReportSummary.ofJson (j : Json) : ReportSummary :=
  ⟨(j.field "total").toNat, (j.field "passed").toNat, (j.field "failed").toNat,
    (j.field "errored").toNat, (j.field "skipped").toNat⟩

/-- What a document that holds a row looks like. -/
def RowDiff.shape : Json.Shape :=
  .record "RowDiff"
    (.cons "direction" (.choice (DiffDirection.all.map DiffDirection.name)) .required <|
    .cons "fields" (.list (.pair .string .string)) .required .nil)

/-- The pair of texts of a value. -/
def fieldOfJson : Json → String × String
  | .array [column, value] => (column.toText, value.toText)
  | _ => ("", "")

/-- The row of a value of this shape. -/
def RowDiff.ofJson (j : Json) : RowDiff :=
  { direction := (DiffDirection.ofName? (j.field "direction").toText).getD .queryMinusExpected
    fields := (j.field "fields").items.map fieldOfJson }

/-- What a document that holds a result looks like. -/
def TestResult.shape : Json.Shape :=
  .record "TestResult"
    (.cons "name" .string .required <| .cons "model" .string .required <|
    .cons "status" (.choice (TestStatus.all.map TestStatus.name)) .required <|
    .cons "diffs" (.list RowDiff.shape) (.default (.array [])) <|
    .cons "diagnostics" (.list Diagnostic.shape) (.default (.array [])) .nil)

/-- The result of a value of this shape. -/
def TestResult.ofJson (j : Json) : TestResult :=
  { name := (j.field "name").toText
    model := (j.field "model").toText
    status := (TestStatus.ofName? (j.field "status").toText).getD .passed
    diffs := (j.field "diffs").items.map RowDiff.ofJson
    diagnostics := (j.field "diagnostics").items.map Diagnostic.ofJson }

/-- What a document that holds a report looks like. -/
def Report.shape : Json.Shape :=
  .record "Report"
    (.cons "version" ReportVersion.shape .required <| .cons "timestamp" .string .required <|
    .cons "summary" ReportSummary.shape .required <|
    .cons "results" (.list TestResult.shape) .required <|
    .cons "metadata" (.optional .anything) .omitted .nil)

/-- The report of a value of this shape. -/
def Report.ofJson (j : Json) : Report :=
  { version := .ofJson (j.field "version")
    timestamp := (j.field "timestamp").toText
    summary := .ofJson (j.field "summary")
    results := (j.field "results").items.map TestResult.ofJson
    metadata :=
      match j.field "metadata" with
      | .null => none
      | value => some value }

/-- The report of a text. -/
def Report.parse (text : String) : Except Json.ReadError Report :=
  (Report.shape.parse text).map Report.ofJson

end ModelBench
