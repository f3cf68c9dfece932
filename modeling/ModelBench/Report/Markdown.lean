import ModelBench.Report.Basic

/-!
# Reports in Markdown

A summary, and for a run that failed the differences and problems of every test.
-/

namespace ModelBench

/-- The fields of a row on one line. -/
def RowDiff.render (d : RowDiff) : String :=
  String.intercalate ", " (d.fields.map fun (column, value) => s!"{column} : {value}")

namespace Report

/-- The lines before the results. -/
def markdownHead (r : Report) : String :=
  let s := r.summary
  "# dbtmock Test Report\n\n" ++
    s!"**Version:** {r.version.render}\n\n**Timestamp:** {r.timestamp}\n\n## Summary\n\n" ++
    s!"- Total tests: {s.total}\n- Passed: {s.passed}\n- Failed: {s.failed}\n" ++
    s!"- Errored: {s.errored}\n- Skipped: {s.skipped}\n\n"

/-- The line of a row that is too many or missing. -/
def markdownDiff (d : RowDiff) : String := s!"- **{d.direction.name}:** `{d.render}`\n"

/-- The lines of a problem. -/
def markdownDiagnostic (d : Diagnostic) : String :=
  s!"{d.code.name} - {d.message}\n\n" ++
    match d.node with
    | some node => s!"**Node:** `{node}`\n\n"
    | none => ""

/-- The lines of a test that failed or could not be run; none for any other. -/
def markdownResult (r : TestResult) : String :=
  match r.status with
  | .failed =>
    s!"### ❌ {r.name} (`{r.model}`)\n\n" ++ String.join (r.diffs.map markdownDiff) ++ "\n"
  | .errored => s!"### ⚠️ {r.name}\n\n" ++ String.join (r.diagnostics.map markdownDiagnostic)
  | .passed => ""
  | .skipped => ""

/-- The report in Markdown. -/
def markdown (r : Report) : String :=
  r.markdownHead ++
    if r.hasFailures then "## Failures\n\n" ++ String.join (r.results.map markdownResult)
    else "✅ **All tests passed!**\n"

end Report

end ModelBench
