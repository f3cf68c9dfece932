import ModelBench.Diagnostic

/-!
# Reports of test runs

A report holds the result of every test in the order of the run, and how many of them ended in which
way.
-/

namespace ModelBench

/-- The version of the report format. -/
structure ReportVersion where
  major : Nat
  minor : Nat
  deriving DecidableEq, Repr

/-- Which rows a difference is about. -/
inductive DiffDirection
  /-- Rows that the model produces and nobody expects. -/
  | queryMinusExpected
  /-- Rows that are expected and the model does not produce. -/
  | expectedMinusQuery
  deriving DecidableEq, Repr

/-- One row too many or missing: columns and rendered values. -/
structure RowDiff where
  direction : DiffDirection
  fields : List (String × String)
  deriving DecidableEq, Repr

/-- How a test ended. -/
inductive TestStatus
  | passed
  | failed
  | errored
  | skipped
  deriving DecidableEq, Repr

/-- The result of one test. -/
structure TestResult where
  name : String
  model : String
  status : TestStatus
  diffs : List RowDiff
  diagnostics : List Diagnostic
  deriving DecidableEq, Repr

/-- How many tests ended in which way. -/
structure ReportSummary where
  total : Nat
  passed : Nat
  failed : Nat
  errored : Nat
  skipped : Nat
  deriving DecidableEq, Repr

/-- The report of a run. -/
structure Report where
  version : ReportVersion
  timestamp : String
  summary : ReportSummary
  results : List TestResult
  metadata : Option Json

/-- The version that this library writes. -/
def ReportVersion.current : ReportVersion := ⟨1, 0⟩

/-- The text of a version. -/
def ReportVersion.render (v : ReportVersion) : String := s!"{v.major}.{v.minor}"

namespace DiffDirection

/-- Both directions, in the order in which they are checked. -/
def all : List DiffDirection := [.queryMinusExpected, .expectedMinusQuery]

/-- The name of a direction. -/
def name : DiffDirection → String
  | .queryMinusExpected => "QueryMinusExpected"
  | .expectedMinusQuery => "ExpectedMinusQuery"

/-- The direction of a name. -/
def ofName? (name : String) : Option DiffDirection := all.find? fun d => d.name == name

end DiffDirection

namespace TestStatus

/-- Every status. -/
def all : List TestStatus := [.passed, .failed, .errored, .skipped]

/-- The name of a status. -/
def name : TestStatus → String
  | .passed => "passed"
  | .failed => "failed"
  | .errored => "errored"
  | .skipped => "skipped"

/-- The status of a name. -/
def ofName? (name : String) : Option TestStatus := all.find? fun s => s.name == name

end TestStatus

namespace TestResult

/-- The result of a test whose halves returned no rows. -/
def passed (name model : String) : TestResult :=
  { name, model, status := .passed, diffs := [], diagnostics := [] }

/-- The result of a test with rows too many or missing. -/
def failed (name model : String) (diffs : List RowDiff) : TestResult :=
  { name, model, status := .failed, diffs, diagnostics := [] }

/-- The result of a test that could not be generated or executed. -/
def errored (name model : String) (diagnostic : Diagnostic) : TestResult :=
  { name, model, status := .errored, diffs := [], diagnostics := [diagnostic] }

/-- The result of a test that is left out. -/
def skipped (name model : String) : TestResult :=
  { name, model, status := .skipped, diffs := [], diagnostics := [] }

/-- The result with one more diagnostic; the status stays. -/
def withDiagnostic (r : TestResult) (d : Diagnostic) : TestResult :=
  { r with diagnostics := r.diagnostics ++ [d] }

/-- The rows that nobody expects. -/
def extraRows (r : TestResult) : List RowDiff :=
  r.diffs.filter fun d => d.direction = .queryMinusExpected

/-- The rows that the model does not produce. -/
def missingRows (r : TestResult) : List RowDiff :=
  r.diffs.filter fun d => d.direction = .expectedMinusQuery

end TestResult

/-- The summary of a run without tests. -/
def ReportSummary.empty : ReportSummary := ⟨0, 0, 0, 0, 0⟩

/-- The summary with one more test. -/
def ReportSummary.count (s : ReportSummary) (status : TestStatus) : ReportSummary :=
  let s := { s with total := s.total + 1 }
  match status with
  | .passed => { s with passed := s.passed + 1 }
  | .failed => { s with failed := s.failed + 1 }
  | .errored => { s with errored := s.errored + 1 }
  | .skipped => { s with skipped := s.skipped + 1 }

namespace Report

/-- The report of a run that has not begun. -/
def empty (timestamp : String) : Report :=
  { version := .current, timestamp, summary := .empty, results := [], metadata := none }

/-- The report with one more result. -/
def add (r : Report) (result : TestResult) : Report :=
  { r with summary := r.summary.count result.status, results := r.results ++ [result] }

/-- The report of some results. -/
def ofResults (timestamp : String) (results : List TestResult) : Report :=
  results.foldl add (empty timestamp)

/-- The diagnostics of all tests. -/
def diagnostics (r : Report) : List Diagnostic := r.results.flatMap TestResult.diagnostics

/-- Whether a test failed or errored, or a blocking problem was found. -/
def hasFailures (r : Report) : Bool :=
  0 < r.summary.failed || 0 < r.summary.errored ||
    r.diagnostics.any fun d => d.severity == .error

end Report

end ModelBench
