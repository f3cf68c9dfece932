import ModelBench.Filter
import ModelBench.Generation
import ModelBench.Query.Result

/-!
# Running tests

The statements of a test are executed one after the other, and every row that comes back is a
difference. A test that fails never stops the run. The database is an operation of any monad.
-/

namespace ModelBench

/-- How tests are run. -/
structure RunOptions where
  direction : AssertionDirection
  filter : Filter
  deriving DecidableEq, Repr

/-- A database: it answers a statement. -/
abbrev Execute (m : Type → Type) := String → m (Except QueryError QueryResult)

/-- The rows of an answer as differences. -/
def QueryResult.diffs (r : QueryResult) (direction : DiffDirection) : List RowDiff :=
  r.records.map fun fields => { direction, fields }

/-! ## Diagnostics -/

/-- The diagnostic of a test that is left out. -/
def skippedDiagnostic (test : String) : Diagnostic :=
  (Diagnostic.ofCode .testSkipped "Skipped by filter rules").withTest test

/-- The diagnostic of a statement that could not be executed. -/
def executionDiagnostic (test : String) (half : DiffDirection) (e : QueryError) : Diagnostic :=
  (Diagnostic.ofCode .executionError s!"{half.name} query failed: {e.message}").withTest test

/-- The diagnostic of a test with differences. -/
def mismatchDiagnostic (test model : String) (diffs : List RowDiff) : Diagnostic :=
  let extra := (diffs.filter fun d => d.direction = .queryMinusExpected).length
  let missing := diffs.length - extra
  ((Diagnostic.ofCode .assertionMismatch s!"{extra} unexpected and {missing} missing rows").withTest
    test).withNode model

/-! ## Tests -/

section

variable {m : Type → Type} [Monad m]

/-- Executes statements in order up to the first that fails, and gives all differences. -/
def runHalves (execute : Execute m) :
    List (DiffDirection × String) → m (Except (DiffDirection × QueryError) (List RowDiff))
  | [] => pure (.ok [])
  | (direction, sql) :: rest => do
    match ← execute sql with
    | .error e => return .error (direction, e)
    | .ok result =>
      match ← runHalves execute rest with
      | .error e => return .error e
      | .ok diffs => return .ok (result.diffs direction ++ diffs)

/-- The result of a test whose statements were executed. -/
def TestSpec.verdict (spec : TestSpec) :
    Except (DiffDirection × QueryError) (List RowDiff) → TestResult
  | .error (half, e) => .errored spec.name spec.model (executionDiagnostic spec.name half e)
  | .ok [] => .passed spec.name spec.model
  | .ok diffs =>
    (TestResult.failed spec.name spec.model diffs).withDiagnostic
      (mismatchDiagnostic spec.name spec.model diffs)

/-- Runs a test. -/
def TestSpec.run (execute : Execute m) (files : Volume) (manifest : Manifest)
    (options : RunOptions) (spec : TestSpec) : m TestResult :=
  if options.filter.skips spec.name then
    return (TestResult.skipped spec.name spec.model).withDiagnostic (skippedDiagnostic spec.name)
  else
    match spec.generate files manifest options.direction with
    | .error e => return .errored spec.name spec.model (e.diagnostic spec.name)
    | .ok generated => do return spec.verdict (← runHalves execute generated.queries.halves)

/-- Runs tests one after the other. -/
def runResults (execute : Execute m) (files : Volume) (manifest : Manifest)
    (options : RunOptions) : List TestSpec → m (List TestResult)
  | [] => pure []
  | spec :: rest => do
    let result ← spec.run execute files manifest options
    return result :: (← runResults execute files manifest options rest)

/-- The report of a run. -/
def runAll (execute : Execute m) (files : Volume) (manifest : Manifest) (options : RunOptions)
    (timestamp : String) (specs : List TestSpec) : m Report := do
  return .ofResults timestamp (← runResults execute files manifest options specs)

end

end ModelBench
