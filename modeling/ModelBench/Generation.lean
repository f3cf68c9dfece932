import ModelBench.Assertion
import ModelBench.Resolution
import ModelBench.TestSpec

/-!
# Generating the statements of a test

The model of a test is resolved against its mocks, and the assertions are built around the statement
that this gives. A test that cannot be generated gives no statement at all.
-/

namespace ModelBench

/-- The statements of a test. -/
structure GeneratedTest where
  name : String
  model : String
  queries : AssertionQueries
  deriving DecidableEq, Repr

/-- Why a test could not be generated. -/
inductive GenerateError
  | resolve (error : ResolveError)
  /-- The expected output is no mock. -/
  | expected (error : MockError)
  deriving DecidableEq, Repr

namespace GenerateError

/-- The text of an error. -/
def message : GenerateError → String
  | .resolve error => error.message
  | .expected error => s!"Expected output: {error.message}"

/-- The code of an error. -/
def code : GenerateError → DiagnosticCode
  | .resolve error => error.code
  | .expected _ => .mockFileError

/-- The id that an error is about. -/
def node? : GenerateError → Option String
  | .resolve error => some error.id
  | .expected _ => none

/-- The file that an error is about. -/
def file? : GenerateError → Option String
  | .resolve (.mock _ error) => some error.path
  | .resolve _ => none
  | .expected error => some error.path

/-- The diagnostic of a test that could not be generated. -/
def diagnostic (test : String) (e : GenerateError) : Diagnostic :=
  { (Diagnostic.ofCode e.code e.message).withTest test with node := e.node?, file := e.file? }

end GenerateError

/-- Resolves the nodes of a manifest against the mocks of a test. -/
def TestSpec.resolver (files : Volume) (m : Manifest) (spec : TestSpec) : Resolver :=
  { manifest := m, mocks := spec.mocks, files, substituter := Sql.substitute }

/-- The statement of the model under test, with the mocks in it. -/
def TestSpec.modelSql (files : Volume) (m : Manifest) (spec : TestSpec) :
    Except GenerateError String :=
  match (spec.resolver files m).resolve spec.model with
  | .ok replacement => .ok replacement.sql
  | .error e => .error (.resolve e)

/-- The statements of a test. -/
def TestSpec.generate (files : Volume) (m : Manifest) (spec : TestSpec)
    (direction : AssertionDirection) : Except GenerateError GeneratedTest := do
  let sql ← spec.modelSql files m
  match AssertionQueries.ofMock files sql spec.output direction with
  | .ok queries => return { name := spec.name, model := spec.model, queries }
  | .error e => throw (.expected e)

/-- The names of the files for the statements of a test, and the statements. -/
def GeneratedTest.files (t : GeneratedTest) : List (String × String) :=
  if t.queries.isBidirectional then
    t.queries.halves.map fun (direction, sql) => (s!"{t.name}_{direction.name}.sql", sql)
  else [(s!"{t.name}.sql", t.queries.queryMinusExpected)]

end ModelBench
