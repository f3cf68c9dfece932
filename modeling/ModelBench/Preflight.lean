import ModelBench.Manifest.Graph
import ModelBench.TestSpec

/-!
# Checking tests without generating them

A test is checked against the dependencies of its model: every problem is listed, not only the first
one. Files have to exist and are not read.
-/

namespace ModelBench

namespace TestSpec

/-- A problem of a test with a node. -/
def problem (spec : TestSpec) (code : DiagnosticCode) (message node : String) : Diagnostic :=
  ((Diagnostic.ofCode code message).withTest spec.name).withNode node

/-- The problem of a test whose model is no model. -/
def modelProblem (m : Manifest) (spec : TestSpec) : Option Diagnostic :=
  match m.kindOf spec.model with
  | some kind =>
    if kind.isCompiled then none
    else
      some (spec.problem .unknownNode s!"{spec.model} is a source, not a model or seed" spec.model)
  | none => some (spec.problem .unknownNode s!"Model {spec.model} not found in manifest" spec.model)

/-- The problem of a file that does not exist, `node` being the id it is to stand for. -/
def fileProblem (files : Volume) (spec : TestSpec) (node : Option String) (mock : Mock) :
    Option Diagnostic :=
  if files.holds mock.filepath then none
  else
    let message := s!"Mock file not found: {mock.filepath}"
    let found := (Diagnostic.ofCode .mockFileError message).withTest spec.name
    some { found.withFile mock.filepath with node }

/-- The ids that are mocked. -/
def mocked (spec : TestSpec) : List String := spec.mocks.map Prod.fst

/-- The problems with files: of the mocks in ascending order of their ids, then of the output. -/
def fileProblems (files : Volume) (spec : TestSpec) : List Diagnostic :=
  ((Text.ascending spec.mocked).filterMap fun id => do
    fileProblem files spec (some id) (← spec.mocks.lookup id)) ++
  (fileProblem files spec none spec.output).toList

/-- The problems with what the model depends on. -/
def dependencyProblems (g : DependencyGraph) (spec : TestSpec) : List Diagnostic :=
  (g.unmockedLeaves spec.model spec.mocked).map
    (fun id =>
      spec.problem .unmockedLeaf s!"{id} is reachable from {spec.model} but not mocked" id) ++
  (g.uncompiledNodes spec.model spec.mocked).map
    fun id => spec.problem .emptyCompiledSql s!"{id} has no compiled SQL and is not mocked" id

/-- All problems of a test that can be told without reading a file. -/
def problems (files : Volume) (m : Manifest) (spec : TestSpec) : List Diagnostic :=
  match spec.modelProblem m with
  | some d => [d]
  | none => spec.dependencyProblems (.ofManifest m) ++ spec.fileProblems files

end TestSpec

end ModelBench
