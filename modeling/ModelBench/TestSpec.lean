import ModelBench.Diagnostic
import ModelBench.Mock.Encoding
import ModelBench.Text.Blank

/-!
# Test specifications

A test names a model, mocks for some of what the model reads, and the output that is expected. Tests
are read from single files or from all files of a folder.
-/

namespace ModelBench

/-- One test of a model. -/
structure TestSpec where
  name : String
  /-- The id of the model under test. -/
  model : String
  /-- The mocks under the ids they stand for. -/
  mocks : List (String × Mock)
  /-- The rows the model has to produce. -/
  output : Mock
  deriving DecidableEq, Repr

/-- Why a specification could not be loaded. -/
inductive SpecError
  | unreadable (path reason : String)
  | malformed (path reason : String)
  | invalid (reason : String)
  deriving DecidableEq, Repr

/-- The text of an error. -/
def SpecError.message : SpecError → String
  | .unreadable path reason => s!"Failed to read test spec {path}: {reason}"
  | .malformed path reason => s!"Failed to parse test spec {path}: {reason}"
  | .invalid reason => s!"Invalid test spec: {reason}"

/-- The error of a specification that was read from a file. -/
def SpecError.inFile (path : String) : SpecError → SpecError
  | .malformed _ reason => .malformed path reason
  | .invalid reason => .invalid s!"{reason} ({path})"
  | other => other

/-! ## Paths from a base folder -/

/-- The mock with its file looked for from a base folder. -/
def Mock.rebase (base : String) (mock : Mock) : Mock :=
  { mock with filepath := Path.join base mock.filepath }

/-- The test with all files looked for from a base folder. -/
def TestSpec.rebase (base : String) (spec : TestSpec) : TestSpec :=
  { spec with
    mocks := spec.mocks.map fun (id, mock) => (id, mock.rebase base)
    output := spec.output.rebase base }

/-! ## Reading and writing -/

/-- What a document that holds a mock looks like. -/
def Mock.shape : Json.Shape :=
  .record "Mock"
    (.cons "filepath" (.text "path string") .required <|
    .cons "types" (.dictionary (.text "a string")) (.default (.object [])) .nil)

/-- The mock of a value of this shape. -/
def Mock.ofJson (j : Json) : Mock :=
  { filepath := (j.field "filepath").toText
    types := (j.field "types").members.map fun (column, type) => (column, type.toText) }

/-- The mock as a JSON object. -/
def Mock.toJson (mock : Mock) : Json :=
  .object [("filepath", .string mock.filepath),
    ("types", .object (mock.types.map fun (column, type) => (column, .string type)))]

namespace TestSpec

/-- What a document that holds a test looks like. -/
def shape : Json.Shape :=
  .record "TestSpec"
    (.cons "name" (.text "a string") .required <|
    .cons "model" (.text "a string") .required <|
    .cons "mocks" (.dictionary Mock.shape) (.default (.object [])) <|
    .cons "output" Mock.shape .required .nil)

/-- The test of a value of this shape. -/
def ofJson (j : Json) : TestSpec :=
  { name := (j.field "name").toText
    model := (j.field "model").toText
    mocks := (j.field "mocks").members.map fun (id, mock) => (id, Mock.ofJson mock)
    output := Mock.ofJson (j.field "output") }

/-- The test as a JSON object. -/
def toJson (spec : TestSpec) : Json :=
  .object [("name", .string spec.name), ("model", .string spec.model),
    ("mocks", .object (spec.mocks.map fun (id, mock) => (id, mock.toJson))),
    ("output", spec.output.toJson)]

/-- The test itself if it has a name and names a model. -/
def check (spec : TestSpec) : Except SpecError TestSpec :=
  if Text.isBlankString spec.name then .error (.invalid "test name is empty")
  else if Text.isBlankString spec.model then
    .error (.invalid s!"test '{spec.name}' does not name a model")
  else .ok spec

/-- The test of a text. The reason of an error does not tell the line and column of the problem. -/
def parse (text : String) : Except SpecError TestSpec :=
  match shape.parse text with
  | .ok j => check (ofJson j)
  | .error e => .error (.malformed "" e.message)

/-- The test in a file. -/
def load (files : Volume) (path : String) : Except SpecError TestSpec :=
  match files.readText path with
  | .ok text => (parse text).mapError (SpecError.inFile path)
  | .error fault => .error (.unreadable path fault.message)

/-! ## Folders of tests -/

/-- Whether an entry of a folder is a test: a file with the right extension. -/
def isSpecEntry : String × FileNode → Bool
  | (name, .file _) => Path.extension name == some "json"
  | (_, .folder) => false

/-- The paths of all tests directly inside a folder, in ascending order of the names. A file has
nothing inside. -/
def paths (files : Volume) (folder : String) : Except SpecError (List String) := do
  let found : Except FileError (List String) := do
    match ← files.find folder with
    | .file _ => return []
    | .folder =>
      let entries := files.children (← files.locate folder)
      return (entries.filter isSpecEntry).map fun entry => Path.join folder entry.1
  match found with
  | .ok paths => return paths
  | .error fault =>
    throw (.unreadable folder s!"IO error for operation on {folder}: {fault.message}")

/-- All tests directly inside a folder. The first one that cannot be loaded is an error for all. -/
def loadFolder (files : Volume) (folder : String) : Except SpecError (List TestSpec) := do
  (← paths files folder).mapM (load files)

end TestSpec

end ModelBench
