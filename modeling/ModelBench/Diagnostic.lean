import ModelBench.Json.Shape

/-!
# Diagnostics

What went wrong with a test, under a stable code. A code has a severity of its own: only a skipped
test is a warning.
-/

namespace ModelBench

/-- The kinds of problems. -/
inductive DiagnosticCode
  | manifestReadError
  | testReadError
  | unmockedLeaf
  | emptyCompiledSql
  | cyclicDependency
  | unknownNode
  | mockFileError
  | missingRelationName
  | assertionMismatch
  | executionError
  | testSkipped
  deriving DecidableEq, Repr

/-- How serious a problem is. -/
inductive Severity
  | warn
  | error
  deriving DecidableEq, Repr

namespace DiagnosticCode

/-- Every code, in the order of its declaration. -/
def all : List DiagnosticCode :=
  [.manifestReadError, .testReadError, .unmockedLeaf, .emptyCompiledSql, .cyclicDependency,
    .unknownNode, .mockFileError, .missingRelationName, .assertionMismatch, .executionError,
    .testSkipped]

/-- The stable name of a code. -/
def name : DiagnosticCode → String
  | .manifestReadError => "MANIFEST_READ_ERROR"
  | .testReadError => "TEST_READ_ERROR"
  | .unmockedLeaf => "UNMOCKED_LEAF"
  | .emptyCompiledSql => "EMPTY_COMPILED_SQL"
  | .cyclicDependency => "CYCLIC_DEPENDENCY"
  | .unknownNode => "UNKNOWN_NODE"
  | .mockFileError => "MOCK_FILE_ERROR"
  | .missingRelationName => "MISSING_RELATION_NAME"
  | .assertionMismatch => "ASSERTION_MISMATCH"
  | .executionError => "EXECUTION_ERROR"
  | .testSkipped => "TEST_SKIPPED"

/-- The code of a name. -/
def ofName? (name : String) : Option DiagnosticCode := all.find? fun code => code.name == name

/-- The severity of a code. -/
def severity : DiagnosticCode → Severity
  | .testSkipped => .warn
  | _ => .error

/-- The code that a JSON value stands for: its name, or an object with the name for its only key and
null. -/
def ofJson (j : Json) : Except Json.ReadError DiagnosticCode := do
  let known (name : String) : Except Json.ReadError DiagnosticCode :=
    match ofName? name with
    | some code => .ok code
    | none => .error (.unknownVariant name (all.map DiagnosticCode.name))
  match j with
  | .string name => known name
  | .object [(name, value)] =>
    let code ← known name
    match value with
    | .null => return code
    | value => throw (.unexpected (Json.Found.ofJson value) "unit")
  | .object _ => throw (.invalidValue .map "map with a single key")
  | other => throw (.unexpected (Json.Found.ofJson other) "string or map")

end DiagnosticCode

namespace Severity

/-- Every severity, the milder one first. -/
def all : List Severity := [.warn, .error]

/-- The name of a severity. -/
def name : Severity → String
  | .warn => "warn"
  | .error => "error"

/-- The severity of a name. -/
def ofName? (name : String) : Option Severity := all.find? fun s => s.name == name

/-- Whether a problem of this severity stops a run from counting as successful. -/
def isBlocking : Severity → Bool
  | .warn => false
  | .error => true

end Severity

/-- A problem, and what it is about. -/
structure Diagnostic where
  code : DiagnosticCode
  severity : Severity
  message : String
  test : Option String
  node : Option String
  file : Option String
  deriving DecidableEq, Repr

namespace Diagnostic

/-- The diagnostic of a code, with the severity of the code. -/
def ofCode (code : DiagnosticCode) (message : String) : Diagnostic :=
  { code, severity := code.severity, message, test := none, node := none, file := none }

/-- The diagnostic, about a test. -/
def withTest (d : Diagnostic) (test : String) : Diagnostic := { d with test := some test }

/-- The diagnostic, about a node or source. -/
def withNode (d : Diagnostic) (node : String) : Diagnostic := { d with node := some node }

/-- The diagnostic, about a file. -/
def withFile (d : Diagnostic) (file : String) : Diagnostic := { d with file := some file }

/-! ## As JSON -/

/-- A member that is left out when there is no value. -/
def optionalMember (name : String) : Option String → List (String × Json)
  | some value => [(name, .string value)]
  | none => []

/-- The diagnostic as a JSON object. -/
def toJson (d : Diagnostic) : Json :=
  .object ([("code", .string d.code.name), ("severity", .string d.severity.name),
    ("message", .string d.message)] ++ optionalMember "test" d.test ++
    optionalMember "node" d.node ++ optionalMember "file" d.file)

/-- What a document that holds a diagnostic looks like. -/
def shape : Json.Shape :=
  let text : Json.Shape := .text "a string"
  .record "Diagnostic"
    (.cons "code" (.choice (DiagnosticCode.all.map DiagnosticCode.name)) .required <|
    .cons "severity" (.choice (Severity.all.map Severity.name)) .required <|
    .cons "message" text .required <|
    .cons "test" (.optional text) .omitted <|
    .cons "node" (.optional text) .omitted <|
    .cons "file" (.optional text) .omitted .nil)

/-- The diagnostic of a value of this shape. -/
def ofJson (j : Json) : Diagnostic :=
  { code := (DiagnosticCode.ofName? (j.field "code").toText).getD .testSkipped
    severity := (Severity.ofName? (j.field "severity").toText).getD .error
    message := (j.field "message").toText
    test := (j.field "test").toText?
    node := (j.field "node").toText?
    file := (j.field "file").toText? }

end Diagnostic

end ModelBench
