import ModelBench.Assertion
import ModelBench.Filter
import ModelBench.Toml.Reader

/-!
# Configurations

Where the manifest, the tests and the generated statements are, what tests ask for, which of them
are skipped, and which database they run on. Relative paths start at the root of the project.
-/

namespace ModelBench

/-- The database that tests run on. -/
structure Engine where
  kind : String
  settings : List (String × String)
  deriving DecidableEq, Repr

/-- A configuration. -/
structure Config where
  manifest : String
  tests : String
  output : String
  direction : AssertionDirection
  filter : Filter
  engine : Option Engine
  root : String
  deriving DecidableEq, Repr

/-- Why a configuration could not be loaded. -/
inductive ConfigError
  | unreadable (reason : String)
  | malformed
  deriving DecidableEq, Repr

/-- The text of an error. -/
def ConfigError.message : ConfigError → String
  | .unreadable reason => s!"IO error: {reason}"
  | .malformed => "Parse error: TOML parse error"

namespace Config

/-- The configuration of a project without one. -/
def default (root : String) : Config :=
  { manifest := "target/manifest.json", tests := "unit_tests", output := "tests", direction := .both
    filter := .none, engine := none, root }

/-- A path of the configuration, from the root of the project. -/
def resolvePath (c : Config) (path : String) : String :=
  if c.root.isEmpty then path else Path.join c.root path

/-! ## Reading -/

/-- The text of a value. -/
def textOf : Toml → Option String
  | .string s => some s
  | _ => none

/-- The texts of an array. -/
def textsOf : Toml → Option (List String)
  | .array items => items.mapM textOf
  | .tables [] => some []
  | _ => none

/-- Whether a value is there without any content. -/
def isHollow : Toml → Bool
  | .array items => items.isEmpty
  | .tables items => items.isEmpty
  | .table _ entries => entries.isEmpty
  | _ => false

/-- The direction of a value: a name, or a name as the only key of a table. -/
def directionOf : Toml → Option AssertionDirection
  | .string name => AssertionDirection.ofName? name
  | .table _ [(name, value)] => if isHollow value then AssertionDirection.ofName? name else none
  | _ => none

/-- The value of a section that has one field: a table with the field, or an array with it in the
first place. A field that is absent has its default. -/
def sectionOf {α : Type} (field : String) (absent : α) (read : Toml → Option α) : Toml → Option α
  | .table _ entries => ((entries.lookup field).map read).getD (some absent)
  | .array items => (items.head?.map read).getD (some absent)
  | .tables items => ((items.head?.map (Toml.table .header)).map read).getD (some absent)
  | _ => none

/-- The database of a value: a table of texts, one of them the kind. -/
def engineOf : Toml → Option Engine
  | .table _ entries => do
    let texts ← entries.mapM fun (key, value) => do return (key, ← textOf value)
    let kind ← texts.lookup "type"
    return { kind, settings := texts.filter fun entry => entry.1 ≠ "type" }
  | _ => none

/-- The value of an entry, or its default if the entry is absent. -/
def entryOf {α : Type} (entries : Toml.Entries) (key : String) (absent : α)
    (read : Toml → Option α) : Option α :=
  match entries.lookup key with
  | some value => read value
  | none => some absent

/-- The configuration of a document. -/
def ofEntries (root : String) (entries : Toml.Entries) : Option Config := do
  let usual := default root
  return {
    manifest := ← entryOf entries "manifest" usual.manifest textOf
    tests := ← entryOf entries "tests" usual.tests textOf
    output := ← entryOf entries "output" usual.output textOf
    direction := ← entryOf entries "assertion" usual.direction
      (sectionOf "direction" .both directionOf)
    filter := ← entryOf entries "filter" usual.filter
      fun value => (sectionOf "skip" [] textsOf value).map Filter.mk
    engine := ← entryOf entries "executor" none fun value => (engineOf value).map some
    root }

/-- The configuration of a text. -/
def parse (root text : String) : Except ConfigError Config :=
  match (Toml.parse text).bind (ofEntries root) with
  | some c => .ok c
  | none => .error .malformed

/-- The configuration in a file, whose folder is the root of the project. -/
def load (files : Volume) (root path : String) : Except ConfigError Config :=
  match files.readText path with
  | .ok text => (parse root text).map fun c => { c with root := (Path.parent path).getD c.root }
  | .error fault => .error (.unreadable fault.message)

/-! ## Writing -/

/-- The database as a JSON object. -/
def engineToJson (e : Engine) : Json :=
  .object (("type", .string e.kind) :: e.settings.map fun (key, value) => (key, .string value))

/-- The configuration as a JSON object. -/
def toJson (c : Config) : Json :=
  .object [("manifest", .string c.manifest), ("tests", .string c.tests),
    ("output", .string c.output), ("assertion", .object [("direction", .string c.direction.name)]),
    ("filter", .object [("skip", .ofTexts c.filter.skip)]),
    ("executor", (c.engine.map engineToJson).getD .null)]

end Config

end ModelBench
