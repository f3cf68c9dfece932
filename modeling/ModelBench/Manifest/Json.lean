import ModelBench.Diagnostic
import ModelBench.Files.Volume
import ModelBench.Manifest.Basic

/-!
# Manifests as JSON

A manifest is read from a document of many fields, most of which do not matter here. Absent fields
are empty, and so are texts that are null.
-/

namespace ModelBench

/-- Why a manifest could not be loaded. -/
inductive ManifestError
  | unreadable (path reason : String)
  | malformed (reason : String)
  deriving DecidableEq, Repr

/-- The text of an error. -/
def ManifestError.message : ManifestError → String
  | .unreadable path reason => s!"Failed to read manifest file {path}: {reason}"
  | .malformed reason => s!"Failed to parse manifest JSON: {reason}"

namespace Manifest

open Json (Shape)

/-! ## Reading -/

/-- A shape for texts that may be null. -/
def nullableText : Shape := .optional (.text "a string")

/-- A shape for lists of texts. -/
def textList : Shape := .list (.text "a string")

/-- What a document that holds metadata looks like. -/
def Metadata.shape : Shape :=
  let text : Shape := .text "a string"
  .record "ManifestMetadata"
    (.cons "dbt_schema_version" text (.default (.string "")) <|
    .cons "dbt_version" text (.default (.string "")) <|
    .cons "generated_at" text (.default (.string "")) <|
    .cons "invocation_id" (.optional text) (.default .null) .nil)

/-- The metadata of a value of this shape. -/
def Metadata.ofJson (j : Json) : Metadata :=
  { schemaVersion := (j.field "dbt_schema_version").toText
    toolVersion := (j.field "dbt_version").toText
    generatedAt := (j.field "generated_at").toText
    invocationId := (j.field "invocation_id").toText? }

/-- The dependencies of a node that names none. -/
def noDependencies : Json := .object [("nodes", .array [])]

/-- What a document that holds a node looks like. -/
def Node.shape : Shape :=
  let dependencies : Shape :=
    .record "DependsOn" (.cons "nodes" textList (.default (.array [])) .nil)
  .record "ManifestNode"
    (.cons "unique_id" nullableText (.default .null) <|
    .cons "name" nullableText (.default .null) <|
    .cons "resource_type" nullableText (.default .null) <|
    .cons "database" nullableText (.default .null) <|
    .cons "schema" nullableText (.default .null) <|
    .cons "alias" nullableText (.default .null) <|
    .cons "compiled_code" nullableText (.default .null) <|
    .cons "depends_on" dependencies (.default noDependencies) <|
    .cons "fqn" textList (.default (.array [])) .nil)

/-- The node of a value of this shape. -/
def Node.ofJson (j : Json) : Node :=
  { uniqueId := (j.field "unique_id").toText
    name := (j.field "name").toText
    resourceType := (j.field "resource_type").toText
    database := (j.field "database").toText
    schema := (j.field "schema").toText
    shortName := (j.field "alias").toText
    compiledCode := (j.field "compiled_code").toText
    dependsOn := ((j.field "depends_on").field "nodes").items.map Json.toText
    qualifiedName := (j.field "fqn").items.map Json.toText }

/-- What a document that holds a source looks like. -/
def Source.shape : Shape :=
  .record "ManifestSource"
    (.cons "unique_id" nullableText (.default .null) <|
    .cons "name" nullableText (.default .null) <|
    .cons "fqn" textList (.default (.array [])) <|
    .cons "relation_name" nullableText (.default .null) .nil)

/-- The source of a value of this shape. -/
def Source.ofJson (j : Json) : Source :=
  { uniqueId := (j.field "unique_id").toText
    name := (j.field "name").toText
    qualifiedName := (j.field "fqn").items.map Json.toText
    relationName := (j.field "relation_name").toText }

/-- What a document that holds a manifest looks like. -/
def shape : Shape :=
  .record "Manifest"
    (.cons "metadata" (.optional Metadata.shape) (.default .null) <|
    .cons "nodes" (.dictionary Node.shape) (.default (.object [])) <|
    .cons "sources" (.dictionary Source.shape) (.default (.object [])) .nil)

/-- The manifest of a value of this shape. -/
def ofJson (j : Json) : Manifest :=
  { metadata :=
      match j.field "metadata" with
      | .null => none
      | metadata => some (Metadata.ofJson metadata)
    nodes := (j.field "nodes").members.map fun (id, node) => (id, Node.ofJson node)
    sources := (j.field "sources").members.map fun (id, source) => (id, Source.ofJson source) }

/-- The manifest of a text. The reason of an error does not tell the line and column of the
problem. -/
def parse (text : String) : Except ManifestError Manifest :=
  match shape.parse text with
  | .ok j => .ok (ofJson j)
  | .error e => .error (.malformed e.message)

/-- The manifest in a file. -/
def load (files : Volume) (path : String) : Except ManifestError Manifest :=
  match files.readText path with
  | .ok text => parse text
  | .error fault => .error (.unreadable path fault.message)

/-! ## Writing -/

/-- The text of an optional value, null when there is none. -/
def optionalText : Option String → Json
  | some text => .string text
  | none => .null

/-- Metadata as a JSON object. -/
def Metadata.toJson (m : Metadata) : Json :=
  .object [("dbt_schema_version", .string m.schemaVersion), ("dbt_version", .string m.toolVersion),
    ("generated_at", .string m.generatedAt), ("invocation_id", optionalText m.invocationId)]

/-- A node as a JSON object. -/
def Node.toJson (node : Node) : Json :=
  .object [("unique_id", .string node.uniqueId), ("name", .string node.name),
    ("resource_type", .string node.resourceType), ("database", .string node.database),
    ("schema", .string node.schema), ("alias", .string node.shortName),
    ("compiled_code", .string node.compiledCode),
    ("depends_on", .object [("nodes", .ofTexts node.dependsOn)]),
    ("fqn", .ofTexts node.qualifiedName)]

/-- A source as a JSON object. -/
def Source.toJson (source : Source) : Json :=
  .object [("unique_id", .string source.uniqueId), ("name", .string source.name),
    ("fqn", .ofTexts source.qualifiedName), ("relation_name", .string source.relationName)]

/-- The manifest as a JSON object. -/
def toJson (m : Manifest) : Json :=
  .object [("metadata", (m.metadata.map Metadata.toJson).getD .null),
    ("nodes", .object (m.nodes.map fun (id, node) => (id, node.toJson))),
    ("sources", .object (m.sources.map fun (id, source) => (id, source.toJson)))]

end Manifest

end ModelBench
