import ModelBench.Text.Blank
import ModelBench.Text.Split

/-!
# Manifests

A manifest lists the nodes of a project with their compiled statements, and the sources they read.
What an entry is follows from its id, and an id stands for a node before it stands for a source.
-/

namespace ModelBench

/-- What an entry of a manifest is. -/
inductive NodeKind
  /-- A statement that others read from. -/
  | model
  /-- A table of constants, whose statement may be missing. -/
  | seed
  /-- Anything that has no statement and has to be mocked. -/
  | source
  deriving DecidableEq, Repr

namespace NodeKind

/-- The name of a kind. -/
def name : NodeKind → String
  | .model => "model"
  | .seed => "seed"
  | .source => "source"

/-- The kind that an id tells by its first segment. -/
def ofId (id : String) : NodeKind :=
  match (Text.splitAt '.' id.toList).head?.map String.ofList with
  | some "model" => .model
  | some "seed" => .seed
  | _ => .source

/-- Whether entries of this kind have a statement that can be resolved. -/
def isCompiled : NodeKind → Bool
  | .source => false
  | _ => true

end NodeKind

namespace Manifest

/-- What a manifest says about itself. -/
structure Metadata where
  schemaVersion : String
  toolVersion : String
  generatedAt : String
  invocationId : Option String
  deriving DecidableEq, Repr

/-- A node of a project. -/
structure Node where
  uniqueId : String
  name : String
  resourceType : String
  database : String
  schema : String
  /-- The name that statements give to the node where they give none of their own. -/
  shortName : String
  compiledCode : String
  /-- The ids of the nodes and sources that the statement reads. -/
  dependsOn : List String
  qualifiedName : List String
  deriving DecidableEq, Repr

/-- A source of a project. -/
structure Source where
  uniqueId : String
  name : String
  qualifiedName : List String
  /-- The name as it stands in compiled statements. -/
  relationName : String
  deriving DecidableEq, Repr

/-- How statements name an entry. -/
structure Relation where
  fullName : String
  shortName : String
  deriving DecidableEq, Repr

/-- The full name of a node: three parts in backticks. -/
def Node.fullName (node : Node) : String :=
  s!"`{node.database}`.`{node.schema}`.`{node.name}`"

/-- Whether a node has a statement. -/
def Node.hasSql (node : Node) : Bool := !Text.isBlankString node.compiledCode

/-- How statements name a node. -/
def Node.relation (node : Node) : Relation := ⟨node.fullName, node.shortName⟩

/-- How statements name a source. -/
def Source.relation (source : Source) : Relation := ⟨source.relationName, source.name⟩

end Manifest

/-- The nodes and sources of a project, under their ids. -/
structure Manifest where
  metadata : Option Manifest.Metadata
  nodes : List (String × Manifest.Node)
  sources : List (String × Manifest.Source)
  deriving DecidableEq, Repr

namespace Manifest

/-- The node of an id. -/
def node? (m : Manifest) (id : String) : Option Node := m.nodes.lookup id

/-- The source of an id. -/
def source? (m : Manifest) (id : String) : Option Source := m.sources.lookup id

/-- The kind of an id; none for one that is in no list. -/
def kindOf (m : Manifest) (id : String) : Option NodeKind :=
  if (m.node? id).isSome then some (.ofId id)
  else if (m.source? id).isSome then some .source
  else none

/-- How statements name an id; none for one that is in no list. -/
def relation (m : Manifest) (id : String) : Option Relation :=
  match m.node? id with
  | some node => some node.relation
  | none => (m.source? id).map Source.relation

end Manifest

end ModelBench
