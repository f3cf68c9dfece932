import ModelBench.Manifest.Basic
import ModelBench.Manifest.Unvisited
import ModelBench.Text.Ascending

/-!
# Dependencies

A graph over the entries of a manifest. Walking from a target goes through models and seeds, and
stops at everything that is mocked or has no statement of its own.
-/

namespace ModelBench

/-- What a graph knows about an id. -/
structure Vertex where
  kind : NodeKind
  /-- The ids that the statement reads. -/
  parents : List String
  /-- Whether this is a node that should have a statement and has none. -/
  lacksSql : Bool
  deriving DecidableEq, Repr

/-- The entries of a manifest and what they depend on. An id that is also a source is a source. -/
structure DependencyGraph where
  vertices : List (String × Vertex)
  deriving DecidableEq, Repr

namespace DependencyGraph

/-- The vertex of a node. -/
def vertexOfNode (m : Manifest) (id : String) (node : Manifest.Node) : Vertex :=
  { kind := if (m.source? id).isSome then .source else .ofId id
    parents := node.dependsOn
    lacksSql := (NodeKind.ofId id).isCompiled && !node.hasSql }

/-- The vertex of a source that is no node. -/
def vertexOfSource : Vertex := ⟨.source, [], false⟩

/-- The graph of a manifest. -/
def ofManifest (m : Manifest) : DependencyGraph :=
  ⟨(m.nodes.map fun (id, node) => (id, vertexOfNode m id node)) ++
    m.sources.map fun (id, _) => (id, vertexOfSource)⟩

/-- What the graph knows about an id. -/
def vertex? (g : DependencyGraph) (id : String) : Option Vertex := g.vertices.lookup id

/-- Whether an id is a model or seed. -/
def isCompiled (g : DependencyGraph) (id : String) : Bool :=
  match g.vertex? id with
  | some vertex => vertex.kind.isCompiled
  | none => false

/-- Whether an id is a node that should have a statement and has none. -/
def lacksSql (g : DependencyGraph) (id : String) : Bool :=
  match g.vertex? id with
  | some vertex => vertex.lacksSql
  | none => false

/-- The ids to go to from an id: those that a model or seed reads. -/
def next (g : DependencyGraph) (id : String) : List String :=
  match g.vertex? id with
  | some vertex => if vertex.kind.isCompiled then vertex.parents else []
  | none => []

/-- The ids that can be reached from the ones in the queue without passing through a mocked or
visited one. -/
def reachFrom (g : DependencyGraph) (mocked visited : List String) : List String → List String
  | [] => []
  | id :: queue =>
    if _h : id ∈ visited ∨ id ∈ mocked then g.reachFrom mocked visited queue
    else id :: g.reachFrom mocked (id :: visited) (queue ++ g.next id)
  termination_by queue => (unvisited g.vertices visited, queue.length)
  decreasing_by
    · exact Prod.Lex.right _ (by simp)
    · have fresh : id ∉ visited := fun h => _h (.inl h)
      have le := unvisited_cons_le g.vertices visited id
      match hv : g.vertex? id with
      | some vertex => exact Prod.Lex.left _ _ (unvisited_cons_lt hv fresh)
      | none =>
        simp only [next, hv, List.append_nil]
        rcases Nat.lt_or_eq_of_le le with lt | eq
        · exact Prod.Lex.left _ _ lt
        · rw [eq]; exact Prod.Lex.right _ (by simp)

/-- The ids that can be reached from a target without passing through a mocked one, in ascending
order. -/
def reach (g : DependencyGraph) (target : String) (mocked : List String) : List String :=
  Text.ascending (g.reachFrom mocked [] [target])

/-- The ids that would have to be mocked: those within reach that are no model or seed, in ascending
order. -/
def unmockedLeaves (g : DependencyGraph) (target : String) (mocked : List String) : List String :=
  (g.reach target mocked).filter fun id => !g.isCompiled id

/-- The models and seeds within reach that have no statement, in ascending order. -/
def uncompiledNodes (g : DependencyGraph) (target : String) (mocked : List String) : List String :=
  (g.reach target mocked).filter g.lacksSql

end DependencyGraph

end ModelBench
