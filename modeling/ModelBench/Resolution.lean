import ModelBench.Diagnostic
import ModelBench.Manifest.Basic
import ModelBench.Manifest.Unvisited
import ModelBench.Mock.Encoding
import ModelBench.Sql.Substitution
import ModelBench.Text.Ascending

/-!
# Resolving statements

A node is resolved to a statement that reads no table: a mocked id becomes its mock, and the
statement of a model or seed gets the resolved statements of its dependencies in the place of their
names, in ascending order of their ids. An id is resolved once, and an id that is met again while it
is being resolved closes a cycle.
-/

namespace ModelBench

open Sql (Replacement Substituter SubstitutionError)

/-- Why an id could not be resolved. -/
inductive ResolveError
  | unmockedLeaf (id : String)
  | emptyCompiledSql (id : String)
  | cyclicDependency (path : List String)
  | unknownNode (id : String)
  | missingRelationName (id : String)
  | mock (id : String) (error : MockError)
  | substitution (id : String) (error : SubstitutionError)
  deriving DecidableEq, Repr

namespace ResolveError

/-- The text of an error. -/
def message : ResolveError → String
  | .unmockedLeaf id => s!"{id} is not mocked; sources must be mocked to be tested"
  | .emptyCompiledSql id =>
    s!"Node {id} has empty compiled SQL. " ++
      "Make sure the manifest is compiled by running `dbt compile`"
  | .cyclicDependency path => "Cyclic dependency: " ++ String.intercalate " -> " path
  | .unknownNode id => s!"{id} is neither a node nor a source in the manifest"
  | .missingRelationName id => s!"{id} is mocked but has no relation name to substitute"
  | .mock id error => s!"Mock for {id}: {error.message}"
  | .substitution id error => s!"Rewriting references in {id}: {error.message}"

/-- The code of an error. -/
def code : ResolveError → DiagnosticCode
  | .unmockedLeaf _ => .unmockedLeaf
  | .emptyCompiledSql _ => .emptyCompiledSql
  | .cyclicDependency _ => .cyclicDependency
  | .unknownNode _ => .unknownNode
  | .missingRelationName _ => .missingRelationName
  | .mock _ _ => .mockFileError
  | .substitution _ _ => .missingRelationName

/-- The id that an error is about: of a cycle the first one. -/
def id : ResolveError → String
  | .unmockedLeaf id => id
  | .emptyCompiledSql id => id
  | .cyclicDependency path => path.head?.getD ""
  | .unknownNode id => id
  | .missingRelationName id => id
  | .mock id _ => id
  | .substitution id _ => id

end ResolveError

/-- What resolving depends on. -/
structure Resolver where
  manifest : Manifest
  /-- The mocks under the ids they stand for. -/
  mocks : List (String × Mock)
  files : Volume
  substituter : Substituter

/-- What there is to do for an id. -/
inductive Task
  /-- Nothing: a mock stands for it. -/
  | given (replacement : Replacement)
  /-- Its statement has to be resolved. -/
  | compile (node : Manifest.Node)
  deriving DecidableEq, Repr

namespace Resolver

/-- What stands for a mocked id. -/
def encodeMock (r : Resolver) (id : String) (relation : Manifest.Relation) (mock : Mock) :
    Except ResolveError Replacement :=
  if Text.isBlankString relation.fullName then .error (.missingRelationName id)
  else
    match mock.encode r.files with
    | .ok encoded => .ok ⟨relation.fullName, encoded.asRelation, relation.shortName⟩
    | .error e => .error (.mock id e)

/-- What there is to do for an id that is not mocked: only models and seeds with a statement can be
resolved. -/
def compileTask (r : Resolver) (id : String) : Except ResolveError Task :=
  match r.manifest.node? id with
  | some node =>
    if (NodeKind.ofId id).isCompiled then
      if node.hasSql then .ok (.compile node) else .error (.emptyCompiledSql id)
    else .error (.unmockedLeaf id)
  | none => .error (.unmockedLeaf id)

/-- What there is to do for an id. -/
def task (r : Resolver) (id : String) : Except ResolveError Task :=
  match r.manifest.relation id with
  | none => .error (.unknownNode id)
  | some relation =>
    match r.mocks.lookup id with
    | some mock => (r.encodeMock id relation mock).map Task.given
    | none => r.compileTask id

/-- An id has a statement to resolve only if it is a node. -/
theorem node?_of_task {r : Resolver} {id : String} {node : Manifest.Node}
    (h : r.task id = .ok (.compile node)) : r.manifest.node? id = some node := by
  unfold task at h
  split at h
  · simp at h
  · split at h
    · simp only [Except.map] at h
      split at h <;> simp at h
    · unfold compileTask at h
      split at h
      · next n hn => split at h <;> (try split at h) <;> simp_all
      · simp at h

/-- The dependencies of a node in the order in which they are resolved. -/
def dependencies (node : Manifest.Node) : List String := Text.ascending node.dependsOn

/-- What stands for a node whose statement is resolved. -/
def finish (node : Manifest.Node) (sql : String) : Replacement :=
  ⟨node.fullName, sql, node.shortName⟩

/-- The cycle that is closed by an id: the part of the path from its first occurrence on, and the id
once more. The path leads back from the id that is being resolved to the target. -/
def cycle (path : List String) (id : String) : List String :=
  path.reverse.dropWhile (· ≠ id) ++ [id]

/-- The statement of the node `id` with a replacement made in it. -/
def substituteIn (r : Resolver) (id : String) (sql : String) (replacement : Replacement) :
    Except ResolveError String :=
  (r.substituter sql replacement).mapError (ResolveError.substitution id)

/-- The ids that are resolved. -/
abbrev Resolved := List (String × Replacement)

/-- Resolves an id. `path` leads from the id whose statement needs it back to the target, and `done`
holds the ids that are resolved. -/
def resolveFrom (r : Resolver) (path : List String) (done : Resolved) (id : String) :
    Except ResolveError (Replacement × Resolved) :=
  match done.lookup id with
  | some replacement => .ok (replacement, done)
  | none =>
    if _fresh : id ∈ path then .error (.cyclicDependency (cycle path id))
    else
      match _found : r.task id with
      | .error e => .error e
      | .ok (.given replacement) => .ok (replacement, (id, replacement) :: done)
      | .ok (.compile node) => do
        let (sql, done) ← (dependencies node).foldlM
          (fun (sql, done) dependency => do
            let (replacement, done) ← r.resolveFrom (id :: path) done dependency
            return (← r.substituteIn id sql replacement, done))
          (node.compiledCode, done)
        return (finish node sql, (id, finish node sql) :: done)
  termination_by unvisited r.manifest.nodes path
  decreasing_by exact unvisited_cons_lt (node?_of_task _found) _fresh

/-- The statement that stands for an id, with all that it reads in it. -/
def resolve (r : Resolver) (id : String) : Except ResolveError Replacement :=
  (r.resolveFrom [] [] id).map Prod.fst

end Resolver

end ModelBench
