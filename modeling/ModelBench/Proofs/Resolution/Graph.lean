import ModelBench.Proofs.Manifest.Graph
import ModelBench.Proofs.Resolution.Success

/-!
# Resolving and the graph of dependencies

Resolving walks in depth over a manifest and stops at the first error; the graph of the manifest is
walked in breadth and every offender is listed. Both judge every id alike (`resolve_and_graph`): an
error of resolving that is no circle is that of one id, to which statements lead from the target
(`blame_of_plainFrom`), and as long as no id is both a node and a source, the graph leads there as
well (`mem_reach_of_leadsTo`).
-/

namespace ModelBench.Resolver

open Relation
open DependencyGraph (Apart isCompiled_of_apart next_of_apart lacksSql_of_apart)
open Sql (Replacement)

variable {r : Resolver} {path : List String} {target id x : String} {node : Manifest.Node}
  {e : ResolveError}

/-! ## Who is to blame for an error -/

/-- Whether resolving the first id comes to its statement, and the statement reads the second one. -/
def LeadsTo (r : Resolver) (id dependency : String) : Prop :=
  ∃ node, r.task id = .ok (.compile node) ∧ dependency ∈ dependencies node

/-- An error of resolving an id that is neither a circle nor that of a replacement is the error of
some id that statements lead to. -/
theorem blame_of_plainFrom (makes : MakesAllNamed r.substituter)
    (failed : r.plainFrom path id = .error e) :
    (∃ circle, e = .cyclicDependency circle) ∨
      ∃ x, ReflTransGen r.LeadsTo id x ∧ r.task x = .error e := by
  induction path, id using plainFrom.induct r with
  | case1 path id mem =>
    rw [plainFrom_of_mem mem] at failed
    cases failed
    exact .inl ⟨_, rfl⟩
  | case2 path id fresh e' task =>
    rw [plainFrom_of_error fresh task] at failed
    cases failed
    exact .inr ⟨id, .refl, task⟩
  | case3 path id fresh given task =>
    rw [plainFrom_of_given fresh task] at failed
    cases failed
  | case4 path id fresh node task ih =>
    rw [plainFrom_of_compile fresh task] at failed
    cases put : r.substituteAll id (r.plainFrom (id :: path)) node.compiledCode
      (dependencies node) with
    | ok sql =>
      rw [put] at failed
      cases failed
    | error e' =>
      rw [put] at failed
      cases failed
      -- replacements that have a name never fail, so a dependency does
      obtain ⟨y, mem, found⟩ := error_of_substituteAll makes
        (fun _ _ ok => (yields_of_plainFrom ok).fullName_ne_empty) put
      refine (ih y found).imp_right ?_
      rintro ⟨x, leads, blamed⟩
      exact ⟨x, leads.head ⟨node, task, mem⟩, blamed⟩

theorem blame_of_resolve (makes : MakesAllNamed r.substituter)
    (failed : r.resolve target = .error e) :
    (∃ circle, e = .cyclicDependency circle) ∨
      ∃ x, ReflTransGen r.LeadsTo target x ∧ r.task x = .error e := by
  rw [resolve, map_fst_resolveFrom (.nil []) (.nil r)] at failed
  exact blame_of_plainFrom makes failed

/-- What the error of an id says about it. -/
def Blames (r : Resolver) (id : String) : ResolveError → Prop
  | .unknownNode x => x = id ∧ r.manifest.node? id = none
  | .missingRelationName x => x = id ∧ r.mocks.lookup id ≠ none
  | .mock x _ => x = id ∧ r.mocks.lookup id ≠ none
  | .unmockedLeaf x => x = id ∧ r.mocks.lookup id = none ∧
      (r.manifest.node? id = none ∨ (NodeKind.ofId id).isCompiled = false)
  | .emptyCompiledSql x => x = id ∧ r.mocks.lookup id = none ∧
      (NodeKind.ofId id).isCompiled = true ∧
      ∃ node, r.manifest.node? id = some node ∧ node.hasSql = false
  | .cyclicDependency _ => False
  | .substitution _ _ => False

theorem blames_of_encodeMock {relation : Manifest.Relation} {mock : Mock}
    (mocked : r.mocks.lookup id = some mock) (h : r.encodeMock id relation mock = .error e) :
    r.Blames id e := by
  have present : r.mocks.lookup id ≠ none := by simp [mocked]
  rw [encodeMock] at h
  split_ifs at h with blank
  · cases h
    exact ⟨rfl, present⟩
  · split at h
    · cases h
    · cases h
      exact ⟨rfl, present⟩

theorem blames_of_compileTask (unmocked : r.mocks.lookup id = none)
    (h : r.compileTask id = .error e) : r.Blames id e := by
  rw [compileTask] at h
  split at h
  · next node found =>
    split_ifs at h with compiled sql
    · cases h
      exact ⟨rfl, unmocked, compiled, node, found, by simpa using sql⟩
    · cases h
      exact ⟨rfl, unmocked, .inr (by simpa using compiled)⟩
  · next absent =>
    cases h
    exact ⟨rfl, unmocked, .inl absent⟩

theorem blames_of_task (h : r.task id = .error e) : r.Blames id e := by
  rw [task] at h
  split at h
  · next unknown =>
    cases h
    refine ⟨rfl, ?_⟩
    rw [Manifest.relation] at unknown
    split at unknown
    · cases unknown
    · assumption
  · next relation known =>
    split at h
    · next mock mocked =>
      cases encoded : r.encodeMock id relation mock with
      | ok replacement =>
        rw [encoded] at h
        cases h
      | error e' =>
        rw [encoded] at h
        cases h
        exact blames_of_encodeMock mocked encoded
    · next unmocked => exact blames_of_compileTask unmocked h

/-! ## The walk of the graph -/

/-- The ids that are mocked. -/
def mocked (r : Resolver) : List String := r.mocks.map Prod.fst

/-- The graph of what the entries of the manifest depend on. -/
def graph (r : Resolver) : DependencyGraph := .ofManifest r.manifest

theorem notMem_mocked_iff : id ∉ r.mocked ↔ r.mocks.lookup id = none :=
  DependencyGraph.notMem_keys_iff

/-- Whatever is within reach in the graph may be come to by resolving, and is not mocked. -/
theorem reaches_of_mem_reach (h : x ∈ r.graph.reach target r.mocked) :
    r.Reaches target x ∧ r.mocks.lookup x = none := by
  obtain ⟨unmocked, way⟩ := DependencyGraph.mem_reach_iff.1 h
  clear h
  induction way with
  | refl => exact ⟨.refl, notMem_mocked_iff.1 unmocked⟩
  | @tail y z _ leads ih =>
    obtain ⟨here, there, next⟩ := leads
    have compiled := DependencyGraph.isCompiled_of_mem_next next
    obtain ⟨node, found, kind, parents, -⟩ := DependencyGraph.exists_node_of_isCompiled compiled
    rw [graph, parents] at next
    exact ⟨ih.1.tail ⟨notMem_mocked_iff.1 here, (isCompiled_ofId_iff _ found).1 kind, node, found,
      next⟩, notMem_mocked_iff.1 there⟩

/-- What statements lead to is within reach in the graph if it is not mocked. -/
theorem mem_reach_of_leadsTo (apart : Apart r.manifest)
    (way : ReflTransGen r.LeadsTo target x)
    (unmocked : r.mocks.lookup x = none) : x ∈ r.graph.reach target r.mocked := by
  induction way with
  | refl => exact DependencyGraph.mem_reach_iff.2 ⟨notMem_mocked_iff.2 unmocked, .refl⟩
  | tail _ leads ih =>
    obtain ⟨node, task, member⟩ := leads
    obtain ⟨here, found, compiled, -⟩ := task_eq_compile_iff.1 task
    obtain ⟨start, way⟩ := DependencyGraph.mem_reach_iff.1 (ih here)
    refine DependencyGraph.mem_reach_iff.2 ⟨start, way.tail
      ⟨notMem_mocked_iff.2 here, notMem_mocked_iff.2 unmocked, ?_⟩⟩
    rw [graph, next_of_apart apart found compiled]
    exact mem_dependencies.1 member

/-! ## What both say -/

/-- The ids within reach that would have to be mocked. -/
def leaves (r : Resolver) (target : String) : List String :=
  r.graph.unmockedLeaves target r.mocked

/-- The models and seeds within reach that have no statement. -/
def lacking (r : Resolver) (target : String) : List String :=
  r.graph.uncompiledNodes target r.mocked

theorem mem_leaves : x ∈ r.leaves target ↔
    x ∈ r.graph.reach target r.mocked ∧ r.graph.isCompiled x = false := by
  rw [leaves, DependencyGraph.unmockedLeaves, List.mem_filter, Bool.not_eq_true']

theorem mem_lacking : x ∈ r.lacking target ↔
    x ∈ r.graph.reach target r.mocked ∧ r.graph.lacksSql x = true := by
  rw [lacking, DependencyGraph.uncompiledNodes, List.mem_filter]

/-- What is resolved along the way has a statement, in the manifest and in the graph. -/
theorem Yields.compiles (apart : Apart r.manifest) (h : r.Yields target replacement)
    (mem : x ∈ r.graph.reach target r.mocked) :
    r.graph.isCompiled x = true ∧ r.graph.lacksSql x = false := by
  obtain ⟨reach, unmocked⟩ := reaches_of_mem_reach mem
  obtain ⟨_, below⟩ := h.of_reaches reach
  obtain ⟨task, known⟩ := below.exists_task
  obtain ⟨node, known⟩ := compile_of_task known unmocked
  obtain ⟨-, found, compiled, sql⟩ := task_eq_compile_iff.1 known
  rw [graph, isCompiled_of_apart apart found, lacksSql_of_apart apart found, compiled, sql]
  exact ⟨rfl, rfl⟩

theorem leaves_eq_nil_of_yields (apart : Apart r.manifest) (h : r.Yields target replacement) :
    r.leaves target = [] := by
  refine List.eq_nil_iff_forall_not_mem.2 fun x member => ?_
  obtain ⟨mem, leaf⟩ := mem_leaves.1 member
  rw [(h.compiles apart mem).1] at leaf
  cases leaf

theorem lacking_eq_nil_of_yields (apart : Apart r.manifest) (h : r.Yields target replacement) :
    r.lacking target = [] := by
  refine List.eq_nil_iff_forall_not_mem.2 fun x member => ?_
  obtain ⟨mem, lacks⟩ := mem_lacking.1 member
  rw [(h.compiles apart mem).2] at lacks
  cases lacks

theorem isCompiled_eq_false (apart : Apart r.manifest)
    (h : r.manifest.node? x = none ∨ (NodeKind.ofId x).isCompiled = false) :
    r.graph.isCompiled x = false := by
  cases found : r.manifest.node? x with
  | none => exact DependencyGraph.isCompiled_of_no_node found
  | some node =>
    rw [graph, isCompiled_of_apart apart found]
    exact h.resolve_left (by simp [found])

/-- What an error says of the target's reach in the graph. -/
def Foreseen (r : Resolver) (target : String) : ResolveError → Prop
  | .unmockedLeaf id => id ∈ r.leaves target
  | .unknownNode id => id ∉ r.mocked → id ∈ r.leaves target
  | .emptyCompiledSql id => id ∈ r.lacking target
  | .substitution _ _ => False
  | .cyclicDependency _ | .missingRelationName _ | .mock _ _ => True

/-- The error of an id that statements lead to is foreseen by the graph. -/
theorem foreseen_of_blames (apart : Apart r.manifest) (way : ReflTransGen r.LeadsTo target x)
    (blames : r.Blames x e) : r.Foreseen target e := by
  cases e with
  | unmockedLeaf id =>
    obtain ⟨rfl, unmocked, leaf⟩ := blames
    exact mem_leaves.2 ⟨mem_reach_of_leadsTo apart way unmocked, isCompiled_eq_false apart leaf⟩
  | unknownNode id =>
    obtain ⟨rfl, absent⟩ := blames
    intro unmocked
    exact mem_leaves.2 ⟨mem_reach_of_leadsTo apart way (notMem_mocked_iff.1 unmocked),
      isCompiled_eq_false apart (.inl absent)⟩
  | emptyCompiledSql id =>
    obtain ⟨rfl, unmocked, compiled, node, found, sql⟩ := blames
    refine mem_lacking.2 ⟨mem_reach_of_leadsTo apart way unmocked, ?_⟩
    rw [graph, lacksSql_of_apart apart found, compiled, sql]
    rfl
  | cyclicDependency circle => trivial
  | missingRelationName id => trivial
  | mock id error => trivial
  | substitution id error => exact blames.elim

theorem foreseen_of_resolve (makes : MakesAllNamed r.substituter) (apart : Apart r.manifest)
    (failed : r.resolve target = .error e) : r.Foreseen target e := by
  rcases blame_of_resolve makes failed with ⟨circle, rfl⟩ | ⟨x, way, blamed⟩
  · trivial
  · exact foreseen_of_blames apart way (blames_of_task blamed)

/-- Whether an error is none that a graph can foresee: a circle, a mock that cannot be used, or a
mocked id that is not known. -/
def Unforeseen (r : Resolver) : ResolveError → Prop
  | .cyclicDependency _ | .missingRelationName _ | .mock _ _ => True
  | .unknownNode id => id ∈ r.mocked
  | .unmockedLeaf _ | .emptyCompiledSql _ | .substitution _ _ => False

/-- Whether resolving a target and walking the graph of the manifest agree about it. -/
structure AgreesWithGraph (r : Resolver) (target : String) : Prop where
  resolved : ∀ replacement, r.resolve target = .ok replacement →
    r.leaves target = [] ∧ r.lacking target = []
  unmockedLeaf : ∀ id, r.resolve target = .error (.unmockedLeaf id) → id ∈ r.leaves target
  unknownNode : ∀ id, r.resolve target = .error (.unknownNode id) → id ∉ r.mocked →
    id ∈ r.leaves target
  emptyCompiledSql : ∀ id, r.resolve target = .error (.emptyCompiledSql id) →
    id ∈ r.lacking target
  clean : r.leaves target = [] → r.lacking target = [] →
    ∀ e, r.resolve target = .error e → r.Unforeseen e

/-- Resolving and walking the graph agree about every target, as long as no id is both a node and a
source. A target that is resolved has no unmocked leaf and no model without a statement within its
reach. An id that resolving reports as unmocked, as unknown though it is not mocked, or as without a
statement is on the list that the graph gives. Where both lists are empty, nothing else can stop
resolving than a circle, a mock that cannot be used or has no name to stand for, or a mocked id that
is not known. -/
theorem resolve_agreesWithGraph (manifest : Manifest) (mocks : List (String × Mock))
    (files : Volume) (target : String) (apart : Apart manifest) :
    (textual manifest mocks files).AgreesWithGraph target := by
  have foreseen (e : ResolveError)
      (failed : (textual manifest mocks files).resolve target = .error e) :
      (textual manifest mocks files).Foreseen target e :=
    foreseen_of_resolve makesAllNamed_substitute apart failed
  refine ⟨fun replacement h => ?_, fun id => foreseen _, fun id => foreseen _,
    fun id => foreseen _, fun leaves lacking e failed => ?_⟩
  · exact ⟨leaves_eq_nil_of_yields apart (yields_of_resolve h),
      lacking_eq_nil_of_yields apart (yields_of_resolve h)⟩
  · have said := foreseen e failed
    cases e with
    | unmockedLeaf id => exact absurd said (by simp [Foreseen, leaves])
    | emptyCompiledSql id => exact absurd said (by simp [Foreseen, lacking])
    | unknownNode id =>
      by_contra unmocked
      exact absurd (said unmocked) (by simp [leaves])
    | cyclicDependency circle => trivial
    | missingRelationName id => trivial
    | mock id error => trivial
    | substitution id error => exact said

/-! ## An example -/

/-- A model that reads another one, which depends on some id, with a mock for a source and one for
an id that is not known. -/
def stacked (dependency : String) : Resolver :=
  textual
    { metadata := none
      nodes := [sampleModel "top" "SELECT a FROM `p`.`d`.`mid`" ["model.x.mid"],
        sampleModel "mid" "SELECT a FROM `p`.`raw`.`s`" [dependency], sampleModel "blank" " " []]
      sources := [("source.x.s", ⟨"source.x.s", "s", [], "`p`.`raw`.`s`"⟩),
        ("source.x.t", ⟨"source.x.t", "t", [], "`p`.`raw`.`t`"⟩)] }
    [("source.x.s", ⟨"s.csv", []⟩), ("source.x.ghost", ⟨"s.csv", []⟩)]
    ⟨[], [(["s.csv"], .file [97, 10, 49, 10])]⟩

/-- What stands for the first model where the second one reads the source with a mock. -/
def stackedTop : Replacement where
  fullName := "`p`.`d`.`top`"
  sql := "SELECT a FROM (SELECT a FROM (\n SELECT \"1\" AS a) AS s) AS mid"
  shortName := "top"

theorem stacked_apart (dependency : String) : Apart (stacked dependency).manifest := by
  have apart : ∀ id ∈ ["model.x.top", "model.x.mid", "model.x.blank"],
      id ∉ ["source.x.s", "source.x.t"] := by
    decide
  exact apart

/-- Where the second model reads the first one, the graph has nothing to report. -/
theorem stacked_clean : (stacked "model.x.top").leaves "model.x.top" = [] ∧
    (stacked "model.x.top").lacking "model.x.top" = [] := by
  have closed : ∀ x ∈ ["model.x.top", "model.x.mid"],
      ∀ y ∈ (stacked "model.x.top").graph.next x,
        y ∈ ["model.x.top", "model.x.mid"] ∨ y ∈ (stacked "model.x.top").mocked := by
    decide +kernel
  have nodes : ∀ x ∈ ["model.x.top", "model.x.mid"],
      (stacked "model.x.top").graph.isCompiled x = true ∧
        (stacked "model.x.top").graph.lacksSql x = false := by
    decide +kernel
  refine ⟨List.filter_eq_nil_iff.2 fun x mem => ?_, List.filter_eq_nil_iff.2 fun x mem => ?_⟩
  · simp [(nodes x (DependencyGraph.mem_of_mem_reach (by decide) closed mem)).1]
  · simp [(nodes x (DependencyGraph.mem_of_mem_reach (by decide) closed mem)).2]

/-- The second model reads a source with a mock, one without, an id that is not known, a model
without a statement and the first model. -/
theorem stacked_agreesWithGraph :
    (Apart (stacked "source.x.s").manifest ∧
      (stacked "source.x.s").resolve "model.x.top" = .ok stackedTop ∧
      (stacked "source.x.s").leaves "model.x.top" = [] ∧
      (stacked "source.x.s").lacking "model.x.top" = []) ∧
    (Apart (stacked "source.x.t").manifest ∧
      (stacked "source.x.t").resolve "model.x.top" = .error (.unmockedLeaf "source.x.t") ∧
      "source.x.t" ∈ (stacked "source.x.t").leaves "model.x.top") ∧
    (Apart (stacked "model.x.lost").manifest ∧
      (stacked "model.x.lost").resolve "model.x.top" = .error (.unknownNode "model.x.lost") ∧
      "model.x.lost" ∉ (stacked "model.x.lost").mocked ∧
      "model.x.lost" ∈ (stacked "model.x.lost").leaves "model.x.top") ∧
    (Apart (stacked "model.x.blank").manifest ∧
      (stacked "model.x.blank").resolve "model.x.top" =
        .error (.emptyCompiledSql "model.x.blank") ∧
      "model.x.blank" ∈ (stacked "model.x.blank").lacking "model.x.top") ∧
    (Apart (stacked "model.x.top").manifest ∧
      (stacked "model.x.top").leaves "model.x.top" = [] ∧
      (stacked "model.x.top").lacking "model.x.top" = [] ∧
      (stacked "model.x.top").resolve "model.x.top" =
        .error (.cyclicDependency ["model.x.top", "model.x.mid", "model.x.top"]) ∧
      (stacked "model.x.top").Unforeseen
        (.cyclicDependency ["model.x.top", "model.x.mid", "model.x.top"])) := by
  have agrees (dependency : String) : (stacked dependency).AgreesWithGraph "model.x.top" :=
    resolve_agreesWithGraph _ _ _ _ (stacked_apart dependency)
  have resolved : (stacked "source.x.s").resolve "model.x.top" = .ok stackedTop := by
    decide +kernel
  have leaf : (stacked "source.x.t").resolve "model.x.top" =
      .error (.unmockedLeaf "source.x.t") := by
    decide +kernel
  have lost : (stacked "model.x.lost").resolve "model.x.top" =
      .error (.unknownNode "model.x.lost") := by
    decide +kernel
  have free : "model.x.lost" ∉ (stacked "model.x.lost").mocked := by decide +kernel
  have blank : (stacked "model.x.blank").resolve "model.x.top" =
      .error (.emptyCompiledSql "model.x.blank") := by
    decide +kernel
  have circle : (stacked "model.x.top").resolve "model.x.top" =
      .error (.cyclicDependency ["model.x.top", "model.x.mid", "model.x.top"]) := by
    decide +kernel
  obtain ⟨leaves, lacking⟩ := stacked_clean
  exact ⟨⟨stacked_apart _, resolved, (agrees _).resolved _ resolved⟩,
    ⟨stacked_apart _, leaf, (agrees _).unmockedLeaf _ leaf⟩,
    ⟨stacked_apart _, lost, free, (agrees _).unknownNode _ lost free⟩,
    ⟨stacked_apart _, blank, (agrees _).emptyCompiledSql _ blank⟩,
    stacked_apart _, leaves, lacking, circle, (agrees _).clean leaves lacking _ circle⟩

end ModelBench.Resolver
