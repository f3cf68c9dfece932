import ModelBench.Proofs.Resolution.Success

/-!
# What resolving depends on

Resolving a target depends only on what stands within its reach: on the names and mocks of the ids
there and, of those that are not mocked, on their kinds, their statements and the sets of ids they
depend on (`resolve_congr`). Two resolvers that agree on this have the same thing to do for every id
they come to (`AgreeAt.sameTask`), and they come to the same ids in the same order because
dependencies are resolved in ascending order, each once.
-/

namespace ModelBench.Resolver

open Sql (Replacement)

variable {r r' : Resolver} {path : List String} {target id : String}

/-- Whether two resolvers see the same at an id: its names, its mock and, if it has none, its kind
and, where both have a node for it, the statement and the set of ids that the node depends on. -/
structure AgreeAt (r r' : Resolver) (id : String) : Prop where
  relation : r.manifest.relation id = r'.manifest.relation id
  mock : r.mocks.lookup id = r'.mocks.lookup id
  kind : r.mocks.lookup id = none → r.manifest.kindOf id = r'.manifest.kindOf id
  statement : r.mocks.lookup id = none → ∀ node node', r.manifest.node? id = some node →
    r'.manifest.node? id = some node' → node.compiledCode = node'.compiledCode
  reads : r.mocks.lookup id = none → ∀ node node', r.manifest.node? id = some node →
    r'.manifest.node? id = some node' → ∀ x, x ∈ node.dependsOn ↔ x ∈ node'.dependsOn

/-! ## Tasks -/

/-- Whether two nodes are resolved in the same way: the same dependencies are put into the same
statement in the same order, under the same names. -/
structure SameStatement (node node' : Manifest.Node) : Prop where
  code : node.compiledCode = node'.compiledCode
  dependencies : dependencies node = dependencies node'
  relation : node.relation = node'.relation

/-- Whether there is the same to do. -/
inductive SameTask : Except ResolveError Task → Except ResolveError Task → Prop
  | error (e : ResolveError) : SameTask (.error e) (.error e)
  | given (replacement : Replacement) :
      SameTask (.ok (.given replacement)) (.ok (.given replacement))
  | compile {node node' : Manifest.Node} (same : SameStatement node node') :
      SameTask (.ok (.compile node)) (.ok (.compile node'))

theorem finish_congr {node node' : Manifest.Node} (same : SameStatement node node') :
    finish node = finish node' := by
  have names := same.relation
  rw [Manifest.Node.relation, Manifest.Node.relation, Manifest.Relation.mk.injEq] at names
  funext sql
  rw [finish, finish, names.1, names.2]

theorem sameTask_encodeMock (files : r.files = r'.files) (id : String)
    (relation : Manifest.Relation) (mock : Mock) :
    SameTask ((r.encodeMock id relation mock).map Task.given)
      ((r'.encodeMock id relation mock).map Task.given) := by
  have same : r.encodeMock id relation mock = r'.encodeMock id relation mock := by
    rw [encodeMock, encodeMock, files]
  rw [same]
  cases r'.encodeMock id relation mock with
  | error e => exact .error e
  | ok replacement => exact .given replacement

theorem compileTask_of_source (source : (NodeKind.ofId id).isCompiled = false) :
    r.compileTask id = .error (.unmockedLeaf id) := by
  rw [compileTask]
  split
  · rw [source, if_neg Bool.false_ne_true]
  · rfl

theorem compileTask_of_node {node : Manifest.Node} (found : r.manifest.node? id = some node)
    (compiled : (NodeKind.ofId id).isCompiled = true) :
    r.compileTask id =
      if node.hasSql then .ok (.compile node) else .error (.emptyCompiledSql id) := by
  rw [compileTask, found]
  exact if_pos compiled

/-- A compiled kind tells that there is a node. -/
theorem exists_node_of_kindOf {m : Manifest} {kind : NodeKind} (known : m.kindOf id = some kind)
    (compiled : kind.isCompiled = true) : ∃ node, m.node? id = some node := by
  cases found : m.node? id with
  | some node => exact ⟨node, rfl⟩
  | none =>
    rw [Manifest.kindOf, found] at known
    dsimp only [Option.isSome_none] at known
    rw [if_neg Bool.false_ne_true] at known
    split_ifs at known
    cases known
    cases compiled

theorem AgreeAt.sameStatement (h : AgreeAt r r' id) (unmocked : r.mocks.lookup id = none)
    {node node' : Manifest.Node} (found : r.manifest.node? id = some node)
    (found' : r'.manifest.node? id = some node') : SameStatement node node' where
  code := h.statement unmocked node node' found found'
  dependencies := Text.ascending_congr (h.reads unmocked node node' found found')
  relation := by
    have relation := h.relation
    rw [Manifest.relation, Manifest.relation, found, found'] at relation
    exact Option.some.inj relation

theorem AgreeAt.sameTask_compileTask (h : AgreeAt r r' id) (unmocked : r.mocks.lookup id = none) :
    SameTask (r.compileTask id) (r'.compileTask id) := by
  cases compiled : (NodeKind.ofId id).isCompiled with
  | false =>
    rw [compileTask_of_source compiled, compileTask_of_source compiled]
    exact .error _
  | true =>
    have kind := h.kind unmocked
    cases found : r.manifest.node? id with
    | none =>
      cases found' : r'.manifest.node? id with
      | none =>
        rw [compileTask, compileTask, found, found']
        exact .error _
      | some node' =>
        obtain ⟨node, found_⟩ :=
          exists_node_of_kindOf (kind.trans (kindOf_of_node? _ found')) compiled
        rw [found] at found_
        cases found_
    | some node =>
      obtain ⟨node', found'⟩ :=
        exists_node_of_kindOf (kind.symm.trans (kindOf_of_node? _ found)) compiled
      have same := h.sameStatement unmocked found found'
      rw [compileTask_of_node found compiled, compileTask_of_node found' compiled,
        Manifest.Node.hasSql, Manifest.Node.hasSql, same.code]
      split
      · exact .compile same
      · exact .error _

/-- Where two resolvers agree, they have the same to do. -/
theorem AgreeAt.sameTask (files : r.files = r'.files) (h : AgreeAt r r' id) :
    SameTask (r.task id) (r'.task id) := by
  rw [task, task, ← h.relation, ← h.mock]
  cases r.manifest.relation id with
  | none => exact .error _
  | some relation =>
    cases mocked : r.mocks.lookup id with
    | some mock => exact sameTask_encodeMock files id relation mock
    | none => exact h.sameTask_compileTask mocked

/-! ## Resolving -/

theorem substituteAll_of_substituter (same : r.substituter = r'.substituter)
    (find : String → Except ResolveError Replacement) (id sql : String) (names : List String) :
    r.substituteAll id find sql names = r'.substituteAll id find sql names := by
  induction names generalizing sql with
  | nil => rfl
  | cons dependency rest ih =>
    simp only [substituteAll, substituteIn, same, ih]

/-- The walks of two resolvers that agree within reach of a target go on in step. -/
theorem plainFrom_congr (files : r.files = r'.files) (substituter : r.substituter = r'.substituter)
    (agree : ∀ id, r.Reaches target id → AgreeAt r r' id) (reach : r.Reaches target id) :
    r.plainFrom path id = r'.plainFrom path id := by
  induction path, id using plainFrom.induct r with
  | case1 path id mem => rw [plainFrom_of_mem mem, plainFrom_of_mem mem]
  | case2 path id fresh e task =>
    have same := (agree id reach).sameTask files
    generalize task' : r'.task id = other at same
    rw [task] at same
    cases same
    rw [plainFrom_of_error fresh task, plainFrom_of_error fresh task']
  | case3 path id fresh replacement task =>
    have same := (agree id reach).sameTask files
    generalize task' : r'.task id = other at same
    rw [task] at same
    cases same
    rw [plainFrom_of_given fresh task, plainFrom_of_given fresh task']
  | case4 path id fresh node task ih =>
    have same := (agree id reach).sameTask files
    generalize task' : r'.task id = other at same
    rw [task] at same
    cases same with
    | @compile _ node' same =>
      have below : ∀ x ∈ dependencies node,
          r.plainFrom (id :: path) x = r'.plainFrom (id :: path) x := fun x hx =>
        ih x (reach.tail ((reads_iff task).2 hx))
      rw [plainFrom_of_compile fresh task, plainFrom_of_compile fresh task', ← same.code,
        ← same.dependencies, ← finish_congr same, substituteAll_congr below,
        substituteAll_of_substituter substituter]

/-- Resolving a target depends only on what stands within its reach. Two manifests with their mocks
give the same replacement or the same error for a target if they agree on every id within reach:
whether it is known, its names and its mock and, of an id that is not mocked, its kind, its
statement and the set of ids it depends on. -/
theorem resolve_congr (r r' : Resolver) (target : String) (files : r.files = r'.files)
    (substituter : r.substituter = r'.substituter)
    (agree : ∀ id, r.Reaches target id → AgreeAt r r' id) :
    r.resolve target = r'.resolve target := by
  rw [resolve, resolve, map_fst_resolveFrom (.nil []) (.nil r),
    map_fst_resolveFrom (.nil []) (.nil r')]
  exact plainFrom_congr files substituter agree .refl

/-! ## An example -/

/-- A model that reads a mocked model and a mocked source. -/
def joined : Resolver :=
  textual
    { metadata := none
      nodes := [sampleModel "top" "SELECT a FROM `p`.`d`.`mid` JOIN `p`.`raw`.`s`"
          ["model.x.mid", "source.x.s"],
        sampleModel "mid" "SELECT a FROM `p`.`raw`.`deep`" ["source.x.deep"]]
      sources := [("source.x.s", ⟨"source.x.s", "s", [], "`p`.`raw`.`s`"⟩)] }
    [("model.x.mid", ⟨"s.csv", []⟩), ("source.x.s", ⟨"s.csv", []⟩)]
    ⟨[], [(["s.csv"], .file [97, 10, 49, 10])]⟩

/-- The same model with its dependencies in another order, one of them twice, with another statement
of the mocked model, which now depends on itself, and with one more node and one more mock that
nothing leads to. -/
def rejoined : Resolver :=
  textual
    { metadata := none
      nodes := [sampleModel "other" "" [], sampleModel "mid" "" ["model.x.mid"],
        sampleModel "top" "SELECT a FROM `p`.`d`.`mid` JOIN `p`.`raw`.`s`"
          ["source.x.s", "model.x.mid", "source.x.s"]]
      sources := [("source.x.s", ⟨"source.x.s", "s", [], "`p`.`raw`.`s`"⟩)] }
    [("model.x.other", ⟨"none.csv", []⟩), ("source.x.s", ⟨"s.csv", []⟩),
      ("model.x.mid", ⟨"s.csv", []⟩)]
    ⟨[], [(["s.csv"], .file [97, 10, 49, 10])]⟩

theorem joined_agreeAt (reach : joined.Reaches "model.x.top" id) : AgreeAt joined rejoined id := by
  have mem : id ∈ ["model.x.top", "model.x.mid", "source.x.s"] :=
    mem_of_reaches (by decide) (by decide +kernel) reach
  have names : ∀ id ∈ ["model.x.top", "model.x.mid", "source.x.s"],
      joined.manifest.relation id = rejoined.manifest.relation id ∧
        joined.mocks.lookup id = rejoined.mocks.lookup id ∧
        joined.manifest.kindOf id = rejoined.manifest.kindOf id := by
    decide +kernel
  have nodes : ∀ id ∈ ["model.x.top", "model.x.mid", "source.x.s"],
      joined.mocks.lookup id = none →
        ∀ node ∈ joined.manifest.node? id, ∀ node' ∈ rejoined.manifest.node? id,
          node.compiledCode = node'.compiledCode ∧
            (∀ x ∈ node.dependsOn, x ∈ node'.dependsOn) ∧
            ∀ x ∈ node'.dependsOn, x ∈ node.dependsOn := by
    decide +kernel
  obtain ⟨relation, mock, kind⟩ := names id mem
  have nodes := nodes id mem
  exact ⟨relation, mock, fun _ => kind,
    fun unmocked node node' found found' => (nodes unmocked node found node' found').1,
    fun unmocked node node' found found' x =>
      ⟨(nodes unmocked node found node' found').2.1 x,
        (nodes unmocked node found node' found').2.2 x⟩⟩

theorem resolve_joined :
    (∀ id, joined.Reaches "model.x.top" id → AgreeAt joined rejoined id) ∧
      joined.resolve "model.x.top" = rejoined.resolve "model.x.top" :=
  ⟨fun _ => joined_agreeAt,
    resolve_congr joined rejoined "model.x.top" rfl rfl fun _ => joined_agreeAt⟩

end ModelBench.Resolver
