import ModelBench.Proofs.Resolution.Memo
import ModelBench.Proofs.Text.Ascending
import Mathlib.Logic.Relation

/-!
# Derivations of replacements

`Yields` says without any walk which replacement stands for an id: that of its mock, or its
statement with what its dependencies yield put into it. What a resolver answers is derived in this
way (`yields_of_resolve`), so facts about resolved statements are proved by induction on the
derivation. `Reads` is the relation of ids that a walk follows; a derivation covers everything that
is read (`Yields.of_reads`) and no id in it reads itself (`Yields.not_reads_self`).
-/

namespace ModelBench.Resolver

open Relation
open Sql (Replacement)

variable {r : Resolver} {path : List String} {id : String} {node : Manifest.Node}
  {replacement : Replacement}

/-! ## Tasks -/

/-- A mock is given for an id exactly when the id is known, has a name and its mock can be
encoded. -/
theorem task_eq_given_iff :
    r.task id = .ok (.given replacement) ↔
      ∃ relation mock encoded, r.manifest.relation id = some relation ∧
        r.mocks.lookup id = some mock ∧ Text.isBlankString relation.fullName = false ∧
        mock.encode r.files = .ok encoded ∧
        replacement = ⟨relation.fullName, encoded.asRelation, relation.shortName⟩ := by
  constructor
  · intro h
    unfold task at h
    split at h
    · cases h
    · next relation known =>
      split at h
      · next mock mocked =>
        unfold encodeMock at h
        split_ifs at h with blank
        · cases h
        · split at h
          · next encoded ok =>
            simp only [Except.map, Except.ok.injEq, Task.given.injEq] at h
            exact ⟨relation, mock, encoded, known, mocked, by simpa using blank, ok, h.symm⟩
          · cases h
      · unfold compileTask at h
        split at h
        · split_ifs at h
          all_goals cases h
        · cases h
  · rintro ⟨relation, mock, encoded, known, mocked, named, ok, rfl⟩
    simp [task, known, mocked, encodeMock, named, ok, Except.map]

/-- The statement of an id is to be resolved exactly when the id is not mocked and is a model or
seed with a statement. -/
theorem task_eq_compile_iff :
    r.task id = .ok (.compile node) ↔
      r.mocks.lookup id = none ∧ r.manifest.node? id = some node ∧
        (NodeKind.ofId id).isCompiled = true ∧ node.hasSql = true := by
  constructor
  · intro h
    have found := node?_of_task h
    have known : r.manifest.relation id = some node.relation := by
      rw [Manifest.relation, found]
    rw [task, known] at h
    cases mocked : r.mocks.lookup id with
    | some mock =>
      rw [mocked] at h
      simp only [Except.map] at h
      split at h <;> simp at h
    | none =>
      simp only [mocked, compileTask, found] at h
      split_ifs at h with compiled sql
      exact ⟨rfl, found, compiled, sql⟩
  · rintro ⟨unmocked, found, compiled, sql⟩
    simp [task, Manifest.relation, found, unmocked, compileTask, compiled, sql]

theorem mem_dependencies {x : String} : x ∈ dependencies node ↔ x ∈ node.dependsOn :=
  Text.mem_ascending

/-! ## Reading -/

/-- Whether resolving the first id goes on to the second one: the first is a model or seed without
a mock that depends on the second. -/
def Reads (r : Resolver) (id dependency : String) : Prop :=
  r.mocks.lookup id = none ∧
    (r.manifest.kindOf id = some .model ∨ r.manifest.kindOf id = some .seed) ∧
    ∃ node, r.manifest.node? id = some node ∧ dependency ∈ node.dependsOn

/-- The ids that resolving a target may come to: the target and everything that is read from
there. -/
abbrev Reaches (r : Resolver) : String → String → Prop := ReflTransGen r.Reads

theorem kindOf_of_node? (m : Manifest) (found : m.node? id = some node) :
    m.kindOf id = some (.ofId id) := by
  rw [Manifest.kindOf, found]
  rfl

theorem isCompiled_ofId_iff (m : Manifest) (found : m.node? id = some node) :
    (NodeKind.ofId id).isCompiled = true ↔
      m.kindOf id = some .model ∨ m.kindOf id = some .seed := by
  rw [kindOf_of_node? m found, Option.some.injEq, Option.some.injEq]
  cases NodeKind.ofId id <;> simp [NodeKind.isCompiled]

theorem reads_iff (task : r.task id = .ok (.compile node)) {x : String} :
    r.Reads id x ↔ x ∈ dependencies node := by
  obtain ⟨unmocked, found, compiled, -⟩ := task_eq_compile_iff.1 task
  rw [mem_dependencies]
  constructor
  · rintro ⟨-, -, other, found', mem⟩
    obtain rfl : other = node := by simpa [found] using found'.symm
    exact mem
  · intro mem
    exact ⟨unmocked, (isCompiled_ofId_iff _ found).1 compiled, node, found, mem⟩

theorem not_reads_of_given (task : r.task id = .ok (.given replacement)) {x : String} :
    ¬ r.Reads id x := by
  obtain ⟨_, mock, _, -, mocked, -⟩ := task_eq_given_iff.1 task
  rintro ⟨unmocked, -⟩
  rw [unmocked] at mocked
  cases mocked

/-- The ids that resolving an id goes on to, as a list. -/
def readBy (r : Resolver) (id : String) : List String :=
  match r.mocks.lookup id, r.manifest.node? id with
  | none, some node => if (NodeKind.ofId id).isCompiled then node.dependsOn else []
  | _, _ => []

theorem mem_readBy {x : String} : x ∈ r.readBy id ↔ r.Reads id x := by
  constructor
  · intro h
    unfold readBy at h
    split at h
    · next node unmocked found =>
      split_ifs at h with compiled
      · exact ⟨unmocked, (isCompiled_ofId_iff _ found).1 compiled, node, found, h⟩
      · cases h
    · cases h
  · rintro ⟨unmocked, compiled, node, found, mem⟩
    simpa [readBy, unmocked, found, (isCompiled_ofId_iff _ found).2 compiled] using mem

/-- A list that holds the target and everything read by its members holds everything within
reach. -/
theorem mem_of_reaches {ids : List String} {target : String} (start : target ∈ ids)
    (closed : ∀ x ∈ ids, ∀ y ∈ r.readBy x, y ∈ ids) (reach : r.Reaches target id) : id ∈ ids := by
  induction reach with
  | refl => exact start
  | tail _ reads ih => exact closed _ ih _ (mem_readBy.2 reads)

/-! ## Derivations -/

/-- What stands for an id: its mock, or its statement with what stands for its dependencies put
into it. -/
inductive Yields (r : Resolver) : String → Replacement → Prop
  | given {id : String} {replacement : Replacement}
      (task : r.task id = .ok (.given replacement)) : Yields r id replacement
  | compile {id : String} {node : Manifest.Node} {sql : String} (parts : String → Replacement)
      (task : r.task id = .ok (.compile node))
      (below : ∀ x ∈ dependencies node, Yields r x (parts x))
      (put : r.substituteAll id (fun x => .ok (parts x)) node.compiledCode (dependencies node) =
        .ok sql) :
      Yields r id (finish node sql)

theorem found_of_substituteAll {find : String → Except ResolveError Replacement}
    {sql result : String} {names : List String}
    (h : r.substituteAll id find sql names = .ok result) :
    ∀ x ∈ names, ∃ replacement, find x = .ok replacement := by
  induction names generalizing sql with
  | nil => simp
  | cons dependency rest ih =>
    rw [substituteAll] at h
    split at h
    · cases h
    · next replacement found =>
      split at h
      · cases h
      · intro x hx
        rcases List.mem_cons.1 hx with rfl | hx
        · exact ⟨replacement, found⟩
        · exact ih h x hx

theorem yields_of_plainFrom (h : r.plainFrom path id = .ok replacement) :
    r.Yields id replacement := by
  induction path, id using plainFrom.induct r generalizing replacement with
  | case1 path id mem => simp [plainFrom_of_mem mem] at h
  | case2 path id fresh e task => simp [plainFrom_of_error fresh task] at h
  | case3 path id fresh given task =>
    rw [plainFrom_of_given fresh task] at h
    cases h
    exact .given task
  | case4 path id fresh node task ih =>
    rw [plainFrom_of_compile fresh task] at h
    cases put : r.substituteAll id (r.plainFrom (id :: path)) node.compiledCode
      (dependencies node) with
    | error e => simp [put, Except.map] at h
    | ok sql =>
      rw [put] at h
      cases h
      have found := found_of_substituteAll put
      have : Nonempty Replacement := ⟨.zero⟩
      choose! parts found using found
      refine .compile parts task (fun x hx => ih x (found x hx)) ?_
      rw [← substituteAll_congr found]
      exact put

/-- What a resolver answers is derived. -/
theorem yields_of_resolve (h : r.resolve id = .ok replacement) : r.Yields id replacement := by
  rw [resolve, map_fst_resolveFrom (.nil []) (.nil r)] at h
  exact yields_of_plainFrom h

theorem Yields.exists_task (h : r.Yields id replacement) : ∃ task, r.task id = .ok task := by
  cases h with
  | given task => exact ⟨_, task⟩
  | compile parts task below put => exact ⟨_, task⟩

/-- Whatever is read in a derivation has a derivation of its own. -/
theorem Yields.of_reads (h : r.Yields id replacement) {x : String} (reads : r.Reads id x) :
    ∃ replacement, r.Yields x replacement := by
  cases h with
  | given task => exact absurd reads (not_reads_of_given task)
  | compile parts task below put => exact ⟨parts x, below x ((reads_iff task).1 reads)⟩

theorem Yields.of_reaches (h : r.Yields id replacement) {x : String} (reach : r.Reaches id x) :
    ∃ replacement, r.Yields x replacement := by
  induction reach with
  | refl => exact ⟨replacement, h⟩
  | tail _ reads ih =>
    obtain ⟨_, h⟩ := ih
    exact h.of_reads reads

/-- No id within a derivation reads itself: a derivation is finite. -/
theorem Yields.not_reads_self (h : r.Yields id replacement) {x : String}
    (reach : r.Reaches id x) : ¬ TransGen r.Reads x x := by
  induction h generalizing x with
  | given task =>
    rcases ReflTransGen.cases_head reach with rfl | ⟨y, reads, -⟩
    · intro cycle
      obtain ⟨y, reads, -⟩ := TransGen.head'_iff.1 cycle
      exact not_reads_of_given task reads
    · exact absurd reads (not_reads_of_given task)
  | compile parts task below put ih =>
    rcases ReflTransGen.cases_head reach with rfl | ⟨y, reads, reach⟩
    · -- a cycle through the id itself passes through one of its dependencies
      intro cycle
      obtain ⟨y, reads, back⟩ := TransGen.head'_iff.1 cycle
      exact ih y ((reads_iff task).1 reads) back cycle
    · exact ih y ((reads_iff task).1 reads) reach

end ModelBench.Resolver
