import ModelBench.Proofs.Resolution.Derivation

/-!
# When resolving succeeds

A target is resolved exactly when everything within its reach can be used and nothing there depends
on itself (`resolve_ok_iff`). The names of replacements are never empty, so making them never fails.
-/

namespace ModelBench.Resolver

open Relation
open Sql (Replacement Substituter)

variable {r : Resolver} {path : List String} {target id : String} {node : Manifest.Node}
  {replacement : Replacement}

/-! ## Names of replacements -/

theorem fullName_ne_empty (node : Manifest.Node) : node.fullName ≠ "" := by
  intro h
  have := congrArg String.length h
  simp [Manifest.Node.fullName, toString] at this

theorem Yields.fullName_ne_empty (h : r.Yields id replacement) : replacement.fullName ≠ "" := by
  cases h with
  | given task =>
    obtain ⟨relation, _, _, -, -, named, -, rfl⟩ := task_eq_given_iff.1 task
    intro empty
    simp only at empty
    rw [empty] at named
    cases named
  | compile => exact Resolver.fullName_ne_empty _

/-- Whether all replacements with a name can be made. -/
def MakesAllNamed (substituter : Substituter) : Prop :=
  ∀ sql replacement, replacement.fullName ≠ "" → ∃ result, substituter sql replacement = .ok result

theorem makesAllNamed_substitute : MakesAllNamed Sql.substitute := fun sql _ named =>
  ⟨_, Sql.substitute_of_named named sql⟩

theorem substituteIn_of_named (makes : MakesAllNamed r.substituter)
    (named : replacement.fullName ≠ "") (id sql : String) :
    ∃ result, r.substituteIn id sql replacement = .ok result := by
  obtain ⟨result, h⟩ := makes sql replacement named
  exact ⟨result, by rw [substituteIn, h]; rfl⟩

theorem substituteAll_of_named (makes : MakesAllNamed r.substituter)
    {find : String → Except ResolveError Replacement} {names : List String}
    (found : ∀ x ∈ names, ∃ replacement, find x = .ok replacement ∧ replacement.fullName ≠ "")
    (id sql : String) : ∃ result, r.substituteAll id find sql names = .ok result := by
  induction names generalizing sql with
  | nil => exact ⟨sql, rfl⟩
  | cons dependency rest ih =>
    obtain ⟨replacement, here, named⟩ := found dependency List.mem_cons_self
    obtain ⟨next, put⟩ := substituteIn_of_named makes named id sql
    obtain ⟨result, h⟩ := ih (fun x hx => found x (List.mem_cons_of_mem _ hx)) next
    exact ⟨result, by simp only [substituteAll, here, put, h]⟩

/-! ## The condition -/

/-- The dependencies among the ids within reach of a target that are not mocked. -/
def DependsWithin (r : Resolver) (target id dependency : String) : Prop :=
  (r.Reaches target id ∧ r.mocks.lookup id = none) ∧
    (r.Reaches target dependency ∧ r.mocks.lookup dependency = none) ∧
    ∃ node, r.manifest.node? id = some node ∧ dependency ∈ node.dependsOn

/-- Everything within reach of a target can be used, and nothing there depends on itself. -/
structure Resolvable (r : Resolver) (target : String) : Prop where
  known : ∀ id, r.Reaches target id →
    id ∈ r.manifest.nodes.map Prod.fst ∨ id ∈ r.manifest.sources.map Prod.fst
  mocked : ∀ id mock, r.Reaches target id → r.mocks.lookup id = some mock →
    (∃ relation, r.manifest.relation id = some relation ∧
      Text.isBlankString relation.fullName = false) ∧
    ∃ encoded, mock.encode r.files = .ok encoded
  unmocked : ∀ id, r.Reaches target id → r.mocks.lookup id = none →
    (r.manifest.kindOf id = some .model ∨ r.manifest.kindOf id = some .seed) ∧
    ∃ node, r.manifest.node? id = some node ∧ Text.isBlankString node.compiledCode = false
  acyclic : ∀ id, ¬ TransGen (r.DependsWithin target) id id

theorem mem_keys_of_lookup {α : Type} {entries : List (String × α)} {value : α}
    (h : entries.lookup id = some value) : id ∈ entries.map Prod.fst := by
  obtain ⟨front, back, rfl, -⟩ := List.lookup_eq_some_iff.1 h
  simp

/-! ## Success makes everything usable -/

theorem known_of_relation {m : Manifest} {relation : Manifest.Relation}
    (known : m.relation id = some relation) :
    id ∈ m.nodes.map Prod.fst ∨ id ∈ m.sources.map Prod.fst := by
  rw [Manifest.relation] at known
  cases found : m.node? id with
  | some node => exact .inl (mem_keys_of_lookup found)
  | none =>
    rw [found] at known
    obtain ⟨source, found, -⟩ := Option.map_eq_some_iff.1 known
    exact .inr (mem_keys_of_lookup found)

theorem known_of_task {task : Task} (h : r.task id = .ok task) :
    id ∈ r.manifest.nodes.map Prod.fst ∨ id ∈ r.manifest.sources.map Prod.fst := by
  rw [Resolver.task] at h
  cases known : r.manifest.relation id with
  | none => simp [known] at h
  | some relation => exact known_of_relation known

theorem mock_of_task {task : Task} {mock : Mock} (h : r.task id = .ok task)
    (mocked : r.mocks.lookup id = some mock) :
    (∃ relation, r.manifest.relation id = some relation ∧
      Text.isBlankString relation.fullName = false) ∧
    ∃ encoded, mock.encode r.files = .ok encoded := by
  cases task with
  | given replacement =>
    obtain ⟨relation, found, encoded, known, mocked', named, ok, -⟩ := task_eq_given_iff.1 h
    obtain rfl : found = mock := by simpa [mocked] using mocked'.symm
    exact ⟨⟨relation, known, named⟩, encoded, ok⟩
  | compile node =>
    have := (task_eq_compile_iff.1 h).1
    simp [mocked] at this

theorem compile_of_task {task : Task} (h : r.task id = .ok task)
    (unmocked : r.mocks.lookup id = none) :
    ∃ node, r.task id = .ok (.compile node) := by
  cases task with
  | given replacement =>
    obtain ⟨_, _, _, -, mocked, -⟩ := task_eq_given_iff.1 h
    simp [unmocked] at mocked
  | compile node => exact ⟨node, h⟩

theorem Yields.resolvable (h : r.Yields target replacement) : r.Resolvable target where
  known id reach := by
    obtain ⟨_, h⟩ := h.of_reaches reach
    obtain ⟨task, h⟩ := h.exists_task
    exact known_of_task h
  mocked id mock reach mocked := by
    obtain ⟨_, h⟩ := h.of_reaches reach
    obtain ⟨task, h⟩ := h.exists_task
    exact mock_of_task h mocked
  unmocked id reach unmocked := by
    obtain ⟨_, h⟩ := h.of_reaches reach
    obtain ⟨task, h⟩ := h.exists_task
    obtain ⟨node, h⟩ := compile_of_task h unmocked
    obtain ⟨-, found, compiled, sql⟩ := task_eq_compile_iff.1 h
    exact ⟨(isCompiled_ofId_iff _ found).1 compiled, node, found,
      by simpa [Manifest.Node.hasSql] using sql⟩
  acyclic id cycle := by
    -- every dependency within reach is read, as the derivation covers both ends
    have reads : ∀ x y, r.DependsWithin target x y → r.Reads x y := by
      rintro x y ⟨⟨reach, unmocked⟩, -, node, found, mem⟩
      obtain ⟨_, h⟩ := h.of_reaches reach
      obtain ⟨task, h⟩ := h.exists_task
      obtain ⟨node', h⟩ := compile_of_task h unmocked
      obtain ⟨-, found', compiled, -⟩ := task_eq_compile_iff.1 h
      exact ⟨unmocked, (isCompiled_ofId_iff _ found').1 compiled, node, found, mem⟩
    obtain ⟨y, ⟨⟨reach, -⟩, -⟩, -⟩ := TransGen.head'_iff.1 cycle
    exact h.not_reads_self reach (TransGen.mono reads id id cycle)

/-! ## Usable targets are resolved -/

theorem Resolvable.exists_task (h : r.Resolvable target) (reach : r.Reaches target id) :
    ∃ task, r.task id = .ok task := by
  cases mocked : r.mocks.lookup id with
  | some mock =>
    obtain ⟨⟨relation, known, named⟩, encoded, ok⟩ := h.mocked id mock reach mocked
    exact ⟨_, task_eq_given_iff.2 ⟨relation, mock, encoded, known, mocked, named, ok, rfl⟩⟩
  | none =>
    obtain ⟨compiled, node, found, sql⟩ := h.unmocked id reach mocked
    refine ⟨_, task_eq_compile_iff.2 ⟨mocked, found, (isCompiled_ofId_iff _ found).2 compiled, ?_⟩⟩
    rw [Manifest.Node.hasSql, sql]
    rfl

/-- What is read on the way to an id that is not mocked is a dependency within reach. -/
theorem dependsWithin_of_reads (reach : r.Reaches target id) {x : String}
    (reads : TransGen r.Reads id x) (unmocked : r.mocks.lookup x = none) :
    TransGen (r.DependsWithin target) id x := by
  induction reads using TransGen.head_induction_on with
  | single reads =>
    have ⟨here, _, depends⟩ := reads
    exact .single ⟨⟨reach, here⟩, ⟨reach.tail reads, unmocked⟩, depends⟩
  | head reads later ih =>
    have ⟨here, _, depends⟩ := reads
    obtain ⟨_, ⟨next, -⟩, -⟩ := TransGen.head'_iff.1 later
    exact (ih (reach.tail reads)).head
      ⟨⟨reach, here⟩, ⟨reach.tail reads, next⟩, depends⟩

theorem Resolvable.not_reads_self (h : r.Resolvable target) (reach : r.Reaches target id) :
    ¬ TransGen r.Reads id id := by
  intro cycle
  obtain ⟨_, ⟨unmocked, -⟩, -⟩ := TransGen.head'_iff.1 cycle
  exact h.acyclic id (dependsWithin_of_reads reach cycle unmocked)

/-- Along a path on which every id reads the current one, resolving does not fail. -/
theorem Resolvable.plainFrom_ok (h : r.Resolvable target) (makes : MakesAllNamed r.substituter)
    (reach : r.Reaches target id) (chain : ∀ x ∈ path, TransGen r.Reads x id) :
    ∃ replacement, r.plainFrom path id = .ok replacement := by
  induction path, id using plainFrom.induct r with
  | case1 path id mem => exact absurd (chain id mem) (h.not_reads_self reach)
  | case2 path id fresh e task =>
    obtain ⟨_, ok⟩ := h.exists_task reach
    rw [task] at ok
    cases ok
  | case3 path id fresh given task => exact ⟨given, plainFrom_of_given fresh task⟩
  | case4 path id fresh node task ih =>
    have found : ∀ x ∈ dependencies node, ∃ replacement,
        r.plainFrom (id :: path) x = .ok replacement ∧ replacement.fullName ≠ "" := by
      intro x hx
      have reads : r.Reads id x := (reads_iff task).2 hx
      have chain' : ∀ y ∈ id :: path, TransGen r.Reads y x := by
        intro y hy
        rcases List.mem_cons.1 hy with rfl | hy
        · exact .single reads
        · exact (chain y hy).tail reads
      obtain ⟨replacement, ok⟩ := ih x (reach.tail reads) chain'
      exact ⟨replacement, ok, (yields_of_plainFrom ok).fullName_ne_empty⟩
    obtain ⟨sql, put⟩ := substituteAll_of_named makes found id node.compiledCode
    exact ⟨finish node sql, by rw [plainFrom_of_compile fresh task, put]; rfl⟩

theorem exists_plainFrom_iff (makes : MakesAllNamed r.substituter) :
    (∃ replacement, r.plainFrom [] target = .ok replacement) ↔ r.Resolvable target := by
  constructor
  · rintro ⟨replacement, h⟩
    exact (yields_of_plainFrom h).resolvable
  · intro h
    exact h.plainFrom_ok makes .refl (by simp)

theorem exists_resolve_iff (makes : MakesAllNamed r.substituter) :
    (∃ replacement, r.resolve target = .ok replacement) ↔ r.Resolvable target := by
  rw [resolve, map_fst_resolveFrom (.nil []) (.nil r)]
  exact exists_plainFrom_iff makes

/-! ## No replacement fails -/

theorem task_ne_substitution {x : String} {e : Sql.SubstitutionError} :
    r.task id ≠ .error (.substitution x e) := by
  intro h
  rw [task] at h
  split at h
  · cases h
  · split at h
    · unfold encodeMock at h
      split_ifs at h
      · cases h
      · split at h <;> cases h
    · unfold compileTask at h
      split at h
      · split_ifs at h
        all_goals cases h
      · cases h

/-- Putting what is found into a statement fails with what finding it fails with, or because a
replacement cannot be made. -/
theorem error_of_substituteAll_or {find : String → Except ResolveError Replacement}
    {names : List String} {sql : String} {e : ResolveError}
    (h : r.substituteAll id find sql names = .error e) :
    (∃ x ∈ names, find x = .error e) ∨ ∃ x replacement sql, find x = .ok replacement ∧
      r.substituteIn id sql replacement = .error e := by
  induction names generalizing sql with
  | nil => cases h
  | cons dependency rest ih =>
    rw [substituteAll] at h
    split at h
    · next found =>
      cases h
      exact .inl ⟨dependency, List.mem_cons_self, found⟩
    · next replacement found =>
      split at h
      · next put =>
        cases h
        exact .inr ⟨dependency, replacement, sql, found, put⟩
      · rcases ih h with ⟨x, hx, found⟩ | failed
        · exact .inl ⟨x, List.mem_cons_of_mem _ hx, found⟩
        · exact .inr failed

theorem error_of_substituteAll (makes : MakesAllNamed r.substituter)
    {find : String → Except ResolveError Replacement} {names : List String} {sql : String}
    {e : ResolveError} (named : ∀ x replacement, find x = .ok replacement →
      replacement.fullName ≠ "")
    (h : r.substituteAll id find sql names = .error e) : ∃ x ∈ names, find x = .error e := by
  refine (error_of_substituteAll_or h).resolve_right ?_
  rintro ⟨x, replacement, sql, found, failed⟩
  obtain ⟨next, put⟩ := substituteIn_of_named makes (named _ _ found) id sql
  rw [put] at failed
  cases failed

theorem plainFrom_ne_substitution (makes : MakesAllNamed r.substituter) {x : String}
    {e : Sql.SubstitutionError} : r.plainFrom path id ≠ .error (.substitution x e) := by
  induction path, id using plainFrom.induct r with
  | case1 path id mem =>
    rw [plainFrom_of_mem mem]
    simp
  | case2 path id fresh e' task =>
    rw [plainFrom_of_error fresh task]
    rintro ⟨⟩
    exact task_ne_substitution task
  | case3 path id fresh given task =>
    rw [plainFrom_of_given fresh task]
    simp
  | case4 path id fresh node task ih =>
    rw [plainFrom_of_compile fresh task]
    intro h
    cases put : r.substituteAll id (r.plainFrom (id :: path)) node.compiledCode
      (dependencies node) with
    | ok sql => simp [put, Except.map] at h
    | error e' =>
      rw [put] at h
      cases h
      obtain ⟨y, -, found⟩ := error_of_substituteAll makes
        (fun _ _ ok => (yields_of_plainFrom ok).fullName_ne_empty) put
      exact ih y found

/-- The resolver that makes replacements in the text of statements. -/
def textual (manifest : Manifest) (mocks : List (String × Mock)) (files : Volume) : Resolver :=
  { manifest, mocks, files, substituter := Sql.substitute }

/-- Resolving a target succeeds exactly when every id within its reach is known, every mock there
has a name and can be encoded, every other id there is a model or seed with a statement, and none
of these depends on itself. No replacement ever fails to be made. -/
theorem resolve_ok_iff (manifest : Manifest) (mocks : List (String × Mock)) (files : Volume)
    (target : String) :
    ((∃ replacement, (textual manifest mocks files).resolve target = .ok replacement) ↔
      (textual manifest mocks files).Resolvable target) ∧
    ∀ id e, (textual manifest mocks files).resolve target ≠ .error (.substitution id e) := by
  rw [resolve, map_fst_resolveFrom (.nil []) (.nil _)]
  exact ⟨exists_plainFrom_iff makesAllNamed_substitute,
    fun _ _ => plainFrom_ne_substitution makesAllNamed_substitute⟩

/-! ## Models of examples -/

/-- A model of the schema `d` of the project `p`, under its id. -/
def sampleModel (name sql : String) (dependsOn : List String) : String × Manifest.Node :=
  ("model.x." ++ name,
    { uniqueId := "model.x." ++ name, name, resourceType := "model", database := "p", schema := "d"
      shortName := name, compiledCode := sql, dependsOn, qualifiedName := [] })

end ModelBench.Resolver
