import ModelBench.Preflight
import ModelBench.Proofs.Except
import ModelBench.Proofs.Generation
import ModelBench.Proofs.Manifest.Graph
import ModelBench.Proofs.Resolution.Success

/-!
# Tests without problems

A test in which the check finds no problem is generated exactly when, within reach of its model,
nothing depends on itself and every mocked id is known and has a name
(`exists_generate_iff_of_no_problems`). The check looks at everything that resolving comes to and
that is not mocked (`mem_reach_of_reaches`), but it neither looks for circles nor at the names of
mocked ids, so a test can fail in which it finds nothing (`not_forall_generates_of_no_problems`).
-/

namespace ModelBench

namespace TestSpec

open Relation

variable {files : Volume} {m : Manifest} {spec : TestSpec} {id : String} {mock : Mock}

/-- Whether every file of a test that is there holds a mock. -/
def FilesWellFormed (files : Volume) (spec : TestSpec) : Prop :=
  ∀ mock, (mock = spec.output ∨ ∃ id, spec.mocks.lookup id = some mock) →
    files.holds mock.filepath = true → ∃ encoded, mock.encode files = .ok encoded

/-! ## What no problem says -/

theorem problems_eq_nil_iff : spec.problems files m = [] ↔
    spec.modelProblem m = none ∧
      (DependencyGraph.ofManifest m).unmockedLeaves spec.model spec.mocked = [] ∧
      (DependencyGraph.ofManifest m).uncompiledNodes spec.model spec.mocked = [] ∧
      spec.fileProblems files = [] := by
  rw [problems]
  cases spec.modelProblem m with
  | some problem => simp
  | none =>
    simp only [dependencyProblems, List.append_eq_nil_iff, List.map_eq_nil_iff, and_assoc, true_and]

theorem notMem_mocked_iff : id ∉ spec.mocked ↔ spec.mocks.lookup id = none :=
  DependencyGraph.notMem_keys_iff

/-- What a test uses is its output or one of its mocks. -/
theorem mem_of_used (used : mock = spec.output ∨ ∃ id, spec.mocks.lookup id = some mock) :
    mock ∈ spec.output :: spec.mocks.map Prod.snd := by
  rcases used with rfl | ⟨id, mocked⟩
  · exact List.mem_cons_self
  · obtain ⟨front, back, eq, -⟩ := List.lookup_eq_some_iff.1 mocked
    rw [eq]
    simp

theorem holds_of_fileProblem_eq_none {node : Option String}
    (h : fileProblem files spec node mock = none) : files.holds mock.filepath = true := by
  rw [fileProblem] at h
  split_ifs at h with there
  exact there

/-- Without problems with files all of them are there. -/
theorem holds_of_no_fileProblems (h : spec.fileProblems files = [])
    (used : mock = spec.output ∨ ∃ id, spec.mocks.lookup id = some mock) :
    files.holds mock.filepath = true := by
  rw [fileProblems, List.append_eq_nil_iff, List.filterMap_eq_nil_iff] at h
  rcases used with rfl | ⟨id, mocked⟩
  · exact holds_of_fileProblem_eq_none (Option.toList_eq_nil_iff.1 h.2)
  · have member : id ∈ Text.ascending spec.mocked := by
      rw [Text.mem_ascending]
      by_contra absent
      rw [notMem_mocked_iff.1 absent] at mocked
      cases mocked
    have none_ := h.1 id member
    rw [mocked] at none_
    exact holds_of_fileProblem_eq_none none_

/-! ## What the check looks at -/

/-- Without unmocked leaves, whatever is within reach in the graph is a node with dependencies that
the graph knows. -/
theorem exists_node_of_mem_reach
    (leaves : (DependencyGraph.ofManifest m).unmockedLeaves spec.model spec.mocked = [])
    (h : id ∈ (DependencyGraph.ofManifest m).reach spec.model spec.mocked) :
    ∃ node, m.node? id = some node ∧ (NodeKind.ofId id).isCompiled = true ∧
      (DependencyGraph.ofManifest m).next id = node.dependsOn ∧
      (DependencyGraph.ofManifest m).lacksSql id = !node.hasSql := by
  rw [DependencyGraph.unmockedLeaves, List.filter_eq_nil_iff] at leaves
  exact DependencyGraph.exists_node_of_isCompiled (by simpa using leaves id h)

/-- Without unmocked leaves, everything unmocked that resolving comes to is within reach in the
graph. -/
theorem mem_reach_of_reaches
    (leaves : (DependencyGraph.ofManifest m).unmockedLeaves spec.model spec.mocked = [])
    (reach : (spec.resolver files m).Reaches spec.model id)
    (unmocked : spec.mocks.lookup id = none) :
    id ∈ (DependencyGraph.ofManifest m).reach spec.model spec.mocked := by
  induction reach with
  | refl => exact DependencyGraph.mem_reach_iff.2 ⟨notMem_mocked_iff.2 unmocked, .refl⟩
  | @tail id next _ reads ih =>
    obtain ⟨here, -, node, found, member⟩ := reads
    have mem := ih here
    obtain ⟨node', found', -, next_, -⟩ := exists_node_of_mem_reach leaves mem
    obtain rfl : node' = node := by
      have found : m.node? id = some node := found
      simpa [found] using found'.symm
    have leads : (DependencyGraph.ofManifest m).Leads spec.mocked id next :=
      ⟨notMem_mocked_iff.2 here, notMem_mocked_iff.2 unmocked, by rw [next_]; exact member⟩
    obtain ⟨start, path⟩ := DependencyGraph.mem_reach_iff.1 mem
    exact DependencyGraph.mem_reach_iff.2 ⟨start, path.tail leads⟩

/-- Whether every mocked id within reach of the model is known and has a name. -/
def MocksNamed (files : Volume) (m : Manifest) (spec : TestSpec) : Prop :=
  ∀ id mock, (spec.resolver files m).Reaches spec.model id → spec.mocks.lookup id = some mock →
    ∃ relation, m.relation id = some relation ∧ Text.isBlankString relation.fullName = false

/-- A test without problems whose mocked ids have names can be resolved unless something within
reach depends on itself. -/
theorem resolvable_of_no_problems (wellFormed : spec.FilesWellFormed files)
    (clean : spec.problems files m = []) (named : spec.MocksNamed files m)
    (acyclic : ∀ id, ¬ TransGen ((spec.resolver files m).DependsWithin spec.model) id id) :
    (spec.resolver files m).Resolvable spec.model := by
  obtain ⟨-, leaves, compiled, there⟩ := problems_eq_nil_iff.1 clean
  have node (id : String) (reach : (spec.resolver files m).Reaches spec.model id)
      (unmocked : spec.mocks.lookup id = none) :
      ∃ node, m.node? id = some node ∧ (NodeKind.ofId id).isCompiled = true ∧
        node.hasSql = true := by
    have mem := mem_reach_of_reaches leaves reach unmocked
    obtain ⟨node, found, kind, -, lacks⟩ := exists_node_of_mem_reach leaves mem
    rw [DependencyGraph.uncompiledNodes, List.filter_eq_nil_iff] at compiled
    have hasSql := compiled id mem
    rw [lacks] at hasSql
    exact ⟨node, found, kind, by simpa using hasSql⟩
  refine ⟨fun id reach => ?_, fun id mock reach mocked => ?_, fun id reach unmocked => ?_, acyclic⟩
  · cases mocked : spec.mocks.lookup id with
    | some mock =>
      obtain ⟨relation, known, -⟩ := named id mock reach mocked
      exact Resolver.known_of_relation known
    | none =>
      obtain ⟨node, found, -⟩ := node id reach mocked
      exact .inl (Resolver.mem_keys_of_lookup found)
  · have used : mock = spec.output ∨ ∃ id, spec.mocks.lookup id = some mock := .inr ⟨id, mocked⟩
    exact ⟨named id mock reach mocked,
      wellFormed mock used (holds_of_no_fileProblems there used)⟩
  · obtain ⟨node, found, kind, hasSql⟩ := node id reach unmocked
    exact ⟨(Resolver.isCompiled_ofId_iff m found).1 kind, node, found,
      by simpa [Manifest.Node.hasSql] using hasSql⟩

/-- A test in which no problem is found, and whose files are well formed where they are there, is
generated exactly when every mocked id within reach of its model is known and has a name, and
nothing within reach depends on itself. -/
theorem exists_generate_iff_of_no_problems (files : Volume) (m : Manifest) (spec : TestSpec)
    (direction : AssertionDirection) (wellFormed : spec.FilesWellFormed files)
    (clean : spec.problems files m = []) :
    (∃ test, spec.generate files m direction = .ok test) ↔
      spec.MocksNamed files m ∧
        ∀ id, ¬ TransGen ((spec.resolver files m).DependsWithin spec.model) id id := by
  obtain ⟨-, -, -, there⟩ := problems_eq_nil_iff.1 clean
  have output := wellFormed spec.output (.inl rfl) (holds_of_no_fileProblems there (.inl rfl))
  rw [exists_generate_iff direction, and_iff_left output,
    Resolver.exists_resolve_iff Resolver.makesAllNamed_substitute]
  constructor
  · intro resolvable
    exact ⟨fun id mock reach mocked => (resolvable.mocked id mock reach mocked).1,
      resolvable.acyclic⟩
  · rintro ⟨named, acyclic⟩
    exact resolvable_of_no_problems wellFormed clean named acyclic

/-! ## An example -/

/-- A model that reads another one, which depends on some id. -/
def layered (dependency : String) : Manifest where
  metadata := none
  nodes := [Resolver.sampleModel "top" "SELECT a FROM `p`.`d`.`mid`" ["model.x.mid"],
    Resolver.sampleModel "mid" "SELECT a FROM `p`.`raw`.`s`" [dependency]]
  sources := [("source.x.s", ⟨"source.x.s", "s", [], "`p`.`raw`.`s`"⟩)]

/-- A test of the first model with a mock for the source. -/
def layeredTest : TestSpec where
  name := "layered"
  model := "model.x.top"
  mocks := [("source.x.s", ⟨"s.csv", []⟩)]
  output := ⟨"s.csv", []⟩

/-- The file of the example: the header `a` and one row. -/
def layeredFiles : Volume := ⟨[], [(["s.csv"], .file [97, 10, 49, 10])]⟩

theorem layered_filesWellFormed : layeredTest.FilesWellFormed layeredFiles := by
  intro mock used _
  have encodes : ∀ mock ∈ layeredTest.output :: layeredTest.mocks.map Prod.snd,
      (mock.encode layeredFiles).toOption.isSome = true := by
    decide +kernel
  obtain ⟨encoded, found⟩ := Option.isSome_iff_exists.1 (encodes mock (mem_of_used used))
  exact ⟨encoded, toOption_eq_some_iff.1 found⟩

/-- Whether the second model reads the source or the first model, no problem is found. -/
theorem layered_problems {dependency : String} (h : dependency ∈ ["source.x.s", "model.x.top"]) :
    layeredTest.problems layeredFiles (layered dependency) = [] := by
  have facts : ∀ dependency ∈ ["source.x.s", "model.x.top"],
      layeredTest.modelProblem (layered dependency) = none ∧
        layeredTest.fileProblems layeredFiles = [] ∧
        (∀ x ∈ ["model.x.top", "model.x.mid"],
          ∀ y ∈ (DependencyGraph.ofManifest (layered dependency)).next x,
            y ∈ ["model.x.top", "model.x.mid"] ∨ y ∈ layeredTest.mocked) ∧
        ∀ x ∈ ["model.x.top", "model.x.mid"],
          (DependencyGraph.ofManifest (layered dependency)).isCompiled x = true ∧
            (DependencyGraph.ofManifest (layered dependency)).lacksSql x = false := by
    decide +kernel
  obtain ⟨model, there, closed, nodes⟩ := facts dependency h
  have reach (x : String) (h : x ∈ (DependencyGraph.ofManifest (layered dependency)).reach
      layeredTest.model layeredTest.mocked) : x ∈ ["model.x.top", "model.x.mid"] :=
    DependencyGraph.mem_of_mem_reach List.mem_cons_self closed h
  refine problems_eq_nil_iff.2 ⟨model, List.filter_eq_nil_iff.2 fun x mem => ?_,
    List.filter_eq_nil_iff.2 fun x mem => ?_, there⟩
  · simp [(nodes x (reach x mem)).1]
  · simp [(nodes x (reach x mem)).2]

theorem exists_generate_iff_layered :
    layeredTest.FilesWellFormed layeredFiles ∧
      layeredTest.problems layeredFiles (layered "source.x.s") = [] ∧
      ((∃ test, layeredTest.generate layeredFiles (layered "source.x.s") .both = .ok test) ↔
        layeredTest.MocksNamed layeredFiles (layered "source.x.s") ∧ ∀ id, ¬ TransGen
          ((layeredTest.resolver layeredFiles (layered "source.x.s")).DependsWithin
            layeredTest.model) id id) := by
  have clean : layeredTest.problems layeredFiles (layered "source.x.s") = [] :=
    layered_problems (by decide)
  exact ⟨layered_filesWellFormed, clean, exists_generate_iff_of_no_problems layeredFiles
    (layered "source.x.s") layeredTest .both layered_filesWellFormed clean⟩

/-! ## Circles -/

theorem generate_layered_circle : layeredTest.generate layeredFiles (layered "model.x.top") .both =
    .error (.resolve (.cyclicDependency ["model.x.top", "model.x.mid", "model.x.top"])) := by
  decide +kernel

/-- A test need not be generated where no problem is found: the check does not see that two models
depend on each other. -/
theorem not_forall_generates_of_no_problems :
    ¬ ∀ (files : Volume) (m : Manifest) (spec : TestSpec) (direction : AssertionDirection),
      spec.FilesWellFormed files → spec.problems files m = [] →
      ∃ test, spec.generate files m direction = .ok test := by
  intro generates
  have clean : layeredTest.problems layeredFiles (layered "model.x.top") = [] :=
    layered_problems (by decide)
  obtain ⟨test, h⟩ := generates layeredFiles (layered "model.x.top") layeredTest .both
    layered_filesWellFormed clean
  rw [generate_layered_circle] at h
  cases h

end TestSpec

end ModelBench
