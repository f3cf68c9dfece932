import ModelBench.Batch
import ModelBench.Proofs.Files.Folder
import ModelBench.Proofs.Resolution.Encoding

/-!
# What a specification comes to

A specification that is loaded, not left out and generated has one file for each half of its
direction, which is named after the test and the half; one that is not loaded or not generated has a
problem instead. Files of different tests, and of the two halves of one test, have different names
(`names_nodup`), and a test that reads none of the files in which two volumes differ has the same
files in both (`files_congr`).
-/

namespace ModelBench

open ModelBench.Path (IsFileName join)
open Volume (AgreeBeyond)

/-! ## Names of files -/

/-- What the name of the file of a half ends in, behind the name of the test. -/
def AssertionDirection.ending : AssertionDirection → DiffDirection → String
  | .queryMinusExpected, _ => ".sql"
  | .both, .queryMinusExpected => "_QueryMinusExpected.sql"
  | .both, .expectedMinusQuery => "_ExpectedMinusQuery.sql"

/-- A generated test has a file for each of its halves, with the statement of that half. -/
theorem files_of_generate {v : Volume} {m : Manifest} {spec : TestSpec}
    {direction : AssertionDirection} {test : GeneratedTest}
    (h : spec.generate v m direction = .ok test) :
    test.files =
      test.queries.halves.map fun half => (spec.name ++ direction.ending half.1, half.2) := by
  obtain ⟨sql, expected, -, -, rfl⟩ := exists_of_generate h
  cases direction with
  | queryMinusExpected =>
    rw [AssertionQueries.halves_queryMinusExpected]
    simp [GeneratedTest.files, AssertionQueries.isBidirectional, AssertionQueries.ofEncoded,
      AssertionDirection.ending, toString]
  | both =>
    have named (half : DiffDirection) :
        s!"{spec.name}_{half.name}.sql" = spec.name ++ AssertionDirection.both.ending half := by
      cases half <;>
        simp [DiffDirection.name, AssertionDirection.ending, toString, String.append_assoc]
    show List.map (fun half : DiffDirection × String =>
      (s!"{spec.name}_{half.1.name}.sql", half.2)) _ = _
    simp only [named]

/-- Endings have one length, so a name and an ending are told apart. -/
theorem append_ending_inj {direction : AssertionDirection} {name other : String}
    {half last : DiffDirection}
    (same : name ++ direction.ending half = other ++ direction.ending last) :
    name = other ∧ direction.ending half = direction.ending last := by
  have lengths : (direction.ending half).toList.length = (direction.ending last).toList.length := by
    cases direction <;> cases half <;> cases last <;> decide
  have texts := congrArg String.toList same
  rw [String.toList_append, String.toList_append] at texts
  obtain ⟨front, back⟩ := List.append_inj' texts lengths
  exact ⟨String.toList_inj.1 front, String.toList_inj.1 back⟩

/-- The halves of a direction have different endings. -/
theorem endings_nodup (direction : AssertionDirection) :
    (direction.halves.map direction.ending).Nodup := by
  cases direction <;> decide

theorem isFileName_append {name : String} (single : '/' ∉ name.toList)
    (direction : AssertionDirection) (half : DiffDirection) :
    IsFileName (name ++ direction.ending half) := by
  obtain ⟨single', long⟩ : '/' ∉ (direction.ending half).toList ∧
      4 ≤ (direction.ending half).toList.length := by
    cases direction <;> cases half <;> decide
  have length : 4 ≤ (name ++ direction.ending half).toList.length := by
    rw [String.toList_append, List.length_append]
    omega
  have ne (other : String) (short : other.toList.length < 4) :
      name ++ direction.ending half ≠ other := by
    rintro rfl
    omega
  refine ⟨List.ne_nil_of_length_pos (by omega), ?_, ne "." (by decide), ne ".." (by decide)⟩
  rw [String.toList_append, List.mem_append, not_or]
  exact ⟨single, single'⟩

/-! ## What a specification comes to -/

namespace LoadedSpec

variable (v : Volume) (m : Manifest) (filter : Filter) (direction : AssertionDirection)

/-- The names of the files of a specification, and the statements that belong in them: one for each
half of a test that is loaded, not left out, and generated. -/
def files (loaded : LoadedSpec) : List (String × String) :=
  match loaded.spec with
  | .error _ => []
  | .ok spec =>
    if filter.skips spec.name then []
    else
      match spec.generate v m direction with
      | .error _ => []
      | .ok test =>
        test.queries.halves.map fun half => (spec.name ++ direction.ending half.1, half.2)

/-- The problem of a specification that cannot be loaded, or is not left out and cannot be
generated. -/
def problem? (loaded : LoadedSpec) : Option Diagnostic :=
  match loaded.spec with
  | .error e => some (loadDiagnostic loaded.path e)
  | .ok spec =>
    if filter.skips spec.name then none
    else
      match spec.generate v m direction with
      | .error e => some (e.diagnostic spec.name)
      | .ok _ => none

end LoadedSpec

/-- The files of some specifications. -/
def filesOf (v : Volume) (m : Manifest) (filter : Filter) (direction : AssertionDirection)
    (specs : List LoadedSpec) : List (String × String) :=
  specs.flatMap (LoadedSpec.files v m filter direction)

section

variable {v w : Volume} {m : Manifest} {filter : Filter} {direction : AssertionDirection}
  {specs : List LoadedSpec} {loaded : LoadedSpec} {name : String} {places : List Place}

theorem files_of_generated {spec : TestSpec} {test : GeneratedTest} (ok : loaded.spec = .ok spec)
    (runs : filter.skips spec.name = false) (generated : spec.generate v m direction = .ok test) :
    loaded.files v m filter direction =
      test.queries.halves.map fun half => (spec.name ++ direction.ending half.1, half.2) := by
  simp only [LoadedSpec.files, ok, runs, generated, Bool.false_eq_true, if_false]

/-- Every half of a generated test has its file among those of all specifications. -/
theorem mem_filesOf {spec : TestSpec} {test : GeneratedTest} {half : DiffDirection × String}
    (member : loaded ∈ specs) (ok : loaded.spec = .ok spec) (runs : filter.skips spec.name = false)
    (generated : spec.generate v m direction = .ok test) (isHalf : half ∈ test.queries.halves) :
    (spec.name ++ direction.ending half.1, half.2) ∈ filesOf v m filter direction specs := by
  refine List.mem_flatMap.2 ⟨loaded, member, ?_⟩
  rw [files_of_generated ok runs generated]
  exact List.mem_map.2 ⟨half, isHalf, rfl⟩

/-- A specification has no files, or one for each half, named after its test. -/
theorem names_of_files (v : Volume) (m : Manifest) (filter : Filter)
    (direction : AssertionDirection) (loaded : LoadedSpec) :
    loaded.files v m filter direction = [] ∨ ∃ spec, loaded.spec = .ok spec ∧
      (loaded.files v m filter direction).map Prod.fst =
        direction.halves.map fun half => spec.name ++ direction.ending half := by
  cases ok : loaded.spec with
  | error e =>
    left
    rw [LoadedSpec.files, ok]
  | ok spec =>
    cases runs : filter.skips spec.name with
    | true =>
      left
      simp only [LoadedSpec.files, ok, runs, if_true]
    | false =>
      cases generated : spec.generate v m direction with
      | error e =>
        left
        simp only [LoadedSpec.files, ok, runs, generated, Bool.false_eq_true, if_false]
      | ok test =>
        obtain ⟨sql, expected, -, -, halves⟩ := hasHalves_of_generate generated
        refine .inr ⟨spec, rfl, ?_⟩
        rw [files_of_generated ok runs generated, halves, List.map_map, List.map_map]
        rfl

theorem exists_ending_of_mem (member : name ∈ (loaded.files v m filter direction).map Prod.fst) :
    ∃ spec, loaded.spec = .ok spec ∧ ∃ half, name = spec.name ++ direction.ending half := by
  rcases names_of_files v m filter direction loaded with none_ | ⟨spec, eq, names⟩
  · rw [none_] at member
    cases member
  · rw [names] at member
    obtain ⟨half, -, eq'⟩ := List.mem_map.1 member
    exact ⟨spec, eq, half, eq'.symm⟩

/-- Whether the tests of some specifications all have different names. -/
def NamesDiffer (specs : List LoadedSpec) : Prop :=
  specs.Pairwise fun a b => ∀ spec other, a.spec = .ok spec → b.spec = .ok other →
    spec.name ≠ other.name

/-- Tests with different names have files with different names, and so have the halves of a test. -/
theorem names_nodup (v : Volume) (m : Manifest) (filter : Filter) (direction : AssertionDirection)
    (differ : NamesDiffer specs) : ((filesOf v m filter direction specs).map Prod.fst).Nodup := by
  rw [filesOf, List.map_flatMap, List.nodup_flatMap]
  constructor
  · intro loaded _
    rcases names_of_files v m filter direction loaded with none_ | ⟨spec, -, names⟩
    · rw [none_]
      exact List.nodup_nil
    · rw [names]
      have endings := endings_nodup direction
      exact endings.of_map.map_on fun half mem last mem' same =>
        List.inj_on_of_nodup_map endings mem mem' (append_ending_inj same).2
  · refine differ.imp fun {a b} apart name mem mem' => ?_
    obtain ⟨spec, loaded, half, rfl⟩ := exists_ending_of_mem mem
    obtain ⟨other, loaded', last, same⟩ := exists_ending_of_mem mem'
    exact apart spec other loaded loaded' (append_ending_inj same).1

/-! ## Other files around -/

/-- Whether the test of a specification reads nothing that stands at some places. -/
def LoadedSpec.ReadsApart (v : Volume) (places : List Place) (loaded : LoadedSpec) : Prop :=
  ∀ spec, loaded.spec = .ok spec → spec.ReadsApart v places

/-- A test that reads nothing of what two volumes differ in is generated to the same in both, or in
neither. -/
theorem generate_cases {spec : TestSpec} (m : Manifest) (direction : AssertionDirection)
    (agree : AgreeBeyond places v w) (apart : spec.ReadsApart v places) :
    (∃ test, spec.generate v m direction = .ok test ∧ spec.generate w m direction = .ok test) ∨
      ∃ e e', spec.generate v m direction = .error e ∧ spec.generate w m direction = .error e' := by
  cases here : spec.generate v m direction with
  | ok test => exact .inl ⟨test, rfl, (generate_eq_ok_iff agree apart).1 here⟩
  | error e =>
    cases there : spec.generate w m direction with
    | error e' => exact .inr ⟨e, e', rfl, rfl⟩
    | ok test =>
      rw [(generate_eq_ok_iff agree apart).2 there] at here
      cases here

theorem files_congr (m : Manifest) (filter : Filter) (direction : AssertionDirection)
    (agree : AgreeBeyond places v w) (apart : loaded.ReadsApart v places) :
    loaded.files v m filter direction = loaded.files w m filter direction := by
  rw [LoadedSpec.files, LoadedSpec.files]
  cases ok : loaded.spec with
  | error e => rfl
  | ok spec =>
    rcases generate_cases m direction agree (apart spec ok) with
      ⟨test, here, there⟩ | ⟨e, e', here, there⟩
    · simp only [here, there]
    · simp only [here, there]

/-- Whether there is a problem with a specification does not depend on what it does not read. -/
theorem isSome_problem?_congr (m : Manifest) (filter : Filter) (direction : AssertionDirection)
    (agree : AgreeBeyond places v w) (apart : loaded.ReadsApart v places) :
    (loaded.problem? v m filter direction).isSome =
      (loaded.problem? w m filter direction).isSome := by
  rw [LoadedSpec.problem?, LoadedSpec.problem?]
  cases ok : loaded.spec with
  | error e => rfl
  | ok spec =>
    rcases generate_cases m direction agree (apart spec ok) with
      ⟨test, here, there⟩ | ⟨e, e', here, there⟩
    · simp only [here, there]
    · simp only [here, there]
      split_ifs <;> rfl

end

end ModelBench
