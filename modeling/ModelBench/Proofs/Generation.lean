import ModelBench.Generation

/-!
# When tests are generated, and what their statements are

A test is generated exactly when its model is resolved and its expected output is encoded, in
whatever direction it is asserted (`exists_generate_iff`). It has one statement for each half of its
direction: the difference of the model's statement and the expected rows, from the one side or from
the other (`hasHalves_of_generate`).
-/

namespace ModelBench

variable {files : Volume} {manifest : Manifest} {spec : TestSpec} {sql : String}
  {direction : AssertionDirection} {test : GeneratedTest}

/-! ## Generation -/

/-- With the statement of its model at hand, a test only needs its expected output. -/
theorem generate_eq (direction : AssertionDirection)
    (model : spec.modelSql files manifest = .ok sql) :
    spec.generate files manifest direction =
      ((spec.output.encode files).map fun expected =>
        (⟨spec.name, spec.model, .ofEncoded sql expected direction⟩ : GeneratedTest)).mapError
          GenerateError.expected := by
  rw [TestSpec.generate, model]
  simp only [AssertionQueries.ofMock]
  cases spec.output.encode files with
  | error e => rfl
  | ok expected => rfl

theorem generate_of_model {expected : EncodedMock} (direction : AssertionDirection)
    (model : spec.modelSql files manifest = .ok sql)
    (encoded : spec.output.encode files = .ok expected) :
    spec.generate files manifest direction =
      .ok ⟨spec.name, spec.model, .ofEncoded sql expected direction⟩ := by
  rw [generate_eq direction model, encoded]
  rfl

theorem modelSql_of_resolve {replacement : Sql.Replacement}
    (resolved : (spec.resolver files manifest).resolve spec.model = .ok replacement) :
    spec.modelSql files manifest = .ok replacement.sql := by
  rw [TestSpec.modelSql, resolved]

theorem generate_of_resolve_error {e : ResolveError} (direction : AssertionDirection)
    (failed : (spec.resolver files manifest).resolve spec.model = .error e) :
    spec.generate files manifest direction = .error (.resolve e) := by
  rw [TestSpec.generate, TestSpec.modelSql, failed]
  rfl

/-- A test is generated exactly when its model is resolved and its output is encoded. -/
theorem exists_generate_iff (direction : AssertionDirection) :
    (∃ test, spec.generate files manifest direction = .ok test) ↔
      (∃ replacement, (spec.resolver files manifest).resolve spec.model = .ok replacement) ∧
        ∃ encoded, spec.output.encode files = .ok encoded := by
  cases resolved : (spec.resolver files manifest).resolve spec.model with
  | error e => simp [generate_of_resolve_error direction resolved]
  | ok replacement =>
    rw [generate_eq direction (modelSql_of_resolve resolved), and_iff_right ⟨replacement, rfl⟩]
    cases spec.output.encode files with
    | error e => exact ⟨nofun, nofun⟩
    | ok expected => exact ⟨fun _ => ⟨expected, rfl⟩, fun _ => ⟨_, rfl⟩⟩

/-- A generated test is built around the statement of its model and its encoded output. -/
theorem exists_of_generate (h : spec.generate files manifest direction = .ok test) :
    ∃ sql expected, spec.modelSql files manifest = .ok sql ∧
      spec.output.encode files = .ok expected ∧
      test = ⟨spec.name, spec.model, .ofEncoded sql expected direction⟩ := by
  obtain ⟨⟨replacement, resolved⟩, expected, encoded⟩ :=
    (exists_generate_iff direction).1 ⟨test, h⟩
  have model := modelSql_of_resolve resolved
  rw [generate_of_model direction model encoded] at h
  exact ⟨replacement.sql, expected, model, encoded, (Except.ok.inj h).symm⟩

/-! ## Halves -/

/-- The halves that a direction asks for, in the order in which they are executed. -/
def AssertionDirection.halves : AssertionDirection → List DiffDirection
  | .queryMinusExpected => [.queryMinusExpected]
  | .both => [.queryMinusExpected, .expectedMinusQuery]

/-- The statement of a half: the rows of a model's statement without the expected ones, or the
expected rows without those of the statement. -/
def DiffDirection.statement (sql : String) (expected : EncodedMock) : DiffDirection → String
  | .queryMinusExpected => exceptDistinct sql expected.asRelation expected.columnList
  | .expectedMinusQuery => exceptDistinct expected.asRelation sql expected.columnList

theorem halves_ofEncoded (sql : String) (expected : EncodedMock) (direction : AssertionDirection) :
    (AssertionQueries.ofEncoded sql expected direction).halves =
      direction.halves.map fun half => (half, half.statement sql expected) := by
  cases direction with
  | queryMinusExpected => exact AssertionQueries.halves_queryMinusExpected sql expected
  | both => exact AssertionQueries.halves_both sql expected

/-- Whether some halves are those of a test: one for each half of its direction, with the statement
between what its model is resolved to and what its output is encoded to. -/
def TestSpec.HasHalves (files : Volume) (manifest : Manifest) (direction : AssertionDirection)
    (spec : TestSpec) (halves : List (DiffDirection × String)) : Prop :=
  ∃ sql expected, spec.modelSql files manifest = .ok sql ∧
    spec.output.encode files = .ok expected ∧
    halves = direction.halves.map fun half => (half, half.statement sql expected)

theorem hasHalves_of_generate (h : spec.generate files manifest direction = .ok test) :
    spec.HasHalves files manifest direction test.queries.halves := by
  obtain ⟨sql, expected, model, encoded, rfl⟩ := exists_of_generate h
  exact ⟨sql, expected, model, encoded, halves_ofEncoded sql expected direction⟩

end ModelBench
