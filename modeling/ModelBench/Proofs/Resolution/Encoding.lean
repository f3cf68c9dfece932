import ModelBench.Proofs.Files.Volume
import ModelBench.Proofs.Generation
import ModelBench.Proofs.Resolution.Locality

/-!
# Generating and files

What is generated depends on files only through what the mocks of a test are encoded to: two
volumes in which the same mocks are encoded to the same give the same statements
(`generate_eq_ok_iff`). An answer of resolving is what is derived, and derivations have one result
(`resolve_eq_ok_iff`), so it is enough to carry a derivation over (`Yields.transfer`).
-/

namespace ModelBench

namespace Resolver

open Sql (Replacement)

variable {r r' : Resolver} {id : String} {replacement other : Replacement}

/-- Derivations have one result. -/
theorem Yields.unique (h : r.Yields id replacement) (h' : r.Yields id other) :
    replacement = other := by
  induction h generalizing other with
  | given task =>
    cases h' with
    | given task' =>
      rw [task] at task'
      cases task'
      rfl
    | compile parts task' below put =>
      rw [task] at task'
      cases task'
  | compile parts task below put ih =>
    cases h' with
    | given task' =>
      rw [task] at task'
      cases task'
    | compile parts' task' below' put' =>
      rw [task] at task'
      cases task'
      have same : ∀ x ∈ dependencies _, (.ok (parts x) : Except ResolveError _) = .ok (parts' x) :=
        fun x mem => congrArg Except.ok (ih x mem (below' x mem))
      rw [substituteAll_congr same, put'] at put
      rw [Except.ok.inj put]

/-- What a resolver answers is what is derived. -/
theorem resolve_eq_ok_iff (makes : MakesAllNamed r.substituter) :
    r.resolve id = .ok replacement ↔ r.Yields id replacement := by
  refine ⟨yields_of_resolve, fun h => ?_⟩
  obtain ⟨other, answer⟩ := (exists_resolve_iff makes).2 h.resolvable
  rw [answer, h.unique (yields_of_resolve answer)]

/-- A derivation holds for every resolver that has the same to do wherever the first one has
something to do. -/
theorem Yields.transfer (substituter : r.substituter = r'.substituter)
    (tasks : ∀ id task, r.task id = .ok task → r'.task id = .ok task)
    (h : r.Yields id replacement) : r'.Yields id replacement := by
  induction h with
  | given task => exact .given (tasks _ _ task)
  | compile parts task below put ih =>
    refine .compile parts (tasks _ _ task) ih ?_
    rw [← substituteAll_of_substituter substituter]
    exact put

end Resolver

variable {v w : Volume} {m : Manifest} {spec : TestSpec} {test : GeneratedTest}
  {direction : AssertionDirection} {places : List Place}

/-- Whether every mock that is encoded in the first volume is encoded to the same in the second. -/
def TestSpec.EncodesIn (spec : TestSpec) (v w : Volume) : Prop :=
  ∀ mock encoded, (mock = spec.output ∨ ∃ id, spec.mocks.lookup id = some mock) →
    mock.encode v = .ok encoded → mock.encode w = .ok encoded

theorem TestSpec.EncodesIn.task (h : spec.EncodesIn v w) (id : String) (task : Task)
    (known : (spec.resolver v m).task id = .ok task) : (spec.resolver w m).task id = .ok task := by
  cases task with
  | given replacement =>
    obtain ⟨relation, mock, encoded, found, mocked, named, ok, rfl⟩ :=
      Resolver.task_eq_given_iff.1 known
    exact Resolver.task_eq_given_iff.2 ⟨relation, mock, encoded, found, mocked, named,
      h mock encoded (.inr ⟨id, mocked⟩) ok, rfl⟩
  | compile node =>
    obtain ⟨unmocked, found, compiled, sql⟩ := Resolver.task_eq_compile_iff.1 known
    exact Resolver.task_eq_compile_iff.2 ⟨unmocked, found, compiled, sql⟩

theorem TestSpec.EncodesIn.resolve (h : spec.EncodesIn v w) {replacement : Sql.Replacement}
    (resolved : (spec.resolver v m).resolve spec.model = .ok replacement) :
    (spec.resolver w m).resolve spec.model = .ok replacement := by
  have substituter : (spec.resolver v m).substituter = (spec.resolver w m).substituter := rfl
  exact (Resolver.resolve_eq_ok_iff Resolver.makesAllNamed_substitute).2
    ((Resolver.yields_of_resolve resolved).transfer substituter h.task)

/-- What a test is generated to only needs its mocks to be encoded. -/
theorem TestSpec.EncodesIn.generate (h : spec.EncodesIn v w)
    (generated : spec.generate v m direction = .ok test) :
    spec.generate w m direction = .ok test := by
  obtain ⟨⟨replacement, resolved⟩, expected, encoded⟩ :=
    (exists_generate_iff direction).1 ⟨test, generated⟩
  rw [generate_of_model direction (modelSql_of_resolve resolved) encoded] at generated
  rw [generate_of_model direction (modelSql_of_resolve (h.resolve resolved))
    (h spec.output expected (.inl rfl) encoded), generated]

/-! ## Volumes that differ in some files -/

theorem encode_eq_ok_iff {mock : Mock} {encoded : EncodedMock} : mock.encode v = .ok encoded ↔
    ∃ bytes, v.read mock.filepath = .ok bytes ∧
      EncodedMock.ofBytes mock.filepath mock.types bytes = .ok encoded := by
  rw [Mock.encode]
  split <;> simp_all

/-- Whether no mock of a test leads to one of some places. -/
def TestSpec.ReadsApart (v : Volume) (places : List Place) (spec : TestSpec) : Prop :=
  ∀ mock, (mock = spec.output ∨ ∃ id, spec.mocks.lookup id = some mock) →
    ∀ place ∈ places, v.locate mock.filepath ≠ .ok place

theorem encodesIn_of_agreeBeyond (agree : Volume.AgreeBeyond places v w)
    (apart : spec.ReadsApart v places) : spec.EncodesIn v w ∧ spec.EncodesIn w v := by
  constructor
  · intro mock encoded used ok
    obtain ⟨bytes, read, ok⟩ := encode_eq_ok_iff.1 ok
    exact encode_eq_ok_iff.2 ⟨bytes, (agree.read_eq_ok_iff (apart mock used)).1 read, ok⟩
  · intro mock encoded used ok
    obtain ⟨bytes, read, ok⟩ := encode_eq_ok_iff.1 ok
    exact encode_eq_ok_iff.2 ⟨bytes, (agree.read_eq_ok_iff (apart mock used)).2 read, ok⟩

/-- A test whose mocks lead to none of the files in which two volumes differ is generated to the
same in both. -/
theorem generate_eq_ok_iff (agree : Volume.AgreeBeyond places v w)
    (apart : spec.ReadsApart v places) :
    spec.generate v m direction = .ok test ↔ spec.generate w m direction = .ok test :=
  ⟨(encodesIn_of_agreeBeyond agree apart).1.generate,
    (encodesIn_of_agreeBeyond agree apart).2.generate⟩

end ModelBench
