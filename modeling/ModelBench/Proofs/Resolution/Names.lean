import ModelBench.Proofs.Resolution.Success
import ModelBench.Proofs.Sql.Mention

/-!
# No table is read by a resolved statement

If statements mention the names within reach of a target only where these are dependencies, then
the resolved statement mentions none of them (`not_mentions_of_resolve`). The induction on the
derivation carries that every replacement is free of all these names: a dependency removes its own
name from a statement and brings no other one in.
-/

namespace ModelBench.Resolver

open Sql (Replacement Mentions IsTicked)
open Text (foldCase)

variable {r : Resolver} {target id : String} {node : Manifest.Node} {replacement : Replacement}

/-- Whether a name is the full name of an id, other than the target, within reach of the target. -/
def IsNameWithin (r : Resolver) (target name : String) : Prop :=
  ∃ id relation, r.Reaches target id ∧ id ≠ target ∧ r.manifest.relation id = some relation ∧
    relation.fullName = name

/-- The names within reach of a target stand in backticks and have no parentheses, no alias has a
backtick, statements mention only names of their own dependencies, and mocks mention none. -/
structure NamesDeclared (r : Resolver) (target : String) : Prop where
  ticked : ∀ name, r.IsNameWithin target name → IsTicked name.toList
  aliases : ∀ id relation, r.Reaches target id → r.manifest.relation id = some relation →
    '\x60' ∉ relation.shortName.toList
  declared : ∀ id node name, r.Reaches target id → r.mocks.lookup id = none →
    r.manifest.node? id = some node → r.IsNameWithin target name →
    Mentions name.toList node.compiledCode.toList →
    ∃ dependency relation, dependency ∈ node.dependsOn ∧
      r.manifest.relation dependency = some relation ∧
      relation.fullName.toList.map foldCase = name.toList.map foldCase
  mocks : ∀ id mock encoded name, r.Reaches target id → r.mocks.lookup id = some mock →
    mock.encode r.files = .ok encoded → r.IsNameWithin target name →
    ¬ Mentions name.toList encoded.asRelation.toList

/-- A replacement bears the names of the id it stands for. -/
theorem Yields.relation (h : r.Yields id replacement) :
    r.manifest.relation id = some ⟨replacement.fullName, replacement.shortName⟩ := by
  cases h with
  | given task =>
    obtain ⟨relation, _, _, known, -, -, -, rfl⟩ := task_eq_given_iff.1 task
    exact known
  | compile parts task =>
    rw [Manifest.relation, node?_of_task task]
    rfl

/-- Putting in what stands for the dependencies leaves no mention of a name that none of them
mentions, and that the statement mentions only as the name of a dependency. -/
theorem not_mentions_of_substituteAll (textual : r.substituter = Sql.substitute)
    {parts : String → Replacement} {names : List String} {name : List Char} {sql result : String}
    (ticked : IsTicked name)
    (plain : ∀ x ∈ names, '\x60' ∉ (parts x).shortName.toList)
    (named : ∀ x ∈ names, (parts x).fullName ≠ "")
    (clean : ∀ x ∈ names, ¬ Mentions name (parts x).sql.toList)
    (declared : Mentions name sql.toList →
      ∃ x ∈ names, (parts x).fullName.toList.map foldCase = name.map foldCase)
    (put : r.substituteAll id (fun x => .ok (parts x)) sql names = .ok result) :
    ¬ Mentions name result.toList := by
  induction names generalizing sql with
  | nil =>
    cases put
    intro mention
    obtain ⟨_, mem, -⟩ := declared mention
    cases mem
  | cons dependency rest ih =>
    have here := Sql.substitute_of_named (named dependency List.mem_cons_self) sql
    rw [← textual] at here
    simp only [substituteAll, substituteIn, here, Except.mapError] at put
    refine ih (fun x hx => plain x (List.mem_cons_of_mem _ hx))
      (fun x hx => named x (List.mem_cons_of_mem _ hx))
      (fun x hx => clean x (List.mem_cons_of_mem _ hx)) ?_ put
    rw [String.toList_ofList]
    intro mention
    have plain := plain dependency List.mem_cons_self
    have clean := clean dependency List.mem_cons_self
    rcases Sql.mentions_apply ticked plain mention with inside | before
    · exact absurd inside clean
    · obtain ⟨x, mem, same⟩ := declared before
      rcases List.mem_cons.1 mem with rfl | mem
      · exact absurd mention (Sql.not_mentions_apply_self ticked plain same clean)
      · exact ⟨x, mem, same⟩

theorem Yields.not_mentions (textual : r.substituter = Sql.substitute)
    (h : r.Yields id replacement) (reach : r.Reaches target id) (names : r.NamesDeclared target)
    {name : String} (within : r.IsNameWithin target name) :
    ¬ Mentions name.toList replacement.sql.toList := by
  induction h with
  | given task =>
    obtain ⟨_, mock, encoded, -, mocked, -, ok, rfl⟩ := task_eq_given_iff.1 task
    exact names.mocks _ mock encoded name reach mocked ok within
  | @compile id node sql parts task below put ih =>
    obtain ⟨unmocked, found, -, -⟩ := task_eq_compile_iff.1 task
    have reached : ∀ x ∈ dependencies node, r.Reaches target x := fun x hx =>
      reach.tail ((reads_iff task).2 hx)
    refine not_mentions_of_substituteAll textual (names.ticked name within)
      (fun x hx => names.aliases x _ (reached x hx) (below x hx).relation)
      (fun x hx => (below x hx).fullName_ne_empty) (fun x hx => ih x hx (reached x hx)) ?_ put
    intro mention
    obtain ⟨x, relation, mem, known, same⟩ :=
      names.declared id node name reach unmocked found within mention
    have hx : x ∈ dependencies node := mem_dependencies.2 mem
    rw [(below x hx).relation, Option.some.injEq] at known
    subst known
    exact ⟨x, hx, same⟩

/-- A resolved statement mentions no name within reach of its target, however deep the dependencies
are nested and whether their mentions have aliases or not. -/
theorem not_mentions_of_resolve (manifest : Manifest) (mocks : List (String × Mock))
    (files : Volume) (target : String) (replacement : Replacement)
    (names : (textual manifest mocks files).NamesDeclared target)
    (ok : (textual manifest mocks files).resolve target = .ok replacement) (name : String)
    (within : (textual manifest mocks files).IsNameWithin target name) :
    ¬ Mentions name.toList replacement.sql.toList :=
  (yields_of_resolve ok).not_mentions rfl .refl names within

/-! ## An example -/

/-- A model that reads another one under an alias, which reads a source without one. -/
def nested : Resolver :=
  let model (name sql dependency : String) : String × Manifest.Node :=
    (s!"model.x.{name}",
      { uniqueId := s!"model.x.{name}", name, resourceType := "model", database := "p"
        schema := "d", shortName := name, compiledCode := sql, dependsOn := [dependency]
        qualifiedName := [] })
  textual
    { metadata := none
      nodes := [model "top" "SELECT a FROM `P`.`d`.`Mid` AS m" "model.x.mid",
        model "mid" "SELECT a FROM `p`.`raw`.`s`" "source.x.s"]
      sources := [("source.x.s", ⟨"source.x.s", "s", [], "`p`.`raw`.`s`"⟩)] }
    [("source.x.s", ⟨"s.csv", []⟩)] ⟨[], [(["s.csv"], .file [97, 10, 49, 10])]⟩

theorem nested_reaches (h : nested.Reaches "model.x.top" id) :
    id ∈ ["model.x.top", "model.x.mid", "source.x.s"] :=
  mem_of_reaches (by decide) (by decide +kernel) h

theorem nested_namesDeclared : nested.NamesDeclared "model.x.top" where
  ticked := by
    rintro name ⟨id, relation, reach, -, known, rfl⟩
    have all : ∀ id ∈ ["model.x.top", "model.x.mid", "source.x.s"],
        ∀ relation ∈ nested.manifest.relation id, IsTicked relation.fullName.toList := by
      decide +kernel
    exact all id (nested_reaches reach) relation known
  aliases := by
    intro id relation reach known
    have all : ∀ id ∈ ["model.x.top", "model.x.mid", "source.x.s"],
        ∀ relation ∈ nested.manifest.relation id, '\x60' ∉ relation.shortName.toList := by
      decide +kernel
    exact all id (nested_reaches reach) relation known
  declared := by
    rintro id node name reach - found ⟨other, relation, reach', ne, known, rfl⟩ mention
    have all : ∀ id ∈ ["model.x.top", "model.x.mid", "source.x.s"],
        ∀ other ∈ ["model.x.top", "model.x.mid", "source.x.s"], other ≠ "model.x.top" →
        ∀ node ∈ nested.manifest.node? id, ∀ relation ∈ nested.manifest.relation other,
        Mentions relation.fullName.toList node.compiledCode.toList →
        ∃ dependency ∈ node.dependsOn, (nested.manifest.relation dependency).any fun own =>
          own.fullName.toList.map foldCase = relation.fullName.toList.map foldCase := by
      decide +kernel
    obtain ⟨dependency, mem, same⟩ := all id (nested_reaches reach) other (nested_reaches reach')
      ne node found relation known mention
    obtain ⟨own, known, same⟩ := (Option.any_eq_true _ _).1 same
    exact ⟨dependency, own, mem, known, of_decide_eq_true same⟩
  mocks := by
    rintro id mock encoded name reach mocked ok ⟨other, relation, reach', -, known, rfl⟩
    have all : ∀ id ∈ ["model.x.top", "model.x.mid", "source.x.s"],
        ∀ other ∈ ["model.x.top", "model.x.mid", "source.x.s"],
        ∀ mock ∈ nested.mocks.lookup id, ∀ encoded ∈ (mock.encode nested.files).toOption,
        ∀ relation ∈ nested.manifest.relation other,
        ¬ Mentions relation.fullName.toList encoded.asRelation.toList := by
      decide +kernel
    exact all id (nested_reaches reach) other (nested_reaches reach') mock mocked encoded
      (by rw [ok]; rfl) relation known

theorem nested_source_within : nested.IsNameWithin "model.x.top" "`p`.`raw`.`s`" := by
  refine ⟨"source.x.s", ⟨"`p`.`raw`.`s`", "s"⟩, ?_, by decide, by decide +kernel, rfl⟩
  have top : nested.Reads "model.x.top" "model.x.mid" := mem_readBy.1 (by decide +kernel)
  have mid : nested.Reads "model.x.mid" "source.x.s" := mem_readBy.1 (by decide +kernel)
  exact (Relation.ReflTransGen.single top).tail mid

/-- The statement that stands for the outer model of the example. -/
def nestedSql : String := "SELECT a FROM (SELECT a FROM (\n SELECT \"1\" AS a) AS s) AS m"

theorem resolve_nested :
    nested.resolve "model.x.top" = .ok ⟨"`p`.`d`.`top`", nestedSql, "top"⟩ := by
  decide +kernel

/-- The source that the inner model reads is not mentioned in the statement of the outer one. -/
theorem not_mentions_nested :
    nested.NamesDeclared "model.x.top" ∧
      nested.resolve "model.x.top" = .ok ⟨"`p`.`d`.`top`", nestedSql, "top"⟩ ∧
      nested.IsNameWithin "model.x.top" "`p`.`raw`.`s`" ∧
      ¬ Mentions "`p`.`raw`.`s`".toList nestedSql.toList :=
  ⟨nested_namesDeclared, resolve_nested, nested_source_within,
    not_mentions_of_resolve _ _ _ _ _ nested_namesDeclared resolve_nested _ nested_source_within⟩

end ModelBench.Resolver
