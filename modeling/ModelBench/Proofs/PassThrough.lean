import ModelBench.Proofs.Mock.Evaluation
import ModelBench.Proofs.Query.PassThrough
import ModelBench.Proofs.Resolution.Names
import Mathlib.Data.List.Chain

/-!
# Models that pass a mock through

A chain of models of which each selects everything from the next one gives exactly the answer of the
mock at its end (`execute_of_chain`). One link of the chain wraps the statement of the next id in a
selection of everything (`plainFrom_of_passesThrough`), which delivers the same rows and mentions no
new names; the induction on the chain starts at the mock.
-/

namespace ModelBench.Resolver

open Query (Delivers IsColumn)
open Sql (Replacement Mentions IsTicked IsType isName)

variable {r : Resolver} {path ids : List String} {id next last : String}
  {replacement : Replacement} {source : List Char}

/-- Whether an id is a model without a mock that depends on another id only and selects everything
from it, with an alias or without one. -/
structure PassesThrough (r : Resolver) (id next : String) : Prop where
  unmocked : r.mocks.lookup id = none
  model : r.manifest.kindOf id = some .model
  selects : ∃ node relation alias?, r.manifest.node? id = some node ∧
    (∀ x, x ∈ node.dependsOn ↔ x = next) ∧ r.manifest.relation next = some relation ∧
    (∀ label ∈ alias?, isName label.toList = true) ∧
    node.compiledCode = Sql.passThrough relation.fullName alias?

/-- Whether the full name of an id stands in backticks, has no parentheses and is not mentioned in a
statement, and its short name is a plain name. -/
structure NamedApart (r : Resolver) (source : List Char) (id : String) : Prop where
  ticked : ∀ relation ∈ r.manifest.relation id, IsTicked relation.fullName.toList
  short : ∀ relation ∈ r.manifest.relation id, isName relation.shortName.toList = true
  apart : ∀ relation ∈ r.manifest.relation id, ¬ Mentions relation.fullName.toList source

theorem dependencies_of_only {node : Manifest.Node} (only : ∀ x, x ∈ node.dependsOn ↔ x = next) :
    dependencies node = [next] := by
  have same : ∀ x, x ∈ node.dependsOn ↔ x ∈ [next] := fun x =>
    (only x).trans List.mem_singleton.symm
  exact Text.ascending_congr same

theorem hasSql_of_passThrough {node : Manifest.Node} {table : String} {alias? : Option String}
    (code : node.compiledCode = Sql.passThrough table alias?) : node.hasSql = true := by
  rw [Manifest.Node.hasSql, Text.isBlankString, code, Sql.toList_passThrough, List.all_append]
  rfl

/-- A link of the chain: what stands for a model that selects everything from the next id is a
selection of everything from what stands for that id. -/
theorem plainFrom_of_passesThrough (textual : r.substituter = Sql.substitute)
    (passes : r.PassesThrough id next) (fresh : id ∉ path)
    (below : r.plainFrom (id :: path) next = .ok replacement)
    (named : r.NamedApart source next) (delivers : Delivers source replacement.sql.toList) :
    ∃ outer, r.plainFrom path id = .ok outer ∧ Delivers source outer.sql.toList := by
  obtain ⟨node, relation, alias?, found, only, known, names, code⟩ := passes.selects
  have compiled : (NodeKind.ofId id).isCompiled = true :=
    (isCompiled_ofId_iff _ found).2 (.inl passes.model)
  have task : r.task id = .ok (.compile node) :=
    task_eq_compile_iff.2 ⟨passes.unmocked, found, compiled, hasSql_of_passThrough code⟩
  have own := (yields_of_plainFrom below).relation
  obtain rfl : relation = ⟨replacement.fullName, replacement.shortName⟩ := by
    simpa [known] using own
  have ticked : IsTicked replacement.fullName.toList := named.ticked _ known
  have clean : ¬ Mentions replacement.fullName.toList replacement.sql.toList := fun mention =>
    named.apart _ known (delivers.mentions _ ticked mention)
  have short := named.short _ known
  have label : isName (alias?.getD replacement.shortName).toList = true := by
    cases alias? with
    | none => exact short
    | some label => exact names label rfl
  have put : r.substituteIn id node.compiledCode replacement = .ok (String.ofList
      (Sql.selectAll ++ replacement.subquery (alias?.getD replacement.shortName).toList)) := by
    have full := (yields_of_plainFrom below).fullName_ne_empty
    rw [substituteIn, textual, Sql.substitute_of_named full, code,
      Sql.apply_passThrough ticked names clean]
    rfl
  have delivered := delivers.selectAll label
  generalize Sql.selectAll ++ replacement.subquery (alias?.getD replacement.shortName).toList = sql
    at put delivered
  refine ⟨finish node (String.ofList sql), ?_, ?_⟩
  · rw [plainFrom_of_compile fresh task, dependencies_of_only only]
    simp only [substituteAll, below, put]
    rfl
  · rw [finish, String.toList_ofList]
    exact delivered

/-! ## Chains -/

theorem headD_mem : ids.headD last ∈ ids ++ [last] := by cases ids <;> simp

theorem passes_and_chain (chain : List.IsChain r.PassesThrough (id :: ids ++ [last])) :
    r.PassesThrough id (ids.headD last) ∧ List.IsChain r.PassesThrough (ids ++ [last]) := by
  obtain ⟨passes, chain⟩ := List.isChain_cons.1 chain
  exact ⟨passes _ (by cases ids <;> rfl), chain⟩

theorem unmocked_of_chain (chain : List.IsChain r.PassesThrough (ids ++ [last])) :
    ∀ x ∈ ids, r.mocks.lookup x = none := by
  induction ids with
  | nil => simp
  | cons id ids ih =>
    obtain ⟨passes, chain⟩ := passes_and_chain chain
    exact List.forall_mem_cons.2 ⟨passes.unmocked, ih chain⟩

theorem exists_relation_of_chain (chain : List.IsChain r.PassesThrough (id :: ids ++ [last])) :
    ∃ relation, r.manifest.relation last = some relation := by
  obtain ⟨-, -, link⟩ := List.isChain_append.1 chain
  obtain ⟨_, relation, _, -, -, known, -⟩ :=
    (link _ (List.getLast_mem_getLast? (by simp)) last rfl).selects
  exact ⟨relation, known⟩

/-- From the mock at its end to its start, everything in a chain delivers the rows of the mock. -/
theorem exists_plainFrom_of_chain (textual : r.substituter = Sql.substitute)
    (chain : List.IsChain r.PassesThrough (ids ++ [last])) (distinct : (ids ++ [last]).Nodup)
    (fresh : ∀ x ∈ ids ++ [last], x ∉ path) (named : ∀ x ∈ ids ++ [last], r.NamedApart source x)
    (given : r.task last = .ok (.given replacement))
    (delivers : Delivers source replacement.sql.toList) :
    ∃ outer, r.plainFrom path (ids.headD last) = .ok outer ∧ Delivers source outer.sql.toList := by
  induction ids generalizing path with
  | nil => exact ⟨replacement, plainFrom_of_given (fresh last (by simp)) given, delivers⟩
  | cons id ids ih =>
    rw [List.cons_append] at distinct fresh named
    rw [List.forall_mem_cons] at fresh named
    obtain ⟨passes, chain⟩ := passes_and_chain chain
    obtain ⟨once, distinct⟩ := List.nodup_cons.1 distinct
    have later : ∀ x ∈ ids ++ [last], x ∉ id :: path := by
      intro x hx mem
      rcases List.mem_cons.1 mem with rfl | mem
      · exact once hx
      · exact fresh.2 x hx mem
    obtain ⟨inner, below, delivers⟩ := ih chain distinct later named.2
    exact plainFrom_of_passesThrough textual passes fresh.1 below (named.2 _ headD_mem) delivers

theorem isBlankString_of_ticked {name : String} (ticked : IsTicked name.toList) :
    Text.isBlankString name = false := by
  obtain ⟨rest, text⟩ := List.head?_eq_some_iff.1 ticked.starts
  rw [Text.isBlankString, text]
  rfl

/-- A chain of models, of which each selects everything from the next one with an alias or without
one, passes the mock at its end through: resolving the first model succeeds, and executing its
statement gives exactly the answer of the statement of the mock. -/
theorem execute_of_chain (manifest : Manifest) (mocks : List (String × Mock)) (files : Volume)
    (first last : String) (between : List String) (mock : Mock) (encoded : EncodedMock)
    (chain : List.IsChain (textual manifest mocks files).PassesThrough
      (first :: between ++ [last]))
    (distinct : (first :: between).Nodup) (mocked : mocks.lookup last = some mock)
    (encodes : mock.encode files = .ok encoded)
    (isColumn : ∀ column ∈ encoded.columns, IsColumn [.asWord, .limit] column)
    (isType : ∀ column ∈ encoded.columns, ∀ type ∈ mock.types.lookup column, IsType type)
    (named : ∀ id ∈ first :: between ++ [last],
      (textual manifest mocks files).NamedApart encoded.asRelation.toList id) :
    ∃ replacement answer, (textual manifest mocks files).resolve first = .ok replacement ∧
      Memory.empty.execute encoded.asRelation = .ok answer ∧
      Memory.empty.execute replacement.sql = .ok answer := by
  set r := textual manifest mocks files
  obtain ⟨header, rows, -, checked, rfl⟩ := exists_holds_of_encode encodes
  have isHeader := Query.isHeader_of_columns checked isColumn isType
  have apart : (first :: between ++ [last]).Nodup := by
    refine List.nodup_append.2 ⟨distinct, List.nodup_singleton _, fun x hx y hy same => ?_⟩
    rw [← List.mem_singleton.1 hy, ← same] at mocked
    have unmocked : mocks.lookup x = none := unmocked_of_chain chain x hx
    rw [unmocked] at mocked
    cases mocked
  obtain ⟨relation, known⟩ := exists_relation_of_chain chain
  have ticked := (named last (by simp)).ticked relation known
  have given := task_eq_given_iff.2
    ⟨relation, mock, _, known, mocked, isBlankString_of_ticked ticked, encodes, rfl⟩
  have fresh : ∀ x ∈ first :: between ++ [last], x ∉ ([] : List String) := by simp
  obtain ⟨replacement, found, delivers⟩ := exists_plainFrom_of_chain rfl chain apart fresh named
    given (Query.delivers_asRelation isHeader rows)
  have answer := execute_ofTable isHeader rows
  have same := delivers.evaluate_eq (Query.quiet_trim_asRelation isHeader rows)
  refine ⟨replacement, Query.tableOf header rows, ?_, answer, ?_⟩
  · rw [resolve, map_fst_resolveFrom (.nil []) (.nil r)]
    exact found
  · rw [execute_empty, same, ← execute_empty]
    exact answer

/-! ## An example -/

/-- A model that reads another one under an alias, which reads a source without one. -/
def relayed : Resolver :=
  textual
    { metadata := none
      nodes := [sampleModel "top" "SELECT * FROM `p`.`d`.`mid` AS m" ["model.x.mid", "model.x.mid"],
        sampleModel "mid" "SELECT * FROM `p`.`raw`.`s`" ["source.x.s"]]
      sources := [("source.x.s", ⟨"source.x.s", "s", [], "`p`.`raw`.`s`"⟩)] }
    [("source.x.s", ⟨"s.csv", []⟩)]
    ⟨[], [(["s.csv"], .file [97, 10, 41, 10])]⟩

/-- What the mock of the source is encoded to: its only value is a parenthesis. -/
def relayedMock : EncodedMock where
  sql := "\n SELECT \")\" AS a"
  columns := ["a"]
  rowCount := 1
  types := []

theorem relayed_chain :
    List.IsChain relayed.PassesThrough ["model.x.top", "model.x.mid", "source.x.s"] := by
  have top : relayed.PassesThrough "model.x.top" "model.x.mid" :=
    { unmocked := by decide +kernel
      model := by decide +kernel
      selects := ⟨_, _, some "m", rfl, by simp, rfl, by decide +kernel, rfl⟩ }
  have mid : relayed.PassesThrough "model.x.mid" "source.x.s" :=
    { unmocked := by decide +kernel
      model := by decide +kernel
      selects := ⟨_, _, none, rfl, by simp, rfl, by decide +kernel, rfl⟩ }
  exact .cons_cons top (.cons_cons mid (.singleton _))

theorem relayed_namedApart : ∀ id ∈ ["model.x.top", "model.x.mid", "source.x.s"],
    relayed.NamedApart relayedMock.asRelation.toList id := by
  have names : ∀ id ∈ ["model.x.top", "model.x.mid", "source.x.s"],
      ∀ relation ∈ relayed.manifest.relation id, IsTicked relation.fullName.toList ∧
        isName relation.shortName.toList = true ∧
        ¬ Mentions relation.fullName.toList relayedMock.asRelation.toList := by
    decide +kernel
  exact fun id mem => ⟨fun relation known => (names id mem relation known).1,
    fun relation known => (names id mem relation known).2.1,
    fun relation known => (names id mem relation known).2.2⟩

theorem execute_relayed :
    List.IsChain relayed.PassesThrough ["model.x.top", "model.x.mid", "source.x.s"] ∧
      ["model.x.top", "model.x.mid"].Nodup ∧
      relayed.mocks.lookup "source.x.s" = some ⟨"s.csv", []⟩ ∧
      Mock.encode relayed.files ⟨"s.csv", []⟩ = .ok relayedMock ∧
      (∀ column ∈ relayedMock.columns, IsColumn [.asWord, .limit] column) ∧
      (∀ column ∈ relayedMock.columns, ∀ type ∈ [].lookup column, IsType type) ∧
      (∀ id ∈ ["model.x.top", "model.x.mid", "source.x.s"],
        relayed.NamedApart relayedMock.asRelation.toList id) ∧
      ∃ replacement answer, relayed.resolve "model.x.top" = .ok replacement ∧
        Memory.empty.execute relayedMock.asRelation = .ok answer ∧
        Memory.empty.execute replacement.sql = .ok answer := by
  have distinct : ["model.x.top", "model.x.mid"].Nodup := by decide +kernel
  have mocked : relayed.mocks.lookup "source.x.s" = some ⟨"s.csv", []⟩ := by decide +kernel
  have encodes : Mock.encode relayed.files ⟨"s.csv", []⟩ = .ok relayedMock := by decide +kernel
  have isColumn : ∀ column ∈ relayedMock.columns, IsColumn [.asWord, .limit] column := by
    decide +kernel
  have isType : ∀ column ∈ relayedMock.columns, ∀ type ∈ [].lookup column, IsType type := by
    decide +kernel
  exact ⟨relayed_chain, distinct, mocked, encodes, isColumn, isType, relayed_namedApart,
    execute_of_chain _ _ _ "model.x.top" "source.x.s" ["model.x.mid"] _ relayedMock relayed_chain
      distinct mocked encodes isColumn isType relayed_namedApart⟩

end ModelBench.Resolver
