import ModelBench.Proofs.Resolution.Graph
import Mathlib.Data.List.Chain

/-!
# Circles of dependencies

A circle that resolving reports is one of the manifest, and the target leads to it; and as long as
there is one within reach, resolving does not succeed (`circle_of_resolve`). A walk carries the path
that leads to its id (`Way`): a chain of statements that read each other, and no id is on it twice.
So what is cut off from it at an id that comes again is a circle (`Way.isCircle`).
-/

namespace ModelBench.Resolver

open Relation
open Sql (Replacement)

variable {r : Resolver} {path circle : List String} {target id : String}

/-! ## Circles -/

/-- Whether some ids are a circle: each depends on the next one, the last one is the first one, and
no other comes twice. All of them are models or seeds with a statement and without a mock. -/
structure IsCircle (r : Resolver) (circle : List String) : Prop where
  two_le_length : 2 ≤ circle.length
  closed : circle.head? = circle.getLast?
  nodup : circle.dropLast.Nodup
  linked : circle.IsChain fun id dependency =>
    ∃ node, r.manifest.node? id = some node ∧ dependency ∈ node.dependsOn
  compiled : ∀ id ∈ circle, r.mocks.lookup id = none ∧
    (r.manifest.kindOf id = some .model ∨ r.manifest.kindOf id = some .seed) ∧
    ∃ node, r.manifest.node? id = some node ∧ Text.isBlankString node.compiledCode = false

/-- The first id of a circle reads itself in the end. -/
theorem IsCircle.reads_self {first : String} (h : r.IsCircle circle)
    (head : circle.head? = some first) : TransGen r.Reads first first := by
  obtain ⟨tail, rfl⟩ := List.head?_eq_some_iff.1 head
  have reads : (first :: tail).IsChain r.Reads := by
    refine h.linked.imp_of_mem_imp fun id dependency hid _ depends => ?_
    obtain ⟨unmocked, kind, -⟩ := h.compiled id hid
    exact ⟨unmocked, kind, depends⟩
  cases tail with
  | nil => exact absurd h.two_le_length (by simp)
  | cons next tail =>
    rw [List.isChain_cons_cons] at reads
    have last : (next :: tail).getLast (List.cons_ne_nil _ _) = first := by
      have closed := h.closed
      rw [List.head?_cons, List.getLast?_cons_cons,
        List.getLast?_eq_some_getLast (List.cons_ne_nil _ _)] at closed
      exact (Option.some.inj closed).symm
    exact .head' reads.1 (List.relationReflTransGen_of_exists_isChain_cons tail reads.2 last)

/-! ## The way of a walk -/

/-- Whether a walk from the target may come to an id along a path, which leads from the id whose
statement needs it back to the target. -/
inductive Way (r : Resolver) (target : String) : (path : List String) → (id : String) → Prop
  | start : Way r target [] target
  | step {path : List String} {id dependency : String} (way : Way r target path id)
      (fresh : id ∉ path) (leads : r.LeadsTo id dependency) :
      Way r target (id :: path) dependency

theorem Way.nodup (way : r.Way target path id) : path.Nodup := by
  induction way with
  | start => exact List.nodup_nil
  | step way fresh leads ih => exact List.nodup_cons.2 ⟨fresh, ih⟩

/-- Read from the target on, every id on the path leads to the next one. -/
theorem Way.isChain (way : r.Way target path id) :
    (path.reverse ++ [id]).IsChain r.LeadsTo := by
  induction way with
  | start => exact List.isChain_singleton target
  | @step path id dependency way fresh leads ih =>
    rw [List.reverse_cons, List.isChain_append]
    refine ⟨ih, List.isChain_singleton dependency, fun x hx y hy => ?_⟩
    obtain rfl : id = x := by simpa using hx
    obtain rfl : dependency = y := by simpa using hy
    exact leads

theorem Way.leads (way : r.Way target path id) : ReflTransGen r.LeadsTo target id := by
  induction way with
  | start => exact .refl
  | step way fresh leads ih => exact ih.tail leads

theorem LeadsTo.reads {dependency : String} (leads : r.LeadsTo id dependency) :
    r.Reads id dependency := by
  obtain ⟨node, task, mem⟩ := leads
  exact (reads_iff task).2 mem

/-- What leads to another id is a model or seed with a statement and without a mock. -/
theorem LeadsTo.compiled {dependency : String} (leads : r.LeadsTo id dependency) :
    r.mocks.lookup id = none ∧
      (r.manifest.kindOf id = some .model ∨ r.manifest.kindOf id = some .seed) ∧
      ∃ node, r.manifest.node? id = some node ∧ Text.isBlankString node.compiledCode = false := by
  obtain ⟨node, task, -⟩ := leads
  obtain ⟨unmocked, found, compiled, sql⟩ := task_eq_compile_iff.1 task
  exact ⟨unmocked, (isCompiled_ofId_iff _ found).1 compiled, node, found,
    by simpa [Manifest.Node.hasSql] using sql⟩

theorem exists_of_isChain_concat {α : Type} {R : α → α → Prop} {front : List α} {last x : α}
    (chain : (front ++ [last]).IsChain R) (mem : x ∈ front) : ∃ y, R x y := by
  induction front with
  | nil => cases mem
  | cons y front ih =>
    rcases List.mem_cons.1 mem with rfl | mem
    · cases front with
      | nil => exact ⟨last, (List.isChain_cons_cons.1 chain).1⟩
      | cons next front => exact ⟨next, (List.isChain_cons_cons.1 chain).1⟩
    · exact ih (List.isChain_of_isChain_cons chain) mem

/-- A path that comes to an id on it once more ends with a circle. -/
theorem Way.isCircle (way : r.Way target path id) (mem : id ∈ path) :
    r.IsCircle (cycle path id) ∧ (cycle path id).head? = some id := by
  obtain ⟨front, back, split⟩ := List.append_of_mem (List.mem_reverse.2 mem)
  have nodup : (front ++ id :: back).Nodup := split ▸ List.nodup_reverse.2 way.nodup
  have fresh : ∀ x ∈ front, decide (x ≠ id) = true := fun x hx => decide_eq_true fun same =>
    List.disjoint_of_nodup_append nodup hx (same ▸ List.mem_cons_self)
  have cut : cycle path id = id :: back ++ [id] := by
    rw [cycle, split, List.dropWhile_append_of_pos fresh, List.dropWhile_cons_of_neg (by simp)]
  have chain : (id :: back ++ [id]).IsChain r.LeadsTo := by
    have whole := way.isChain
    rw [split, List.append_assoc] at whole
    exact whole.right_of_append
  rw [cut]
  refine ⟨⟨by simp, by rw [List.getLast?_concat]; rfl, ?_, ?_, ?_⟩, rfl⟩
  · rw [List.dropLast_concat]
    exact (List.nodup_append.1 nodup).2.1
  · refine chain.imp fun x y leads => ?_
    obtain ⟨-, -, node, found, depends⟩ := leads.reads
    exact ⟨node, found, depends⟩
  · intro x hx
    have inFront : x ∈ id :: back := by
      rcases List.mem_append.1 hx with inside | last
      · exact inside
      · rw [List.mem_singleton.1 last]
        exact List.mem_cons_self
    obtain ⟨y, leads⟩ := exists_of_isChain_concat chain inFront
    exact leads.compiled

/-! ## Reported circles -/

theorem eq_substitution_of_substituteIn {replacement : Replacement} {sql : String}
    {e : ResolveError} (h : r.substituteIn id sql replacement = .error e) :
    ∃ cause, e = .substitution id cause := by
  rw [substituteIn] at h
  cases made : r.substituter sql replacement with
  | ok result => simp [made, Except.mapError] at h
  | error cause =>
    rw [made] at h
    cases h
    exact ⟨cause, rfl⟩

/-- A circle that a walk reports is one to which the target leads. -/
theorem Way.circle_of_plainFrom (way : r.Way target path id)
    (h : r.plainFrom path id = .error (.cyclicDependency circle)) :
    r.IsCircle circle ∧ ∃ first, circle.head? = some first ∧
      ReflTransGen r.LeadsTo target first := by
  induction path, id using plainFrom.induct r with
  | case1 path id mem =>
    rw [plainFrom_of_mem mem] at h
    cases h
    obtain ⟨circle, head⟩ := way.isCircle mem
    exact ⟨circle, id, head, way.leads⟩
  | case2 path id fresh e task =>
    rw [plainFrom_of_error fresh task] at h
    cases h
    exact (blames_of_task task).elim
  | case3 path id fresh given task =>
    rw [plainFrom_of_given fresh task] at h
    cases h
  | case4 path id fresh node task ih =>
    rw [plainFrom_of_compile fresh task] at h
    cases put : r.substituteAll id (r.plainFrom (id :: path)) node.compiledCode
      (dependencies node) with
    | ok sql =>
      rw [put] at h
      cases h
    | error e =>
      rw [put] at h
      cases h
      rcases error_of_substituteAll_or put with ⟨x, mem, found⟩ | ⟨_, _, _, -, failed⟩
      · exact ih x (way.step fresh ⟨node, task, mem⟩) found
      · obtain ⟨cause, other⟩ := eq_substitution_of_substituteIn failed
        cases other

/-- If a circle is reported, it is one of the manifest, and the target reaches it through models and
seeds without mocks. Where the target reaches a circle, nothing is resolved. This holds whatever the
manifest, the mocks, the files and the way in which replacements are made. -/
theorem circle_of_resolve (r : Resolver) (target : String) :
    (∀ circle, r.resolve target = .error (.cyclicDependency circle) →
      r.IsCircle circle ∧ ∃ first, circle.head? = some first ∧ r.Reaches target first) ∧
    ∀ circle first, r.IsCircle circle → circle.head? = some first → r.Reaches target first →
      ∀ replacement, r.resolve target ≠ .ok replacement := by
  constructor
  · intro circle failed
    rw [resolve, map_fst_resolveFrom (.nil []) (.nil r)] at failed
    obtain ⟨circle, first, head, leads⟩ := Way.start.circle_of_plainFrom failed
    exact ⟨circle, first, head, ReflTransGen.mono (fun _ _ => LeadsTo.reads) _ _ leads⟩
  · intro circle first isCircle head reach replacement resolved
    exact (yields_of_resolve resolved).not_reads_self reach (isCircle.reads_self head)

/-! ## An example -/

/-- A model that reads a circle of three others, and a source with a mock. -/
def knotted : Resolver :=
  textual
    { metadata := none
      nodes := [sampleModel "top" "SELECT a FROM `p`.`raw`.`s`, `p`.`d`.`one`"
          ["source.x.s", "model.x.one"],
        sampleModel "one" "SELECT a FROM `p`.`d`.`two`" ["model.x.two"],
        sampleModel "two" "SELECT a FROM `p`.`d`.`three`" ["model.x.three"],
        sampleModel "three" "SELECT a FROM `p`.`d`.`one`" ["model.x.one"]]
      sources := [("source.x.s", ⟨"source.x.s", "s", [], "`p`.`raw`.`s`"⟩)] }
    [("source.x.s", ⟨"s.csv", []⟩)]
    ⟨[], [(["s.csv"], .file [97, 10, 49, 10])]⟩

/-- The circle begins where the walk comes back to, and leaves out what only leads there. -/
theorem circle_of_resolve_knotted :
    knotted.resolve "model.x.top" = .error (.cyclicDependency
      ["model.x.one", "model.x.two", "model.x.three", "model.x.one"]) ∧
    knotted.IsCircle ["model.x.one", "model.x.two", "model.x.three", "model.x.one"] ∧
    knotted.Reaches "model.x.top" "model.x.one" ∧
    ∀ replacement, knotted.resolve "model.x.top" ≠ .ok replacement := by
  have failed : knotted.resolve "model.x.top" = .error (.cyclicDependency
      ["model.x.one", "model.x.two", "model.x.three", "model.x.one"]) := by
    decide +kernel
  obtain ⟨sound, complete⟩ := circle_of_resolve knotted "model.x.top"
  obtain ⟨circle, first, head, reach⟩ := sound _ failed
  obtain rfl : "model.x.one" = first := Option.some.inj head
  exact ⟨failed, circle, reach, complete _ _ circle rfl reach⟩

end ModelBench.Resolver
