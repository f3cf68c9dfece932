import ModelBench.Proofs.Manifest.Graph
import Mathlib.Data.List.Chain
import Mathlib.Logic.Function.Iterate

/-!
# What a walk over a manifest reports

The walk over the graph of a manifest is a loop that takes one id from its queue on every turn. It
ends, on circles as well, because every turn uses up a dependency that was not read before
(`exists_turns`). What it reports are exactly the ends of the paths on which nothing is mocked and
everything but the end is a model or seed (`reports_exactly_open_paths`). Mocking more never adds to
a report, and mocking what is reported leaves nothing to report (`nothing_reported_of_mocked`).
-/

namespace ModelBench.DependencyGraph

open Relation Text

variable {g : DependencyGraph} {m : Manifest} {mocked more visited queue path : List String}
  {target id x : String} {node : Manifest.Node}

/-! ## Turns of a walk -/

/-- Where a walk stands: the ids that it has taken from its queue, those still in the queue, and
those that it has come to. -/
structure Walk where
  visited : List String
  queue : List String
  found : List String
  deriving DecidableEq, Repr

namespace Walk

/-- The walk before its first turn. -/
def start (target : String) : Walk := ⟨[], [target], []⟩

/-- The walk after one more turn, which takes the first id from the queue. With an empty queue the
walk is over. -/
def turn (g : DependencyGraph) (mocked : List String) (w : Walk) : Walk :=
  match w.queue with
  | [] => w
  | id :: queue =>
    if id ∈ w.visited then { w with queue }
    else if id ∈ mocked then { w with visited := id :: w.visited, queue }
    else ⟨id :: w.visited, queue ++ g.next id, w.found ++ [id]⟩

end Walk

/-- The number of dependencies of the vertices that have not been visited. -/
def unread : List (String × Vertex) → (visited : List String) → Nat
  | [], _ => 0
  | (id, vertex) :: rest, visited =>
    (if id ∈ visited then 0 else vertex.parents.length) + unread rest visited

theorem unread_cons_le (vertices : List (String × Vertex)) (visited : List String) (id : String) :
    unread vertices (id :: visited) ≤ unread vertices visited := by
  induction vertices with
  | nil => exact Nat.le_refl _
  | cons entry rest ih =>
    obtain ⟨name, vertex⟩ := entry
    rw [unread, unread]
    by_cases before : name ∈ visited
    · rw [if_pos before, if_pos (List.mem_cons_of_mem _ before)]
      omega
    · rw [if_neg before]
      split_ifs <;> omega

theorem length_next_cons_self_le (id : String) (vertex : Vertex) (rest : List (String × Vertex)) :
    ((⟨(id, vertex) :: rest⟩ : DependencyGraph).next id).length ≤ vertex.parents.length := by
  rw [next, vertex?, List.lookup_cons_self]
  show (if vertex.kind.isCompiled = true then vertex.parents else []).length ≤ _
  split_ifs <;> simp

theorem next_cons_of_ne {name : String} (ne : id ≠ name) (vertex : Vertex)
    (rest : List (String × Vertex)) :
    (⟨(name, vertex) :: rest⟩ : DependencyGraph).next id = (⟨rest⟩ : DependencyGraph).next id := by
  rw [next, next, vertex?, vertex?, List.lookup_cons, beq_false_of_ne ne]

/-- Visiting an id for the first time uses up its dependencies. -/
theorem unread_cons_add_length_le (g : DependencyGraph) (fresh : id ∉ visited) :
    unread g.vertices (id :: visited) + (g.next id).length ≤ unread g.vertices visited := by
  obtain ⟨vertices⟩ := g
  show unread vertices (id :: visited) + _ ≤ unread vertices visited
  induction vertices with
  | nil => exact Nat.le_refl _
  | cons entry rest ih =>
    obtain ⟨name, vertex⟩ := entry
    rw [unread, unread]
    by_cases same : id = name
    · subst same
      have here := length_next_cons_self_le id vertex rest
      have le := unread_cons_le rest visited id
      rw [if_pos List.mem_cons_self, if_neg fresh]
      omega
    · have kept : name ∈ id :: visited ↔ name ∈ visited := by
        rw [List.mem_cons, or_iff_right (Ne.symm same)]
      rw [next_cons_of_ne same, if_congr kept rfl rfl]
      omega

/-- A walk has turned as long as its queue is not empty after one turn for every id in the queue and
every dependency not read before; it has then found what can be reached from the queue. -/
theorem exists_turns_of_queue (visited : List String) (queue : List String) (w : Walk)
    (same : w.queue = queue)
    (seen : ∀ id, id ∈ w.visited ∨ id ∈ mocked ↔ id ∈ visited ∨ id ∈ mocked) :
    ∃ turns ≤ queue.length + unread g.vertices w.visited,
      ((Walk.turn g mocked)^[turns] w).queue = [] ∧
        ((Walk.turn g mocked)^[turns] w).found = w.found ++ g.reachFrom mocked visited queue := by
  induction visited, queue using reachFrom.induct g mocked generalizing w with
  | case1 visited =>
    refine ⟨0, Nat.zero_le _, same, ?_⟩
    rw [reachFrom_nil, List.append_nil]
    rfl
  | case2 visited id queue skipped ih =>
    rw [reachFrom_of_skipped skipped, List.length_cons]
    by_cases before : id ∈ w.visited
    · have turn : w.turn g mocked = { w with queue } := by
        rw [Walk.turn, same]
        exact if_pos before
      obtain ⟨turns, bound, ends, found⟩ := ih { w with queue } rfl seen
      refine ⟨turns + 1, ?_, ?_⟩
      · show _ ≤ queue.length + 1 + unread g.vertices w.visited
        have : turns ≤ queue.length + unread g.vertices w.visited := bound
        omega
      · rw [Function.iterate_succ_apply, turn]
        exact ⟨ends, found⟩
    · have mock : id ∈ mocked := ((seen id).2 skipped).resolve_left before
      have turn : w.turn g mocked = { w with visited := id :: w.visited, queue } := by
        rw [Walk.turn, same]
        exact (if_neg before).trans (if_pos mock)
      obtain ⟨turns, bound, ends, found⟩ := ih { w with visited := id :: w.visited, queue } rfl
        fun x => by
          rw [← seen x, List.mem_cons, or_assoc]
          exact or_iff_right_of_imp fun eq => .inr (eq ▸ mock)
      refine ⟨turns + 1, ?_, ?_⟩
      · have : turns ≤ queue.length + unread g.vertices (id :: w.visited) := bound
        have := unread_cons_le g.vertices w.visited id
        omega
      · rw [Function.iterate_succ_apply, turn]
        exact ⟨ends, found⟩
  | case3 visited id queue fresh ih =>
    rw [reachFrom_of_fresh fresh, List.length_cons]
    have unseen : ¬ (id ∈ w.visited ∨ id ∈ mocked) := fun before => fresh ((seen id).1 before)
    rw [not_or] at unseen
    have turn : w.turn g mocked = ⟨id :: w.visited, queue ++ g.next id, w.found ++ [id]⟩ := by
      rw [Walk.turn, same]
      exact (if_neg unseen.1).trans (if_neg unseen.2)
    obtain ⟨turns, bound, ends, found⟩ :=
      ih ⟨id :: w.visited, queue ++ g.next id, w.found ++ [id]⟩ rfl fun x => by
        rw [List.mem_cons, List.mem_cons, or_assoc, or_assoc, seen x]
    refine ⟨turns + 1, ?_, ?_⟩
    · have bound : turns ≤ (queue ++ g.next id).length + unread g.vertices (id :: w.visited) := bound
      have used := unread_cons_add_length_le g unseen.1
      rw [List.length_append] at bound
      omega
    · rw [Function.iterate_succ_apply, turn]
      refine ⟨ends, found.trans ?_⟩
      rw [List.append_assoc, List.singleton_append]

/-- The walk from a target is over after at most one turn for the target and one for every
dependency in the graph, and what it has found then is what is within reach. -/
theorem exists_turns (g : DependencyGraph) (target : String) (mocked : List String) :
    ∃ turns ≤ 1 + unread g.vertices [],
      ((Walk.turn g mocked)^[turns] (.start target)).queue = [] ∧
        ascending ((Walk.turn g mocked)^[turns] (.start target)).found = g.reach target mocked := by
  obtain ⟨turns, bound, ends, found⟩ :=
    exists_turns_of_queue (g := g) [] [target] (.start target) rfl fun _ => Iff.rfl
  refine ⟨turns, bound, ends, ?_⟩
  rw [found]
  rfl

/-- What is within reach can be read off the walk after any number of turns, once it is over. -/
theorem reach_of_ended (turns : ℕ)
    (ended : ((Walk.turn g mocked)^[turns] (.start target)).queue = []) :
    g.reach target mocked = ascending ((Walk.turn g mocked)^[turns] (.start target)).found := by
  obtain ⟨others, -, ended', reach⟩ := exists_turns g target mocked
  have stays {w : Walk} (h : w.queue = []) (n : ℕ) : (Walk.turn g mocked)^[n] w = w :=
    Function.iterate_fixed (by rw [Walk.turn, h]) n
  rw [← reach]
  rcases Nat.le_total turns others with le | le
  · rw [← Nat.sub_add_cancel le, Function.iterate_add_apply, stays ended]
  · rw [← Nat.sub_add_cancel le, Function.iterate_add_apply, stays ended']

/-! ## Paths of a manifest -/

/-- Whether the first id is a node that depends on the second one. -/
def DependsOn (m : Manifest) (id dependency : String) : Prop :=
  ∃ node, m.node? id = some node ∧ dependency ∈ node.dependsOn

/-- Whether an id is a model or seed of the graph: a node of such a kind, and no source. -/
def IsModelOrSeed (m : Manifest) (id : String) : Prop :=
  (∃ node, m.node? id = some node) ∧ m.source? id = none ∧ (NodeKind.ofId id).isCompiled = true

/-- Whether an id is a node that is a model or seed and has a blank statement. -/
def HasBlankSql (m : Manifest) (id : String) : Prop :=
  ∃ node, m.node? id = some node ∧ (NodeKind.ofId id).isCompiled = true ∧
    isBlankString node.compiledCode = true

/-- Whether some ids are a path of dependencies from a target, on which nothing is mocked and
everything before the last id is a model or seed. -/
structure OpenPath (m : Manifest) (mocked : List String) (target x : String) (path : List String) :
    Prop where
  starts : path.head? = some target
  ends : path.getLast? = some x
  linked : path.IsChain (DependsOn m)
  unmocked : ∀ id ∈ path, id ∉ mocked
  inner : ∀ id ∈ path.dropLast, IsModelOrSeed m id

theorem isCompiled_iff : (ofManifest m).isCompiled id = true ↔ IsModelOrSeed m id := by
  cases found : m.node? id with
  | none =>
    rw [isCompiled_of_no_node found]
    simp [IsModelOrSeed, found]
  | some node =>
    rw [isCompiled, vertex?_of_node found, IsModelOrSeed, found]
    cases source : m.source? id with
    | none => simp [vertexOfNode, source]
    | some s => simp [vertexOfNode, source, NodeKind.isCompiled]

theorem mem_next_iff : x ∈ (ofManifest m).next id ↔ IsModelOrSeed m id ∧ DependsOn m id x := by
  constructor
  · intro mem
    have compiled := isCompiled_of_mem_next mem
    obtain ⟨node, found, -, eq, -⟩ := exists_node_of_isCompiled compiled
    exact ⟨isCompiled_iff.1 compiled, node, found, eq ▸ mem⟩
  · rintro ⟨compiled, node, found, mem⟩
    obtain ⟨node', found', -, eq, -⟩ := exists_node_of_isCompiled (isCompiled_iff.2 compiled)
    obtain rfl : node = node' := Option.some.inj (found.symm.trans found')
    rwa [eq]

theorem lacksSql_iff : (ofManifest m).lacksSql id = true ↔ HasBlankSql m id := by
  cases found : m.node? id with
  | none =>
    have absent : (ofManifest m).lacksSql id = false := by
      rw [lacksSql, vertex?, ofManifest, List.lookup_append, lookup_map_snd (vertexOfNode m),
        ← Manifest.node?, found, lookup_map_snd fun _ _ => vertexOfSource, ← Manifest.source?]
      cases m.source? id <;> rfl
    simp [absent, HasBlankSql, found]
  | some node =>
    rw [lacksSql, vertex?_of_node found, HasBlankSql, found]
    simp [vertexOfNode, Manifest.Node.hasSql]

theorem OpenPath.single (unmocked : target ∉ mocked) : OpenPath m mocked target target [target] where
  starts := rfl
  ends := rfl
  linked := List.isChain_singleton target
  unmocked := by simpa using unmocked
  inner := List.forall_mem_nil _

/-- A walk that goes on to the start of a path makes the path longer. -/
theorem OpenPath.cons (leads : (ofManifest m).Leads mocked id target)
    (h : OpenPath m mocked target x path) : OpenPath m mocked id x (id :: path) := by
  obtain ⟨rest, rfl⟩ := List.head?_eq_some_iff.1 h.starts
  obtain ⟨compiled, depends⟩ := mem_next_iff.1 leads.2.2
  refine ⟨rfl, h.ends, List.isChain_cons_cons.2 ⟨depends, h.linked⟩,
    List.forall_mem_cons.2 ⟨leads.1, h.unmocked⟩, ?_⟩
  rw [List.dropLast_cons_cons]
  exact List.forall_mem_cons.2 ⟨compiled, h.inner⟩

theorem OpenPath.leads (h : OpenPath m mocked target x path) :
    target ∉ mocked ∧ ReflTransGen ((ofManifest m).Leads mocked) target x := by
  induction path generalizing target with
  | nil => cases h.starts
  | cons first rest ih =>
    obtain rfl : first = target := Option.some.inj h.starts
    have here : first ∉ mocked := h.unmocked first List.mem_cons_self
    cases rest with
    | nil =>
      obtain rfl : first = x := Option.some.inj h.ends
      exact ⟨here, .refl⟩
    | cons next rest =>
      obtain ⟨depends, linked⟩ := List.isChain_cons_cons.1 h.linked
      have inner := h.inner
      rw [List.dropLast_cons_cons, List.forall_mem_cons] at inner
      obtain ⟨unmocked, path⟩ := ih ⟨rfl, h.ends, linked, (List.forall_mem_cons.1 h.unmocked).2,
        inner.2⟩
      exact ⟨here, path.head ⟨here, unmocked, mem_next_iff.2 ⟨inner.1, depends⟩⟩⟩

/-- What is within reach is what a path leads to. -/
theorem mem_reach_iff_exists_path :
    x ∈ (ofManifest m).reach target mocked ↔ ∃ path, OpenPath m mocked target x path := by
  rw [mem_reach_iff]
  constructor
  · rintro ⟨unmocked, path⟩
    induction path using ReflTransGen.head_induction_on with
    | refl => exact ⟨_, .single unmocked⟩
    | head leads _ ih =>
      obtain ⟨path, h⟩ := ih leads.2.1
      exact ⟨_, h.cons leads⟩
  · rintro ⟨path, h⟩
    exact h.leads

/-! ## Reports -/

/-- Whether some ids are those with a property, each once and in ascending order. -/
structure Lists (ids : List String) (p : String → Prop) : Prop where
  ascending : ids.Pairwise (· < ·)
  mem_iff : ∀ id, id ∈ ids ↔ p id

theorem lists_filter_reach (m : Manifest) (target : String) (mocked : List String)
    (p : String → Bool) : Lists (((ofManifest m).reach target mocked).filter p)
      fun x => (∃ path, OpenPath m mocked target x path) ∧ p x = true where
  ascending := (ascending_sorted _).filter p
  mem_iff x := by rw [List.mem_filter, mem_reach_iff_exists_path]

/-- The walk from a target ends, and what it reports is in ascending order: as unmocked leaves, all
ids that are no model or seed and to which a path without mocks leads; as nodes without a statement,
all models and seeds to which such a path leads and whose statement is blank. -/
theorem reports_exactly_open_paths (m : Manifest) (target : String) (mocked : List String) :
    (∃ turns ≤ 1 + unread (ofManifest m).vertices [],
      let ended := (Walk.turn (ofManifest m) mocked)^[turns] (.start target)
      ended.queue = [] ∧ ascending ended.found = (ofManifest m).reach target mocked) ∧
    Lists ((ofManifest m).unmockedLeaves target mocked)
      (fun x => (∃ path, OpenPath m mocked target x path) ∧ ¬ IsModelOrSeed m x) ∧
    Lists ((ofManifest m).uncompiledNodes target mocked)
      (fun x => (∃ path, OpenPath m mocked target x path) ∧ HasBlankSql m x) := by
  refine ⟨exists_turns _ target mocked, ?_, ?_⟩
  · have leaves := lists_filter_reach m target mocked fun id => !(ofManifest m).isCompiled id
    simp only [Bool.not_eq_true', ← Bool.not_eq_true, isCompiled_iff] at leaves
    exact leaves
  · have uncompiled := lists_filter_reach m target mocked (ofManifest m).lacksSql
    simp only [lacksSql_iff] at uncompiled
    exact uncompiled

/-! ## Mocking what is reported -/

/-- Mocking more ids leaves fewer within reach. -/
theorem reach_subset (sub : mocked ⊆ more) : g.reach target more ⊆ g.reach target mocked := by
  intro x mem
  obtain ⟨unmocked, path⟩ := mem_reach_iff.1 mem
  have leads (a b : String) (h : g.Leads more a b) : g.Leads mocked a b :=
    ⟨fun mock => h.1 (sub mock), fun mock => h.2.1 (sub mock), h.2.2⟩
  exact mem_reach_iff.2 ⟨fun mock => unmocked (sub mock), ReflTransGen.mono leads _ _ path⟩

theorem notMem_mocked_of_mem_reach (mem : x ∈ g.reach target mocked) : x ∉ mocked := by
  rw [reach, mem_ascending] at mem
  exact (exists_of_mem_reachFrom mem).1

theorem filter_reach_subset (sub : mocked ⊆ more) (p : String → Bool) :
    (g.reach target more).filter p ⊆ (g.reach target mocked).filter p := by
  intro x mem
  rw [List.mem_filter] at mem ⊢
  exact ⟨reach_subset sub mem.1, mem.2⟩

/-- What is still reported with more mocks was reported before, so it cannot be one of them. -/
theorem filter_reach_eq_nil (sub : mocked ⊆ more) {p : String → Bool}
    (reported : (g.reach target mocked).filter p ⊆ more) :
    (g.reach target more).filter p = [] := by
  refine List.eq_nil_iff_forall_not_mem.2 fun x mem => ?_
  have unmocked := notMem_mocked_of_mem_reach (List.mem_filter.1 mem).1
  exact unmocked (reported (filter_reach_subset sub p mem))

/-- Mocking more never adds to a report, and once everything that is reported is mocked nothing is
reported any more. -/
theorem nothing_reported_of_mocked (g : DependencyGraph) (target : String)
    {mocked more : List String} (sub : mocked ⊆ more) :
    g.unmockedLeaves target more ⊆ g.unmockedLeaves target mocked ∧
      g.uncompiledNodes target more ⊆ g.uncompiledNodes target mocked ∧
      (g.unmockedLeaves target mocked ++ g.uncompiledNodes target mocked ⊆ more →
        g.unmockedLeaves target more = [] ∧ g.uncompiledNodes target more = []) := by
  refine ⟨filter_reach_subset sub _, filter_reach_subset sub _, fun reported => ?_⟩
  rw [List.append_subset] at reported
  exact ⟨filter_reach_eq_nil sub reported.1, filter_reach_eq_nil sub reported.2⟩

/-- A node of an example. -/
def sampleNode (id sql : String) (dependsOn : List String) : String × Manifest.Node :=
  (id, { uniqueId := id, name := id, resourceType := "", database := "p", schema := "d"
         shortName := id, compiledCode := sql, dependsOn, qualifiedName := [] })

/-- Two models that depend on each other, one that depends on itself, on an id that is not known and
on a seed without a statement. -/
def tangled : DependencyGraph := ofManifest
  { metadata := none
    nodes := [
      sampleNode "model.x.top" "SELECT 1" ["model.x.left", "model.x.right", "model.x.left"],
      sampleNode "model.x.left" "SELECT 1" ["source.x.a", "model.x.top"],
      sampleNode "model.x.right" "SELECT 1" ["model.x.ghost", "model.x.right", "seed.x.codes"],
      sampleNode "seed.x.codes" " " []]
    sources := [("source.x.a", ⟨"source.x.a", "a", [], "`p`.`raw`.`a`"⟩)] }

theorem reach_tangled : tangled.reach "model.x.top" ["source.x.a"] =
    ["model.x.ghost", "model.x.left", "model.x.right", "model.x.top", "seed.x.codes"] := by
  rw [reach_of_ended 9 (by decide +kernel)]
  decide +kernel

theorem nothing_reported_tangled :
    ["source.x.a"] ⊆ ["source.x.a", "model.x.ghost", "seed.x.codes"] ∧
      tangled.unmockedLeaves "model.x.top" ["source.x.a"] = ["model.x.ghost"] ∧
      tangled.uncompiledNodes "model.x.top" ["source.x.a"] = ["seed.x.codes"] ∧
      tangled.unmockedLeaves "model.x.top" ["source.x.a", "model.x.ghost", "seed.x.codes"] = [] ∧
      tangled.uncompiledNodes "model.x.top" ["source.x.a", "model.x.ghost", "seed.x.codes"] =
        [] := by
  have leaves : tangled.unmockedLeaves "model.x.top" ["source.x.a"] = ["model.x.ghost"] := by
    rw [unmockedLeaves, reach_tangled]
    decide +kernel
  have uncompiled : tangled.uncompiledNodes "model.x.top" ["source.x.a"] = ["seed.x.codes"] := by
    rw [uncompiledNodes, reach_tangled]
    decide +kernel
  have sub : ["source.x.a"] ⊆ ["source.x.a", "model.x.ghost", "seed.x.codes"] := by decide
  have reported := (nothing_reported_of_mocked tangled "model.x.top" sub).2.2
  rw [leaves, uncompiled] at reported
  exact ⟨sub, leaves, uncompiled, reported (by decide)⟩

end ModelBench.DependencyGraph
