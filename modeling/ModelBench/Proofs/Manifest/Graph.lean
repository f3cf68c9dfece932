import ModelBench.Manifest.Graph
import ModelBench.Proofs.Text.Ascending
import Mathlib.Logic.Relation

/-!
# Reach in a graph of dependencies

A walk from a target comes to exactly the ids to which a path leads on which nothing is mocked
(`mem_reach_iff`): what it comes to is at the end of such a path (`exists_of_mem_reachFrom`), and
what follows something it came to, and is not mocked, is something it comes to
(`covered_of_next`). The vertices of a manifest's graph are its nodes, and its other sources. Where no
id is both a node and a source, a node is what its id tells (`vertex?_of_apart`).
-/

namespace ModelBench

namespace DependencyGraph

open Relation

variable {g : DependencyGraph} {mocked visited queue : List String} {target id x : String}

/-! ## Walks -/

/-- Whether a walk goes on from the first id to the second one: neither is mocked, and the first one
is a model or seed that reads the second one. -/
def Leads (g : DependencyGraph) (mocked : List String) (id next : String) : Prop :=
  id ∉ mocked ∧ next ∉ mocked ∧ next ∈ g.next id

theorem isCompiled_of_mem_next (h : x ∈ g.next id) : g.isCompiled id = true := by
  cases found : g.vertex? id with
  | none =>
    rw [next, found] at h
    cases h
  | some vertex =>
    simp only [next, found] at h
    split_ifs at h with compiled
    · rw [isCompiled, found]
      exact compiled
    · cases h

theorem reachFrom_nil : g.reachFrom mocked visited [] = [] := by rw [reachFrom]

theorem reachFrom_of_skipped (h : id ∈ visited ∨ id ∈ mocked) :
    g.reachFrom mocked visited (id :: queue) = g.reachFrom mocked visited queue := by
  rw [reachFrom, dif_pos h]

theorem reachFrom_of_fresh (h : ¬ (id ∈ visited ∨ id ∈ mocked)) :
    g.reachFrom mocked visited (id :: queue) =
      id :: g.reachFrom mocked (id :: visited) (queue ++ g.next id) := by
  rw [reachFrom, dif_neg h]

/-- What a walk comes to is not mocked, and a path leads to it from the queue. -/
theorem exists_of_mem_reachFrom (h : x ∈ g.reachFrom mocked visited queue) :
    x ∉ mocked ∧ ∃ start ∈ queue, start ∉ mocked ∧ ReflTransGen (g.Leads mocked) start x := by
  induction visited, queue using reachFrom.induct g mocked with
  | case1 visited =>
    rw [reachFrom_nil] at h
    cases h
  | case2 visited id queue skipped ih =>
    rw [reachFrom_of_skipped skipped] at h
    obtain ⟨unmocked, start, mem, path⟩ := ih h
    exact ⟨unmocked, start, List.mem_cons_of_mem _ mem, path⟩
  | case3 visited id queue fresh ih =>
    have here : id ∉ mocked := fun mem => fresh (.inr mem)
    rw [reachFrom_of_fresh fresh] at h
    rcases List.mem_cons.1 h with rfl | h
    · exact ⟨here, x, List.mem_cons_self, here, .refl⟩
    · obtain ⟨unmocked, start, mem, start_unmocked, path⟩ := ih h
      rcases List.mem_append.1 mem with mem | mem
      · exact ⟨unmocked, start, List.mem_cons_of_mem _ mem, start_unmocked, path⟩
      · exact ⟨unmocked, id, List.mem_cons_self, here, path.head ⟨here, start_unmocked, mem⟩⟩

/-- Whether a walk need not come to an id any more: it is visited, mocked or found. -/
def Covered (visited mocked found : List String) (id : String) : Prop :=
  id ∈ visited ∨ id ∈ mocked ∨ id ∈ found

theorem Covered.of_cons {found : List String} (h : Covered (id :: visited) mocked found x) :
    Covered visited mocked (id :: found) x := by
  rcases h with mem | mem | mem
  · rcases List.mem_cons.1 mem with rfl | mem
    · exact .inr (.inr List.mem_cons_self)
    · exact .inl mem
  · exact .inr (.inl mem)
  · exact .inr (.inr (List.mem_cons_of_mem _ mem))

/-- A walk comes to everything in its queue. -/
theorem covered_of_queue (h : x ∈ queue) :
    Covered visited mocked (g.reachFrom mocked visited queue) x := by
  induction visited, queue using reachFrom.induct g mocked with
  | case1 visited => cases h
  | case2 visited id queue skipped ih =>
    rw [reachFrom_of_skipped skipped]
    rcases List.mem_cons.1 h with rfl | h
    · exact skipped.imp_right .inl
    · exact ih h
  | case3 visited id queue fresh ih =>
    rw [reachFrom_of_fresh fresh]
    rcases List.mem_cons.1 h with rfl | h
    · exact .inr (.inr List.mem_cons_self)
    · exact (ih (List.mem_append_left _ h)).of_cons

/-- A walk comes to everything that something it comes to reads. -/
theorem covered_of_next (h : id ∈ g.reachFrom mocked visited queue) (next : x ∈ g.next id) :
    Covered visited mocked (g.reachFrom mocked visited queue) x := by
  induction visited, queue using reachFrom.induct g mocked with
  | case1 visited =>
    rw [reachFrom_nil] at h
    cases h
  | case2 visited other queue skipped ih =>
    rw [reachFrom_of_skipped skipped] at h ⊢
    exact ih h
  | case3 visited other queue fresh ih =>
    rw [reachFrom_of_fresh fresh] at h ⊢
    rcases List.mem_cons.1 h with rfl | h
    · exact (covered_of_queue (List.mem_append_right _ next)).of_cons
    · exact (ih h).of_cons

/-- A walk from a target comes to exactly the ids to which a path without mocked ids leads. -/
theorem mem_reach_iff : id ∈ g.reach target mocked ↔
    target ∉ mocked ∧ ReflTransGen (g.Leads mocked) target id := by
  rw [reach, Text.mem_ascending]
  constructor
  · intro h
    obtain ⟨-, start, mem, unmocked, path⟩ := exists_of_mem_reachFrom h
    obtain rfl := List.mem_singleton.1 mem
    exact ⟨unmocked, path⟩
  · rintro ⟨unmocked, path⟩
    have found {x : String} (h : Covered [] mocked (g.reachFrom mocked [] [target]) x)
        (free : x ∉ mocked) :
        x ∈ g.reachFrom mocked [] [target] := by
      rcases h with mem | mem | mem
      · cases mem
      · exact absurd mem free
      · exact mem
    induction path with
    | refl => exact found (covered_of_queue List.mem_cons_self) unmocked
    | tail _ leads ih => exact found (covered_of_next ih leads.2.2) leads.2.1

/-- A list that holds the target and whatever its members lead to holds everything within reach. -/
theorem mem_of_mem_reach {ids : List String} (start : target ∈ ids)
    (closed : ∀ x ∈ ids, ∀ y ∈ g.next x, y ∈ ids ∨ y ∈ mocked)
    (h : id ∈ g.reach target mocked) : id ∈ ids := by
  obtain ⟨-, path⟩ := mem_reach_iff.1 h
  clear h
  induction path with
  | refl => exact start
  | tail _ leads ih => exact (closed _ ih _ leads.2.2).resolve_right leads.2.1

/-! ## Graphs of manifests -/

variable {m : Manifest} {node : Manifest.Node}

theorem lookup_map_snd {α β : Type} (f : String → α → β) (entries : List (String × α))
    (id : String) :
    (entries.map fun (key, value) => (key, f key value)).lookup id =
      (entries.lookup id).map (f id) := by
  induction entries with
  | nil => rfl
  | cons entry entries ih =>
    obtain ⟨key, value⟩ := entry
    rw [List.map_cons, List.lookup_cons, List.lookup_cons, ih]
    by_cases same : id = key
    · subst same
      simp
    · simp [beq_false_of_ne same]

/-- The vertex of an id is that of its node. -/
theorem vertex?_of_node (found : m.node? id = some node) :
    (ofManifest m).vertex? id = some (vertexOfNode m id node) := by
  rw [vertex?, ofManifest, List.lookup_append, lookup_map_snd (vertexOfNode m), ← Manifest.node?,
    found]
  rfl

/-- An id without a node has at most the vertex of a source. -/
theorem isCompiled_of_no_node (none_ : m.node? id = none) :
    (ofManifest m).isCompiled id = false := by
  rw [isCompiled, vertex?, ofManifest, List.lookup_append, lookup_map_snd (vertexOfNode m),
    ← Manifest.node?, none_, lookup_map_snd fun _ _ => vertexOfSource, ← Manifest.source?]
  cases m.source? id <;> rfl

/-- A model or seed of the graph is a model or seed of the manifest. -/
theorem exists_node_of_isCompiled (h : (ofManifest m).isCompiled id = true) :
    ∃ node, m.node? id = some node ∧ (NodeKind.ofId id).isCompiled = true ∧
      (ofManifest m).next id = node.dependsOn ∧ (ofManifest m).lacksSql id = !node.hasSql := by
  cases found : m.node? id with
  | none =>
    rw [isCompiled_of_no_node found] at h
    cases h
  | some node =>
    have vertex := vertex?_of_node found
    rw [isCompiled, vertex] at h
    have compiled : (NodeKind.ofId id).isCompiled = true := by
      simp only [vertexOfNode] at h
      split_ifs at h
      · cases h
      · exact h
    refine ⟨node, rfl, compiled, ?_, ?_⟩
    · rw [next, vertex]
      exact if_pos h
    · rw [lacksSql, vertex]
      show ((NodeKind.ofId id).isCompiled && !node.hasSql) = _
      rw [compiled, Bool.true_and]

/-! ## Nodes that are no sources -/

theorem notMem_keys_iff {α : Type} {entries : List (String × α)} :
    id ∉ entries.map Prod.fst ↔ entries.lookup id = none := by
  rw [List.lookup_eq_none_iff, List.mem_map, not_exists]
  constructor
  · intro absent entry member
    exact bne_iff_ne.2 fun same => absent entry ⟨member, same.symm⟩
  · rintro differs entry ⟨member, same⟩
    exact bne_iff_ne.1 (differs entry member) same.symm

/-- Whether no id is both a node and a source. -/
def Apart (m : Manifest) : Prop := ∀ id ∈ m.nodes.map Prod.fst, id ∉ m.sources.map Prod.fst

theorem Apart.source?_eq_none (apart : Apart m) (found : m.node? id = some node) :
    m.source? id = none := by
  have member : id ∈ m.nodes.map Prod.fst := by
    by_contra absent
    rw [Manifest.node?, notMem_keys_iff.1 absent] at found
    cases found
  exact notMem_keys_iff.1 (apart id member)

theorem vertex?_of_apart (apart : Apart m) (found : m.node? id = some node) :
    (ofManifest m).vertex? id =
      some ⟨.ofId id, node.dependsOn, (NodeKind.ofId id).isCompiled && !node.hasSql⟩ := by
  rw [vertex?_of_node found, vertexOfNode, apart.source?_eq_none found]
  rfl

theorem isCompiled_of_apart (apart : Apart m) (found : m.node? id = some node) :
    (ofManifest m).isCompiled id = (NodeKind.ofId id).isCompiled := by
  rw [isCompiled, vertex?_of_apart apart found]

theorem next_of_apart (apart : Apart m) (found : m.node? id = some node)
    (compiled : (NodeKind.ofId id).isCompiled = true) :
    (ofManifest m).next id = node.dependsOn := by
  rw [next, vertex?_of_apart apart found]
  exact if_pos compiled

theorem lacksSql_of_apart (apart : Apart m) (found : m.node? id = some node) :
    (ofManifest m).lacksSql id = ((NodeKind.ofId id).isCompiled && !node.hasSql) := by
  rw [lacksSql, vertex?_of_apart apart found]

end DependencyGraph

end ModelBench
