import ModelBench.Resolution
import Mathlib.Tactic.Common

/-!
# Resolving without a table

`plainFrom` resolves an id with nothing but the path to it: whatever an id depends on is resolved
anew each time. The table of `resolveFrom` changes nothing (`resolve_eq_plain`), because an id that
is in the table has the same plain result along every path that avoids the table (`Transparent`),
and the path of a walk always avoids its table (`resolveFrom_agrees`).
-/

namespace ModelBench.Resolver

open Sql (Replacement)

variable {r : Resolver} {path : List String} {done : Resolved} {id : String}

/-! ## Plain resolution -/

/-- Resolves an id without a table of resolved ones. `path` leads from the id whose statement needs
it back to the target. -/
def plainFrom (r : Resolver) (path : List String) (id : String) :
    Except ResolveError Replacement :=
  if _fresh : id ∈ path then .error (.cyclicDependency (cycle path id))
  else
    match _found : r.task id with
    | .error e => .error e
    | .ok (.given replacement) => .ok replacement
    | .ok (.compile node) => do
      let sql ← (dependencies node).foldlM
        (fun sql dependency => do
          let replacement ← r.plainFrom (id :: path) dependency
          r.substituteIn id sql replacement)
        node.compiledCode
      return finish node sql
  termination_by unvisited r.manifest.nodes path
  decreasing_by exact unvisited_cons_lt (node?_of_task _found) _fresh

/-- The statement that stands for an id, resolved without a table. -/
def plain (r : Resolver) (id : String) : Except ResolveError Replacement := r.plainFrom [] id

/-- The statement of the node `id` with what `find` gives for some dependencies put into it, one
after the other. The first error ends it. -/
def substituteAll (r : Resolver) (id : String) (find : String → Except ResolveError Replacement) :
    (sql : String) → (names : List String) → Except ResolveError String
  | sql, [] => .ok sql
  | sql, dependency :: rest =>
    match find dependency with
    | .error e => .error e
    | .ok replacement =>
      match r.substituteIn id sql replacement with
      | .error e => .error e
      | .ok sql => r.substituteAll id find sql rest

/-- The same with a table that every dependency is looked up in and added to. -/
def substituteAllIn (r : Resolver) (id : String)
    (find : Resolved → String → Except ResolveError (Replacement × Resolved)) :
    (sql : String) → (done : Resolved) → (names : List String) →
      Except ResolveError (String × Resolved)
  | sql, done, [] => .ok (sql, done)
  | sql, done, dependency :: rest =>
    match find done dependency with
    | .error e => .error e
    | .ok (replacement, done) =>
      match r.substituteIn id sql replacement with
      | .error e => .error e
      | .ok sql => r.substituteAllIn id find sql done rest

theorem substituteAll_eq_foldlM (find : String → Except ResolveError Replacement)
    (sql : String) (names : List String) :
    r.substituteAll id find sql names =
      names.foldlM (fun sql dependency => do
        let replacement ← find dependency
        r.substituteIn id sql replacement) sql := by
  induction names generalizing sql with
  | nil => rfl
  | cons dependency rest ih =>
    rw [substituteAll, List.foldlM_cons]
    cases found : find dependency with
    | error e => simp only [bind, Except.bind]
    | ok replacement =>
      cases put : r.substituteIn id sql replacement with
      | error e => simp only [put, bind, Except.bind]
      | ok next => simpa only [put, bind, Except.bind] using ih next

theorem substituteAllIn_eq_foldlM
    (find : Resolved → String → Except ResolveError (Replacement × Resolved))
    (sql : String) (done : Resolved) (names : List String) :
    r.substituteAllIn id find sql done names =
      names.foldlM (fun (sql, done) dependency => do
        let (replacement, done) ← find done dependency
        return (← r.substituteIn id sql replacement, done)) (sql, done) := by
  induction names generalizing sql done with
  | nil => rfl
  | cons dependency rest ih =>
    rw [substituteAllIn, List.foldlM_cons]
    cases found : find done dependency with
    | error e => simp only [found, bind, Except.bind]
    | ok result =>
      cases put : r.substituteIn id sql result.1 with
      | error e => simp only [found, put, bind, Except.bind]
      | ok next =>
        simpa only [found, put, bind, Except.bind, pure, Except.pure] using ih next result.2

/-- Only what stands for the dependencies matters. -/
theorem substituteAll_congr {find find' : String → Except ResolveError Replacement} {sql : String}
    {names : List String} (h : ∀ x ∈ names, find x = find' x) :
    r.substituteAll id find sql names = r.substituteAll id find' sql names := by
  induction names generalizing sql with
  | nil => rfl
  | cons dependency rest ih =>
    rw [substituteAll, substituteAll, h dependency List.mem_cons_self]
    split
    · rfl
    · split
      · rfl
      · exact ih fun x hx => h x (List.mem_cons_of_mem _ hx)

/-! ## One step of either walk -/

theorem plainFrom_of_mem (h : id ∈ path) :
    r.plainFrom path id = .error (.cyclicDependency (cycle path id)) := by
  rw [plainFrom, dif_pos h]

theorem plainFrom_of_error {e : ResolveError} (fresh : id ∉ path) (h : r.task id = .error e) :
    r.plainFrom path id = .error e := by
  rw [plainFrom, dif_neg fresh]
  split <;> simp_all

theorem plainFrom_of_given {replacement : Replacement} (fresh : id ∉ path)
    (h : r.task id = .ok (.given replacement)) : r.plainFrom path id = .ok replacement := by
  rw [plainFrom, dif_neg fresh]
  split <;> simp_all

theorem plainFrom_of_compile {node : Manifest.Node} (fresh : id ∉ path)
    (h : r.task id = .ok (.compile node)) :
    r.plainFrom path id =
      (r.substituteAll id (r.plainFrom (id :: path)) node.compiledCode (dependencies node)).map
        (finish node) := by
  rw [plainFrom, dif_neg fresh, substituteAll_eq_foldlM]
  split
  · simp_all
  · simp_all
  · next found hf =>
    obtain rfl : found = node := by simpa [h] using hf.symm
    rfl

theorem resolveFrom_of_done {replacement : Replacement} (h : done.lookup id = some replacement) :
    r.resolveFrom path done id = .ok (replacement, done) := by
  rw [resolveFrom]
  split <;> simp_all

theorem resolveFrom_of_mem (new : done.lookup id = none) (h : id ∈ path) :
    r.resolveFrom path done id = .error (.cyclicDependency (cycle path id)) := by
  rw [resolveFrom]
  split <;> simp_all

theorem resolveFrom_of_error {e : ResolveError} (new : done.lookup id = none)
    (fresh : id ∉ path) (h : r.task id = .error e) : r.resolveFrom path done id = .error e := by
  rw [resolveFrom]
  split
  · simp_all
  · rw [dif_neg fresh]
    split <;> simp_all

theorem resolveFrom_of_given {replacement : Replacement} (new : done.lookup id = none)
    (fresh : id ∉ path) (h : r.task id = .ok (.given replacement)) :
    r.resolveFrom path done id = .ok (replacement, (id, replacement) :: done) := by
  rw [resolveFrom]
  split
  · simp_all
  · rw [dif_neg fresh]
    split <;> simp_all

theorem resolveFrom_of_compile {node : Manifest.Node} (new : done.lookup id = none)
    (fresh : id ∉ path) (h : r.task id = .ok (.compile node)) :
    r.resolveFrom path done id =
      (r.substituteAllIn id (r.resolveFrom (id :: path)) node.compiledCode done
        (dependencies node)).map
        fun (sql, done) => (finish node sql, (id, finish node sql) :: done) := by
  rw [resolveFrom]
  split
  · simp_all
  · rw [dif_neg fresh, substituteAllIn_eq_foldlM]
    split
    · simp_all
    · simp_all
    · next found hf =>
      obtain rfl : found = node := by simpa [h] using hf.symm
      rfl

/-! ## Tables that change nothing -/

/-- None of the ids is in the table. -/
def Avoids (path : List String) (done : Resolved) : Prop := ∀ x ∈ path, done.lookup x = none

/-- Everything in the first table is in the second one too. -/
def Extends (done later : Resolved) : Prop :=
  ∀ x replacement, done.lookup x = some replacement → later.lookup x = some replacement

/-- What the table holds for an id is its plain result along every path that avoids the table. -/
def Transparent (r : Resolver) (done : Resolved) : Prop :=
  ∀ x replacement, done.lookup x = some replacement →
    ∀ path, Avoids path done → r.plainFrom path x = .ok replacement

theorem Extends.refl (done : Resolved) : Extends done done := fun _ _ h => h

theorem Extends.trans {done later last : Resolved} (h : Extends done later)
    (h' : Extends later last) : Extends done last := fun x replacement found =>
  h' x replacement (h x replacement found)

theorem lookup_cons_ne {x : String} {replacement : Replacement} (h : x ≠ id) :
    ((id, replacement) :: done).lookup x = done.lookup x := by
  rw [List.lookup_cons, beq_false_of_ne h]

theorem Extends.cons {replacement : Replacement} (new : done.lookup id = none) :
    Extends done ((id, replacement) :: done) := by
  intro x found h
  have ne : x ≠ id := by
    rintro rfl
    rw [new] at h
    cases h
  rwa [lookup_cons_ne ne]

theorem Avoids.nil (path : List String) : Avoids path [] := fun _ _ => rfl

theorem avoids_path_cons : Avoids (id :: path) done ↔ done.lookup id = none ∧ Avoids path done :=
  List.forall_mem_cons

theorem avoids_cons {replacement : Replacement} :
    Avoids path ((id, replacement) :: done) ↔ id ∉ path ∧ Avoids path done := by
  constructor
  · intro h
    have fresh : id ∉ path := by
      intro hid
      have := h id hid
      rw [List.lookup_cons_self] at this
      cases this
    refine ⟨fresh, fun x hx => ?_⟩
    have ne : x ≠ id := fun e => fresh (e ▸ hx)
    rw [← lookup_cons_ne ne, h x hx]
  · rintro ⟨fresh, h⟩ x hx
    have ne : x ≠ id := fun e => fresh (e ▸ hx)
    rw [lookup_cons_ne ne, h x hx]

theorem Transparent.nil (r : Resolver) : r.Transparent [] := fun _ _ h => by cases h

/-- An id may be added to the table if its result is the same along all paths that avoid the table
with the id in it. -/
theorem Transparent.cons {replacement : Replacement} (h : r.Transparent done)
    (plain : ∀ path, id ∉ path → Avoids path done → r.plainFrom path id = .ok replacement) :
    r.Transparent ((id, replacement) :: done) := by
  intro x found hx path avoids
  obtain ⟨fresh, apart⟩ := avoids_cons.1 avoids
  by_cases e : x = id
  · subst e
    rw [List.lookup_cons_self, Option.some.injEq] at hx
    subst hx
    exact plain path fresh apart
  · rw [lookup_cons_ne e] at hx
    exact h x found hx path apart

/-- A node whose dependencies are all in the table has the same result along every path that avoids
the table. -/
theorem plainFrom_of_table {node : Manifest.Node} {other : List String} {sql : String}
    (task : r.task id = .ok (.compile node)) (transparent : r.Transparent done)
    (mem : ∀ x ∈ dependencies node, ∃ replacement, done.lookup x = some replacement)
    (plain : r.substituteAll id (r.plainFrom (id :: path)) node.compiledCode (dependencies node) =
      .ok sql) (avoids : Avoids (id :: path) done) (fresh : id ∉ other)
    (other_avoids : Avoids other done) : r.plainFrom other id = .ok (finish node sql) := by
  have other_avoids : Avoids (id :: other) done :=
    avoids_path_cons.2 ⟨avoids id List.mem_cons_self, other_avoids⟩
  have same : ∀ x ∈ dependencies node,
      r.plainFrom (id :: other) x = r.plainFrom (id :: path) x := by
    intro x hx
    obtain ⟨replacement, found⟩ := mem x hx
    rw [transparent x replacement found _ other_avoids, transparent x replacement found _ avoids]
  rw [plainFrom_of_compile fresh task, substituteAll_congr same, plain]
  rfl

/-! ## The table of a walk -/

/-- How an answer with a table goes together with the answer without one: the errors are the same,
and after a success the table holds the id, keeps what it held and is still transparent. -/
def Agrees (r : Resolver) (path : List String) (done : Resolved) (id : String) :
    Except ResolveError (Replacement × Resolved) → Prop
  | .error e => r.plainFrom path id = .error e
  | .ok (replacement, later) =>
    r.plainFrom path id = .ok replacement ∧ later.lookup id = some replacement ∧
      Extends done later ∧ Avoids path later ∧ r.Transparent later

/-- The same for all dependencies of a node. Afterwards all of them are in the table. -/
def AllAgree (r : Resolver) (path : List String) (id sql : String) (done : Resolved)
    (names : List String) : Except ResolveError (String × Resolved) → Prop
  | .error e => r.substituteAll id (r.plainFrom path) sql names = .error e
  | .ok (result, later) =>
    r.substituteAll id (r.plainFrom path) sql names = .ok result ∧
      (∀ x ∈ names, ∃ replacement, later.lookup x = some replacement) ∧
      Extends done later ∧ Avoids path later ∧ r.Transparent later

theorem substituteAllIn_agree
    (step : ∀ dependency done, Avoids path done → r.Transparent done →
      r.Agrees path done dependency (r.resolveFrom path done dependency))
    (id sql : String) (names : List String) (avoids : Avoids path done)
    (transparent : r.Transparent done) :
    r.AllAgree path id sql done names
      (r.substituteAllIn id (r.resolveFrom path) sql done names) := by
  induction names generalizing sql done with
  | nil => exact ⟨rfl, by simp, .refl done, avoids, transparent⟩
  | cons dependency rest ih =>
    have first := step dependency done avoids transparent
    rw [substituteAllIn]
    cases found : r.resolveFrom path done dependency with
    | error e =>
      rw [found] at first
      show r.substituteAll _ _ _ _ = _
      rw [substituteAll, first]
    | ok result =>
      obtain ⟨replacement, later⟩ := result
      rw [found] at first
      obtain ⟨plain, mem, more, avoids, transparent⟩ := first
      cases put : r.substituteIn id sql replacement with
      | error e =>
        simp only [put]
        show r.substituteAll _ _ _ _ = _
        simp only [substituteAll, plain, put]
      | ok next =>
        have others := ih next avoids transparent
        simp only [put]
        cases all : r.substituteAllIn id (r.resolveFrom path) next later rest with
        | error e =>
          rw [all] at others
          show r.substituteAll _ _ _ _ = _
          simp only [substituteAll, plain, put]
          exact others
        | ok last =>
          rw [all] at others
          obtain ⟨rest_plain, rest_mem, rest_more, avoids, transparent⟩ := others
          refine ⟨by simpa only [substituteAll, plain, put] using rest_plain, ?_,
            more.trans rest_more, avoids, transparent⟩
          intro x hx
          rcases List.mem_cons.1 hx with rfl | hx
          · exact ⟨replacement, rest_more _ _ mem⟩
          · exact rest_mem x hx

/-- A walk whose path avoids its table answers as the plain recursion does, and keeps the table
transparent. -/
theorem resolveFrom_agrees (r : Resolver) (path : List String) (done : Resolved) (id : String)
    (avoids : Avoids path done) (transparent : r.Transparent done) :
    r.Agrees path done id (r.resolveFrom path done id) := by
  induction path, done, id using resolveFrom.induct r with
  | case1 path done id replacement found =>
    rw [resolveFrom_of_done found]
    exact ⟨transparent id replacement found path avoids, found, .refl done, avoids, transparent⟩
  | case2 path done id new mem =>
    rw [resolveFrom_of_mem new mem]
    exact plainFrom_of_mem mem
  | case3 path done id new fresh e task =>
    rw [resolveFrom_of_error new fresh task]
    exact plainFrom_of_error fresh task
  | case4 path done id new fresh replacement task =>
    rw [resolveFrom_of_given new fresh task]
    exact ⟨plainFrom_of_given fresh task, List.lookup_cons_self, .cons new,
      avoids_cons.2 ⟨fresh, avoids⟩,
      transparent.cons fun path fresh _ => plainFrom_of_given fresh task⟩
  | case5 path done id new fresh node task ih =>
    have all := substituteAllIn_agree (fun dependency done => ih dependency done) id
      node.compiledCode (dependencies node) (avoids_path_cons.2 ⟨new, avoids⟩) transparent
    rw [resolveFrom_of_compile new fresh task]
    cases run : r.substituteAllIn id (r.resolveFrom (id :: path)) node.compiledCode done
      (dependencies node) with
    | error e =>
      rw [run] at all
      show r.plainFrom path id = .error e
      rw [plainFrom_of_compile fresh task, all]
      rfl
    | ok result =>
      obtain ⟨sql, later⟩ := result
      rw [run] at all
      obtain ⟨plain, mem, more, avoids, transparent⟩ := all
      obtain ⟨absent, outer⟩ := avoids_path_cons.1 avoids
      have answer : r.plainFrom path id = .ok (finish node sql) := by
        rw [plainFrom_of_compile fresh task, plain]
        rfl
      exact ⟨answer, List.lookup_cons_self, more.trans (.cons absent),
        avoids_cons.2 ⟨fresh, outer⟩, transparent.cons fun other other_fresh other_avoids =>
          plainFrom_of_table task transparent mem plain avoids other_fresh other_avoids⟩

theorem map_fst_resolveFrom (avoids : Avoids path done) (transparent : r.Transparent done) :
    (r.resolveFrom path done id).map Prod.fst = r.plainFrom path id := by
  have h := r.resolveFrom_agrees path done id avoids transparent
  cases run : r.resolveFrom path done id with
  | error e =>
    rw [run] at h
    exact h.symm
  | ok result =>
    rw [run] at h
    exact h.1.symm

/-- The table is never seen: whatever the manifest, the mocks, the files and the way to make a
replacement, resolving a target gives the replacement or the error of the plain recursion. -/
theorem resolve_eq_plain (r : Resolver) (id : String) : r.resolve id = r.plain id :=
  map_fst_resolveFrom (.nil []) (.nil r)

end ModelBench.Resolver
