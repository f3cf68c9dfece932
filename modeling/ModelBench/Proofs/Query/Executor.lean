import ModelBench.Query.Executor
import ModelBench.Proofs.Query.Memory

/-!
# Executors and their clones

An executor and its clones refer to one memory. Every call to any of them changes this memory alone
(`Shared.call`), so after any calls it holds what was added by all of them (`Shared.run`), and each
of the executors counts and answers accordingly (`answers_run`).
-/

namespace ModelBench

open Memory

variable {x : Executors} {e : Executor} {shelf : Shelf} {m : Memory}
  {calls : List Call} {relations : List (String × QueryResult)} {key : String}
  {result : QueryResult}

/-! ## What calls add -/

/-- The statement and the answer that a call adds. -/
def Call.relation? : Call → Option (String × QueryResult)
  | .addRelation _ sql result => some (sql, result)
  | _ => none

/-- The text and the error that a call adds. -/
def Call.error? : Call → Option (String × QueryError)
  | .addError _ part error => some (part, error)
  | _ => none

/-- The answers that some calls add, in their order. -/
def addedRelations (calls : List Call) : List (String × QueryResult) :=
  calls.filterMap Call.relation?

/-- The errors that some calls add, in their order. -/
def addedErrors (calls : List Call) : List (String × QueryError) := calls.filterMap Call.error?

/-- The memory after a call, whoever the call is made to. -/
def Memory.after (m : Memory) : Call → Memory
  | .clone _ => m
  | .addRelation _ sql result => m.addRelation sql result
  | .addError _ part error => m.addError part error

theorem foldl_after (relations : List (String × QueryResult)) (errors : List (String × QueryError))
    (calls : List Call) :
    calls.foldl Memory.after ⟨(ofRelations relations).relations, errors⟩ =
      ⟨(ofRelations (relations ++ addedRelations calls)).relations, errors ++ addedErrors calls⟩ := by
  induction calls generalizing relations errors with
  | nil => simp [addedRelations, addedErrors]
  | cons call calls ih =>
    rw [List.foldl_cons]
    cases call with
    | clone through => exact ih relations errors
    | addRelation through sql result =>
      have added : Memory.after ⟨(ofRelations relations).relations, errors⟩
          (.addRelation through sql result) =
            ⟨(ofRelations (relations ++ [(sql, result)])).relations, errors⟩ := by
        rw [ofRelations_concat]
        rfl
      rw [added, ih, List.append_assoc]
      rfl
    | addError through part error =>
      have added : Memory.after ⟨(ofRelations relations).relations, errors⟩
          (.addError through part error) =
            ⟨(ofRelations relations).relations, errors ++ [(part, error)]⟩ := rfl
      rw [added, ih, List.append_assoc]
      rfl

/-! ## One memory for all -/

namespace Executors

theorem numbered_mem (x : Executors) (number : Nat) : x.numbered number ∈ x.all := by
  rw [numbered, List.getD_eq_getElem?_getD]
  cases found : x.all[number]? with
  | none => exact List.mem_cons_self
  | some e => exact List.mem_of_getElem? found

/-- Whether some executors refer to a memory behind all else that stands on a shelf. -/
structure Shared (x : Executors) (shelf : Shelf) (m : Memory) : Prop where
  holds : x.shelf = ⟨shelf.relations ++ [m.relations], shelf.errors ++ [m.errors]⟩
  refers : ∀ e ∈ x.all, e.relations = shelf.relations.length ∧ e.errors = shelf.errors.length

theorem shared_ofRelations (relations : List (String × QueryResult)) (shelf : Shelf) :
    (ofRelations relations shelf).Shared shelf (Memory.ofRelations relations) where
  holds := rfl
  refers e there := by
    obtain rfl := List.mem_singleton.1 there
    exact ⟨rfl, rfl⟩

theorem Shared.memory (h : x.Shared shelf m) (there : e ∈ x.all) : e.memory x.shelf = m := by
  obtain ⟨relations, errors⟩ := h.refers e there
  rw [Executor.memory, h.holds, relations, errors]
  simp

/-- A call to any of the executors changes their memory and nothing else on the shelf. -/
theorem Shared.call (h : x.Shared shelf m) (call : Call) :
    (x.call call).Shared shelf (m.after call) := by
  cases call with
  | clone through =>
    refine ⟨h.holds, fun e there => ?_⟩
    have there : e ∈ x.all ++ [(x.numbered through).clone] := there
    rcases List.mem_append.1 there with there | there
    · exact h.refers e there
    · obtain rfl := List.mem_singleton.1 there
      exact h.refers _ (x.numbered_mem through)
  | addRelation through sql result =>
    have there := x.numbered_mem through
    refine ⟨?_, h.refers⟩
    show (x.numbered through).addRelation sql result x.shelf = _
    rw [Executor.addRelation, h.memory there, (h.refers _ there).1, h.holds]
    simp [Memory.after, Memory.addRelation]
  | addError through part error =>
    have there := x.numbered_mem through
    refine ⟨?_, h.refers⟩
    show (x.numbered through).addError part error x.shelf = _
    rw [Executor.addError, h.memory there, (h.refers _ there).2, h.holds]
    simp [Memory.after, Memory.addError]

theorem Shared.run (h : x.Shared shelf m) (calls : List Call) :
    (x.run calls).Shared shelf (calls.foldl Memory.after m) := by
  induction calls generalizing x m with
  | nil => exact h
  | cons call calls ih => exact ih (h.call call)

/-- After any calls, every executor has the answers and errors that were added by all of them. -/
theorem memory_run (there : e ∈ ((ofRelations relations shelf).run calls).all) :
    e.memory ((ofRelations relations shelf).run calls).shelf =
      ⟨(Memory.ofRelations (relations ++ addedRelations calls)).relations, addedErrors calls⟩ := by
  have added := foldl_after relations [] calls
  rw [List.nil_append, ← errors_ofRelations relations] at added
  rw [((shared_ofRelations relations shelf).run calls).memory there]
  exact added

/-! ## Answers -/

/-- Whether an answer is the last one that was registered for a statement without the blanks around
it: the last one added, or else the one that was there from the start. -/
def LastRegistered (relations : List (String × QueryResult)) (calls : List Call) (key : String)
    (result : QueryResult) : Prop :=
  Latest (addedRelations calls) key result ∨
    (∀ entry ∈ addedRelations calls, trimmed entry.1 ≠ key) ∧
      ∃ sql, (sql, result) ∈ relations ∧ trimmed sql = key

theorem lastRegistered_iff (distinct : (relations.map fun entry => trimmed entry.1).Nodup) :
    LastRegistered relations calls key result ↔
      (Memory.ofRelations (relations ++ addedRelations calls)).relations.lookup key =
        some result := by
  rw [lookup_ofRelations, latest_append, latest_iff_mem distinct, LastRegistered]

/-- Any calls may be made to an executor and its clones in any order. Each of them counts all
statements that were registered, up to the blanks around them. A statement in which the text of an
error occurs fails with the first of these errors. Otherwise, if it is no difference and was
registered, up to the blanks around it, its answer is the one that was registered last. -/
theorem answers_run (distinct : (relations.map fun entry => trimmed entry.1).Nodup)
    (shelf : Shelf) (calls : List Call) {after : Executors}
    (ran : (ofRelations relations shelf).run calls = after) (there : e ∈ after.all) :
    e.relationCount after.shelf =
      ((relations ++ addedRelations calls).map fun entry => trimmed entry.1).toFinset.card ∧
    (∀ sql, (∃ entry ∈ addedErrors calls, entry.1.toList <:+: sql.toList) →
      ∃ error, e.execute after.shelf sql = .error error ∧
        ∀ other, Earliest (addedErrors calls) sql other ↔ other = error) ∧
    ∀ sql, (∀ entry ∈ addedErrors calls, ¬ entry.1.toList <:+: sql.toList) →
      Sql.Separator.exceptDistinct.positions sql.toList = [] →
      (∃ entry ∈ relations ++ addedRelations calls, trimmed entry.1 = trimmed sql) →
      ∃ result, e.execute after.shelf sql = .ok result ∧
        ∀ other, LastRegistered relations calls (trimmed sql) other ↔ other = result := by
  subst ran
  have memory := memory_run there
  rw [Executor.relationCount, memory]
  simp only [Executor.execute, memory]
  refine ⟨relationCount_ofRelations _, fun sql ⟨entry, member, occurs⟩ => ?_,
    fun sql silent single ⟨entry, member, same⟩ => ?_⟩
  · refine execute_of_not_silent fun silent => ?_
    exact silent_iff.1 silent entry member occurs
  · obtain ⟨result, found⟩ := exists_lookup_ofRelations ⟨entry, member, same⟩
    refine ⟨result, execute_of_known (silent_iff.2 silent) single found, fun other => ?_⟩
    rw [lastRegistered_iff distinct, found, Option.some.injEq, eq_comm]

/-- An answer of one row with one cell. -/
def oneCell (value : String) : QueryResult := .ofTexts ["a"] [[value]]

/-- A clone replaces an answer from the start and adds an error, and a clone of it adds an answer. -/
def callsOfClones : List Call :=
  [.clone 0, .addRelation 1 " SELECT a\t" (oneCell "2"), .addError 1 "boom" (.query "first"),
    .addError 0 "oo" (.query "second"), .clone 1, .addRelation 2 "SELECT b" (oneCell "3")]

theorem answers_run_clones :
    let started := ofRelations [("SELECT a\n", oneCell "1"), ("SELECT c", oneCell "4")] ⟨[], []⟩
    ([("SELECT a\n", oneCell "1"), ("SELECT c", oneCell "4")].map
      fun entry => trimmed entry.1).Nodup ∧
    ∃ after e, started.run callsOfClones = after ∧ after.all[2]? = some e ∧
      e.relationCount after.shelf = 3 ∧
      e.execute after.shelf "SELECT boom" = .error (.query "first") ∧
      e.execute after.shelf "\u00a0SELECT a" = .ok (oneCell "2") := by
  have distinct : ([("SELECT a\n", oneCell "1"), ("SELECT c", oneCell "4")].map
      fun entry => trimmed entry.1).Nodup := by decide
  obtain ⟨count, errors, answers⟩ :=
    answers_run distinct ⟨[], []⟩ callsOfClones rfl (List.mem_of_getElem? (i := 2) rfl)
  obtain ⟨error, failed, first⟩ := errors "SELECT boom" (by decide)
  obtain ⟨result, answered, last⟩ := answers "\u00a0SELECT a" (by decide) (by decide) (by decide)
  have isFirst : Earliest (addedErrors callsOfClones) "SELECT boom" (.query "first") :=
    ⟨[], "boom", [("oo", .query "second")], rfl, by decide, by simp⟩
  have isLast : LastRegistered [("SELECT a\n", oneCell "1"), ("SELECT c", oneCell "4")]
      callsOfClones (trimmed "\u00a0SELECT a") (oneCell "2") :=
    .inl ⟨[], " SELECT a\t", [("SELECT b", oneCell "3")], rfl, by decide, by decide⟩
  refine ⟨distinct, _, _, rfl, rfl, count.trans (by decide), ?_, ?_⟩
  · rw [failed, (first _).1 isFirst]
  · rw [answered, (last _).1 isLast]

end Executors

end ModelBench
