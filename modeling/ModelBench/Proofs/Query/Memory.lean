import ModelBench.Query.Memory
import ModelBench.Proofs.Entries
import ModelBench.Proofs.Query.Relation
import ModelBench.Proofs.Sql.Cut
import ModelBench.Proofs.Text.Infix
import Mathlib.Data.Finset.Card
import Mathlib.Data.List.Dedup

/-!
# What a memory answers

A memory answers a statement as its form without the blanks around it, with what was added last for
this form (`lookup_ofRelations`), and counts every form once (`relationCount_ofRelations`). Errors
come first, and the first of them whose text occurs (`execute_of_not_silent`). A statement that is
no difference and whose answer is known is not evaluated any further (`execute_of_known`).
-/

namespace ModelBench

open Query Sql Text

variable {m : Memory} {sql key : String} {result other : QueryResult} {error : QueryError}
  {front back relations : List (String × QueryResult)}

/-- The relations that a memory knows. -/
def Memory.known (memory : Memory) : Known := fun key => memory.relations.lookup key

/-- Whether no prepared error is for a statement. -/
def Memory.Silent (memory : Memory) (sql : String) : Prop :=
  ∀ entry ∈ memory.errors, occursIn entry.1.toList sql.toList = false

theorem errorFor_eq_none_iff : m.errorFor sql = none ↔ m.Silent sql := by
  simp only [Memory.errorFor, Memory.Silent, Option.map_eq_none_iff, List.find?_eq_none,
    Bool.not_eq_true]

theorem execute_of_silent (silent : m.Silent sql) : m.execute sql = evaluate m.known sql := by
  rw [Memory.execute, errorFor_eq_none_iff.2 silent]
  rfl

namespace Memory

/-! ## Answers -/

/-- Whether an answer is the last one for a statement that is given without the blanks around it. -/
def Latest (relations : List (String × QueryResult)) (key : String) (result : QueryResult) : Prop :=
  ∃ front sql back, relations = front ++ (sql, result) :: back ∧ trimmed sql = key ∧
    ∀ entry ∈ back, trimmed entry.1 ≠ key

theorem latest_iff_find : Latest relations key result ↔
    (relations.reverse.find? fun entry => trimmed entry.1 == key).map Prod.snd = some result := by
  simp only [Option.map_eq_some_iff, Prod.exists, exists_eq_right]
  constructor
  · rintro ⟨front, sql, back, rfl, same, later⟩
    refine ⟨sql, List.find?_eq_some_iff_append.2 ⟨beq_iff_eq.2 same, back.reverse, front.reverse,
      by simp, ?_⟩⟩
    simpa using fun name result member => later (name, result) member
  · rintro ⟨sql, found⟩
    obtain ⟨same, back, front, eq, later⟩ := List.find?_eq_some_iff_append.1 found
    refine ⟨front.reverse, sql, back.reverse, ?_, beq_iff_eq.1 same, ?_⟩
    · rw [← List.reverse_reverse relations, eq]
      simp
    · simpa using later

/-- Answers that were added later come first. -/
theorem latest_append : Latest (front ++ back) key result ↔
    Latest back key result ∨ (∀ entry ∈ back, trimmed entry.1 ≠ key) ∧ Latest front key result := by
  rw [latest_iff_find, latest_iff_find, latest_iff_find, List.reverse_append, List.find?_append]
  cases found : back.reverse.find? fun entry => trimmed entry.1 == key with
  | some entry =>
    have same := List.find?_some found
    have member := List.mem_reverse.1 (List.mem_of_find?_eq_some found)
    rw [Option.some_or, or_iff_left]
    exact fun first => first.1 entry member (beq_iff_eq.1 same)
  | none =>
    have none_ : ∀ entry ∈ back, trimmed entry.1 ≠ key := by
      simpa [List.find?_eq_none] using found
    rw [Option.none_or, Option.map_none, and_iff_right none_]
    simp

theorem latest_singleton : Latest [(sql, other)] key result ↔ trimmed sql = key ∧ other = result := by
  rw [latest_iff_find, List.reverse_singleton, List.find?_singleton]
  by_cases same : trimmed sql = key <;> simp [same]

/-- Where no two statements are the same but for the blanks around them, every answer is the last
one for its statement. -/
theorem latest_iff_mem (distinct : (relations.map fun entry => trimmed entry.1).Nodup) :
    Latest relations key result ↔ ∃ sql, (sql, result) ∈ relations ∧ trimmed sql = key := by
  constructor
  · rintro ⟨front, sql, back, rfl, same, -⟩
    exact ⟨sql, by simp, same⟩
  · rintro ⟨sql, member, same⟩
    obtain ⟨front, back, rfl⟩ := List.append_of_mem member
    refine ⟨front, sql, back, rfl, same, fun entry later eq => ?_⟩
    rw [List.map_append, List.map_cons] at distinct
    have new := (List.nodup_cons.1 (List.nodup_append.1 distinct).2.1).1
    exact new (List.mem_map.2 ⟨entry, later, eq.trans same.symm⟩)

/-- The answer for a statement is the one that was just added for it, if there is one. -/
theorem lookup_addRelation (m : Memory) (sql : String) (result : QueryResult) (key : String) :
    (m.addRelation sql result).relations.lookup key =
      if trimmed sql = key then some result else m.relations.lookup key := by
  show List.lookup key ((trimmed sql, result) :: m.relations.filter _) = _
  rw [List.lookup_cons]
  by_cases same : key = trimmed sql
  · rw [if_pos same.symm, same, beq_self_eq_true]
  · rw [if_neg (Ne.symm same), beq_false_of_ne same]
    exact lookup_filter_ne same

theorem ofRelations_concat (relations : List (String × QueryResult)) (sql : String)
    (result : QueryResult) : ofRelations (relations ++ [(sql, result)]) =
      (ofRelations relations).addRelation sql result := by
  rw [ofRelations, List.foldl_append]
  rfl

theorem errors_ofRelations (relations : List (String × QueryResult)) :
    (ofRelations relations).errors = [] := by
  induction relations using List.reverseRecOn with
  | nil => rfl
  | append_singleton relations entry ih =>
    rw [ofRelations_concat]
    exact ih

/-- The answer for a statement is the last one that was added. -/
theorem lookup_ofRelations :
    (ofRelations relations).relations.lookup key = some result ↔ Latest relations key result := by
  induction relations using List.reverseRecOn with
  | nil =>
    rw [latest_iff_find]
    rfl
  | append_singleton relations entry ih =>
    obtain ⟨sql, other⟩ := entry
    rw [ofRelations_concat, latest_append, latest_singleton, lookup_addRelation,
      List.forall_mem_singleton, ← ih]
    split_ifs with same <;> simp [same]

theorem keys_addRelation (m : Memory) (sql : String) (result : QueryResult) :
    (m.addRelation sql result).relations.map Prod.fst =
      trimmed sql :: (m.relations.map Prod.fst).filter (· != trimmed sql) := by
  rw [List.filter_map]
  rfl

theorem keys_ofRelations (relations : List (String × QueryResult)) :
    ((ofRelations relations).relations.map Prod.fst).Nodup ∧
      ∀ key, key ∈ (ofRelations relations).relations.map Prod.fst ↔
        key ∈ relations.map fun entry => trimmed entry.1 := by
  induction relations using List.reverseRecOn with
  | nil => exact ⟨List.nodup_nil, fun key => Iff.rfl⟩
  | append_singleton relations entry ih =>
    obtain ⟨sql, result⟩ := entry
    rw [ofRelations_concat, keys_addRelation]
    refine ⟨List.nodup_cons.2 ⟨by simp, ih.1.filter _⟩, fun key => ?_⟩
    rw [List.mem_cons, List.mem_filter, ih.2, List.map_append, List.mem_append, bne_iff_ne]
    by_cases same : key = trimmed sql <;> simp [same]

theorem exists_lookup_ofRelations (registered : ∃ entry ∈ relations, trimmed entry.1 = key) :
    ∃ result, (ofRelations relations).relations.lookup key = some result := by
  have member := ((keys_ofRelations relations).2 key).2 (List.mem_map.2 registered)
  obtain ⟨entry, member, same⟩ := List.mem_map.1 member
  rw [← Option.isSome_iff_exists, List.lookup_isSome_iff]
  exact ⟨entry, member, beq_iff_eq.2 same.symm⟩

/-- The statements with an answer are counted without the blanks around them, each once. -/
theorem relationCount_ofRelations (relations : List (String × QueryResult)) :
    (ofRelations relations).relationCount =
      (relations.map fun entry => trimmed entry.1).toFinset.card := by
  obtain ⟨unique, keys⟩ := keys_ofRelations relations
  rw [relationCount, ← List.length_map Prod.fst, ← List.toFinset_card_of_nodup unique]
  congr 1
  ext key
  rw [List.mem_toFinset, List.mem_toFinset, keys]

/-! ## Errors -/

/-- Whether an error is the first one whose text occurs in a statement. -/
def Earliest (errors : List (String × QueryError)) (sql : String) (error : QueryError) : Prop :=
  ∃ front part back, errors = front ++ (part, error) :: back ∧ part.toList <:+: sql.toList ∧
    ∀ entry ∈ front, ¬ entry.1.toList <:+: sql.toList

theorem errorFor_eq_some_iff : m.errorFor sql = some error ↔ Earliest m.errors sql error := by
  simp only [errorFor, Earliest, Option.map_eq_some_iff, Prod.exists, exists_eq_right,
    List.find?_eq_some_iff_append, ← occursIn_iff_infix, Bool.not_eq_true, Bool.not_eq_true']
  constructor
  · rintro ⟨part, occurs, front, back, eq, first⟩
    exact ⟨front, part, back, eq, occurs, first⟩
  · rintro ⟨front, part, back, eq, occurs, first⟩
    exact ⟨part, occurs, front, back, eq, first⟩

theorem silent_iff : m.Silent sql ↔ ∀ entry ∈ m.errors, ¬ entry.1.toList <:+: sql.toList := by
  simp only [Silent, ← occursIn_iff_infix, Bool.not_eq_true]

/-- A statement in which the text of an error occurs fails with the first of these errors. -/
theorem execute_of_not_silent (occurs : ¬ m.Silent sql) : ∃ error, m.execute sql = .error error ∧
    ∀ other, Earliest m.errors sql other ↔ other = error := by
  cases found : m.errorFor sql with
  | none => exact absurd (errorFor_eq_none_iff.1 found) occurs
  | some error =>
    refine ⟨error, by rw [execute, found], fun other => ?_⟩
    rw [← errorFor_eq_some_iff, found, Option.some.injEq, eq_comm]

/-- A known answer is given as it is, for any blanks around the statement. -/
theorem execute_of_known (silent : m.Silent sql)
    (single : Separator.exceptDistinct.positions sql.toList = [])
    (known : m.relations.lookup (trimmed sql) = some result) : m.execute sql = .ok result := by
  rw [execute_of_silent silent, evaluate_of_positions (Separator.positions_trim_eq_nil single)]
  exact relation_of_known known

end Memory

end ModelBench
