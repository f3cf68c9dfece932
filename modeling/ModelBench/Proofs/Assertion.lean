import ModelBench.Proofs.Except
import ModelBench.Proofs.Verdict
import Mathlib.Data.List.Induction

/-!
# What an assertion answers

The statement of an assertion is answered with a difference of sets, whatever stands in the two
texts that it compares (`execute_assertion`): the rows of the first relation that are none of the
second one's, each once and where it first occurs (`difference_eq_remaining`). Rows are compared as
values, so none of this depends on how a value is written.
-/

namespace ModelBench

open Query Sql Text

variable {columns : List String} {others rows : List (List Json)} {row x : List Json}
  {known : Known} {memory : Memory} {answer left right : QueryResult}

/-! ## Rows that remain -/

/-- The rows of a list that are not among some others, in the order of the list. Of rows that are
the same it takes the first, before which no other is the same. -/
def remaining (others rows : List (List Json)) : List (List Json) :=
  (rows.zipIdx.filter fun entry =>
    !others.contains entry.1 && !(rows.take entry.2).contains entry.1).map Prod.fst

theorem remaining_concat (others rows : List (List Json)) (row : List Json) :
    remaining others (rows ++ [row]) = remaining others rows ++
      if others.contains row || rows.contains row then [] else [row] := by
  have before : rows.zipIdx.filter (fun entry =>
        !others.contains entry.1 && !((rows ++ [row]).take entry.2).contains entry.1) =
      rows.zipIdx.filter fun entry =>
        !others.contains entry.1 && !(rows.take entry.2).contains entry.1 := by
    refine List.filter_congr fun entry member => ?_
    have le : entry.2 ≤ rows.length := (List.snd_lt_of_mem_zipIdx member).le
    rw [List.take_append_of_le_length le]
  rw [remaining, List.zipIdx_append, List.filter_append, List.map_append, before, remaining,
    List.zipIdx_singleton, Nat.zero_add, List.filter_singleton]
  show _ ++ List.map Prod.fst (bif !others.contains row &&
    !((rows ++ [row]).take rows.length).contains row then [(row, rows.length)] else []) = _
  rw [List.take_left]
  cases others.contains row <;> cases rows.contains row <;> rfl

/-- What remains are the rows that are none of the others. -/
theorem contains_remaining (others rows : List (List Json)) (x : List Json) :
    (remaining others rows).contains x = (rows.contains x && !others.contains x) := by
  induction rows using List.reverseRecOn with
  | nil => rfl
  | append_singleton rows row ih =>
    rw [remaining_concat, List.contains_append, List.contains_append, ih]
    cases same : x == row with
    | true =>
      have mine : rows.contains x = rows.contains row := List.contains_congr same
      have theirs : others.contains x = others.contains row := List.contains_congr same
      have here : [row].contains x = true := by simpa using same
      rw [mine, theirs, here]
      cases others.contains row <;> cases rows.contains row <;> simp [same]
    | false =>
      have other : [row].contains x = false := by simpa using same
      rw [other, Bool.or_false]
      split_ifs
      · rw [List.contains_nil, Bool.or_false]
      · rw [other, Bool.or_false]

/-- No two rows that remain are the same. -/
theorem remaining_pairwise (others rows : List (List Json)) :
    (remaining others rows).Pairwise fun x y => (x == y) = false := by
  induction rows using List.reverseRecOn with
  | nil => exact .nil
  | append_singleton rows row ih =>
    rw [remaining_concat]
    split_ifs with seen
    · rwa [List.append_nil]
    · refine List.pairwise_append.2 ⟨ih, List.pairwise_singleton _ _, fun x member y here => ?_⟩
      obtain rfl := List.mem_singleton.1 here
      rw [Bool.or_eq_true, not_or, Bool.not_eq_true, Bool.not_eq_true] at seen
      have absent : (remaining others rows).contains y = false := by
        rw [contains_remaining, seen.2, Bool.false_and]
      rw [BEq.comm]
      rw [List.contains_eq_any_beq, List.any_eq_false] at absent
      exact Bool.eq_false_of_not_eq_true (absent x member)

/-- A difference is what remains. -/
theorem difference_eq_remaining (others rows : List (List Json)) :
    difference others rows = remaining others rows := by
  induction rows using List.reverseRecOn with
  | nil => rfl
  | append_singleton rows row ih =>
    have step : difference others (rows ++ [row]) =
        if others.contains row || (difference others rows).contains row then difference others rows
        else difference others rows ++ [row] := List.foldl_append
    rw [step, ih, remaining_concat, contains_remaining]
    cases others.contains row <;> cases rows.contains row <;> simp

/-! ## Answers -/

/-- Whether a text is answered as a relation that has some columns. -/
def AnswersOn (known : Known) (columns : List String) (sql : String) (answer : QueryResult) : Prop :=
  relation known sql.toList = .ok answer ∧ ∀ column ∈ columns, column ∈ answer.columns

theorem mem_of_columnIndex {column : String} {index : Nat}
    (h : columnIndex answer column = .ok index) : column ∈ answer.columns := by
  rw [columnIndex] at h
  cases position : answer.columns.findIdx? (· == column) with
  | none =>
    rw [position] at h
    cases h
  | some index =>
    have some_ : (answer.columns.findIdx? (· == column)).isSome = true := by rw [position]; rfl
    rw [List.findIdx?_isSome, List.any_eq_true] at some_
    obtain ⟨name, member, same⟩ := some_
    exact eq_of_beq same ▸ member

/-- An answer has rows on some columns only if it has these columns. -/
theorem covers_of_project {table : List (List Json)} (h : project answer columns = .ok table) :
    ∀ column ∈ columns, column ∈ answer.columns := by
  obtain ⟨indices, found, -⟩ := exists_of_bind_eq_ok h
  clear h
  induction columns generalizing indices with
  | nil => exact List.forall_mem_nil _
  | cons column columns ih =>
    rw [List.mapM_cons] at found
    obtain ⟨index, position, found⟩ := exists_of_bind_eq_ok found
    obtain ⟨indices, found, -⟩ := exists_of_bind_eq_ok found
    exact List.forall_mem_cons.2 ⟨mem_of_columnIndex position, ih indices found⟩

/-- A difference is answered only if both relations are and have all columns. -/
theorem answersOn_of_minus {l r : String}
    (h : minus columns (relation known l.toList) (relation known r.toList) = .ok answer) :
    (∃ left, AnswersOn known columns l left) ∧ ∃ right, AnswersOn known columns r right := by
  obtain ⟨left, foundLeft, h⟩ := exists_of_bind_eq_ok h
  obtain ⟨mine, rowsLeft, h⟩ := exists_of_bind_eq_ok h
  obtain ⟨right, foundRight, h⟩ := exists_of_bind_eq_ok h
  obtain ⟨theirs, rowsRight, -⟩ := exists_of_bind_eq_ok h
  exact ⟨⟨left, foundLeft, covers_of_project rowsLeft⟩,
    right, foundRight, covers_of_project rowsRight⟩

/-- Two differences have no rows exactly when the rows of both sides are the same. -/
theorem remaining_eq_nil_iff {mine theirs : List (List Json)} :
    remaining theirs mine = [] ∧ remaining mine theirs = [] ↔
      ∀ row, mine.contains row = theirs.contains row := by
  constructor
  · rintro ⟨extra, missing⟩ row
    have noExtra := contains_remaining theirs mine row
    have noMissing := contains_remaining mine theirs row
    rw [extra, List.contains_nil] at noExtra
    rw [missing, List.contains_nil] at noMissing
    revert noExtra noMissing
    cases mine.contains row <;> cases theirs.contains row <;> decide
  · intro same
    rw [← difference_eq_remaining, ← difference_eq_remaining, difference_eq_nil_iff,
      difference_eq_nil_iff]
    refine ⟨fun row member => ?_, fun row member => ?_⟩
    · rw [← same, List.contains_iff_exists_mem_beq]
      exact ⟨row, member, BEq.rfl⟩
    · rw [same, List.contains_iff_exists_mem_beq]
      exact ⟨row, member, BEq.rfl⟩

theorem execute_exceptDistinct_eq_remaining {l r : String}
    (isColumn : ∀ column ∈ columns, IsColumn [.fromWord] column) (nonempty : columns ≠ [])
    (balanced : Balanced l.toList ∧ Balanced r.toList)
    (silent : memory.Silent (ModelBench.exceptDistinct l r (String.intercalate "," columns)))
    (mine : AnswersOn memory.known columns l left)
    (theirs : AnswersOn memory.known columns r right) :
    memory.execute (ModelBench.exceptDistinct l r (String.intercalate "," columns)) =
      .ok ⟨columns, remaining (rowsOn right columns) (rowsOn left columns)⟩ := by
  rw [← difference_eq_remaining]
  exact execute_exceptDistinct silent isColumn nonempty balanced ⟨mine.1, theirs.1⟩
    fun column member => ⟨mine.2 column member, theirs.2 column member⟩

/-- The statement that compares two balanced texts on some columns, and for which no error is
prepared, is answered with a difference of sets. If both texts are answered as relations with all
columns, it has these columns, and as rows exactly those of the first relation that are none of the
second one's: each once, and in the order in which they first occur. Otherwise it is answered with an
error. So neither order of the two texts gives a row exactly when the rows are the same. -/
theorem execute_assertion {memory : Memory} {columns : List String} {l r : String}
    (isColumn : ∀ column ∈ columns, IsColumn [.fromWord] column) (nonempty : columns ≠ [])
    (balanced : Balanced l.toList ∧ Balanced r.toList)
    (silent : memory.Silent (ModelBench.exceptDistinct l r (String.intercalate "," columns))) :
    (∀ left right, AnswersOn memory.known columns l left →
      AnswersOn memory.known columns r right →
      ∃ rows, memory.execute (ModelBench.exceptDistinct l r (String.intercalate "," columns)) =
          .ok ⟨columns, rows⟩ ∧
        rows.Pairwise (fun x y => (x == y) = false) ∧
        rows = remaining (rowsOn right columns) (rowsOn left columns) ∧
        ∀ row, rows.contains row =
          ((rowsOn left columns).contains row && !(rowsOn right columns).contains row)) ∧
    (¬ ((∃ left, AnswersOn memory.known columns l left) ∧
        ∃ right, AnswersOn memory.known columns r right) →
      ∃ e, memory.execute (ModelBench.exceptDistinct l r (String.intercalate "," columns)) =
        .error e) ∧
    (memory.Silent (ModelBench.exceptDistinct r l (String.intercalate "," columns)) →
      ∀ left right, AnswersOn memory.known columns l left →
        AnswersOn memory.known columns r right →
        (memory.execute (ModelBench.exceptDistinct l r (String.intercalate "," columns)) =
            .ok ⟨columns, []⟩ ∧
          memory.execute (ModelBench.exceptDistinct r l (String.intercalate "," columns)) =
            .ok ⟨columns, []⟩ ↔
          ∀ row, (rowsOn left columns).contains row = (rowsOn right columns).contains row)) := by
  refine ⟨fun left right mine theirs => ?_, fun unanswered => ?_,
    fun silent' left right mine theirs => ?_⟩
  · exact ⟨_, execute_exceptDistinct_eq_remaining isColumn nonempty balanced silent mine theirs,
      remaining_pairwise _ _, rfl, contains_remaining _ _⟩
  · rw [execute_of_silent silent,
      evaluate_exceptDistinct isColumn nonempty balanced.1 balanced.2]
    cases found : minus columns (relation memory.known l.toList)
        (relation memory.known r.toList) with
    | error e => exact ⟨e, rfl⟩
    | ok answer => exact absurd (answersOn_of_minus found) unanswered
  · rw [execute_exceptDistinct_eq_remaining isColumn nonempty balanced silent mine theirs,
      execute_exceptDistinct_eq_remaining isColumn nonempty balanced.symm silent' theirs mine,
      ← remaining_eq_nil_iff]
    simp

/-! ## An example -/

/-- A text that is itself a difference, with parentheses in quotes. -/
def nightly : String := "SELECT b FROM `x)` EXCEPT DISTINCT SELECT b FROM (\"FROM (\")"

/-- What is prepared for it: a row that comes twice, a zero with a sign and a row that is too
short. -/
def nightlyAnswer : QueryResult where
  columns := ["b", "As"]
  rows := [[.number (.integer 1), .string "x"], [.number (.real ⟨true, 0, -1074⟩), .null],
    [.number (.integer 1), .string "x"], [.string "last"]]

/-- What is prepared for a text with an escaped quote: a zero without a sign. -/
def dailyAnswer : QueryResult := ⟨["As", "b"], [[.null, .number (.real ⟨false, 0, -1074⟩)]]⟩

/-- A text with an escaped quote and a keyword at its end, and blanks around it. -/
def daily : String := " SELECT '\\'' FROM\n"

def comparedMemory : Memory where
  relations := [(nightly, nightlyAnswer), ("SELECT '\\'' FROM", dailyAnswer)]
  errors := [("union all", .query "no unions")]

theorem answersOn_nightly : AnswersOn comparedMemory.known ["As", "b"] nightly nightlyAnswer := by
  have key : String.ofList (trim nightly.toList) = nightly := by decide +kernel
  refine ⟨relation_of_known ?_, by decide⟩
  rw [key]
  exact List.lookup_cons_self

theorem answersOn_daily : AnswersOn comparedMemory.known ["As", "b"] daily dailyAnswer := by
  have key : String.ofList (trim daily.toList) = "SELECT '\\'' FROM" := by decide +kernel
  have other : ("SELECT '\\'' FROM" == nightly) = false := by decide +kernel
  refine ⟨relation_of_known ?_, by decide⟩
  rw [key, Memory.known, comparedMemory, List.lookup_cons, other]
  exact List.lookup_cons_self

theorem execute_assertion_nightly :
    ((∀ column ∈ ["As", "b"], IsColumn [.fromWord] column) ∧
      Balanced nightly.toList ∧ Balanced daily.toList ∧
      comparedMemory.Silent (ModelBench.exceptDistinct nightly daily "As,b")) ∧
    comparedMemory.execute (ModelBench.exceptDistinct nightly daily "As,b") =
      .ok ⟨["As", "b"], [[.string "x", .number (.integer 1)], [.null, .string "last"]]⟩ := by
  have isColumn : ∀ column ∈ ["As", "b"], IsColumn [.fromWord] column := by decide
  have balanced : Balanced nightly.toList ∧ Balanced daily.toList := by decide +kernel
  have silent : comparedMemory.Silent (ModelBench.exceptDistinct nightly daily "As,b") :=
    List.forall_mem_singleton.2 (by decide +kernel)
  obtain ⟨rows, executed, -, found, -⟩ :=
    (execute_assertion isColumn (by simp) balanced silent).1 _ _ answersOn_nightly answersOn_daily
  refine ⟨⟨isColumn, balanced.1, balanced.2, silent⟩, executed.trans ?_⟩
  rw [found]
  rfl

end ModelBench
