import ModelBench.Assertion
import ModelBench.Proofs.Query.Relation
import ModelBench.Proofs.Text.Split

/-!
# Evaluating differences

The difference of two balanced texts over some columns is read as such, whatever stands in the two
texts (`evaluate_exceptDistinct`): both are evaluated as relations, and the rows that are left are
those of the first, on these columns, that are not among those of the second.
-/

namespace ModelBench.Query

open Text Sql

variable {before : Option Char} {after inner gap left right : List Char} {s : Separator}
  {known : Known} {columns : List String}

/-! ## Projections -/

/-- The text of columns with commas between them. -/
def columnsText (columns : List String) : List Char :=
  [','].intercalate (columns.map String.toList)

/-- The text of the selection of columns from a relation in parentheses. -/
def projectionText (columns : List String) (gap inner : List Char) : List Char :=
  selectWord ++ ([' '] ++ (columnsText columns ++ ([' '] ++
    (Separator.fromWord.text ++ (gap ++ ('(' :: inner ++ [')']))))))

/-- No separator but the commas stands between columns. -/
theorem quiet_columnsText (isColumn : ∀ column ∈ columns, IsColumn [.fromWord] column)
    (known : s ∈ Separator.all) (other : s ≠ .comma) (ends : startsName after = false)
    (clear : ∀ column ∈ columns, s.Clear column.toList after)
    (inner : ∀ column ∈ columns, ∀ rest, s.Clear column.toList (',' :: rest)) :
    s.Quiet before (columnsText columns) after := by
  refine Separator.quiet_intercalate (fun before after => ?_)
    fun piece member before after' follows => ?_
  · have spared : ∀ s ∈ Separator.all, s ≠ .comma → s.Spares [','] := by decide
    exact Separator.quiet_plain known (by decide) (spared s known other)
  · obtain ⟨column, hcolumn, rfl⟩ := List.mem_map.1 member
    rcases follows with rfl | ⟨rest, rfl⟩
    · exact Separator.quiet_word known (isColumn column hcolumn).all_isNameChar ends
        (clear column hcolumn)
    · exact Separator.quiet_word known (isColumn column hcolumn).all_isNameChar rfl
        (inner column hcolumn rest)

theorem startsName_gap_parens (hgap : IsGap gap) (text : List Char) :
    startsName (gap ++ '(' :: text) = false := by
  cases gap with
  | nil => rfl
  | cons c gap => exact hgap.startsName_append (by simp)

/-- No difference stands in a projection at the top. -/
theorem quiet_projectionText (isColumn : ∀ column ∈ columns, IsColumn [.fromWord] column)
    (hgap : IsGap gap) (balanced : Balanced inner) :
    Separator.exceptDistinct.Quiet before (projectionText columns gap inner) after := by
  have known : Separator.exceptDistinct ∈ Separator.all := by decide
  have two : Separator.exceptDistinct ∈ twoWords := by decide
  have space {before : Option Char} {after : List Char} :
      Separator.exceptDistinct.Quiet before [' '] after := Separator.quiet_gap known (by decide)
  have names {before : Option Char} {rest : List Char} : Separator.exceptDistinct.Quiet before
      (columnsText columns) (' ' :: 'F' :: rest) :=
    quiet_columnsText isColumn known (by decide) rfl
      (fun _ _ => clear_of_twoWords two (.inr ⟨'F', by decide, _, rfl⟩))
      fun _ _ _ => clear_of_twoWords two (.inl (by simp))
  have ends : startsName ((gap ++ ('(' :: inner ++ [')'])) ++ after) = false := by
    rw [List.append_assoc]
    exact startsName_gap_parens hgap _
  have word {before : Option Char} {word after : List Char} (name : word.all isNameChar = true)
      (other : lower word ≠ lower Separator.exceptDistinct.key)
      (ends : startsName after = false) : Separator.exceptDistinct.Quiet before word after :=
    Separator.quiet_word known name ends (Separator.clear_of_ne other)
  exact .append (word (by decide) (by decide) rfl) (.append space (.append names (.append space
    (.append (word (by decide) (by decide) ends)
      (.append (Separator.quiet_gap known hgap) (Separator.quiet_parens known balanced))))))

theorem solid_projectionText (columns : List String) (gap inner : List Char) :
    Solid (projectionText columns gap inner) := by
  refine ⟨by simp [projectionText], rfl, ?_⟩
  have last : (projectionText columns gap inner).getLast? = some ')' := by
    simp only [projectionText, List.getLast?_append, List.getLast?_singleton, Option.some_or]
  rw [last]
  rfl

theorem comma_notMem_pad {name : List Char} (isName : name.all isNameChar = true)
    (before : Blanks left) (after : Blanks right) : ',' ∉ left ++ (name ++ right) := by
  rw [List.mem_append, List.mem_append, not_or, not_or]
  refine ⟨fun member => ?_, fun member => ?_, fun member => ?_⟩
  · cases before _ member
  · cases List.all_eq_true.1 isName _ member
  · cases after _ member

/-- The columns are read back from their text. -/
theorem map_splitAt_columnsText (isColumn : ∀ column ∈ columns, IsColumn [.fromWord] column)
    (nonempty : columns ≠ []) (before : Blanks left) (after : Blanks right) :
    (splitAt ',' (left ++ (columnsText columns ++ right))).map
      (fun name => unquoteName (trim name)) = columns := by
  induction columns generalizing left with
  | nil => exact absurd rfl nonempty
  | cons column columns ih =>
    rw [List.forall_mem_cons] at isColumn
    have name := isColumn.1.all_isNameChar
    have solid := solid_of_name isColumn.1.isName
    rw [columnsText, List.map_cons]
    cases columns with
    | nil =>
      rw [List.map_nil, List.intercalate_singleton,
        splitAt_of_notMem (comma_notMem_pad name before after), List.map_singleton,
        trim_gap solid before after, unquoteName_name name, String.ofList_toList]
    | cons next columns =>
      have absent := comma_notMem_pad name before (by decide : Blanks [])
      have trimmed := trim_gap solid before (by decide : Blanks [])
      rw [List.append_nil] at absent trimmed
      have rest := ih isColumn.2 (by simp) (by decide : Blanks [])
      have text : left ++
          ([','].intercalate (column.toList :: (next :: columns).map String.toList) ++ right) =
          (left ++ column.toList) ++ ',' :: ([] ++ (columnsText (next :: columns) ++ right)) := by
        rw [List.map_cons, List.intercalate_cons_cons]
        simp [columnsText]
      rw [text, splitAt_append absent, List.map_cons, rest, trimmed, unquoteName_name name,
        String.ofList_toList]

theorem projection_of {sql body names source : List Char}
    (start : dropKeyword selectWord (trim sql) = some body)
    (cut : Separator.fromWord.cutFirst body = some (names, source))
    (parens : enclosed (trim source) = some inner) :
    projection sql = .ok (((splitAt ',' names).map fun name => unquoteName (trim name)).filter
      fun column => !column.isEmpty, inner) := by
  unfold projection
  simp only [start, cut, parens]

theorem enclosed_trim_parens (hgap : IsGap gap) (balanced : Balanced inner) :
    enclosed (trim (gap ++ ('(' :: inner ++ [')']))) = some inner := by
  have solid : Solid ('(' :: inner ++ [')']) :=
    ⟨by simp, rfl, by rw [List.getLast?_concat]; rfl⟩
  have trimmed := trim_gap solid hgap.blanks (by decide : Blanks [])
  rw [List.append_nil] at trimmed
  rw [trimmed, enclosed_of_balanced balanced]

/-- The first `FROM` of a projection is the one behind its columns. -/
theorem cutFirst_columnsText (isColumn : ∀ column ∈ columns, IsColumn [.fromWord] column)
    (hgap : IsGap gap) :
    Separator.fromWord.cutFirst (([' '] ++ (columnsText columns ++ [' '])) ++
        (Separator.fromWord.text ++ (gap ++ ('(' :: inner ++ [')'])))) =
      some ([' '] ++ (columnsText columns ++ [' ']), gap ++ ('(' :: inner ++ [')'])) := by
  have known : Separator.fromWord ∈ Separator.all := by decide
  have space {before : Option Char} {after : List Char} :
      Separator.fromWord.Quiet before [' '] after := Separator.quiet_gap known (by decide)
  have free (column) (member : column ∈ columns) (after) :
      Separator.fromWord.Clear column.toList after :=
    Separator.clear_of_ne ((isColumn column member).differs .fromWord (by simp))
  have names {before : Option Char} {rest : List Char} : Separator.fromWord.Quiet before
      (columnsText columns) (' ' :: rest) :=
    quiet_columnsText isColumn known (by decide) rfl (fun column member => free column member _)
      fun column member _ => free column member _
  have quiet : Separator.fromWord.Quiet none ([' '] ++ (columnsText columns ++ [' ']))
      (Separator.fromWord.text ++ (gap ++ ('(' :: inner ++ [')']))) :=
    .append space (.append names space)
  refine Separator.cutFirst_eq_some known quiet fun _ => ⟨?_, startsName_gap_parens hgap _⟩
  rw [lastOr_append, lastOr_append]
  rfl

/-- A projection is read as its columns and what stands in the parentheses. -/
theorem projection_projectionText (isColumn : ∀ column ∈ columns, IsColumn [.fromWord] column)
    (nonempty : columns ≠ []) (hgap : IsGap gap) (balanced : Balanced inner)
    (before : Blanks left) (after : Blanks right) :
    projection (left ++ (projectionText columns gap inner ++ right)) = .ok (columns, inner) := by
  have start : dropKeyword selectWord (trim (left ++ (projectionText columns gap inner ++ right))) =
      some (([' '] ++ (columnsText columns ++ [' '])) ++
        (Separator.fromWord.text ++ (gap ++ ('(' :: inner ++ [')'])))) := by
    rw [trim_gap (solid_projectionText columns gap inner) before after, projectionText,
      dropKeyword_self rfl]
    simp only [List.append_assoc]
  have named : columns.filter (fun column => !column.isEmpty) = columns := by
    refine List.filter_eq_self.2 fun column member => ?_
    rw [Bool.not_eq_true', ← Bool.not_eq_true, String.isEmpty_iff]
    rintro rfl
    cases (isColumn "" member).isName
  rw [projection_of start (cutFirst_columnsText isColumn hgap) (enclosed_trim_parens hgap balanced),
    map_splitAt_columnsText isColumn nonempty (by decide) (by decide), named]

/-! ## Differences -/

theorem toList_columnList (columns : List String) :
    (String.intercalate "," columns).toList = columnsText columns := by
  rw [String.toList_intercalate]
  rfl

/-- The statement of a difference: two projections with the separator between them. -/
theorem toList_exceptDistinct (l r : String) (columns : List String) :
    (ModelBench.exceptDistinct l r (String.intercalate "," columns)).toList =
      (projectionText columns [] (' ' :: l.toList ++ [' ']) ++ " \n  ".toList) ++
        (Separator.exceptDistinct.text ++
          (" \n ".toList ++ projectionText columns [' '] r.toList)) := by
  show ("SELECT " ++ String.intercalate "," columns ++ " FROM( " ++ l ++
    " ) \n  EXCEPT DISTINCT \n SELECT " ++ String.intercalate "," columns ++ " FROM (" ++ r ++
    ")").toList = _
  repeat rw [String.toList_append]
  rw [toList_columnList]
  simp only [projectionText, List.cons_append, List.append_assoc]
  rfl

theorem split_exceptDistinct (isColumn : ∀ column ∈ columns, IsColumn [.fromWord] column)
    (hgap : IsGap gap) {other : List Char} (balanced : Balanced inner)
    (balanced' : Balanced other) :
    Separator.exceptDistinct.split ((projectionText columns [] inner ++ " \n  ".toList) ++
        (Separator.exceptDistinct.text ++ (" \n ".toList ++ projectionText columns gap other))) =
      [projectionText columns [] inner ++ " \n  ".toList,
        " \n ".toList ++ projectionText columns gap other] := by
  have known : Separator.exceptDistinct ∈ Separator.all := by decide
  refine Separator.split_of_parts known (.more ?_ ?_ (.last ?_))
  · exact (quiet_projectionText isColumn (by decide) balanced).append
      (Separator.quiet_gap known (by decide))
  · intro _
    rw [lastOr_append]
    exact ⟨(by decide : IsGap " \n  ".toList).lastOr (by decide) _, rfl⟩
  · exact (Separator.quiet_gap known (by decide)).append
      (quiet_projectionText isColumn hgap balanced')

/-- The rows of one relation, on some columns, that are not among those of another one. -/
def minus (columns : List String) (left right : Except QueryError QueryResult) :
    Except QueryError QueryResult := do
  let left ← project (← left) columns
  let right ← project (← right) columns
  return ⟨columns, difference right left⟩

theorem exceptDistinct_of_projections {first second other : List Char}
    (hl : projection first = .ok (columns, inner)) (hr : projection second = .ok (columns, other)) :
    exceptDistinct known first second =
      minus columns (relation known inner) (relation known other) := by
  rw [exceptDistinct, hl, hr]
  show (if columns ≠ columns then _ else _) = _
  rw [if_neg (not_not_intro rfl)]
  rfl

/-- The statement of a difference of balanced texts is evaluated as the difference of the two
relations, on the columns that it names. -/
theorem evaluate_exceptDistinct {l r : String}
    (isColumn : ∀ column ∈ columns, IsColumn [.fromWord] column) (nonempty : columns ≠ [])
    (hl : Balanced l.toList) (hr : Balanced r.toList) :
    evaluate known (ModelBench.exceptDistinct l r (String.intercalate "," columns)) =
      minus columns (relation known l.toList) (relation known r.toList) := by
  have space : Balanced [' '] := balanced_of_plain (by decide)
  have inner : Balanced (' ' :: l.toList ++ [' ']) := space.append (hl.append space)
  have solid : Solid ((projectionText columns [] (' ' :: l.toList ++ [' ']) ++ " \n  ".toList) ++
      (Separator.exceptDistinct.text ++
        (" \n ".toList ++ projectionText columns [' '] r.toList))) := by
    have around := (solid_projectionText columns [] (' ' :: l.toList ++ [' '])).around
      (solid_projectionText columns [' '] r.toList)
      (" \n  ".toList ++ (Separator.exceptDistinct.text ++ " \n ".toList))
    simpa only [List.append_assoc] using around
  have first := projection_projectionText isColumn nonempty (by decide : IsGap []) inner
    (by decide : Blanks []) (by decide : Blanks " \n  ".toList)
  have second := projection_projectionText isColumn nonempty (by decide : IsGap [' ']) hr
    (by decide : Blanks " \n ".toList) (by decide : Blanks [])
  rw [List.nil_append] at first
  rw [List.append_nil] at second
  rw [evaluate, toList_exceptDistinct, trim_of_solid solid]
  simp only [split_exceptDistinct isColumn (by decide : IsGap [' ']) inner hr]
  rw [exceptDistinct_of_projections first second]
  have same : trim (' ' :: l.toList ++ [' ']) = trim l.toList :=
    trim_pad (by decide : Blanks [' ']) (by decide : Blanks [' '])
  rw [relation_congr same]

/-! ## Rows -/

/-- What a row has in a column: null if it has nothing there. -/
def cellAt (columns : List String) (row : List Json) (column : String) : Json :=
  ((columns.zip row).lookup column).getD .null

/-- The rows of an answer on some columns. -/
def rowsOn (answer : QueryResult) (columns : List String) : List (List Json) :=
  answer.rows.map fun row => columns.map (cellAt answer.columns row)

theorem mapM_columnIndex {answer : QueryResult}
    (covers : ∀ column ∈ columns, column ∈ answer.columns) :
    ∃ indices, columns.mapM (columnIndex answer) = .ok indices ∧ ∀ row : List Json,
      (indices.map fun index => row.getD index .null) =
        columns.map (cellAt answer.columns row) := by
  induction columns with
  | nil => exact ⟨[], rfl, fun _ => rfl⟩
  | cons column columns ih =>
    rw [List.forall_mem_cons] at covers
    obtain ⟨indices, found, cells⟩ := ih covers.2
    obtain ⟨index, position⟩ : ∃ index, answer.columns.findIdx? (· == column) = some index := by
      rw [← Option.isSome_iff_exists, List.findIdx?_isSome, List.any_eq_true]
      exact ⟨column, covers.1, beq_self_eq_true column⟩
    refine ⟨index :: indices, ?_, fun row => ?_⟩
    · rw [List.mapM_cons, columnIndex, position, found]
      rfl
    · rw [List.map_cons, cells, List.map_cons, cellAt, EncodedMock.lookup_zip, position,
        Option.bind_some, List.getD_eq_getElem?_getD]

/-- An answer with all columns has rows on them. -/
theorem project_eq_rowsOn {answer : QueryResult}
    (covers : ∀ column ∈ columns, column ∈ answer.columns) :
    project answer columns = .ok (rowsOn answer columns) := by
  obtain ⟨indices, found, cells⟩ := mapM_columnIndex covers
  rw [project, found]
  show Except.ok (answer.rows.map fun row => indices.map fun index => row.getD index .null) = _
  simp only [cells]
  rfl

theorem foldl_difference_eq_nil_iff (others found rows : List (List Json)) :
    rows.foldl (fun found row =>
      if others.contains row || found.contains row then found else found ++ [row]) found = [] ↔
      found = [] ∧ ∀ row ∈ rows, others.contains row = true := by
  induction rows generalizing found with
  | nil => simp
  | cons row rows ih =>
    rw [List.foldl_cons, ih, List.forall_mem_cons]
    split_ifs with seen
    · rw [Bool.or_eq_true] at seen
      constructor
      · rintro ⟨rfl, rest⟩
        exact ⟨rfl, seen.resolve_right (by simp), rest⟩
      · rintro ⟨empty, -, rest⟩
        exact ⟨empty, rest⟩
    · rw [Bool.or_eq_true, not_or] at seen
      constructor
      · rintro ⟨empty, -⟩
        simp at empty
      · rintro ⟨-, other, -⟩
        exact absurd other seen.1

/-- A difference is empty when all rows are among the others. -/
theorem difference_eq_nil_iff (others rows : List (List Json)) :
    difference others rows = [] ↔ ∀ row ∈ rows, others.contains row = true := by
  rw [difference, foldl_difference_eq_nil_iff]
  simp

end ModelBench.Query
