import ModelBench.Proofs.Query.Relation
import ModelBench.Proofs.Sql.PassThrough

/-!
# Evaluating what passes a statement through

Selecting everything from a balanced statement gives the rows of that statement, whatever the alias
(`relation_selectAll`). `Delivers` says of a statement that it gives the rows of another one and can
itself be put in the place of a table; a selection of everything from such a statement is one again
(`Delivers.selectAll`).
-/

namespace ModelBench.Query

open Text Sql

variable {known : Known} {r : Replacement} {label source sql : List Char} {before : Option Char}

/-! ## Aliases -/

theorem wordsAfter_of_noBlank {word text : List Char} (h : ∀ c ∈ text, isBlank c = false)
    (nonempty : word ++ text ≠ []) : wordsAfter word text = [word.reverse ++ text] := by
  induction text generalizing word with
  | nil =>
    cases word with
    | nil => exact absurd rfl nonempty
    | cons c word => simp [wordsAfter]
  | cons c text ih =>
    rw [List.forall_mem_cons] at h
    rw [wordsAfter, h.1, if_neg Bool.false_ne_true, ih h.2 (by simp)]
    simp

theorem isAliasClause_as (name : isName label = true) :
    isAliasClause (" AS ".toList ++ label) = true := by
  have noBlank : ∀ c ∈ label, isBlank c = false := fun c hc =>
    isBlank_of_isNameChar (isNameChar_of_isName name c hc)
  have last : wordsAfter [] label = [label] :=
    wordsAfter_of_noBlank noBlank (solid_of_name name).nonempty
  have both : words (" AS ".toList ++ label) = ["AS".toList, label] := by
    show "AS".toList :: wordsAfter [] label = _
    rw [last]
  rw [isAliasClause, both]
  simp only [name]
  rfl

/-! ## Selecting everything -/

/-- A selection of everything, word by word. -/
theorem selectAll_append (table : List Char) : selectAll ++ table =
    selectWord ++ (" * ".toList ++ ("FROM".toList ++ ([' '] ++ table))) := rfl

theorem subquery_eq (r : Replacement) (label : List Char) :
    r.subquery label = ('(' :: r.sql.toList ++ [')']) ++ (" AS ".toList ++ label) := by
  rw [Replacement.subquery, List.append_assoc, List.append_assoc]
  rfl

/-- What is selected from is the statement between the parentheses. -/
theorem starOperand_selectAll (balanced : Balanced r.sql.toList) (name : isName label = true) :
    starOperand (selectAll ++ r.subquery label) = some r.sql.toList := by
  have select (table : List Char) : dropKeyword selectWord (selectWord ++ (" * ".toList ++ table)) =
      some (" * ".toList ++ table) := dropKeyword_self rfl
  have star (table : List Char) : dropIgnoringCase ['*'] (trimStart (" * ".toList ++ table)) =
      some ([' '] ++ table) := rfl
  have from_ (table : List Char) : dropKeyword "FROM".toList
      (trimStart ([' '] ++ ("FROM".toList ++ ([' '] ++ table)))) = some ([' '] ++ table) :=
    dropKeyword_self rfl
  have inside : parenthesised (trimStart ([' '] ++ r.subquery label)) =
      some (r.sql.toList, " AS ".toList ++ label) := by
    rw [subquery_eq, List.append_assoc]
    exact parenthesised_of_balanced balanced _
  rw [selectAll_append, starOperand]
  simp only [select, star, from_, inside, Option.bind_eq_bind, Option.bind_some]
  rw [if_pos (isAliasClause_as name)]
  rfl

theorem trim_selectAll (name : isName label = true) :
    trim (selectAll ++ r.subquery label) = selectAll ++ r.subquery label := by
  have text : selectAll ++ r.subquery label = selectWord ++
      ((" * FROM ".toList ++ ('(' :: r.sql.toList ++ ") AS ".toList)) ++ label) := by
    rw [List.append_assoc]
    rfl
  rw [text]
  exact trim_of_solid ((solid_of_name (by decide)).around (solid_of_name name) _)

/-- A selection of everything is no difference. -/
theorem quiet_selectAll (balanced : Balanced r.sql.toList) (name : isName label = true) :
    Separator.exceptDistinct.Quiet before (selectAll ++ r.subquery label) [] := by
  have known : Separator.exceptDistinct ∈ Separator.all := by decide
  have chars : label.all isNameChar = true := List.all_eq_true.2 (isNameChar_of_isName name)
  rw [selectAll_append, subquery_eq]
  exact .append (Separator.quiet_word known (by decide) rfl (Separator.clear_of_ne (by decide)))
    (.append (Separator.quiet_plain known (by decide) (by decide))
      (.append (Separator.quiet_word known (by decide) rfl (Separator.clear_of_ne (by decide)))
        (.append (Separator.quiet_gap known (by decide))
          (.append (Separator.quiet_parens known balanced)
            (.append (Separator.quiet_as known (by decide))
              (Separator.quiet_word known chars rfl
                (clear_of_twoWords (by decide) (.inl (by simp)))))))))

/-- Selecting everything from a statement gives its rows. -/
theorem relation_selectAll (balanced : Balanced r.sql.toList) (name : isName label = true)
    (unknown : known (String.ofList (selectAll ++ r.subquery label)) = none) :
    relation known (selectAll ++ r.subquery label) = relation known r.sql.toList := by
  have star := starOperand_selectAll balanced name
  rw [← trim_selectAll name] at star unknown
  exact relation_of_starOperand unknown star

/-! ## Delivering the rows of a statement -/

/-- Whether a statement that is no difference can stand in parentheses, gives the rows of another one
where no relation is known beforehand, and mentions no further names. -/
structure Delivers (source sql : List Char) : Prop where
  balanced : Balanced sql
  noDifference : Separator.exceptDistinct.Quiet none (trim sql) []
  rows : relation (fun _ => none) sql = relation (fun _ => none) source
  mentions : ∀ name, IsTicked name → Mentions name sql → Mentions name source

/-- A selection of everything delivers what the statement in the place of the table does. -/
theorem Delivers.selectAll (h : Delivers source r.sql.toList) (name : isName label = true) :
    Delivers source (Sql.selectAll ++ r.subquery label) where
  balanced := by
    have quiet : Separator.exceptDistinct.Quiet none (Sql.selectAll ++ r.subquery label) [] :=
      quiet_selectAll h.balanced name
    exact quiet.balanced
  noDifference := by
    rw [trim_selectAll name]
    exact quiet_selectAll h.balanced name
  rows := (relation_selectAll h.balanced name rfl).trans h.rows
  mentions := fun other ticked mention => h.mentions other ticked
    (mentions_of_selectAll ticked (tick_notMem_of_isName name) mention)

/-- A statement that delivers the rows of another one has the same answer. -/
theorem Delivers.evaluate_eq {source sql : String} (h : Delivers source.toList sql.toList)
    (quiet : Separator.exceptDistinct.Quiet none (trim source.toList) []) :
    evaluate (fun _ => none) sql = evaluate (fun _ => none) source := by
  rw [evaluate_of_quiet h.noDifference, h.rows, evaluate_of_quiet quiet]

/-- The statement of a mock delivers its own rows. -/
theorem delivers_asRelation {types : List (String × String)} {header : List String}
    (h : IsHeader types header) (rows : List (List String)) :
    Delivers (EncodedMock.ofTable types header rows).asRelation.toList
      (EncodedMock.ofTable types header rows).asRelation.toList where
  balanced := balanced_asRelation h rows
  noDifference := quiet_trim_asRelation h rows
  rows := rfl
  mentions := fun _ _ mention => mention

end ModelBench.Query
