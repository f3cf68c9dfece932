import ModelBench.Mock.Encoding
import ModelBench.Proofs.Query.Literal

/-!
# Evaluating selections of literals

A row is written as entries with commas between them, and read back entry by entry
(`entriesFrom_body`). A selection of it gives exactly this row (`literalSelect_selectText`), and one
with a limit gives only the columns (`literalSelect_emptyText`).
-/

namespace ModelBench.Query

open Text Sql

variable {left right after : List Char} {before : Option Char} {s : Separator}
  {types fields : List (String × String)} {columns values : List String}

/-- The texts of the entries for columns and their values. -/
def entryTexts (types fields : List (String × String)) : List (List Char) :=
  fields.map fun field => entryText field.1 field.2 (types.lookup field.1)

/-- The text of a row: its entries with commas between them. -/
def rowText (types fields : List (String × String)) : List Char :=
  ", ".toList.intercalate (entryTexts types fields)

theorem toList_renderRow (types : List (String × String)) (columns values : List String) :
    (EncodedMock.renderRow types columns values).toList = rowText types (columns.zip values) := by
  rw [EncodedMock.renderRow, String.toList_intercalate, List.map_map, rowText, entryTexts]
  congr 1
  exact List.map_congr_left fun field _ => toList_renderEntry _ _ _

/-- Whether a row can be read back from its text: its columns keep their names, and the types of its
columns are types. -/
structure Readable (types fields : List (String × String)) : Prop where
  columns : ∀ field ∈ fields, IsColumn [.asWord, .limit] field.1
  types : ∀ field ∈ fields, ∀ type ∈ types.lookup field.1, IsType type

theorem Readable.tail {field : String × String} (h : Readable types (field :: fields)) :
    Readable types fields :=
  ⟨(List.forall_mem_cons.1 h.columns).2, (List.forall_mem_cons.1 h.types).2⟩

/-! ## Entries -/

/-- The entries of a row, whatever blanks stand around them, give the cells under the names of the
columns. -/
theorem entriesFrom_padded (h : Readable types fields) (index : Nat) {parts : List (List Char)}
    (padded : List.Forall₂ Separator.Padded (entryTexts types fields) parts) :
    entriesFrom index parts = .ok (fields.map fun field => (field.1, cell field.2)) := by
  induction fields generalizing index parts with
  | nil =>
    cases padded
    rfl
  | cons field fields ih =>
    cases padded with
    | cons part padded =>
      obtain ⟨left, right, before, after, rfl⟩ := part
      have isColumn : IsColumn [.asWord] field.1 :=
        (h.columns field List.mem_cons_self).mono (by simp)
      rw [entriesFrom,
        entry_entryText index (h.types field List.mem_cons_self) isColumn before after,
        ih h.tail (index + 1) padded]
      rfl

/-- A row is split into its entries. -/
theorem entriesFrom_body (h : Readable types fields) (nonempty : fields ≠ []) (gap : IsGap right) :
    entriesFrom 0 (Separator.comma.split ([' '] ++ (rowText types fields ++ right))) =
      .ok (fields.map fun field => (field.1, cell field.2)) := by
  have known : Separator.comma ∈ Separator.all := by decide
  have quiet : ∀ piece ∈ entryTexts types fields, ∀ before after,
      after = right ∨ (∃ rest, after = [] ++ (Separator.comma.text ++ rest)) →
      Separator.comma.Quiet before piece after := by
    intro piece member before after follows
    obtain ⟨field, hfield, rfl⟩ := List.mem_map.1 member
    refine Separator.quiet_entry known (by decide) (h.types field hfield)
      (h.columns field hfield).all_isNameChar ?_ fun words => by cases words
    rcases follows with rfl | ⟨rest, rfl⟩
    · exact gap.startsName
    · rfl
  obtain ⟨parts, padded, split⟩ := Separator.exists_parts known
    ⟨(by decide : IsGap []), (by decide : IsGap [' ']), gap⟩ (fun words => by cases words) quiet
    (by simpa [entryTexts] using nonempty) (by decide : IsGap [' ']) none
  rw [← entriesFrom_padded h 0 padded, ← Separator.split_of_parts known split]
  rfl

/-! ## Selections -/

/-- The text of the selection of a row. -/
def selectText (types fields : List (String × String)) : List Char :=
  selectWord ++ ([' '] ++ rowText types fields)

/-- The text of the selection of no row, with the columns of one. -/
def emptyText (types fields : List (String × String)) : List Char :=
  selectText types fields ++ ([' '] ++ (Separator.limit.text ++ " 0".toList))

/-- In a row no separator stands at the top but the commas and the `AS` of its entries. -/
theorem quiet_rowText (h : Readable types fields) (known : s ∈ Separator.all)
    (others : s ≠ .asWord ∧ s ≠ .comma) (ends : startsName after = false)
    (clear : ∀ field ∈ fields, s.Clear field.1.toList after)
    (inner : ∀ field ∈ fields, ∀ rest, s.Clear field.1.toList (", ".toList ++ rest)) :
    s.Quiet before (rowText types fields) after := by
  refine Separator.quiet_intercalate (fun before after => ?_)
    fun piece member before after' follows => ?_
  · have spared : ∀ s ∈ Separator.all, s ≠ .comma → s.Spares ", ".toList := by decide
    exact Separator.quiet_plain known (by decide) (spared s known others.2)
  · obtain ⟨field, hfield, rfl⟩ := List.mem_map.1 member
    refine Separator.quiet_entry known others.1 (h.types field hfield)
      (h.columns field hfield).all_isNameChar ?_ ?_
    · rcases follows with rfl | ⟨rest, rfl⟩
      · exact ends
      · rfl
    · rcases follows with rfl | ⟨rest, rfl⟩
      · exact clear field hfield
      · exact inner field hfield rest

/-- No `LIMIT` stands in a row. -/
theorem quiet_limit (h : Readable types fields) (ends : startsName after = false) :
    Separator.limit.Quiet before (rowText types fields) after := by
  have clear (field) (member : field ∈ fields) (after) :
      Separator.limit.Clear field.1.toList after :=
    Separator.clear_of_ne ((h.columns field member).differs .limit (by simp))
  exact quiet_rowText h (by decide) (by decide) ends (fun field member => clear field member _)
    fun field member _ => clear field member _

theorem selection_of_cut_none {body : List Char}
    (cut : Separator.limit.cutFirst ([' '] ++ body) = none) :
    selection (selectWord ++ ([' '] ++ body)) = .ok ([' '] ++ body, true) := by
  unfold selection
  rw [dropKeyword_self rfl]
  simp only [cut]

theorem selection_of_cut_some {body entries count : List Char}
    (cut : Separator.limit.cutFirst ([' '] ++ body) = some (entries, count))
    (zero : trim count = ['0']) :
    selection (selectWord ++ ([' '] ++ body)) = .ok (entries, false) := by
  unfold selection
  rw [dropKeyword_self rfl]
  simp only [cut, zero, if_true]

theorem literalSelect_of_selection {sql body : List Char} {hasRow : Bool}
    {entries : List (String × Json)} (selected : selection (trim sql) = .ok (body, hasRow))
    (found : entriesFrom 0 (Separator.comma.split body) = .ok entries) :
    literalSelect sql =
      .ok (entries.map Prod.fst, if hasRow then [entries.map Prod.snd] else []) := by
  unfold literalSelect
  rw [selected]
  show (do
    let entries ← entriesFrom 0 (Separator.comma.split body)
    return (entries.map Prod.fst, if hasRow then [entries.map Prod.snd] else [])) = _
  rw [found]
  rfl

theorem solid_rowText (h : Readable types fields) (nonempty : fields ≠ []) :
    Solid (rowText types fields) := by
  refine solid_intercalate _ (by simpa [entryTexts] using nonempty) fun piece member => ?_
  obtain ⟨field, hfield, rfl⟩ := List.mem_map.1 member
  exact solid_entryText (h.columns field hfield).isName

theorem solid_selectText (h : Readable types fields) (nonempty : fields ≠ []) :
    Solid (selectText types fields) :=
  (⟨by decide, by decide, by decide⟩ : Solid selectWord).around (solid_rowText h nonempty) [' ']

theorem solid_emptyText (h : Readable types fields) (nonempty : fields ≠ []) :
    Solid (emptyText types fields) :=
  (solid_selectText h nonempty).around
    (⟨by decide, by decide, by decide⟩ : Solid (Separator.limit.text ++ " 0".toList)) [' ']

/-- The selection of a row gives this row. -/
theorem literalSelect_selectText (h : Readable types fields) (nonempty : fields ≠ [])
    (before : Blanks left) (after : Blanks right) :
    literalSelect (left ++ (selectText types fields ++ right)) =
      .ok (fields.map Prod.fst, [fields.map fun field => cell field.2]) := by
  have quiet : Separator.limit.Quiet none ([' '] ++ rowText types fields) [] :=
    .append (Separator.quiet_gap (by decide) (by decide)) (quiet_limit h rfl)
  have selected : selection (trim (left ++ (selectText types fields ++ right))) =
      .ok ([' '] ++ rowText types fields, true) := by
    rw [trim_gap (solid_selectText h nonempty) before after]
    exact selection_of_cut_none (Separator.cutFirst_eq_none quiet)
  have entries := entriesFrom_body h nonempty (by decide : IsGap [])
  rw [List.append_nil] at entries
  rw [literalSelect_of_selection selected entries, List.map_map, List.map_map]
  rfl

/-- The selection of no row gives the columns. -/
theorem literalSelect_emptyText (h : Readable types fields) (nonempty : fields ≠ [])
    (before : Blanks left) (after : Blanks right) :
    literalSelect (left ++ (emptyText types fields ++ right)) = .ok (fields.map Prod.fst, []) := by
  have known : Separator.limit ∈ Separator.all := by decide
  have quiet : Separator.limit.Quiet none ([' '] ++ (rowText types fields ++ [' ']))
      (Separator.limit.text ++ " 0".toList) :=
    .append (Separator.quiet_gap known (by decide))
      (.append (quiet_limit h rfl) (Separator.quiet_gap known (by decide)))
  have fits : Separator.limit.Fits (lastOr none ([' '] ++ (rowText types fields ++ [' '])))
      " 0".toList := fun _ => ⟨by rw [lastOr_append, lastOr_append]; rfl, rfl⟩
  have cut := Separator.cutFirst_eq_some known quiet fits
  have selected : selection (trim (left ++ (emptyText types fields ++ right))) =
      .ok ([' '] ++ (rowText types fields ++ [' ']), false) := by
    rw [trim_gap (solid_emptyText h nonempty) before after, emptyText, selectText]
    simp only [List.append_assoc] at cut ⊢
    exact selection_of_cut_some cut (by decide)
  have entries := entriesFrom_body h nonempty (by decide : IsGap [' '])
  rw [literalSelect_of_selection selected entries, List.map_map]
  rfl

end ModelBench.Query
