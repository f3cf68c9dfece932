import ModelBench.Proofs.Mock.Encoding
import ModelBench.Proofs.Query.Selection

/-!
# Evaluating mocks

The statement of a mock gives back the table that it was made of (`relation_ofTable`): the columns
in their order and the cells of every row, whatever the values. Without rows it gives the columns
alone.
-/

namespace ModelBench.Query

open Text Sql

variable {after : List Char} {before : Option Char} {s : Separator} {known : Known}
  {types fields : List (String × String)} {rows : List (List (String × String))}
  {columns : List String}

/-! ## Separators of two words -/

/-- The separators of two words. -/
def twoWords : List Separator := [.unionAll, .exceptDistinct]

theorem mem_all_of_twoWords (two : s ∈ twoWords) : s ∈ Separator.all := by
  revert s
  decide

/-- Whether what follows a word does not make it the first of two words: no space, or a keyword that
is no second word. -/
def EndsWord (after : List Char) : Prop :=
  after.head? ≠ some ' ' ∨ ∃ c ∈ ['F', 'L'], ∃ rest, after = ' ' :: c :: rest

theorem clear_of_twoWords {word : List Char} (two : s ∈ twoWords) (follows : EndsWord after) :
    s.Clear word after := by
  intro _ _
  have second : ∀ s ∈ twoWords, ∃ c ∈ ['A', 'D'], ∃ wanted, s.tail = ' ' :: c :: wanted := by
    intro s two
    simp only [twoWords, List.mem_cons, List.not_mem_nil, or_false] at two
    rcases two with rfl | rfl
    · exact ⟨'A', by decide, _, rfl⟩
    · exact ⟨'D', by decide, _, rfl⟩
  have differ : ∀ c ∈ ['A', 'D'], ∀ d ∈ ['F', 'L'], c.toLower ≠ d.toLower := by
    simp only [List.forall_mem_cons, List.not_mem_nil, false_implies, implies_true, and_true]
    decide
  obtain ⟨c, hc, wanted, tail⟩ := second s two
  rw [tail]
  rcases follows with other | ⟨d, hd, rest, rfl⟩
  · cases after with
    | nil => rfl
    | cons d rest =>
      rw [dropIgnoringCase, if_neg]
      intro same
      exact other (by rw [eq_of_toLower_eq (d := ' ') (by decide) same.symm]; rfl)
  · rw [dropIgnoringCase, if_pos rfl, dropIgnoringCase, if_neg (differ c hc d hd)]

theorem quiet_selectText (h : Readable types fields) (two : s ∈ twoWords)
    (follows : EndsWord after) (ends : startsName after = false) :
    s.Quiet before (selectText types fields) after := by
  have known := mem_all_of_twoWords two
  have others : ∀ s ∈ twoWords, lower selectWord ≠ lower s.key ∧ s ≠ .asWord ∧ s ≠ .comma := by
    decide
  have others := others s two
  have row : s.Quiet (lastOr (lastOr before selectWord) [' ']) (rowText types fields) after :=
    quiet_rowText h known others.2 ends (fun _ _ => clear_of_twoWords two follows)
      fun _ _ _ => clear_of_twoWords two (.inl (by simp))
  exact (Separator.quiet_word known (by decide) rfl (Separator.clear_of_ne others.1)).append
    (.append (Separator.quiet_gap known (by decide)) row)

theorem quiet_emptyText (h : Readable types fields) (two : s ∈ twoWords) :
    s.Quiet before (emptyText types fields) [] := by
  have known := mem_all_of_twoWords two
  have others : ∀ s ∈ twoWords, lower "LIMIT".toList ≠ lower s.key := by decide
  have zero {before : Option Char} : s.Quiet before ([' '] ++ ['0']) [] :=
    .append (Separator.quiet_gap known (by decide))
      (Separator.quiet_word known (by decide) rfl (clear_of_twoWords two (.inl (by simp))))
  have count {before : Option Char} :
      s.Quiet before ([' '] ++ (Separator.limit.text ++ " 0".toList)) [] :=
    .append (Separator.quiet_gap known (by decide))
      (.append (Separator.quiet_word known (by decide) rfl (Separator.clear_of_ne (others s two)))
        zero)
  exact (quiet_selectText h two (.inr ⟨'L', by decide, _, rfl⟩) rfl).append count

/-! ## Unions -/

/-- What stands between the selections of a mock. -/
def unionGlue : List Char := "\n ".toList ++ (Separator.unionAll.text ++ " \n\n ".toList)

theorem unionGlue_words : unionGlue =
    "\n ".toList ++ ("UNION".toList ++ ([' '] ++ ("ALL".toList ++ " \n\n ".toList))) := rfl

/-- The text of the selections of some rows. -/
def unionText (types : List (String × String)) (rows : List (List (String × String))) :
    List Char :=
  unionGlue.intercalate (rows.map (selectText types))

/-- Whether all rows can be read back and have the same columns, at least one. -/
structure Table (types : List (String × String)) (columns : List String)
    (rows : List (List (String × String))) : Prop where
  nonempty : columns ≠ []
  readable : ∀ fields ∈ rows, Readable types fields
  columns : ∀ fields ∈ rows, fields.map Prod.fst = columns

theorem Table.fields_ne_nil (h : Table types columns rows) : ∀ fields ∈ rows, fields ≠ [] := by
  rintro fields member rfl
  exact h.nonempty (h.columns [] member).symm

theorem Table.tail (h : Table types columns (fields :: rows)) : Table types columns rows :=
  ⟨h.nonempty, (List.forall_mem_cons.1 h.readable).2, (List.forall_mem_cons.1 h.columns).2⟩

/-- The cells of a row. -/
def cells (fields : List (String × String)) : List Json := fields.map fun field => cell field.2

theorem literalSelect_padded {part : List Char} (h : Readable types fields)
    (nonempty : fields ≠ []) (padded : Separator.Padded (selectText types fields) part) :
    literalSelect part = .ok (fields.map Prod.fst, [cells fields]) := by
  obtain ⟨left, right, before, after, rfl⟩ := padded
  exact literalSelect_selectText h nonempty before after

/-- Further selections with the same columns add their rows. -/
theorem unionFrom_padded (h : Table types columns rows) {parts : List (List Char)}
    (padded : List.Forall₂ Separator.Padded (rows.map (selectText types)) parts) :
    unionFrom columns parts = .ok (rows.map cells) := by
  induction rows generalizing parts with
  | nil =>
    cases padded
    rfl
  | cons fields rows ih =>
    cases padded with
    | cons part padded =>
      have first := literalSelect_padded (h.readable _ List.mem_cons_self)
        (h.fields_ne_nil _ List.mem_cons_self) part
      rw [h.columns _ List.mem_cons_self] at first
      rw [unionFrom, first, ih h.tail padded]
      show (if columns ≠ columns then _ else _) = _
      rw [if_neg (not_not_intro rfl)]
      rfl

/-- Behind a selection of a union comes the next separator or nothing. -/
theorem quiet_of_union (h : Table types columns rows) (two : s ∈ twoWords) :
    ∀ piece ∈ rows.map (selectText types), ∀ before after,
      after = [] ∨ (∃ rest, after = "\n ".toList ++ (Separator.unionAll.text ++ rest)) →
      s.Quiet before piece after := by
  intro piece member before after follows
  obtain ⟨fields, hfields, rfl⟩ := List.mem_map.1 member
  rcases follows with rfl | ⟨rest, rfl⟩
  · exact quiet_selectText (h.readable fields hfields) two (.inl (by simp)) rfl
  · exact quiet_selectText (h.readable fields hfields) two (.inl (by simp)) rfl

theorem quiet_unionGlue : Separator.exceptDistinct.Quiet before unionGlue after := by
  have known : Separator.exceptDistinct ∈ Separator.all := by decide
  have gap {before : Option Char} {text after : List Char} (h : IsGap text) :
      Separator.exceptDistinct.Quiet before text after := Separator.quiet_gap known h
  have word {before : Option Char} {word after : List Char} (name : word.all isNameChar = true)
      (other : lower word ≠ lower Separator.exceptDistinct.key)
      (ends : startsName after = false) : Separator.exceptDistinct.Quiet before word after :=
    Separator.quiet_word known name ends (Separator.clear_of_ne other)
  rw [unionGlue_words]
  exact .append (gap (by decide)) (.append (word (by decide) (by decide) rfl)
    (.append (gap (by decide)) (.append (word (by decide) (by decide) rfl) (gap (by decide)))))

/-- A union of selections of literals is no difference. -/
theorem quiet_unionText (h : Table types columns rows) :
    Separator.exceptDistinct.Quiet before (unionText types rows) [] := by
  refine Separator.quiet_intercalate (fun _ _ => quiet_unionGlue)
    fun piece member before after follows => ?_
  refine quiet_of_union h (by decide) piece member before after
    (follows.imp_right fun ⟨rest, eq⟩ => ⟨" \n\n ".toList ++ rest, ?_⟩)
  rw [eq, unionGlue, List.append_assoc, List.append_assoc]

theorem literalUnion_of_split {sql first : List Char} {parts : List (List Char)}
    {row : List (List Json)} {rest : List (List Json)}
    (split : Separator.unionAll.split sql = first :: parts)
    (head : literalSelect first = .ok (columns, row)) (tail : unionFrom columns parts = .ok rest) :
    literalUnion sql = .ok ⟨columns, row ++ rest⟩ := by
  simp only [literalUnion, split, head, tail, bind, Except.bind]
  rfl

/-- The union of the selections of some rows gives these rows. -/
theorem literalUnion_unionText (h : Table types columns rows) (nonempty : rows ≠ []) :
    literalUnion (unionText types rows) = .ok ⟨columns, rows.map cells⟩ := by
  have known : Separator.unionAll ∈ Separator.all := by decide
  obtain ⟨parts, padded, split⟩ := Separator.exists_parts known
    ⟨(by decide : IsGap "\n ".toList), (by decide : IsGap " \n\n ".toList), (by decide : IsGap [])⟩
    (fun _ => ⟨by decide, by decide⟩) (quiet_of_union h (by decide)) (by simpa using nonempty)
    (by decide : IsGap []) none
  rw [List.nil_append, List.append_nil] at split
  have split := Separator.split_of_parts known split
  cases rows with
  | nil => exact absurd rfl nonempty
  | cons fields rows =>
    cases padded with
    | cons part padded =>
      have first := literalSelect_padded (h.readable _ List.mem_cons_self)
        (h.fields_ne_nil _ List.mem_cons_self) part
      rw [h.columns _ List.mem_cons_self] at first
      exact literalUnion_of_split split first (unionFrom_padded h.tail padded)

/-- The selection of no row gives the columns alone. -/
theorem literalUnion_emptyText (h : Readable types fields) (nonempty : fields ≠ []) :
    literalUnion (emptyText types fields) = .ok ⟨fields.map Prod.fst, []⟩ := by
  have quiet : Separator.unionAll.Quiet none (emptyText types fields) [] :=
    quiet_emptyText h (by decide)
  have split := Separator.split_of_parts (by decide) (.last quiet)
  have select := literalSelect_emptyText h nonempty (by decide : Blanks []) (by decide : Blanks [])
  rw [List.nil_append, List.append_nil] at select
  exact literalUnion_of_split split select rfl

/-! ## Relations -/

/-- A relation depends on its statement up to the blanks around it. -/
theorem relation_congr {sql other : List Char} (same : trim sql = trim other) :
    relation known sql = relation known other := by
  rw [relation, relation, same]

theorem head_rowText (types : List (String × String)) (nonempty : fields ≠ []) :
    ∃ c ∈ ['n', '"', 'C'], (rowText types fields).head? = some c := by
  obtain ⟨field, fields, rfl⟩ := List.exists_cons_of_ne_nil nonempty
  obtain ⟨c, first, head⟩ := head_expression field.2 (types.lookup field.1)
  refine ⟨c, first, ?_⟩
  rw [rowText, entryTexts, List.map_cons]
  cases fields with
  | nil => simp [entryText, head]
  | cons next fields =>
    rw [List.map_cons, List.intercalate_cons_cons]
    simp [entryText, head]

/-- A selection of literals is none that passes another relation through. -/
theorem starOperand_eq_none (types : List (String × String)) (nonempty : fields ≠ [])
    (rest : List Char) :
    starOperand (selectText types fields ++ rest) = none := by
  obtain ⟨c, first, head⟩ := head_rowText types nonempty
  obtain ⟨row, eq⟩ := List.head?_eq_some_iff.1 head
  have facts : ∀ c ∈ ['n', '"', 'C'], isBlank c = false ∧ '*'.toLower ≠ c.toLower := by
    simp only [List.forall_mem_cons, List.not_mem_nil, false_implies, implies_true, and_true]
    decide
  have start : trimStart ([' '] ++ c :: row ++ rest) = c :: row ++ rest := by
    rw [List.append_assoc, trimStart_pad (by decide : Blanks [' '])]
    exact dropWhile_of_head (facts c first).1
  have star : dropIgnoringCase ['*'] (c :: row ++ rest) = none := by
    rw [List.cons_append, dropIgnoringCase, if_neg (facts c first).2]
  rw [starOperand, selectText, List.append_assoc, dropKeyword_self rfl, eq]
  rw [Option.bind_eq_bind, Option.bind_some, start, star]
  rfl

/-- A selection that passes a relation through has its rows. -/
theorem relation_of_starOperand {sql inside : List Char}
    (unknown : known (String.ofList (trim sql)) = none)
    (star : starOperand (trim sql) = some inside) : relation known sql = relation known inside := by
  rw [relation, unknown]
  dsimp only
  split
  · next found =>
    rw [star] at found
    rw [Option.some.inj found]
  · next found =>
    rw [star] at found
    cases found

theorem relation_eq_literalUnion {sql : List Char}
    (unknown : known (String.ofList (trim sql)) = none) (literals : starOperand (trim sql) = none) :
    relation known sql = literalUnion (trim sql) := by
  rw [relation, unknown]
  dsimp only
  split
  · next found =>
    rw [literals] at found
    cases found
  · rfl

/-! ## Mocks -/

theorem intercalate_prefix (glue first : List Char) (pieces : List (List Char))
    (nonempty : pieces ≠ []) :
    glue.intercalate (pieces.map (first ++ ·)) = first ++ (glue ++ first).intercalate pieces := by
  induction pieces with
  | nil => exact absurd rfl nonempty
  | cons piece pieces ih =>
    cases pieces with
    | nil => simp
    | cons next pieces =>
      rw [List.map_cons, List.map_cons, List.intercalate_cons_cons, List.intercalate_cons_cons,
        ← List.map_cons, ih (by simp)]
      simp only [List.append_assoc]

/-- The columns of a header with the values of a row in their order. -/
def fieldsOf (header row : List String) : List (String × String) :=
  ((EncodedMock.order header).map Prod.fst).zip
    (EncodedMock.valuesAt ((EncodedMock.order header).map Prod.snd) row)

theorem solid_unionText (h : Table types columns rows) (nonempty : rows ≠ []) :
    Solid (unionText types rows) := by
  refine solid_intercalate _ (by simpa using nonempty) fun piece member => ?_
  obtain ⟨fields, hfields, rfl⟩ := List.mem_map.1 member
  exact solid_selectText (h.readable fields hfields) (h.fields_ne_nil fields hfields)

/-- The statement of a mock with rows is the union of their selections, behind a gap. -/
theorem toList_sql (header : List String) {rows : List (List String)} (nonempty : rows ≠ []) :
    (EncodedMock.ofTable types header rows).sql.toList =
      "\n ".toList ++ unionText types (rows.map (fieldsOf header)) := by
  have selects : ((rows.map fun row => "\n SELECT " ++ EncodedMock.renderRow types
        ((EncodedMock.order header).map Prod.fst)
        (EncodedMock.valuesAt ((EncodedMock.order header).map Prod.snd) row)).map String.toList) =
      ((rows.map (fieldsOf header)).map (selectText types)).map ("\n ".toList ++ ·) := by
    rw [List.map_map, List.map_map, List.map_map]
    refine List.map_congr_left fun row _ => ?_
    show ("\n SELECT " ++ _).toList = _
    rw [String.toList_append, toList_renderRow]
    rfl
  show (String.intercalate "\n UNION ALL \n" _).toList = _
  rw [String.toList_intercalate, selects, intercalate_prefix _ _ _ (by simpa using nonempty)]
  rfl

theorem asRelation_eq_sql (header : List String) {rows : List (List String)}
    (nonempty : rows ≠ []) : (EncodedMock.ofTable types header rows).asRelation =
      (EncodedMock.ofTable types header rows).sql := by
  have full : (EncodedMock.ofTable types header rows).isEmpty = false := by
    simpa [EncodedMock.isEmpty, EncodedMock.ofTable] using nonempty
  rw [EncodedMock.asRelation, full]
  rfl

/-- The columns of a header without values. -/
def blankFields (header : List String) : List (String × String) :=
  ((EncodedMock.order header).map Prod.fst).map fun column => (column, "")

/-- A mock without rows stands in a statement as the selection of no row. -/
theorem asRelation_of_nil (types : List (String × String)) (header : List String) :
    (EncodedMock.ofTable types header []).asRelation.toList =
      emptyText types (blankFields header) := by
  have zip (columns : List String) : columns.zip (columns.map fun _ => "") =
      columns.map fun column => (column, "") := by
    induction columns with
    | nil => rfl
    | cons column columns ih => rw [List.map_cons, List.zip_cons_cons, ih, List.map_cons]
  show ("SELECT " ++ EncodedMock.renderRow types _ _ ++ " LIMIT 0").toList = _
  rw [String.toList_append, String.toList_append, toList_renderRow, zip]
  rfl

/-- Whether the columns of a header keep their names in a statement and their types are types. -/
structure IsHeader (types : List (String × String)) (header : List String) : Prop where
  nonempty : header ≠ []
  columns : ∀ column ∈ header, IsColumn [.asWord, .limit] column
  types : ∀ column ∈ header, ∀ type ∈ types.lookup column, IsType type

theorem IsHeader.readable {header : List String} (h : IsHeader types header)
    (columns : ∀ field ∈ fields, field.1 ∈ header) : Readable types fields :=
  ⟨fun field member => h.columns _ (columns field member),
    fun field member => h.types _ (columns field member)⟩

theorem IsHeader.columns_ne_nil {header : List String} (h : IsHeader types header) :
    (EncodedMock.order header).map Prod.fst ≠ [] := fun empty =>
  h.nonempty (List.Perm.eq_nil (empty ▸ EncodedMock.columns_perm header).symm)

/-- The columns of a mock tell what its header is. -/
theorem isHeader_of_columns {header : List String}
    (checked : EncodedMock.checkHeader header = .ok ())
    (isColumn : ∀ column ∈ (EncodedMock.ofTable types header []).columns,
      IsColumn [.asWord, .limit] column)
    (isType : ∀ column ∈ (EncodedMock.ofTable types header []).columns,
      ∀ type ∈ types.lookup column, IsType type) : IsHeader types header := by
  have mem (column : String) (h : column ∈ header) :
      column ∈ (EncodedMock.ofTable types header []).columns :=
    (EncodedMock.columns_perm header).mem_iff.2 h
  exact ⟨EncodedMock.header_ne_nil checked, fun column h => isColumn column (mem column h),
    fun column h => isType column (mem column h)⟩

theorem map_fst_fieldsOf (header row : List String) :
    (fieldsOf header row).map Prod.fst = (EncodedMock.order header).map Prod.fst :=
  List.map_fst_zip (by simp [EncodedMock.valuesAt])

theorem IsHeader.table {header : List String} (h : IsHeader types header)
    (rows : List (List String)) :
    Table types ((EncodedMock.order header).map Prod.fst) (rows.map (fieldsOf header)) where
  nonempty := h.columns_ne_nil
  readable := by
    intro fields member
    obtain ⟨row, -, rfl⟩ := List.mem_map.1 member
    refine h.readable fun field hfield => ?_
    have := List.mem_map_of_mem (f := Prod.fst) hfield
    rw [map_fst_fieldsOf] at this
    exact (EncodedMock.columns_perm header).mem_iff.1 this
  columns := by
    intro fields member
    obtain ⟨row, -, rfl⟩ := List.mem_map.1 member
    exact map_fst_fieldsOf header row

theorem IsHeader.blank {header : List String} (h : IsHeader types header) :
    Readable types (blankFields header) ∧ blankFields header ≠ [] := by
  refine ⟨h.readable fun field hfield => ?_, by simpa [blankFields] using h.columns_ne_nil⟩
  obtain ⟨column, member, rfl⟩ := List.mem_map.1 hfield
  exact (EncodedMock.columns_perm header).mem_iff.1 member

theorem cells_fieldsOf (header row : List String) : cells (fieldsOf header row) =
    (EncodedMock.valuesAt ((EncodedMock.order header).map Prod.snd) row).map cell := by
  rw [cells, show (fun field : String × String => cell field.2) = cell ∘ Prod.snd from rfl,
    ← List.map_map, fieldsOf, List.map_snd_zip (by simp [EncodedMock.valuesAt])]

theorem starOperand_unionText (h : Table types columns rows) (nonempty : rows ≠ []) :
    starOperand (unionText types rows) = none := by
  obtain ⟨fields, rows, rfl⟩ := List.exists_cons_of_ne_nil nonempty
  have first := h.fields_ne_nil fields List.mem_cons_self
  rw [unionText, List.map_cons]
  cases rows with
  | nil =>
    have none_ := starOperand_eq_none types first []
    rw [List.append_nil] at none_
    rwa [List.map_nil, List.intercalate_singleton]
  | cons next rows =>
    rw [List.map_cons, List.intercalate_cons_cons, List.append_assoc]
    exact starOperand_eq_none types first _

/-- The statement of a mock, without the blanks before it. -/
theorem trim_asRelation {header : List String} (h : IsHeader types header)
    {rows : List (List String)} (nonempty : rows ≠ []) :
    trim (EncodedMock.ofTable types header rows).asRelation.toList =
      unionText types (rows.map (fieldsOf header)) := by
  have solid := solid_unionText (h.table rows) (by simpa using nonempty)
  have trimmed := trim_gap solid (by decide : Blanks "\n ".toList) (by decide : Blanks [])
  rw [List.append_nil] at trimmed
  rw [asRelation_eq_sql header nonempty, toList_sql header nonempty, trimmed]

theorem trim_asRelation_of_nil {header : List String} (h : IsHeader types header) :
    trim (EncodedMock.ofTable types header []).asRelation.toList =
      emptyText types (blankFields header) := by
  rw [asRelation_of_nil]
  exact trim_of_solid (solid_emptyText h.blank.1 h.blank.2)

/-- The answer that a table stands for: its columns in order, and its cells. -/
def tableOf (header : List String) (rows : List (List String)) : QueryResult where
  columns := (EncodedMock.order header).map Prod.fst
  rows := rows.map fun row =>
    (EncodedMock.valuesAt ((EncodedMock.order header).map Prod.snd) row).map cell

/-- The statement of a mock gives back its table. -/
theorem relation_ofTable {header : List String} (h : IsHeader types header)
    (rows : List (List String))
    (unknown : known (String.ofList
      (trim (EncodedMock.ofTable types header rows).asRelation.toList)) = none) :
    relation known (EncodedMock.ofTable types header rows).asRelation.toList =
      .ok (tableOf header rows) := by
  by_cases empty : rows = []
  · subst empty
    obtain ⟨readable, nonempty⟩ := h.blank
    have text := trim_asRelation_of_nil h
    have literals : starOperand (trim (EncodedMock.ofTable types header []).asRelation.toList) =
        none := by
      rw [text]
      exact starOperand_eq_none types nonempty _
    rw [relation_eq_literalUnion unknown literals, text, literalUnion_emptyText readable nonempty]
    simp [blankFields, tableOf]
  · have table := h.table rows
    have nonempty : rows.map (fieldsOf header) ≠ [] := by simpa using empty
    have text := trim_asRelation h empty
    have literals : starOperand (trim (EncodedMock.ofTable types header rows).asRelation.toList) =
        none := by
      rw [text]
      exact starOperand_unionText table nonempty
    rw [relation_eq_literalUnion unknown literals, text, literalUnion_unionText table nonempty,
      List.map_map]
    simp only [Function.comp_def, cells_fieldsOf, tableOf]

/-- The statement of a mock is balanced. -/
theorem balanced_asRelation {header : List String} (h : IsHeader types header)
    (rows : List (List String)) :
    Balanced (EncodedMock.ofTable types header rows).asRelation.toList := by
  by_cases empty : rows = []
  · subst empty
    rw [asRelation_of_nil]
    have quiet : Separator.exceptDistinct.Quiet none (emptyText types (blankFields header)) [] :=
      quiet_emptyText h.blank.1 (by decide)
    exact quiet.balanced
  · have union : Separator.exceptDistinct.Quiet none
        (unionText types (rows.map (fieldsOf header))) [] := quiet_unionText (h.table rows)
    rw [asRelation_eq_sql header empty, toList_sql header empty]
    exact (balanced_of_plain (by decide)).append union.balanced

/-- The statement of a mock is no difference. -/
theorem quiet_trim_asRelation {header : List String} (h : IsHeader types header)
    (rows : List (List String)) : Separator.exceptDistinct.Quiet none
      (trim (EncodedMock.ofTable types header rows).asRelation.toList) [] := by
  by_cases empty : rows = []
  · subst empty
    rw [trim_asRelation_of_nil h]
    exact quiet_emptyText h.blank.1 (by decide)
  · rw [trim_asRelation h empty]
    exact quiet_unionText (h.table rows)

/-- A statement that is no difference is evaluated as a relation. -/
theorem evaluate_of_positions {sql : String}
    (none_ : Separator.exceptDistinct.positions (trim sql.toList) = []) :
    evaluate known sql = relation known sql.toList := by
  have split : Separator.exceptDistinct.split (trim sql.toList) = [trim sql.toList] := by
    rw [Separator.split, none_]
    rfl
  rw [evaluate]
  simp only [split]
  exact relation_congr (trim_trim _)

theorem evaluate_of_quiet {sql : String}
    (quiet : Separator.exceptDistinct.Quiet none (trim sql.toList) []) :
    evaluate known sql = relation known sql.toList :=
  evaluate_of_positions quiet.positions_eq_nil

theorem relation_of_known {sql : List Char} {result : QueryResult}
    (found : known (String.ofList (trim sql)) = some result) : relation known sql = .ok result := by
  rw [relation, found]

end ModelBench.Query
