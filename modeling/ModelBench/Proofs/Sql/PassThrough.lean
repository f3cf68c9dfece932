import ModelBench.Proofs.Sql.SingleMention

/-!
# Statements that pass a table through

A statement that selects everything from a table becomes one that selects everything from what is
put in the table's place, under the alias of the table or else its short name (`apply_passThrough`).
It mentions no name that the statement put in does not mention (`mentions_of_selectAll`).
-/

namespace ModelBench.Sql

open Text

variable {r : Replacement} {name label : List Char}

/-- What stands before the table in a selection of everything. -/
def selectAll : List Char := "SELECT * FROM ".toList

/-- The statement that selects everything from a table, under an alias if there is one. -/
def passThrough (table : String) : (alias? : Option String) → String
  | none => "SELECT * FROM " ++ table
  | some label => "SELECT * FROM " ++ table ++ " AS " ++ label

theorem toList_passThrough (table : String) (alias? : Option String) :
    (passThrough table alias?).toList = selectAll ++
      (table.toList ++ alias?.elim [] fun label => " AS ".toList ++ label.toList) := by
  cases alias? with
  | none =>
    rw [Option.elim, List.append_nil]
    exact String.toList_append
  | some label =>
    show ("SELECT * FROM " ++ table ++ " AS " ++ label).toList = _
    rw [String.toList_append, String.toList_append, String.toList_append, List.append_assoc,
      List.append_assoc]
    rfl

/-! ## Aliases -/

theorem tick_notMem_of_isName (h : isName label = true) : '\x60' ∉ label := fun tick =>
  absurd (isNameChar_of_isName h _ tick) (by decide)

/-- A name behind `AS` is an alias. -/
theorem aliasClause_as (h : isName label = true) :
    AliasClause label [] (" AS ".toList ++ label) := by
  have chars : ∀ c ∈ label, isAliasChar c = true := fun c hc =>
    (isAliasChar_iff c).2 (.inl (isNameChar_of_isName h c hc))
  have parts : " AS ".toList ++ label = [' '] ++ (['A', 'S'] ++ ([' '] ++ label)) := rfl
  rw [parts]
  exact .intro (by decide) (by decide) rfl (by decide) (by decide) (solid_of_name h).nonempty chars
    rfl rfl

/-! ## Mentions -/

theorem not_mentions_selectAll (ticked : IsTicked name) (rest : List Char)
    (short : rest.length < name.length) : ¬ Mentions name (selectAll ++ rest) := by
  intro h
  obtain ⟨word, eq, -, -⟩ := ticked.exists_word
  rw [Mentions, eq, List.map_append] at h
  have noTick : '\x60' ∉ selectAll.map foldCase := by
    rw [mem_map_foldCase (by decide)]
    decide
  have length := (infix_of_head_notMem h noTick).length_le
  rw [← eq, List.length_map, List.length_map] at length
  omega

/-- A selection of everything mentions what the statement in the place of the table mentions. -/
theorem mentions_of_selectAll (ticked : IsTicked name) (plain : '\x60' ∉ label)
    (h : Mentions name (selectAll ++ r.subquery label)) : Mentions name r.sql.toList := by
  rw [← List.append_nil (r.subquery label)] at h
  rcases mentions_around ticked plain h with front | inside | behind
  · rw [← List.append_nil selectAll] at front
    exact absurd front (not_mentions_selectAll ticked [] ticked.length_pos)
  · exact inside
  · exact absurd behind ticked.not_mentions_nil

/-! ## Replacing the table -/

/-- A table without an alias gets its short name. -/
theorem apply_bare (ticked : IsTicked r.fullName.toList) :
    r.apply (selectAll ++ r.fullName.toList) = selectAll ++ r.subquery r.shortName.toList := by
  have sole (i : Nat)
      (h : MentionedAt r.fullName.toList (selectAll ++ (r.fullName.toList ++ [])) i) :
      i = selectAll.length := by
    rw [List.append_nil] at h
    have fits := BeginsWith.length_le h
    rw [List.length_drop, List.length_append] at fits
    have positive := ticked.length_pos
    by_contra other
    -- before the table there is no backtick
    have inside : i < selectAll.length := by omega
    rw [MentionedAt, List.drop_append_of_le_length inside.le,
      List.drop_eq_getElem_cons inside] at h
    have noTick : '\x60' ∉ selectAll := by decide
    exact ticked.not_beginsWith (fun tick => noTick (tick ▸ List.getElem_mem inside)) _ h
  have whole : r.apply (selectAll ++ (r.fullName.toList ++ [])) =
      selectAll ++ (r.subquery r.shortName.toList ++ []) := apply_of_sole ticked rfl sole rfl
  rwa [List.append_nil, List.append_nil] at whole

/-- A table with an alias keeps it. -/
theorem apply_aliased (ticked : IsTicked r.fullName.toList) (name : isName label = true)
    (clean : ¬ Mentions r.fullName.toList r.sql.toList) :
    r.apply (selectAll ++ (r.fullName.toList ++ (" AS ".toList ++ label))) =
      selectAll ++ r.subquery label := by
  have first : ¬ Mentions r.fullName.toList (selectAll ++ r.fullName.toList.dropLast) := by
    refine not_mentions_selectAll ticked _ ?_
    rw [List.length_dropLast]
    exact Nat.sub_lt ticked.length_pos Nat.one_pos
  have whole := apply_of_aliasClause ticked clean rfl first ticked.not_mentions_nil
    (aliasClause_as name)
  rwa [List.append_nil, List.append_nil] at whole

/-- A statement that selects everything from a table becomes one that selects everything from what
is put in its place, under the alias of the table or else its short name. -/
theorem apply_passThrough {alias? : Option String} (ticked : IsTicked r.fullName.toList)
    (names : ∀ label ∈ alias?, isName label.toList = true)
    (clean : ¬ Mentions r.fullName.toList r.sql.toList) :
    r.apply (passThrough r.fullName alias?).toList =
      selectAll ++ r.subquery (alias?.getD r.shortName).toList := by
  rw [toList_passThrough]
  cases alias? with
  | none =>
    rw [Option.elim, List.append_nil]
    exact apply_bare ticked
  | some label => exact apply_aliased ticked (names label rfl) clean

end ModelBench.Sql
