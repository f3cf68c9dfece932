import ModelBench.Proofs.Sql.Separator

/-!
# Entries of selections

An entry is an expression under a column's name, and the expression a literal that may be
converted to a type. No separator stands in an expression at the top, whatever the value
(`quiet_expression`), and the only one in an entry is the `AS` before the name of the column.
-/

namespace ModelBench.Sql

variable {s : Separator} {before : Option Char} {after : List Char} {column value : String}
  {type? : Option String}

theorem unescape_escape (value : List Char) : unescape (escape value) = value := by
  induction value with
  | nil => rfl
  | cons c rest ih =>
    rw [escape]
    split_ifs with special
    · rw [unescape, ih]
    · rw [not_or] at special
      rw [unescape, ih]
      · intro eq _
        exact special.2 eq
      · intro _ _ eq _
        exact special.2 eq

theorem escape_eq_self {text : List Char} (plain : ∀ c ∈ text, ¬ (c = '"' ∨ c = '\\')) :
    escape text = text := by
  induction text with
  | nil => rfl
  | cons c rest ih =>
    rw [List.forall_mem_cons] at plain
    rw [escape, if_neg plain.1, ih plain.2]

/-- A value is escaped the same whether or not it is looked through first. -/
theorem toList_escapeLiteral (value : String) :
    (escapeLiteral value).toList = escape value.toList := by
  rw [escapeLiteral]
  split_ifs with special
  · exact String.toList_ofList
  · refine (escape_eq_self fun c member marked => special ?_).symm
    exact List.any_eq_true.2 ⟨c, member, by simpa using marked⟩

/-- The text of a value's literal. -/
def literalText (value : String) : List Char :=
  if value.isEmpty then "null".toList else quoted value.toList

theorem toList_renderLiteral (value : String) :
    (renderLiteral value).toList = literalText value := by
  rw [renderLiteral, literalText]
  split_ifs
  · rfl
  · simp [quoted, toList_escapeLiteral]

theorem balanced_literalText (value : String) : Balanced (literalText value) := by
  rw [literalText]
  split_ifs
  · exact balanced_of_plain (by decide)
  · exact balanced_quoted value.toList

/-- The text of a value's literal, converted if there is a type. -/
def expression (value : String) : Option String → List Char
  | none => literalText value
  | some type =>
    "CAST".toList ++ ('(' :: (literalText value ++ (" AS ".toList ++ type.toList)) ++ [')'])

/-- The text of an entry. -/
def entryText (column value : String) (type? : Option String) : List Char :=
  expression value type? ++ (" AS ".toList ++ column.toList)

theorem toList_renderEntry (column value : String) (type? : Option String) :
    (renderEntry column value type?).toList = entryText column value type? := by
  cases type? with
  | none => simp [renderEntry, entryText, expression, toList_renderLiteral, toString]
  | some type => simp [renderEntry, entryText, expression, toList_renderLiteral, toString]

/-- Whether a text can stand as a type: it is balanced, and the word `AS` stands nowhere in it. -/
structure IsType (type : String) : Prop where
  balanced : Balanced type.toList
  noAs : Separator.asWord.Absent type.toList

instance (type : String) : Decidable (IsType type) :=
  decidable_of_iff (Balanced type.toList ∧ Separator.asWord.Absent type.toList)
    ⟨fun ⟨balanced, noAs⟩ => ⟨balanced, noAs⟩, fun ⟨balanced, noAs⟩ => ⟨balanced, noAs⟩⟩

namespace Separator

variable (known : s ∈ all)

include known

theorem quiet_literal (ends : startsName after = false) :
    s.Quiet before (literalText value) after := by
  rw [literalText]
  split_ifs
  · have other : ∀ s ∈ all, lower "null".toList ≠ lower s.key := by decide
    exact quiet_word known (by decide) ends (clear_of_ne (other s known))
  · exact quiet_quoted known

theorem quiet_as (other : s ≠ asWord) : s.Quiet before " AS ".toList after := by
  have free : ∀ s ∈ all, s ≠ asWord → lower "AS".toList ≠ lower s.key := by decide
  have word : s.Quiet (some ' ') "AS".toList (" ".toList ++ after) :=
    quiet_word known (by decide) rfl (clear_of_ne (free s known other))
  have gap {before : Option Char} {after : List Char} : s.Quiet before " ".toList after :=
    quiet_gap known (by decide)
  exact gap.append (word.append gap)

/-- No separator stands in an expression at the top. -/
theorem quiet_expression (value : String) (types : ∀ type ∈ type?, IsType type)
    (ends : startsName after = false) : s.Quiet before (expression value type?) after := by
  cases type? with
  | none => exact quiet_literal known ends
  | some type =>
    have other : ∀ s ∈ all, lower "CAST".toList ≠ lower s.key := by decide
    have gap : Balanced " AS ".toList := balanced_of_plain (by decide)
    have inside : Balanced (literalText value ++ (" AS ".toList ++ type.toList)) :=
      (balanced_literalText value).append (gap.append (types type rfl).balanced)
    exact (quiet_word known (by decide) rfl (clear_of_ne (other s known))).append
      (quiet_parens known inside)

/-- The only separator in an entry is the one before the name of the column. -/
theorem quiet_entry (other : s ≠ asWord) (types : ∀ type ∈ type?, IsType type)
    (name : column.toList.all isNameChar = true) (ends : startsName after = false)
    (clear : s.Clear column.toList after) :
    s.Quiet before (entryText column value type?) after :=
  (quiet_expression known value types rfl).append
    ((quiet_as known other).append (quiet_word known name ends clear))

end Separator

/-! ## The ends of expressions -/

theorem head_expression (value : String) (type? : Option String) :
    ∃ c ∈ ['n', '"', 'C'], (expression value type?).head? = some c := by
  cases type? with
  | none =>
    rw [expression, literalText]
    split_ifs
    · exact ⟨'n', by decide, rfl⟩
    · exact ⟨'"', by decide, rfl⟩
  | some type => exact ⟨'C', by decide, rfl⟩

theorem last_expression (value : String) (type? : Option String) :
    ∃ c ∈ ['l', '"', ')'], (expression value type?).getLast? = some c := by
  cases type? with
  | none =>
    rw [expression, literalText]
    split_ifs
    · exact ⟨'l', by decide, rfl⟩
    · exact ⟨'"', by decide, List.getLast?_concat⟩
  | some type =>
    rw [expression, ← List.append_assoc]
    exact ⟨')', by decide, List.getLast?_concat⟩

theorem solid_expression (value : String) (type? : Option String) :
    Text.Solid (expression value type?) := by
  obtain ⟨c, first, head⟩ := head_expression value type?
  obtain ⟨d, end_, last⟩ := last_expression value type?
  have edges : ∀ c ∈ ['n', '"', 'C'] ++ ['l', '"', ')'], Text.isBlank c = false := by
    simp only [List.cons_append, List.forall_mem_cons, List.nil_append]
    exact ⟨rfl, rfl, rfl, rfl, rfl, rfl, List.forall_mem_nil _⟩
  refine ⟨List.ne_nil_of_mem (List.mem_of_head? head), ?_, ?_⟩
  · rw [head]
    exact edges c (List.mem_append_left _ first)
  · rw [last]
    exact edges d (List.mem_append_right _ end_)

theorem solid_entryText (name : isName column.toList = true) :
    Text.Solid (entryText column value type?) :=
  (solid_expression value type?).around (solid_of_name name) _

end ModelBench.Sql
