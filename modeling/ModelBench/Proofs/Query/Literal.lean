import ModelBench.Query.Evaluation
import ModelBench.Proofs.Sql.Literal

/-!
# Evaluating literals

The expression of a value evaluates to the value's cell, whatever the value and the type
(`literal_expression`), and an entry to this cell under the name of its column (`entry_entryText`).
-/

namespace ModelBench.Query

open Text Sql

variable {text operand left right : List Char} {column value : String} {type? : Option String}

/-- The cell of a value: null if the value is empty, else its text. -/
def cell (value : String) : Json := if value.isEmpty then .null else .string value

/-- Whether a column keeps its name in a statement: it is a plain name, and none of some words in
any case of its letters. -/
structure IsColumn (words : List Separator) (name : String) : Prop where
  isName : isName name.toList = true
  differs : ∀ s ∈ words, lower name.toList ≠ lower s.text

instance (words : List Separator) (name : String) : Decidable (IsColumn words name) :=
  decidable_of_iff (Sql.isName name.toList = true ∧ ∀ s ∈ words, lower name.toList ≠ lower s.text)
    ⟨fun ⟨isName, differs⟩ => ⟨isName, differs⟩, fun ⟨isName, differs⟩ => ⟨isName, differs⟩⟩

theorem IsColumn.mono {words fewer : List Separator} {name : String} (h : IsColumn words name)
    (sub : fewer ⊆ words) : IsColumn fewer name :=
  ⟨h.isName, fun s hs => h.differs s (sub hs)⟩

theorem IsColumn.all_isNameChar {words : List Separator} {name : String}
    (h : IsColumn words name) : name.toList.all isNameChar = true := by
  have := h.isName
  rw [Sql.isName, Bool.and_eq_true] at this
  exact this.2

theorem quotedBody_quoted (body : List Char) :
    quotedBody '"' (quoted body) = some (escape body) := by
  show (if '"' = '"' ∧ (escape body ++ ['"']).getLast? = some '"' then
    some (escape body ++ ['"']).dropLast else none) = _
  rw [List.getLast?_concat, if_pos ⟨rfl, rfl⟩, List.dropLast_concat]

theorem plainLiteral_literalText (value : String) :
    plainLiteral (literalText value) = .ok (cell value) := by
  rw [literalText, cell]
  split_ifs with empty
  · rfl
  · have other : (quoted value.toList).map Char.toLower ≠ "null".toList := fun same => by
      have head := congrArg List.head? same
      cases head
    rw [plainLiteral, if_neg other, quotedBody_quoted]
    show Except.ok (Json.string (String.ofList (unescape (escape value.toList)))) = _
    rw [unescape_escape, String.ofList_toList]

theorem dropKeyword_cast_literalText (value : String) :
    dropKeyword "CAST".toList (literalText value) = none := by
  rw [literalText]
  split_ifs <;> rfl

theorem literal_literalText (value : String) : literal (literalText value) = .ok (cell value) := by
  rw [literal, dropKeyword_cast_literalText, if_neg (by simp), plainLiteral_literalText]

theorem literal_of_castOperand (h : castOperand text = some operand) :
    literal text = literal operand := by
  have cast : (dropKeyword "CAST".toList text).isSome := by
    cases found : dropKeyword "CAST".toList text with
    | none =>
      rw [castOperand, found] at h
      cases h
    | some rest => rfl
  rw [literal, if_pos cast]
  split
  · next found =>
    rw [h] at found
    rw [Option.some.inj found]
  · next found =>
    rw [h] at found
    cases found

theorem trim_gap (h : Solid text) (before : Blanks left) (after : Blanks right) :
    trim (left ++ (text ++ right)) = text := by
  rw [trim_pad before after, trim_of_solid h]

/-- The last `AS` at the top is the one with a quiet text on either side. -/
theorem cutLast_as {front back : List Char}
    (quiet : Separator.asWord.Quiet none front (" AS ".toList ++ back))
    (later : Separator.asWord.Quiet (some ' ') back []) :
    Separator.asWord.cutLast (front ++ (" AS ".toList ++ back)) =
      some (front ++ [' '], ' ' :: back) := by
  have known : Separator.asWord ∈ Separator.all := by decide
  have gap {before : Option Char} {after : List Char} :
      Separator.asWord.Quiet before [' '] after := Separator.quiet_gap known (by decide)
  have fits : Separator.asWord.Fits (lastOr none (front ++ [' '])) (' ' :: back) :=
    fun _ => ⟨by rw [lastOr_append]; rfl, rfl⟩
  have left :
      Separator.asWord.Quiet none (front ++ [' ']) (Separator.asWord.text ++ ' ' :: back) := by
    have front_ :
        Separator.asWord.Quiet none front ([' '] ++ (Separator.asWord.text ++ ' ' :: back)) := quiet
    exact front_.append gap
  have cut := Separator.cutLast_eq_some known left fits (gap.append later)
  rwa [List.append_assoc] at cut

theorem castOperand_expression {type : String} (isType : IsType type) :
    castOperand (expression value (some type)) = some (literalText value) := by
  have quiet {after : List Char} (ends : startsName after = false) :
      Separator.asWord.Quiet none (literalText value) after :=
    Separator.quiet_literal (by decide) ends
  have balanced : Balanced (literalText value ++ (" AS ".toList ++ type.toList)) :=
    (balanced_literalText value).append
      ((balanced_of_plain (by decide)).append isType.balanced)
  have cut := cutLast_as (quiet rfl) ⟨isType.balanced, isType.noAs.skips rfl⟩
  have operand : trim (literalText value ++ [' ']) = literalText value :=
    trim_gap (solid_expression value none) (by decide : Blanks []) (by decide)
  have parens (text : List Char) : Solid ('(' :: text ++ [')']) :=
    ⟨by simp, rfl, by rw [List.getLast?_concat]; rfl⟩
  have rest : dropKeyword "CAST".toList (expression value (some type)) =
      some ('(' :: (literalText value ++ (" AS ".toList ++ type.toList)) ++ [')']) :=
    dropKeyword_self rfl
  rw [castOperand, rest, Option.bind_eq_bind, Option.bind_some, trim_of_solid (parens _),
    enclosed_of_balanced balanced]
  simp only [Option.bind_eq_bind, Option.bind_some, cut, operand, Option.pure_def]

/-- The expression of a value evaluates to its cell. -/
theorem literal_expression (types : ∀ type ∈ type?, IsType type) :
    literal (expression value type?) = .ok (cell value) := by
  cases type? with
  | none => exact literal_literalText value
  | some type =>
    rw [literal_of_castOperand (castOperand_expression (types type rfl)), literal_literalText]

/-! ## Entries -/

theorem unquoteName_name (name : text.all isNameChar = true) :
    unquoteName text = String.ofList text := by
  have bare : ∀ c ∈ text, (c == '\x60') = false := fun c hc => by
    have := List.all_eq_true.1 name c hc
    rw [beq_eq_false_iff_ne]
    rintro rfl
    cases this
  have head : (text.head?.any (· == '\x60')) = false :=
    (Option.any_eq_false _ _).2 fun c hc => bare c (List.mem_of_head? hc)
  have last : (text.reverse.head?.any (· == '\x60')) = false :=
    (Option.any_eq_false _ _).2 fun c hc => bare c (List.mem_reverse.1 (List.mem_of_head? hc))
  rw [unquoteName, dropWhile_of_head head, dropWhile_of_head last, List.reverse_reverse]

/-- An entry gives the cell of its value under the name of its column. -/
theorem entry_entryText (index : Nat) (types : ∀ type ∈ type?, IsType type)
    (isColumn : IsColumn [.asWord] column) (before : Blanks left) (after : Blanks right) :
    entry index (left ++ (entryText column value type? ++ right)) = .ok (column, cell value) := by
  have name := isColumn.all_isNameChar
  have free : Separator.asWord.Clear column.toList [] :=
    Separator.clear_of_ne (isColumn.differs _ List.mem_cons_self)
  have cut := cutLast_as (Separator.quiet_expression (by decide) value types rfl)
    (Separator.quiet_word (by decide) name rfl free)
  have expression_ : trim (expression value type? ++ [' ']) = expression value type? :=
    trim_gap (solid_expression value type?) (by decide : Blanks []) (by decide)
  have column_ : trim (' ' :: column.toList) = column.toList := by
    have := trim_gap (solid_of_name isColumn.isName) (by decide : Blanks [' '])
      (by decide : Blanks [])
    rwa [List.append_nil] at this
  rw [entry, trim_gap (solid_entryText isColumn.isName) before after, entryText, cut]
  simp only [expression_, column_, unquoteName_name name, literal_expression types,
    String.ofList_toList]
  rfl

end ModelBench.Query
