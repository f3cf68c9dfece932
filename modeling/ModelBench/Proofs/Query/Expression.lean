import ModelBench.Proofs.Query.Literal
import ModelBench.Proofs.Query.Number
import ModelBench.Proofs.Sql.Cut
import Mathlib.Logic.Relation

/-!
# Expressions that are taken for literals

A conversion is an operand, `AS` and a type in parentheses behind `CAST` (`castOperand_eq_some_iff`).
What is left without the conversions around it is a literal if it is null, a quoted text or a decimal
number (`Literal`). Two kinds of expressions are taken for literals without being any (`Mistaken`):
those that only start and end with the same quote, and the names for what is no finite number. All
others are refused as unsupported (`literal_accepts_exactly`).
-/

namespace ModelBench.Query

open Text Sql

variable {text operand plain body rest : List Char} {value : Json} {q : Char}

/-! ## Conversions -/

/-- Whether a text converts an operand: the word `CAST`, and between parentheses that enclose the
rest, the operand, the last `AS` at the top, and a type. -/
inductive Converts : (text operand : List Char) → Prop
  | cast {word gap before found type after : List Char} (isCast : lower word = lower "CAST".toList)
      (blank : Blanks gap ∧ Blanks after) (isAs : lower found = lower "AS".toList)
      (isOperand : Balanced before) (fits : Separator.asWord.Fits (lastOr none before) type)
      (isType : Separator.asWord.Quiet (lastOr (lastOr none before) found) type []) :
      Converts (word ++ (gap ++ (('(' :: (before ++ (found ++ type)) ++ [')']) ++ after)))
        (trim before)

/-- Whether a text is what is left of another one without some of the conversions around it. -/
def Strips (text plain : List Char) : Prop := Relation.ReflTransGen Converts text plain

theorem castOperand_eq_some_iff : castOperand text = some operand ↔ Converts text operand := by
  have known : Separator.asWord ∈ Separator.all := by decide
  constructor
  · intro h
    simp only [castOperand, Option.bind_eq_bind, Option.bind_eq_some_iff, Option.pure_def,
      Option.some.injEq, Prod.exists] at h
    obtain ⟨rest, isCast, inside, isInside, before, type, isCut, rfl⟩ := h
    obtain ⟨word, rfl, isCast, -⟩ := dropKeyword_eq_some_iff.1 isCast
    obtain ⟨gap, after, gap_blank, after_blank, eq⟩ := exists_pad rest
    obtain ⟨balanced, trimmed⟩ := enclosed_eq_some_iff.1 isInside
    obtain ⟨found, rfl, isAs, fits, ends, later⟩ := (Separator.cutLast_eq_some_iff known).1 isCut
    obtain ⟨isOperand, behind⟩ := balanced.of_append ends
    have isType := (behind.of_append (balanced_of_plain (Separator.plain_of_lower known isAs)).ends).2
    rw [eq, trimmed]
    exact .cast isCast ⟨gap_blank, after_blank⟩ isAs isOperand fits ⟨isType, later⟩
  · rintro ⟨isCast, ⟨gap_blank, after_blank⟩, isAs, isOperand, fits, isType⟩
    rename_i word gap before found type after
    have plain := balanced_of_plain (Separator.plain_of_lower known isAs)
    have balanced : Balanced (before ++ (found ++ type)) :=
      isOperand.append (plain.append isType.balanced)
    have solid : Solid ('(' :: (before ++ (found ++ type)) ++ [')']) :=
      ⟨by simp, rfl, by rw [List.getLast?_concat]; rfl⟩
    have stop : startsName (gap ++ (('(' :: (before ++ (found ++ type)) ++ [')']) ++ after)) =
        false := by
      cases gap with
      | nil => rfl
      | cons c gap =>
        have blank : isBlank c = true := gap_blank c List.mem_cons_self
        show isNameChar c = false
        rw [← Bool.not_eq_true]
        intro name
        rw [isBlank_of_isNameChar name] at blank
        cases blank
    have isRest := dropKeyword_eq_some_iff.2 ⟨word, rfl, isCast, stop⟩
    have isCut := (Separator.cutLast_eq_some_iff known).2
      ⟨found, rfl, isAs, fits, isOperand.ends, isType.skips⟩
    rw [castOperand, isRest, Option.bind_eq_bind, Option.bind_some,
      trim_gap solid gap_blank after_blank, enclosed_of_balanced balanced]
    simp only [Option.bind_eq_bind, Option.bind_some, isCut, Option.pure_def]

/-! ## Literals -/

/-- The quotes that texts stand in. -/
def textQuotes : List Char := ['"', '\'']

/-- Whether a text can stand between two quotes of a kind: a backslash takes the next character with
it, and outside of that the quote does not occur. -/
inductive IsBody (q : Char) : List Char → Prop
  | nil : IsBody q []
  | plain {c : Char} {rest : List Char} (other : c ≠ q) (bare : c ≠ '\\')
      (behind : IsBody q rest) : IsBody q (c :: rest)
  | escaped {c : Char} {rest : List Char} (behind : IsBody q rest) : IsBody q ('\\' :: c :: rest)

/-- Whether an expression is a literal, and the cell it stands for. -/
inductive Literal : List Char → Json → Prop
  | null {text : List Char} (isNull : lower text = "null".toList) : Literal text .null
  | quoted {q : Char} {body : List Char} (isQuote : q ∈ textQuotes) (isBody : IsBody q body) :
      Literal (q :: body ++ [q]) (.string (String.ofList (unescape body)))
  | number {text : List Char} (isDecimal : IsDecimal text) :
      Literal text (.string (String.ofList text))

/-- Whether an expression is taken for a literal without being one, and the cell it is given: it
starts and ends with the same quote and is no quoted text, or it names what is no finite number. -/
inductive Mistaken : List Char → Json → Prop
  | quoted {q : Char} {body : List Char} (isQuote : q ∈ textQuotes) (noBody : ¬ IsBody q body) :
      Mistaken (q :: body ++ [q]) (.string (String.ofList (unescape body)))
  | notFinite {text : List Char} (named : IsNotFinite text) :
      Mistaken text (.string (String.ofList text))

theorem quotedBody_eq_some_iff : quotedBody q text = some body ↔ text = q :: body ++ [q] := by
  constructor
  · intro h
    cases text with
    | nil => cases h
    | cons c rest =>
      rw [quotedBody] at h
      split_ifs at h with quotes
      obtain ⟨rfl, last⟩ := quotes
      obtain ⟨front, rfl⟩ := List.getLast?_eq_some_iff.1 last
      rw [List.dropLast_concat, Option.some.injEq] at h
      rw [h, List.cons_append]
  · rintro rfl
    rw [List.cons_append, quotedBody, List.getLast?_concat, if_pos ⟨rfl, rfl⟩, List.dropLast_concat]

theorem quotedBody_of_head {c : Char} (other : c ≠ q) : quotedBody q (c :: rest) = none :=
  if_neg fun quotes => other quotes.1

theorem plainLiteral_null (isNull : lower text = "null".toList) : plainLiteral text = .ok .null :=
  if_pos isNull

/-- Whatever stands between two equal quotes, it is taken for a text. -/
theorem plainLiteral_quoted (isQuote : q ∈ textQuotes) (body : List Char) :
    plainLiteral (q :: body ++ [q]) = .ok (.string (String.ofList (unescape body))) := by
  have found := quotedBody_eq_some_iff.2 (rfl : q :: body ++ [q] = q :: body ++ [q])
  have head : (q :: body ++ [q]).map Char.toLower ≠ "null".toList := fun same => by
    have first := (List.cons.inj same).1
    simp only [textQuotes, List.mem_cons, List.not_mem_nil, or_false] at isQuote
    rcases isQuote with rfl | rfl
    · cases first
    · cases first
  rw [plainLiteral, if_neg head]
  simp only [textQuotes, List.mem_cons, List.not_mem_nil, or_false] at isQuote
  rcases isQuote with rfl | rfl
  · rw [found]
    rfl
  · have other : quotedBody '"' ('\'' :: body ++ ['\'']) = none := quotedBody_of_head (by decide)
    rw [other, found]
    rfl

theorem plainLiteral_number (number : isNumber text = true) :
    plainLiteral text = .ok (.string (String.ofList text)) := by
  cases text with
  | nil => cases number
  | cons c rest =>
    have first := first_of_isNumber number
    have bare : ∀ q ∈ textQuotes, c ≠ q := by
      rintro _ isQuote rfl
      simp only [textQuotes, List.mem_cons, List.not_mem_nil, or_false] at isQuote
      rcases isQuote with rfl | rfl
      · simp [isSignChar, Char.isDigit, notFinite] at first
      · simp [isSignChar, Char.isDigit, notFinite] at first
    have other : (c :: rest).map Char.toLower ≠ "null".toList := fun isNull => by
      have named : lower (c :: rest) ∈ notFinite :=
        named_of_isNumber number (List.cons.inj isNull).1 (by decide)
      rw [show lower (c :: rest) = _ from isNull] at named
      revert named
      decide
    rw [plainLiteral, if_neg other, quotedBody_of_head (bare _ (by decide)),
      quotedBody_of_head (bare _ (by decide))]
    exact if_pos number

/-- What is taken for a literal is one, or it is mistaken for one. -/
theorem plainLiteral_eq_ok_iff :
    plainLiteral text = .ok value ↔ Literal text value ∨ Mistaken text value := by
  constructor
  · intro h
    by_cases isNull : text.map Char.toLower = "null".toList
    · rw [plainLiteral_null isNull] at h
      cases h
      exact .inl (.null isNull)
    · rw [plainLiteral, if_neg isNull] at h
      split at h
      · next body found =>
        cases h
        have quoted : ∃ q ∈ textQuotes, text = q :: body ++ [q] := by
          cases first : quotedBody '"' text with
          | some body' =>
            rw [first] at found
            cases found
            exact ⟨'"', by decide, quotedBody_eq_some_iff.1 first⟩
          | none =>
            rw [first] at found
            exact ⟨'\'', by decide, quotedBody_eq_some_iff.1 found⟩
        obtain ⟨q, isQuote, rfl⟩ := quoted
        by_cases isBody : IsBody q body
        · exact .inl (.quoted isQuote isBody)
        · exact .inr (.quoted isQuote isBody)
      · split_ifs at h with number
        cases h
        rcases isNumber_iff.1 number with decimal | named
        · exact .inl (.number decimal)
        · exact .inr (.notFinite named)
  · rintro (isLiteral | isMistaken)
    · cases isLiteral with
      | null isNull => exact plainLiteral_null isNull
      | quoted isQuote isBody => exact plainLiteral_quoted isQuote _
      | number decimal => exact plainLiteral_number (isNumber_iff.2 (.inl decimal))
    · cases isMistaken with
      | quoted isQuote noBody => exact plainLiteral_quoted isQuote _
      | notFinite named => exact plainLiteral_number (isNumber_iff.2 (.inr named))

theorem unsupported_of_plainLiteral {e : QueryError} (h : plainLiteral text = .error e) :
    ∃ reason, e = .unsupported reason := by
  rw [plainLiteral] at h
  split at h
  · cases h
  · split at h
    · cases h
    · split at h
      · cases h
      · cases h
        exact ⟨_, rfl⟩

/-! ## Expressions -/

/-- No literal, and nothing that is taken for one, starts with the word for a conversion. -/
theorem dropKeyword_cast_of_ok (h : plainLiteral text = .ok value) :
    dropKeyword "CAST".toList text = none := by
  rw [Option.eq_none_iff_forall_ne_some]
  rintro rest found
  obtain ⟨word, rfl, isCast, -⟩ := dropKeyword_eq_some_iff.1 found
  cases word with
  | nil => cases isCast
  | cons c word =>
    have first : c.toLower = 'c' := (List.cons.inj isCast).1
    have noNumber : isNumber (c :: word ++ rest) ≠ true := fun number => by
      have named := named_of_isNumber number first (by decide)
      rw [lower_cons, first] at named
      simp [notFinite] at named
    have noQuote : c ∉ textQuotes := by
      simp only [textQuotes, List.mem_cons, List.not_mem_nil, or_false, not_or]
      constructor
      · rintro rfl
        cases first
      · rintro rfl
        cases first
    generalize eq : c :: word ++ rest = text at h noNumber
    have head : text.head? = some c := by rw [← eq]; rfl
    rcases plainLiteral_eq_ok_iff.1 h with isLiteral | isMistaken
    · cases isLiteral with
      | null isNull =>
        rw [← eq, List.cons_append, lower_cons, first] at isNull
        cases isNull
      | quoted isQuote => exact noQuote (Option.some.inj head ▸ isQuote)
      | number decimal => exact noNumber (isNumber_iff.2 (.inl decimal))
    · cases isMistaken with
      | quoted isQuote => exact noQuote (Option.some.inj head ▸ isQuote)
      | notFinite named => exact noNumber (isNumber_iff.2 (.inr named))

theorem literal_eq_plainLiteral (bare : dropKeyword "CAST".toList text = none) :
    literal text = plainLiteral text := by
  rw [literal, bare, if_neg (by simp)]

/-- Taking a conversion off changes nothing. -/
theorem literal_of_strips (h : Strips text plain) : literal text = literal plain := by
  induction h using Relation.ReflTransGen.head_induction_on with
  | refl => rfl
  | head converts _ ih => rw [literal_of_castOperand (castOperand_eq_some_iff.2 converts), ih]

/-- An expression is without the conversions around it what is taken for a literal, or it is refused
as unsupported. -/
theorem literal_cases (text : List Char) :
    (∃ plain value, Strips text plain ∧ plainLiteral plain = .ok value) ∨
      ∃ reason, literal text = .error (.unsupported reason) := by
  rw [literal]
  split_ifs with isCast
  · split
    · next operand found =>
      have shorter := castOperand_length found
      rcases literal_cases operand with ⟨plain, value, strips, accepted⟩ | refused
      · exact .inl ⟨plain, value, strips.head (castOperand_eq_some_iff.1 found), accepted⟩
      · exact .inr refused
    · exact .inr ⟨_, rfl⟩
  · cases accepted : plainLiteral text with
    | ok value => exact .inl ⟨text, value, .refl, accepted⟩
    | error e =>
      obtain ⟨reason, rfl⟩ := unsupported_of_plainLiteral accepted
      exact .inr ⟨reason, rfl⟩
  termination_by text.length

/-- An expression has a cell exactly if it is, without the conversions around it, a literal or what
is mistaken for one. Every other expression is refused as unsupported. -/
theorem literal_accepts_exactly (text : List Char) :
    (∀ value, literal text = .ok value ↔
      ∃ plain, Strips text plain ∧ (Literal plain value ∨ Mistaken plain value)) ∧
    ((∃ value, literal text = .ok value) ∨ ∃ reason, literal text = .error (.unsupported reason)) := by
  have accepted {plain : List Char} {value : Json} (h : plainLiteral plain = .ok value) :
      literal plain = .ok value := by
    rw [literal_eq_plainLiteral (dropKeyword_cast_of_ok h), h]
  constructor
  · intro value
    constructor
    · intro h
      rcases literal_cases text with ⟨plain, found, strips, isPlain⟩ | ⟨reason, refused⟩
      · rw [literal_of_strips strips, accepted isPlain] at h
        cases h
        exact ⟨plain, strips, plainLiteral_eq_ok_iff.1 isPlain⟩
      · rw [refused] at h
        cases h
    · rintro ⟨plain, strips, forms⟩
      rw [literal_of_strips strips, accepted (plainLiteral_eq_ok_iff.2 forms)]
  · rcases literal_cases text with ⟨plain, value, strips, isPlain⟩ | refused
    · exact .inl ⟨value, by rw [literal_of_strips strips, accepted isPlain]⟩
    · exact .inr refused

/-- Two texts and an operator between them. -/
def joinedTexts : List Char := "\"a\" || \"b\"".toList

/-- Not every expression with a cell is a literal: two texts with an operator between them are taken
for one text. -/
theorem not_forall_isLiteral : ¬ ∀ (text : List Char) (value : Json), trim text = text →
    literal text = .ok value → ∃ plain, Strips text plain ∧ ∃ cell, Literal plain cell := by
  intro all
  have isJoined : joinedTexts = '"' :: "a\" || \"b".toList ++ ['"'] := by decide
  have bare : castOperand joinedTexts = none := by decide
  have accepted := plainLiteral_quoted (q := '"') (by decide) "a\" || \"b".toList
  rw [← isJoined, ← literal_eq_plainLiteral (by decide)] at accepted
  obtain ⟨plain, strips, cell, isLiteral⟩ := all joinedTexts _ (by decide) accepted
  rcases strips.cases_head with rfl | ⟨operand, converts, -⟩
  · generalize eq : joinedTexts = text at isLiteral
    cases isLiteral with
    | null isNull =>
      rw [← eq] at isNull
      revert isNull
      decide
    | number isDecimal =>
      have number := isNumber_iff.2 (.inl isDecimal)
      rw [← eq] at number
      revert number
      decide
    | @quoted q body isQuote isBody =>
      obtain ⟨rfl, rest⟩ := List.cons.inj (isJoined.symm.trans eq)
      rw [← List.append_cancel_right rest] at isBody
      cases isBody with
      | plain _ _ behind =>
        cases behind with
        | plain other => exact other rfl
  · rw [castOperand_eq_some_iff.2 converts] at bare
    cases bare

end ModelBench.Query
