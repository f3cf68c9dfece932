import ModelBench.Proofs.Sql.SingleMention

/-!
# Mentions with an explicit alias

A mention keeps an alias that is a plain name. An alias in backticks is not seen: the mention gets
the short name of its table, and what gave it its alias is left behind that as a second one
(`substitute_explicitAlias`). So explicit aliases are not always kept (`not_forall_keepsAlias`).
-/

namespace ModelBench.Sql

open Text

/-- A text with a mention of a name under an explicit alias, in its parts. The name does not stand
before the mention or behind its alias, and the alias ends together with the text or the word. -/
structure AliasedText (name : List Char) where
  before : List Char
  mention : List Char
  gap : List Char
  keyword : List Char
  space : List Char
  label : List Char
  after : List Char
  mention_same : mention.map foldCase = name.map foldCase
  gap_ne : gap ≠ []
  gap_blank : Blanks gap
  keyword_as : keyword.map foldCase = ['a', 's']
  space_ne : space ≠ []
  space_blank : Blanks space
  word_ends : after.head?.any isWord = false
  before_clean : ¬ Mentions name before
  after_clean : ¬ Mentions name after

namespace AliasedText

variable {name : List Char}

/-- What gives the mention its alias. -/
def clause (t : AliasedText name) : List Char := t.gap ++ (t.keyword ++ (t.space ++ t.label))

/-- The whole text. -/
def text (t : AliasedText name) : List Char := t.before ++ (t.mention ++ (t.clause ++ t.after))

/-- The text with the statement of a replacement in the place of the mention. -/
def kept (t : AliasedText name) (r : Replacement) : List Char :=
  t.before ++ (r.subquery t.label ++ t.after)

/-- The text with the statement and a second alias in the place of the mention. -/
def doubled (t : AliasedText name) (r : Replacement) : List Char :=
  t.before ++ (r.subquery r.shortName.toList ++ (t.clause ++ t.after))

end AliasedText

/-- Whether an alias is a name in backticks. -/
def IsQuotedName (label : List Char) : Prop :=
  ∃ body, body ≠ [] ∧ '\x60' ∉ body ∧ label = '\x60' :: (body ++ ['\x60'])

variable {name : List Char} {r : Replacement}

theorem AliasedText.aliasClause (t : AliasedText name) (plain : isName t.label = true) :
    AliasClause t.label t.after t.clause := by
  have chars : ∀ c ∈ t.label, isAliasChar c = true := fun c hc =>
    (isAliasChar_iff c).2 (.inl (isNameChar_of_isName plain c hc))
  have run_ends : t.after.head?.any isAliasChar = false := by
    refine (Option.any_eq_false _ _).2 fun c hc => ?_
    have word := (Option.any_eq_false _ _).1 t.word_ends c hc
    by_contra run
    rw [isWord_of_isAliasChar (by simpa using run)] at word
    cases word
  exact .intro t.gap_ne t.gap_blank t.keyword_as t.space_ne t.space_blank
    (solid_of_name plain).nonempty chars run_ends t.word_ends

/-- No alias is seen in a clause whose alias stands in backticks. -/
theorem AliasedText.aliasAfter_eq_none (t : AliasedText name) (quoted : IsQuotedName t.label) :
    aliasAfter (t.clause ++ t.after) = none := by
  obtain ⟨body, -, -, label_eq⟩ := quoted
  obtain ⟨keyword_ne, keyword_solid⟩ := isBlank_of_keyword t.keyword_as
  have text_eq : t.clause ++ t.after = t.gap ++ (t.keyword ++ (t.space ++ ('\x60' ::
      (body ++ ['\x60'] ++ t.after)))) := by
    rw [AliasedText.clause, label_eq]
    simp only [List.append_assoc, List.cons_append]
  have afterGap (rest : List Char) : (t.keyword ++ rest).head?.any isBlank = false :=
    head_any_append keyword_ne keyword_solid
  have afterSpace (rest : List Char) : ('\x60' :: rest).head?.any isBlank = false := by
    show isBlank '\x60' = false
    decide
  have drop (rest : List Char) : dropFold ['a', 's'] (t.keyword ++ rest) = some rest :=
    dropFold_eq_some_iff.2 ⟨t.keyword, rfl, t.keyword_as⟩
  have noRun (rest : List Char) : ('\x60' :: rest).takeWhile isAliasChar = [] :=
    List.takeWhile_cons_of_neg (by decide +kernel)
  rw [text_eq]
  simp only [aliasAfter, dropWhile_append_of_stop t.gap_blank (afterGap _), drop,
    dropWhile_append_of_stop t.space_blank (afterSpace _), noRun]
  simp

/-- What a replacement makes of a text with a mention under an explicit alias. A plain name is kept
as the only alias, if the name that is replaced does not begin before the mention. Otherwise, if the
mention is the only one, it gets the short name, and its clause stays behind that. -/
theorem substitute_explicitAlias (r : Replacement) (t : AliasedText r.fullName.toList)
    (ticked : IsTicked r.fullName.toList) (clean : ¬ Mentions r.fullName.toList r.sql.toList) :
    (isName t.label = true →
      ¬ Mentions r.fullName.toList (t.before ++ t.mention.dropLast) →
      substitute (String.ofList t.text) r = .ok (String.ofList (t.kept r))) ∧
    (IsQuotedName t.label →
      (∀ i, MentionedAt r.fullName.toList t.text i → i = t.before.length) →
      substitute (String.ofList t.text) r = .ok (String.ofList (t.doubled r))) := by
  have named := ticked.fullName_ne_empty
  constructor
  · intro plain first
    rw [substitute_of_named named, String.toList_ofList, AliasedText.text,
      apply_of_aliasClause ticked clean t.mention_same first t.after_clean (t.aliasClause plain),
      AliasedText.kept]
  · intro quoted sole
    rw [substitute_of_named named, String.toList_ofList, AliasedText.text,
      apply_of_sole ticked t.mention_same sole (t.aliasAfter_eq_none quoted), AliasedText.doubled]

/-! ## Examples -/

/-- A table that is replaced in the examples. -/
def plainOrders : Replacement := ⟨"`p`.`d`.`orders`", "SELECT 1 AS v", "orders"⟩

/-- A selection from the table, with its alias on the next line. -/
def aliasedOrders (label : List Char) : AliasedText plainOrders.fullName.toList where
  before := "SELECT v FROM ".toList
  mention := "`p`.`d`.`orders`".toList
  gap := ['\n', ' ']
  keyword := ['A', 's']
  space := [' ']
  label := label
  after := " WHERE v = 1".toList
  mention_same := rfl
  gap_ne := by decide
  gap_blank := by decide
  keyword_as := by decide
  space_ne := by decide
  space_blank := by decide
  word_ends := by decide +kernel
  before_clean := by decide +kernel
  after_clean := by decide +kernel

theorem isQuotedName_o : IsQuotedName "`o`".toList := ⟨['o'], by decide, by decide, rfl⟩

/-- A plain alias and one in backticks. -/
theorem substitute_aliasedOrders :
    IsTicked plainOrders.fullName.toList ∧
      ¬ Mentions plainOrders.fullName.toList plainOrders.sql.toList ∧
      (isName (aliasedOrders ['o']).label = true ∧
        ¬ Mentions plainOrders.fullName.toList
          ((aliasedOrders ['o']).before ++ (aliasedOrders ['o']).mention.dropLast) ∧
        substitute (String.ofList (aliasedOrders ['o']).text) plainOrders =
          .ok "SELECT v FROM (SELECT 1 AS v) AS o WHERE v = 1") ∧
      IsQuotedName (aliasedOrders "`o`".toList).label ∧
      (∀ i, MentionedAt plainOrders.fullName.toList (aliasedOrders "`o`".toList).text i →
        i = (aliasedOrders "`o`".toList).before.length) ∧
      substitute (String.ofList (aliasedOrders "`o`".toList).text) plainOrders =
        .ok "SELECT v FROM (SELECT 1 AS v) AS orders\n As `o` WHERE v = 1" := by
  have ticked : IsTicked plainOrders.fullName.toList := by decide +kernel
  have clean : ¬ Mentions plainOrders.fullName.toList plainOrders.sql.toList := by decide +kernel
  have name : isName (aliasedOrders ['o']).label = true := by decide
  have first : ¬ Mentions plainOrders.fullName.toList
      ((aliasedOrders ['o']).before ++ (aliasedOrders ['o']).mention.dropLast) := by
    decide +kernel
  have sole (i : Nat)
      (h : MentionedAt plainOrders.fullName.toList (aliasedOrders "`o`".toList).text i) :
      i = (aliasedOrders "`o`".toList).before.length := by
    have places : ∀ i < (aliasedOrders "`o`".toList).text.length,
        MentionedAt plainOrders.fullName.toList (aliasedOrders "`o`".toList).text i →
          i = (aliasedOrders "`o`".toList).before.length := by
      decide +kernel
    have fits := h.add_length_le ticked.ne_nil
    have positive := ticked.length_pos
    exact places i (by omega) h
  exact ⟨ticked, clean,
    ⟨name, first, (substitute_explicitAlias plainOrders _ ticked clean).1 name first⟩,
    isQuotedName_o, sole,
    (substitute_explicitAlias plainOrders _ ticked clean).2 isQuotedName_o sole⟩

/-- An explicit alias need not be kept: one in backticks gets another one before it. -/
theorem not_forall_keepsAlias :
    ¬ ∀ (r : Replacement) (t : AliasedText r.fullName.toList), t.mention = r.fullName.toList →
      IsTicked r.fullName.toList → ¬ Mentions r.fullName.toList r.sql.toList →
      isName t.label = true ∨ IsQuotedName t.label →
      substitute (String.ofList t.text) r = .ok (String.ofList (t.kept r)) := by
  intro keeps
  have outcome := keeps plainOrders (aliasedOrders "`o`".toList) rfl (by decide +kernel)
    (by decide +kernel) (.inr isQuotedName_o)
  revert outcome
  decide +kernel

/-- A name that contains what looks like an alias. -/
def trickyName : Replacement := ⟨"` as x`", "SELECT 1 AS v", "t"⟩

/-- A mention of that name, before which the name begins once more. -/
def overlapped : AliasedText trickyName.fullName.toList where
  before := "` as x".toList
  mention := "` as x`".toList
  gap := [' ']
  keyword := ['A', 'S']
  space := [' ']
  label := ['o']
  after := []
  mention_same := rfl
  gap_ne := by decide
  gap_blank := by decide
  keyword_as := by decide
  space_ne := by decide
  space_blank := by decide
  word_ends := rfl
  before_clean := by decide +kernel
  after_clean := by decide +kernel

/-- Nor need a plain alias be kept, if the name begins before the mention and overlaps it. -/
theorem not_forall_keepsAlias_of_isName :
    ¬ ∀ (r : Replacement) (t : AliasedText r.fullName.toList), t.mention = r.fullName.toList →
      IsTicked r.fullName.toList → ¬ Mentions r.fullName.toList r.sql.toList →
      isName t.label = true →
      substitute (String.ofList t.text) r = .ok (String.ofList (t.kept r)) := by
  intro keeps
  have outcome := keeps trickyName overlapped rfl (by decide +kernel) (by decide +kernel)
    (by decide)
  revert outcome
  decide +kernel

end ModelBench.Sql
