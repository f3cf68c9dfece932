import ModelBench.Proofs.Sql.Alias
import ModelBench.Proofs.Text.Replace

/-!
# Texts with one mention

What a replacement makes of a text in which a name stands once: a mention with an alias clause
behind it keeps the alias (`apply_of_aliasClause`), and one without gets the short name of its table
(`apply_of_sole`).
-/

namespace ModelBench.Sql

open Text

variable {r : Replacement} {name before mention clause label back : List Char}

/-- A name does not begin in a front that does not contain it, not even together with the mention
behind it up to its last character. -/
theorem not_beginsWith_of_front (same : mention.map foldCase = name.map foldCase)
    (first : ¬ Mentions name (before ++ mention.dropLast)) {part : List Char} (nonempty : part ≠ [])
    (suffix : part <:+ before) (rest : List Char) : ¬ BeginsWith name (part ++ (mention ++ rest)) := by
  intro begins
  obtain ⟨other, rest', eq, same'⟩ := begins.exists_mention
  have short : other.length ≤ (part ++ mention.dropLast).length := by
    have positive := List.length_pos_of_ne_nil nonempty
    rw [List.length_append, List.length_dropLast, length_of_same same', ← length_of_same same]
    omega
  have inner : other <+: part ++ mention.dropLast := by
    refine List.prefix_of_prefix_length_le ⟨rest', eq.symm⟩ ?_ short
    exact (List.prefix_append_right_inj part).2
      ((List.dropLast_prefix mention).trans (List.prefix_append mention rest))
  have begins : BeginsWith name (part ++ mention.dropLast) := by
    rw [BeginsWith, ← same']
    exact inner.map foldCase
  obtain ⟨start, rfl⟩ := suffix
  exact first (begins.mentions ⟨start, (List.append_assoc _ _ _).symm⟩)

/-- A mention around a subquery lies before it, in its statement or behind it. -/
theorem mentions_around (ticked : IsTicked name) (plain : '\x60' ∉ label)
    (h : Mentions name (before ++ (r.subquery label ++ back))) :
    Mentions name before ∨ Mentions name r.sql.toList ∨ Mentions name back := by
  obtain ⟨word, eq, noOpen, noClose⟩ := ticked.exists_word
  simp only [Mentions, eq] at h ⊢
  have opening : (r.subquery label ++ back).map foldCase =
      '(' :: ((r.subquery label ++ back).map foldCase).tail := by
    rw [List.map_append, map_foldCase_subquery]
    rfl
  rw [List.map_append, opening] at h
  rcases infix_or_infix h noOpen with inside | outside
  · exact .inl inside
  · have later : '\x60' :: word <:+: (r.subquery label ++ back).map foldCase := by
      rw [opening]
      exact List.infix_cons outside
    exact .inr (infix_subquery noClose plain later)

/-- The first mention of a text keeps its alias. -/
theorem apply_of_aliasClause (ticked : IsTicked r.fullName.toList)
    (clean : ¬ Mentions r.fullName.toList r.sql.toList)
    (same : mention.map foldCase = r.fullName.toList.map foldCase)
    (first : ¬ Mentions r.fullName.toList (before ++ mention.dropLast))
    (last : ¬ Mentions r.fullName.toList back) (alias_ : AliasClause label back clause) :
    r.apply (before ++ (mention ++ (clause ++ back))) = before ++ (r.subquery label ++ back) := by
  have here : aliasedMention r (mention ++ (clause ++ back)) =
      some (r.subquery label, r.fullName.toList.length + clause.length) :=
    aliasedMention_eq_some_iff.2 ⟨mention, clause, label, back, rfl, same, alias_, rfl, rfl⟩
  have nonempty : mention ++ (clause ++ back) ≠ [] :=
    List.append_ne_nil_of_left_ne_nil (ticked.mention_ne_nil same) _
  have behind : (mention ++ (clause ++ back)).drop (r.fullName.toList.length + clause.length) =
      back := by
    rw [← length_of_same same, ← List.append_assoc]
    exact List.drop_left' List.length_append
  have kept : replaceAll (aliasedMention r) back = back := replaceAll_of_none fun rest suffix =>
    aliasedMention_of_not_beginsWith fun begins => last (begins.mentions suffix)
  have aliased : replaceAll (aliasedMention r) (before ++ (mention ++ (clause ++ back))) =
      before ++ (r.subquery label ++ back) := by
    have front : replaceAll (aliasedMention r) (before ++ (mention ++ (clause ++ back))) =
        before ++ replaceAll (aliasedMention r) (mention ++ (clause ++ back)) :=
      replaceAll_append fun part nonempty suffix =>
        aliasedMention_of_not_beginsWith (not_beginsWith_of_front same first nonempty suffix _)
    rw [front, replaceAll_of_some nonempty (Nat.add_pos_left ticked.length_pos _) here, behind, kept]
  have noMore : ¬ Mentions r.fullName.toList (before ++ (r.subquery label ++ back)) := by
    have plain : '\x60' ∉ label := tick_notMem_of_aliasAfter
      (aliasAfter_eq_some_iff.2 ⟨clause, back, rfl, alias_, rfl⟩)
    intro h
    rcases mentions_around ticked plain h with inside | inside | inside
    · exact first (inside.trans ((List.prefix_append _ _).map foldCase).isInfix)
    · exact clean inside
    · exact last inside
  rw [Replacement.apply, aliased]
  exact replaceAll_of_none fun rest suffix =>
    bareMention_eq_none_iff.2 fun begins => noMore (begins.mentions suffix)

/-- The only mention of a text gets the short name of its table if it has no alias. -/
theorem apply_of_sole (ticked : IsTicked r.fullName.toList)
    (same : mention.map foldCase = r.fullName.toList.map foldCase)
    (sole : ∀ i, MentionedAt r.fullName.toList (before ++ (mention ++ back)) i →
      i = before.length)
    (noAlias : aliasAfter back = none) :
    r.apply (before ++ (mention ++ back)) =
      before ++ (r.subquery r.shortName.toList ++ back) := by
  have only {rest : List Char} (suffix : rest <:+ before ++ (mention ++ back))
      (begins : BeginsWith r.fullName.toList rest) : rest = mention ++ back := by
    have place := sole _ ((mentionedAt_of_suffix suffix).2 begins)
    rw [List.suffix_iff_eq_drop.1 suffix, place, List.drop_left]
  have nonempty := ticked.mention_ne_nil same
  have aliased : replaceAll (aliasedMention r) (before ++ (mention ++ back)) =
      before ++ (mention ++ back) := by
    refine replaceAll_of_none fun rest suffix => ?_
    by_cases begins : BeginsWith r.fullName.toList rest
    · rw [only suffix begins, aliasedMention, dropFold_of_same same, Option.bind_eq_bind,
        Option.bind_some, noAlias]
      rfl
    · exact aliasedMention_of_not_beginsWith begins
  have here : bareMention r (mention ++ back) =
      some (r.subquery r.shortName.toList, mention.length) :=
    bareMention_eq_some_iff.2 ⟨beginsWith_of_same same back, rfl, length_of_same same⟩
  have kept : replaceAll (bareMention r) back = back := by
    refine replaceAll_of_none fun rest suffix => bareMention_eq_none_iff.2 fun begins => ?_
    have whole := only (suffix.trans ⟨before ++ mention, by rw [List.append_assoc]⟩) begins
    have shorter := suffix.length_le
    rw [whole, List.length_append] at shorter
    have positive := List.length_pos_of_ne_nil nonempty
    omega
  have front : replaceAll (bareMention r) (before ++ (mention ++ back)) =
      before ++ replaceAll (bareMention r) (mention ++ back) := by
    refine replaceAll_append fun part partNonempty suffix => bareMention_eq_none_iff.2 ?_
    intro begins
    obtain ⟨start, eq⟩ := suffix
    have whole := only ⟨start, by rw [← List.append_assoc, eq]⟩ begins
    exact partNonempty (List.append_left_eq_self.1 whole)
  rw [Replacement.apply, aliased, front,
    replaceAll_of_some (List.append_ne_nil_of_left_ne_nil nonempty _)
      (List.length_pos_of_ne_nil nonempty) here, List.drop_left, kept]

end ModelBench.Sql
