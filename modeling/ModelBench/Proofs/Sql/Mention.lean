import ModelBench.Sql.Substitution
import ModelBench.Proofs.Text.CaseFold
import ModelBench.Proofs.Text.Infix
import Mathlib.Data.List.TakeWhile

/-!
# Mentions of names

A text mentions a name if the name stands in it, in any case of its letters. Names in backticks
without parentheses cannot come about at the seams of a replacement: a mention in the new text lies
in the statement that was put in or in the old text (`mentions_apply`), and a name that the
statement does not mention is gone (`not_mentions_apply_self`).
-/

namespace ModelBench.Sql

open Text

variable {r : Replacement} {name text rest : List Char}

/-- Whether a name stands in a text, in any case of its letters. -/
def Mentions (name text : List Char) : Prop := name.map foldCase <:+: text.map foldCase

instance : Decidable (Mentions name text) :=
  inferInstanceAs (Decidable (name.map foldCase <:+: text.map foldCase))

/-- A name that starts and ends with a backtick and has no parentheses. -/
structure IsTicked (name : List Char) : Prop where
  starts : name.head? = some '\x60'
  ends : name.getLast? = some '\x60'
  noOpen : '(' ∉ name
  noClose : ')' ∉ name

instance (name : List Char) : Decidable (IsTicked name) :=
  decidable_of_iff
    (name.head? = some '\x60' ∧ name.getLast? = some '\x60' ∧ '(' ∉ name ∧ ')' ∉ name)
    ⟨fun ⟨starts, ends, noOpen, noClose⟩ => ⟨starts, ends, noOpen, noClose⟩,
      fun ⟨starts, ends, noOpen, noClose⟩ => ⟨starts, ends, noOpen, noClose⟩⟩

theorem IsTicked.ne_nil (h : IsTicked name) : name ≠ [] := by
  rintro rfl
  cases h.starts

theorem IsTicked.length_pos (h : IsTicked name) : 0 < name.length :=
  List.length_pos_of_ne_nil h.ne_nil

theorem IsTicked.fullName_ne_empty (h : IsTicked r.fullName.toList) : r.fullName ≠ "" := by
  intro empty
  rw [empty] at h
  exact h.ne_nil rfl

theorem IsTicked.not_mentions_nil (h : IsTicked name) : ¬ Mentions name [] := by
  intro mentions
  have empty : name.map foldCase = [] := List.infix_nil.1 mentions
  exact h.ne_nil (List.map_eq_nil_iff.1 empty)

/-! ## Matching a name -/

/-- Whether a text begins with a name, in any case of its letters. -/
def BeginsWith (name text : List Char) : Prop := name.map foldCase <+: text.map foldCase

instance : Decidable (BeginsWith name text) :=
  inferInstanceAs (Decidable (name.map foldCase <+: text.map foldCase))

theorem BeginsWith.mentions (h : BeginsWith name rest) (suffix : rest <:+ text) :
    Mentions name text :=
  List.IsPrefix.isInfix h |>.trans (suffix.map foldCase).isInfix

/-- Whether a name stands in a text behind so many characters, in any case of its letters. -/
def MentionedAt (name text : List Char) (i : Nat) : Prop := BeginsWith name (text.drop i)

instance (name text : List Char) (i : Nat) : Decidable (MentionedAt name text i) :=
  inferInstanceAs (Decidable (BeginsWith name (text.drop i)))

theorem mentionedAt_of_suffix (suffix : rest <:+ text) :
    MentionedAt name text (text.length - rest.length) ↔ BeginsWith name rest := by
  rw [MentionedAt, ← List.suffix_iff_eq_drop.1 suffix]

theorem dropFold_eq_some_iff : dropFold name text = some rest ↔
    ∃ mention, text = mention ++ rest ∧ mention.map foldCase = name.map foldCase := by
  induction name generalizing text with
  | nil =>
    rw [dropFold, Option.some.injEq]
    constructor
    · rintro rfl
      exact ⟨[], rfl, rfl⟩
    · rintro ⟨mention, rfl, same⟩
      rw [List.map_eq_nil_iff.1 same]
      rfl
  | cons w name ih =>
    cases text with
    | nil =>
      simp only [dropFold, reduceCtorEq, false_iff]
      rintro ⟨mention, eq, same⟩
      obtain ⟨rfl, -⟩ := List.append_eq_nil_iff.1 eq.symm
      cases same
    | cons c text =>
      rw [dropFold]
      split_ifs with head
      · rw [ih]
        constructor
        · rintro ⟨mention, rfl, same⟩
          exact ⟨c :: mention, rfl, congrArg₂ List.cons (beq_iff_eq.1 head).symm same⟩
        · rintro ⟨mention, eq, same⟩
          cases mention with
          | nil => cases same
          | cons x mention =>
            obtain ⟨-, rfl⟩ := List.cons.inj eq
            exact ⟨mention, rfl, (List.cons.inj same).2⟩
      · simp only [false_iff]
        rintro ⟨mention, eq, same⟩
        cases mention with
        | nil => cases same
        | cons x mention =>
          obtain ⟨rfl, -⟩ := List.cons.inj eq
          exact head (beq_iff_eq.2 (List.cons.inj same).1.symm)

theorem dropFold_of_same {mention : List Char}
    (same : mention.map foldCase = name.map foldCase) (rest : List Char) :
    dropFold name (mention ++ rest) = some rest :=
  dropFold_eq_some_iff.2 ⟨mention, rfl, same⟩

theorem beginsWith_of_same {mention : List Char}
    (same : mention.map foldCase = name.map foldCase) (rest : List Char) :
    BeginsWith name (mention ++ rest) := by
  rw [BeginsWith, List.map_append, same]
  exact List.prefix_append _ _

theorem BeginsWith.exists_mention (h : BeginsWith name text) :
    ∃ mention rest, text = mention ++ rest ∧ mention.map foldCase = name.map foldCase := by
  obtain ⟨back, eq⟩ := h
  obtain ⟨mention, rest, rfl, same, -⟩ := List.map_eq_append_iff.1 eq.symm
  exact ⟨mention, rest, rfl, same⟩

theorem dropFold_eq_none_iff : dropFold name text = none ↔ ¬ BeginsWith name text := by
  constructor
  · rintro none begins
    obtain ⟨mention, rest, rfl, same⟩ := begins.exists_mention
    rw [dropFold_of_same same] at none
    cases none
  · intro other
    cases drop : dropFold name text with
    | none => rfl
    | some rest =>
      obtain ⟨mention, rfl, same⟩ := dropFold_eq_some_iff.1 drop
      exact absurd (beginsWith_of_same same rest) other

theorem length_of_same {mention : List Char}
    (same : mention.map foldCase = name.map foldCase) : mention.length = name.length := by
  simpa using congrArg List.length same

theorem IsTicked.mention_ne_nil {mention : List Char} (ticked : IsTicked name)
    (same : mention.map foldCase = name.map foldCase) : mention ≠ [] := by
  refine List.ne_nil_of_length_pos ?_
  rw [length_of_same same]
  exact ticked.length_pos

theorem BeginsWith.length_le (h : BeginsWith name text) : name.length ≤ text.length := by
  simpa using List.IsPrefix.length_le h

theorem MentionedAt.add_length_le {i : Nat} (h : MentionedAt name text i) (nonempty : name ≠ []) :
    i + name.length ≤ text.length := by
  have fits := BeginsWith.length_le h
  have positive := List.length_pos_of_ne_nil nonempty
  rw [List.length_drop] at fits
  omega

/-- A name that starts with a backtick is found at no other character. -/
theorem IsTicked.not_beginsWith {c : Char} (ticked : IsTicked name) (other : c ≠ '\x60')
    (rest : List Char) : ¬ BeginsWith name (c :: rest) := by
  obtain ⟨name, rfl⟩ := List.head?_eq_some_iff.1 ticked.starts
  rw [BeginsWith, List.map_cons, List.map_cons, List.cons_prefix_cons,
    foldCase_of_fixed (d := '\x60') (by decide)]
  rintro ⟨same, -⟩
  exact other (eq_of_foldCase_eq (by decide) same.symm)

/-- Whether everything that is put in the place of a mention is the statement of the replacement
under an alias without backticks. -/
def PutsSubquery (r : Replacement) (found : List Char → Option (List Char × Nat)) : Prop :=
  ∀ text new size, found text = some (new, size) → ∃ label, new = r.subquery label ∧
    '\x60' ∉ label

theorem bareMention_eq_some_iff {new : List Char} {size : Nat} :
    bareMention r text = some (new, size) ↔ BeginsWith r.fullName.toList text ∧
      new = r.subquery r.shortName.toList ∧ size = r.fullName.toList.length := by
  rw [bareMention]
  cases drop : dropFold r.fullName.toList text with
  | none => simp [dropFold_eq_none_iff.1 drop]
  | some rest =>
    obtain ⟨mention, rfl, same⟩ := dropFold_eq_some_iff.1 drop
    simp [beginsWith_of_same same rest, eq_comm]

theorem bareMention_eq_none_iff :
    bareMention r text = none ↔ ¬ BeginsWith r.fullName.toList text := by
  rw [bareMention]
  cases drop : dropFold r.fullName.toList text with
  | none => simp [dropFold_eq_none_iff.1 drop]
  | some rest =>
    obtain ⟨mention, rfl, same⟩ := dropFold_eq_some_iff.1 drop
    simp [beginsWith_of_same same rest]

theorem putsSubquery_bareMention (plain : '\x60' ∉ r.shortName.toList) :
    PutsSubquery r (bareMention r) := fun _ _ _ h =>
  ⟨_, (bareMention_eq_some_iff.1 h).2.1, plain⟩

theorem tick_notMem_of_aliasAfter {label : List Char} {size : Nat}
    (h : aliasAfter text = some (label, size)) : '\x60' ∉ label := by
  unfold aliasAfter at h
  split at h
  · cases h
  · next rest _ =>
    simp only [Option.ite_none_left_eq_some, Option.some.injEq, Prod.mk.injEq] at h
    rw [← h.2.1]
    intro tick
    have := List.mem_takeWhile_imp tick
    revert this
    decide +kernel

theorem putsSubquery_aliasedMention : PutsSubquery r (aliasedMention r) := by
  intro text new size h
  unfold aliasedMention at h
  cases drop : dropFold r.fullName.toList text with
  | none => simp [drop] at h
  | some rest =>
    cases after : aliasAfter rest with
    | none => simp [drop, after] at h
    | some result =>
      obtain ⟨label, length⟩ := result
      simp only [drop, after, Option.bind_eq_bind, Option.bind_some, Option.pure_def,
        Option.some.injEq, Prod.mk.injEq] at h
      exact ⟨label, h.1.symm, tick_notMem_of_aliasAfter after⟩

/-! ## Replacing mentions -/

variable {found : List Char → Option (List Char × Nat)} {skip : Nat}

/-- What stands at the start of the new text and has no parenthesis stood at the start of the old
one. -/
theorem prefix_of_prefix_replaceFrom (puts : PutsSubquery r found) (noOpen : '(' ∉ name)
    (h : name <+: (replaceFrom found 0 text).map foldCase) : name <+: text.map foldCase := by
  induction text generalizing name with
  | nil => exact h
  | cons c rest ih =>
    cases name with
    | nil => exact List.nil_prefix
    | cons w name =>
      rw [replaceFrom] at h
      split at h
      · next new size eq =>
        obtain ⟨label, rfl, -⟩ := puts _ _ _ eq
        have first := (List.cons_prefix_cons.1 h).1
        rw [foldCase_of_fixed (by decide)] at first
        exact absurd (first ▸ List.mem_cons_self) noOpen
      · rw [List.map_cons, List.cons_prefix_cons] at h ⊢
        exact ⟨h.1, ih (fun mem => noOpen (List.mem_cons_of_mem _ mem)) h.2⟩

/-- A subquery is an opening parenthesis, the statement, a closing one and the alias. -/
theorem map_foldCase_subquery (r : Replacement) (label : List Char) :
    (r.subquery label).map foldCase =
      ['('] ++ (r.sql.toList.map foldCase ++ ')' :: (" AS ".toList ++ label).map foldCase) := by
  have open_ : foldCase '(' = '(' := foldCase_of_fixed (by decide)
  have close : foldCase ')' = ')' := foldCase_of_fixed (by decide)
  have glue : (") AS ".toList : List Char) = ')' :: " AS ".toList := rfl
  simp only [Replacement.subquery, glue, List.map_append, List.map_cons, open_, close,
    List.append_assoc, List.cons_append, List.nil_append]

/-- A name in a text that starts with a subquery stands in its statement or behind it. -/
theorem infix_subquery {word label after : List Char} (noClose : ')' ∉ '\x60' :: word)
    (plain : '\x60' ∉ label) (h : '\x60' :: word <:+: (r.subquery label ++ after).map foldCase) :
    '\x60' :: word <:+: r.sql.toList.map foldCase ∨ '\x60' :: word <:+: after.map foldCase := by
  have noTick : '\x60' ∉ (" AS ".toList ++ label).map foldCase := by
    rw [mem_map_foldCase (by decide), List.mem_append, not_or]
    exact ⟨by decide, plain⟩
  have parts : (r.subquery label ++ after).map foldCase = ['('] ++ (r.sql.toList.map foldCase ++
      ')' :: ((" AS ".toList ++ label).map foldCase ++ after.map foldCase)) := by
    rw [List.map_append, map_foldCase_subquery, List.append_assoc, List.append_assoc]
    rfl
  rw [parts] at h
  rcases infix_or_infix (infix_of_head_notMem h (by decide)) noClose with inside | outside
  · exact .inl inside
  · exact .inr (infix_of_head_notMem outside noTick)

/-- A name in the new text stands in the statement that was put in, or it starts at a place of the
old text that was not replaced. -/
theorem infix_replaceFrom (puts : PutsSubquery r found) {word : List Char}
    (noOpen : '(' ∉ '\x60' :: word) (noClose : ')' ∉ '\x60' :: word)
    (h : '\x60' :: word <:+: (replaceFrom found skip text).map foldCase) :
    '\x60' :: word <:+: r.sql.toList.map foldCase ∨
      ∃ rest, rest <:+ text ∧ found rest = none ∧ '\x60' :: word <+: rest.map foldCase := by
  induction text generalizing skip with
  | nil =>
    rw [replaceFrom] at h
    simp at h
  | cons c rest ih =>
    have later (skip : Nat) (h : '\x60' :: word <:+: (replaceFrom found skip rest).map foldCase) :
        '\x60' :: word <:+: r.sql.toList.map foldCase ∨
          ∃ rest', rest' <:+ c :: rest ∧ found rest' = none ∧
            '\x60' :: word <+: rest'.map foldCase := by
      rcases ih h with inside | ⟨rest', suffix, none, start⟩
      · exact .inl inside
      · exact .inr ⟨rest', suffix.trans (List.suffix_cons c rest), none, start⟩
    cases skip with
    | succ skip =>
      rw [replaceFrom] at h
      exact later skip h
    | zero =>
      cases eq : found (c :: rest) with
      | none =>
        have unchanged : replaceFrom found 0 (c :: rest) = c :: replaceFrom found 0 rest := by
          simp only [replaceFrom, eq]
        rw [unchanged, List.map_cons] at h
        rcases List.infix_cons_iff.1 h with start | inside
        · rw [← List.map_cons, ← unchanged] at start
          exact .inr ⟨c :: rest, List.suffix_rfl, eq,
            prefix_of_prefix_replaceFrom puts noOpen start⟩
        · exact later 0 inside
      | some result =>
        obtain ⟨new, size⟩ := result
        obtain ⟨label, rfl, plain⟩ := puts _ _ _ eq
        simp only [replaceFrom, eq] at h
        rcases infix_subquery noClose plain h with inside | outside
        · exact .inl inside
        · exact later (size - 1) outside

/-! ## Mentions after a replacement -/

theorem IsTicked.exists_word (h : IsTicked name) :
    ∃ word, name.map foldCase = '\x60' :: word ∧ '(' ∉ '\x60' :: word ∧
      ')' ∉ '\x60' :: word := by
  obtain ⟨rest, rfl⟩ := List.head?_eq_some_iff.1 h.starts
  refine ⟨rest.map foldCase, by rw [List.map_cons, foldCase_of_fixed (by decide)], ?_, ?_⟩
  · have := mt (mem_map_foldCase (by decide)).1 h.noOpen
    rwa [List.map_cons, foldCase_of_fixed (by decide)] at this
  · have := mt (mem_map_foldCase (by decide)).1 h.noClose
    rwa [List.map_cons, foldCase_of_fixed (by decide)] at this

theorem mentions_replaceAll (puts : PutsSubquery r found) (ticked : IsTicked name)
    (h : Mentions name (replaceAll found text)) :
    Mentions name r.sql.toList ∨
      ∃ rest, rest <:+ text ∧ found rest = none ∧ name.map foldCase <+: rest.map foldCase := by
  obtain ⟨word, eq, noOpen, noClose⟩ := ticked.exists_word
  rw [Mentions, eq] at h ⊢
  exact infix_replaceFrom puts noOpen noClose h

/-- A mention after a replacement lies in the statement that was put in, or there was one before. -/
theorem mentions_apply (ticked : IsTicked name) (plain : '\x60' ∉ r.shortName.toList)
    (h : Mentions name (r.apply text)) : Mentions name r.sql.toList ∨ Mentions name text := by
  rcases mentions_replaceAll (putsSubquery_bareMention plain) ticked h with
    inside | ⟨_, suffix, -, start⟩
  · exact .inl inside
  · have h : Mentions name (replaceAll (aliasedMention r) text) :=
      start.isInfix.trans (suffix.map foldCase).isInfix
    rcases mentions_replaceAll putsSubquery_aliasedMention ticked h with
      inside | ⟨_, suffix, -, start⟩
    · exact .inl inside
    · exact .inr (start.isInfix.trans (suffix.map foldCase).isInfix)

/-- No mention of the replaced name is left if the statement that was put in has none. -/
theorem not_mentions_apply_self (ticked : IsTicked name) (plain : '\x60' ∉ r.shortName.toList)
    (same : r.fullName.toList.map foldCase = name.map foldCase)
    (clean : ¬ Mentions name r.sql.toList) : ¬ Mentions name (r.apply text) := by
  intro h
  rcases mentions_replaceAll (putsSubquery_bareMention plain) ticked h with
    inside | ⟨rest, -, none, start⟩
  · exact clean inside
  · rw [← same] at start
    exact bareMention_eq_none_iff.1 none start

end ModelBench.Sql
