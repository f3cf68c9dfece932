import ModelBench.Proofs.Sql.OnePass

/-!
# Replacements in either order

Two replacements for different names can be made in either order (`substitute_comm`). One after the
other they are one pass that looks for both names (`apply_apply`), as the first one keeps the
mentions of the second name apart (`MentionsApart.replaceAll`), and no place is one of both.
-/

namespace ModelBench.Sql

open Text

variable {r r₁ r₂ : Replacement} {name text rest : List Char} {names : List (List Char)}
  {first second : List Char → Option (List Char × Nat)}

/-! ## One replacement before another -/

theorem MentionsApart.mono {fewer : List (List Char)} (apart : MentionsApart names text)
    (subset : fewer ⊆ names) : MentionsApart fewer text := fun n hn i there m hm j =>
  apart n (subset hn) i there m (subset hm) j

theorem PutsSubquery.findEither (one : PutsSubquery r first) (two : PutsSubquery r second) :
    PutsSubquery r (findEither first second) := fun text new size h =>
  (Option.or_eq_some_iff.1 h).elim (one text new size) fun h => two text new size h.2

theorem putsSubquery_anyMention (plain : '\x60' ∉ r.shortName.toList) :
    PutsSubquery r (anyMention r) :=
  putsSubquery_aliasedMention.findEither (putsSubquery_bareMention plain)

/-- Two mentions of a name that overlap are one word, and all its characters are in the name. -/
theorem subset_of_overlap {folded : List Char} {k : Nat} (begins : name <+: folded)
    (later : name <+: folded.drop k) (inside : k ≤ name.length) :
    name <+: folded.take (k + name.length) ∧ (folded.take (k + name.length)).drop k = name ∧
      folded.take (k + name.length) ⊆ name := by
  have whole : name <+: folded.take (k + name.length) :=
    List.prefix_take_iff.2 ⟨begins, Nat.le_add_left _ _⟩
  have tail : (folded.take (k + name.length)).drop k = name := by
    rw [← List.take_drop]
    exact (List.prefix_iff_eq_take.1 later).symm
  refine ⟨whole, tail, fun c hc => ?_⟩
  rw [← List.take_append_drop k (folded.take (k + name.length)), List.mem_append, tail] at hc
  rcases hc with early | late
  · obtain ⟨longer, eq⟩ := whole
    rw [← eq, List.take_append_of_le_length inside] at early
    exact List.mem_of_mem_take early
  · exact late

/-- A pass that puts in statements without mentions of a name keeps its mentions apart. -/
theorem MentionsApart.replaceAll (apart : MentionsApart [name] text) (ticked : IsTicked name)
    (puts : PutsSubquery r first) (clean : ¬ Mentions name r.sql.toList) :
    MentionsApart [name] (replaceAll first text) := by
  intro n hn i there m hm j there' ⟨le, inside, different⟩
  obtain rfl := List.mem_singleton.1 hn
  obtain rfl := List.mem_singleton.1 hm
  obtain ⟨word, same, noOpen, noClose⟩ := ticked.exists_word
  obtain ⟨k, rfl⟩ := Nat.exists_eq_add_of_le le
  rw [MentionedAt, BeginsWith, same] at there there'
  rw [← List.drop_drop, List.map_drop] at there'
  have length : ('\x60' :: word).length = m.length := by rw [← same, List.length_map]
  -- both mentions together are a word like the name itself
  obtain ⟨start, tail, subset⟩ := subset_of_overlap there there' (by omega)
  generalize both_eq :
    (((replaceAll first text).drop i).map foldCase).take (k + ('\x60' :: word).length) = both
    at start tail subset
  have within : both <:+: (replaceAll first text).map foldCase := by
    rw [← both_eq]
    exact (List.take_prefix _ _).isInfix.trans ((List.drop_suffix i _).map foldCase).isInfix
  obtain ⟨longer, eq⟩ := start
  have both_word : both = '\x60' :: (word ++ longer) := eq.symm
  rw [both_word] at within
  rcases infix_replaceFrom puts (fun h => noOpen (subset (both_word ▸ h)))
      (fun h => noClose (subset (both_word ▸ h))) within with inStatement | ⟨rest, suffix, -, front⟩
  · refine clean ?_
    rw [Mentions, same]
    exact List.IsInfix.trans ⟨[], longer, rfl⟩ inStatement
  · rw [← both_word] at front
    have begins : BeginsWith m rest := by
      rw [BeginsWith, same]
      exact List.IsPrefix.trans ⟨longer, eq⟩ front
    have later : BeginsWith m (rest.drop k) := by
      rw [BeginsWith, same, List.map_drop, ← tail]
      exact front.drop k
    have beyond := apart.length_le List.mem_cons_self List.mem_cons_self suffix begins later
      fun zero => absurd (by rw [zero]; rfl) different
    omega

/-! ## Two replacements -/

/-- When two replacements do not get into each other's way: both names stand in backticks without
parentheses and differ by more than case, the short names have no backtick, and no statement that is
put in mentions one of the names. -/
structure Siblings (r₁ r₂ : Replacement) : Prop where
  ticked : ∀ r ∈ [r₁, r₂], IsTicked r.fullName.toList
  plain : ∀ r ∈ [r₁, r₂], '\x60' ∉ r.shortName.toList
  clean : ∀ r ∈ [r₁, r₂], ∀ r' ∈ [r₁, r₂], ¬ Mentions r.fullName.toList r'.sql.toList
  different : r₁.fullName.toList.map foldCase ≠ r₂.fullName.toList.map foldCase

theorem Siblings.symm (h : Siblings r₁ r₂) : Siblings r₂ r₁ := by
  have swap : [r₂, r₁] ⊆ [r₁, r₂] := by simp
  exact ⟨fun r hr => h.ticked r (swap hr), fun r hr => h.plain r (swap hr),
    fun r hr r' hr' => h.clean r (swap hr) r' (swap hr'), h.different.symm⟩

/-- One replacement after the other is one pass that looks for both names. -/
theorem apply_apply (h : Siblings r₁ r₂)
    (apart : MentionsApart [r₁.fullName.toList, r₂.fullName.toList] text) :
    r₂.apply (r₁.apply text) =
      replaceAll (findEither (anyMention r₁) (anyMention r₂)) text := by
  have one : r₁ ∈ [r₁, r₂] := List.mem_cons_self
  have two : r₂ ∈ [r₁, r₂] := List.mem_cons_of_mem _ List.mem_cons_self
  have puts := putsSubquery_anyMention (h.plain r₁ one)
  have looks := looksFor_anyMention r₁
  have apart₂ : MentionsApart [r₂.fullName.toList] (replaceAll (anyMention r₁) text) :=
    (apart.mono (by simp)).replaceAll (h.ticked r₂ two) puts (h.clean r₂ two r₁ one)
  rw [apply_eq_replaceAll (h.ticked r₁ one) (h.clean r₁ one r₁ one) (apart.mono (by simp)),
    apply_eq_replaceAll (h.ticked r₂ two) (h.clean r₂ two r₂ two) apart₂]
  refine replaceAll_replaceAll (separable_of_looksFor looks (looksFor_anyMention r₂)
    (h.ticked r₁ one) (h.ticked r₂ two) puts (h.clean r₂ two r₁ one)
    fun rest suffix none begins k short => ?_)
  by_cases start : k = 0
  · rwa [start, List.drop_zero]
  · refine looks.eq_none fun later => ?_
    have le := apart.length_le (List.mem_cons_of_mem _ List.mem_cons_self) List.mem_cons_self
      suffix begins later fun zero => absurd zero start
    omega

/-- Where one name begins the other one does not, so it does not matter which one is looked for
first. -/
theorem findEither_comm (h : Siblings r₁ r₂)
    (apart : MentionsApart [r₁.fullName.toList, r₂.fullName.toList] text) (suffix : rest <:+ text) :
    findEither (anyMention r₁) (anyMention r₂) rest =
      findEither (anyMention r₂) (anyMention r₁) rest := by
  by_cases begins₁ : BeginsWith r₁.fullName.toList rest
  · have other : ¬ BeginsWith r₂.fullName.toList rest := fun begins₂ => by
      have le := apart.length_le (k := 0) List.mem_cons_self
        (List.mem_cons_of_mem _ List.mem_cons_self) suffix begins₁ begins₂
        fun _ same => h.different (congrArg _ same)
      have positive := (h.ticked r₁ List.mem_cons_self).length_pos
      omega
    rw [findEither, findEither, (looksFor_anyMention r₂).eq_none other, Option.or_none,
      Option.none_or]
  · rw [findEither, findEither, (looksFor_anyMention r₁).eq_none begins₁, Option.or_none,
      Option.none_or]

theorem apply_comm (h : Siblings r₁ r₂)
    (apart : MentionsApart [r₁.fullName.toList, r₂.fullName.toList] text) :
    r₂.apply (r₁.apply text) = r₁.apply (r₂.apply text) := by
  have apart' : MentionsApart [r₂.fullName.toList, r₁.fullName.toList] text :=
    apart.mono (by simp)
  calc r₂.apply (r₁.apply text)
      = replaceAll (findEither (anyMention r₁) (anyMention r₂)) text := apply_apply h apart
    _ = replaceAll (findEither (anyMention r₂) (anyMention r₁)) text :=
        replaceFrom_congr (fun _ suffix => findEither_comm h apart suffix) 0
    _ = r₁.apply (r₂.apply text) := (apply_apply h.symm apart').symm

/-- Two replacements give the same statement in either order, if they do not get into each other's
way and no two mentions of their names in the statement overlap. -/
theorem substitute_comm (r₁ r₂ : Replacement) (sql : String) (h : Siblings r₁ r₂)
    (apart : MentionsApart [r₁.fullName.toList, r₂.fullName.toList] sql.toList) :
    ∃ result, (substitute sql r₁).bind (substitute · r₂) = .ok result ∧
      (substitute sql r₂).bind (substitute · r₁) = .ok result := by
  have named₁ := (h.ticked r₁ List.mem_cons_self).fullName_ne_empty
  have named₂ := (h.ticked r₂ (List.mem_cons_of_mem _ List.mem_cons_self)).fullName_ne_empty
  refine ⟨String.ofList (r₂.apply (r₁.apply sql.toList)), ?_, ?_⟩
  · rw [substitute_of_named named₁, Except.bind, substitute_of_named named₂, String.toList_ofList]
  · rw [substitute_of_named named₂, Except.bind, substitute_of_named named₁, String.toList_ofList,
      apply_comm h apart]

/-! ## An example -/

/-- Two replacements whose statements and short names look like parts of the statement around
them. -/
def siblingOrders : Replacement := ⟨"`p`.`d`.`orders`", "SELECT ') AS `x' AS v", "o"⟩

@[inherit_doc siblingOrders]
def siblingItems : Replacement := ⟨"`p`.`d`.`items`", "SELECT 2 AS", "i AS j"⟩

/-- A statement in which the names follow each other without a blank, and one stands where an alias
would. -/
def siblingsQuery : String :=
  "FROM `p`.`d`.`orders` AS x`P`.`D`.`Items``p`.`d`.`orders` as `p`.`d`.`items`\n AS y"

theorem substitute_comm_orders :
    Siblings siblingOrders siblingItems ∧
      MentionsApart [siblingOrders.fullName.toList, siblingItems.fullName.toList]
        siblingsQuery.toList ∧
      (∃ result,
        (substitute siblingsQuery siblingOrders).bind (substitute · siblingItems) = .ok result ∧
        (substitute siblingsQuery siblingItems).bind (substitute · siblingOrders) = .ok result) ∧
      (substitute siblingsQuery siblingOrders).bind (substitute · siblingItems) =
        .ok ("FROM (SELECT ') AS `x' AS v) AS x(SELECT 2 AS) AS i AS j(SELECT ') AS `x' AS v) AS o" ++
          " as (SELECT 2 AS) AS y") := by
  have siblings : Siblings siblingOrders siblingItems :=
    ⟨by decide +kernel, by decide +kernel, by decide +kernel, by decide +kernel⟩
  have apart : MentionsApart [siblingOrders.fullName.toList, siblingItems.fullName.toList]
      siblingsQuery.toList := by
    decide +kernel
  exact ⟨siblings, apart, substitute_comm siblingOrders siblingItems siblingsQuery siblings apart,
    by decide +kernel⟩

end ModelBench.Sql
