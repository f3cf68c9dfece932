import ModelBench.Proofs.Sql.Alias
import ModelBench.Proofs.Text.Replace

/-!
# Replacing in one pass

A replacement goes through a text twice, first for the mentions with an alias and then for those
that are left, what the first pass put in included. As long as the mentions are apart, reading the
text once does the same (`apply_eq_replaceAll`): nothing is found in what was put in or across its
edges (`separable_of_looksFor`). `OnePass` says what reading once means, and it leaves no choice
(`onePass_iff`).
-/

namespace ModelBench.Sql

open Text

variable {r : Replacement} {name other text rest : List Char} {names : List (List Char)}
  {first second : List Char → Option (List Char × Nat)}

/-! ## Mentions that are apart -/

/-- Whether a name `m` at the place `j` begins inside another one, a name `n` at the place `i`. -/
def BeginsInside (n : List Char) (i : Nat) (m : List Char) (j : Nat) : Prop :=
  i ≤ j ∧ j < i + n.length ∧ (n, i) ≠ (m, j)

instance (n : List Char) (i : Nat) (m : List Char) (j : Nat) : Decidable (BeginsInside n i m j) :=
  inferInstanceAs (Decidable (_ ∧ _ ∧ _))

/-- Whether no two of the places at which some names stand in a text overlap. -/
def MentionsApart (names : List (List Char)) (text : List Char) : Prop :=
  ∀ n ∈ names, ∀ i, MentionedAt n text i →
    ∀ m ∈ names, ∀ j, MentionedAt m text j → ¬ BeginsInside n i m j

instance (names : List (List Char)) (text : List Char) : Decidable (MentionsApart names text) :=
  decidable_of_iff
    (∀ n ∈ names, ∀ i < text.length, MentionedAt n text i →
      ∀ m ∈ names, ∀ j < text.length, MentionedAt m text j → ¬ BeginsInside n i m j) <| by
    constructor
    · intro bounded n hn i there m hm j there' inside
      -- both places are within the text, as the name is not empty
      have nonempty : n ≠ [] := by
        rintro rfl
        have := inside.2.1
        rw [List.length_nil] at this
        exact absurd inside.1 (by omega)
      have fits := there.add_length_le nonempty
      have bound := inside.2.1
      exact bounded n hn i (by have := inside.1; omega) there m hm j (by omega) there' inside
    · intro apart n hn i _ there m hm j _
      exact apart n hn i there m hm j

/-- Where a name stands, no name begins before its end but itself. -/
theorem MentionsApart.length_le {n m : List Char} {k : Nat} (apart : MentionsApart names text)
    (hn : n ∈ names) (hm : m ∈ names) (suffix : rest <:+ text) (begins : BeginsWith n rest)
    (later : BeginsWith m (rest.drop k)) (different : k = 0 → n ≠ m) : n.length ≤ k := by
  have there := (mentionedAt_of_suffix suffix).2 begins
  have there' : MentionedAt m text (text.length - rest.length + k) := by
    rw [MentionedAt, ← List.drop_drop, ← List.suffix_iff_eq_drop.1 suffix]
    exact later
  by_contra short
  refine apart n hn _ there m hm _ there' ⟨Nat.le_add_right _ _, by omega, fun same => ?_⟩
  obtain ⟨rfl, at_⟩ := Prod.mk.inj same
  exact different (by omega) rfl

/-! ## Ways to look for a name -/

/-- When what is found is a mention of a name: it begins with the name, has no backtick behind it,
and depends on nothing behind the mention but its alias. -/
structure LooksFor (name : List Char) (found : List Char → Option (List Char × Nat)) : Prop where
  begins : ∀ text new size, found text = some (new, size) → BeginsWith name text
  least : ∀ text new size, found text = some (new, size) → name.length ≤ size
  fits : ∀ text new size, found text = some (new, size) → size ≤ text.length
  plain : ∀ text new size, found text = some (new, size) →
    '\x60' ∉ (text.take size).drop name.length
  decided : ∀ mention back back', mention.map foldCase = name.map foldCase →
    aliasAfter back = aliasAfter back' → found (mention ++ back) = found (mention ++ back')

theorem looksFor_bareMention (r : Replacement) :
    LooksFor r.fullName.toList (bareMention r) where
  begins _ _ _ h := (bareMention_eq_some_iff.1 h).1
  least _ _ _ h := (bareMention_eq_some_iff.1 h).2.2.ge
  fits _ _ _ h := by
    obtain ⟨begins, -, rfl⟩ := bareMention_eq_some_iff.1 h
    exact begins.length_le
  plain _ _ _ h := by
    obtain ⟨-, -, rfl⟩ := bareMention_eq_some_iff.1 h
    rw [List.drop_of_length_le (List.length_take_le _ _)]
    exact List.not_mem_nil
  decided _ _ _ same _ := by
    rw [bareMention, bareMention, dropFold_of_same same, dropFold_of_same same]
    rfl

theorem looksFor_aliasedMention (r : Replacement) :
    LooksFor r.fullName.toList (aliasedMention r) where
  begins _ _ _ h := by
    obtain ⟨mention, _, _, _, rfl, same, -⟩ := aliasedMention_eq_some_iff.1 h
    exact beginsWith_of_same same _
  least _ _ _ h := by
    obtain ⟨_, _, _, _, -, -, -, -, rfl⟩ := aliasedMention_eq_some_iff.1 h
    exact Nat.le_add_right _ _
  fits _ _ _ h := by
    obtain ⟨_, _, _, _, rfl, same, -, -, rfl⟩ := aliasedMention_eq_some_iff.1 h
    rw [List.length_append, List.length_append, length_of_same same]
    omega
  plain _ _ _ h := by
    obtain ⟨mention, clause, _, _, rfl, same, alias_, -, rfl⟩ := aliasedMention_eq_some_iff.1 h
    have span : (mention ++ clause).length = r.fullName.toList.length + clause.length := by
      rw [List.length_append, length_of_same same]
    rw [← List.append_assoc, List.take_left' span, ← length_of_same same, List.drop_left]
    exact alias_.notMem (.inl rfl)
  decided _ _ _ same alias_ := by
    rw [aliasedMention, aliasedMention, dropFold_of_same same, dropFold_of_same same]
    simp only [Option.bind_eq_bind, Option.bind_some, alias_]

theorem LooksFor.findEither (one : LooksFor name first) (two : LooksFor name second) :
    LooksFor name (findEither first second) := by
  have either {text new : List Char} {size : Nat}
      (h : Text.findEither first second text = some (new, size)) :
      first text = some (new, size) ∨ second text = some (new, size) :=
    (Option.or_eq_some_iff.1 h).imp_right And.right
  constructor
  · exact fun _ _ _ h => (either h).elim (one.begins _ _ _) (two.begins _ _ _)
  · exact fun _ _ _ h => (either h).elim (one.least _ _ _) (two.least _ _ _)
  · exact fun _ _ _ h => (either h).elim (one.fits _ _ _) (two.fits _ _ _)
  · exact fun _ _ _ h => (either h).elim (one.plain _ _ _) (two.plain _ _ _)
  · intro mention back back' same alias_
    rw [Text.findEither, Text.findEither, one.decided _ _ _ same alias_,
      two.decided _ _ _ same alias_]

theorem LooksFor.eq_none (looks : LooksFor name first) (h : ¬ BeginsWith name text) :
    first text = none := by
  cases found : first text with
  | none => rfl
  | some result => exact absurd (looks.begins _ _ _ found) h

theorem LooksFor.eq_none_of_ne_tick {c : Char} (looks : LooksFor name first)
    (ticked : IsTicked name) (plain : c ≠ '\x60') : first (c :: rest) = none :=
  looks.eq_none (ticked.not_beginsWith plain rest)

/-! ## What the first pass puts in -/

/-- A name does not begin in a subquery whose statement has no mention of it. -/
theorem not_beginsWith_of_subquery {label part : List Char} (ticked : IsTicked name)
    (clean : ¬ Mentions name r.sql.toList) (plain : '\x60' ∉ label) (nonempty : part ≠ [])
    (suffix : part <:+ r.subquery label) (back : List Char) : ¬ BeginsWith name (part ++ back) := by
  obtain ⟨before, eq⟩ := suffix
  have parts : before ++ part = ('(' :: r.sql.toList) ++ (')' :: (" AS ".toList ++ label)) := by
    rw [eq, Replacement.subquery, List.append_assoc]
    rfl
  have noTick : '\x60' ∉ ')' :: (" AS ".toList ++ label) := by
    rw [List.mem_cons, List.mem_append, not_or, not_or]
    exact ⟨by decide, by decide, plain⟩
  rcases List.append_eq_append_iff.1 parts with ⟨inside, start, rfl⟩ | ⟨left, -, tail⟩
  · -- the name would have to end before the parenthesis that closes the statement
    intro begins
    obtain ⟨word, same, -, noClose⟩ := ticked.exists_word
    rw [BeginsWith, same, List.append_assoc, List.map_append, List.cons_append, List.map_cons,
      foldCase_of_fixed (d := ')') (by decide)] at begins
    have inner := (prefix_of_notMem begins noClose).isInfix
    have whole : inside.map foldCase <:+: ['('] ++ r.sql.toList.map foldCase := by
      have suffix : inside <:+: '(' :: r.sql.toList := start ▸ (List.suffix_append _ _).isInfix
      have folded := suffix.map foldCase
      rwa [List.map_cons, foldCase_of_fixed (d := '(') (by decide)] at folded
    refine clean ?_
    rw [Mentions, same]
    exact infix_of_head_notMem (inner.trans whole) (by decide)
  · obtain ⟨c, part, rfl⟩ := List.exists_cons_of_ne_nil nonempty
    have mem : c ∈ ')' :: (" AS ".toList ++ label) :=
      tail ▸ List.mem_append_right left List.mem_cons_self
    exact ticked.not_beginsWith (fun tick => noTick (tick ▸ mem)) _

/-- A pass for a ticked name does not change the alias of what is before it. -/
theorem aliasAfter_replaceAll (looks : LooksFor name first) (ticked : IsTicked name)
    (puts : PutsSubquery r first) (back : List Char) :
    aliasAfter (replaceAll first back) = aliasAfter back := by
  have split := List.takeWhile_append_dropWhile (p := (· ≠ '\x60')) (l := back)
  generalize front_eq : back.takeWhile (· ≠ '\x60') = front at split
  generalize rest_eq : back.dropWhile (· ≠ '\x60') = rest at split
  have plain : ∀ c ∈ front, c ≠ '\x60' := fun c hc => by
    rw [← front_eq] at hc
    simpa using List.mem_takeWhile_imp hc
  have stops : Stops rest := by
    intro c hc
    have := head_any_dropWhile (p := (· ≠ '\x60')) back
    rw [rest_eq, Option.mem_def.1 hc] at this
    exact .inl (by simpa using this)
  have kept : replaceAll first (front ++ rest) = front ++ replaceAll first rest := by
    refine replaceAll_append fun part nonempty suffix => ?_
    obtain ⟨c, part, rfl⟩ := List.exists_cons_of_ne_nil nonempty
    exact looks.eq_none_of_ne_tick ticked (plain c (suffix.subset List.mem_cons_self))
  have stops' : Stops (replaceAll first rest) := by
    cases rest with
    | nil => exact stops
    | cons c rest =>
      cases found : first (c :: rest) with
      | none =>
        rw [replaceAll_cons_of_none found]
        exact stops
      | some result =>
        obtain ⟨label, eq, -⟩ := puts _ _ _ found
        have positive := ticked.length_pos.trans_le (looks.least _ _ _ found)
        rw [replaceAll_of_some (List.cons_ne_nil _ _) positive found, eq]
        intro d hd
        obtain rfl : '(' = d := by simpa [Replacement.subquery] using hd
        exact .inr rfl
  rw [← split, kept]
  exact aliasAfter_append_of_stops stops' stops

/-! ## Two passes for names -/

/-- A pass for a name that puts in statements without mentions of a second name, and a pass for the
second one, if no place of the first begins inside one of the second. -/
theorem separable_of_looksFor (one : LooksFor name first) (two : LooksFor other second)
    (ticked : IsTicked name) (ticked' : IsTicked other) (puts : PutsSubquery r first)
    (clean : ¬ Mentions other r.sql.toList)
    (apart : ∀ rest, rest <:+ text → first rest = none → BeginsWith other rest →
      ∀ k < other.length, first (rest.drop k) = none) : Separable first second text where
  firstFits _ _ _ found := ticked.length_pos.trans_le (one.least _ _ _ found)
  secondFits _ _ _ found :=
    ⟨ticked'.length_pos.trans_le (two.least _ _ _ found), two.fits _ _ _ found⟩
  inert rest new size found back := by
    obtain ⟨label, rfl, plain⟩ := puts _ _ _ found
    refine replaceAll_append fun part nonempty suffix => two.eq_none ?_
    exact not_beginsWith_of_subquery ticked' clean plain nonempty suffix back
  same rest suffix none := by
    by_cases begins : BeginsWith other rest
    · obtain ⟨mention, back, rfl, same⟩ := begins.exists_mention
      have kept := replaceAll_of_clear (apart _ suffix none begins)
      rw [← length_of_same same, List.take_left, List.drop_left] at kept
      rw [kept]
      exact two.decided _ _ _ same (aliasAfter_replaceAll one ticked puts back)
    · obtain ⟨word, same, noOpen, -⟩ := ticked'.exists_word
      rw [two.eq_none begins]
      refine two.eq_none fun later => begins ?_
      rw [BeginsWith, same] at later ⊢
      exact prefix_of_prefix_replaceFrom puts noOpen later
  clear rest new size suffix none found k inside := by
    by_cases short : k < other.length
    · exact apart rest suffix none (two.begins _ _ _ found) k short
    · have fits := two.fits _ _ _ found
      rw [List.drop_eq_getElem_cons (by omega : k < rest.length)]
      refine one.eq_none_of_ne_tick ticked fun tick => two.plain _ _ _ found ?_
      rw [← tick, List.mem_drop_iff_getElem]
      exact ⟨k - other.length, by rw [List.length_take]; omega,
        by rw [List.getElem_take]; congr 1; omega⟩

/-! ## One pass -/

/-- The replacement of a mention at the start of a text, under its alias or else the short name. -/
def anyMention (r : Replacement) : List Char → Option (List Char × Nat) :=
  findEither (aliasedMention r) (bareMention r)

theorem looksFor_anyMention (r : Replacement) : LooksFor r.fullName.toList (anyMention r) :=
  (looksFor_aliasedMention r).findEither (looksFor_bareMention r)

theorem anyMention_of_aliasClause {mention clause label back : List Char}
    (same : mention.map foldCase = r.fullName.toList.map foldCase)
    (alias_ : AliasClause label back clause) : anyMention r (mention ++ (clause ++ back)) =
      some (r.subquery label, r.fullName.toList.length + clause.length) := by
  have found := aliasedMention_eq_some_iff.2
    ⟨mention, clause, label, back, rfl, same, alias_, rfl, rfl⟩
  rw [anyMention, findEither, found, Option.some_or]

theorem anyMention_of_no_alias {mention back : List Char}
    (same : mention.map foldCase = r.fullName.toList.map foldCase)
    (noAlias : aliasAfter back = none) : anyMention r (mention ++ back) =
      some (r.subquery r.shortName.toList, r.fullName.toList.length) := by
  have none : aliasedMention r (mention ++ back) = none := by
    rw [aliasedMention, dropFold_of_same same, Option.bind_eq_bind, Option.bind_some, noAlias]
    rfl
  rw [anyMention, findEither, none, Option.none_or]
  exact bareMention_eq_some_iff.2 ⟨beginsWith_of_same same back, rfl, rfl⟩

/-- Both passes together, if the mentions are apart and the statement that is put in has none. -/
theorem apply_eq_replaceAll (ticked : IsTicked r.fullName.toList)
    (clean : ¬ Mentions r.fullName.toList r.sql.toList)
    (apart : MentionsApart [r.fullName.toList] text) :
    r.apply text = replaceAll (anyMention r) text := by
  have looks := looksFor_aliasedMention r
  refine replaceAll_replaceAll (separable_of_looksFor looks (looksFor_bareMention r) ticked ticked
    putsSubquery_aliasedMention clean fun rest suffix none begins k short => ?_)
  by_cases start : k = 0
  · rwa [start, List.drop_zero]
  · refine looks.eq_none fun later => ?_
    have le := apart.length_le List.mem_cons_self List.mem_cons_self suffix begins later
      fun zero => absurd zero start
    omega

/-- What a text becomes when it is read once from left to right. A character at which the name does
not begin is kept. A mention becomes the subquery: under its alias if a clause with an alias is
behind it, and then the clause is left out, and under the short name of the table otherwise. -/
inductive OnePass (r : Replacement) : (text result : List Char) → Prop
  | done : OnePass r [] []
  | keep {c : Char} {rest result : List Char}
      (free : ¬ BeginsWith r.fullName.toList (c :: rest)) (later : OnePass r rest result) :
      OnePass r (c :: rest) (c :: result)
  | aliased {mention clause label back result : List Char}
      (same : mention.map foldCase = r.fullName.toList.map foldCase)
      (alias_ : AliasClause label back clause) (later : OnePass r back result) :
      OnePass r (mention ++ (clause ++ back)) (r.subquery label ++ result)
  | bare {mention back result : List Char}
      (same : mention.map foldCase = r.fullName.toList.map foldCase)
      (noAlias : ∀ clause label rest, back = clause ++ rest → ¬ AliasClause label rest clause)
      (later : OnePass r back result) :
      OnePass r (mention ++ back) (r.subquery r.shortName.toList ++ result)

theorem aliasAfter_eq_none_iff {back : List Char} : aliasAfter back = none ↔
    ∀ clause label rest, back = clause ++ rest → ¬ AliasClause label rest clause := by
  constructor
  · rintro none clause label rest rfl alias_
    rw [aliasAfter_eq_some_iff.2 ⟨clause, rest, rfl, alias_, rfl⟩] at none
    cases none
  · intro noAlias
    cases after : aliasAfter back with
    | none => rfl
    | some found =>
      obtain ⟨clause, rest, eq, alias_, -⟩ := aliasAfter_eq_some_iff.1 after
      exact absurd alias_ (noAlias clause found.1 rest eq)

theorem OnePass.eq {result : List Char} (ticked : IsTicked r.fullName.toList)
    (h : OnePass r text result) : result = replaceAll (anyMention r) text := by
  induction h with
  | done => rfl
  | keep free later ih =>
    rw [replaceAll_cons_of_none ((looksFor_anyMention r).eq_none free), ih]
  | @aliased mention clause label back result same alias_ later ih =>
    have size : (mention ++ clause).length = r.fullName.toList.length + clause.length := by
      rw [List.length_append, length_of_same same]
    have nonempty := List.append_ne_nil_of_left_ne_nil (ticked.mention_ne_nil same) (clause ++ back)
    rw [replaceAll_of_some nonempty (Nat.add_pos_left ticked.length_pos _)
      (anyMention_of_aliasClause same alias_), ← List.append_assoc, List.drop_left' size, ih]
  | @bare mention back result same noAlias later ih =>
    have nonempty := List.append_ne_nil_of_left_ne_nil (ticked.mention_ne_nil same) back
    rw [replaceAll_of_some nonempty ticked.length_pos
      (anyMention_of_no_alias same (aliasAfter_eq_none_iff.2 noAlias)),
      List.drop_left' (length_of_same same), ih]

/-- Every text can be read once, and what it becomes is settled. -/
theorem onePass_iff {result : List Char} (ticked : IsTicked r.fullName.toList) :
    OnePass r text result ↔ result = replaceAll (anyMention r) text := by
  refine ⟨OnePass.eq ticked, ?_⟩
  rintro rfl
  -- induction on the length, as a mention is read as a whole
  generalize length : text.length = n
  induction n using Nat.strong_induction_on generalizing text with
  | _ n ih =>
    cases text with
    | nil => exact .done
    | cons c rest =>
      by_cases begins : BeginsWith r.fullName.toList (c :: rest)
      · obtain ⟨mention, back, eq, same⟩ := begins.exists_mention
        have positive := List.length_pos_of_ne_nil (ticked.mention_ne_nil same)
        rw [eq, List.length_append] at length
        rw [eq]
        cases after : aliasAfter back with
        | some found =>
          obtain ⟨clause, rest', rfl, alias_, -⟩ := aliasAfter_eq_some_iff.1 after
          rw [List.length_append] at length
          have later := OnePass.aliased same alias_ (ih _ (by omega) rfl)
          rwa [later.eq ticked] at later
        | none =>
          have later := OnePass.bare same (aliasAfter_eq_none_iff.1 after) (ih _ (by omega) rfl)
          rwa [later.eq ticked] at later
      · rw [replaceAll_cons_of_none ((looksFor_anyMention r).eq_none begins)]
        exact .keep begins (ih _ (length ▸ Nat.lt_succ_self _) rfl)

/-- A replacement is made as if the text were read once from left to right, and there is one way
to read it. The name has to stand in backticks without parentheses, the statement that is put in must
not mention it, and its mentions in the text must not overlap. -/
theorem substitute_onePass (r : Replacement) (sql : String) (ticked : IsTicked r.fullName.toList)
    (clean : ¬ Mentions r.fullName.toList r.sql.toList)
    (apart : MentionsApart [r.fullName.toList] sql.toList) :
    ∃ result, substitute sql r = .ok result ∧
      ∀ outcome, OnePass r sql.toList outcome ↔ outcome = result.toList := by
  refine ⟨_, substitute_of_named ticked.fullName_ne_empty sql, fun outcome => ?_⟩
  rw [onePass_iff ticked, apply_eq_replaceAll ticked clean apart, String.toList_ofList]

/-! ## An example -/

/-- A statement and a short name that could be taken for patterns. -/
def patternedOrders : Replacement := ⟨"`p`.`d`.`orders`", "SELECT \"$1\" AS `(`", "$0 `o`"⟩

/-- A statement with a mention in other letters, one whose alias is part of a longer word, and two
without anything between them. -/
def ordersQuery : String :=
  "FROM `P`.`d`.`ORDERS`\n aS x, `p`.`d`.`orders` AS aé`p`.`d`.`orders``p`.`d`.`orders`"

theorem substitute_onePass_orders :
    IsTicked patternedOrders.fullName.toList ∧
      ¬ Mentions patternedOrders.fullName.toList patternedOrders.sql.toList ∧
      MentionsApart [patternedOrders.fullName.toList] ordersQuery.toList ∧
      (∃ result, substitute ordersQuery patternedOrders = .ok result ∧
        ∀ outcome, OnePass patternedOrders ordersQuery.toList outcome ↔ outcome = result.toList) ∧
      substitute ordersQuery patternedOrders =
        .ok ("FROM (SELECT \"$1\" AS `(`) AS x, (SELECT \"$1\" AS `(`) AS $0 `o` AS aé" ++
          "(SELECT \"$1\" AS `(`) AS $0 `o`(SELECT \"$1\" AS `(`) AS $0 `o`") := by
  have ticked : IsTicked patternedOrders.fullName.toList := by decide +kernel
  have clean : ¬ Mentions patternedOrders.fullName.toList patternedOrders.sql.toList := by
    decide +kernel
  have apart : MentionsApart [patternedOrders.fullName.toList] ordersQuery.toList := by
    decide +kernel
  exact ⟨ticked, clean, apart, substitute_onePass patternedOrders ordersQuery ticked clean apart,
    by decide +kernel⟩

end ModelBench.Sql
