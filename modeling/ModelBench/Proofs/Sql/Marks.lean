import ModelBench.Proofs.Sql.Separator

/-!
# Copies of a separator

A scan outside quotes takes no notice of the case of letters (`positionsFrom_congr`), so the only
position inside a separator in any spelling is its first one (`positionsFrom_found`). The positions
of a separator are thus those of copies that stand one behind another (`marks_positions`).
-/

namespace ModelBench.Sql

variable {text other after : List Char} {before before' : Option Char} {position : Nat}
  {c : Char}

/-! ## Case -/

theorem lower_eq_nil_iff : lower text = [] ↔ text = [] := List.map_eq_nil_iff

theorem exists_of_lower_cons (same : lower (c :: text) = lower other) : ∃ d tail,
    other = d :: tail ∧ c.toLower = d.toLower ∧ lower text = lower tail := by
  cases other with
  | nil => cases same
  | cons d tail =>
    obtain ⟨head, tail'⟩ := List.cons.inj same
    exact ⟨d, tail, rfl, head, tail'⟩

theorem length_congr (same : lower text = lower other) : text.length = other.length := by
  simpa [lower] using congrArg List.length same

theorem isNameChar_congr {d : Char} (same : c.toLower = d.toLower) :
    isNameChar c = isNameChar d := by
  rw [← isNameChar_toLower, same, isNameChar_toLower]

theorem isPlain_toLower (c : Char) : isPlain c.toLower = isPlain c := by
  by_cases name : isNameChar c = true
  · rw [Separator.isPlain_of_isNameChar name]
    exact Separator.isPlain_of_isNameChar (by rw [isNameChar_toLower, name])
  · rw [toLower_eq_self fun capital => name ((isNameChar_iff c).2 (.inl capital))]

theorem startsName_congr (same : lower text = lower other) :
    startsName text = startsName other := by
  cases text with
  | nil => rw [lower_eq_nil_iff.1 same.symm]
  | cons c text =>
    obtain ⟨d, tail, rfl, head, -⟩ := exists_of_lower_cons same
    exact isNameChar_congr head

theorem dropIgnoringCase_congr (wanted : List Char) (same : lower text = lower other) :
    (dropIgnoringCase wanted text).map lower = (dropIgnoringCase wanted other).map lower := by
  induction wanted generalizing text other with
  | nil => exact congrArg some same
  | cons w wanted ih =>
    cases text with
    | nil => rw [lower_eq_nil_iff.1 same.symm]
    | cons c text =>
      obtain ⟨d, tail, rfl, head, same⟩ := exists_of_lower_cons same
      rw [dropIgnoringCase, dropIgnoringCase, head]
      split_ifs
      · exact ih same
      · rfl

theorem lastOr_congr (same : lower text = lower other)
    (edge : before.any isNameChar = before'.any isNameChar) :
    (lastOr before text).any isNameChar = (lastOr before' other).any isNameChar := by
  induction text generalizing other before before' with
  | nil =>
    rw [lower_eq_nil_iff.1 same.symm]
    exact edge
  | cons c text ih =>
    obtain ⟨d, tail, rfl, head, same⟩ := exists_of_lower_cons same
    rw [lastOr_cons, lastOr_cons]
    exact ih same (isNameChar_congr head)

namespace Separator

variable {s : Separator} {scan : Scan} {past rest left found right : List Char}
  {positions : List Nat}

theorem startsAt_congr_lower (same : lower text = lower other)
    (edge : before.any isNameChar = before'.any isNameChar) :
    s.startsAt before text = s.startsAt before' other := by
  have drop := dropIgnoringCase_congr s.text same
  rw [startsAt, startsAt, edge]
  cases h : dropIgnoringCase s.text text with
  | none =>
    rw [h, Option.map_none, eq_comm, Option.map_eq_none_iff] at drop
    rw [drop]
  | some rest =>
    rw [h, Option.map_some, eq_comm, Option.map_eq_some_iff] at drop
    obtain ⟨rest', h', same'⟩ := drop
    simp only [h', startsName_congr same']

theorem positionsFrom_edge (edge : before.any isNameChar = before'.any isNameChar) :
    s.positionsFrom scan before position text = s.positionsFrom scan before' position text := by
  cases text with
  | nil => rfl
  | cons c text => rw [positionsFrom, positionsFrom, startsAt_congr edge]

/-- The positions in a text without quotes and parentheses do not depend on the case of letters. -/
theorem positionsFrom_congr (same : lower text = lower other) (plain : Plain text)
    (edge : before.any isNameChar = before'.any isNameChar) (after : List Char) (position : Nat) :
    s.positionsFrom .start before position (text ++ after) =
      s.positionsFrom .start before' position (other ++ after) := by
  induction text generalizing other before before' position with
  | nil =>
    rw [lower_eq_nil_iff.1 same.symm]
    exact positionsFrom_edge edge
  | cons c text ih =>
    obtain ⟨d, tail, rfl, head, same'⟩ := exists_of_lower_cons same
    rw [Plain, List.forall_mem_cons] at plain
    have plain' : isPlain d = true := by
      rw [← isPlain_toLower, ← head, isPlain_toLower, plain.1]
    have here : s.startsAt before (c :: (text ++ after)) =
        s.startsAt before' (d :: (tail ++ after)) :=
      startsAt_congr_lower (by simp [head, same']) edge
    have edge' : (some c).any isNameChar = (some d).any isNameChar := isNameChar_congr head
    rw [List.cons_append, List.cons_append, positionsFrom, positionsFrom, here,
      start_step plain.1, start_step plain', ih same' plain.2 edge']

theorem plain_of_lower (known : s ∈ all) (same : lower found = lower s.text) : Plain found := by
  intro c member
  have lowered : c.toLower ∈ lower s.text := same ▸ List.mem_map_of_mem member
  obtain ⟨d, member', eq⟩ := List.mem_map.1 lowered
  rw [← isPlain_toLower, ← eq, isPlain_toLower, plain_text known d member']

theorem ne_nil_of_lower (known : s ∈ all) (same : lower found = lower s.text) : found ≠ [] :=
  fun nil => text_ne_nil known (lower_eq_nil_iff.1 (by rw [← same, nil, lower_nil]))

/-- A separator in any spelling counts exactly where it may stand. -/
theorem startsAt_found (same : lower found = lower s.text) :
    s.startsAt before (found ++ after) = true ↔ s.Fits before after := by
  have spelled : lower (found ++ after) = lower (s.text ++ after) := by
    rw [lower_append, same, ← lower_append]
  rw [startsAt_congr_lower spelled rfl, startsAt, dropIgnoringCase_self, Fits]
  cases s.ofWords <;> simp

/-- The only position inside a separator in any spelling is its first one. -/
theorem positionsFrom_found (known : s ∈ all) (same : lower found = lower s.text)
    (starts : s.startsAt before (found ++ after) = true) (position : Nat) :
    s.positionsFrom .start before position (found ++ after) =
      position :: s.positionsFrom .start (lastOr before found) (position + found.length) after := by
  have fits := (startsAt_found same).1 starts
  rw [positionsFrom_congr same (plain_of_lower known same) rfl, positionsFrom_text known fits,
    length_congr same, positionsFrom_edge (lastOr_congr same rfl)]

/-! ## Marks -/

/-- Whether some positions are those of copies of a separator that stand one behind another in a
text, `past` being what comes before it. -/
inductive Marks (s : Separator) : (past rest : List Char) → (positions : List Nat) → Prop
  | none {past rest : List Char} : s.Marks past rest []
  | next {past left found right : List Char} {positions : List Nat}
      (same : lower found = lower s.text)
      (later : s.Marks (past ++ (left ++ found)) right positions) :
      s.Marks past (left ++ (found ++ right)) ((past ++ left).length :: positions)

theorem Marks.cons (h : s.Marks (past ++ [c]) rest positions) :
    s.Marks past (c :: rest) positions := by
  generalize eq : past ++ [c] = longer at h
  cases h with
  | none => exact .none
  | @next _ left found right positions same later =>
    subst eq
    rw [List.append_assoc] at later ⊢
    have next : s.Marks past (c :: left ++ (found ++ right)) _ := .next same later
    exact next

/-- What stands at a position of a separator is a copy of it. -/
theorem Marks.exists_of_mem (h : s.Marks past rest positions) (member : position ∈ positions) :
    ∃ left found right, past ++ rest = left ++ (found ++ right) ∧ left.length = position ∧
      lower found = lower s.text := by
  induction h with
  | none => cases member
  | @next past left found right positions same later ih =>
    rcases List.mem_cons.1 member with rfl | member
    · exact ⟨past ++ left, found, right, by rw [List.append_assoc], rfl, same⟩
    · obtain ⟨left', found', right', eq, rfl, same'⟩ := ih member
      exact ⟨left', found', right', by rw [← eq]; simp only [List.append_assoc], rfl, same'⟩

end Separator

/-! ## Scans -/

namespace Scan

theorem step_outside (depth : Nat) (c : Char) : (outside depth).step c =
    if isQuote c then inside c depth else if c = '(' then outside (depth + 1)
    else if c = ')' then outside (depth - 1) else outside depth := rfl

theorem step_inside (q : Char) (depth : Nat) (c : Char) : (inside q depth).step c =
    if c = '\\' ∧ q ≠ '\x60' then ⟨some q, true, depth⟩
    else if c = q then outside depth else inside q depth := rfl

theorem step_escaped (q : Char) (depth : Nat) (c : Char) :
    (⟨some q, true, depth⟩ : Scan).step c = inside q depth := rfl

/-- Whether a scan can be met: it is in no quote but one of the three kinds, and only inside a quote
does a backslash take the next character with it. -/
structure Valid (scan : Scan) : Prop where
  quote : ∀ q ∈ scan.quote, isQuote q = true
  escaped : scan.escaped = true → scan.quote.isSome

theorem valid_outside (depth : Nat) : (outside depth).Valid where
  quote _ member := absurd member (Option.not_mem_none _)
  escaped on := absurd on Bool.false_ne_true

theorem valid_start : start.Valid := valid_outside 0

theorem valid_inside {q : Char} (quote : isQuote q = true) (depth : Nat) :
    (inside q depth).Valid where
  quote _ member := Option.some.inj member ▸ quote
  escaped on := absurd on Bool.false_ne_true

theorem Valid.eq_outside {scan : Scan} (h : scan.Valid) (closed : scan.quote = none) :
    scan = .outside scan.depth := by
  have free : scan.escaped = false := by
    rw [← Bool.not_eq_true]
    intro on
    have open_ := h.escaped on
    rw [closed] at open_
    cases open_
  obtain ⟨quote, escaped, depth⟩ := scan
  rw [outside, Scan.mk.injEq]
  exact ⟨closed, free, rfl⟩

theorem Valid.step {scan : Scan} (h : scan.Valid) (c : Char) : (scan.step c).Valid := by
  obtain ⟨quote, escaped, depth⟩ := scan
  cases quote with
  | none =>
    rw [h.eq_outside rfl, step_outside]
    split_ifs with opens
    · exact valid_inside opens _
    all_goals exact valid_outside _
  | some q =>
    have quote : isQuote q = true := h.quote q rfl
    cases escaped with
    | true =>
      rw [step_escaped]
      exact valid_inside quote depth
    | false =>
      have eq := step_inside q depth c
      rw [inside] at eq
      rw [eq]
      split_ifs
      · exact ⟨h.quote, fun _ => rfl⟩
      · exact valid_outside depth
      · exact h

theorem Valid.eq_start {scan : Scan} (h : scan.Valid) (top : scan.isTop = true) :
    scan = .start := by
  rw [isTop, Bool.and_eq_true, Option.isNone_iff_eq_none, beq_iff_eq] at top
  rw [h.eq_outside top.1, top.2]
  rfl

end Scan

namespace Separator

variable {s : Separator}

theorem exists_of_startsAt (starts : s.startsAt before text = true) : ∃ found right,
    text = found ++ right ∧ lower found = lower s.text := by
  rw [startsAt] at starts
  cases h : dropIgnoringCase s.text text with
  | none =>
    rw [h] at starts
    cases starts
  | some right =>
    obtain ⟨found, eq, same⟩ := dropIgnoringCase_eq_some_iff.1 h
    exact ⟨found, right, eq, same⟩

/-- A scan marks copies of the separator, one behind another. -/
theorem marks_positionsFrom (known : s ∈ all) {scan : Scan} (valid : scan.Valid)
    (past rest : List Char) :
    s.Marks past rest (s.positionsFrom scan (lastOr none past) past.length rest) := by
  match rest with
  | [] => exact .none
  | c :: rest =>
    by_cases here : (scan.isTop && s.startsAt (lastOr none past) (c :: rest)) = true
    · rw [Bool.and_eq_true] at here
      obtain rfl := valid.eq_start here.1
      obtain ⟨found, right, eq, same⟩ := exists_of_startsAt here.2
      have nonempty := List.length_pos_iff.2 (ne_nil_of_lower known same)
      have shorter : right.length < (c :: rest).length := by
        rw [eq, List.length_append]
        omega
      have later := marks_positionsFrom known Scan.valid_start (past ++ found) right
      rw [lastOr_append, List.length_append] at later
      have next : s.Marks past ([] ++ (found ++ right)) _ := .next same later
      rw [List.append_nil] at next
      rw [eq, positionsFrom_found known same (eq ▸ here.2)]
      exact next
    · have later := marks_positionsFrom known (valid.step c) (past ++ [c]) rest
      rw [lastOr_append, List.length_append] at later
      rw [positionsFrom, if_neg here]
      exact later.cons
  termination_by rest.length
  decreasing_by
  · exact shorter
  · exact Nat.lt_succ_self _

theorem marks_positions (known : s ∈ all) (text : List Char) :
    s.Marks [] text (s.positions text) :=
  marks_positionsFrom known Scan.valid_start [] text

end Separator

end ModelBench.Sql
