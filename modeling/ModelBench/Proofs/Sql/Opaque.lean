import ModelBench.Proofs.Sql.Literal
import ModelBench.Proofs.Sql.Offset.Parentheses

/-!
# Literals are opaque

A scan that is outside quotes before a literal is outside quotes at the same depth right behind it,
and inside the quote everywhere between (`run_prefix_quoted`). The search for a separator goes on
behind the literal with what it found before it (`positions_append_quoted`), and the search for a
closing parenthesis goes on there without an end (`parenthesised_append_quoted`). The loops over
bytes do the same (`literal_skipped`), whatever the value.
-/

namespace ModelBench.Sql

variable {front part rest text more after wanted value : List Char} {before : Option Char}
  {d position : Nat} {s : Separator} {scan : Scan}

/-- A value between double quotes. -/
def inQuotes (value : String) : List Char := '"' :: (escapeLiteral value).toList ++ ['"']

theorem inQuotes_eq (value : String) : inQuotes value = quoted value.toList := by
  rw [inQuotes, quoted, toList_escapeLiteral]

/-! ## The scan -/

/-- Inside double quotes every beginning of an escaped text leaves the scan inside. It may only be
about to skip a character. -/
theorem run_prefix_escape (eq : escape value = part ++ rest) :
    ∃ escaped, (Scan.inside '"' d).run part = ⟨some '"', escaped, d⟩ := by
  induction value generalizing part with
  | nil =>
    obtain ⟨rfl, -⟩ := List.append_eq_nil_iff.1 eq.symm
    exact ⟨false, rfl⟩
  | cons c value ih =>
    rw [escape] at eq
    split_ifs at eq with special
    · cases part with
      | nil => exact ⟨false, rfl⟩
      | cons x part =>
        obtain ⟨rfl, tail⟩ := List.cons.inj eq
        cases part with
        | nil => exact ⟨true, rfl⟩
        | cons y part =>
          have later := ih (List.cons.inj tail).2
          exact later
    · cases part with
      | nil => exact ⟨false, rfl⟩
      | cons x part =>
        obtain ⟨rfl, tail⟩ := List.cons.inj eq
        rw [Scan.run_cons, inside_step special]
        exact ih tail

/-- The scan of a literal is inside the quote until its last character. -/
theorem run_prefix_quoted (eq : quoted value = part ++ rest) (begun : part ≠ [])
    (unfinished : rest ≠ []) : ((Scan.outside d).run part).quote = some '"' ∧
      ((Scan.outside d).run part).depth = d := by
  obtain ⟨x, inner, rfl⟩ := List.exists_cons_of_ne_nil begun
  obtain ⟨behind, y, rfl⟩ := (List.eq_nil_or_concat' rest).resolve_left unfinished
  have eq : '"' :: (escape value ++ ['"']) = x :: ((inner ++ behind) ++ [y]) := by
    simpa [quoted] using eq
  obtain ⟨rfl, tail⟩ := List.cons.inj eq
  obtain ⟨escaped, run⟩ := run_prefix_escape (d := d) (List.append_inj_left' tail rfl)
  have steps : (Scan.outside d).run ('"' :: inner) = (Scan.inside '"' d).run inner := rfl
  rw [steps, run]
  exact ⟨rfl, rfl⟩

/-! ## Separators -/

theorem dropIgnoringCase_append_quote (absent : '"' ∉ lower wanted) :
    dropIgnoringCase wanted (text ++ '"' :: after) =
      (dropIgnoringCase wanted text).map (· ++ '"' :: after) := by
  induction wanted generalizing text with
  | nil => rfl
  | cons w wanted ih =>
    rw [lower_cons, List.mem_cons, not_or] at absent
    cases text with
    | nil => exact if_neg fun same => absent.1 same.symm
    | cons c text =>
      rw [List.cons_append, dropIgnoringCase, dropIgnoringCase]
      split_ifs
      · exact ih absent.2
      · rfl

theorem startsName_append_quote (text after : List Char) :
    startsName (text ++ '"' :: after) = startsName text := by
  cases text <;> rfl

namespace Separator

theorem quote_notMem_text (known : s ∈ all) : '"' ∉ lower s.text := by
  revert s
  decide

/-- A quote behind a text ends it: no separator starts before the quote and ends behind it. -/
theorem startsAt_append_quote (known : s ∈ all) :
    s.startsAt before (text ++ '"' :: after) = s.startsAt before text := by
  rw [startsAt, startsAt, dropIgnoringCase_append_quote (quote_notMem_text known)]
  cases dropIgnoringCase s.text text with
  | none => rfl
  | some rest => simp only [Option.map_some, startsName_append_quote]

theorem positionsFrom_append_quote (known : s ∈ all) :
    s.positionsFrom scan before position (text ++ '"' :: after) =
      s.positionsFrom scan before position text ++
        s.positionsFrom (scan.run text) (lastOr before text) (position + text.length)
          ('"' :: after) := by
  induction text generalizing scan before position with
  | nil => rfl
  | cons c text ih =>
    have here : s.startsAt before (c :: text ++ '"' :: after) = s.startsAt before (c :: text) :=
      startsAt_append_quote known
    rw [List.cons_append] at here ⊢
    rw [positionsFrom, positionsFrom, here, ih, List.length_cons, Scan.run_cons, lastOr_cons,
      Nat.add_assoc, Nat.add_comm 1]
    split_ifs <;> rfl

theorem skips_quoted (known : s ∈ all) :
    s.Skips (.outside d) before (quoted value) after :=
  skips_around known (spares_marks known '"' (by simp)) (spares_marks known '"' (by simp))
    skips_escape

theorem lastOr_quoted (value : List Char) (before : Option Char) :
    lastOr before (quoted value) = some '"' := by
  rw [quoted, lastOr_append, lastOr_cons, lastOr_nil]

/-- The positions in a text with a literal are those before the literal and those behind it. -/
theorem positions_append_quoted (known : s ∈ all) (outside : Scan.start.run front = .outside d)
    (value after : List Char) :
    s.positions (front ++ (quoted value ++ after)) = s.positions front ++
      s.positionsFrom (.outside d) (some '"') (front ++ quoted value).length after := by
  have quoted_ : s.Skips (.outside d) (lastOr none front) (quoted value) after := skips_quoted known
  have skips := quoted_ (0 + front.length)
  rw [(balanced_quoted value).run_outside, lastOr_quoted, Nat.zero_add, ← List.length_append]
    at skips
  have opens : quoted value ++ after = '"' :: (escape value ++ ['"'] ++ after) := rfl
  rw [positions, positions, opens, positionsFrom_append_quote known, outside, ← opens,
    Nat.zero_add, skips]

end Separator

/-! ## Parentheses -/

theorem untilClosed_append (open_ : untilClosed scan text = none) (more : List Char) :
    untilClosed scan (text ++ more) =
      (untilClosed (scan.run text) more).map fun found => (text ++ found.1, found.2) := by
  induction text generalizing scan with
  | nil => exact Option.map_id'.symm
  | cons c text ih =>
    rw [untilClosed] at open_
    rw [List.cons_append, untilClosed]
    split_ifs at open_ ⊢ with closes
    rw [ih (Option.map_eq_none_iff.1 open_), Option.map_map]
    rfl

/-- While the outermost parenthesis is not closed, at least one is open. -/
theorem depth_pos_of_untilClosed (raised : 1 ≤ scan.depth) (open_ : untilClosed scan text = none) :
    1 ≤ (scan.run text).depth := by
  induction text generalizing scan with
  | nil => exact raised
  | cons c text ih =>
    rw [untilClosed] at open_
    split_ifs at open_ with closes
    refine ih ?_ (Option.map_eq_none_iff.1 open_)
    by_cases down : scan.quote = none ∧ c = ')'
    · have deep : ¬ scan.depth ≤ 1 := fun last => closes ⟨down.1, down.2, last⟩
      obtain ⟨quote, escaped, depth⟩ := scan
      obtain ⟨rfl, rfl⟩ := down
      exact Nat.le_sub_of_add_le (Nat.lt_of_not_le deep)
    · exact Nat.le_trans raised (ByOffset.depth_step down)

theorem untilClosed_of_quote {q c : Char} (open_ : scan.quote = some q) :
    untilClosed scan (c :: text) =
      (untilClosed (scan.step c) text).map fun found => (c :: found.1, found.2) := by
  rw [untilClosed, if_neg]
  rintro ⟨closed, -⟩
  rw [open_] at closed
  cases closed

theorem untilClosed_escape (d : Nat) (value : List Char) :
    untilClosed (.inside '"' d) (escape value ++ ['"']) = none := by
  induction value with
  | nil => rfl
  | cons c value ih =>
    rw [escape]
    split_ifs with special
    · have skip : ((Scan.inside '"' d).step '\\').step c = .inside '"' d := rfl
      rw [List.cons_append, List.cons_append, untilClosed_of_quote rfl, untilClosed_of_quote rfl,
        skip, ih]
      rfl
    · rw [List.cons_append, untilClosed_of_quote rfl, inside_step special, ih]
      rfl

/-- No parenthesis is closed in a literal. -/
theorem untilClosed_quoted (d : Nat) (value : List Char) :
    untilClosed (.outside d) (quoted value) = none := by
  have opens : untilClosed (.outside d) ('"' :: (escape value ++ ['"'])) = _ :=
    if_neg fun closes => absurd closes.2.1 (by decide)
  have step : (Scan.outside d).step '"' = .inside '"' d := rfl
  rw [step, untilClosed_escape] at opens
  exact opens

/-- The search for the parenthesis that closes the first one goes on behind a literal. -/
theorem parenthesised_append_quoted (opens : front.head? = some '(')
    (open_ : parenthesised front = none) (outside : Scan.start.run front = .outside d)
    (value after : List Char) : 1 ≤ d ∧ parenthesised (front ++ (quoted value ++ after)) =
      (untilClosed (.outside d) after).map fun found =>
        (front.tail ++ quoted value ++ found.1, found.2) := by
  obtain ⟨front, rfl⟩ := List.head?_eq_some_iff.1 opens
  have first : Scan.start.step '(' = .outside 1 := rfl
  rw [Scan.run_cons, first] at outside
  have open_ : untilClosed (.outside 1) front = none := open_
  have raised := depth_pos_of_untilClosed (Nat.le_refl 1) open_
  rw [outside] at raised
  refine ⟨raised, ?_⟩
  have search : untilClosed (.outside 1) (front ++ (quoted value ++ after)) = _ :=
    untilClosed_append open_ _
  rw [outside, untilClosed_append (untilClosed_quoted d value),
    (balanced_quoted value).run_outside, Option.map_map] at search
  rw [List.cons_append]
  refine search.trans (congrArg (Option.map · _) ?_)
  funext found
  simp

/-! ## Loops over bytes -/

namespace ByOffset

open Text

theorem offsetAt_append_of_le (within : position ≤ front.length) (more : List Char) :
    offsetAt (front ++ more) position = offsetAt front position := by
  rw [offsetAt, offsetAt, List.take_append_of_le_length within]

theorem position_le_length (known : s ∈ Separator.all) (member : position ∈ s.positions text) :
    position ≤ text.length := by
  obtain ⟨left, found, right, eq, rfl, -⟩ :=
    (Separator.marks_positions known text).exists_of_mem member
  rw [show text = left ++ (found ++ right) from eq, List.length_append]
  exact Nat.le_add_right _ _

/-- Behind a literal the loop for a separator is where it was before, with all that it found before
the literal. -/
theorem topLevelMatches_append_quoted (known : s ∈ Separator.all)
    (outside : Scan.start.run front = .outside d) (value after : List Char) :
    ∃ offsets, topLevelMatches s front = some offsets ∧
      topLevelMatches s (front ++ (quoted value ++ after)) =
        (matchesFrom (bytes (front ++ (quoted value ++ after))) (bytes s.text)
          (size (front ++ quoted value)) d none).map (offsets ++ ·) := by
  have later := matchesFrom_eq known (Scan.valid_outside d) (front ++ quoted value) after
  rw [following_outside, lastOr_append, Separator.lastOr_quoted, List.append_assoc] at later
  refine ⟨_, topLevelMatches_eq known front, ?_⟩
  rw [topLevelMatches_eq known, Separator.positions_append_quoted known outside, later,
    List.map_append, Option.map_some]
  congr 2
  exact List.map_congr_left fun position member =>
    offsetAt_append_of_le (position_le_length known member) _

/-- Behind a literal the loop for a closing parenthesis is where it was before. -/
theorem matchingParen_append_quoted (opens : front.head? = some '(')
    (open_ : matchingParen front = some none) (outside : Scan.start.run front = .outside d)
    (value after : List Char) :
    matchingParen (front ++ (quoted value ++ after)) =
      closingFrom (bytes (front ++ (quoted value ++ after))) (size (front ++ quoted value)) d
        none := by
  rw [matchingParen_eq] at open_
  obtain ⟨raised, search⟩ := parenthesised_append_quoted opens
    (Option.map_eq_none_iff.1 (Option.some.inj open_)) outside value after
  have later := closingFrom_eq (Scan.valid_outside d) raised (front ++ quoted value) after
  rw [following_outside, List.append_assoc] at later
  obtain ⟨front, rfl⟩ := List.head?_eq_some_iff.1 opens
  rw [later, matchingParen_eq, search, Option.map_map]
  congr 2
  funext found
  have first : size ('(' :: front) = 1 + size front := size_cons
  simp only [Function.comp_apply, List.tail_cons, size_append, first, Nat.add_assoc]

end ByOffset

/-! ## Literals -/

/-- A literal is opaque, whatever its value and what stands around it. Where a scan is outside
quotes, it is inside the quote until the last character of a literal and then outside again at the
same depth. The search for a separator finds what it finds before the literal and behind it, and the
search for a closing parenthesis, if it is still going on, goes on behind the literal. The loops
over bytes go on at the offset behind the literal, at the same depth and in no quote. -/
theorem literal_skipped {front : List Char} {d : Nat}
    (outside : Scan.start.run front = .outside d) (value : String) (after : List Char) :
    (∀ part rest, inQuotes value = part ++ rest → part ≠ [] → rest ≠ [] →
      (Scan.start.run (front ++ part)).quote = some '"' ∧
        (Scan.start.run (front ++ part)).depth = d) ∧
    Scan.start.run (front ++ inQuotes value) = .outside d ∧
    (∀ s ∈ Separator.all,
      s.positions (front ++ (inQuotes value ++ after)) = s.positions front ++
        s.positionsFrom (.outside d) (some '"') (front ++ inQuotes value).length after ∧
      ∃ offsets, ByOffset.topLevelMatches s front = some offsets ∧
        ByOffset.topLevelMatches s (front ++ (inQuotes value ++ after)) =
          (ByOffset.matchesFrom (Text.bytes (front ++ (inQuotes value ++ after)))
            (Text.bytes s.text) (Text.size (front ++ inQuotes value)) d none).map
              (offsets ++ ·)) ∧
    (front.head? = some '(' → ByOffset.matchingParen front = some none →
      parenthesised (front ++ (inQuotes value ++ after)) =
        (untilClosed (.outside d) after).map (fun found =>
          (front.tail ++ inQuotes value ++ found.1, found.2)) ∧
      ByOffset.matchingParen (front ++ (inQuotes value ++ after)) =
        ByOffset.closingFrom (Text.bytes (front ++ (inQuotes value ++ after)))
          (Text.size (front ++ inQuotes value)) d none) ∧
    unescape (escapeLiteral value).toList = value.toList := by
  rw [inQuotes_eq, toList_escapeLiteral]
  refine ⟨fun part rest eq begun unfinished => ?_, ?_, fun s known => ⟨?_, ?_⟩,
    fun opens open_ => ⟨?_, ?_⟩, unescape_escape value.toList⟩
  · rw [Scan.run_append, outside]
    exact run_prefix_quoted eq begun unfinished
  · rw [Scan.run_append, outside, (balanced_quoted value.toList).run_outside]
  · exact Separator.positions_append_quoted known outside value.toList after
  · exact ByOffset.topLevelMatches_append_quoted known outside value.toList after
  · rw [ByOffset.matchingParen_eq] at open_
    exact (parenthesised_append_quoted opens (Option.map_eq_none_iff.1 (Option.some.inj open_))
      outside value.toList after).2
  · exact ByOffset.matchingParen_append_quoted opens open_ outside value.toList after

/-- A value with a keyword, a quote, a parenthesis and a backslash at its end. -/
theorem literal_skipped_marks :
    Scan.start.run "SELECT ".toList = .outside 0 ∧
    Separator.fromWord.positions
      ("SELECT ".toList ++ (inQuotes "é\" FROM )\\" ++ " FROM t".toList)) = [22] ∧
    Scan.start.run "(SELECT ".toList = .outside 1 ∧
    ByOffset.matchingParen "(SELECT ".toList = some none ∧
    parenthesised ("(SELECT ".toList ++ (inQuotes "é\" FROM )\\" ++ " FROM t) AS u".toList)) =
      some ("SELECT ".toList ++ inQuotes "é\" FROM )\\" ++ " FROM t".toList, " AS u".toList) := by
  have outside : Scan.start.run "SELECT ".toList = .outside 0 := by decide
  have outside' : Scan.start.run "(SELECT ".toList = .outside 1 := by decide
  have open_ : ByOffset.matchingParen "(SELECT ".toList = some none := by cbv
  have top := (literal_skipped outside "é\" FROM )\\" " FROM t".toList).2.2.1 Separator.fromWord
    (by decide)
  have inner := (literal_skipped outside' "é\" FROM )\\" " FROM t) AS u".toList).2.2.2.1 rfl open_
  refine ⟨outside, ?_, outside', open_, ?_⟩
  · rw [top.1]
    decide
  · rw [inner.1]
    decide

end ModelBench.Sql
