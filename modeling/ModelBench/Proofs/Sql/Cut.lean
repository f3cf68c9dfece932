import ModelBench.Proofs.Sql.Marks

/-!
# What parentheses and separators cut off

Parentheses enclose a text exactly when what stands between them is balanced
(`enclosed_eq_some_iff`). A text is cut at its last separator exactly where a copy of the separator
stands at the top with none behind it (`cutLast_eq_some_iff`). A text without a separator has none
after trimming (`positions_trim_eq_nil`).
-/

namespace ModelBench.Sql

variable {text left rest right inside after : List Char} {before : Option Char}
  {scan : Scan} {s : Separator} {position last : Nat}

/-! ## Parentheses -/

theorem Scan.Valid.run (h : scan.Valid) (text : List Char) : (scan.run text).Valid := by
  induction text generalizing scan with
  | nil => exact h
  | cons c text ih => exact ih (h.step c)

/-- Up to the parenthesis that closes the outermost one, no parenthesis inside is closed too often,
and there the scan stands outside quotes with none of them open. -/
theorem scan_of_untilClosed (h : untilClosed (scan.raise 1) text = some (inside, after)) :
    (scan.run inside).isTop = true ∧ ¬ scan.Sinks inside := by
  induction text generalizing scan inside with
  | nil => cases h
  | cons c rest ih =>
    rw [untilClosed] at h
    split_ifs at h with closes
    · obtain ⟨rfl, rfl⟩ := Prod.mk.inj (Option.some.inj h)
      have depth : scan.depth + 1 ≤ 1 := closes.2.2
      have closed : scan.quote = none := closes.1
      refine ⟨?_, id⟩
      rw [Scan.run_nil, Scan.isTop, closed, Bool.and_eq_true, beq_iff_eq]
      exact ⟨rfl, by omega⟩
    · obtain ⟨⟨inside', after'⟩, found, eq⟩ := Option.map_eq_some_iff.1 h
      obtain ⟨rfl, rfl⟩ := Prod.mk.inj eq
      have holds : ¬ scan.Underflows c := by
        rintro ⟨closed, depth, isClose⟩
        refine closes ⟨closed, isClose, ?_⟩
        show scan.depth + 1 ≤ 1
        omega
      rw [Scan.step_raise holds] at found
      rw [Scan.run_cons, Scan.Sinks, not_or]
      exact ⟨(ih found).1, holds, (ih found).2⟩

/-- Parentheses enclose a text exactly when it is balanced between them. -/
theorem enclosed_eq_some_iff :
    enclosed text = some inside ↔ Balanced inside ∧ text = '(' :: inside ++ [')'] := by
  constructor
  · intro h
    rw [enclosed] at h
    split at h
    · next inside' found =>
      obtain rfl := Option.some.inj h
      obtain rfl := parenthesised_eq_some found
      have closed : untilClosed (Scan.start.raise 1) (inside' ++ [')']) = some (inside', []) :=
        found
      obtain ⟨top, holds⟩ := scan_of_untilClosed closed
      exact ⟨⟨(Scan.valid_start.run inside').eq_start top, holds⟩, rfl⟩
    · cases h
  · rintro ⟨balanced, rfl⟩
    exact enclosed_of_balanced balanced

/-- A balanced text whose front is balanced up to its end has a balanced back. -/
theorem Balanced.of_append (h : Balanced (left ++ right))
    (ends : Scan.start.run left = .start) : Balanced left ∧ Balanced right := by
  have run := h.ends
  have holds := h.holds
  rw [Scan.run_append, ends] at run
  rw [Scan.sinks_append, ends, not_or] at holds
  exact ⟨⟨ends, holds.1⟩, ⟨run, holds.2⟩⟩

/-! ## The last separator -/

namespace Separator

/-- A text without positions of a separator is skipped, wherever it stands. -/
theorem skips_of_positionsFrom_eq_nil (h : s.positionsFrom scan before position text = []) :
    s.Skips scan before text [] := by
  induction text generalizing scan before position with
  | nil => exact .nil
  | cons c text ih =>
    rw [positionsFrom] at h
    split_ifs at h with here
    refine .cons ?_ (ih h)
    rw [List.append_nil]
    exact Bool.not_eq_true _ ▸ here

/-- The positions in a text are those in its front and then those behind it. -/
theorem exists_positionsFrom_append (s : Separator) (scan : Scan) (before : Option Char)
    (position : Nat) (left rest : List Char) : ∃ earlier,
    s.positionsFrom scan before position (left ++ rest) = earlier ++
      s.positionsFrom (scan.run left) (lastOr before left) (position + left.length) rest := by
  induction left generalizing scan before position with
  | nil => exact ⟨[], rfl⟩
  | cons c left ih =>
    obtain ⟨earlier, eq⟩ := ih (scan.step c) (some c) (position + 1)
    rw [Nat.add_assoc, Nat.add_comm 1] at eq
    rw [List.cons_append, positionsFrom, eq]
    split_ifs
    · exact ⟨position :: earlier, rfl⟩
    · exact ⟨earlier, rfl⟩

/-- At the last position of a separator the scan stands at the top before a copy of it, and there is
no position behind. -/
theorem exists_of_last (h : (s.positionsFrom scan before position text).getLast? = some last) :
    ∃ left rest, text = left ++ rest ∧ last = position + left.length ∧
      (scan.run left).isTop = true ∧ s.startsAt (lastOr before left) rest = true ∧
      s.positionsFrom (scan.run left) (lastOr before left) last rest = [last] := by
  induction text generalizing scan before position with
  | nil => cases h
  | cons c text ih =>
    rw [positionsFrom] at h
    cases later : s.positionsFrom (scan.step c) (some c) (position + 1) text with
    | nil =>
      rw [later] at h
      split_ifs at h with here
      · rw [List.getLast?_singleton, Option.some.injEq] at h
        subst h
        have starts := here
        rw [Bool.and_eq_true] at starts
        refine ⟨[], c :: text, rfl, rfl, starts.1, starts.2, ?_⟩
        rw [Scan.run_nil, lastOr_nil, positionsFrom, if_pos here, later]
      · cases h
    | cons next more =>
      -- the last position of all is the last one behind the first character
      have last_ : (s.positionsFrom (scan.step c) (some c) (position + 1) text).getLast? =
          some last := by
        rw [later]
        rw [later] at h
        split_ifs at h
        · rwa [List.getLast?_cons_cons] at h
        · exact h
      obtain ⟨left, rest, rfl, rfl, found⟩ := ih last_
      exact ⟨c :: left, rest, rfl, by rw [List.length_cons]; omega, found⟩

/-- A text is cut at a copy of the separator that stands at the top with no other one behind it. -/
theorem cutLast_eq_some_iff (known : s ∈ all) : s.cutLast text = some (left, right) ↔
    ∃ found, text = left ++ (found ++ right) ∧ lower found = lower s.text ∧
      s.Fits (lastOr none left) right ∧ Scan.start.run left = .start ∧
      s.Skips .start (lastOr (lastOr none left) found) right [] := by
  constructor
  · intro h
    obtain ⟨last, isLast, cut⟩ := Option.map_eq_some_iff.1 h
    obtain ⟨front, rest, rfl, rfl, top, starts, alone⟩ := exists_of_last isLast
    rw [Nat.zero_add] at cut alone
    obtain ⟨found, behind, rfl, same⟩ := exists_of_startsAt starts
    have ends := (Scan.valid_start.run front).eq_start top
    rw [ends, positionsFrom_found known same starts, List.cons_eq_cons, and_iff_right rfl] at alone
    rw [cutAt, ← length_congr same, List.take_left, ← List.append_assoc, ← List.length_append,
      List.drop_left] at cut
    obtain ⟨rfl, rfl⟩ := Prod.mk.inj cut
    exact ⟨found, rfl, same, (startsAt_found same).1 starts, ends,
      skips_of_positionsFrom_eq_nil alone⟩
  · rintro ⟨found, rfl, same, fits, ends, later⟩
    have starts := (startsAt_found same).2 fits
    obtain ⟨earlier, eq⟩ := exists_positionsFrom_append s .start none 0 left (found ++ right)
    have none_ := later (0 + left.length + found.length)
    rw [List.append_nil, positionsFrom] at none_
    rw [ends, positionsFrom_found known same starts, none_] at eq
    rw [cutLast, positions, eq, List.getLast?_concat, Option.map_some, Nat.zero_add, cutAt,
      ← length_congr same, List.take_left, ← List.append_assoc, ← List.length_append,
      List.drop_left]

end Separator

/-! ## Blanks around a text -/

theorem plain_of_blanks (blanks : Text.Blanks text) : Plain text := by
  intro c member
  have blank := blanks c member
  by_contra other
  rcases Separator.eq_mark_of_not_isPlain other with ((((rfl | rfl) | rfl) | rfl) | rfl) <;>
    cases blank

theorem isNameChar_of_isBlank {c : Char} (blank : Text.isBlank c = true) :
    isNameChar c = false := by
  rw [← Bool.not_eq_true]
  intro name
  rw [isBlank_of_isNameChar name] at blank
  cases blank

theorem startsName_append_blanks (blanks : Text.Blanks right) :
    startsName (text ++ right) = startsName text := by
  cases text with
  | cons c text => rfl
  | nil =>
    cases right with
    | nil => rfl
    | cons c right => exact isNameChar_of_isBlank (blanks c List.mem_cons_self)

theorem lastOr_blanks (blanks : Text.Blanks left) (free : before.any isNameChar = false) :
    (lastOr before left).any isNameChar = false := by
  induction left generalizing before with
  | nil => exact free
  | cons c left ih =>
    exact ih (fun x member => blanks x (List.mem_cons_of_mem _ member))
      (isNameChar_of_isBlank (blanks c List.mem_cons_self))

namespace Separator

/-- A separator at the start of a text is still there with blanks behind the text. -/
theorem startsAt_append_blanks (blanks : Text.Blanks right)
    (starts : s.startsAt before text = true) : s.startsAt before (text ++ right) = true := by
  obtain ⟨found, behind, rfl, same⟩ := exists_of_startsAt starts
  have fits := (startsAt_found same).1 starts
  rw [List.append_assoc]
  refine (startsAt_found same).2 fun words => ⟨(fits words).1, ?_⟩
  rw [startsName_append_blanks blanks]
  exact (fits words).2

theorem positionsFrom_eq_nil_of_blanks (blanks : Text.Blanks right)
    (none_ : s.positionsFrom scan before position (text ++ right) = []) :
    s.positionsFrom scan before position text = [] := by
  induction text generalizing scan before position with
  | nil => rfl
  | cons c text ih =>
    rw [List.cons_append, positionsFrom] at none_
    split_ifs at none_ with more
    rw [positionsFrom, if_neg, ih none_]
    intro here
    rw [Bool.and_eq_true] at here more
    exact more ⟨here.1, startsAt_append_blanks blanks here.2⟩

/-- Trimming leaves a text without a separator that it did not have before. -/
theorem positions_trim_eq_nil (none_ : s.positions text = []) :
    s.positions (Text.trim text) = [] := by
  obtain ⟨left, right, blanks, blanks', eq⟩ := Text.exists_pad text
  obtain ⟨earlier, parts⟩ :=
    exists_positionsFrom_append s .start none 0 left (Text.trim text ++ right)
  rw [← eq, ← positions, none_, eq_comm, List.append_eq_nil_iff,
    (balanced_of_plain (plain_of_blanks blanks)).ends] at parts
  have edge : (lastOr none left).any isNameChar = (none : Option Char).any isNameChar :=
    lastOr_blanks blanks rfl
  have inner := positionsFrom_eq_nil_of_blanks blanks' parts.2
  rw [positionsFrom_edge edge] at inner
  have anywhere := skips_of_positionsFrom_eq_nil inner 0
  rwa [List.append_nil] at anywhere

end Separator

end ModelBench.Sql
