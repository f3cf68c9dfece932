import ModelBench.Proofs.Sql.Offset.Separator

/-!
# Offsets of parentheses

The search for a closing parenthesis by bytes counts the open ones, and a number below zero gives
none. It starts at the first parenthesis and ends where that is closed, so that this never happens,
and it ends where the scan by characters does (`matchingParen_eq`).
-/

namespace ModelBench.Sql.ByOffset

open Text

variable {text past rest inside after : List Char} {c : Char} {i depth : Nat} {scan : Scan}
  {bs : List UInt8} {b : UInt8} {quote : Option UInt8}

/-- The offset of the parenthesis that closes the outermost open one, from an offset on. -/
def closingFrom (text : List UInt8) (i depth : Nat) (quote : Option UInt8) : Option (Option Nat) :=
  match _h : text[i]? with
  | none => some none
  | some b =>
    match quote with
    | some q =>
      if b = byte '\\' ∧ q ≠ byte '\x60' then closingFrom text (i + 2) depth (some q)
      else closingFrom text (i + 1) depth (if b = q then none else some q)
    | none =>
      if isQuoteByte b then closingFrom text (i + 1) depth (some b)
      else if b = byte '(' then closingFrom text (i + 1) (depth + 1) none
      else if b = byte ')' then do
        let depth ← subtract depth 1
        if depth = 0 then return some i else closingFrom text (i + 1) depth none
      else closingFrom text (i + 1) depth none
  termination_by text.length - i
  decreasing_by all_goals have := (List.getElem?_eq_some_iff.1 _h).1; omega

/-- The offset of the parenthesis that closes the one a text starts with. -/
def matchingParen (text : List Char) : Option (Option Nat) :=
  if (bytes text).head? = some (byte '(') then closingFrom (bytes text) 0 0 none else some none

/-- What stands between parentheses that enclose the whole text. -/
def enclosedPart (text : List Char) : Option (Option (List Char)) := do
  match ← matchingParen text with
  | none => return none
  | some close =>
    if close = (← subtract (size text) 1) then return some (← slice text 1 close) else return none

theorem closingFrom_end (ends : bs[i]? = none) : closingFrom bs i depth quote = some none := by
  rw [closingFrom]
  split
  · rfl
  · simp_all

theorem closingFrom_quoted {q : UInt8} (read : bs[i]? = some b) :
    closingFrom bs i depth (some q) =
      if b = byte '\\' ∧ q ≠ byte '\x60' then closingFrom bs (i + 2) depth (some q)
      else closingFrom bs (i + 1) depth (if b = q then none else some q) := by
  rw [closingFrom]
  split
  · simp_all
  · simp_all

theorem closingFrom_free (read : bs[i]? = some b) :
    closingFrom bs i depth none =
      if isQuoteByte b then closingFrom bs (i + 1) depth (some b)
      else if b = byte '(' then closingFrom bs (i + 1) (depth + 1) none
      else if b = byte ')' then (do
        let depth ← subtract depth 1
        if depth = 0 then return some i else closingFrom bs (i + 1) depth none)
      else closingFrom bs (i + 1) depth none := by
  rw [closingFrom]
  split
  · simp_all
  · simp_all

theorem isLoop_closingFrom (bs : List UInt8) : IsLoop bs (closingFrom bs) where
  quoted read := closingFrom_quoted read
  opens read opens := by rw [closingFrom_free read, if_pos opens]
  raises read := by rw [closingFrom_free read, if_neg (by decide), if_pos rfl]
  passes read large := by
    rw [closingFrom_free read, if_neg (isQuoteByte_of_le large),
      if_neg (ne_of_large large (by decide)), if_neg (ne_of_large large (by decide))]

theorem closingFrom_step (valid : scan.Valid) (closesNot : ¬ (scan.quote = none ∧ c = ')')) :
    following (closingFrom (bytes (past ++ c :: rest))) scan past =
      following (closingFrom (bytes (past ++ c :: rest))) (scan.step c) (past ++ [c]) := by
  rcases follows_or_outside valid c with follows | ⟨small, noQuote, noOpen, d, rfl⟩
  · exact (isLoop_closingFrom _).step valid follows
  · have noClose : c ≠ ')' := fun eq => closesNot ⟨rfl, eq⟩
    rw [following_outside, closingFrom_free (getElem?_of_small small past rest), Scan.step_outside,
      isQuoteByte_byte small, if_neg noQuote, if_neg noQuote,
      if_neg (byte_ne small (by decide) noOpen), if_neg noOpen,
      if_neg (byte_ne small (by decide) noClose), if_neg noClose, following_outside,
      size_concat small]

theorem depth_step (closesNot : ¬ (scan.quote = none ∧ c = ')')) :
    scan.depth ≤ (scan.step c).depth := by
  obtain ⟨quote, escaped, depth⟩ := scan
  cases quote with
  | none =>
    have noClose : c ≠ ')' := fun eq => closesNot ⟨rfl, eq⟩
    simp only [Scan.step, if_neg noClose]
    split_ifs <;> simp
  | some q =>
    simp only [Scan.step]
    split_ifs <;> exact Nat.le_refl _

/-- The loop stops at the parenthesis that a scan stops at. While it runs, at least one parenthesis
is open, so that no number gets below zero. -/
theorem closingFrom_eq (valid : scan.Valid) (raised : 1 ≤ scan.depth) (past rest : List Char) :
    following (closingFrom (bytes (past ++ rest))) scan past =
      some ((untilClosed scan rest).map fun found => size past + size found.1) := by
  induction rest generalizing scan past with
  | nil =>
    refine closingFrom_end (List.getElem?_eq_none ?_)
    rw [List.append_nil, length_bytes, index]
    exact Nat.le_add_right _ _
  | cons c rest ih =>
    have later (deeper : 1 ≤ (scan.step c).depth) :
        following (closingFrom (bytes (past ++ c :: rest))) (scan.step c) (past ++ [c]) =
          some (((untilClosed (scan.step c) rest).map fun found =>
            (c :: found.1, found.2)).map fun found => size past + size found.1) := by
      have next := ih (valid.step c) deeper (past ++ [c])
      rw [List.append_assoc, List.singleton_append] at next
      rw [next, Option.map_map]
      congr 2
      funext found
      simp [Nat.add_assoc]
    by_cases closes : scan.quote = none ∧ c = ')'
    · obtain ⟨d, rfl⟩ : ∃ d, scan = .outside d := ⟨_, valid.eq_outside closes.1⟩
      obtain rfl := closes.2
      have down : subtract d 1 = some (d - 1) := if_pos raised
      have closing : (Scan.outside d).step ')' = .outside (d - 1) := rfl
      rw [following_outside, closingFrom_free (getElem?_of_small (by decide) past rest),
        if_neg (by decide), if_neg (by decide), if_pos rfl, down, Option.bind_eq_bind,
        Option.bind_some, untilClosed]
      rw [closing, following_outside, size_concat (by decide)] at later
      by_cases last : d ≤ 1
      · rw [if_pos (by omega), if_pos ⟨rfl, rfl, last⟩]
        rfl
      · rw [if_neg (by omega), if_neg fun h => last h.2.2, closing]
        exact later (Nat.le_sub_of_add_le (Nat.lt_of_not_le last))
    · have deeper := Nat.le_trans raised (depth_step closes)
      rw [closingFrom_step valid closes, later deeper, untilClosed,
        if_neg fun h => closes ⟨h.1, h.2.1⟩]

/-- The parenthesis that closes the first one stands behind what the scan gives. -/
theorem matchingParen_eq (text : List Char) :
    matchingParen text = some ((parenthesised text).map fun found => 1 + size found.1) := by
  unfold parenthesised
  split
  · next rest =>
    have opens : following (closingFrom (bytes ([] ++ '(' :: rest))) (.outside 0) [] = _ :=
      (isLoop_closingFrom _).step_opens (.inr rfl)
    have closes : following (closingFrom (bytes (['('] ++ rest))) (.outside 1) ['('] = _ :=
      closingFrom_eq (Scan.valid_outside 1) (Nat.le_refl 1) ['('] rest
    exact (if_pos rfl).trans (opens.trans closes)
  · next other =>
    refine if_neg fun first => ?_
    cases text with
    | nil => cases first
    | cons c rest =>
      obtain ⟨b, member, read⟩ := exists_of_lt [] rest c.utf8Size_pos
      rw [List.head?_eq_getElem?] at first
      obtain rfl := Option.some.inj (read.symm.trans first)
      exact other rest (by rw [eq_of_byte_mem (by decide) member])

example : matchingParen "(é'\\é)')".toList = some (some 9) := by cbv

/-- A closing parenthesis lies within the text, and so does what it encloses. -/
theorem slice_eq_parenthesised (h : parenthesised text = some (inside, after)) :
    slice text 1 (1 + size inside) = some inside ∧
      slice text (1 + size inside + 1) (size text) = some after := by
  obtain rfl := parenthesised_eq_some h
  have front : slice ('(' :: (inside ++ ')' :: after)) 1 (1 + size inside) = some inside :=
    slice_append ['('] inside (')' :: after)
  have whole : '(' :: (inside ++ ')' :: after) = ('(' :: inside ++ [')']) ++ after := by simp
  have past : size ('(' :: inside ++ [')']) = 1 + size inside + 1 := by
    rw [size_concat (by decide), size_cons]
    rfl
  exact ⟨front, by rw [whole, ← past, slice_to_end]⟩

/-- A scan for the closing parenthesis gives a border behind the first byte, and so is the next
offset. -/
theorem exists_matchingParen (text : List Char) : ∃ close, matchingParen text = some close ∧
    ∀ offset ∈ close, 1 ≤ offset ∧ IsBorder text 1 ∧ IsBorder text offset ∧
      IsBorder text (offset + 1) := by
  refine ⟨_, matchingParen_eq text, fun offset member => ?_⟩
  obtain ⟨⟨inside, after⟩, found, rfl⟩ := Option.map_eq_some_iff.1 member
  have slices := slice_eq_parenthesised found
  have inner := borders_of_slice slices.1
  exact ⟨inner.1, inner.2.1, inner.2.2, (borders_of_slice slices.2).2.1⟩

/-- The enclosed part lies between the first and the last byte of the text. -/
theorem enclosedPart_eq (text : List Char) : enclosedPart text = some (enclosed text) := by
  rw [enclosedPart, matchingParen_eq, enclosed]
  cases h : parenthesised text with
  | none => rfl
  | some found =>
    obtain ⟨inside, after⟩ := found
    have slices := slice_eq_parenthesised h
    have whole : size text = 1 + size inside + 1 + size after := by
      rw [parenthesised_eq_some h, size_cons, size_append, size_cons, ← Nat.add_assoc,
        ← Nat.add_assoc]
      rfl
    have last : subtract (size text) 1 = some (1 + size inside + size after) := by
      rw [subtract, if_pos (by omega), whole]
      congr 1
      omega
    simp only [Option.map_some, Option.bind_eq_bind, Option.bind_some, last, slices.1]
    cases after with
    | nil => exact if_pos rfl
    | cons c after =>
      have := c.utf8Size_pos
      refine if_neg ?_
      rw [size_cons]
      omega

end ModelBench.Sql.ByOffset
