import ModelBench.Proofs.Sql.Offset.Loop
import Mathlib.Data.List.Basic

/-!
# Offsets of separators

The search for a separator by bytes. What can go wrong gives none: a byte or a range of bytes that
is not there, a number below zero, a step that does not move on. Nothing does, and the offsets are
those of the positions that the scan by characters gives (`topLevelMatches_eq`). They are borders and
in order (`exists_offsets`), so the parts between them are slices (`splitTopLevel_eq`).
-/

namespace ModelBench.Sql.ByOffset

open Text

variable {text past rest found left right : List Char} {c : Char} {i depth : Nat} {s : Separator}
  {scan : Scan} {bs : List UInt8} {b : UInt8} {quote : Option UInt8}

/-! ## Reading -/

/-- The difference of two numbers, none if it is below zero. -/
def subtract (a b : Nat) : Option Nat := if b ≤ a then some (a - b) else none

/-- The bytes between two offsets, none if these are not in order or not within the bytes. -/
def window (text : List UInt8) (start stop : Nat) : Option (List UInt8) :=
  if start ≤ stop ∧ stop ≤ text.length then some ((text.drop start).take (stop - start)) else none

/-- Whether no name goes on before an offset. -/
def isFreeBefore (text : List UInt8) (i : Nat) : Option Bool :=
  if i = 0 then some true else do return !isNameByte (← text[← subtract i 1]?)

/-- Whether no name goes on behind an offset. -/
def isFreeBehind (text : List UInt8) (i : Nat) : Option Bool :=
  if i = text.length then some true else do return !isNameByte (← text[i]?)

/-- Whether a pattern consists of words. -/
def isWordPattern (pattern : List UInt8) : Bool :=
  pattern.all fun b => (byte 'a' ≤ lowerByte b && lowerByte b ≤ byte 'z') || b == byte ' '

/-- Whether a name goes on neither before an offset nor behind another one. -/
def isFree (text : List UInt8) (start stop : Nat) : Option Bool := do
  if ← isFreeBefore text start then isFreeBehind text stop else some false

/-- Whether a pattern stands at an offset, in any case of its letters. No name may go on before or
behind words. -/
def matchesAt (text pattern : List UInt8) (i : Nat) : Option Bool :=
  if text.length < i + pattern.length then some false
  else do
    let found ← window text i (i + pattern.length)
    if found.map lowerByte ≠ pattern.map lowerByte then some false
    else if isWordPattern pattern then isFree text i (i + pattern.length)
    else some true

/-- Whether a pattern stands at an offset outside parentheses. -/
def matchesTop (text pattern : List UInt8) (i depth : Nat) : Option Bool :=
  if depth = 0 then matchesAt text pattern i else some false

/-- The offsets of a pattern outside quotes and parentheses from an offset on. -/
def matchesFrom (text pattern : List UInt8) (i depth : Nat) (quote : Option UInt8) :
    Option (List Nat) :=
  match _h : text[i]? with
  | none => some []
  | some b =>
    match quote with
    | some q =>
      if b = byte '\\' ∧ q ≠ byte '\x60' then matchesFrom text pattern (i + 2) depth (some q)
      else matchesFrom text pattern (i + 1) depth (if b = q then none else some q)
    | none =>
      if isQuoteByte b then matchesFrom text pattern (i + 1) depth (some b)
      else if b = byte '(' then matchesFrom text pattern (i + 1) (depth + 1) none
      else if b = byte ')' then matchesFrom text pattern (i + 1) (depth - 1) none
      else do
        if ← matchesTop text pattern i depth then
          if _moves : 0 < pattern.length then
            (matchesFrom text pattern (i + pattern.length) depth none).map (i :: ·)
          else none
        else matchesFrom text pattern (i + 1) depth none
  termination_by text.length - i
  decreasing_by all_goals have := (List.getElem?_eq_some_iff.1 _h).1; omega

/-- The offsets of a separator outside quotes and parentheses. -/
def topLevelMatches (s : Separator) (text : List Char) : Option (List Nat) :=
  matchesFrom (bytes text) (bytes s.text) 0 0 none

/-- The parts of a text between copies of a separator at some offsets, the first part starting at
`start`. -/
def splitFrom (s : Separator) (text : List Char) : (start : Nat) → List Nat →
    Option (List (List Char))
  | start, [] => do return [← slice text start (size text)]
  | start, offset :: later => do
    return (← slice text start offset) :: (← splitFrom s text (offset + size s.text) later)

/-- The parts of a text between the separators. -/
def splitTopLevel (s : Separator) (text : List Char) : Option (List (List Char)) := do
  splitFrom s text 0 (← topLevelMatches s text)

/-! ## Single offsets -/

theorem matchesFrom_end (ends : bs[i]? = none) (p : List UInt8) :
    matchesFrom bs p i depth quote = some [] := by
  rw [matchesFrom]
  split
  · rfl
  · simp_all

theorem matchesFrom_quoted {q : UInt8} (read : bs[i]? = some b) (p : List UInt8) :
    matchesFrom bs p i depth (some q) =
      if b = byte '\\' ∧ q ≠ byte '\x60' then matchesFrom bs p (i + 2) depth (some q)
      else matchesFrom bs p (i + 1) depth (if b = q then none else some q) := by
  rw [matchesFrom]
  split
  · simp_all
  · simp_all

theorem matchesFrom_free (read : bs[i]? = some b) (p : List UInt8) :
    matchesFrom bs p i depth none =
      if isQuoteByte b then matchesFrom bs p (i + 1) depth (some b)
      else if b = byte '(' then matchesFrom bs p (i + 1) (depth + 1) none
      else if b = byte ')' then matchesFrom bs p (i + 1) (depth - 1) none
      else (do
        if ← matchesTop bs p i depth then
          if 0 < p.length then (matchesFrom bs p (i + p.length) depth none).map (i :: ·)
          else none
        else matchesFrom bs p (i + 1) depth none) := by
  rw [matchesFrom]
  split
  · simp_all
  · simp_all

theorem size_text_pos (known : s ∈ Separator.all) : 0 < size s.text :=
  Nat.pos_of_ne_zero fun zero => Separator.text_ne_nil known (size_eq_zero_iff.1 zero)

theorem allSmall_text (known : s ∈ Separator.all) : AllSmall s.text := by
  revert s
  decide

theorem isWordPattern_eq (known : s ∈ Separator.all) :
    isWordPattern (bytes s.text) = s.ofWords := by
  revert s
  decide

theorem window_eq (bs : List UInt8) {n : Nat} (within : i + n ≤ bs.length) :
    window bs i (i + n) = some ((bs.drop i).take n) := by
  rw [window, if_pos ⟨Nat.le_add_right _ _, within⟩, Nat.add_sub_cancel_left]

/-- A separator does not start with a byte of a longer character. -/
theorem matchesAt_of_large (read : bs[i]? = some b) (large : 128 ≤ b) (known : s ∈ Separator.all) :
    matchesAt bs (bytes s.text) i = some false := by
  obtain ⟨c, tail, eq⟩ := List.exists_cons_of_ne_nil (Separator.text_ne_nil known)
  have small : IsSmall c := allSmall_text known c (eq ▸ List.mem_cons_self)
  obtain ⟨within, here⟩ := List.getElem?_eq_some_iff.1 read
  rw [matchesAt]
  by_cases long : bs.length < i + (bytes s.text).length
  · exact if_pos long
  · have differs : ((bs.drop i).take (bytes s.text).length).map lowerByte ≠
        (bytes s.text).map lowerByte := by
      rw [length_bytes, eq, size_cons, utf8Size_of_small small, Nat.add_comm,
        List.drop_eq_getElem_cons within, here, List.take_succ_cons]
      exact map_lowerByte_ne small large _ tail
    rw [if_neg long, window_eq bs (Nat.not_lt.1 long), Option.bind_eq_bind, Option.bind_some,
      if_pos differs]

theorem isLoop_matchesFrom (known : s ∈ Separator.all) (bs : List UInt8) :
    IsLoop bs (matchesFrom bs (bytes s.text)) where
  quoted read := matchesFrom_quoted read _
  opens read opens := by rw [matchesFrom_free read, if_pos opens]
  raises read := by
    rw [matchesFrom_free read, if_neg (by decide), if_pos rfl]
  passes {i depth b} read large := by
    have none_ : matchesTop bs (bytes s.text) i depth = some false := by
      rw [matchesTop]
      split_ifs
      · exact matchesAt_of_large read large known
      · rfl
    rw [matchesFrom_free read, if_neg (isQuoteByte_of_le large),
      if_neg (ne_of_large large (by decide)), if_neg (ne_of_large large (by decide)), none_]
    rfl

theorem isFreeBefore_eq (past rest : List Char) :
    isFreeBefore (bytes (past ++ rest)) (size past) = some !(lastOr none past).any isNameChar := by
  obtain rfl | ⟨front, c, rfl⟩ := past.eq_nil_or_concat'
  · rfl
  · have pos := c.utf8Size_pos
    have whole : size (front ++ [c]) = size front + c.utf8Size := by
      rw [size_append, size_cons, size_nil, Nat.add_zero]
    have last : subtract (size (front ++ [c])) 1 = some (size front + (c.utf8Size - 1)) := by
      rw [subtract, if_pos (by omega), whole, Nat.add_sub_assoc pos]
    obtain ⟨b, member, read⟩ := exists_of_lt front rest (Nat.sub_lt pos Nat.one_pos)
    rw [isFreeBefore, if_neg (by omega), last, List.append_assoc, List.singleton_append,
      lastOr_append, lastOr_cons, lastOr_nil, Option.any_some, ← isNameByte_of_mem member]
    simp only [Option.bind_eq_bind, Option.bind_some, read]
    rfl

theorem isFreeBehind_eq (past rest : List Char) :
    isFreeBehind (bytes (past ++ rest)) (size past) = some !startsName rest := by
  cases rest with
  | nil =>
    rw [List.append_nil]
    exact if_pos rfl
  | cons c rest =>
    have within : size past ≠ size (past ++ c :: rest) := by
      have pos := c.utf8Size_pos
      rw [size_append, size_cons]
      omega
    obtain ⟨b, member, read⟩ := exists_of_lt past rest c.utf8Size_pos
    rw [Nat.add_zero] at read
    rw [isFreeBehind, length_bytes, if_neg within, startsName, List.head?_cons, Option.any_some,
      ← isNameByte_of_mem member]
    simp only [Option.bind_eq_bind, Option.bind_some, read]
    rfl

theorem isFree_eq (past found rest : List Char) :
    isFree (bytes (past ++ (found ++ rest))) (size past) (size past + size found) =
      some !((lastOr none past).any isNameChar || startsName rest) := by
  rw [isFree, isFreeBefore_eq, ← List.append_assoc, ← size_append, isFreeBehind_eq]
  cases (lastOr none past).any isNameChar <;> rfl

/-- A pattern is found at a border exactly where the separator starts. -/
theorem matchesAt_eq (known : s ∈ Separator.all) (past rest : List Char) :
    matchesAt (bytes (past ++ rest)) (bytes s.text) (size past) =
      some (s.startsAt (lastOr none past) rest) := by
  have same_iff := window_same_iff (allSmall_text known) rest
  have fits : ¬ size (past ++ rest) < size past + size s.text ↔ size s.text ≤ size rest := by
    rw [size_append]
    omega
  have behind : (bytes (past ++ rest)).drop (size past) = bytes rest := by
    rw [bytes_append, size, List.drop_left]
  rw [matchesAt, Separator.startsAt, length_bytes, length_bytes]
  by_cases long : size (past ++ rest) < size past + size s.text
  · have none_ : dropIgnoringCase s.text rest = none := by
      rw [← Option.not_isSome_iff_eq_none, ← same_iff]
      exact fun same => fits.2 same.1 long
    rw [if_pos long, none_]
  · rw [if_neg long, window_eq _ (Nat.not_lt.1 long), behind, Option.bind_eq_bind,
      Option.bind_some]
    cases h : dropIgnoringCase s.text rest with
    | none =>
      rw [h] at same_iff
      exact if_pos fun same => Bool.false_ne_true (same_iff.1 ⟨fits.1 long, same⟩)
    | some right =>
      rw [h] at same_iff
      obtain ⟨found, rfl, same⟩ := dropIgnoringCase_eq_some_iff.1 h
      have free := isFree_eq past found right
      rw [size_of_lower (allSmall_text known) same] at free
      rw [if_neg (not_not.2 (same_iff.2 rfl).2), isWordPattern_eq known]
      cases s.ofWords with
      | false => rfl
      | true => exact free

theorem matchesTop_eq (known : s ∈ Separator.all) (past rest : List Char) (depth : Nat) :
    matchesTop (bytes (past ++ rest)) (bytes s.text) (size past) depth =
      some ((Scan.outside depth).isTop && s.startsAt (lastOr none past) rest) := by
  rw [matchesTop, matchesAt_eq known]
  by_cases zero : depth = 0
  · rw [if_pos zero, zero]
    rfl
  · rw [if_neg zero]
    simp [Scan.isTop, Scan.outside, zero]

/-- The loop follows a scan over every character at which no separator is found. -/
theorem matchesFrom_step (known : s ∈ Separator.all) (valid : scan.Valid)
    (noStart : (scan.isTop && s.startsAt (lastOr none past) (c :: rest)) = false) :
    following (matchesFrom (bytes (past ++ c :: rest)) (bytes s.text)) scan past =
      following (matchesFrom (bytes (past ++ c :: rest)) (bytes s.text)) (scan.step c)
        (past ++ [c]) := by
  rcases follows_or_outside valid c with follows | ⟨small, noQuote, noOpen, d, rfl⟩
  · exact (isLoop_matchesFrom known _).step valid follows
  · rw [following_outside, matchesFrom_free (getElem?_of_small small past rest), Scan.step_outside,
      isQuoteByte_byte small, if_neg noQuote, if_neg noQuote,
      if_neg (byte_ne small (by decide) noOpen), if_neg noOpen]
    by_cases closes : c = ')'
    · rw [if_pos (congrArg byte closes), if_pos closes, following_outside, size_concat small]
    · have top := matchesTop_eq known past (c :: rest) d
      rw [noStart] at top
      rw [if_neg (byte_ne small (by decide) closes), if_neg closes, following_outside,
        size_concat small, top]
      rfl

/-- The loop passes over a copy of the separator that is found. -/
theorem matchesFrom_found (known : s ∈ Separator.all) (same : lower found = lower s.text)
    (starts : s.startsAt (lastOr none past) (found ++ right) = true) :
    following (matchesFrom (bytes (past ++ (found ++ right))) (bytes s.text)) .start past =
      (following (matchesFrom (bytes (past ++ (found ++ right))) (bytes s.text)) .start
        (past ++ found)).map (size past :: ·) := by
  have long : size found = size s.text := size_of_lower (allSmall_text known) same
  obtain ⟨c, tail, rfl⟩ := List.exists_cons_of_ne_nil (Separator.ne_nil_of_lower known same)
  have small := allSmall_of_lower (allSmall_text known) same c List.mem_cons_self
  have plain := Separator.plain_of_lower known same c List.mem_cons_self
  obtain ⟨⟨noQuote, noOpen⟩, noClose⟩ : (¬ isQuote c = true ∧ c ≠ '(') ∧ c ≠ ')' := by
    simpa [isPlain] using plain
  rw [List.cons_append] at starts ⊢
  have top := matchesTop_eq known past (c :: (tail ++ right)) 0
  rw [starts] at top
  have start : Scan.start = .outside 0 := rfl
  rw [start, following_outside, following_outside, matchesFrom_free (getElem?_of_small small past _),
    isQuoteByte_byte small, if_neg noQuote, if_neg (byte_ne small (by decide) noOpen),
    if_neg (byte_ne small (by decide) noClose), top, size_append, long]
  exact if_pos (size_text_pos known)

/-- The offset of a position in a text. -/
def offsetAt (text : List Char) (position : Nat) : Nat := size (text.take position)

theorem offsetAt_append (past left rest : List Char) :
    offsetAt (past ++ (left ++ rest)) (past ++ left).length = size past + size left := by
  rw [offsetAt, ← List.append_assoc, List.take_left, size_append]

/-- The loop gives the offsets of the positions that a scan gives. -/
theorem matchesFrom_eq (known : s ∈ Separator.all) {scan : Scan} (valid : scan.Valid)
    (past rest : List Char) :
    following (matchesFrom (bytes (past ++ rest)) (bytes s.text)) scan past =
      some ((s.positionsFrom scan (lastOr none past) past.length rest).map
        (offsetAt (past ++ rest))) := by
  match rest with
  | [] =>
    refine matchesFrom_end (List.getElem?_eq_none ?_) _
    rw [List.append_nil, length_bytes, index]
    exact Nat.le_add_right _ _
  | c :: rest =>
    by_cases here : (scan.isTop && s.startsAt (lastOr none past) (c :: rest)) = true
    · rw [Bool.and_eq_true] at here
      obtain rfl := valid.eq_start here.1
      obtain ⟨found, right, eq, same⟩ := Separator.exists_of_startsAt here.2
      have nonempty := List.length_pos_iff.2 (Separator.ne_nil_of_lower known same)
      have shorter : right.length < (c :: rest).length := by
        rw [eq, List.length_append]
        omega
      have later := matchesFrom_eq known Scan.valid_start (past ++ found) right
      rw [List.append_assoc, lastOr_append, List.length_append] at later
      rw [eq] at here ⊢
      rw [matchesFrom_found known same here.2, later,
        Separator.positionsFrom_found known same here.2, List.map_cons, offsetAt, List.take_left]
      rfl
    · have noStart := Bool.eq_false_iff.2 here
      have later := matchesFrom_eq known (valid.step c) (past ++ [c]) rest
      rw [List.append_assoc, List.singleton_append, lastOr_append, List.length_append] at later
      rw [matchesFrom_step known valid noStart, later, Separator.positionsFrom, if_neg here]
      rfl
  termination_by rest.length
  decreasing_by
  · exact shorter
  · exact Nat.lt_succ_self _

theorem topLevelMatches_eq (known : s ∈ Separator.all) (text : List Char) :
    topLevelMatches s text = some ((s.positions text).map (offsetAt text)) :=
  matchesFrom_eq known Scan.valid_start [] text

/-- The step behind the backslash ends inside the character after it. -/
example : topLevelMatches Separator.asWord "'\\é' AS a".toList = some [6] := by cbv

/-- Whether the slices before and behind a separator at an offset are some parts. -/
structure CutsAt (s : Separator) (text : List Char) (offset : Nat)
    (parts : List Char × List Char) : Prop where
  left : slice text 0 offset = some parts.1
  right : slice text (offset + size s.text) (size text) = some parts.2

theorem cutsAt_of_mem (known : s ∈ Separator.all) {position : Nat}
    (member : position ∈ s.positions text) :
    CutsAt s text (offsetAt text position) (s.cutAt text position) := by
  obtain ⟨left, found, right, eq, rfl, same⟩ :=
    (Separator.marks_positions known text).exists_of_mem member
  obtain rfl : text = left ++ (found ++ right) := eq
  rw [Separator.cutAt, offsetAt, List.take_left]
  refine ⟨slice_from_start _ _, ?_⟩
  rw [← size_of_lower (allSmall_text known) same, ← length_congr same, ← size_append,
    ← List.append_assoc, ← List.length_append, List.drop_left, slice_to_end]

theorem cutsAt_of_mem_option (known : s ∈ Separator.all) {found : Option Nat}
    (member : ∀ position ∈ found, position ∈ s.positions text) :
    Option.Rel (CutsAt s text) (found.map (offsetAt text)) (found.map (s.cutAt text)) := by
  cases found with
  | none => exact .none
  | some position => exact .some (cutsAt_of_mem known (member position rfl))

/-- The slices at the first offset are the parts at the first position. -/
theorem exists_cutFirst (known : s ∈ Separator.all) (text : List Char) : ∃ offsets,
    topLevelMatches s text = some offsets ∧
      Option.Rel (CutsAt s text) offsets.head? (s.cutFirst text) := by
  refine ⟨_, topLevelMatches_eq known text, ?_⟩
  rw [List.head?_map]
  exact cutsAt_of_mem_option known fun _ => List.mem_of_head?

/-- The slices at the last offset are the parts at the last position. -/
theorem exists_cutLast (known : s ∈ Separator.all) (text : List Char) : ∃ offsets,
    topLevelMatches s text = some offsets ∧
      Option.Rel (CutsAt s text) offsets.getLast? (s.cutLast text) := by
  refine ⟨_, topLevelMatches_eq known text, ?_⟩
  rw [List.getLast?_map]
  exact cutsAt_of_mem_option known fun _ => List.mem_of_getLast?

theorem size_found (known : s ∈ Separator.all) (same : lower found = lower s.text)
    (past left : List Char) :
    size (past ++ (left ++ found)) = size past + size left + size s.text := by
  rw [← size_of_lower (allSmall_text known) same, size_append, size_append, Nat.add_assoc]

theorem splitFrom_eq (known : s ∈ Separator.all) {positions : List Nat}
    (marks : s.Marks past rest positions) :
    splitFrom s (past ++ rest) (size past) (positions.map (offsetAt (past ++ rest))) =
      some (s.splitAt (past ++ rest) past.length positions) := by
  induction marks with
  | @none past rest =>
    rw [List.map_nil, splitFrom, slice_to_end, Separator.splitAt, List.drop_left]
    rfl
  | @next past left found right positions same later ih =>
    have width : (past ++ left).length + s.text.length = (past ++ (left ++ found)).length := by
      rw [← length_congr same, ← List.length_append, List.append_assoc]
    have part : ((past ++ (left ++ (found ++ right))).drop past.length).take
        ((past ++ left).length - past.length) = left := by
      rw [List.drop_left, List.length_append, Nat.add_sub_cancel_left, List.take_left]
    simp only [List.append_assoc] at ih
    rw [List.map_cons, offsetAt_append, splitFrom, slice_append, ← size_found known same, ih,
      Separator.splitAt, width, part]
    rfl

/-- Whether offsets are the ones of a separator in a text: the scan gives them, they are borders,
and so are the ends of what stands there, which come before the next one. -/
structure Offsets (s : Separator) (text : List Char) (offsets : List Nat) : Prop where
  given : topLevelMatches s text = some offsets
  borders : ∀ offset ∈ offsets, IsBorder text offset ∧ IsBorder text (offset + size s.text)
  apart : offsets.Pairwise fun offset next => offset + size s.text ≤ next

theorem offsets_apart (known : s ∈ Separator.all) {positions : List Nat}
    (marks : s.Marks past rest positions) :
    (∀ position ∈ positions, size past ≤ offsetAt (past ++ rest) position) ∧
      (positions.map (offsetAt (past ++ rest))).Pairwise fun offset next =>
        offset + size s.text ≤ next := by
  induction marks with
  | none => exact ⟨List.forall_mem_nil _, .nil⟩
  | @next past left found right positions same later ih =>
    simp only [List.append_assoc, size_found known same] at ih
    rw [List.forall_mem_cons, List.map_cons, offsetAt_append, List.pairwise_cons,
      List.forall_mem_map]
    refine ⟨⟨Nat.le_add_right _ _, fun position member => ?_⟩, ih⟩
    have := ih.1 position member
    omega

theorem exists_offsets (known : s ∈ Separator.all) (text : List Char) :
    ∃ offsets, Offsets s text offsets := by
  refine ⟨_, topLevelMatches_eq known text, ?_,
    (offsets_apart known (Separator.marks_positions known text)).2⟩
  rw [List.forall_mem_map]
  intro position member
  have cuts := cutsAt_of_mem known member
  exact ⟨(borders_of_slice cuts.left).2.2, (borders_of_slice cuts.right).2.1⟩

/-- The slices between the offsets of a separator are the parts between its positions. -/
theorem splitTopLevel_eq (known : s ∈ Separator.all) (text : List Char) :
    splitTopLevel s text = some (s.split text) := by
  rw [splitTopLevel, topLevelMatches_eq known]
  exact splitFrom_eq known (Separator.marks_positions known text)

end ModelBench.Sql.ByOffset
