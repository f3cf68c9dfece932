import ModelBench.Text.Blank

/-!
# Scanning statements

A scan follows the quotes and parentheses of a statement. Separators count only outside of both, and
`parenthesised` gives what stands between a parenthesis and the one that closes it. Inside double
and single quotes a backslash takes the next character with it.
-/

namespace ModelBench.Sql

/-- Where a scan stands. -/
structure Scan where
  /-- The quote that is open. -/
  quote : Option Char
  /-- Whether a backslash inside the quote takes the next character with it. -/
  escaped : Bool
  /-- The number of parentheses that are open. -/
  depth : Nat
  deriving DecidableEq, Repr

/-- Whether a character opens a quote. -/
def isQuote (c : Char) : Bool := c == '"' || c == '\'' || c == '\x60'

namespace Scan

/-- The scan before the first character. -/
def start : Scan := ⟨none, false, 0⟩

/-- The scan after one more character. -/
def step (s : Scan) (c : Char) : Scan :=
  match s.quote with
  | some q =>
    if s.escaped then { s with escaped := false }
    else if c = '\\' ∧ q ≠ '\x60' then { s with escaped := true }
    else if c = q then { s with quote := none }
    else s
  | none =>
    if isQuote c then { s with quote := some c }
    else if c = '(' then { s with depth := s.depth + 1 }
    else if c = ')' then { s with depth := s.depth - 1 }
    else s

/-- The scan after a text. -/
def run (s : Scan) (text : List Char) : Scan := text.foldl step s

/-- Whether a scan stands outside quotes and parentheses. -/
def isTop (s : Scan) : Bool := s.quote.isNone && s.depth == 0

end Scan

/-! ## Words -/

/-- Whether a character can stand in a plain name. -/
def isNameChar (c : Char) : Bool := c.isAlphanum || c == '_'

/-- Whether a text is a plain name. -/
def isName (text : List Char) : Bool := !text.isEmpty && text.all isNameChar

/-- What follows `wanted` in a text that starts with it, in any case of its letters. -/
def dropIgnoringCase : (wanted text : List Char) → Option (List Char)
  | [], text => some text
  | _ :: _, [] => none
  | w :: wanted, c :: text =>
    if w.toLower = c.toLower then dropIgnoringCase wanted text else none

/-- Whether a text goes on with a plain name. -/
def startsName (text : List Char) : Bool := text.head?.any isNameChar

/-- What follows a keyword that a text starts with. -/
def dropKeyword (keyword text : List Char) : Option (List Char) :=
  match dropIgnoringCase keyword text with
  | some rest => if startsName rest then none else some rest
  | none => none

/-! ## Separators -/

/-- A text that separates parts of a statement. A separator of words stands only where no name goes
on before or after it. -/
structure Separator where
  text : List Char
  ofWords : Bool
  deriving DecidableEq, Repr

namespace Separator

/-- Between the entries of a selection. -/
def comma : Separator := ⟨[','], false⟩

/-- Between an expression and its name or type. -/
def asWord : Separator := ⟨"AS".toList, true⟩

/-- Between a selection and its relation. -/
def fromWord : Separator := ⟨"FROM".toList, true⟩

/-- Before the number of rows. -/
def limit : Separator := ⟨"LIMIT".toList, true⟩

/-- Between relations whose rows are put together. -/
def unionAll : Separator := ⟨"UNION ALL".toList, true⟩

/-- Between relations whose difference is taken. -/
def exceptDistinct : Separator := ⟨"EXCEPT DISTINCT".toList, true⟩

/-- Whether a separator stands at the start of a text that follows a certain character. -/
def startsAt (s : Separator) (before : Option Char) (text : List Char) : Bool :=
  match dropIgnoringCase s.text text with
  | none => false
  | some rest => !s.ofWords || !(before.any isNameChar || startsName rest)

/-- The positions of a separator outside quotes and parentheses, `position` being the one of the
first character of the text. -/
def positionsFrom (s : Separator) :
    Scan → (before : Option Char) → (position : Nat) → List Char → List Nat
  | _, _, _, [] => []
  | scan, before, position, c :: rest =>
    let later := positionsFrom s (scan.step c) (some c) (position + 1) rest
    if scan.isTop && s.startsAt before (c :: rest) then position :: later else later

/-- The positions of a separator outside quotes and parentheses. -/
def positions (s : Separator) (text : List Char) : List Nat :=
  s.positionsFrom .start none 0 text

/-- The parts of a text before and after the separator at a position. -/
def cutAt (s : Separator) (text : List Char) (position : Nat) : List Char × List Char :=
  (text.take position, text.drop (position + s.text.length))

/-- The parts before and after the first separator. -/
def cutFirst (s : Separator) (text : List Char) : Option (List Char × List Char) :=
  (s.positions text).head?.map (s.cutAt text)

/-- The parts before and after the last separator. -/
def cutLast (s : Separator) (text : List Char) : Option (List Char × List Char) :=
  (s.positions text).getLast?.map (s.cutAt text)

/-- The parts of a text between separators at some positions, the first part starting at `start`. -/
def splitAt (s : Separator) (text : List Char) : (start : Nat) → List Nat → List (List Char)
  | start, [] => [text.drop start]
  | start, position :: rest =>
    (text.drop start).take (position - start) :: s.splitAt text (position + s.text.length) rest

/-- The parts of a text between the separators. -/
def split (s : Separator) (text : List Char) : List (List Char) :=
  s.splitAt text 0 (s.positions text)

end Separator

/-! ## Parentheses -/

/-- The text up to the parenthesis that closes the outermost open one, and the text after it. -/
def untilClosed : Scan → List Char → Option (List Char × List Char)
  | _, [] => none
  | scan, c :: rest =>
    if scan.quote = none ∧ c = ')' ∧ scan.depth ≤ 1 then some ([], rest)
    else (untilClosed (scan.step c) rest).map fun (inside, after) => (c :: inside, after)

/-- What stands between the parenthesis that a text starts with and the one that closes it, and what
stands after that. -/
def parenthesised : List Char → Option (List Char × List Char)
  | '(' :: rest => untilClosed ⟨none, false, 1⟩ rest
  | _ => none

/-- What stands between parentheses that enclose the whole text. -/
def enclosed (text : List Char) : Option (List Char) :=
  match parenthesised text with
  | some (inside, []) => some inside
  | _ => none

/-! ## Lengths -/

theorem dropIgnoringCase_length {wanted text rest : List Char}
    (h : dropIgnoringCase wanted text = some rest) :
    text.length = wanted.length + rest.length := by
  fun_induction dropIgnoringCase wanted text with
  | case1 => simp_all
  | case2 => simp at h
  | case3 _ _ _ _ _ ih => simp [ih h]; omega
  | case4 => simp at h

theorem dropKeyword_length {keyword text rest : List Char}
    (h : dropKeyword keyword text = some rest) :
    text.length = keyword.length + rest.length := by
  unfold dropKeyword at h
  split at h
  · next r hr =>
    split at h
    · simp at h
    · simp only [Option.some.injEq] at h
      exact h ▸ dropIgnoringCase_length hr
  · simp at h

theorem untilClosed_length {scan : Scan} {text inside after : List Char}
    (h : untilClosed scan text = some (inside, after)) :
    text.length = inside.length + 1 + after.length := by
  induction text generalizing scan inside after with
  | nil => simp [untilClosed] at h
  | cons c rest ih =>
    unfold untilClosed at h
    split at h
    · simp only [Option.some.injEq, Prod.mk.injEq] at h
      simp [← h.1, ← h.2]; omega
    · simp only [Option.map_eq_some_iff, Prod.mk.injEq, Prod.exists] at h
      obtain ⟨i, a, hia, rfl, rfl⟩ := h
      simp [ih hia]; omega

theorem parenthesised_length {text inside after : List Char}
    (h : parenthesised text = some (inside, after)) :
    text.length = inside.length + 2 + after.length := by
  unfold parenthesised at h
  split at h
  · simp [untilClosed_length h]; omega
  · simp at h

theorem enclosed_length {text inside : List Char} (h : enclosed text = some inside) :
    text.length = inside.length + 2 := by
  unfold enclosed at h
  split at h
  · next i hi =>
    simp only [Option.some.injEq] at h
    simp [parenthesised_length hi, h]
  · simp at h

end ModelBench.Sql
