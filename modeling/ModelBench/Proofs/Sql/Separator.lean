import ModelBench.Proofs.Sql.Balance
import ModelBench.Proofs.Sql.Word

/-!
# Parts between separators

A text is quiet when no separator stands in it at the top, whatever its position (`Quiet`). Quiet
texts are put together from parentheses, literals, blanks and words (`quiet_parens`,
`quiet_quoted`, `quiet_plain`, `quiet_word`). A text of quiet parts with separators between them
(`Parts`) is split into exactly these parts (`split_of_parts`).
-/

namespace ModelBench.Sql

variable {text more after part rest left right word value : List Char} {before : Option Char}
  {c : Char} {d position : Nat}

/-- The last character of a text, or the one before it. -/
def lastOr : (before : Option Char) → List Char → Option Char
  | before, [] => before
  | _, c :: rest => lastOr (some c) rest

@[simp] theorem lastOr_nil : lastOr before [] = before := rfl

@[simp] theorem lastOr_cons : lastOr before (c :: text) = lastOr (some c) text := rfl

@[simp] theorem lastOr_append :
    lastOr before (text ++ more) = lastOr (lastOr before text) more := by
  induction text generalizing before with
  | nil => rfl
  | cons c text ih => exact ih

/-- Whether a text has no characters but spaces and line feeds. -/
def IsGap (text : List Char) : Prop := ∀ c ∈ text, c = ' ' ∨ c = '\n'

instance (text : List Char) : Decidable (IsGap text) := List.decidableBAll _ _

theorem IsGap.blanks (gap : IsGap text) : Text.Blanks text := fun c hc => by
  rcases gap c hc with rfl | rfl <;> rfl

theorem IsGap.startsName_append (gap : IsGap text) (nonempty : text ≠ []) :
    startsName (text ++ more) = false := by
  obtain ⟨c, rest, rfl⟩ := List.exists_cons_of_ne_nil nonempty
  rcases gap c List.mem_cons_self with rfl | rfl <;> rfl

theorem IsGap.startsName (gap : IsGap text) : startsName text = false := by
  cases text with
  | nil => rfl
  | cons c rest => rcases gap c List.mem_cons_self with rfl | rfl <;> rfl

theorem IsGap.lastOr (gap : IsGap text) (nonempty : text ≠ []) (before : Option Char) :
    (lastOr before text).any isNameChar = false := by
  induction text generalizing before with
  | nil => exact absurd rfl nonempty
  | cons c rest ih =>
    cases rest with
    | nil => rcases gap c List.mem_cons_self with rfl | rfl <;> rfl
    | cons d rest =>
      exact ih (fun x hx => gap x (List.mem_cons_of_mem _ hx)) (by simp) (some c)

namespace Separator

/-- The separators of statements. -/
def all : List Separator := [comma, asWord, fromWord, limit, unionAll, exceptDistinct]

/-- The word that a separator starts with. -/
def key (s : Separator) : List Char := s.text.takeWhile isNameChar

/-- What follows the first word of a separator. -/
def tail (s : Separator) : List Char := s.text.dropWhile isNameChar

/-- Whether a separator may start with a character, up to case. -/
def OpensWith (s : Separator) (c : Char) : Prop := s.text.head?.map Char.toLower = some c.toLower

instance (s : Separator) (c : Char) : Decidable (s.OpensWith c) :=
  inferInstanceAs (Decidable (_ = _))

/-- Whether a separator starts with no character of a text. -/
def Spares (s : Separator) (text : List Char) : Prop := ∀ c ∈ text, ¬ s.OpensWith c

instance (s : Separator) (text : List Char) : Decidable (s.Spares text) := List.decidableBAll _ _

/-- Whether a word and what follows it do not make a separator. -/
def Clear (s : Separator) (word after : List Char) : Prop :=
  s.ofWords = true → lower word = lower s.key → dropIgnoringCase s.tail after = none

/-- Whether a separator may stand between a certain character and a text. -/
def Fits (s : Separator) (before : Option Char) (after : List Char) : Prop :=
  s.ofWords = true → before.any isNameChar = false ∧ startsName after = false

variable {s : Separator} {scan : Scan}

theorem key_append_tail (s : Separator) : s.key ++ s.tail = s.text :=
  List.takeWhile_append_dropWhile

theorem all_isNameChar_key (s : Separator) : s.key.all isNameChar = true := List.all_takeWhile

theorem startsName_tail (s : Separator) : startsName s.tail = false := by
  rw [startsName, tail]
  cases h : (s.text.dropWhile isNameChar).head? with
  | none => rfl
  | some c =>
    have := List.head?_dropWhile_not isNameChar s.text
    rw [h] at this
    simpa using this

/-- A word that makes no separator with what follows it does not start with one. -/
theorem startsAt_word (words : s.ofWords = true) (name : word.all isNameChar = true)
    (ends : startsName after = false) (clear : s.Clear word after) :
    s.startsAt before (word ++ after) = false := by
  rw [startsAt, ← key_append_tail, dropIgnoringCase_append_left]
  cases found : dropIgnoringCase s.key (word ++ after) with
  | none => rfl
  | some rest =>
    obtain ⟨left, rfl, front, rfl, same⟩ :=
      exists_word_of_drop (all_isNameChar_key s) ends found
    cases left with
    | nil =>
      rw [List.append_nil] at clear
      rw [Option.bind_some, List.nil_append, clear words same]
    | cons c left =>
      -- the word goes on where the first word of the separator ends
      simp only [List.all_append, List.all_cons, Bool.and_eq_true] at name
      have stop := startsName_tail s
      rw [Option.bind_some, List.cons_append]
      cases tail : s.tail with
      | nil => simp [dropIgnoringCase, words, startsName, name.2.1]
      | cons t rest =>
        rw [tail, startsName, List.head?_cons, Option.any_some] at stop
        have differs : t.toLower ≠ c.toLower := fun same => by
          rw [← isNameChar_toLower, same, isNameChar_toLower, name.2.1] at stop
          cases stop
        rw [dropIgnoringCase, if_neg differs]

/-! ## Quiet texts -/

/-- Whether a scan meets no separator in a text between a certain character and what follows. -/
def Skips (s : Separator) (scan : Scan) (before : Option Char) (text after : List Char) : Prop :=
  ∀ position, s.positionsFrom scan before position (text ++ after) =
    s.positionsFrom (scan.run text) (lastOr before text) (position + text.length) after

theorem Skips.nil : s.Skips scan before [] after := fun _ => rfl

theorem Skips.cons (head : (scan.isTop && s.startsAt before (c :: (text ++ after))) = false)
    (rest : s.Skips (scan.step c) (some c) text after) : s.Skips scan before (c :: text) after := by
  intro position
  rw [List.cons_append, positionsFrom, head, if_neg Bool.false_ne_true]
  rw [rest (position + 1), List.length_cons, Nat.add_right_comm, Nat.add_assoc]
  rfl

theorem Skips.append (front : s.Skips scan before text (more ++ after))
    (back : s.Skips (scan.run text) (lastOr before text) more after) :
    s.Skips scan before (text ++ more) after := by
  intro position
  rw [List.append_assoc, front position, back, Scan.run_append, lastOr_append, List.length_append,
    Nat.add_assoc]

/-- Behind an open parenthesis there is no separator. -/
theorem skips_raise (holds : ¬ scan.Sinks text) : s.Skips (scan.raise 1) before text after := by
  induction text generalizing scan before with
  | nil => exact .nil
  | cons c text ih =>
    rw [Scan.Sinks, not_or] at holds
    refine .cons ?_ ?_
    · simp [Scan.isTop, Scan.raise]
    · rw [Scan.step_raise holds.1]
      exact ih holds.2

/-- Inside a literal there is no separator. -/
theorem skips_escape : s.Skips (.inside '"' d) before (escape value) after := by
  induction value generalizing before with
  | nil => exact .nil
  | cons c rest ih =>
    rw [escape]
    split_ifs with special
    · exact .cons rfl (.cons rfl ih)
    · refine .cons rfl ?_
      rw [inside_step special]
      exact ih

/-- Whether a separator stands nowhere in a text, not even inside quotes or parentheses. -/
def Absent (s : Separator) (text : List Char) : Prop :=
  ∀ front rest, text = front ++ rest → s.startsAt (lastOr none front) rest = false

theorem absent_iff : s.Absent text ↔ ∀ n ∈ List.range (text.length + 1),
    s.startsAt (lastOr none (text.take n)) (text.drop n) = false := by
  constructor
  · intro h n _
    exact h _ _ (List.take_append_drop n text).symm
  · rintro h front rest rfl
    have within : front.length < (front ++ rest).length + 1 := by
      rw [List.length_append]
      omega
    have at_ := h front.length (List.mem_range.2 within)
    rwa [List.take_left, List.drop_left] at at_

instance (s : Separator) (text : List Char) : Decidable (s.Absent text) :=
  decidable_of_iff _ absent_iff.symm

theorem startsAt_congr {other : Option Char}
    (h : before.any isNameChar = other.any isNameChar) :
    s.startsAt before text = s.startsAt other text := by
  rw [startsAt, startsAt, h]

theorem skips_of_nowhere
    (nowhere : ∀ front rest, text = front ++ rest → s.startsAt (lastOr before front) rest = false) :
    s.Skips scan before text [] := by
  induction text generalizing scan before with
  | nil => exact .nil
  | cons c text ih =>
    refine .cons ?_
      (ih fun front rest eq => nowhere (c :: front) rest (by rw [eq, List.cons_append]))
    have head : s.startsAt before (c :: text) = false := nowhere [] _ rfl
    rw [List.append_nil, head, Bool.and_false]

/-- Behind a character of no name, a scan skips a text without the separator. -/
theorem Absent.skips (h : s.Absent text) (free : before.any isNameChar = false) :
    s.Skips scan before text [] := by
  refine skips_of_nowhere fun front rest eq => ?_
  cases front with
  | nil =>
    exact (startsAt_congr free).trans (h [] rest eq)
  | cons c front => exact h (c :: front) rest eq

/-- Whether a text is balanced and no separator stands in it at the top. -/
structure Quiet (s : Separator) (before : Option Char) (text after : List Char) : Prop where
  balanced : Balanced text
  skips : s.Skips .start before text after

theorem Quiet.nil : s.Quiet before [] after := ⟨.nil, .nil⟩

theorem Quiet.append (front : s.Quiet before text (more ++ after))
    (back : s.Quiet (lastOr before text) more after) : s.Quiet before (text ++ more) after where
  balanced := front.balanced.append back.balanced
  skips := by
    refine front.skips.append ?_
    rw [front.balanced.ends]
    exact back.skips

/-- A quiet text has no positions of the separator. -/
theorem Quiet.positionsFrom_eq (h : s.Quiet before text after) (position : Nat) :
    s.positionsFrom .start before position (text ++ after) =
      s.positionsFrom .start (lastOr before text) (position + text.length) after := by
  rw [h.skips, h.balanced.ends]

theorem Quiet.positions_eq_nil (h : s.Quiet none text []) : s.positions text = [] := by
  have := h.positionsFrom_eq 0
  rwa [List.append_nil] at this

/-- Quiet pieces between copies of a quiet text are quiet. -/
theorem quiet_intercalate {glue : List Char} {pieces : List (List Char)}
    (between : ∀ before after, s.Quiet before glue after)
    (quiet : ∀ piece ∈ pieces, ∀ before after',
      after' = after ∨ (∃ rest, after' = glue ++ rest) → s.Quiet before piece after') :
    s.Quiet before (glue.intercalate pieces) after := by
  induction pieces generalizing before with
  | nil => exact .nil
  | cons piece pieces ih =>
    rw [List.forall_mem_cons] at quiet
    cases pieces with
    | nil =>
      rw [List.intercalate_singleton]
      exact quiet.1 _ _ (.inl rfl)
    | cons next pieces =>
      rw [List.intercalate_cons_cons, List.append_assoc]
      exact (quiet.1 _ _ (.inr ⟨_, List.append_assoc _ _ _⟩)).append
        ((between _ _).append (ih quiet.2))

/-! ## Pieces of statements -/

theorem eq_mark_of_not_isPlain (other : ¬ isPlain c = true) :
    (((c = '"' ∨ c = '\'') ∨ c = '\x60') ∨ c = '(') ∨ c = ')' := by
  simpa only [isPlain, isQuote, Bool.and_eq_true, Bool.not_eq_true', Bool.or_eq_false_iff,
    bne_iff_ne, ne_eq, beq_eq_false_iff_ne, not_and_or, not_not] using other

theorem isPlain_of_isNameChar (name : isNameChar c = true) : isPlain c = true := by
  by_contra other
  rcases eq_mark_of_not_isPlain other with ((((rfl | rfl) | rfl) | rfl) | rfl) <;> cases name

theorem clear_of_ne (h : lower word ≠ lower s.key) : s.Clear word after := fun _ same =>
  absurd same h

section

variable (known : s ∈ all)

include known

theorem text_ne_nil : s.text ≠ [] := by
  revert s
  decide

theorem spares_marks : s.Spares ['(', ')', '"', ' ', '\n'] := by
  revert s
  decide

theorem startsAt_eq_false (h : ¬ s.OpensWith c) : s.startsAt before (c :: rest) = false := by
  rw [startsAt]
  obtain ⟨w, wanted, eq⟩ := List.exists_cons_of_ne_nil (text_ne_nil known)
  rw [OpensWith, eq] at h
  rw [eq, dropIgnoringCase, if_neg fun same => h (by simp [same])]

theorem startsAt_name (words : s.ofWords = false) (name : isNameChar c = true) :
    s.startsAt before (c :: rest) = false := by
  have first : ∀ s ∈ all, s.ofWords = false → s.text.head?.map Char.toLower = some ',' := by decide
  refine startsAt_eq_false known fun opens => ?_
  rw [OpensWith, first s known words] at opens
  rw [← isNameChar_toLower, ← Option.some.inj opens] at name
  cases name

/-- Inside a word there is no separator. -/
theorem startsAt_inside {x : Char} (name : isNameChar x = true) (more : isNameChar c = true) :
    s.startsAt (some x) (c :: rest) = false := by
  cases words : s.ofWords with
  | false => exact startsAt_name known words more
  | true =>
    rw [startsAt]
    split
    · rfl
    · simp [words, name]

theorem skips_inside (first : isNameChar c = true) (name : word.all isNameChar = true) :
    s.Skips .start (some c) word after := by
  induction word generalizing c with
  | nil => exact .nil
  | cons x word ih =>
    rw [List.all_cons, Bool.and_eq_true] at name
    refine .cons ?_ ?_
    · rw [startsAt_inside known first name.1, Bool.and_false]
    · rw [start_step (isPlain_of_isNameChar name.1)]
      exact ih name.1 name.2

/-- No separator starts with one of the marks around a text in which there is none. -/
theorem skips_around {x y : Char} (first : ¬ s.OpensWith x) (last : ¬ s.OpensWith y)
    (inner : s.Skips (scan.step x) (some x) text (y :: after)) :
    s.Skips scan before (x :: text ++ [y]) after := by
  refine .cons ?_ (.append inner (.cons ?_ .nil))
  · rw [startsAt_eq_false known first, Bool.and_false]
  · rw [startsAt_eq_false known last, Bool.and_false]

theorem quiet_parens (h : Balanced text) : s.Quiet before ('(' :: text ++ [')']) after where
  balanced := h.parens
  skips := skips_around known (spares_marks known '(' (by simp)) (spares_marks known ')' (by simp))
    (skips_raise h.holds)

theorem quiet_quoted : s.Quiet before (quoted value) after where
  balanced := balanced_quoted value
  skips := skips_around known (spares_marks known '"' (by simp)) (spares_marks known '"' (by simp))
    skips_escape

theorem quiet_plain (plain : Plain text) (spared : s.Spares text) : s.Quiet before text after where
  balanced := balanced_of_plain plain
  skips := by
    induction text generalizing before with
    | nil => exact .nil
    | cons c text ih =>
      rw [Plain, List.forall_mem_cons] at plain
      rw [Spares, List.forall_mem_cons] at spared
      refine .cons ?_ ?_
      · rw [startsAt_eq_false known spared.1, Bool.and_false]
      · rw [start_step plain.1]
        exact ih plain.2 spared.2

theorem quiet_gap (gap : IsGap text) : s.Quiet before text after := by
  refine quiet_plain known (fun c hc => ?_) fun c hc => spares_marks known c ?_
  · rcases gap c hc with rfl | rfl <;> rfl
  · rcases gap c hc with rfl | rfl <;> simp

theorem quiet_word (name : word.all isNameChar = true) (ends : startsName after = false)
    (clear : s.Clear word after) : s.Quiet before word after where
  balanced := balanced_of_plain fun c hc => isPlain_of_isNameChar (List.all_eq_true.1 name c hc)
  skips := by
    cases word with
    | nil => exact .nil
    | cons c word =>
      have chars := name
      rw [List.all_cons, Bool.and_eq_true] at chars
      refine .cons ?_ ?_
      · rw [Bool.and_eq_false_iff]
        right
        cases words : s.ofWords with
        | false => exact startsAt_name known words chars.1
        | true => exact startsAt_word words name ends clear
      · rw [start_step (isPlain_of_isNameChar chars.1)]
        exact skips_inside known chars.1 chars.2

/-- No separator starts inside another one of its kind. -/
theorem skips_text (after : List Char) : s.Skips .start s.text.head? s.text.tail after := by
  revert s
  simp only [all, List.forall_mem_cons, List.not_mem_nil, false_implies, implies_true, and_true]
  exact ⟨fun _ => rfl, fun _ => rfl, fun _ => rfl, fun _ => rfl, fun _ => rfl, fun _ => rfl⟩

theorem plain_text : Plain s.text := by
  revert s
  decide

/-- The only position inside a separator is its first one. -/
theorem positionsFrom_text (fits : s.Fits before after) :
    s.positionsFrom .start before position (s.text ++ after) =
      position ::
        s.positionsFrom .start (lastOr before s.text) (position + s.text.length) after := by
  have starts : s.startsAt before (s.text ++ after) = true := by
    rw [startsAt, dropIgnoringCase_self]
    cases words : s.ofWords with
    | false => rfl
    | true => simp [fits words]
  have inner := skips_text known after
  have plain := plain_text known
  obtain ⟨c, rest, eq⟩ := List.exists_cons_of_ne_nil (text_ne_nil known)
  rw [eq] at starts inner plain ⊢
  rw [List.head?_cons, List.tail_cons] at inner
  rw [Plain, List.forall_mem_cons] at plain
  rw [List.cons_append] at starts ⊢
  rw [positionsFrom, starts, start_step plain.1]
  rw [show s.positionsFrom .start (some c) (position + 1) (rest ++ after) = _ from inner _]
  rw [(balanced_of_plain plain.2).ends, List.length_cons, Nat.add_right_comm, Nat.add_assoc]
  rfl

end

/-! ## Parts -/

/-- A quiet text and a separator behind it give the position of the separator. -/
theorem Quiet.positionsFrom_text (quiet : s.Quiet before text (s.text ++ after)) (known : s ∈ all)
    (fits : s.Fits (lastOr before text) after) :
    s.positionsFrom .start before position (text ++ (s.text ++ after)) =
      (position + text.length) ::
        s.positionsFrom .start (lastOr before (text ++ s.text))
          (position + text.length + s.text.length) after := by
  rw [quiet.positionsFrom_eq, Separator.positionsFrom_text known fits, lastOr_append]

theorem cutAt_append (s : Separator) (left right : List Char) :
    s.cutAt (left ++ (s.text ++ right)) left.length = (left, right) := by
  rw [cutAt, List.take_left, ← List.append_assoc, ← List.length_append, List.drop_left]

/-- The first separator is the one behind a quiet text. -/
theorem cutFirst_eq_some (known : s ∈ all) (quiet : s.Quiet none left (s.text ++ right))
    (fits : s.Fits (lastOr none left) right) :
    s.cutFirst (left ++ (s.text ++ right)) = some (left, right) := by
  rw [cutFirst, positions, quiet.positionsFrom_text known fits, List.head?_cons, Option.map_some,
    Nat.zero_add, cutAt_append]

theorem cutFirst_eq_none (quiet : s.Quiet none text []) : s.cutFirst text = none := by
  rw [cutFirst, quiet.positions_eq_nil]
  rfl

/-- The last separator is the one before a quiet text. -/
theorem cutLast_eq_some (known : s ∈ all) (quiet : s.Quiet none left (s.text ++ right))
    (fits : s.Fits (lastOr none left) right)
    (later : s.Quiet (lastOr none (left ++ s.text)) right []) :
    s.cutLast (left ++ (s.text ++ right)) = some (left, right) := by
  have none_ := later.positionsFrom_eq (0 + left.length + s.text.length)
  rw [List.append_nil] at none_
  rw [cutLast, positions, quiet.positionsFrom_text known fits, none_]
  simp [positionsFrom, cutAt_append]

/-- Whether a text consists of some quiet parts with separators between them. -/
inductive Parts (s : Separator) : (before : Option Char) → List Char → List (List Char) → Prop
  | last {before : Option Char} {text : List Char} (quiet : s.Quiet before text []) :
      s.Parts before text [text]
  | more {before : Option Char} {part rest : List Char} {parts : List (List Char)}
      (quiet : s.Quiet before part (s.text ++ rest)) (fits : s.Fits (lastOr before part) rest)
      (later : s.Parts (lastOr before (part ++ s.text)) rest parts) :
      s.Parts before (part ++ (s.text ++ rest)) (part :: parts)

theorem Parts.splitAt_positionsFrom {parts : List (List Char)} (h : s.Parts before text parts)
    (known : s ∈ all) (past : List Char) :
    s.splitAt (past ++ text) past.length (s.positionsFrom .start before past.length text) =
      parts := by
  induction h generalizing past with
  | last quiet =>
    have none_ := quiet.positionsFrom_eq past.length
    rw [List.append_nil] at none_
    rw [none_, positionsFrom, splitAt, List.drop_left]
  | @more before part rest parts quiet fits later ih =>
    have ih := ih (past ++ (part ++ s.text))
    rw [quiet.positionsFrom_text known fits, splitAt, List.drop_left, Nat.add_sub_cancel_left,
      List.take_left]
    rw [List.length_append, List.length_append, ← Nat.add_assoc] at ih
    simp only [List.append_assoc] at ih
    rw [ih]

/-- Splitting gives the parts. -/
theorem split_of_parts {parts : List (List Char)} (known : s ∈ all)
    (h : s.Parts none text parts) : s.split text = parts :=
  h.splitAt_positionsFrom known []

/-- Whether a part is a piece between blanks. -/
def Padded (piece part : List Char) : Prop :=
  ∃ left right, Text.Blanks left ∧ Text.Blanks right ∧ part = left ++ (piece ++ right)

/-- Quiet pieces with a separator and gaps between them are the parts, up to blanks. -/
theorem exists_parts {opening closing : List Char} {pieces : List (List Char)} (known : s ∈ all)
    (gaps : IsGap opening ∧ IsGap closing ∧ IsGap right)
    (fits : s.ofWords = true → opening ≠ [] ∧ closing ≠ [])
    (quiet : ∀ piece ∈ pieces, ∀ before after,
      after = right ∨ (∃ rest, after = opening ++ (s.text ++ rest)) → s.Quiet before piece after)
    (nonempty : pieces ≠ []) (gap : IsGap left) (before : Option Char) :
    ∃ parts, List.Forall₂ Padded pieces parts ∧ s.Parts before
      (left ++ ((opening ++ (s.text ++ closing)).intercalate pieces ++ right)) parts := by
  induction pieces generalizing before left with
  | nil => exact absurd rfl nonempty
  | cons piece pieces ih =>
    rw [List.forall_mem_cons] at quiet
    cases pieces with
    | nil =>
      refine ⟨[left ++ (piece ++ right)],
        .cons ⟨left, right, gap.blanks, gaps.2.2.blanks, rfl⟩ .nil, ?_⟩
      rw [List.intercalate_singleton]
      refine .last ((quiet_gap known gap).append ((quiet.1 _ _ (.inl ?_)).append ?_))
      · rw [List.append_nil]
      · exact quiet_gap known gaps.2.2
    | cons next pieces =>
      obtain ⟨parts, padded, later⟩ := ih quiet.2 (by simp) gaps.2.1
        (lastOr before (left ++ (piece ++ opening) ++ s.text))
      refine ⟨(left ++ (piece ++ opening)) :: parts,
        .cons ⟨left, opening, gap.blanks, gaps.1.blanks, rfl⟩ padded, ?_⟩
      have part : s.Quiet before (left ++ (piece ++ opening)) (s.text ++ (closing ++
          ((opening ++ (s.text ++ closing)).intercalate (next :: pieces) ++ right))) :=
        (quiet_gap known gap).append ((quiet.1 _ _ (.inr ⟨_, rfl⟩)).append (quiet_gap known gaps.1))
      have text := Parts.more part (fun words => ⟨?_, ?_⟩) later
      · rw [List.intercalate_cons_cons]
        simpa only [List.append_assoc] using text
      · rw [lastOr_append, lastOr_append]
        exact gaps.1.lastOr (fits words).1 _
      · exact gaps.2.1.startsName_append (fits words).2

end Separator

end ModelBench.Sql
