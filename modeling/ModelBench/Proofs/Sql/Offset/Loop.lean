import ModelBench.Proofs.Sql.Offset.Byte

/-!
# Loops over bytes

A loop over the bytes of a statement has an offset, the number of open parentheses and the open
quote. At a backslash inside a quote it goes on two bytes further, which may be behind the end of
the text or inside a character. It follows the scan by characters nevertheless (`IsLoop.step`): the
bytes of the rest of that character change nothing.
-/

namespace ModelBench.Sql.ByOffset

open Text

variable {past rest : List Char} {c : Char} {i depth : Nat} {scan : Scan}

/-- What the loops over bytes have in common, whatever they are after: they follow quotes, count
opening parentheses and pass over the bytes of longer characters. -/
structure IsLoop {α : Type} (text : List UInt8) (loop : Nat → Nat → Option UInt8 → α) : Prop where
  quoted : ∀ {i depth : Nat} {b q : UInt8}, text[i]? = some b →
    loop i depth (some q) =
      if b = byte '\\' ∧ q ≠ byte '\x60' then loop (i + 2) depth (some q)
      else loop (i + 1) depth (if b = q then none else some q)
  opens : ∀ {i depth : Nat} {b : UInt8}, text[i]? = some b → isQuoteByte b = true →
    loop i depth none = loop (i + 1) depth (some b)
  raises : ∀ {i depth : Nat}, text[i]? = some (byte '(') →
    loop i depth none = loop (i + 1) (depth + 1) none
  passes : ∀ {i depth : Nat} {b : UInt8}, text[i]? = some b → 128 ≤ b →
    loop i depth none = loop (i + 1) depth none

/-- The offset at which a loop stands when a scan has read a text. -/
def index (scan : Scan) (past : List Char) : Nat := size past + if scan.escaped then 1 else 0

/-- A loop when a scan has read a text. -/
def following {α : Type} (loop : Nat → Nat → Option UInt8 → α) (scan : Scan) (past : List Char) :
    α :=
  loop (index scan past) scan.depth (scan.quote.map byte)

section

variable {α : Type} (loop : Nat → Nat → Option UInt8 → α)

theorem following_outside (depth : Nat) (past : List Char) :
    following loop (.outside depth) past = loop (size past) depth none := rfl

theorem following_inside (q : Char) (depth : Nat) (past : List Char) :
    following loop (.inside q depth) past = loop (size past) depth (some (byte q)) := rfl

theorem following_escaped (q : Char) (depth : Nat) (past : List Char) :
    following loop ⟨some q, true, depth⟩ past = loop (size past + 1) depth (some (byte q)) := rfl

end

theorem step_of_large (large : ¬ IsSmall c) (valid : scan.Valid) :
    scan.step c = { scan with escaped := false } := by
  have ne (d : Char) (small : IsSmall d) : c ≠ d := fun eq => large (eq ▸ small)
  obtain ⟨quote, escaped, depth⟩ := scan
  cases quote with
  | none =>
    have noQuote : ¬ isQuote c = true := fun quote => large (isSmall_of_isQuote quote)
    obtain rfl : escaped = false := congrArg Scan.escaped (valid.eq_outside rfl)
    simp [Scan.step, noQuote, ne '(' (by decide), ne ')' (by decide)]
  | some q =>
    have other : c ≠ q := ne q (isSmall_of_isQuote (valid.quote q rfl))
    cases escaped <;> simp [Scan.step, ne '\\' (by decide), other]

namespace IsLoop

variable {α : Type} {loop : Nat → Nat → Option UInt8 → α} {bs : List UInt8} {quote : Option UInt8}

theorem pass (h : IsLoop bs loop) {b : UInt8} (read : bs[i]? = some b) (large : 128 ≤ b)
    (small : ∀ q ∈ quote, q < 128) : loop i depth quote = loop (i + 1) depth quote := by
  cases quote with
  | none => exact h.passes read large
  | some q =>
    have noEscape : ¬ (b = byte '\\' ∧ q ≠ byte '\x60') := fun escape =>
      ne_of_large large (by decide) escape.1
    rw [h.quoted read, if_neg noEscape, if_neg (ne_of_large large (small q rfl))]

theorem pass_all (h : IsLoop bs loop) {n : Nat}
    (read : ∀ k < n, ∃ b, bs[i + k]? = some b ∧ 128 ≤ b) (small : ∀ q ∈ quote, q < 128) :
    loop i depth quote = loop (i + n) depth quote := by
  induction n with
  | zero => rfl
  | succ n ih =>
    obtain ⟨b, here, large⟩ := read n (Nat.lt_succ_self n)
    rw [ih fun k lt => read k (Nat.lt_succ_of_lt lt), h.pass here large small, Nat.add_assoc]

/-- A loop follows a scan over a longer character. -/
theorem step_large (h : IsLoop (bytes (past ++ c :: rest)) loop) (valid : scan.Valid)
    (large : ¬ IsSmall c) :
    following loop scan past = following loop (scan.step c) (past ++ [c]) := by
  have small : ∀ q ∈ scan.quote.map byte, q < 128 := by
    intro q member
    obtain ⟨d, open_, rfl⟩ := Option.map_eq_some_iff.1 member
    exact byte_lt (isSmall_of_isQuote (valid.quote d open_))
  have pos := c.utf8Size_pos
  -- a backslash before the character has taken its first byte already
  have ends : index scan past + (c.utf8Size - if scan.escaped then 1 else 0) =
      size (past ++ [c]) := by
    rw [index, size_append, size_cons, size_nil]
    split_ifs <;> omega
  rw [step_of_large large valid, following, following, h.pass_all ?_ small, ends]
  · rfl
  · intro k lt
    rw [index, Nat.add_assoc]
    exact exists_of_large large past rest (by omega)

/-- A loop follows a scan over a character inside a quote. -/
theorem step_quoted (h : IsLoop (bytes (past ++ c :: rest)) loop) (valid : scan.Valid)
    (small : IsSmall c) (quoted : scan.quote.isSome = true) :
    following loop scan past = following loop (scan.step c) (past ++ [c]) := by
  obtain ⟨quote, escaped, depth⟩ := scan
  obtain ⟨q, rfl⟩ := Option.isSome_iff_exists.1 quoted
  have small' : IsSmall q := isSmall_of_isQuote (valid.quote q rfl)
  have next := size_concat small past
  cases escaped with
  | true => rw [Scan.step_escaped, following_escaped, following_inside, next]
  | false =>
    have escapes : byte c = byte '\\' ∧ byte q ≠ byte '\x60' ↔ c = '\\' ∧ q ≠ '\x60' :=
      and_congr (byte_inj small (by decide)) (not_congr (byte_inj small' (by decide)))
    change following loop (.inside q depth) past =
      following loop ((Scan.inside q depth).step c) (past ++ [c])
    rw [following_inside, h.quoted (getElem?_of_small small past rest), Scan.step_inside]
    by_cases takes : c = '\\' ∧ q ≠ '\x60'
    · rw [if_pos (escapes.2 takes), if_pos takes, following_escaped, next]
    · rw [if_neg (mt escapes.1 takes), if_neg takes]
      by_cases closes : c = q
      · rw [if_pos closes, if_pos (congrArg byte closes), following_outside, next]
      · rw [if_neg closes, if_neg (byte_ne small small' closes), following_inside, next]

/-- A loop follows a scan over an opening quote or parenthesis. -/
theorem step_opens (h : IsLoop (bytes (past ++ c :: rest)) loop)
    (opens : isQuote c = true ∨ c = '(') :
    following loop (.outside depth) past =
      following loop ((Scan.outside depth).step c) (past ++ [c]) := by
  have small : IsSmall c := opens.elim isSmall_of_isQuote fun eq => eq ▸ (by decide)
  have next := size_concat small past
  have here := getElem?_of_small small past rest
  rw [following_outside, Scan.step_outside]
  by_cases quote : isQuote c = true
  · rw [if_pos quote, following_inside, next]
    exact h.opens here ((isQuoteByte_byte small).trans quote)
  · obtain rfl := opens.resolve_left quote
    rw [if_neg quote, if_pos rfl, following_outside, next]
    exact h.raises here

/-- A loop follows a scan over every character but the small ones outside quotes that open
nothing. -/
theorem step (h : IsLoop (bytes (past ++ c :: rest)) loop) (valid : scan.Valid)
    (follows : ¬ IsSmall c ∨ scan.quote.isSome = true ∨ isQuote c = true ∨ c = '(') :
    following loop scan past = following loop (scan.step c) (past ++ [c]) := by
  by_cases small : IsSmall c
  · by_cases quoted : scan.quote.isSome = true
    · exact h.step_quoted valid small quoted
    · have opens := (follows.resolve_left (not_not.2 small)).resolve_left quoted
      rw [valid.eq_outside (Option.not_isSome_iff_eq_none.1 quoted)]
      exact h.step_opens opens
  · exact h.step_large valid small

end IsLoop

/-- The characters that a loop does not follow by itself stand outside quotes and open nothing. -/
theorem follows_or_outside (valid : scan.Valid) (c : Char) :
    (¬ IsSmall c ∨ scan.quote.isSome = true ∨ isQuote c = true ∨ c = '(') ∨
      (IsSmall c ∧ ¬ isQuote c = true ∧ c ≠ '(' ∧ ∃ d, scan = .outside d) := by
  by_cases follows : ¬ IsSmall c ∨ scan.quote.isSome = true ∨ isQuote c = true ∨ c = '('
  · exact .inl follows
  · simp only [not_or, not_not, Option.not_isSome_iff_eq_none] at follows
    exact .inr ⟨follows.1, follows.2.2.1, follows.2.2.2, _, valid.eq_outside follows.2.1⟩

end ModelBench.Sql.ByOffset
