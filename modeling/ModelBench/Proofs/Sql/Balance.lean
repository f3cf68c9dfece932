import ModelBench.Sql.Literal
import ModelBench.Sql.Scan
import Mathlib.Tactic.Common

/-!
# Balanced texts

A text is balanced when a scan over it ends outside quotes with no parenthesis open, and never
meets a closing parenthesis while none is open. Inside parentheses the scan of a balanced text
stays inside (`run_raise`), so the parenthesis that closes them is the one behind the text
(`untilClosed_of_balanced`). A literal is balanced whatever its value (`balanced_literal`).
-/

namespace ModelBench.Sql

variable {text front back : List Char} {c : Char} {k d : Nat} {s : Scan}

namespace Scan

@[simp] theorem run_nil (s : Scan) : s.run [] = s := rfl

@[simp] theorem run_cons (s : Scan) (c : Char) (text : List Char) :
    s.run (c :: text) = (s.step c).run text := rfl

theorem run_append (s : Scan) (front back : List Char) :
    s.run (front ++ back) = (s.run front).run back := List.foldl_append

/-- The scan outside quotes with `d` parentheses open. -/
def outside (d : Nat) : Scan := ⟨none, false, d⟩

/-- The scan inside a quote with `d` parentheses open. -/
def inside (q : Char) (d : Nat) : Scan := ⟨some q, false, d⟩

/-- The scan with `k` more parentheses open. -/
def raise (s : Scan) (k : Nat) : Scan := { s with depth := s.depth + k }

theorem start_raise (k : Nat) : start.raise k = outside k := by
  simp [raise, start, outside]

/-- Whether a character closes a parenthesis while none is open. -/
def Underflows (s : Scan) (c : Char) : Prop := s.quote = none ∧ s.depth = 0 ∧ c = ')'

/-- Whether a scan meets no closing parenthesis while none is open. -/
def Sinks : Scan → List Char → Prop
  | _, [] => False
  | s, c :: rest => s.Underflows c ∨ (s.step c).Sinks rest

instance decidableSinks : (s : Scan) → (text : List Char) → Decidable (s.Sinks text)
  | _, [] => inferInstanceAs (Decidable False)
  | s, c :: rest =>
    have := decidableSinks (s.step c) rest
    inferInstanceAs (Decidable ((s.quote = none ∧ s.depth = 0 ∧ c = ')') ∨ (s.step c).Sinks rest))

theorem step_raise (h : ¬ s.Underflows c) : (s.raise k).step c = (s.step c).raise k := by
  obtain ⟨quote, escaped, depth⟩ := s
  cases quote with
  | some q =>
    cases escaped with
    | true => rfl
    | false =>
      simp only [step, raise, Bool.false_eq_true, if_false]
      split_ifs <;> rfl
  | none =>
    simp only [step, raise]
    split_ifs with hq ho hc
    · rfl
    · simp only [Nat.add_right_comm]
    · have : 0 < depth := Nat.pos_of_ne_zero fun zero => h ⟨rfl, zero, hc⟩
      simp only [Scan.mk.injEq, true_and]
      omega
    · rfl

/-- A scan with more parentheses open moves in step as long as no parenthesis is closed too
often. -/
theorem run_raise (h : ¬ s.Sinks text) : (s.raise k).run text = (s.run text).raise k := by
  induction text generalizing s with
  | nil => rfl
  | cons c rest ih =>
    rw [Sinks, not_or] at h
    rw [run_cons, run_cons, step_raise h.1, ih h.2]

theorem sinks_append : s.Sinks (front ++ back) ↔ s.Sinks front ∨ (s.run front).Sinks back := by
  induction front generalizing s with
  | nil => simp [Sinks]
  | cons c rest ih => rw [List.cons_append, Sinks, Sinks, ih, or_assoc, run_cons]

theorem not_sinks_raise (h : ¬ s.Sinks text) : ¬ (s.raise k).Sinks text := by
  induction text generalizing s with
  | nil => exact id
  | cons c rest ih =>
    rw [Sinks, not_or] at h ⊢
    refine ⟨fun ⟨quote, depth, eq⟩ => h.1 ⟨quote, ?_, eq⟩, ?_⟩
    · simp only [raise] at depth
      omega
    · rw [step_raise h.1]
      exact ih h.2

end Scan

/-! ## Balanced texts -/

/-- Whether a scan over a text ends outside quotes with no parenthesis open and never closes one
that is not open. -/
structure Balanced (text : List Char) : Prop where
  ends : Scan.start.run text = .start
  holds : ¬ Scan.start.Sinks text

instance (text : List Char) : Decidable (Balanced text) :=
  decidable_of_iff (Scan.start.run text = .start ∧ ¬ Scan.start.Sinks text)
    ⟨fun ⟨ends, holds⟩ => ⟨ends, holds⟩, fun ⟨ends, holds⟩ => ⟨ends, holds⟩⟩

theorem Balanced.nil : Balanced [] := ⟨rfl, id⟩

theorem Balanced.append (h : Balanced front) (h' : Balanced back) : Balanced (front ++ back) where
  ends := by rw [Scan.run_append, h.ends, h'.ends]
  holds := by
    rw [Scan.sinks_append, h.ends, not_or]
    exact ⟨h.holds, h'.holds⟩

theorem Balanced.run_outside (h : Balanced text) (d : Nat) :
    (Scan.outside d).run text = .outside d := by
  rw [← Scan.start_raise, Scan.run_raise h.holds, h.ends]

/-- Whether a character is neither a quote nor a parenthesis. -/
def isPlain (c : Char) : Bool := !isQuote c && c != '(' && c != ')'

theorem start_step (h : isPlain c = true) : Scan.start.step c = .start := by
  simp only [isPlain, Bool.and_eq_true, Bool.not_eq_true', bne_iff_ne, ne_eq] at h
  simp [Scan.start, Scan.step, h.1.1, h.1.2, h.2]

/-- Whether a text has no quotes and no parentheses. -/
def Plain (text : List Char) : Prop := ∀ c ∈ text, isPlain c = true

instance (text : List Char) : Decidable (Plain text) := List.decidableBAll _ _

theorem balanced_of_plain (h : Plain text) : Balanced text := by
  induction text with
  | nil => exact .nil
  | cons c rest ih =>
    have plain := h c List.mem_cons_self
    have rest := ih fun x hx => h x (List.mem_cons_of_mem _ hx)
    refine ⟨by rw [Scan.run_cons, start_step plain, rest.ends], ?_⟩
    rw [Scan.Sinks, start_step plain, not_or]
    refine ⟨?_, rest.holds⟩
    rintro ⟨-, -, rfl⟩
    revert plain
    decide

theorem Balanced.parens (h : Balanced text) : Balanced ('(' :: text ++ [')']) where
  ends := by
    rw [List.cons_append, Scan.run_cons, Scan.run_append]
    show ((Scan.outside 1).run text).run [')'] = _
    rw [h.run_outside]
    rfl
  holds := by
    rw [List.cons_append, Scan.Sinks, not_or, Scan.sinks_append, not_or]
    show ¬ Scan.start.Underflows '(' ∧ ¬ (Scan.outside 1).Sinks text ∧
      ¬ ((Scan.outside 1).run text).Sinks [')']
    rw [h.run_outside, ← Scan.start_raise]
    refine ⟨?_, Scan.not_sinks_raise h.holds, ?_⟩
    · rintro ⟨-, -, eq⟩
      cases eq
    · simp [Scan.Sinks, Scan.Underflows, Scan.raise]

/-! ## Literals -/

theorem inside_step (plain : ¬ (c = '"' ∨ c = '\\')) :
    (Scan.inside '"' d).step c = .inside '"' d := by
  rw [not_or] at plain
  simp [Scan.inside, Scan.step, plain.1, plain.2]

/-- Inside double quotes an escaped text leaves the scan where it is. -/
theorem run_escape (value : List Char) (d : Nat) :
    (Scan.inside '"' d).run (escape value) = .inside '"' d := by
  induction value with
  | nil => rfl
  | cons c rest ih =>
    rw [escape]
    split_ifs with special
    · rw [Scan.run_cons, Scan.run_cons]
      exact ih
    · rw [Scan.run_cons, inside_step special, ih]

/-- The scan does not close a parenthesis inside a quote. -/
theorem not_sinks_inside (value : List Char) (d : Nat) :
    ¬ (Scan.inside '"' d).Sinks (escape value) := by
  induction value with
  | nil => exact id
  | cons c rest ih =>
    rw [escape]
    split_ifs with special
    · simp only [Scan.Sinks, Scan.Underflows, not_or]
      exact ⟨by simp [Scan.inside], by simp [Scan.inside, Scan.step], ih⟩
    · rw [Scan.Sinks, inside_step special, not_or]
      exact ⟨by simp [Scan.Underflows, Scan.inside], ih⟩

/-- The literal of a text between double quotes. -/
def quoted (value : List Char) : List Char := '"' :: escape value ++ ['"']

theorem balanced_quoted (value : List Char) : Balanced (quoted value) where
  ends := by
    rw [quoted, List.cons_append, Scan.run_cons, Scan.run_append]
    show ((Scan.inside '"' 0).run (escape value)).run ['"'] = _
    rw [run_escape]
    rfl
  holds := by
    rw [quoted, List.cons_append, Scan.Sinks, not_or, Scan.sinks_append, not_or]
    show ¬ Scan.start.Underflows '"' ∧ ¬ (Scan.inside '"' 0).Sinks (escape value) ∧
      ¬ ((Scan.inside '"' 0).run (escape value)).Sinks ['"']
    rw [run_escape]
    refine ⟨?_, not_sinks_inside value 0, ?_⟩
    · rintro ⟨-, -, eq⟩
      cases eq
    · simp [Scan.Sinks, Scan.Underflows, Scan.inside]

/-! ## Closing parentheses -/

section

variable {inside after : List Char}

theorem untilClosed_eq_some (h : untilClosed s text = some (inside, after)) :
    text = inside ++ ')' :: after := by
  induction text generalizing s inside with
  | nil => cases h
  | cons c rest ih =>
    rw [untilClosed] at h
    split_ifs at h with closes
    · obtain ⟨rfl, rfl⟩ := Prod.mk.inj (Option.some.inj h)
      rw [closes.2.1, List.nil_append]
    · obtain ⟨⟨inside', after'⟩, found, eq⟩ := Option.map_eq_some_iff.1 h
      obtain ⟨rfl, rfl⟩ := Prod.mk.inj eq
      rw [ih found, List.cons_append]

theorem parenthesised_eq_some (h : parenthesised text = some (inside, after)) :
    text = '(' :: (inside ++ ')' :: after) := by
  unfold parenthesised at h
  split at h
  · rw [untilClosed_eq_some h]
  · cases h

end

theorem untilClosed_of_not_sinks (ends : s.run text = .start) (holds : ¬ s.Sinks text)
    (after : List Char) : untilClosed (s.raise 1) (text ++ ')' :: after) = some (text, after) := by
  induction text generalizing s with
  | nil =>
    rw [Scan.run_nil] at ends
    subst ends
    rfl
  | cons c rest ih =>
    rw [Scan.Sinks, not_or] at holds
    have open_ : ¬ ((s.raise 1).quote = none ∧ c = ')' ∧ (s.raise 1).depth ≤ 1) := by
      rintro ⟨quote, eq, depth⟩
      simp only [Scan.raise] at quote depth
      exact holds.1 ⟨quote, by omega, eq⟩
    rw [List.cons_append, untilClosed, if_neg open_, Scan.step_raise holds.1, ih ends holds.2]
    rfl

/-- The parenthesis behind a balanced text closes the one before it. -/
theorem parenthesised_of_balanced (h : Balanced text) (after : List Char) :
    parenthesised ('(' :: text ++ ')' :: after) = some (text, after) :=
  untilClosed_of_not_sinks h.ends h.holds after

theorem enclosed_of_balanced (h : Balanced text) : enclosed ('(' :: text ++ [')']) = some text := by
  rw [enclosed, parenthesised_of_balanced h []]

end ModelBench.Sql
