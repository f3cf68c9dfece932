import ModelBench.Text.Split
import Mathlib.Tactic.Common

/-!
# Pieces between separators

The pieces of a text are those before and behind a separator of it (`splitAt_divided`), and a text
without a separator is its only piece (`splitAt_of_notMem`).
-/

namespace ModelBench.Text

variable {d : Char} {text front back : List Char}

theorem splitAt_ne_nil (d : Char) (text : List Char) : splitAt d text ≠ [] := by
  cases text with
  | nil => simp [splitAt]
  | cons c rest =>
    rw [splitAt]
    split
    · simp
    · split_ifs <;> simp

theorem splitAt_cons_self (d : Char) (rest : List Char) :
    splitAt d (d :: rest) = [] :: splitAt d rest := by
  obtain ⟨piece, pieces, eq⟩ := List.exists_cons_of_ne_nil (splitAt_ne_nil d rest)
  rw [splitAt, eq]
  exact if_pos rfl

theorem splitAt_cons_of_ne {c : Char} {piece rest : List Char} {pieces : List (List Char)}
    (other : c ≠ d) (h : splitAt d rest = piece :: pieces) :
    splitAt d (c :: rest) = (c :: piece) :: pieces := by
  rw [splitAt, h]
  exact if_neg other

/-- A separator divides the pieces. -/
theorem splitAt_divided (d : Char) (front back : List Char) :
    splitAt d (front ++ d :: back) = splitAt d front ++ splitAt d back := by
  induction front with
  | nil => exact splitAt_cons_self d back
  | cons c front ih =>
    by_cases same : c = d
    · subst same
      rw [List.cons_append, splitAt_cons_self, splitAt_cons_self, ih, List.cons_append]
    · obtain ⟨piece, pieces, eq⟩ := List.exists_cons_of_ne_nil (splitAt_ne_nil d front)
      rw [eq, List.cons_append] at ih
      rw [List.cons_append, splitAt_cons_of_ne same ih, splitAt_cons_of_ne same eq]
      rfl

theorem splitAt_of_notMem (absent : d ∉ text) : splitAt d text = [text] := by
  induction text with
  | nil => rfl
  | cons c text ih =>
    rw [List.mem_cons, not_or] at absent
    exact splitAt_cons_of_ne (Ne.symm absent.1) (ih absent.2)

theorem splitAt_append (absent : d ∉ front) :
    splitAt d (front ++ d :: back) = front :: splitAt d back := by
  rw [splitAt_divided, splitAt_of_notMem absent, List.singleton_append]

end ModelBench.Text
