import ModelBench.Text.Split
import Mathlib.Data.List.Infix

/-!
# Words inside texts

Where a word can stand in a text that is put together from parts: a word without the character
between two parts lies in one of them (`infix_or_infix`), and a word does not begin in a part
without its first character (`infix_of_head_notMem`). The search for a word finds it wherever it
stands (`occursIn_iff_infix`).
-/

namespace ModelBench.Text

variable {α : Type} {x d : α} {word front back : List α}

theorem prefix_of_notMem (h : word <+: front ++ d :: back) (absent : d ∉ word) :
    word <+: front := by
  have other : front ++ [d] <+: front ++ d :: back := ⟨back, by simp⟩
  rcases List.prefix_or_prefix_of_prefix h other with inner | outer
  · rcases List.prefix_concat_iff.1 inner with rfl | inner
    · simp at absent
    · exact inner
  · exact absurd (outer.subset (by simp)) absent

theorem infix_or_infix (h : word <:+: front ++ d :: back) (absent : d ∉ word) :
    word <:+: front ∨ word <:+: back := by
  induction front with
  | nil =>
    rcases List.infix_cons_iff.1 h with start | later
    · have inner : word <+: [] := prefix_of_notMem start absent
      rw [List.prefix_nil.1 inner]
      exact .inl List.infix_rfl
    · exact .inr later
  | cons y rest ih =>
    rcases List.infix_cons_iff.1 h with start | later
    · have inner : word <+: y :: rest := prefix_of_notMem start absent
      exact .inl inner.isInfix
    · exact (ih later).imp_left List.infix_cons

theorem infix_of_head_notMem (h : x :: word <:+: front ++ back) (absent : x ∉ front) :
    x :: word <:+: back := by
  induction front with
  | nil => exact h
  | cons y rest ih =>
    rw [List.mem_cons, not_or] at absent
    rcases List.infix_cons_iff.1 h with start | later
    · exact absurd (List.cons_prefix_cons.1 start).1 absent.1
    · exact ih later absent.2

theorem occursIn_iff_infix {part text : List Char} :
    occursIn part text = true ↔ part <:+: text := by
  induction text with
  | nil => rw [occursIn, List.isEmpty_iff, List.infix_nil]
  | cons c text ih =>
    rw [occursIn, Bool.or_eq_true, List.isPrefixOf_iff_prefix, ih, List.infix_cons_iff]

end ModelBench.Text
