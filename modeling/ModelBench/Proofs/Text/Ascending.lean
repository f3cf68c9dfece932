import ModelBench.Text.Ascending
import Mathlib.Data.String.Basic
import Mathlib.Data.List.Sort

/-!
# Texts in ascending order

`ascending` gives the members of a list (`mem_ascending`), each once and in ascending order
(`ascending_sorted`). These two facts determine it, so the order and the repetitions of the list do
not matter (`ascending_congr`).
-/

namespace ModelBench.Text

theorem mem_insertAscending {x text : String} {texts : List String} :
    x ∈ insertAscending text texts ↔ x = text ∨ x ∈ texts := by
  induction texts with
  | nil => simp [insertAscending]
  | cons other rest ih =>
    unfold insertAscending
    split_ifs with lt eq
    · simp
    · subst eq
      simp
    · rw [List.mem_cons, ih, List.mem_cons]
      tauto

@[simp] theorem mem_ascending {x : String} {texts : List String} :
    x ∈ ascending texts ↔ x ∈ texts := by
  induction texts with
  | nil => simp [ascending]
  | cons text rest ih =>
    rw [ascending, List.foldr_cons, mem_insertAscending, List.mem_cons]
    exact or_congr_right ih

theorem insertAscending_sorted {text : String} {texts : List String}
    (h : texts.Pairwise (· < ·)) : (insertAscending text texts).Pairwise (· < ·) := by
  induction texts with
  | nil => simp [insertAscending]
  | cons other rest ih =>
    obtain ⟨least, sorted⟩ := List.pairwise_cons.1 h
    unfold insertAscending
    split_ifs with lt eq
    · refine List.pairwise_cons.2 ⟨fun x hx => ?_, h⟩
      rcases List.mem_cons.1 hx with rfl | hx
      · exact lt
      · exact lt.trans (least x hx)
    · exact h
    · refine List.pairwise_cons.2 ⟨fun x hx => ?_, ih sorted⟩
      rcases mem_insertAscending.1 hx with rfl | hx
      · exact lt_of_le_of_ne (not_lt.1 lt) fun e => eq e.symm
      · exact least x hx

/-- The list is strictly ascending: every text stands in it once. -/
theorem ascending_sorted (texts : List String) : (ascending texts).Pairwise (· < ·) := by
  induction texts with
  | nil => simp [ascending]
  | cons text rest ih => exact insertAscending_sorted ih

/-- Lists with the same members have the same ascending list. -/
theorem ascending_congr {texts others : List String} (h : ∀ x, x ∈ texts ↔ x ∈ others) :
    ascending texts = ascending others :=
  List.Perm.eq_of_pairwise' (ascending_sorted texts) (ascending_sorted others)
    ((List.perm_ext_iff_of_nodup ((ascending_sorted texts).imp ne_of_lt)
      ((ascending_sorted others).imp ne_of_lt)).2 fun x => by simp [h])

end ModelBench.Text
