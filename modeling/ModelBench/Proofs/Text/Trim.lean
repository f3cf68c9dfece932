import ModelBench.Text.Blank
import Mathlib.Data.List.TakeWhile

/-!
# Blanks around texts

A text is what trimming leaves of it between blanks (`exists_pad`), and blanks around a text do not
change what trimming leaves (`trim_pad`). Together they make trimming idempotent.
-/

namespace ModelBench.Text

variable {text left right : List Char}

/-- Whether a text has no character but blanks. -/
def Blanks (text : List Char) : Prop := ∀ c ∈ text, isBlank c = true

instance (text : List Char) : Decidable (Blanks text) := List.decidableBAll _ _

/-- Whether a text is not empty and neither starts nor ends with a blank. -/
structure Solid (text : List Char) : Prop where
  nonempty : text ≠ []
  head : text.head?.any isBlank = false
  last : text.getLast?.any isBlank = false

theorem dropWhile_of_head {p : Char → Bool} (h : text.head?.any p = false) :
    text.dropWhile p = text := by
  cases text with
  | nil => rfl
  | cons c rest => exact List.dropWhile_cons_of_neg (by simpa using h)

theorem trimStart_pad (blanks : Blanks left) : trimStart (left ++ text) = trimStart text :=
  List.dropWhile_append_of_pos blanks

theorem trimEnd_pad (blanks : Blanks right) : trimEnd (text ++ right) = trimEnd text := by
  rw [trimEnd, trimEnd, List.reverse_append, List.dropWhile_append_of_pos]
  simpa [Blanks] using blanks

/-- Blanks around a text do not change what trimming leaves. -/
theorem trim_pad (before : Blanks left) (after : Blanks right) :
    trim (left ++ (text ++ right)) = trim text := by
  rw [trim, trim, trimStart_pad before, trimStart, List.dropWhile_append]
  split_ifs with blank
  · rw [trimStart, List.isEmpty_iff.1 blank, List.dropWhile_eq_nil_iff.2 after]
  · exact trimEnd_pad after

theorem trim_of_solid (h : Solid text) : trim text = text := by
  rw [trim, trimStart, dropWhile_of_head h.head, trimEnd, dropWhile_of_head, List.reverse_reverse]
  rw [List.head?_reverse]
  exact h.last

/-- What stands between two texts has no part in how the whole starts and ends. -/
theorem Solid.around {front back : List Char} (first : Solid front) (last : Solid back)
    (text : List Char) : Solid (front ++ (text ++ back)) where
  nonempty := List.append_ne_nil_of_left_ne_nil first.nonempty _
  head := by
    obtain ⟨c, rest, rfl⟩ := List.exists_cons_of_ne_nil first.nonempty
    exact first.head
  last := by
    have ends := last.last
    rw [List.getLast?_eq_some_getLast last.nonempty] at ends
    rw [← List.append_assoc, List.getLast?_append, List.getLast?_eq_some_getLast last.nonempty]
    exact ends

theorem solid_intercalate {pieces : List (List Char)} (glue : List Char) (nonempty : pieces ≠ [])
    (solid : ∀ piece ∈ pieces, Solid piece) : Solid (glue.intercalate pieces) := by
  induction pieces with
  | nil => exact absurd rfl nonempty
  | cons piece pieces ih =>
    rw [List.forall_mem_cons] at solid
    cases pieces with
    | nil =>
      rw [List.intercalate_singleton]
      exact solid.1
    | cons next pieces =>
      rw [List.intercalate_cons_cons, List.append_assoc]
      exact solid.1.around (ih (by simp) solid.2) glue

/-- A text is what trimming leaves of it between blanks. -/
theorem exists_pad (text : List Char) :
    ∃ left right, Blanks left ∧ Blanks right ∧ text = left ++ (trim text ++ right) := by
  have blanks (l : List Char) : Blanks (l.takeWhile isBlank) :=
    List.all_eq_true.1 List.all_takeWhile
  refine ⟨text.takeWhile isBlank, ((trimStart text).reverse.takeWhile isBlank).reverse, blanks _,
    fun c hc => blanks _ c (List.mem_reverse.1 hc), ?_⟩
  rw [trim, trimEnd, ← List.reverse_append, List.takeWhile_append_dropWhile, List.reverse_reverse,
    trimStart, List.takeWhile_append_dropWhile]

@[simp] theorem trim_trim (text : List Char) : trim (trim text) = trim text := by
  obtain ⟨left, right, before, after, eq⟩ := exists_pad text
  have inner : trim (left ++ (trim text ++ right)) = trim (trim text) := trim_pad before after
  rw [← eq] at inner
  exact inner.symm

end ModelBench.Text
