import ModelBench.Text.CaseFold
import Mathlib.Tactic.Common

/-!
# Characters that case does not touch

Only letters fold to another character, and no character but itself folds to one of the characters
below the small letters that are no capitals: digits, blanks, punctuation, the backtick.
-/

namespace ModelBench.Text

theorem foldShifts_images : ∀ run ∈ foldShifts, 0x61 ≤ run.2.2.2 := by decide +kernel

theorem toNat_ofNat_eq (n : Nat) : (Char.ofNat n).toNat = n ∨ (Char.ofNat n).toNat = 0 := by
  by_cases h : n.isValidChar
  · left
    rw [Char.ofNat, dif_pos h]
    rfl
  · right
    rw [Char.ofNat, dif_neg h]
    rfl

/-- The code points that only their own character folds to. -/
def isFixed (n : Nat) : Bool := (0 < n && n < 0x41) || (0x5A < n && n < 0x61)

theorem eq_of_foldCase_eq {c d : Char} (fixed : isFixed d.toNat = true) (h : foldCase c = d) :
    c = d := by
  have bounds : 0 < d.toNat ∧ d.toNat < 0x61 ∧ (d.toNat < 0x41 ∨ 0x5A < d.toNat) := by
    simp only [isFixed, Bool.or_eq_true, Bool.and_eq_true, decide_eq_true_eq] at fixed
    omega
  have image {n : Nat} (large : 0x61 ≤ n) : Char.ofNat n ≠ d := by
    rintro rfl
    rcases toNat_ofNat_eq n with e | e <;> omega
  unfold foldCase at h
  split_ifs at h with ascii capital
  · have large : 0x41 ≤ c.toNat := capital.1
    exact absurd h (image (by omega))
  · exact h
  · unfold Shifts.apply at h
    split at h
    · next run found =>
      exact absurd h (image (Nat.le_add_right_of_le
        (foldShifts_images _ (List.mem_of_find?_eq_some found))))
    · exact h

theorem foldCase_of_fixed {d : Char} (fixed : isFixed d.toNat = true) : foldCase d = d := by
  have bounds : d.toNat < 0x61 ∧ (d.toNat < 0x41 ∨ 0x5A < d.toNat) := by
    simp only [isFixed, Bool.or_eq_true, Bool.and_eq_true, decide_eq_true_eq] at fixed
    omega
  rw [foldCase, if_pos (by omega), if_neg]
  rintro ⟨low, high⟩
  have : 0x41 ≤ d.toNat ∧ d.toNat ≤ 0x5A := ⟨low, high⟩
  omega

/-- A character that case does not touch stands in a text exactly when it stands in the folded
text. -/
theorem mem_map_foldCase {d : Char} (fixed : isFixed d.toNat = true) {text : List Char} :
    d ∈ text.map foldCase ↔ d ∈ text := by
  rw [List.mem_map]
  constructor
  · rintro ⟨c, hc, h⟩
    rwa [eq_of_foldCase_eq fixed h] at hc
  · intro hd
    exact ⟨d, hd, foldCase_of_fixed fixed⟩

end ModelBench.Text
