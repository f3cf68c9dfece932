import ModelBench.Sql.Scan
import ModelBench.Proofs.Text.Trim
import Mathlib.Tactic.Common

/-!
# Words of statements

A word is a run of name characters. A keyword matches a text exactly when the text starts with it up
to the case of its letters (`dropIgnoringCase_eq_some_iff`), and it does not reach beyond the word
that the text starts with (`exists_word_of_drop`).
-/

namespace ModelBench.Sql

variable {wanted more text rest word after : List Char}

/-- The text with all capitals of ASCII made small. -/
def lower (text : List Char) : List Char := text.map Char.toLower

@[simp] theorem lower_nil : lower [] = [] := rfl

@[simp] theorem lower_cons (c : Char) (text : List Char) :
    lower (c :: text) = c.toLower :: lower text := rfl

@[simp] theorem lower_append (text more : List Char) :
    lower (text ++ more) = lower text ++ lower more := List.map_append

theorem toNat_toLower {c : Char} (capital : 65 ≤ c.toNat ∧ c.toNat ≤ 90) :
    c.toLower.toNat = c.toNat + 32 := by
  have capital' : c.val ≥ 'A'.val ∧ c.val ≤ 'Z'.val := by
    simpa [UInt32.le_iff_toNat_le] using capital
  have small : c.toLower = _ := dif_pos capital'
  rw [small]
  show (c.val + ('a'.val - 'A'.val)).toNat = c.val.toNat + 32
  rw [UInt32.toNat_add]
  show (c.val.toNat + 32) % 2 ^ 32 = _
  have : c.val.toNat ≤ 90 := capital.2
  omega

theorem isNameChar_iff (c : Char) : isNameChar c = true ↔
    (65 ≤ c.toNat ∧ c.toNat ≤ 90) ∨ (97 ≤ c.toNat ∧ c.toNat ≤ 122) ∨
      (48 ≤ c.toNat ∧ c.toNat ≤ 57) ∨ c.toNat = 95 := by
  have underscore : c = '_' ↔ c.toNat = 95 := by
    constructor
    · rintro rfl
      rfl
    · intro h
      rw [← Char.ofNat_toNat c, h]
  have range (low high : UInt32) : (decide (c.val ≥ low) && decide (c.val ≤ high)) = true ↔
      low.toNat ≤ c.toNat ∧ c.toNat ≤ high.toNat := by
    rw [Bool.and_eq_true, decide_eq_true_iff, decide_eq_true_iff]
    rfl
  have upper : c.isUpper = true ↔ 65 ≤ c.toNat ∧ c.toNat ≤ 90 := decide_eq_true_iff
  have lower : c.isLower = true ↔ 97 ≤ c.toNat ∧ c.toNat ≤ 122 := range 'a'.val 'z'.val
  have digit : c.isDigit = true ↔ 48 ≤ c.toNat ∧ c.toNat ≤ 57 := range '0'.val '9'.val
  have alpha : c.isAlpha = true ↔ c.isUpper = true ∨ c.isLower = true := Bool.or_eq_true_iff
  rw [isNameChar, Bool.or_eq_true, beq_iff_eq, Char.isAlphanum, Bool.or_eq_true, alpha, upper,
    lower, digit, underscore, or_assoc, or_assoc]

theorem toLower_eq_self {c : Char} (small : ¬ (65 ≤ c.toNat ∧ c.toNat ≤ 90)) : c.toLower = c := by
  refine dif_neg ?_
  simpa [UInt32.le_iff_toNat_le] using small

theorem isNameChar_toLower (c : Char) : isNameChar c.toLower = isNameChar c := by
  rw [Bool.eq_iff_iff, isNameChar_iff, isNameChar_iff]
  by_cases capital : 65 ≤ c.toNat ∧ c.toNat ≤ 90
  · rw [toNat_toLower capital]
    omega
  · rw [toLower_eq_self capital]

/-- A character of no name has no other case. -/
theorem eq_of_toLower_eq {c d : Char} (other : isNameChar d = false) (h : c.toLower = d) :
    c = d := by
  by_cases capital : 65 ≤ c.toNat ∧ c.toNat ≤ 90
  · have name : isNameChar c = true := (isNameChar_iff c).2 (.inl capital)
    rw [← isNameChar_toLower, h, other] at name
    cases name
  · rw [← h, toLower_eq_self capital]

theorem isBlank_of_isNameChar {c : Char} (name : isNameChar c = true) : Text.isBlank c = false := by
  rw [isNameChar_iff] at name
  rw [Text.isBlank, Text.Ranges.contains, Text.blankRanges]
  simp
  omega

theorem isNameChar_of_isName (name : isName word = true) : ∀ c ∈ word, isNameChar c = true :=
  List.all_eq_true.1 (Bool.and_eq_true_iff.1 name).2

theorem solid_of_name (name : isName word = true) : Text.Solid word := by
  have solid : ∀ c ∈ word, Text.isBlank c = false := fun c hc =>
    isBlank_of_isNameChar (isNameChar_of_isName name c hc)
  rw [isName, Bool.and_eq_true, Bool.not_eq_true', List.isEmpty_eq_false_iff] at name
  refine ⟨name.1, ?_, ?_⟩
  · exact (Option.any_eq_false _ _).2 fun c hc => solid c (List.mem_of_head? hc)
  · exact (Option.any_eq_false _ _).2 fun c hc => solid c (List.mem_of_getLast? hc)

theorem all_isNameChar_of_lower (same : lower text = lower word)
    (name : word.all isNameChar = true) : text.all isNameChar = true := by
  have all (l : List Char) : l.all isNameChar = (lower l).all isNameChar := by
    rw [lower, List.all_map]
    exact List.all_congr rfl fun c => (isNameChar_toLower c).symm
  rw [all, same, ← all, name]

theorem dropIgnoringCase_eq_some_iff :
    dropIgnoringCase wanted text = some rest ↔
      ∃ front, text = front ++ rest ∧ lower front = lower wanted := by
  induction wanted generalizing text with
  | nil =>
    rw [dropIgnoringCase, Option.some.injEq]
    constructor
    · rintro rfl
      exact ⟨[], rfl, rfl⟩
    · rintro ⟨front, rfl, same⟩
      rw [List.map_eq_nil_iff.1 same]
      rfl
  | cons w wanted ih =>
    cases text with
    | nil =>
      simp only [dropIgnoringCase, reduceCtorEq, false_iff]
      rintro ⟨front, eq, same⟩
      obtain ⟨rfl, -⟩ := List.append_eq_nil_iff.1 eq.symm
      cases same
    | cons c text =>
      rw [dropIgnoringCase]
      split_ifs with head
      · rw [ih]
        constructor
        · rintro ⟨front, rfl, same⟩
          exact ⟨c :: front, rfl, by rw [lower_cons, lower_cons, same, head]⟩
        · rintro ⟨front, eq, same⟩
          cases front with
          | nil => cases same
          | cons x front =>
            obtain ⟨-, rfl⟩ := List.cons.inj eq
            exact ⟨front, rfl, (List.cons.inj same).2⟩
      · simp only [false_iff]
        rintro ⟨front, eq, same⟩
        cases front with
        | nil => cases same
        | cons x front =>
          obtain ⟨rfl, -⟩ := List.cons.inj eq
          exact head (List.cons.inj same).1.symm

theorem dropIgnoringCase_append_left (wanted more text : List Char) :
    dropIgnoringCase (wanted ++ more) text =
      (dropIgnoringCase wanted text).bind (dropIgnoringCase more) := by
  induction wanted generalizing text with
  | nil => rfl
  | cons w wanted ih =>
    cases text with
    | nil => rfl
    | cons c text =>
      rw [List.cons_append, dropIgnoringCase, dropIgnoringCase]
      split_ifs
      · exact ih text
      · rfl

@[simp] theorem dropIgnoringCase_self (wanted rest : List Char) :
    dropIgnoringCase wanted (wanted ++ rest) = some rest :=
  dropIgnoringCase_eq_some_iff.2 ⟨wanted, rfl, rfl⟩

/-! ## Whole words -/

/-- A keyword of name characters does not reach beyond the word that a text starts with. -/
theorem exists_word_of_drop (name : wanted.all isNameChar = true)
    (ends : startsName after = false)
    (h : dropIgnoringCase wanted (word ++ after) = some rest) :
    ∃ left, rest = left ++ after ∧ ∃ front, word = front ++ left ∧ lower front = lower wanted := by
  obtain ⟨front, eq, same⟩ := dropIgnoringCase_eq_some_iff.1 h
  rcases List.append_eq_append_iff.1 eq with ⟨beyond, rfl, tail⟩ | ⟨left, rfl, rfl⟩
  · -- the part of the keyword beyond the word would start with a name character
    cases beyond with
    | nil => exact ⟨[], tail.symm, word, by simp, by simpa using same⟩
    | cons c beyond =>
      rw [tail] at ends
      have all := all_isNameChar_of_lower same name
      simp only [List.all_append, List.all_cons, Bool.and_eq_true] at all
      simp [startsName, all.2.1] at ends
  · exact ⟨left, rfl, front, rfl, same⟩

theorem dropKeyword_eq_some_iff_drop : dropKeyword wanted text = some rest ↔
    dropIgnoringCase wanted text = some rest ∧ startsName rest = false := by
  unfold dropKeyword
  split
  · next behind found =>
    rw [found, Option.some.injEq]
    split_ifs with goesOn
    · refine iff_of_false nofun fun ⟨eq, stop⟩ => ?_
      rw [← eq, goesOn] at stop
      cases stop
    · rw [Option.some.injEq, Bool.not_eq_true] at *
      exact ⟨fun eq => ⟨eq, eq ▸ goesOn⟩, fun h => h.1⟩
  · next found =>
    rw [found]
    exact iff_of_false nofun fun h => nomatch h.1

/-- A keyword matches a text that starts with it in any case and goes on with no name. -/
theorem dropKeyword_eq_some_iff : dropKeyword wanted text = some rest ↔
    ∃ front, text = front ++ rest ∧ lower front = lower wanted ∧ startsName rest = false := by
  rw [dropKeyword_eq_some_iff_drop, dropIgnoringCase_eq_some_iff]
  exact ⟨fun ⟨⟨front, eq, same⟩, stop⟩ => ⟨front, eq, same, stop⟩,
    fun ⟨front, eq, same, stop⟩ => ⟨⟨front, eq, same⟩, stop⟩⟩

theorem dropKeyword_self (stop : startsName rest = false) :
    dropKeyword wanted (wanted ++ rest) = some rest := by
  rw [dropKeyword, dropIgnoringCase_self]
  simp [stop]

end ModelBench.Sql
