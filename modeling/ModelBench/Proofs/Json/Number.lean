import ModelBench.Json.Printer
import ModelBench.Json.Token
import Mathlib.Data.List.Basic
import Mathlib.Tactic.Common

/-!
# Natural numbers written and read back

The digits of a number that fits into 64 bits are gathered into that number (`foldl_whole_toDigits`),
and none of them stands behind a leading zero (`head_toDigits_ne_zero`). So such a number is read
back wherever its digits end (`readNumber_toDigits`).
-/

namespace ModelBench.Json

variable {n : Nat} {rest : List Char}

/-- Whether a value can end before the rest of a text: a comma or a gap follows, if anything. -/
def Ended (rest : List Char) : Prop := ∀ c ∈ rest.head?, c = ',' ∨ isGap c = true

/-- Nothing that continues a number follows the end of a value. -/
theorem Ended.stops {c : Char} (ended : Ended (c :: rest)) :
    isDigit c = false ∧ c ≠ '.' ∧ c ≠ 'e' ∧ c ≠ 'E' := by
  rcases ended c rfl with rfl | gap
  · decide
  · simp only [isGap, Bool.or_eq_true, beq_iff_eq] at gap
    rcases gap with ((rfl | rfl) | rfl) | rfl <;> decide

/-! ## Digits -/

theorem isDigit_digitChar : ∀ n < 10, isDigit (Nat.digitChar n) = true := by
  decide

theorem digitValue_digitChar : ∀ n < 10, digitValue (Nat.digitChar n) = n := by
  decide

theorem isDigit_of_mem_toDigits : ∀ c ∈ Nat.toDigits 10 n, isDigit c = true := by
  induction n using Nat.strongRecOn with
  | ind n ih =>
    intro c member
    by_cases small : n < 10
    · rw [Nat.toDigits_of_lt_base small, List.mem_singleton] at member
      rw [member]
      exact isDigit_digitChar n small
    · rw [Nat.toDigits_of_base_le (by decide) (Nat.not_lt.1 small), List.mem_append,
        List.mem_singleton] at member
      rcases member with front | rfl
      · exact ih (n / 10) (by omega) c front
      · exact isDigit_digitChar (n % 10) (by omega)

/-- No number but zero starts with a zero. -/
theorem head_toDigits_ne_zero (positive : 0 < n) : (Nat.toDigits 10 n).head? ≠ some '0' := by
  have digit : ∀ n < 10, 0 < n → Nat.digitChar n ≠ '0' := by
    decide
  induction n using Nat.strongRecOn with
  | ind n ih =>
    by_cases small : n < 10
    · rw [Nat.toDigits_of_lt_base small]
      simpa using digit n small positive
    · have before := ih (n / 10) (by omega) (by omega)
      rw [Nat.toDigits_of_base_le (by decide) (Nat.not_lt.1 small),
        List.head?_append_of_ne_nil _ Nat.toDigits_ne_nil]
      exact before

/-- The digits of a number are gathered into that number. -/
theorem foldl_whole_toDigits (small : n ≤ greatestSignificand) :
    (Nat.toDigits 10 n).foldl Digits.whole ⟨0, 0, false⟩ = ⟨n, 0, false⟩ := by
  have step (m k : Nat) (digit : k < 10) (fits : m * 10 + k ≤ greatestSignificand) :
      Digits.whole ⟨m, 0, false⟩ (Nat.digitChar k) = ⟨m * 10 + k, 0, false⟩ := by
    simp only [Digits.whole, digitValue_digitChar k digit]
    rw [if_neg Bool.false_ne_true, if_neg (Nat.not_lt.2 fits)]
  induction n using Nat.strongRecOn with
  | ind n ih =>
    by_cases single : n < 10
    · rw [Nat.toDigits_of_lt_base single, List.foldl_cons, List.foldl_nil,
        step 0 n single (by omega)]
      simp
    · have before := ih (n / 10) (by omega) (by omega)
      rw [Nat.toDigits_of_base_le (by decide) (Nat.not_lt.1 single), List.foldl_append, before,
        List.foldl_cons, List.foldl_nil, step (n / 10) (n % 10) (by omega) (by omega)]
      congr 1
      omega

/-! ## Numbers -/

theorem span_digits {digits : List Char} (all : ∀ c ∈ digits, isDigit c = true)
    (ended : Ended rest) : (digits ++ rest).takeWhile isDigit = digits ∧
      (digits ++ rest).dropWhile isDigit = rest := by
  rw [List.takeWhile_append_of_pos all, List.dropWhile_append_of_pos all]
  cases rest with
  | nil => exact ⟨List.append_nil _, rfl⟩
  | cons c rest =>
    have stop : ¬ isDigit c = true := by
      rw [ended.stops.1]
      decide
    rw [List.takeWhile_cons_of_neg stop, List.dropWhile_cons_of_neg stop, List.append_nil]
    exact ⟨rfl, rfl⟩

/-- Digits that are a number by themselves make that number. -/
theorem readNumber_of_digits {c : Char} {digits : List Char} {d : Digits}
    (all : ∀ x ∈ c :: digits, isDigit x = true) (leading : c = '0' → digits = [])
    (gathered : (c :: digits).foldl Digits.whole ⟨0, 0, false⟩ = d) (ended : Ended rest) :
    readNumber false (c :: digits ++ rest) = (integerOf false d).map fun x => (x, rest) := by
  obtain ⟨taken, dropped⟩ := span_digits all ended
  have proper : ¬ (c = '0' ∧ ((digits ++ rest).head?.any isDigit) = true) := by
    rintro ⟨zero, next⟩
    rw [leading zero, List.nil_append] at next
    cases rest with
    | nil => cases next
    | cons c rest =>
      rw [List.head?_cons, Option.any_some, ended.stops.1] at next
      cases next
  rw [List.cons_append] at taken dropped ⊢
  rw [readNumber.eq_def]
  simp only [taken, dropped, gathered, all c List.mem_cons_self, proper]
  rw [if_neg (by simp), if_neg id]
  cases rest with
  | nil => cases integerOf false d <;> rfl
  | cons x rest =>
    obtain ⟨-, point, small, large⟩ := ended.stops
    split
    · next eq => exact absurd (List.cons.inj eq).1 point
    · next eq => exact absurd (List.cons.inj eq).1 small
    · next eq => exact absurd (List.cons.inj eq).1 large
    · cases integerOf false d <;> rfl

/-- A number that fits into 64 bits is read back from its digits. -/
theorem readNumber_toDigits (small : n ≤ greatestSignificand) (ended : Ended rest) :
    readNumber false (Nat.toDigits 10 n ++ rest) = .ok (.integer n, rest) := by
  obtain ⟨c, digits, eq⟩ := List.exists_cons_of_ne_nil (Nat.toDigits_ne_nil (n := n) (b := 10))
  have gathered := foldl_whole_toDigits small
  have all : ∀ x ∈ Nat.toDigits 10 n, isDigit x = true := isDigit_of_mem_toDigits
  have leading : c = '0' → digits = [] := by
    intro zero
    rcases Nat.eq_zero_or_pos n with rfl | positive
    · rw [Nat.toDigits_zero, List.cons.injEq] at eq
      exact eq.2.symm
    · have head := head_toDigits_ne_zero positive
      rw [eq, List.head?_cons, zero] at head
      exact absurd rfl head
  rw [eq] at gathered all ⊢
  rw [readNumber_of_digits all leading gathered ended]
  rfl

end ModelBench.Json
