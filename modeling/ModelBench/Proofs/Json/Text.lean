import ModelBench.Json.Printer
import ModelBench.Json.Token
import Mathlib.Tactic.Common

/-!
# Texts written and read back

Between its quotes every character of a text is written as itself or as an escape, and either way it
is what is read there (`stringTail_escapeChar`). So a text is read back, whatever follows it
(`readString_renderText`).
-/

namespace ModelBench.Json

variable {c : Char} {rest : List Char}

/-- A character that is read before the rest of a string. -/
def readBefore (c : Char) (result : Except ReadError (List Char × List Char)) :
    Except ReadError (List Char × List Char) :=
  result.map fun (text, rest) => (c :: text, rest)

theorem stringTail_plain (quote : c ≠ '"') (slash : c ≠ '\\') (plain : 32 ≤ c.toNat) :
    stringTail 0 (c :: rest) = readBefore c (stringTail 0 rest) := by
  rw [stringTail, if_neg quote, if_neg slash, if_neg (Nat.not_lt.2 plain)]
  cases stringTail 0 rest <;> rfl

/-- An escape is read as its character, and what it takes is skipped. -/
theorem stringTail_escape {size : Nat} (h : escape rest = .ok (c, size)) :
    stringTail 0 ('\\' :: rest) = readBefore c (stringTail size rest) := by
  rw [stringTail, if_neg (by decide), if_pos rfl, h]
  show (stringTail size rest >>= _) = _
  cases stringTail size rest <;> rfl

theorem stringTail_skip (skipped rest : List Char) :
    stringTail skipped.length (skipped ++ rest) = stringTail 0 rest := by
  induction skipped with
  | nil => rfl
  | cons c skipped ih =>
    rw [List.length_cons, List.cons_append, stringTail]
    exact ih

theorem hexValue_hexDigit : ∀ n < 16, hexValue (hexDigit n) = some n := by
  decide

/-- A control character is read from its code. -/
theorem escape_code (small : c.toNat < 32) :
    escape ('u' :: '0' :: '0' :: hexDigit (c.toNat / 16) :: hexDigit (c.toNat % 16) :: rest) =
      .ok (c, 5) := by
  have high := hexValue_hexDigit (c.toNat / 16) (by omega)
  have low := hexValue_hexDigit (c.toNat % 16) (by omega)
  have zero : hexValue '0' = some 0 := by decide
  have four : hexFour ('0' :: '0' :: hexDigit (c.toNat / 16) :: hexDigit (c.toNat % 16) :: rest) =
      .ok c.toNat := by
    rw [hexFour]
    simp only [zero, high, low]
    congr 1
    omega
  have code : codeEscape
      ('0' :: '0' :: hexDigit (c.toNat / 16) :: hexDigit (c.toNat % 16) :: rest) = .ok (c, 4) := by
    rw [codeEscape, four]
    simp only [bind, Except.bind]
    rw [if_neg (by omega), if_pos (by omega), Char.ofNat_toNat]
    rfl
  rw [escape, code]
  rfl

/-- Whatever a character is written as is read as that character. -/
theorem stringTail_escapeChar (c : Char) (rest : List Char) :
    stringTail 0 (escapeChar c ++ rest) = readBefore c (stringTail 0 rest) := by
  -- each escape of two characters is read in the same way
  have short (mark : Char) (h : escape (mark :: rest) = .ok (c, 1)) :
      stringTail 0 ('\\' :: mark :: rest) = readBefore c (stringTail 0 rest) := by
    rw [stringTail_escape h]
    exact congrArg (readBefore c) (stringTail_skip [mark] rest)
  rw [escapeChar]
  split_ifs with quote slash back tab line feed carriage control
  · subst quote
    exact short _ rfl
  · subst slash
    exact short _ rfl
  · subst back
    exact short _ rfl
  · subst tab
    exact short _ rfl
  · subst line
    exact short _ rfl
  · subst feed
    exact short _ rfl
  · subst carriage
    exact short _ rfl
  · refine (stringTail_escape (escape_code control)).trans (congrArg (readBefore c) ?_)
    exact stringTail_skip ['u', '0', '0', hexDigit (c.toNat / 16), hexDigit (c.toNat % 16)] rest
  · exact stringTail_plain quote slash (Nat.not_lt.1 control)

theorem stringTail_flatMap (text rest : List Char) :
    stringTail 0 (text.flatMap escapeChar ++ '"' :: rest) = .ok (text, rest) := by
  induction text with
  | nil => rw [List.flatMap_nil, List.nil_append, stringTail, if_pos rfl]
  | cons c text ih =>
    rw [List.flatMap_cons, List.append_assoc, stringTail_escapeChar, ih]
    rfl

/-- A text is read back, whatever follows it. -/
theorem readString_renderText (s : String) (rest : List Char) :
    ∃ tail, renderText s ++ rest = '"' :: tail ∧ readString tail = .ok (s, rest) := by
  refine ⟨s.toList.flatMap escapeChar ++ '"' :: rest, by simp [renderText], ?_⟩
  rw [readString, stringTail_flatMap]
  show Except.ok (String.ofList s.toList, rest) = _
  rw [String.ofList_toList]

end ModelBench.Json
