import ModelBench.Text.Blank
import ModelBench.Text.CaseFold
import ModelBench.Text.Replace
import ModelBench.Text.WordChar

/-!
# Putting a statement in the place of a name

Every mention of a table's full name, in any case, becomes the statement in parentheses. A mention
that has an alias keeps it, and one without gets the table's short name. The text is not read as
SQL: a name inside a literal counts as well.
-/

namespace ModelBench.Sql

open Text

/-- A statement to be put in the place of a table. -/
structure Replacement where
  /-- The name of the table as statements write it. -/
  fullName : String
  sql : String
  /-- The alias of a mention that has none. -/
  shortName : String
  deriving DecidableEq, Repr

/-- Why a replacement cannot be made. -/
inductive SubstitutionError
  /-- There is no name to look for. -/
  | missingTableName
  /-- The name makes no pattern to look for. A way that compares texts, as `substitute` does, builds
  no pattern and never fails so. -/
  | invalidPattern (reason : String)
  deriving DecidableEq, Repr

/-- The text of an error. -/
def SubstitutionError.message : SubstitutionError → String
  | .missingTableName => "Replacement has SQL but no table name to match"
  | .invalidPattern reason => s!"Invalid reference pattern: {reason}"

/-- A way to make a replacement in a statement. -/
abbrev Substituter := String → Replacement → Except SubstitutionError String

/-- The replacement that changes nothing. -/
def Replacement.zero : Replacement := ⟨"", "", ""⟩

/-- Whether a replacement changes nothing whatever the statement. -/
def Replacement.isZero (r : Replacement) : Bool := r == .zero

/-- The statement of a replacement under an alias. -/
def Replacement.subquery (r : Replacement) (label : List Char) : List Char :=
  '(' :: r.sql.toList ++ ") AS ".toList ++ label

/-! ## Mentions of a table -/

/-- What follows `wanted` in a text that starts with it up to case. -/
def dropFold : (wanted text : List Char) → Option (List Char)
  | [], text => some text
  | _ :: _, [] => none
  | w :: wanted, c :: text => if sameFold w c then dropFold wanted text else none

/-- Whether a character can stand in an alias: a letter, a digit or an underscore, up to case. -/
def isAliasChar (c : Char) : Bool :=
  let folded := foldCase c
  folded.isAlphanum || folded == '_'

/-- The alias that follows a name, and the number of characters up to its end: blanks, `AS`, blanks,
and a run of alias characters that ends where the word ends. -/
def aliasAfter (text : List Char) : Option (List Char × Nat) :=
  let gap := text.takeWhile isBlank
  match dropFold ['a', 's'] (text.dropWhile isBlank) with
  | none => none
  | some rest =>
    let gap2 := rest.takeWhile isBlank
    let rest := rest.dropWhile isBlank
    let label := rest.takeWhile isAliasChar
    if gap.isEmpty || gap2.isEmpty || label.isEmpty ||
        (rest.dropWhile isAliasChar).head?.any isWord then none
    else some (label, gap.length + 2 + gap2.length + label.length)

/-- The replacement of a mention with an alias at the start of a text. -/
def aliasedMention (r : Replacement) (text : List Char) : Option (List Char × Nat) := do
  let rest ← dropFold r.fullName.toList text
  let (label, size) ← aliasAfter rest
  return (r.subquery label, r.fullName.toList.length + size)

/-- The replacement of any mention at the start of a text. -/
def bareMention (r : Replacement) (text : List Char) : Option (List Char × Nat) := do
  let _ ← dropFold r.fullName.toList text
  return (r.subquery r.shortName.toList, r.fullName.toList.length)

/-- The text with all mentions replaced: first the ones with an alias, then those that are left. -/
def Replacement.apply (r : Replacement) (text : List Char) : List Char :=
  replaceAll (bareMention r) (replaceAll (aliasedMention r) text)

/-- Makes a replacement in a statement. A replacement with anything but a full name is an error,
except for the one that changes nothing. -/
def substitute : Substituter := fun sql r =>
  if r.isZero then .ok sql
  else if r.fullName.isEmpty then .error .missingTableName
  else .ok (String.ofList (r.apply sql.toList))

/-- A replacement with a name can be made in every statement. -/
theorem substitute_of_named {r : Replacement} (named : r.fullName ≠ "") (sql : String) :
    substitute sql r = .ok (String.ofList (r.apply sql.toList)) := by
  have notZero : r.isZero = false := by
    refine beq_false_of_ne ?_
    rintro rfl
    exact named rfl
  rw [substitute, notZero, if_neg Bool.false_ne_true, if_neg]
  rw [String.isEmpty_iff]
  exact named

end ModelBench.Sql
