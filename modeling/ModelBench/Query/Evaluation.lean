import ModelBench.Query.Result
import ModelBench.Sql.Literal
import ModelBench.Sql.Scan
import ModelBench.Text.Split

/-!
# Evaluating statements without a database

Some statements are evaluated as they stand: rows of literals joined by `UNION ALL`, selections of
no row, `SELECT *` around another relation, and the difference of two selections. Any other relation
has to be known beforehand. Cells are null or texts; types are not applied.
-/

namespace ModelBench.Query

open Text Sql

/-- The relations that are known beforehand, under their statements. -/
abbrev Known := String → Option QueryResult

/-- The start of a statement, for a message. -/
def excerpt (sql : List Char) : String :=
  String.ofList (sql.take 80) ++ if sql.length ≤ 80 then "" else "..."

/-- The error of a statement that is not of a known form. -/
def unsupported (what : String) (sql : List Char) : QueryError :=
  .unsupported s!"{what}: {excerpt sql}"

/-- The keyword that selections start with. -/
def selectWord : List Char := "SELECT".toList

/-- A name without the backticks around it. -/
def unquoteName (name : List Char) : String :=
  let isTick := (· == '\x60')
  String.ofList ((name.dropWhile isTick).reverse.dropWhile isTick).reverse

/-! ## Literals -/

/-- The rest of a number after its digits, if it has an exponent or ends. -/
def isExponent : List Char → Bool
  | [] => true
  | e :: rest =>
    let digits :=
      match rest with
      | '+' :: digits => digits
      | '-' :: digits => digits
      | digits => digits
    e.toLower == 'e' && !digits.isEmpty && digits.all Char.isDigit

/-- Whether a text without a sign is a number, or a name for what is no finite one. -/
def isUnsignedNumber (text : List Char) : Bool :=
  let whole := text.takeWhile Char.isDigit
  let rest := text.dropWhile Char.isDigit
  let plain :=
    match rest with
    | '.' :: rest =>
      let places := rest.takeWhile Char.isDigit
      !(whole.isEmpty && places.isEmpty) && isExponent (rest.dropWhile Char.isDigit)
    | rest => !whole.isEmpty && isExponent rest
  plain || ["inf", "infinity", "nan"].contains (String.ofList (text.map Char.toLower))

/-- Whether a text is a number. -/
def isNumber : List Char → Bool
  | '+' :: rest => isUnsignedNumber rest
  | '-' :: rest => isUnsignedNumber rest
  | text => isUnsignedNumber text

/-- What a text holds between two quotes of a kind. -/
def quotedBody (q : Char) (text : List Char) : Option (List Char) :=
  match text with
  | c :: rest => if c = q ∧ rest.getLast? = some q then some rest.dropLast else none
  | [] => none

/-- What a conversion converts. -/
def castOperand (text : List Char) : Option (List Char) := do
  let rest ← dropKeyword "CAST".toList text
  let inside ← enclosed (trim rest)
  let (operand, _) ← Separator.asWord.cutLast inside
  return trim operand

theorem trim_length_le (text : List Char) : (trim text).length ≤ text.length := by
  have dropWhile_le (l : List Char) : (l.dropWhile isBlank).length ≤ l.length :=
    (List.dropWhile_sublist _).length_le
  unfold trim trimEnd trimStart
  rw [List.length_reverse]
  exact Nat.le_trans (dropWhile_le _) (by rw [List.length_reverse]; exact dropWhile_le _)

theorem castOperand_length {text operand : List Char} (h : castOperand text = some operand) :
    operand.length < text.length := by
  simp only [castOperand, Option.bind_eq_bind, Option.bind_eq_some_iff, Option.pure_def,
    Option.some.injEq, Prod.exists, Separator.cutLast, Option.map_eq_some_iff,
    Separator.cutAt, Prod.mk.injEq] at h
  obtain ⟨rest, hrest, inside, hinside, _, _, ⟨position, _, rfl, _⟩, rfl⟩ := h
  have h1 := dropKeyword_length hrest
  have h2 := enclosed_length hinside
  have h3 := trim_length_le rest
  have h4 := trim_length_le (inside.take position)
  have h5 := List.length_take_le' position inside
  omega

/-- The cell of an expression that is no conversion. -/
def plainLiteral (text : List Char) : Except QueryError Json :=
  if text.map Char.toLower = "null".toList then .ok .null
  else
    match quotedBody '"' text <|> quotedBody '\'' text with
    | some body => .ok (.string (String.ofList (unescape body)))
    | none =>
      if isNumber text then .ok (.string (String.ofList text))
      else .error (unsupported "expression" text)

/-- The cell of an expression. -/
def literal (text : List Char) : Except QueryError Json :=
  if (dropKeyword "CAST".toList text).isSome then
    match _h : castOperand text with
    | some operand => literal operand
    | none => .error (unsupported "CAST expression" text)
  else plainLiteral text
  termination_by text.length
  decreasing_by exact castOperand_length _h

/-! ## Relations -/

/-- The cell of an entry of a selection, and its name. The entry at position `index` has a name of
its own if none is given. -/
def entry (index : Nat) (text : List Char) : Except QueryError (String × Json) := do
  let text := trim text
  match Separator.asWord.cutLast text with
  | some (expression, name) => return (unquoteName (trim name), ← literal (trim expression))
  | none => return (s!"f{index}_", ← literal text)

/-- The cells of entries with their names, `index` being the position of the first one. -/
def entriesFrom (index : Nat) : List (List Char) → Except QueryError (List (String × Json))
  | [] => .ok []
  | text :: rest => do return (← entry index text) :: (← entriesFrom (index + 1) rest)

/-- The entries of a selection of literals, and whether it gives a row at all. -/
def selection (sql : List Char) : Except QueryError (List Char × Bool) :=
  match dropKeyword selectWord sql with
  | none => .error (unsupported "relation" sql)
  | some body =>
    match Separator.limit.cutFirst body with
    | none => .ok (body, true)
    | some (entries, count) =>
      if trim count = ['0'] then .ok (entries, false)
      else .error (unsupported "LIMIT other than 0" sql)

/-- The columns of a selection of literals, and its rows: one, or none if the number of rows is
limited to zero. -/
def literalSelect (sql : List Char) : Except QueryError (List String × List (List Json)) := do
  let (body, hasRow) ← selection (trim sql)
  let entries ← entriesFrom 0 (Separator.comma.split body)
  return (entries.map Prod.fst, if hasRow then [entries.map Prod.snd] else [])

/-- The rows of further selections, which must have the same columns as the first one. -/
def unionFrom (columns : List String) : List (List Char) → Except QueryError (List (List Json))
  | [] => .ok []
  | part :: rest => do
    let (found, rows) ← literalSelect part
    if found ≠ columns then throw (.query "UNION ALL branches have different columns")
    return rows ++ (← unionFrom columns rest)

/-- The rows of selections of literals that are put together. -/
def literalUnion (sql : List Char) : Except QueryError QueryResult :=
  match Separator.unionAll.split sql with
  | [] => .ok .empty
  | first :: rest => do
    let (columns, rows) ← literalSelect first
    return ⟨columns, rows ++ (← unionFrom columns rest)⟩

/-- Whether the words after a relation give it a name: none at all, a name, or `AS` and a name. -/
def isAliasClause (text : List Char) : Bool :=
  match words text with
  | [] => true
  | [name] => isName name
  | [word, name] => word.map Char.toLower == "as".toList && isName name
  | _ => false

/-- The relation inside a selection that passes everything through. -/
def starOperand (sql : List Char) : Option (List Char) := do
  let rest ← dropKeyword selectWord sql
  let rest ← dropIgnoringCase ['*'] (trimStart rest)
  let rest ← dropKeyword "FROM".toList (trimStart rest)
  let (inside, after) ← parenthesised (trimStart rest)
  if isAliasClause after then return inside else none

theorem starOperand_length {sql inside : List Char} (h : starOperand sql = some inside) :
    inside.length < sql.length := by
  have trimStart_le (l : List Char) : (trimStart l).length ≤ l.length :=
    (List.dropWhile_sublist _).length_le
  simp only [starOperand, Option.bind_eq_bind, Option.bind_eq_some_iff, Option.pure_def,
    Prod.exists, Option.ite_none_right_eq_some, Option.some.injEq] at h
  obtain ⟨a, ha, b, hb, c, hc, i, after, hi, _, rfl⟩ := h
  have h1 := dropKeyword_length ha
  have h2 := dropIgnoringCase_length hb
  have h3 := dropKeyword_length hc
  have h4 := parenthesised_length hi
  have h5 := trimStart_le a
  have h6 := trimStart_le b
  have h7 := trimStart_le c
  omega

/-- The rows of a relation: known ones, those inside a selection that passes everything through, or
those of literals. -/
def relation (known : Known) (sql : List Char) : Except QueryError QueryResult :=
  match known (String.ofList (trim sql)) with
  | some result => .ok result
  | none =>
    match _h : starOperand (trim sql) with
    | some inside => relation known inside
    | none => literalUnion (trim sql)
  termination_by sql.length
  decreasing_by exact Nat.lt_of_lt_of_le (starOperand_length _h) (trim_length_le sql)

/-! ## Differences -/

/-- The columns that a selection names, and the relation it selects from. -/
def projection (sql : List Char) : Except QueryError (List String × List Char) :=
  let sql := trim sql
  match dropKeyword selectWord sql with
  | none => .error (unsupported "projection" sql)
  | some body =>
    match Separator.fromWord.cutFirst body with
    | none => .error (unsupported "projection without FROM" sql)
    | some (names, source) =>
      match enclosed (trim source) with
      | none => .error (unsupported "projection source" sql)
      | some inside =>
        let columns := (splitAt ',' names).map fun name => unquoteName (trim name)
        .ok (columns.filter fun column => !column.isEmpty, inside)

/-- The position of a column in a result. -/
def columnIndex (result : QueryResult) (column : String) : Except QueryError Nat :=
  match result.columns.findIdx? (· == column) with
  | some index => .ok index
  | none => .error (.query s!"Unrecognized name: {column}")

/-- The rows of a result, with some of its columns only. -/
def project (result : QueryResult) (columns : List String) :
    Except QueryError (List (List Json)) := do
  let indices ← columns.mapM (columnIndex result)
  return result.rows.map fun row => indices.map fun index => row.getD index .null

/-- The rows that are not among some others, each once. -/
def difference (others rows : List (List Json)) : List (List Json) :=
  rows.foldl
    (fun found row => if others.contains row || found.contains row then found else found ++ [row])
    []

/-- The rows of one selection that are not rows of another one with the same columns. -/
def exceptDistinct (known : Known) (left right : List Char) : Except QueryError QueryResult := do
  let (columns, left) ← projection left
  let (otherColumns, right) ← projection right
  if columns ≠ otherColumns then
    let text := String.intercalate ", "
    throw (.query (s!"EXCEPT DISTINCT sides project different columns: [{text columns}] vs " ++
      s!"[{text otherColumns}]"))
  let left ← project (← relation known left) columns
  let right ← project (← relation known right) columns
  return ⟨columns, difference right left⟩

/-- The answer of a query. -/
def evaluate (known : Known) (sql : String) : Except QueryError QueryResult :=
  let sql := trim sql.toList
  match Separator.exceptDistinct.split sql with
  | [_] => relation known sql
  | [left, right] => exceptDistinct known left right
  | _ => .error (unsupported "chained EXCEPT DISTINCT" sql)

end ModelBench.Query
