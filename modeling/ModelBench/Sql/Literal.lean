/-!
# Literals

A value stands in a statement as a text between double quotes, in which a backslash comes before
every quote and every backslash. An empty value is null.
-/

namespace ModelBench.Sql

/-- The text with a backslash before every double quote and every backslash. -/
def escape : List Char → List Char
  | [] => []
  | c :: rest => if c = '"' ∨ c = '\\' then '\\' :: c :: escape rest else c :: escape rest

/-- The text without the backslashes that come before another character. A backslash at the end
goes too. -/
def unescape : List Char → List Char
  | [] => []
  | ['\\'] => []
  | '\\' :: c :: rest => c :: unescape rest
  | c :: rest => c :: unescape rest

/-- A value as it stands between double quotes. One without double quotes and backslashes stands
there as it is. -/
def escapeLiteral (value : String) : String :=
  if value.toList.any fun c => c == '"' || c == '\\' then String.ofList (escape value.toList)
  else value

/-- The literal of a value. -/
def renderLiteral (value : String) : String :=
  if value.isEmpty then "null" else "\"" ++ escapeLiteral value ++ "\""

/-- One column of a row: a literal, converted if the column has a type, under the column's name. -/
def renderEntry (column value : String) (type? : Option String) : String :=
  match type? with
  | some type => s!"CAST({renderLiteral value} AS {type}) AS {column}"
  | none => s!"{renderLiteral value} AS {column}"

end ModelBench.Sql
