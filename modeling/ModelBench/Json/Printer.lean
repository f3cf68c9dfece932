import ModelBench.Json.Value

/-!
# Writing JSON

A value has a compact form without blanks and an indented form: one item or member a line, two
spaces to a level, a colon and a space after a name, and nothing between the brackets of an empty
array or object.
-/

namespace ModelBench.Json

/-- A digit of a hexadecimal number in lower case. -/
def hexDigit (n : Nat) : Char := Nat.digitChar n

/-- A character as it stands between the quotes of a JSON string. -/
def escapeChar (c : Char) : List Char :=
  if c = '"' then ['\\', '"']
  else if c = '\\' then ['\\', '\\']
  else if c = '\x08' then ['\\', 'b']
  else if c = '\x09' then ['\\', 't']
  else if c = '\x0a' then ['\\', 'n']
  else if c = '\x0c' then ['\\', 'f']
  else if c = '\x0d' then ['\\', 'r']
  else if c.toNat < 32 then
    ['\\', 'u', '0', '0', hexDigit (c.toNat / 16), hexDigit (c.toNat % 16)]
  else [c]

/-- A JSON string. -/
def renderText (s : String) : List Char := '"' :: s.toList.flatMap escapeChar ++ ['"']

/-- A JSON number. -/
def Number.render : Number → List Char
  | .integer n => (toString n).toList
  | .real x => x.render.toList

/-- The value of a kind without parts, in either form. -/
def renderAtom : Json → List Char
  | .null => "null".toList
  | .bool true => "true".toList
  | .bool false => "false".toList
  | .number n => n.render
  | .string s => renderText s
  | .array _ => "[]".toList
  | .object _ => ['{', '}']

/-! ## The compact form -/

mutual

/-- The value on one line without blanks. -/
def compact : Json → List Char
  | .array (first :: rest) => '[' :: compact first ++ compactItems rest
  | .object ((name, first) :: rest) =>
    '{' :: renderText name ++ ':' :: compact first ++ compactMembers rest
  | atom => renderAtom atom

/-- The items after the first one and the bracket that closes them. -/
def compactItems : List Json → List Char
  | [] => [']']
  | item :: rest => ',' :: compact item ++ compactItems rest

/-- The members after the first one and the bracket that closes them. -/
def compactMembers : List (String × Json) → List Char
  | [] => ['}']
  | (name, value) :: rest =>
    ',' :: renderText name ++ ':' :: compact value ++ compactMembers rest

end

/-! ## The indented form -/

/-- A line end and the blanks that the next line starts with. -/
def newline (level : Nat) : List Char := '\n' :: List.replicate (2 * level) ' '

mutual

/-- The value in indented form, its first line standing inside a line of the given level. -/
def indented (level : Nat) : Json → List Char
  | .array (first :: rest) =>
    '[' :: newline (level + 1) ++ indented (level + 1) first ++ indentedItems level rest
  | .object ((name, first) :: rest) =>
    '{' :: newline (level + 1) ++ renderText name ++ ':' :: ' ' ::
      indented (level + 1) first ++ indentedMembers level rest
  | atom => renderAtom atom

/-- The items after the first one and the bracket that closes them. -/
def indentedItems (level : Nat) : List Json → List Char
  | [] => newline level ++ [']']
  | item :: rest =>
    ',' :: newline (level + 1) ++ indented (level + 1) item ++ indentedItems level rest

/-- The members after the first one and the bracket that closes them. -/
def indentedMembers (level : Nat) : List (String × Json) → List Char
  | [] => newline level ++ ['}']
  | (name, value) :: rest =>
    ',' :: newline (level + 1) ++ renderText name ++ ':' :: ' ' ::
      indented (level + 1) value ++ indentedMembers level rest

end

/-- The text of a value on one line. -/
def render (j : Json) : String := String.ofList (compact j)

/-- The text of a value in indented form. -/
def renderIndented (j : Json) : String := String.ofList (indented 0 j)

end ModelBench.Json
