import ModelBench.Json.Printer
import ModelBench.Text.Quoted

/-!
# Why a JSON text is refused

A text is read from left to right for a value of an expected shape, and the first problem is the
one that is reported: a fault of the JSON itself, or a well-formed part that does not fit the shape.
An error says what the problem is; where it stands is left out.
-/

namespace ModelBench.Json

/-- What stands where something else was wanted. -/
inductive Found
  | null
  | boolean (value : Bool)
  | number (value : Number)
  | text (value : String)
  | sequence
  | map
  deriving DecidableEq, Repr

/-- A value as what was found. -/
def Found.ofJson : Json → Found
  | .null => .null
  | .bool b => .boolean b
  | .number n => .number n
  | .string s => .text s
  | .array _ => .sequence
  | .object _ => .map

/-- The first problem of a text, without its line and column. -/
inductive ReadError
  | endOfValue
  | endOfList
  | endOfObject
  | endOfText
  | expectedValue
  | expectedWord
  | expectedColon
  | expectedCommaOrBracket
  | expectedCommaOrBrace
  | keyNotText
  | trailingComma
  | trailingCharacters
  | invalidNumber
  | numberOutOfRange
  | invalidEscape
  | controlCharacter
  | loneSurrogate
  | unfinishedSurrogate
  | tooDeep
  | missingField (name : String)
  | duplicateField (name : String)
  | unexpected (found : Found) (wanted : String)
  | invalidValue (found : Found) (wanted : String)
  | wrongLength (length : Nat) (wanted : String)
  | unknownVariant (name : String) (names : List String)
  deriving DecidableEq, Repr

/-- The words for what was found. -/
def Found.message : Found → String
  | .null => "null"
  | .boolean b => s!"boolean `{b}`"
  | .number (.integer n) => s!"integer `{n}`"
  | .number (.real x) => s!"floating point `{x.render}`"
  | .text s => s!"string {Text.quote s}"
  | .sequence => "sequence"
  | .map => "map"

/-- A name between backticks. -/
def backticked (name : String) : String := s!"`{name}`"

/-- The words for the names one of which was wanted. -/
def namesMessage : List String → String
  | [] => "there are no variants"
  | [a] => s!"expected {backticked a}"
  | [a, b] => s!"expected {backticked a} or {backticked b}"
  | names => "expected one of " ++ String.intercalate ", " (names.map backticked)

/-- The text of a problem. It does not end in ` at line L column C`, as the text of a reader that
counts lines does. -/
def ReadError.message : ReadError → String
  | .endOfValue => "EOF while parsing a value"
  | .endOfList => "EOF while parsing a list"
  | .endOfObject => "EOF while parsing an object"
  | .endOfText => "EOF while parsing a string"
  | .expectedValue => "expected value"
  | .expectedWord => "expected ident"
  | .expectedColon => "expected `:`"
  | .expectedCommaOrBracket => "expected `,` or `]`"
  | .expectedCommaOrBrace => "expected `,` or `\x7d`"
  | .keyNotText => "key must be a string"
  | .trailingComma => "trailing comma"
  | .trailingCharacters => "trailing characters"
  | .invalidNumber => "invalid number"
  | .numberOutOfRange => "number out of range"
  | .invalidEscape => "invalid escape"
  | .controlCharacter => "control character (\\u0000-\\u001F) found while parsing a string"
  | .loneSurrogate => "lone leading surrogate in hex escape"
  | .unfinishedSurrogate => "unexpected end of hex escape"
  | .tooDeep => "recursion limit exceeded"
  | .missingField name => s!"missing field `{name}`"
  | .duplicateField name => s!"duplicate field `{name}`"
  | .unexpected found wanted => s!"invalid type: {found.message}, expected {wanted}"
  | .invalidValue found wanted => s!"invalid value: {found.message}, expected {wanted}"
  | .wrongLength length wanted => s!"invalid length {length}, expected {wanted}"
  | .unknownVariant name names => s!"unknown variant `{name}`, {namesMessage names}"

end ModelBench.Json
