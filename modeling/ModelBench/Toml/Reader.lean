import ModelBench.Text.Split
import ModelBench.Toml.Value

/-!
# Reading TOML

`Toml.parse` reads a document line by line: entries, and headers that say where the entries after
them belong. A document that is not well formed is refused as a whole.
-/

namespace ModelBench.Toml

/-! ## Blanks and comments -/

/-- Whether a character separates words on a line. -/
def isSpace (c : Char) : Bool := c == ' ' || c == '\t'

/-- The text after the blanks it starts with. -/
def skipSpaces (text : List Char) : List Char := text.dropWhile isSpace

/-- Whether a character can stand as it is in comments and texts on one line. -/
def isPlain (c : Char) : Bool := c == '\t' || (' ' ≤ c && c ≠ '\x7f')

/-- The text after a comment, if it starts with one. -/
def skipComment : List Char → List Char
  | '#' :: rest => rest.dropWhile isPlain
  | text => text

/-- The text after the end of a line; the last line may end with the text. -/
def endOfLine (text : List Char) : Option (List Char) :=
  match skipComment (skipSpaces text) with
  | [] => some []
  | '\n' :: rest => some rest
  | '\r' :: '\n' :: rest => some rest
  | _ => none

/-- The text after the blanks, comments and line ends it starts with, `steps` bounding their
number. -/
def skipLines : (steps : Nat) → List Char → List Char
  | 0, text => text
  | steps + 1, text =>
    match skipComment (skipSpaces text) with
    | '\n' :: rest => skipLines steps rest
    | '\r' :: '\n' :: rest => skipLines steps rest
    | rest => rest

/-- The text after all blanks, comments and line ends it starts with. -/
def skipGap (text : List Char) : List Char := skipLines (text.length + 1) text

/-! ## Texts -/

/-- The value of hexadecimal digits. -/
def hexValue? : (value : Nat) → List Char → Option Nat
  | value, [] => some value
  | value, c :: rest =>
    if c.isDigit then hexValue? (value * 16 + (c.toNat - '0'.toNat)) rest
    else
      let lower := c.toLower
      if 'a' ≤ lower ∧ lower ≤ 'f' then hexValue? (value * 16 + (lower.toNat - 'a'.toNat + 10)) rest
      else none

/-- The character of a code point in some hexadecimal digits, and the text after them. -/
def codePoint (digits : Nat) (text : List Char) : Option (Char × List Char) := do
  if text.length < digits then none
  else
    let value ← hexValue? 0 (text.take digits)
    if value.isValidChar then return (Char.ofNat value, text.drop digits) else none

/-- The character that an escape stands for, and the text after it. The backslash is past. -/
def escaped : List Char → Option (Char × List Char)
  | 'b' :: rest => some ('\x08', rest)
  | 't' :: rest => some ('\t', rest)
  | 'n' :: rest => some ('\n', rest)
  | 'f' :: rest => some ('\x0c', rest)
  | 'r' :: rest => some ('\r', rest)
  | '"' :: rest => some ('"', rest)
  | '\\' :: rest => some ('\\', rest)
  | 'u' :: rest => codePoint 4 rest
  | 'U' :: rest => codePoint 8 rest
  | _ => none

/-- The text up to the quote that closes it, and what comes after. In a text with escapes a
backslash starts one. -/
def quotedOn (quote : Char) (hasEscapes : Bool) :
    (steps : Nat) → List Char → Option (List Char × List Char)
  | 0, _ => none
  | _ + 1, [] => none
  | steps + 1, c :: rest => do
    if c = quote then return ([], rest)
    else if hasEscapes ∧ c = '\\' then
      let (c, rest) ← escaped rest
      let (text, rest) ← quotedOn quote hasEscapes steps rest
      return (c :: text, rest)
    else if isPlain c then
      let (text, rest) ← quotedOn quote hasEscapes steps rest
      return (c :: text, rest)
    else none

/-- The text after a line end and all blanks and line ends behind it; none if the line goes on. -/
def skipLineBreak (text : List Char) : Option (List Char) :=
  let isGap (c : Char) : Bool := isSpace c || c == '\n' || c == '\r'
  match skipSpaces text with
  | '\n' :: rest => some (rest.dropWhile isGap)
  | '\r' :: '\n' :: rest => some (rest.dropWhile isGap)
  | _ => none

/-- The text over several lines up to the three quotes that close it, and what comes after. One or
two more quotes before those belong to the text. -/
def quotedOver (quote : Char) (hasEscapes : Bool) :
    (steps : Nat) → List Char → Option (List Char × List Char)
  | 0, _ => none
  | _ + 1, [] => none
  | steps + 1, c :: rest => do
    let continueWith (c : Char) (rest : List Char) : Option (List Char × List Char) := do
      let (text, rest) ← quotedOver quote hasEscapes steps rest
      return (c :: text, rest)
    if c = quote then
      let quotes := (c :: rest).takeWhile (· == quote)
      let after := (c :: rest).dropWhile (· == quote)
      if quotes.length < 3 then continueWith c rest
      else if quotes.length ≤ 5 then return (quotes.drop 3, after)
      else none
    else if hasEscapes ∧ c = '\\' then
      match skipLineBreak rest with
      | some rest => quotedOver quote hasEscapes steps rest
      | none =>
        let (c, rest) ← escaped rest
        continueWith c rest
    else if c = '\n' then continueWith c rest
    else if c = '\r' then
      match rest with
      | '\n' :: rest => continueWith '\n' rest
      | _ => none
    else if isPlain c then continueWith c rest
    else none

/-- The text without the line end it starts with. -/
def dropLineEnd : List Char → List Char
  | '\n' :: rest => rest
  | '\r' :: '\n' :: rest => rest
  | text => text

/-- The text in quotes of a kind at the start of the input, the first quote being past. -/
def readQuoted (quote : Char) (overLines : Bool) (input : List Char) :
    Option (String × List Char) := do
  let hasEscapes := quote == '"'
  let (text, rest) ←
    match overLines, input with
    | true, a :: b :: rest =>
      if a = quote ∧ b = quote then
        quotedOver quote hasEscapes (input.length + 1) (dropLineEnd rest)
      else quotedOn quote hasEscapes (input.length + 1) input
    | _, _ => quotedOn quote hasEscapes (input.length + 1) input
  return (String.ofList text, rest)

/-! ## Keys -/

/-- Whether a character can stand in a key without quotes. -/
def isKeyChar (c : Char) : Bool := c.isAlphanum || c == '_' || c == '-'

/-- The key without dots at the start of the input. -/
def readSimpleKey : List Char → Option (String × List Char)
  | '"' :: rest => readQuoted '"' false rest
  | '\'' :: rest => readQuoted '\'' false rest
  | text =>
    let key := text.takeWhile isKeyChar
    if key.isEmpty then none else some (String.ofList key, text.dropWhile isKeyChar)

/-- The parts of the key at the start of the input, `steps` bounding their number. -/
def readKeyParts : (steps : Nat) → List Char → Option (List String × List Char)
  | 0, _ => none
  | steps + 1, text => do
    let (key, rest) ← readSimpleKey (skipSpaces text)
    match skipSpaces rest with
    | '.' :: rest =>
      let (keys, rest) ← readKeyParts steps rest
      return (key :: keys, rest)
    | rest => return ([key], rest)

/-- The parts of the key at the start of the input. -/
def readKey (text : List Char) : Option (List String × List Char) :=
  readKeyParts (text.length + 1) text

/-! ## Numbers, truth values and dates -/

/-- Whether a text consists of digits of a kind, single underscores standing between them only. -/
def isDigits (isDigit : Char → Bool) (text : List Char) : Bool :=
  (Text.splitAt '_' text).all fun piece => !piece.isEmpty && piece.all isDigit

/-- Whether digits do not start with a zero that could be left out. -/
def hasNoLeadingZero (text : List Char) : Bool :=
  match text with
  | '0' :: _ :: _ => false
  | _ => true

/-- The text without a sign. -/
def dropSign : List Char → List Char
  | '+' :: rest => rest
  | '-' :: rest => rest
  | text => text

/-- The value of decimal digits between which underscores may stand. -/
def decimalValue (text : List Char) : Nat :=
  (text.filter Char.isDigit).foldl (fun value c => value * 10 + (c.toNat - '0'.toNat)) 0

/-- Whether a text is a decimal number without a fraction that fits in 64 bits. -/
def isDecimalInteger (text : List Char) : Bool :=
  let digits := dropSign text
  let limit := if text.head? = some '-' then Nat.pow 2 63 else Nat.pow 2 63 - 1
  isDigits Char.isDigit digits && hasNoLeadingZero digits && decimalValue digits ≤ limit

/-- Whether a text is a number in another base that fits in 64 bits. -/
def isBasedInteger : List Char → Bool
  | '0' :: base :: digits =>
    let isHexDigit (c : Char) : Bool := c.isDigit || ('a' ≤ c.toLower && c.toLower ≤ 'f')
    let kind : Option ((Char → Bool) × Nat) :=
      match base with
      | 'x' => some (isHexDigit, 16)
      | 'o' => some ((fun c => '0' ≤ c && c ≤ '7'), 8)
      | 'b' => some ((fun c => c == '0' || c == '1'), 2)
      | _ => none
    match kind with
    | none => false
    | some (isDigit, size) =>
      let value := (digits.filter (· ≠ '_')).foldl
        (fun value c => value * size + ((hexValue? 0 [c]).getD 0)) 0
      isDigits isDigit digits && value < Nat.pow 2 63
  | _ => false

/-- Whether a text is a number with a fraction or an exponent, or a name for what is no finite
one. -/
def isFloat (text : List Char) : Bool :=
  let body := dropSign text
  let isMark (c : Char) : Bool := c == 'e' || c == 'E'
  let number := body.takeWhile fun c => !isMark c
  let exponent := body.dropWhile fun c => !isMark c
  let whole := number.takeWhile (· ≠ '.')
  let fraction := number.dropWhile (· ≠ '.')
  let special := body == "inf".toList || body == "nan".toList
  let wellFormed :=
    isDigits Char.isDigit whole && hasNoLeadingZero whole &&
      (fraction.isEmpty || isDigits Char.isDigit (fraction.drop 1)) &&
      (exponent.isEmpty || isDigits Char.isDigit (dropSign (exponent.drop 1)))
  special || (wellFormed && !(fraction.isEmpty && exponent.isEmpty))

/-- The number in a text of exactly so many digits. -/
def fixedDigits (count : Nat) (text : List Char) : Option Nat :=
  if text.length = count ∧ text.all Char.isDigit then some (decimalValue text) else none

/-- The number of days of a month. -/
def daysOf (year month : Nat) : Nat :=
  if month = 2 then
    if year % 4 = 0 ∧ (year % 100 ≠ 0 ∨ year % 400 = 0) then 29 else 28
  else if month = 4 ∨ month = 6 ∨ month = 9 ∨ month = 11 then 30
  else 31

/-- Whether a text is a day. -/
def isDate (text : List Char) : Bool :=
  match Text.splitAt '-' text with
  | [year, month, day] =>
    match fixedDigits 4 year, fixedDigits 2 month, fixedDigits 2 day with
    | some year, some month, some day =>
      1 ≤ month && month ≤ 12 && 1 ≤ day && day ≤ daysOf year month
    | _, _, _ => false
  | _ => false

/-- Whether a text is a number of hours and one of minutes. -/
def isHourMinute (text : List Char) : Bool :=
  match Text.splitAt ':' text with
  | [hour, minute] =>
    match fixedDigits 2 hour, fixedDigits 2 minute with
    | some hour, some minute => hour ≤ 23 && minute ≤ 59
    | _, _ => false
  | _ => false

/-- Whether a text is a time of day. -/
def isTime (text : List Char) : Bool :=
  let clock := text.takeWhile (· ≠ '.')
  let fraction := text.dropWhile (· ≠ '.')
  let second := clock.drop 6
  isHourMinute (clock.take 5) && (clock.drop 5).head? == some ':' &&
    ((fixedDigits 2 second).any fun n => decide (n ≤ 60)) &&
    (fraction.isEmpty || (!(fraction.drop 1).isEmpty && (fraction.drop 1).all Char.isDigit))

/-- Whether a text is a time of day with or without its distance from the meridian. -/
def isZonedTime (text : List Char) : Bool :=
  let isZone (c : Char) : Bool := c == 'Z' || c == 'z' || c == '+' || c == '-'
  match text.dropWhile fun c => !isZone c with
  | [] => isTime text
  | c :: rest =>
    isTime (text.takeWhile fun c => !isZone c) &&
      if c == '+' || c == '-' then isHourMinute rest else rest.isEmpty

/-- Whether a text is a day, a time of day or both. -/
def isDateTime (text : List Char) : Bool :=
  isDate text || isTime text ||
    (isDate (text.take 10) &&
      ((text.drop 10).head?.any fun c => c == 'T' || c == 't' || c == ' ') &&
      isZonedTime (text.drop 11))

/-- Whether a text is a value without quotes or brackets. -/
def isAtom (text : List Char) : Bool :=
  text == "true".toList || text == "false".toList || isDecimalInteger text || isBasedInteger text ||
    isFloat text || isDateTime text

/-- Whether a character can stand in a value without quotes or brackets. -/
def isAtomChar (c : Char) : Bool :=
  c.isAlphanum || c == '_' || c == '-' || c == '+' || c == '.' || c == ':'

/-- The value without quotes or brackets at the start of the input. A blank may stand between a day
and a time. -/
def readAtom (input : List Char) : Option (Toml × List Char) :=
  let first := input.takeWhile isAtomChar
  let rest := input.dropWhile isAtomChar
  let (source, rest) :=
    match rest with
    | ' ' :: c :: more =>
      if isDate first ∧ c.isDigit then
        (first ++ ' ' :: (c :: more).takeWhile isAtomChar, (c :: more).dropWhile isAtomChar)
      else (first, rest)
    | _ => (first, rest)
  if isAtom source then some (.atom (String.ofList source), rest) else none

/-! ## Values -/

/-- The items of an array up to its closing bracket, `steps` bounding their number. -/
def readItems (value : List Char → Option (Toml × List Char)) :
    (steps : Nat) → List Char → Option (List Toml × List Char)
  | 0, _ => none
  | steps + 1, text =>
    match skipGap text with
    | ']' :: rest => some ([], rest)
    | text => do
      let (item, rest) ← value text
      match skipGap rest with
      | ',' :: rest =>
        let (items, rest) ← readItems value steps rest
        return (item :: items, rest)
      | ']' :: rest => return ([item], rest)
      | _ => none

/-- The entries of a table in braces up to the closing one, `steps` bounding their number. -/
def readInline (value : List Char → Option (Toml × List Char)) :
    (steps : Nat) → Entries → List Char → Option (Entries × List Char)
  | 0, _, _ => none
  | steps + 1, entries, text => do
    let (path, rest) ← readKey text
    match rest with
    | '=' :: rest =>
      let (item, rest) ← value (skipSpaces rest)
      let (_, entries) ← addEntry path item .inline entries
      match skipSpaces rest with
      | ',' :: rest => readInline value steps entries rest
      | '}' :: rest => return (entries, rest)
      | _ => none
    | _ => none

/-- Values may be nested up to this depth. -/
def depthLimit : Nat := 79

/-- The value at the start of the input, `depth` being left. -/
def readValue : (depth : Nat) → List Char → Option (Toml × List Char)
  | _, '"' :: rest => do
    let (text, rest) ← readQuoted '"' true rest
    return (.string text, rest)
  | _, '\'' :: rest => do
    let (text, rest) ← readQuoted '\'' true rest
    return (.string text, rest)
  | 0, text => readAtom text
  | depth + 1, '[' :: rest => do
    let (items, rest) ← readItems (readValue depth) (rest.length + 1) rest
    return (.array items, rest)
  | depth + 1, '{' :: rest =>
    match skipSpaces rest with
    | '}' :: rest => some (.table .inline [], rest)
    | rest => do
      let (entries, rest) ← readInline (readValue depth) (rest.length + 1) [] rest
      return (.table .inline entries, rest)
  | _, text => readAtom text

/-! ## Documents -/

/-- A document that is being read: its entries, and the path of the last header. -/
structure Document where
  root : Entries
  current : List String

/-- The document with a change to its entries. -/
def Document.update (d : Document) (edit : Origin → Entries → Option (Origin × Entries)) :
    Option Document := do
  let (_, root) ← edit .header d.root
  return { d with root }

/-- The document after the header at the start of the input, the first bracket being past. -/
def Document.readHeader (d : Document) (input : List Char) : Option (Document × List Char) := do
  match input with
  | '[' :: rest =>
    let (path, rest) ← readKey rest
    match rest with
    | ']' :: ']' :: rest => return ({ ← d.update (addToTables path) with current := path }, rest)
    | _ => none
  | rest =>
    let (path, rest) ← readKey rest
    match rest with
    | ']' :: rest => return ({ ← d.update (addTable path) with current := path }, rest)
    | _ => none

/-- The document after the entry at the start of the input. -/
def Document.readEntry (d : Document) (input : List Char) : Option (Document × List Char) := do
  let (path, rest) ← readKey input
  match rest with
  | '=' :: rest =>
    let (value, rest) ← readValue depthLimit (skipSpaces rest)
    return (← d.update (change false (addEntry path value) d.current), rest)
  | _ => none

/-- The document after the rest of the input, `steps` bounding the number of its lines. -/
def Document.read : (steps : Nat) → Document → List Char → Option Document
  | 0, _, _ => none
  | steps + 1, d, input =>
    match skipGap input with
    | [] => some d
    | '[' :: rest => do
      let (d, rest) ← d.readHeader rest
      Document.read steps d (← endOfLine rest)
    | input => do
      let (d, rest) ← d.readEntry input
      Document.read steps d (← endOfLine rest)

/-- The entries of a text; a mark of the byte order may stand before them. -/
def parse (text : String) : Option Entries :=
  let input :=
    match text.toList with
    | '\uFEFF' :: rest => rest
    | input => input
  (Document.read (input.length + 1) ⟨[], []⟩ input).map Document.root

end ModelBench.Toml
