import ModelBench.Json.ReadError

/-!
# Words, strings and numbers of a JSON text

A reader takes the characters that are left and answers with what it read and the characters after
it, or with the first problem.
-/

namespace ModelBench.Json

/-- Whether a character may stand between the parts of a text. -/
def isGap (c : Char) : Bool := c == ' ' || c == '\n' || c == '\t' || c == '\r'

/-- The input from its first character that is no gap. -/
def skipGap (input : List Char) : List Char := input.dropWhile isGap

/-! ## Words -/

/-- The input after the letters of a word. -/
def expectWord : (word : List Char) → List Char → Except ReadError (List Char)
  | [], input => .ok input
  | _ :: _, [] => .error .endOfValue
  | w :: ws, c :: rest => if c = w then expectWord ws rest else .error .expectedWord

/-! ## Strings -/

/-- The value of a hexadecimal digit. -/
def hexValue (c : Char) : Option Nat :=
  if '0' ≤ c ∧ c ≤ '9' then some (c.toNat - '0'.toNat)
  else if 'a' ≤ c ∧ c ≤ 'f' then some (c.toNat - 'a'.toNat + 10)
  else if 'A' ≤ c ∧ c ≤ 'F' then some (c.toNat - 'A'.toNat + 10)
  else none

/-- The number of bytes of a text. -/
def byteLength (input : List Char) : Nat :=
  input.foldl (fun size c => size + c.utf8Size) 0

/-- The number that four hexadecimal digits make. Fewer than four bytes are the end of the text. -/
def hexFour (input : List Char) : Except ReadError Nat :=
  match input with
  | a :: b :: c :: d :: _ =>
    match hexValue a, hexValue b, hexValue c, hexValue d with
    | some a, some b, some c, some d => .ok (((a * 16 + b) * 16 + c) * 16 + d)
    | _, _, _, _ => .error .invalidEscape
  | short => if byteLength short < 4 then .error .endOfText else .error .invalidEscape

/-- The character of an escape that follows `\u`, and the number of characters it takes. A code
point above `0xFFFF` is written as two escapes. -/
def codeEscape (input : List Char) : Except ReadError (Char × Nat) := do
  let high ← hexFour input
  if 0xDC00 ≤ high ∧ high ≤ 0xDFFF then throw .loneSurrogate
  if high < 0xD800 ∨ 0xDBFF < high then return (Char.ofNat high, 4)
  match input.drop 4 with
  | [] => throw .endOfText
  | '\\' :: [] => throw .endOfText
  | '\\' :: 'u' :: rest =>
    let low ← hexFour rest
    if low < 0xDC00 ∨ 0xDFFF < low then throw .loneSurrogate
    return (Char.ofNat (0x10000 + (high - 0xD800) * 0x400 + (low - 0xDC00)), 10)
  | _ => throw .unfinishedSurrogate

/-- The character of an escape that follows a backslash, and the number of characters it takes. -/
def escape (input : List Char) : Except ReadError (Char × Nat) :=
  match input with
  | [] => .error .endOfText
  | '"' :: _ => .ok ('"', 1)
  | '\\' :: _ => .ok ('\\', 1)
  | '/' :: _ => .ok ('/', 1)
  | 'b' :: _ => .ok ('\x08', 1)
  | 'f' :: _ => .ok ('\x0c', 1)
  | 'n' :: _ => .ok ('\n', 1)
  | 'r' :: _ => .ok ('\r', 1)
  | 't' :: _ => .ok ('\t', 1)
  | 'u' :: rest => (codeEscape rest).map fun (c, size) => (c, size + 1)
  | _ :: _ => .error .invalidEscape

/-- The characters of a string up to its closing quote, after the next `skip` ones. -/
def stringTail : (skip : Nat) → List Char → Except ReadError (List Char × List Char)
  | _, [] => .error .endOfText
  | skip + 1, _ :: rest => stringTail skip rest
  | 0, c :: rest =>
    if c = '"' then .ok ([], rest)
    else if c = '\\' then do
      let (escaped, size) ← escape rest
      let (text, rest) ← stringTail size rest
      return (escaped :: text, rest)
    else if c.toNat < 32 then .error .controlCharacter
    else do
      let (text, rest) ← stringTail 0 rest
      return (c :: text, rest)

/-- The string whose opening quote has been read. -/
def readString (input : List Char) : Except ReadError (String × List Char) := do
  let (text, rest) ← stringTail 0 input
  return (String.ofList text, rest)

/-- The number of characters of an escape after a backslash that nobody is going to use. -/
def skipEscape (input : List Char) : Except ReadError Nat :=
  match input with
  | [] => .error .endOfText
  | 'u' :: rest => do
    match rest with
    | _ :: _ :: _ :: _ :: _ =>
      let _ ← hexFour rest
      return 5
    | short => if byteLength short < 4 then throw .endOfText else throw .invalidEscape
  | c :: _ => if c ∈ ['"', '\\', '/', 'b', 'f', 'n', 'r', 't'] then .ok 1 else .error .invalidEscape

/-- The input after a string that nobody is going to use, after the next `skip` characters. -/
def skipString : (skip : Nat) → List Char → Except ReadError (List Char)
  | _, [] => .error .endOfText
  | skip + 1, _ :: rest => skipString skip rest
  | 0, c :: rest =>
    if c = '"' then .ok rest
    else if c = '\\' then do
      let size ← skipEscape rest
      skipString size rest
    else if c.toNat < 32 then .error .controlCharacter
    else skipString 0 rest

/-! ## Numbers

The digits are gathered into a significand of 64 bits; digits that no longer fit move the power of
ten. The significand is rounded to a binary number first and then multiplied or divided by the
binary number nearest to the power of ten, so the last bit of the result may be off. -/

/-- The greatest significand. -/
def greatestSignificand : Nat := Nat.pow 2 64 - 1

/-- The greatest exponent that is counted. -/
def greatestExponent : Nat := Nat.pow 2 31 - 1

/-- Whether a character is a decimal digit. -/
def isDigit (c : Char) : Bool := '0' ≤ c && c ≤ '9'

/-- The value of a decimal digit. -/
def digitValue (c : Char) : Nat := c.toNat - '0'.toNat

/-- Digits under way: a significand, the power of ten it is to be multiplied by, and whether a digit
has been dropped. -/
structure Digits where
  significand : Nat
  power : Int
  full : Bool

/-- One more digit before the point. -/
def Digits.whole (d : Digits) (c : Char) : Digits :=
  if d.full then { d with power := d.power + 1 }
  else
    let next := d.significand * 10 + digitValue c
    if greatestSignificand < next then { d with power := d.power + 1, full := true }
    else { d with significand := next }

/-- One more digit after the point. -/
def Digits.fraction (d : Digits) (c : Char) : Digits :=
  if d.full then d
  else
    let next := d.significand * 10 + digitValue c
    if greatestSignificand < next then { d with full := true }
    else { d with significand := next, power := d.power - 1 }

/-- The binary number nearest to a power of ten that is in range. -/
def powerOfTen (k : Nat) : Binary64 := (Binary64.ofNat? (Nat.pow 10 k)).getD .zero

/-- A binary number times a power of ten. -/
def timesPower (x : Binary64) : (steps : Nat) → (power : Int) → Except ReadError Binary64
  | 0, _ => .ok x
  | steps + 1, power =>
    if power.natAbs ≤ 308 then
      if 0 ≤ power then
        match x.mul? (powerOfTen power.natAbs) with
        | some y => .ok y
        | none => .error .numberOutOfRange
      else .ok ((x.div? (powerOfTen power.natAbs)).getD x)
    else if x.isZero then .ok x
    else if 0 ≤ power then .error .numberOutOfRange
    else timesPower ((x.div? (powerOfTen 308)).getD x) steps (power + 308)

/-- The number of a significand and a power of ten. -/
def realOf (negative : Bool) (significand : Nat) (power : Int) : Except ReadError Number := do
  let x ← timesPower ((Binary64.ofNat? significand).getD .zero) 5 power
  return .real (if negative then x.neg else x)

/-- The number of a significand without point and exponent: an integer when it is in range. -/
def integerOf (negative : Bool) (d : Digits) : Except ReadError Number :=
  if d.full then realOf negative d.significand d.power
  else if !negative then .ok (.integer d.significand)
  else if 0 < d.significand ∧ d.significand ≤ Nat.pow 2 63 then .ok (.integer (-d.significand))
  else realOf true d.significand 0

/-- The number of the digits and of an exponent whose sign and digits are given. -/
def withExponent (negative : Bool) (d : Digits) (below : Bool) (exponent : List Char) :
    Except ReadError Number :=
  let e := exponent.foldl (fun e c => e * 10 + digitValue c) 0
  if greatestExponent < e then
    if d.significand ≠ 0 ∧ !below then .error .numberOutOfRange
    else .ok (.real { Binary64.zero with negative })
  else realOf negative d.significand (if below then d.power - e else d.power + e)

/-- The number that goes on with an exponent whose mark has been read. -/
def readExponent (negative : Bool) (d : Digits) (input : List Char) :
    Except ReadError (Number × List Char) := do
  let (below, input) :=
    match input with
    | '+' :: rest => (false, rest)
    | '-' :: rest => (true, rest)
    | _ => (false, input)
  match input with
  | [] => throw .endOfValue
  | c :: _ =>
    if !isDigit c then throw .invalidNumber
    let x ← withExponent negative d below (input.takeWhile isDigit)
    return (x, input.dropWhile isDigit)

/-- The number that goes on with a fraction whose point has been read. -/
def readFraction (negative : Bool) (d : Digits) (input : List Char) :
    Except ReadError (Number × List Char) := do
  match input with
  | [] => throw .endOfValue
  | c :: _ => if !isDigit c then throw .invalidNumber
  -- a digit may still fit after the point, although one before it did not
  let d := (input.takeWhile isDigit).foldl Digits.fraction { d with full := false }
  match input.dropWhile isDigit with
  | 'e' :: rest => readExponent negative d rest
  | 'E' :: rest => readExponent negative d rest
  | rest =>
    let x ← realOf negative d.significand d.power
    return (x, rest)

/-- The number whose sign has been read. -/
def readNumber (negative : Bool) (input : List Char) : Except ReadError (Number × List Char) := do
  match input with
  | [] => throw .endOfValue
  | c :: rest =>
    if !isDigit c then throw .invalidNumber
    if c = '0' ∧ rest.head?.any isDigit then throw .invalidNumber
  let d := (input.takeWhile isDigit).foldl Digits.whole ⟨0, 0, false⟩
  match input.dropWhile isDigit with
  | '.' :: rest => readFraction negative d rest
  | 'e' :: rest => readExponent negative d rest
  | 'E' :: rest => readExponent negative d rest
  | rest =>
    let x ← integerOf negative d
    return (x, rest)

/-- The input after an exponent that nobody is going to use. -/
def skipExponent (input : List Char) : Except ReadError (List Char) :=
  let input :=
    match input with
    | '+' :: rest => rest
    | '-' :: rest => rest
    | _ => input
  if input.head?.any isDigit then .ok (input.dropWhile isDigit) else .error .invalidNumber

/-- The input after a number that nobody is going to use, its sign having been read. -/
def skipNumber (input : List Char) : Except ReadError (List Char) := do
  match input with
  | [] => throw .invalidNumber
  | c :: rest =>
    if !isDigit c then throw .invalidNumber
    if c = '0' ∧ rest.head?.any isDigit then throw .invalidNumber
  match input.dropWhile isDigit with
  | '.' :: rest =>
    if !rest.head?.any isDigit then throw .invalidNumber
    match rest.dropWhile isDigit with
    | 'e' :: rest => skipExponent rest
    | 'E' :: rest => skipExponent rest
    | rest => return rest
  | 'e' :: rest => skipExponent rest
  | 'E' :: rest => skipExponent rest
  | rest => return rest

end ModelBench.Json
