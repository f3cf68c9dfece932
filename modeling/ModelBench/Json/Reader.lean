import ModelBench.Json.Token

/-!
# Reading a JSON text as a value

Arrays and objects that are kept may be nested 127 deep. The members of an object that is kept are
in ascending order of their names, and of two members with one name the later one counts. A value
that nobody is going to use only has to be well formed, at any depth.
-/

namespace ModelBench.Json

/-- The depth that is left at the start of a text. -/
def depthLimit : Nat := 128

/-- The depth that is left inside one more bracket. -/
def enter (depth : Nat) : Except ReadError Nat :=
  if depth ≤ 1 then .error .tooDeep else .ok (depth - 1)

/-! ## Separators -/

/-- What comes next between brackets: the end, with the characters after it, or one more part. -/
inductive Next
  | done (rest : List Char)
  | more (rest : List Char)

/-- The next item of an array. -/
def nextItem (first : Bool) (input : List Char) : Except ReadError Next :=
  match skipGap input with
  | [] => .error .endOfList
  | ']' :: rest => .ok (.done rest)
  | c :: rest =>
    if first then .ok (.more (c :: rest))
    else if c = ',' then
      match skipGap rest with
      | [] => .error .endOfValue
      | ']' :: _ => .error .trailingComma
      | rest => .ok (.more rest)
    else .error .expectedCommaOrBracket

/-- The next member of an object, past the quote that opens its name. -/
def nextMember (first : Bool) (input : List Char) : Except ReadError Next :=
  let name : List Char → Except ReadError Next
    | [] => .error .endOfValue
    | '"' :: rest => .ok (.more rest)
    | '}' :: _ => .error .trailingComma
    | _ :: _ => .error .keyNotText
  match skipGap input with
  | [] => .error .endOfObject
  | '}' :: rest => .ok (.done rest)
  | c :: rest =>
    if first then name (c :: rest)
    else if c = ',' then name (skipGap rest)
    else .error .expectedCommaOrBrace

/-- The input after a colon. -/
def expectColon (input : List Char) : Except ReadError (List Char) :=
  match skipGap input with
  | [] => .error .endOfObject
  | ':' :: rest => .ok rest
  | _ :: _ => .error .expectedColon

/-- The input after the bracket of an array all of whose items have been read. -/
def closeArray (input : List Char) : Except ReadError (List Char) :=
  match skipGap input with
  | [] => .error .endOfList
  | ']' :: rest => .ok rest
  | ',' :: rest =>
    .error (if (skipGap rest).head? = some ']' then .trailingComma else .trailingCharacters)
  | _ :: _ => .error .trailingCharacters

/-- The items of an array up to its closing bracket. -/
def readItems {α : Type} (item : List Char → Except ReadError (α × List Char)) :
    (steps : Nat) → (first : Bool) → List Char → Except ReadError (List α × List Char)
  | 0, _, _ => .error .endOfList
  | steps + 1, first, input => do
    match ← nextItem first input with
    | .done rest => return ([], rest)
    | .more rest =>
      let (value, rest) ← item rest
      let (values, rest) ← readItems item steps false rest
      return (value :: values, rest)

/-- The members of an object up to its closing bracket, gathered into `found`. The reader of a
member is given what was found so far, its name, and the input after the name. -/
def readMembers {α : Type} (member : α → String → List Char → Except ReadError (α × List Char)) :
    (steps : Nat) → (first : Bool) → (found : α) → List Char → Except ReadError (α × List Char)
  | 0, _, _, _ => .error .endOfObject
  | steps + 1, first, found, input => do
    match ← nextMember first input with
    | .done rest => return (found, rest)
    | .more rest =>
      let (name, rest) ← readString rest
      let (found, rest) ← member found name rest
      readMembers member steps false found rest

/-! ## Values that are kept -/

/-- The value at the start of the input, `depth` being left. -/
def readValue : (depth : Nat) → List Char → Except ReadError (Json × List Char)
  | 0, _ => .error .tooDeep
  | depth + 1, input => do
    match skipGap input with
    | [] => throw .endOfValue
    | 'n' :: rest => return (.null, ← expectWord "ull".toList rest)
    | 't' :: rest => return (.bool true, ← expectWord "rue".toList rest)
    | 'f' :: rest => return (.bool false, ← expectWord "alse".toList rest)
    | '-' :: rest =>
      let (n, rest) ← readNumber true rest
      return (.number n, rest)
    | '"' :: rest =>
      let (s, rest) ← readString rest
      return (.string s, rest)
    | '[' :: rest =>
      let _ ← enter (depth + 1)
      let (values, rest) ← readItems (readValue depth) (rest.length + 1) true rest
      return (.array values, rest)
    | '{' :: rest =>
      let _ ← enter (depth + 1)
      let member (found : List (String × Json)) (name : String) (rest : List Char) := do
        let (value, rest) ← readValue depth (← expectColon rest)
        return (insertMember name value found, rest)
      let (members, rest) ← readMembers member (rest.length + 1) true [] rest
      return (.object members, rest)
    | c :: rest =>
      if isDigit c then
        let (n, rest) ← readNumber false (c :: rest)
        return (.number n, rest)
      else throw .expectedValue

/-! ## Values that are skipped -/

/-- The input after the items of an array that is skipped, its first item being past. -/
def skipItems (item : List Char → Except ReadError (List Char)) :
    (steps : Nat) → List Char → Except ReadError (List Char)
  | 0, _ => .error .endOfList
  | steps + 1, input => do
    match skipGap input with
    | [] => throw .endOfList
    | ']' :: rest => return rest
    | ',' :: rest => skipItems item steps (← item rest)
    | _ :: _ => throw .expectedCommaOrBracket

/-- The input after a member that is skipped. -/
def skipMember (value : List Char → Except ReadError (List Char)) (input : List Char) :
    Except ReadError (List Char) := do
  match skipGap input with
  | [] => throw .endOfObject
  | '"' :: rest => value (← expectColon (← skipString 0 rest))
  | _ :: _ => throw .keyNotText

/-- The input after the members of an object that is skipped, its first member being past. -/
def skipMembers (value : List Char → Except ReadError (List Char)) :
    (steps : Nat) → List Char → Except ReadError (List Char)
  | 0, _ => .error .endOfObject
  | steps + 1, input => do
    match skipGap input with
    | [] => throw .endOfObject
    | '}' :: rest => return rest
    | ',' :: rest => skipMembers value steps (← skipMember value rest)
    | _ :: _ => throw .expectedCommaOrBrace

/-- The input after a value that nobody is going to use. -/
def skipValueIn : (steps : Nat) → List Char → Except ReadError (List Char)
  | 0, _ => .error .endOfValue
  | steps + 1, input => do
    match skipGap input with
    | [] => throw .endOfValue
    | 'n' :: rest => expectWord "ull".toList rest
    | 't' :: rest => expectWord "rue".toList rest
    | 'f' :: rest => expectWord "alse".toList rest
    | '-' :: rest => skipNumber rest
    | '"' :: rest => skipString 0 rest
    | '[' :: rest =>
      match skipGap rest with
      | [] => throw .endOfList
      | ']' :: rest => return rest
      | rest => skipItems (skipValueIn steps) (rest.length + 1) (← skipValueIn steps rest)
    | '{' :: rest =>
      match skipGap rest with
      | [] => throw .endOfObject
      | '}' :: rest => return rest
      | rest =>
        skipMembers (skipValueIn steps) (rest.length + 1) (← skipMember (skipValueIn steps) rest)
    | c :: rest => if isDigit c then skipNumber (c :: rest) else throw .expectedValue

/-- The input after a value that nobody is going to use. -/
def skipValue (input : List Char) : Except ReadError (List Char) :=
  skipValueIn (input.length + 1) input

/-! ## Whole texts -/

/-- The answer of a reader that has to reach the end of the text. -/
def complete {α : Type} (result : Except ReadError (α × List Char)) : Except ReadError α := do
  let (value, rest) ← result
  if (skipGap rest).isEmpty then return value else throw .trailingCharacters

/-- The value of a text. -/
def parse (text : String) : Except ReadError Json :=
  complete (readValue depthLimit text.toList)

end ModelBench.Json
