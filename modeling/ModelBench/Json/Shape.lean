import ModelBench.Json.Reader

/-!
# Reading a JSON text by its shape

A shape says what a document is expected to hold. A record is written as an object, whose members
come in any order and may be mixed with unknown ones, or as an array of its fields in order. Reading
by a shape gives a value in normal form: a record is an object with exactly the fields of the shape
in their order, absent ones filled in.
-/

namespace ModelBench.Json

/-- What stands for a field that is absent. -/
inductive Absence
  /-- The field has to be there. -/
  | required
  /-- The value of an absent field. -/
  | default (value : Json)
  /-- Null; an array has to hold the field all the same. -/
  | omitted
  deriving Repr

mutual

/-- What a document is expected to hold. -/
inductive Shape
  /-- A text, under the name that errors have for it. -/
  | text (wanted : String)
  /-- A natural number up to a limit, under the name that errors have for it. -/
  | count (limit : Nat) (wanted : String)
  /-- One of some names, as a text, or as an object with the name for its only key and null. -/
  | choice (names : List String)
  /-- Null or a value. -/
  | optional (inner : Shape)
  /-- A list of values. -/
  | list (item : Shape)
  /-- A list of two values. -/
  | pair (first second : Shape)
  /-- An object whose names are free. -/
  | dictionary (item : Shape)
  /-- An object of known fields. -/
  | record (name : String) (fields : Fields)
  /-- Any value. -/
  | anything

/-- The fields of a record, in order. -/
inductive Fields
  | nil
  | cons (name : String) (shape : Shape) (absence : Absence) (rest : Fields)

end

/-- The number of fields. -/
def Fields.size : Fields → Nat
  | .nil => 0
  | .cons _ _ _ rest => rest.size + 1

/-- The names of the fields, in order. -/
def Fields.names : Fields → List String
  | .nil => []
  | .cons name _ _ rest => name :: rest.names

/-- The words for a record that is wanted. -/
def recordWords (name : String) : String := s!"struct {name}"

/-- The words for a record of a certain length. -/
def lengthWords (name : String) (size : Nat) : String :=
  s!"struct {name} with {size} element" ++ if size = 1 then "" else "s"

/-- The problem of an input that starts with something else than was wanted. -/
def unexpectedAt (wanted : String) (input : List Char) : ReadError :=
  let found : Except ReadError Found := do
    match input with
    | 'n' :: rest => let _ ← expectWord "ull".toList rest; return .null
    | 't' :: rest => let _ ← expectWord "rue".toList rest; return .boolean true
    | 'f' :: rest => let _ ← expectWord "alse".toList rest; return .boolean false
    | '-' :: rest => return .number (← readNumber true rest).1
    | '"' :: rest => return .text (← readString rest).1
    | '[' :: _ => return .sequence
    | '{' :: _ => return .map
    | c :: rest =>
      if isDigit c then return .number (← readNumber false (c :: rest)).1
      else throw .expectedValue
    | [] => throw .endOfValue
  match found with
  | .ok found => .unexpected found wanted
  | .error e => e

/-- The text at the start of the input. -/
def readText (wanted : String) (input : List Char) : Except ReadError (String × List Char) :=
  match skipGap input with
  | [] => .error .endOfValue
  | '"' :: rest => readString rest
  | input => .error (unexpectedAt wanted input)

/-- The natural number at the start of the input. -/
def readCount (limit : Nat) (wanted : String) (input : List Char) :
    Except ReadError (Json × List Char) := do
  let check (n : Number) : Except ReadError Json :=
    match n with
    | .integer i =>
      if 0 ≤ i ∧ i ≤ limit then .ok (.number n)
      else .error (.invalidValue (.number n) wanted)
    | .real _ => .error (.unexpected (.number n) wanted)
  match skipGap input with
  | [] => throw .endOfValue
  | '-' :: rest =>
    let (n, rest) ← readNumber true rest
    return (← check n, rest)
  | c :: rest =>
    if isDigit c then
      let (n, rest) ← readNumber false (c :: rest)
      return (← check n, rest)
    else throw (unexpectedAt wanted (c :: rest))

/-- Null at the start of the input. -/
def readUnit (input : List Char) : Except ReadError (List Char) :=
  match skipGap input with
  | [] => .error .endOfValue
  | 'n' :: rest => expectWord "ull".toList rest
  | input => .error (unexpectedAt "unit" input)

/-- A name that has to be one of some names. -/
def checkName (names : List String) (name : String) : Except ReadError Json :=
  if name ∈ names then .ok (.string name) else .error (.unknownVariant name names)

/-- The name at the start of the input, one of some names. -/
def readChoice (names : List String) (depth : Nat) (input : List Char) :
    Except ReadError (Json × List Char) := do
  match skipGap input with
  | [] => throw .endOfValue
  | '"' :: rest =>
    let (name, rest) ← readString rest
    return (← checkName names name, rest)
  | '{' :: rest =>
    let _ ← enter depth
    let (name, rest) ← readText "variant identifier" rest
    let value ← checkName names name
    let rest ← readUnit (← expectColon rest)
    match skipGap rest with
    | [] => throw .endOfObject
    | '}' :: rest => return (value, rest)
    | _ :: _ => throw .expectedValue
  | _ :: _ => throw .expectedValue

/-- The fields in order, absent ones filled in. -/
def Fields.assemble (found : List (String × Json)) :
    Fields → Except ReadError (List (String × Json))
  | .nil => .ok []
  | .cons name _ absence rest => do
    let value ←
      match found.lookup name, absence with
      | some value, _ => pure value
      | none, .required => throw (.missingField name)
      | none, .default value => pure value
      | none, .omitted => pure .null
    return (name, value) :: (← rest.assemble found)

mutual

/-- The value of a shape at the start of the input, `depth` being left. -/
def Shape.read (depth : Nat) : Shape → List Char → Except ReadError (Json × List Char)
  | .text wanted, input => do
    let (s, rest) ← readText wanted input
    return (.string s, rest)
  | .count limit wanted, input => readCount limit wanted input
  | .choice names, input => readChoice names depth input
  | .optional inner, input =>
    match skipGap input with
    | 'n' :: rest => do return (.null, ← expectWord "ull".toList rest)
    | _ => inner.read depth input
  | .list item, input => do
    match skipGap input with
    | [] => throw .endOfValue
    | '[' :: rest =>
      let depth ← enter depth
      let (values, rest) ← readItems (item.read depth) (rest.length + 1) true rest
      return (.array values, rest)
    | input => throw (unexpectedAt "a sequence" input)
  | .pair first second, input => do
    match skipGap input with
    | [] => throw .endOfValue
    | '[' :: rest =>
      let depth ← enter depth
      let wanted := "a tuple of size 2"
      match ← nextItem true rest with
      | .done _ => throw (.wrongLength 0 wanted)
      | .more rest =>
        let (a, rest) ← first.read depth rest
        match ← nextItem false rest with
        | .done _ => throw (.wrongLength 1 wanted)
        | .more rest =>
          let (b, rest) ← second.read depth rest
          return (.array [a, b], ← closeArray rest)
    | input => throw (unexpectedAt "a tuple of size 2" input)
  | .dictionary item, input => do
    match skipGap input with
    | [] => throw .endOfValue
    | '{' :: rest =>
      let depth ← enter depth
      let member (found : List (String × Json)) (name : String) (rest : List Char) := do
        let (value, rest) ← item.read depth (← expectColon rest)
        return (insertMember name value found, rest)
      let (members, rest) ← readMembers member (rest.length + 1) true [] rest
      return (.object members, rest)
    | input => throw (unexpectedAt "a map" input)
  | .record name fields, input => do
    match skipGap input with
    | [] => throw .endOfValue
    | '[' :: rest =>
      let depth ← enter depth
      let (members, rest) ← fields.readInOrder depth (lengthWords name fields.size) 0 rest
      return (.object members, rest)
    | '{' :: rest =>
      let depth ← enter depth
      let member (found : List (String × Json)) (name : String) (rest : List Char) := do
        if name ∈ fields.names then
          if (found.lookup name).isSome then throw (.duplicateField name)
          let (value, rest) ← fields.readNamed depth name (← expectColon rest)
          return (found ++ [(name, value)], rest)
        else
          return (found, ← skipValue (← expectColon rest))
      let (found, rest) ← readMembers member (rest.length + 1) true [] rest
      return (.object (← fields.assemble found), rest)
    | input => throw (unexpectedAt (recordWords name) input)
  | .anything, input => readValue depth input

/-- The value of the field of a name at the start of the input. -/
def Fields.readNamed (depth : Nat) (wanted : String) :
    Fields → List Char → Except ReadError (Json × List Char)
  | .nil, _ => .error (.missingField wanted)
  | .cons name shape _ rest, input =>
    if name = wanted then shape.read depth input else rest.readNamed depth wanted input

/-- The fields of a record that is written as an array, up to its closing bracket, `index` of them
being past. -/
def Fields.readInOrder (depth : Nat) (wanted : String) :
    Fields → (index : Nat) → List Char → Except ReadError (List (String × Json) × List Char)
  | .nil, _, input => do return ([], ← closeArray input)
  | .cons name shape absence rest, index, input => do
    match ← nextItem (index = 0) input with
    | .more input =>
      let (value, input) ← shape.read depth input
      let (values, input) ← rest.readInOrder depth wanted (index + 1) input
      return ((name, value) :: values, input)
    | .done _ =>
      match absence with
      | .default value =>
        let (values, input) ← rest.readInOrder depth wanted (index + 1) input
        return ((name, value) :: values, input)
      | _ => throw (.wrongLength index wanted)

end

/-- The value of a text of a certain shape. -/
def Shape.parse (shape : Shape) (text : String) : Except ReadError Json :=
  complete (shape.read depthLimit text.toList)

end ModelBench.Json
