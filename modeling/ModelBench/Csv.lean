import ModelBench.Text.Utf8

/-!
# Comma-separated values

Bytes are read as records of fields. A field is quoted when a double quote stands at its start;
inside it a quote is written twice. A line feed or a carriage return ends a record, and lines with
nothing on them are no records. Records are bytes, and a field need not be a text.
-/

namespace ModelBench.Csv

/-- How far reading has come: the bytes that are past, and the line, counted from one. -/
structure Mark where
  byte : Nat
  line : Nat
  deriving DecidableEq, Repr

/-- A record, and where reading stood when the record before it had ended. -/
structure Record where
  fields : List (List UInt8)
  start : Mark
  deriving DecidableEq, Repr

/-- The byte of a comma. -/
def comma : UInt8 := 0x2C

/-- The byte of a double quote. -/
def quote : UInt8 := 0x22

/-- The byte of a line feed. -/
def lineFeed : UInt8 := 0x0A

/-- The byte of a carriage return. -/
def carriageReturn : UInt8 := 0x0D

/-- Whether a byte ends a record. -/
def endsRecord (b : UInt8) : Bool := b == lineFeed || b == carriageReturn

/-- The mark after one more byte. -/
def Mark.advance (m : Mark) (b : UInt8) : Mark :=
  ⟨m.byte + 1, if b == lineFeed then m.line + 1 else m.line⟩

/-- What the bytes before have come to. -/
inductive State
  /-- Between two records. -/
  | betweenRecords
  /-- At the start of a field. -/
  | startOfField
  /-- In a field, or behind the closing quote of a quoted one with more to come. -/
  | inField
  /-- Behind the opening quote of a field. -/
  | inQuotes
  /-- Behind a quote inside a quoted field, which may be its end. -/
  | afterQuote
  deriving DecidableEq, Repr

/-- A record that is being read: the fields that are past and the bytes of the current one, both in
reverse order. -/
structure OpenRecord where
  fields : List (List UInt8)
  bytes : List UInt8
  deriving DecidableEq, Repr

/-- The record of which nothing has been read. -/
def OpenRecord.empty : OpenRecord := ⟨[], []⟩

/-- The record with one more byte in the current field. -/
def OpenRecord.push (p : OpenRecord) (b : UInt8) : OpenRecord := { p with bytes := b :: p.bytes }

/-- The record with the current field complete. -/
def OpenRecord.endField (p : OpenRecord) : OpenRecord := ⟨p.bytes.reverse :: p.fields, []⟩

/-- The fields of the record, the current one being the last. -/
def OpenRecord.finish (p : OpenRecord) : List (List UInt8) := p.endField.fields.reverse

/-- What one byte does to a field or to the place before it. -/
inductive Step
  /-- The record goes on in a state. -/
  | goesOn (state : State) (p : OpenRecord)
  /-- The record ends. -/
  | ends (fields : List (List UInt8))

/-- The step of a byte outside quotes, `opens` telling whether a quote opens a quoted field. -/
def plainStep (opens : Bool) (p : OpenRecord) (b : UInt8) : Step :=
  if opens && b == quote then .goesOn .inQuotes p
  else if b == comma then .goesOn .startOfField p.endField
  else if endsRecord b then .ends p.finish
  else .goesOn .inField (p.push b)

/-- The step of a byte. -/
def step (state : State) (p : OpenRecord) (b : UInt8) : Step :=
  match state with
  | .betweenRecords => if endsRecord b then .goesOn .betweenRecords p else plainStep true p b
  | .startOfField => plainStep true p b
  | .inField => plainStep false p b
  | .inQuotes => if b == quote then .goesOn .afterQuote p else .goesOn .inQuotes (p.push b)
  | .afterQuote =>
    if b == quote then .goesOn .inQuotes (p.push b) else plainStep false p b

/-- The records of the bytes that are left, `start` being where the last record ended and `mark`
where the bytes begin. -/
def recordsFrom (state : State) (p : OpenRecord) (start mark : Mark) : List UInt8 → List Record
  | [] => if state = .betweenRecords then [] else [⟨p.finish, start⟩]
  | b :: rest =>
    match step state p b with
    | .goesOn state p => recordsFrom state p start (mark.advance b) rest
    | .ends fields =>
      let mark := mark.advance b
      ⟨fields, start⟩ :: recordsFrom .betweenRecords .empty mark mark rest

/-- The mark that texts may begin with, which belongs to no field. -/
def byteOrderMark : List UInt8 := [0xEF, 0xBB, 0xBF]

/-- The records of a file. -/
def records (bytes : List UInt8) : List Record :=
  let start : Mark := ⟨0, 1⟩
  if byteOrderMark.isPrefixOf bytes then
    recordsFrom .betweenRecords .empty start ⟨3, 1⟩ (bytes.drop 3)
  else recordsFrom .betweenRecords .empty start start bytes

/-! ## Texts of records -/

/-- Why a record does not fit. -/
inductive Fault
  /-- It has another number of fields than the first record. -/
  | wrongLength (length expected : Nat)
  /-- A field is no text: its index and the number of bytes before the first bad one. -/
  | notText (field valid : Nat)
  deriving DecidableEq, Repr

/-- The text of a fault in the record of a number. -/
def Fault.message (number : Nat) (start : Mark) : Fault → String
  | .wrongLength length expected =>
    s!"CSV error: record {number} (line: {start.line}, byte: {start.byte}): found record with " ++
      s!"{length} fields, but the previous record has {expected} fields"
  | .notText field valid =>
    s!"CSV parse error: record {number} (line {start.line}, field: {field}, " ++
      s!"byte: {start.byte}): invalid utf-8: invalid UTF-8 in field {field} near byte index {valid}"

/-- The fields as texts, `index` being the number of the first one. -/
def textsFrom (index : Nat) : List (List UInt8) → Except Fault (List String)
  | [] => .ok []
  | field :: rest =>
    match Text.Utf8.decode field with
    | .error valid => .error (.notText index valid)
    | .ok text => (textsFrom (index + 1) rest).map (text :: ·)

/-- The fields of a record as texts. -/
def Record.texts (r : Record) : Except Fault (List String) := textsFrom 0 r.fields

/-- The fields of a record of a certain length as texts. -/
def Record.textsOfLength (r : Record) (expected : Nat) : Except Fault (List String) :=
  if r.fields.length = expected then r.texts else .error (.wrongLength r.fields.length expected)

end ModelBench.Csv
