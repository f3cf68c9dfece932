import ModelBench.Csv
import ModelBench.Files.Volume
import ModelBench.Sql.Literal

/-!
# Mocks as statements

A file of comma-separated values becomes a statement that gives its rows: one `SELECT` of literals
per row, joined by `UNION ALL`. Columns stand in ascending order of their names, so that the order
of the columns in the file does not matter.
-/

namespace ModelBench

/-- Data that stands for a node: a file, and the types of some of its columns. -/
structure Mock where
  filepath : String
  types : List (String × String)
  deriving DecidableEq, Repr

/-- Why a mock could not be encoded. -/
inductive MockError
  | fileNotFound (path : String)
  | readError (path reason : String)
  | malformed (path reason : String)
  deriving DecidableEq, Repr

/-- The text of an error. -/
def MockError.message : MockError → String
  | .fileNotFound path => s!"Mock file not found: {path}"
  | .readError path reason => s!"Failed to read mock file {path}: {reason}"
  | .malformed path reason => s!"Malformed mock CSV {path}: {reason}"

/-- The file that an error is about. -/
def MockError.path : MockError → String
  | .fileNotFound path => path
  | .readError path _ => path
  | .malformed path _ => path

/-- The rows of a mock as a statement. -/
structure EncodedMock where
  /-- The statement of all rows, empty if there are none. -/
  sql : String
  /-- The columns in ascending order. -/
  columns : List String
  rowCount : Nat
  types : List (String × String)
  deriving DecidableEq, Repr

namespace EncodedMock

/-- Whether there are no rows. -/
def isEmpty (m : EncodedMock) : Bool := m.rowCount == 0

/-- The entries of one row, the values standing in the order of the columns. -/
def renderRow (types : List (String × String)) (columns values : List String) : String :=
  String.intercalate ", "
    ((columns.zip values).map fun (column, value) =>
      Sql.renderEntry column value (types.lookup column))

/-- The statement in the place of a relation. Without rows it selects no row of nulls. -/
def asRelation (m : EncodedMock) : String :=
  if m.isEmpty then
    "SELECT " ++ renderRow m.types m.columns (m.columns.map fun _ => "") ++ " LIMIT 0"
  else m.sql

/-- The columns, separated by commas. -/
def columnList (m : EncodedMock) : String := String.intercalate "," m.columns

/-! ## Encoding records -/

/-- Why records are no mock. -/
inductive Refusal
  | noHeader
  | duplicateColumn (name : String)
  | badRecord (number : Nat) (start : Csv.Mark) (fault : Csv.Fault)
  deriving DecidableEq, Repr

/-- The text of a refusal. -/
def Refusal.message : Refusal → String
  | .noHeader => "missing header row"
  | .duplicateColumn name => s!"duplicate column '{name}'"
  | .badRecord number start fault => fault.message number start

/-- The names of a header with their positions, in ascending order of the names. -/
def order (header : List String) : List (String × Nat) :=
  header.zipIdx.mergeSort fun a b => decide (a.1 ≤ b.1)

/-- The first name that stands twice in a row. -/
def repeated? : List String → Option String
  | a :: b :: rest => if a = b then some a else repeated? (b :: rest)
  | _ => none

/-- The fields of a header: not all of them empty, and no two of them equal. -/
def checkHeader (header : List String) : Except Refusal Unit :=
  if header.all String.isEmpty then .error .noHeader
  else
    match repeated? ((order header).map Prod.fst) with
    | some name => .error (.duplicateColumn name)
    | none => .ok ()

/-- The values of a row at some positions. -/
def valuesAt (positions : List Nat) (row : List String) : List String :=
  positions.map fun i => row.getD i ""

/-- The texts of the rows, `number` being the number of the first one. -/
def rowsFrom (width number : Nat) : List Csv.Record → Except Refusal (List (List String))
  | [] => .ok []
  | r :: rest =>
    match r.textsOfLength width with
    | .error fault => .error (.badRecord number r.start fault)
    | .ok row => (rowsFrom width (number + 1) rest).map (row :: ·)

/-- The statement of a table. -/
def ofTable (types : List (String × String)) (header : List String) (rows : List (List String)) :
    EncodedMock :=
  let columns := (order header).map Prod.fst
  let positions := (order header).map Prod.snd
  let selects := rows.map fun row =>
    "\n SELECT " ++ renderRow types columns (valuesAt positions row)
  { sql := String.intercalate "\n UNION ALL \n" selects, columns, rowCount := rows.length, types }

/-- The statement of some records, the first of them being the header. -/
def ofRecords (types : List (String × String)) (records : List Csv.Record) :
    Except Refusal EncodedMock := do
  match records with
  | [] => throw .noHeader
  | first :: rest =>
    match first.texts with
    | .error fault => throw (.badRecord 0 first.start fault)
    | .ok header =>
      checkHeader header
      return ofTable types header (← rowsFrom header.length 1 rest)

/-- The statement of a file that is known under a path. -/
def ofBytes (path : String) (types : List (String × String)) (bytes : List UInt8) :
    Except MockError EncodedMock :=
  match ofRecords types (Csv.records bytes) with
  | .ok encoded => .ok encoded
  | .error refusal => .error (.malformed path refusal.message)

end EncodedMock

/-- The statement of a mock. -/
def Mock.encode (files : Volume) (mock : Mock) : Except MockError EncodedMock :=
  match files.read mock.filepath with
  | .ok bytes => EncodedMock.ofBytes mock.filepath mock.types bytes
  | .error .notFound => .error (.fileNotFound mock.filepath)
  | .error fault => .error (.readError mock.filepath fault.message)

end ModelBench
