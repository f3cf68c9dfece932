import ModelBench.Text.Split

/-!
# Paths

A path is a text. Its segments stand between slashes; one that starts with a slash is absolute.
Joining and taking apart never tidy a path up.
-/

namespace ModelBench.Path

/-- The texts between the slashes of a path. -/
def segments (path : String) : List String :=
  (Text.splitAt '/' path.toList).map String.ofList

/-- Whether a path starts at the root. -/
def isAbsolute (path : String) : Bool := path.toList.head? == some '/'

/-- Whether a path ends in a slash. -/
def endsInSlash (path : String) : Bool := path.toList.getLast? == some '/'

/-- A path from a base folder: an absolute path stays as it is. -/
def join (base path : String) : String :=
  if isAbsolute path then path
  else if base.isEmpty || endsInSlash base then base ++ path
  else base ++ "/" ++ path

/-- Whether a segment stands for the folder it is in. -/
def isIdle (segment : String) : Bool := segment == "" || segment == "."

/-- The segments up to the last one that is not idle. The first segment always stays. -/
def trimIdle : List String → List String
  | [] => []
  | first :: rest => first :: (rest.reverse.dropWhile isIdle).reverse

/-- The segments that are not idle. -/
def names (path : String) : List String := (segments path).filter fun s => !isIdle s

/-- The last name of a path; none when the path ends in the folder above. -/
def fileName (path : String) : Option String :=
  match (names path).getLast? with
  | some name => if name = ".." then none else some name
  | none => none

/-- The path of the folder that holds the path; none for the root and the empty path. -/
def parent (path : String) : Option String :=
  let trimmed := trimIdle (segments path)
  if trimmed = [""] then none
  else
    match trimIdle trimmed.dropLast with
    | [] => some ""
    | [""] => some "/"
    | kept => some (String.intercalate "/" kept)

/-- A name up to its last dot, and the rest after it. A name without a dot, or with no dot but the
one it starts with, has no second part. -/
def splitName (name : String) : String × Option String :=
  let reversed := name.toList.reverse
  let after := reversed.takeWhile (· ≠ '.')
  match reversed.dropWhile (· ≠ '.') with
  | '.' :: before =>
    if before.isEmpty then (name, none)
    else (String.ofList before.reverse, some (String.ofList after.reverse))
  | _ => (name, none)

/-- The last name of a path without its extension. -/
def stem (path : String) : Option String := (fileName path).map fun name => (splitName name).1

/-- The extension of the last name of a path. -/
def extension (path : String) : Option String := (fileName path).bind fun name => (splitName name).2

end ModelBench.Path
