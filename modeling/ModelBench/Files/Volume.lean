import ModelBench.Files.Path
import ModelBench.Text.Utf8

/-!
# Files and folders

A volume holds files and folders under their places, a place being the list of names from the root.
Relative paths start at the current folder. Reading, listing and writing answer with the fault that
the path has in that volume.
-/

namespace ModelBench

/-- Why a file or folder could not be used. -/
inductive FileError
  | notFound
  | alreadyExists
  | notAFolder
  | isAFolder
  | notText
  | noParent
  | badName
  | nameTooLong
  deriving DecidableEq, Repr

/-- The text of a fault. -/
def FileError.message : FileError → String
  | .notFound => "No such file or directory (os error 2)"
  | .alreadyExists => "File exists (os error 17)"
  | .notAFolder => "Not a directory (os error 20)"
  | .isAFolder => "Is a directory (os error 21)"
  | .notText => "stream did not contain valid UTF-8"
  | .noParent => "failed to create whole tree"
  | .badName => "file name contained an unexpected NUL byte"
  | .nameTooLong => "File name too long (os error 36)"

/-- What a place holds. -/
inductive FileNode
  | folder
  | file (bytes : List UInt8)
  deriving DecidableEq, Repr

/-- The names from the root to a file or folder. -/
abbrev Place := List String

/-- Files and folders, and the folder where relative paths start. -/
structure Volume where
  current : Place
  nodes : List (Place × FileNode)

namespace Volume

/-- What stands at a place. The root is a folder. -/
def node? (v : Volume) (place : Place) : Option FileNode :=
  if place = [] then some .folder else v.nodes.lookup place

/-- The volume with a node at a place. -/
def put (v : Volume) (place : Place) (node : FileNode) : Volume :=
  { v with nodes := (place, node) :: v.nodes.filter fun entry => entry.1 != place }

/-- The number of bytes that a name may have. -/
def nameLimit : Nat := 255

/-- The number of bytes that a path may have. -/
def pathLimit : Nat := 4095

/-- The place that some segments lead to. Every segment needs a folder to start from. -/
def follow (v : Volume) (place : Place) : List String → Except FileError Place
  | [] => .ok place
  | segment :: rest =>
    match v.node? place with
    | none => .error .notFound
    | some (.file _) => .error .notAFolder
    | some .folder =>
      if nameLimit < segment.utf8ByteSize then .error .nameTooLong
      else if segment = "." then v.follow place rest
      else if segment = ".." then v.follow place.dropLast rest
      else v.follow (place ++ [segment]) rest

/-- The place where a path starts. -/
def start (v : Volume) (path : String) : Place := if Path.isAbsolute path then [] else v.current

/-- The steps of a path: a slash at the end asks for a folder. -/
def steps (path : String) : List String :=
  (Path.segments path).filter (· ≠ "") ++ if Path.endsInSlash path then ["."] else []

/-- The place of a path, where there need not be anything. -/
def locate (v : Volume) (path : String) : Except FileError Place :=
  if path.isEmpty then .error .notFound
  else if path.toList.contains '\x00' then .error .badName
  else if pathLimit < path.utf8ByteSize then .error .nameTooLong
  else v.follow (v.start path) (steps path)

/-- What stands at a path. -/
def find (v : Volume) (path : String) : Except FileError FileNode := do
  match v.node? (← v.locate path) with
  | some node => return node
  | none => throw .notFound

/-- Whether there is something at a path. -/
def holds (v : Volume) (path : String) : Bool := (v.find path).toOption.isSome

/-- Whether there is a folder at a path. -/
def isFolder (v : Volume) (path : String) : Bool :=
  match v.find path with
  | .ok .folder => true
  | _ => false

/-- The bytes of the file at a path. -/
def read (v : Volume) (path : String) : Except FileError (List UInt8) := do
  match ← v.find path with
  | .file bytes => return bytes
  | .folder => throw .isAFolder

/-- The text of the file at a path. -/
def readText (v : Volume) (path : String) : Except FileError String := do
  match Text.Utf8.decode (← v.read path) with
  | .ok text => return text
  | .error _ => throw .notText

/-- The name and the content of an entry that stands directly inside a place. -/
def childOf (place : Place) (entry : Place × FileNode) : Option (String × FileNode) :=
  match entry.1.getLast? with
  | some name => if entry.1.dropLast = place then some (name, entry.2) else none
  | none => none

/-- What stands directly inside a place, in ascending order of the names. -/
def children (v : Volume) (place : Place) : List (String × FileNode) :=
  (v.nodes.filterMap (childOf place)).mergeSort fun a b => decide (a.1 ≤ b.1)

/-- A path without the slashes it ends in; a path of slashes alone is the root. -/
def withoutSlash (path : String) : String :=
  let trimmed := String.ofList (path.toList.reverse.dropWhile (· = '/')).reverse
  if trimmed.isEmpty && !path.isEmpty then "/" else trimmed

/-- The volume with a text as the file at a path. It is unfolded by name only: computing with it on a
path that is no literal takes too long. -/
@[irreducible] def write (v : Volume) (path : String) (text : String) : Except FileError Volume := do
  let place ← v.locate (withoutSlash path)
  match v.node? place with
  | some .folder => throw .isAFolder
  | some (.file _) =>
    if Path.endsInSlash path then throw .notAFolder
    return v.put place (.file (Text.Utf8.encode text))
  | none =>
    if Path.endsInSlash path then throw .isAFolder
    match v.node? place.dropLast with
    | some .folder => return v.put place (.file (Text.Utf8.encode text))
    | some (.file _) => throw .notAFolder
    | none => throw .notFound

/-- The volume with a new folder at a path whose parent exists. -/
def makeFolder (v : Volume) (path : String) : Except FileError Volume := do
  let place ← v.locate (withoutSlash path)
  match v.node? place with
  | some _ => throw .alreadyExists
  | none =>
    match v.node? place.dropLast with
    | some .folder => return v.put place .folder
    | some (.file _) => throw .notAFolder
    | none => throw .notFound

/-- The volume with a folder at a path, made together with its parents as far as they are missing,
`steps` bounding their number. -/
def makeFoldersIn : (steps : Nat) → Volume → String → Except FileError Volume
  | 0, _, _ => .error .noParent
  | steps + 1, v, path =>
    if path.isEmpty then .ok v
    else
      match v.makeFolder path with
      | .ok v => .ok v
      | .error .notFound => do
        match Path.parent path with
        | none => throw .noParent
        | some parent =>
          let v ← makeFoldersIn steps v parent
          match v.makeFolder path with
          | .ok v => return v
          | .error e => if v.isFolder path then return v else throw e
      | .error e => if v.isFolder path then .ok v else .error e

/-- The volume with a folder at a path, made together with the parents that are missing. -/
def makeFolders (v : Volume) (path : String) : Except FileError Volume :=
  makeFoldersIn (path.length + 1) v path

/-! ## Volumes from lists of files -/

/-- The volume with the folders on the way to a place. -/
def withFolders (v : Volume) (place : Place) : Volume :=
  (List.range (place.length + 1)).foldl
    (fun v n =>
      let folder := place.take n
      if (v.node? folder).isSome then v else v.put folder .folder) v

/-- The volume with no file, and the folders on the way to the current one. -/
def empty (current : Place) : Volume := ({ current, nodes := [] } : Volume).withFolders current

/-- The volume with a node at a path from the current folder, and the folders on the way to it. -/
def add (v : Volume) (path : String) (node : FileNode) : Volume :=
  let place := v.current ++ Path.names path
  (v.withFolders place.dropLast).put place node

/-- What a later volume holds that is not the same in this one, in the order in which it was put
there. -/
def changes (before after : Volume) : List (Place × FileNode) :=
  (after.nodes.filter fun entry => before.node? entry.1 != some entry.2).reverse

end Volume

end ModelBench
