import ModelBench.Cli.Program
import ModelBench.Report.Timestamp
import Std.Time.DateTime.Timestamp

/-!
# The program

Reads the files around the current folder, runs a command on them, and writes down what the command
has changed and printed.
-/

namespace ModelBench

/-- The entries of a volume with all files and folders that stand at some entries of a folder. What
cannot be read is left out. -/
partial def readEntries (place : Place) (entries : Array IO.FS.DirEntry)
    (nodes : List (Place × FileNode)) : IO (List (Place × FileNode)) :=
  entries.foldlM
    (fun nodes entry => do
      let here := place ++ [entry.fileName]
      try
        if ← entry.path.isDir then
          readEntries here (← entry.path.readDir) ((here, .folder) :: nodes)
        else
          return (here, .file (← IO.FS.readBinFile entry.path).toList) :: nodes
      catch _ => return nodes)
    nodes

/-- The words of the command line that name files or folders outside the current folder. -/
def outsidePaths (arguments : List String) : List String :=
  arguments.filter fun word => Path.isAbsolute word || word.startsWith ".."

/-- Adds a folder with all that is in it, and the folders on the way to it. -/
def readFolder (v : Volume) (path : String) : IO Volume := do
  let folder ← IO.FS.realPath path
  let place := Path.names folder.toString
  if (v.node? place).isSome && place != v.current then return v
  let v := v.withFolders place
  return { v with nodes := ← readEntries place (← folder.readDir) v.nodes }

/-- The files that a command can see. -/
def readVolume (folder : String) (arguments : List String) : IO Volume := do
  let start ← readFolder (Volume.empty (Path.names folder)) folder
  (outsidePaths arguments).foldlM
    (fun v path => do
      try readFolder v path
      catch _ =>
        match Path.parent path with
        | some parent => try readFolder v parent catch _ => return v
        | none => return v)
    start

/-- Puts a file or folder where it belongs. -/
def writeNode (entry : Place × FileNode) : IO Unit :=
  let path := "/" ++ String.intercalate "/" entry.1
  match entry.2 with
  | .folder => IO.FS.createDirAll path
  | .file bytes => IO.FS.writeBinFile path ⟨bytes.toArray⟩

/-- Whether the standard output shows colours. -/
def showsColors : IO Bool := do
  match ← IO.getEnv "CLICOLOR_FORCE" with
  | some value => if value != "0" then return true
  | none => pure ()
  if (← IO.getEnv "NO_COLOR").isSome then return false
  if (← IO.getEnv "CLICOLOR") == some "0" then return false
  (← IO.getStdout).isTty

/-- The time, as reports show it. -/
def currentTimestamp : IO String := do
  let now ← Std.Time.Timestamp.now
  return Timestamp.render now.val.second.val.toNat now.val.nano.val.toNat

end ModelBench

open ModelBench in
/-- Runs the command that the arguments ask for. -/
def main (arguments : List String) : IO UInt32 := do
  let folder := (← IO.currentDir).toString
  let files ← readVolume folder arguments
  let setting : Cli.Setting :=
    { colored := ← showsColors, timestamp := ← currentTimestamp, folder }
  let outcome := Cli.run setting files arguments
  (files.changes outcome.files).forM writeNode
  IO.print outcome.out
  IO.eprint outcome.err
  return outcome.exit.toUInt32
