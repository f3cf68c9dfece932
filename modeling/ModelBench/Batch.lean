import ModelBench.Generation
import ModelBench.Loading

/-!
# Writing the statements of many tests

The statements of all tests are written into one folder. A test that cannot be loaded or generated
is reported and does not stop the others; a file that cannot be written stops everything.
-/

namespace ModelBench

/-- What happened to a test. -/
inductive BatchEvent
  /-- It could not be loaded or generated. -/
  | failed (diagnostic : Diagnostic)
  /-- It is left out. -/
  | skipped (name : String)
  /-- One of its statements was written. -/
  | wrote (path : String)
  /-- All its statements were written. -/
  | finished (name : String)
  deriving DecidableEq, Repr

/-- How far writing has come. -/
structure Batch where
  files : Volume
  /-- What happened, in order. -/
  events : List BatchEvent

/-- Why writing stopped. -/
inductive BatchFault
  | noFolder (path : String) (fault : FileError)
  | notWritten (path : String) (fault : FileError)
  deriving DecidableEq, Repr

namespace Batch

/-- The batch after one more event. -/
def note (b : Batch) (event : BatchEvent) : Batch := { b with events := b.events ++ [event] }

/-- The paths of the files that were written. -/
def written (b : Batch) : List String :=
  b.events.filterMap fun
    | .wrote path => some path
    | _ => none

/-- The problems of the tests that could not be loaded or generated. -/
def diagnostics (b : Batch) : List Diagnostic :=
  b.events.filterMap fun
    | .failed diagnostic => some diagnostic
    | _ => none

/-- The batch after writing files into a folder, with the fault that stopped it. -/
def writeFiles (folder : String) (b : Batch) : List (String × String) → Batch × Option BatchFault
  | [] => (b, none)
  | (name, text) :: rest =>
    let path := Path.join folder name
    match b.files.write path text with
    | .error fault => (b, some (.notWritten path fault))
    | .ok files => writeFiles folder ({ b with files }.note (.wrote path)) rest

/-- The batch after one more test. -/
def writeSpec (m : Manifest) (filter : Filter) (direction : AssertionDirection) (folder : String)
    (b : Batch) (loaded : LoadedSpec) : Batch × Option BatchFault :=
  match loaded.spec with
  | .error e => (b.note (.failed (loadDiagnostic loaded.path e)), none)
  | .ok spec =>
    if filter.skips spec.name then (b.note (.skipped spec.name), none)
    else
      match spec.generate b.files m direction with
      | .error e => (b.note (.failed (e.diagnostic spec.name)), none)
      | .ok generated =>
        match writeFiles folder b generated.files with
        | (b, none) => (b.note (.finished spec.name), none)
        | stopped => stopped

/-- The batch after more tests, with the fault that stopped it. -/
def writeSpecs (m : Manifest) (filter : Filter) (direction : AssertionDirection) (folder : String)
    (b : Batch) : List LoadedSpec → Batch × Option BatchFault
  | [] => (b, none)
  | loaded :: rest =>
    match b.writeSpec m filter direction folder loaded with
    | (b, none) => b.writeSpecs m filter direction folder rest
    | stopped => stopped

/-- Writes the statements of all tests into a folder, which is made if it is missing. -/
def write (files : Volume) (m : Manifest) (specs : List LoadedSpec) (filter : Filter)
    (direction : AssertionDirection) (folder : String) : Batch × Option BatchFault :=
  match files.makeFolders folder with
  | .error fault => (⟨files, []⟩, some (.noFolder folder fault))
  | .ok files => writeSpecs m filter direction folder ⟨files, []⟩ specs

end Batch

end ModelBench
