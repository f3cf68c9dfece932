import ModelBench.Config
import ModelBench.TestSpec

/-!
# Loading tests one by one

A file that holds no test is an error for that file only: the other tests of a folder are loaded all
the same.
-/

namespace ModelBench

/-- A file and the test in it, or why there is none. -/
structure LoadedSpec where
  path : String
  spec : Except SpecError TestSpec

/-- What a file is called in diagnostics: its name without the extension. -/
def specLabel (path : String) : String := (Path.stem path).getD path

/-- The diagnostic of a file that holds no test. -/
def loadDiagnostic (path : String) (e : SpecError) : Diagnostic :=
  ((Diagnostic.ofCode .testReadError e.message).withTest (specLabel path)).withFile path

/-- The paths of the tests: all tests in a folder, or a single file. Without a path it is the one of
the configuration. -/
def specPaths (files : Volume) (c : Config) (tests : Option String) :
    Except SpecError (List String) :=
  let path := tests.getD (c.resolvePath c.tests)
  if files.isFolder path then TestSpec.paths files path else .ok [path]

/-- The test in a file, with its files looked for from the root of the project. -/
def loadSpec (files : Volume) (c : Config) (path : String) : LoadedSpec :=
  ⟨path, (TestSpec.load files path).map (TestSpec.rebase c.root)⟩

/-- All tests, each with the outcome of loading it. -/
def loadSpecs (files : Volume) (c : Config) (tests : Option String) :
    Except SpecError (List LoadedSpec) :=
  (specPaths files c tests).map fun paths => paths.map (loadSpec files c)

end ModelBench
