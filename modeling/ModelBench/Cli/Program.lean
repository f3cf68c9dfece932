import ModelBench.Batch
import ModelBench.Cli.Arguments
import ModelBench.Cli.Style
import ModelBench.Manifest.Json
import ModelBench.Preflight
import ModelBench.Report.Json
import ModelBench.Report.Markdown
import ModelBench.Run

/-!
# Commands

A command works on a volume of files and writes to two streams. It ends with success or without, or
it stops with a failure, and what it has written until then stays.
-/

namespace ModelBench.Cli

/-- What surrounds a command. -/
structure Setting where
  /-- Whether the terminal shows colours. -/
  colored : Bool
  /-- The time, as reports show it. -/
  timestamp : String
  /-- The path of the current folder. -/
  folder : String

/-- What a command has done so far. -/
structure Session where
  files : Volume
  out : String
  err : String

/-- Why a command stopped. -/
structure Failure where
  message : String
  cause : Option String
  deriving DecidableEq, Repr

/-- A command under way. -/
abbrev Program := ExceptT Failure (StateM Session)

/-- Writes a line to the standard output. -/
def printOut (line : String) : Program Unit :=
  modify fun s => { s with out := s.out ++ line ++ "\n" }

/-- Writes a line to the standard error. -/
def printErr (line : String) : Program Unit :=
  modify fun s => { s with err := s.err ++ line ++ "\n" }

/-- The files as they are now. -/
def currentFiles : Program Volume := return (← get).files

/-- Stops with a message. -/
def fail {α : Type} (message : String) : Program α := throw ⟨message, none⟩

/-- The value, or a failure with the error for its cause. -/
def orFail {ε α : Type} (message : String) (cause : ε → String) : Except ε α → Program α
  | .ok a => return a
  | .error e => throw ⟨message, some (cause e)⟩

/-- The value, or a failure with the text of the error. -/
def orStop {ε α : Type} (message : ε → String) : Except ε α → Program α
  | .ok a => return a
  | .error e => fail (message e)

/-- Writes a file. -/
def writeFile (what path text : String) : Program Unit := do
  let files ← orFail s!"Failed to write {what}{path}" FileError.message
    ((← currentFiles).write path text)
  modify fun s => { s with files }

section

variable (setting : Setting)

/-- The text in a style. -/
def styled (style : Style) (text : String) : String := paint setting.colored style text

/-! ## What commands start with -/

/-- The usual name of a configuration. -/
def configName : String := "dbtmock.toml"

/-- The configuration in a file, in the usual file, or the one of a project without a file. -/
def loadConfig (path? : Option String) (verbose : Bool) : Program Config := do
  let files ← currentFiles
  match path? with
  | some path =>
    orFail s!"Failed to load config {path}" ConfigError.message
      (Config.load files setting.folder path)
  | none =>
    if files.holds configName then
      orFail s!"Failed to load {configName}" ConfigError.message
        (Config.load files setting.folder configName)
    else
      if verbose then
        printErr (styled setting .yellow "No config file found, using defaults")
      return .default setting.folder

/-- The manifest of a configuration. -/
def loadManifest (c : Config) (verbose : Bool) : Program Manifest := do
  let files ← currentFiles
  let path := c.resolvePath c.manifest
  if !files.holds path then
    fail s!"Manifest not found at {path}. Run 'dbt compile' first."
  if verbose then
    printErr (styled setting .cyan "Loading manifest from:" ++ " " ++ path)
  orFail s!"Failed to load manifest {path}" ManifestError.message (Manifest.load files path)

/-- All tests, each with the outcome of loading it. -/
def loadTests (c : Config) (tests : Option String) : Program (List LoadedSpec) := do
  orStop SpecError.message (loadSpecs (← currentFiles) c tests)

/-! ## What commands print -/

/-- The mark of a test without problems. -/
def tick : String := styled setting .green "✓"

/-- The name of a severity in a list of problems. -/
def severityText : Severity → String
  | .error => styled setting .boldRed "ERROR"
  | .warn => styled setting .boldYellow "WARN"

/-- Prints problems. -/
def printDiagnostics (diagnostics : List Diagnostic) : Program Unit :=
  diagnostics.forM fun d => do
    let test := styled setting .bold (d.test.getD "-")
    printErr s!"  {severityText setting d.severity} [{d.code.name}] {test}: {d.message}"
    match d.file with
    | some file => printErr ("    " ++ styled setting .dimmed "File:" ++ " " ++ file)
    | none => pure ()

/-- A line across the page. -/
def ruler : String := styled setting .brightBlue (String.ofList (List.replicate 60 '='))

/-- Prints the result of a test. -/
def printResult (r : TestResult) : Program Unit := do
  let bold (text : String) : String := styled setting .bold text
  match r.status with
  | .passed => printOut s!"  {tick setting} {r.name}"
  | .skipped =>
    let dimmed (text : String) : String := styled setting .dimmed text
    printOut ("  " ++ dimmed "-" ++ " " ++ r.name ++ " " ++ dimmed "(skipped)")
  | .failed =>
    printOut ("  " ++ styled setting .red "✗" ++ s!" {bold r.name} ({r.model})")
    r.extraRows.forM fun row =>
      let yellow (text : String) : String := styled setting .yellow text
      printOut ("      " ++ yellow "+ unexpected" ++ " " ++ yellow row.render)
    r.missingRows.forM fun row =>
      let magenta (text : String) : String := styled setting .magenta text
      printOut ("      " ++ magenta "- missing" ++ " " ++ magenta row.render)
  | .errored =>
    printOut ("  " ++ styled setting .boldRed "!" ++ " " ++ bold r.name)
    r.diagnostics.forM fun d =>
      printOut s!"      [{d.code.name}] {styled setting .red d.message}"

/-- Prints a report. -/
def printReport (r : Report) : Program Unit := do
  let count (style : Style) (n : Nat) : String := styled setting style (toString n)
  printOut ""
  printOut (ruler setting)
  printOut (styled setting .boldBrightBlue "dbtmock Test Report")
  printOut (ruler setting)
  printOut ""
  r.results.forM (printResult setting)
  printOut ""
  printOut (styled setting .bold "Summary:")
  printOut s!"  Total:   {r.summary.total}"
  printOut s!"  Passed:  {count .green r.summary.passed}"
  printOut s!"  Failed:  {count .red r.summary.failed}"
  printOut s!"  Errored: {count .red r.summary.errored}"
  printOut s!"  Skipped: {count .dimmed r.summary.skipped}"
  printOut ""
  printOut (ruler setting)

/-! ## Commands -/

/-- Prints what happened while the statements of all tests were written. -/
def printEvent (verbose : Bool) : BatchEvent → Program Unit
  | .failed _ => pure ()
  | .skipped name => printErr ("  " ++ styled setting .dimmed "-" ++ s!" {name} (skipped)")
  | .wrote path => do
    if verbose then printErr ("    " ++ styled setting .cyan "wrote" ++ " " ++ path)
  | .finished name => printErr s!"  {tick setting} {name}"

/-- Stops because of a file that could not be written. -/
def failBatch {α : Type} : BatchFault → Program α
  | .noFolder path fault => throw ⟨s!"Failed to create output folder {path}", some fault.message⟩
  | .notWritten path fault => throw ⟨s!"Failed to write {path}", some fault.message⟩

/-- Writes the statements of all tests. -/
def generateCommand (c : Config) (tests output : Option String)
    (direction : Option AssertionDirection) (verbose : Bool) : Program Bool := do
  let m ← loadManifest setting c verbose
  let folder := output.getD (c.resolvePath c.output)
  let specs ← loadTests c tests
  let (batch, fault) :=
    Batch.write (← currentFiles) m specs c.filter (direction.getD c.direction) folder
  modify fun s => { s with files := batch.files }
  batch.events.forM (printEvent setting verbose)
  match fault with
  | some fault => failBatch fault
  | none =>
    printDiagnostics setting batch.diagnostics
    printErr ""
    printErr (s!"Wrote {batch.written.length} files to {folder}, " ++
      s!"{batch.diagnostics.length} tests failed to generate")
    return batch.diagnostics.isEmpty

/-- The database that tests run on: the one that is asked for, or else the one of the
configuration. -/
def chooseEngine (c : Config) (choice : Option EngineKind) : Program EngineKind :=
  match choice, c.engine with
  | some kind, _ => return kind
  | none, none => return .memory
  | none, some engine =>
    match EngineKind.ofName? engine.kind with
    | some kind => return kind
    | none =>
      fail s!"Unsupported executor type '{Text.toLower engine.kind}'. Supported: memory, bigquery"

/-- Connects to BigQuery with the settings of the configuration. -/
def connectBigQuery (c : Config) : Program Unit := do
  let settings := (c.engine.map Engine.settings).getD []
  match settings.lookup "project_id" with
  | none => fail "BigQuery requires 'project_id' in [executor] settings"
  | some project =>
    orStop QueryError.message
      (match settings.lookup "credentials" with
      | some keyFile => BigQuery.connectWithKey project (c.resolvePath keyFile)
      | none => BigQuery.connect project)

/-- The result of a file: of a test the one of running it. -/
def resultOf (m : Manifest) (options : RunOptions) (files : Volume) (loaded : LoadedSpec) :
    TestResult :=
  match loaded.spec with
  | .ok spec =>
    let execute : Execute Id := fun sql => pure (Memory.empty.execute sql)
    Id.run (spec.run execute files m options)
  | .error e => .errored (specLabel loaded.path) "" (loadDiagnostic loaded.path e)

/-- Runs all tests and reports. -/
def testCommand (c : Config) (tests : Option String) (engine : Option EngineKind) (output : String)
    (markdown : Option String) (verbose : Bool) : Program Bool := do
  let m ← loadManifest setting c verbose
  match ← chooseEngine c engine with
  | .memory => pure ()
  | .bigQuery => connectBigQuery c
  if verbose then
    printErr (styled setting .cyan "Connecting to" ++ s!" {Memory.defaultName}...")
  let specs ← loadTests c tests
  let files ← currentFiles
  let results := specs.map (resultOf m ⟨c.direction, c.filter⟩ files)
  let report := Report.ofResults setting.timestamp results
  printReport setting report
  writeFile "report " output report.render
  printErr (styled setting .green "Report written to:" ++ " " ++ output)
  match markdown with
  | some path =>
    writeFile "markdown report " path report.markdown
    printErr (styled setting .green "Markdown report written to:" ++ " " ++ path)
  | none => pure ()
  return !report.hasFailures

/-- Prints the statement of a test's model. -/
def sqlCommand (c : Config) (test : String) : Program Bool := do
  let m ← loadManifest setting c false
  let files ← currentFiles
  let spec ← orFail s!"Failed to load test spec {test}" SpecError.message
    (TestSpec.load files test)
  let sql ← orStop (fun e => s!"{e.code.name}: {e.message}")
    ((spec.rebase c.root).modelSql files m)
  printOut sql
  return true

/-- Checks a file: of a test that is not skipped its problems are found. The first number counts the
tests that were checked. -/
def checkLoaded (m : Manifest) (filter : Filter) (loaded : LoadedSpec) :
    Program (Nat × List Diagnostic) := do
  match loaded.spec with
  | .error e => return (0, [loadDiagnostic loaded.path e])
  | .ok spec =>
    if filter.skips spec.name then return (0, [])
    let found := spec.problems (← currentFiles) m
    if found.isEmpty then printErr s!"  {tick setting} {spec.name}"
    return (1, found)

/-- Checks all tests. -/
def checkCommand (c : Config) (tests : Option String) (verbose : Bool) : Program Bool := do
  let m ← loadManifest setting c verbose
  let specs ← loadTests c tests
  let found ← specs.mapM (checkLoaded setting m c.filter)
  let checked := found.foldl (fun count result => count + result.1) 0
  let diagnostics := found.flatMap Prod.snd
  printDiagnostics setting diagnostics
  printErr ""
  printErr s!"Checked {checked} tests, {diagnostics.length} problems found"
  return !diagnostics.any fun d => d.severity == .error

/-- Does what is asked for. -/
def perform (i : Invocation) : Program Bool := do
  let config ← loadConfig setting i.config i.verbose
  let c := { config with manifest := i.manifest.getD config.manifest }
  match i.command with
  | .generate tests output direction => generateCommand setting c tests output direction i.verbose
  | .test tests engine output markdown =>
    testCommand setting c tests engine output markdown i.verbose
  | .sql test => sqlCommand setting c test
  | .check tests => checkCommand setting c tests i.verbose

end

/-! ## Outcomes -/

/-- What a command leaves behind. -/
structure Outcome where
  exit : Nat
  out : String
  err : String
  files : Volume

/-- A text with all lines but the first moved in. -/
def indentLines (text : String) : String :=
  String.join (text.toList.map fun c => if c = '\n' then "\n    " else c.toString)

/-- The text of a failure. -/
def Failure.render (f : Failure) : String :=
  s!"Error: {f.message}" ++
    match f.cause with
    | some cause => "\n\nCaused by:\n    " ++ indentLines cause
    | none => ""

/-- The name and number of this program. -/
def versionText : String := "dbtmock 0.1.0"

/-- How the program is used. -/
def usageText : String :=
  "dbtmock - Unit tests for dbt models against mocked CSV data\n\n" ++
  "Usage: dbtmock [OPTIONS] <COMMAND>\n\n" ++
  "Commands:\n" ++
  "  generate  Write assertion SQL for every test spec\n" ++
  "  test      Generate and run every test spec, then report mismatching rows\n" ++
  "  sql       Print the mock-substituted SQL of a test's model\n" ++
  "  check     Validate test specs against the manifest without generating SQL\n" ++
  "  help      Print this message or the help of the given subcommand(s)\n\n" ++
  "Options:\n" ++
  "  -c, --config <CONFIG>      Path to config file (default: dbtmock.toml)\n" ++
  "  -v, --verbose              Enable verbose output\n" ++
  "  -f, --manifest <MANIFEST>  Path to dbt manifest.json (overrides config)\n" ++
  "  -h, --help                 Print help\n" ++
  "  -V, --version              Print version\n"

/-- Runs the program with some arguments on some files. -/
def run (setting : Setting) (files : Volume) (arguments : List String) : Outcome :=
  match parseArguments arguments with
  | .error .help => ⟨0, usageText, "", files⟩
  | .error .version => ⟨0, versionText ++ "\n", "", files⟩
  | .error .usage => ⟨2, "", usageText, files⟩
  | .ok invocation =>
    match (perform setting invocation).run.run ⟨files, "", ""⟩ with
    | (.ok success, s) => ⟨if success then 0 else 1, s.out, s.err, s.files⟩
    | (.error failure, s) => ⟨1, s.out, s.err ++ failure.render ++ "\n", s.files⟩

end ModelBench.Cli
