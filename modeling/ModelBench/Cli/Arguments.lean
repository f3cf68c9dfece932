import ModelBench.Assertion
import ModelBench.Query.Engine

/-!
# The command line

Options may stand before the name of the command or after it. An option is given once in each place,
and what is given after the command counts more.
-/

namespace ModelBench.Cli

/-- What is to be done. -/
inductive Command
  /-- Write the statements of all tests. -/
  | generate (tests output : Option String) (direction : Option AssertionDirection)
  /-- Run all tests and report. -/
  | test (tests : Option String) (engine : Option EngineKind) (output : String)
      (markdown : Option String)
  /-- Print the statement of a test's model. -/
  | sql (test : String)
  /-- Check all tests without generating them. -/
  | check (tests : Option String)
  deriving DecidableEq, Repr

/-- A command with the options that every command has. -/
structure Invocation where
  config : Option String
  manifest : Option String
  verbose : Bool
  command : Command
  deriving DecidableEq, Repr

/-- Why arguments ask for no command. -/
inductive Stop
  | help
  | version
  | usage
  deriving DecidableEq, Repr

/-- The values that an option takes. -/
inductive ValueKind
  /-- None: it is there or not. -/
  | flag
  /-- A path. -/
  | path
  /-- One of some words. -/
  | word (words : List String)
  deriving DecidableEq, Repr

/-- Whether an option takes a value. -/
def ValueKind.accepts : ValueKind → String → Bool
  | .flag, _ => false
  | .path, value => !value.isEmpty
  | .word words, value => words.contains value

/-- An option. -/
structure OptionForm where
  short : Char
  long : String
  kind : ValueKind
  deriving DecidableEq, Repr

/-- The options that every command has. -/
def commonOptions : List OptionForm :=
  [⟨'c', "config", .path⟩, ⟨'v', "verbose", .flag⟩, ⟨'f', "manifest", .path⟩]

/-- The names of directions on the command line. -/
def directionWords : List (String × AssertionDirection) :=
  [("both", .both), ("query-minus-expected", .queryMinusExpected)]

/-- The names of databases on the command line. -/
def engineWords : List (String × EngineKind) := [("memory", .memory), ("bigquery", .bigQuery)]

/-- The options of a command of a name. -/
def optionsOf : (command : String) → Option (List OptionForm)
  | "generate" =>
    some [⟨'t', "tests", .path⟩, ⟨'o', "output", .path⟩,
      ⟨'d', "direction", .word (directionWords.map Prod.fst)⟩]
  | "test" =>
    some [⟨'t', "tests", .path⟩, ⟨'e', "executor", .word (engineWords.map Prod.fst)⟩,
      ⟨'o', "output", .path⟩, ⟨'m', "markdown", .path⟩]
  | "sql" => some [⟨'t', "test", .path⟩]
  | "check" => some [⟨'t', "tests", .path⟩]
  | _ => none

/-! ## Reading options -/

/-- The options that were given, under their long names. -/
abbrev Given := List (String × String)

/-- The options with one more, which must be new and must have a good value. -/
def addOption (form : OptionForm) (value : String) (given : Given) : Except Stop Given :=
  if (given.lookup form.long).isSome || !form.kind.accepts value then .error .usage
  else .ok (given ++ [(form.long, value)])

/-- The options with one more flag. -/
def addFlag (form : OptionForm) (given : Given) : Except Stop Given :=
  if (given.lookup form.long).isSome then .error .usage else .ok (given ++ [(form.long, "")])

/-- What a word of the command line leaves to be done. -/
inductive Step
  /-- Nothing. -/
  | done (given : Given)
  /-- The next word is the value of an option. -/
  | wants (form : OptionForm) (given : Given)

/-- Reads letters that stand for options. The rest of the word after the letter of an option with a
value is the value. -/
def readLetters (forms : List OptionForm) (hasVersion : Bool) (given : Given) :
    List Char → Except Stop Step
  | [] => .ok (.done given)
  | c :: rest =>
    if c = 'h' then .error .help
    else if c = 'V' ∧ hasVersion then .error .version
    else
      match forms.find? fun form => form.short == c with
      | none => .error .usage
      | some form =>
        if form.kind = .flag then do
          let given ← addFlag form given
          if rest.head? = some '=' then throw .usage
          readLetters forms hasVersion given rest
        else
          match rest with
          | [] => .ok (.wants form given)
          | '=' :: value => (addOption form (String.ofList value) given).map Step.done
          | value => (addOption form (String.ofList value) given).map Step.done

/-- Reads a long name, with or without a value behind an equals sign. -/
def readLong (forms : List OptionForm) (hasVersion : Bool) (given : Given) (word : List Char) :
    Except Stop Step :=
  let name := String.ofList (word.takeWhile (· ≠ '='))
  let value := word.dropWhile (· ≠ '=')
  if name = "help" then if value.isEmpty then .error .help else .error .usage
  else if name = "version" ∧ hasVersion then
    if value.isEmpty then .error .version else .error .usage
  else
    match forms.find? fun form => form.long == name with
    | none => .error .usage
    | some form =>
      match value with
      | [] =>
        if form.kind = .flag then (addFlag form given).map Step.done else .ok (.wants form given)
      | _ :: value =>
        if form.kind = .flag then .error .usage
        else (addOption form (String.ofList value) given).map Step.done

/-- Reads a word that starts with a hyphen; any other word is none of the options. -/
def readWord (forms : List OptionForm) (hasVersion : Bool) (given : Given) (word : String) :
    Option (Except Stop Step) :=
  match word.toList with
  | ['-'] => none
  | ['-', '-'] => some (.error .usage)
  | '-' :: '-' :: rest => some (readLong forms hasVersion given rest)
  | '-' :: rest => some (readLetters forms hasVersion given rest)
  | _ => none

/-- Whether a word can be the value of an option: a hyphen may only stand alone. -/
def isValue (word : String) : Bool := word == "-" || word.toList.head? != some '-'

/-- Reads options up to the first word that is none. `wanted` is the option that the next word is
the value of. -/
def readOptions (forms : List OptionForm) (hasVersion : Bool) :
    (wanted : Option OptionForm) → Given → List String → Except Stop (Given × List String)
  | none, given, [] => .ok (given, [])
  | some _, _, [] => .error .usage
  | some form, given, word :: rest =>
    if isValue word then do
      let given ← addOption form word given
      readOptions forms hasVersion none given rest
    else .error .usage
  | none, given, word :: rest =>
    match readWord forms hasVersion given word with
    | none => .ok (given, word :: rest)
    | some (.error stop) => .error stop
    | some (.ok (.done given)) => readOptions forms hasVersion none given rest
    | some (.ok (.wants form given)) => readOptions forms hasVersion (some form) given rest

/-! ## Commands -/

/-- The command of a name with its options. -/
def commandOf (name : String) (given : Given) : Option Command :=
  match name with
  | "generate" =>
    some (.generate (given.lookup "tests") (given.lookup "output")
      ((given.lookup "direction").bind fun word => directionWords.lookup word))
  | "test" =>
    some (.test (given.lookup "tests")
      ((given.lookup "executor").bind fun word => engineWords.lookup word)
      ((given.lookup "output").getD "report.json") (given.lookup "markdown"))
  | "sql" => (given.lookup "test").map Command.sql
  | "check" => some (.check (given.lookup "tests"))
  | _ => none

/-- Whether words after `help` name commands only. -/
def areCommands (words : List String) : Bool :=
  words.all fun word => word == "help" || (optionsOf word).isSome

/-- The words after the name of a command, without a last one that only says that no option
follows. -/
def withoutMark (words : List String) : List String :=
  if words.getLast? = some "--" then words.dropLast else words

/-- Reads the command line. -/
def parseArguments (words : List String) : Except Stop Invocation := do
  let (before, rest) ← readOptions commonOptions true none [] words
  match rest with
  | [] => throw .usage
  | name :: rest =>
    if name = "help" then throw (if areCommands rest then .help else .usage)
    match optionsOf name with
    | none => throw .usage
    | some forms =>
      let (after, rest) ← readOptions (forms ++ commonOptions) false none [] (withoutMark rest)
      if !rest.isEmpty then throw .usage
      match commandOf name after with
      | none => throw .usage
      | some command =>
        return { config := after.lookup "config" <|> before.lookup "config"
                 manifest := after.lookup "manifest" <|> before.lookup "manifest"
                 verbose := (after.lookup "verbose").isSome || (before.lookup "verbose").isSome
                 command }

end ModelBench.Cli
