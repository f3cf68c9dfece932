/-!
# TOML values

A document is a table. A table remembers how it came to be, because that decides who may add to it:
the entries below a header may not be repeated under another header of the same name, and a table in
braces is complete.
-/

namespace ModelBench

/-- How a table came to be. -/
inductive Toml.Origin
  /-- By a header of its own. -/
  | header
  /-- On the way to another header. -/
  | implied
  /-- On the way to a key with dots. -/
  | dotted
  /-- In braces. -/
  | inline
  deriving DecidableEq, Repr

/-- A value of a document. -/
inductive Toml
  | string (value : String)
  /-- A number, a truth value or a date, as it is written. -/
  | atom (source : String)
  | array (items : List Toml)
  /-- Tables that were given one by one. -/
  | tables (items : List (List (String × Toml)))
  | table (origin : Toml.Origin) (entries : List (String × Toml))
  deriving Repr

namespace Toml

/-- The entries of a table. -/
abbrev Entries := List (String × Toml)

/-- The entries with another value for a key, which keeps its place. -/
def replaceEntry (key : String) (value : Toml) (entries : Entries) : Entries :=
  entries.map fun entry => if entry.1 = key then (key, value) else entry

/-- Changes the table at the end of a path. Tables on the way are made where they are missing; of
tables that were given one by one the last is meant. A path of a dotted key does not lead through
tables with a header. -/
def change (isDotted : Bool) (edit : Origin → Entries → Option (Origin × Entries)) :
    (path : List String) → Origin → Entries → Option (Origin × Entries)
  | [], origin, entries => edit origin entries
  | key :: path, origin, entries => do
    match entries.lookup key with
    | none =>
      let (o, es) ← change isDotted edit path (if isDotted then .dotted else .implied) []
      return (origin, entries ++ [(key, .table o es)])
    | some (.table o es) =>
      if o = .inline ∨ (isDotted ∧ o = .header) then none
      else
        let (o, es) ← change isDotted edit path o es
        return (origin, replaceEntry key (.table o es) entries)
    | some (.tables items) =>
      let (_, es) ← change isDotted edit path .header (items.getLast?.getD [])
      return (origin, replaceEntry key (.tables (items.dropLast ++ [es])) entries)
    | some _ => none

/-- Adds an entry under a key with dots. The table it goes to must come from such keys itself unless
it is the one where the path starts. -/
def addEntry (path : List String) (value : Toml) (origin : Origin) (entries : Entries) :
    Option (Origin × Entries) := do
  let key ← path.getLast?
  let way := path.dropLast
  change true
    (fun o es =>
      if (!way.isEmpty && o ≠ .dotted) || (es.lookup key).isSome then none
      else some (o, es ++ [(key, value)]))
    way origin entries

/-- Starts the table of a header. It must not have been given before. -/
def addTable (path : List String) (origin : Origin) (entries : Entries) :
    Option (Origin × Entries) := do
  let key ← path.getLast?
  change false
    (fun o es =>
      match es.lookup key with
      | none => some (o, es ++ [(key, .table .header [])])
      | some (.table .implied found) => some (o, replaceEntry key (.table .header found) es)
      | some _ => none)
    path.dropLast origin entries

/-- Starts one more table of those that are given one by one. -/
def addToTables (path : List String) (origin : Origin) (entries : Entries) :
    Option (Origin × Entries) := do
  let key ← path.getLast?
  change false
    (fun o es =>
      match es.lookup key with
      | none => some (o, es ++ [(key, .tables [[]])])
      | some (.tables items) => some (o, replaceEntry key (.tables (items ++ [[]])) es)
      | some _ => none)
    path.dropLast origin entries

end Toml

end ModelBench
