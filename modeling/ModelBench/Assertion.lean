import ModelBench.Mock.Encoding
import ModelBench.Report.Basic

/-!
# Assertions

A model produces what is expected if two differences of relations have no rows: the rows of the
model without the expected ones, and the expected ones without the rows of the model. Both are taken
over the expected columns.
-/

namespace ModelBench

/-- Which differences a test asks for. -/
inductive AssertionDirection
  | queryMinusExpected
  | both
  deriving DecidableEq, Repr

namespace AssertionDirection

/-- The name of a direction in a configuration. -/
def name : AssertionDirection → String
  | .queryMinusExpected => "query_minus_expected"
  | .both => "both"

/-- The direction of a name. -/
def ofName? (name : String) : Option AssertionDirection :=
  [AssertionDirection.queryMinusExpected, .both].find? fun d => d.name == name

end AssertionDirection

/-- The statements of a test. -/
structure AssertionQueries where
  queryMinusExpected : String
  /-- Missing if the test does not ask for it. -/
  expectedMinusQuery : Option String
  deriving DecidableEq, Repr

/-- The statement for the rows of one relation that are not in another one. -/
def exceptDistinct (left right columns : String) : String :=
  s!"SELECT {columns} FROM( {left} ) \n  EXCEPT DISTINCT \n SELECT {columns} FROM ({right})"

namespace AssertionQueries

/-- The statements for a model's statement and the expected rows. -/
def ofEncoded (sql : String) (expected : EncodedMock) (direction : AssertionDirection) :
    AssertionQueries :=
  let rows := expected.asRelation
  let columns := expected.columnList
  { queryMinusExpected := exceptDistinct sql rows columns
    expectedMinusQuery :=
      match direction with
      | .both => some (exceptDistinct rows sql columns)
      | .queryMinusExpected => none }

/-- The statements for a model's statement and the file of the expected rows. -/
def ofMock (files : Volume) (sql : String) (expected : Mock) (direction : AssertionDirection) :
    Except MockError AssertionQueries :=
  (expected.encode files).map fun encoded => ofEncoded sql encoded direction

/-- The statements in the order in which they are executed. -/
def halves (q : AssertionQueries) : List (DiffDirection × String) :=
  (.queryMinusExpected, q.queryMinusExpected) ::
    q.expectedMinusQuery.toList.map fun sql => (.expectedMinusQuery, sql)

theorem halves_queryMinusExpected (sql : String) (expected : EncodedMock) :
    (ofEncoded sql expected .queryMinusExpected).halves =
      [(.queryMinusExpected, exceptDistinct sql expected.asRelation expected.columnList)] := rfl

theorem halves_both (sql : String) (expected : EncodedMock) :
    (ofEncoded sql expected .both).halves =
      [(.queryMinusExpected, exceptDistinct sql expected.asRelation expected.columnList),
        (.expectedMinusQuery, exceptDistinct expected.asRelation sql expected.columnList)] := rfl

/-- Whether both differences are asked for. -/
def isBidirectional (q : AssertionQueries) : Bool := q.expectedMinusQuery.isSome

end AssertionQueries

end ModelBench
