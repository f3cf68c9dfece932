/-!
# Times in reports

A moment is written as a day and a time of day on the meridian, with as many groups of three
decimal places as it needs.
-/

namespace ModelBench.Timestamp

/-- A day: year, month and day of the month. -/
structure Day where
  year : Nat
  month : Nat
  day : Nat
  deriving DecidableEq, Repr

/-- The day that comes so many days after the first of January 1970. Years are counted from March
on, so that a leap day is the last day of its year. -/
def Day.ofNumber (number : Nat) : Day :=
  let shifted := number + 719468
  let era := shifted / 146097
  let ofEra := shifted % 146097
  let yearOfEra := (ofEra - ofEra / 1460 + ofEra / 36524 - ofEra / 146096) / 365
  let ofYear := ofEra - (365 * yearOfEra + yearOfEra / 4 - yearOfEra / 100)
  let shiftedMonth := (5 * ofYear + 2) / 153
  let month := if shiftedMonth < 10 then shiftedMonth + 3 else shiftedMonth - 9
  { year := yearOfEra + era * 400 + if month ≤ 2 then 1 else 0
    month
    day := ofYear - (153 * shiftedMonth + 2) / 5 + 1 }

/-- A number in at least so many digits. -/
def padded (width n : Nat) : String :=
  let digits := toString n
  String.ofList (List.replicate (width - digits.length) '0') ++ digits

/-- The part of a second: nothing, or three, six or nine decimal places. -/
def renderFraction (nanoseconds : Nat) : String :=
  if nanoseconds = 0 then ""
  else if nanoseconds % 1000000 = 0 then "." ++ padded 3 (nanoseconds / 1000000)
  else if nanoseconds % 1000 = 0 then "." ++ padded 6 (nanoseconds / 1000)
  else "." ++ padded 9 nanoseconds

/-- The moment that comes so many seconds and nanoseconds after the start of 1970. -/
def render (seconds nanoseconds : Nat) : String :=
  let day := Day.ofNumber (seconds / 86400)
  let time := seconds % 86400
  let two := padded 2
  s!"{padded 4 day.year}-{two day.month}-{two day.day}T" ++
    s!"{two (time / 3600)}:{two (time / 60 % 60)}:{two (time % 60)}" ++
    renderFraction nanoseconds ++ "+00:00"

end ModelBench.Timestamp
