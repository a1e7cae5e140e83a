/-!
# Dates in header fields

A point in time is written with its day of the week, day, month, year and time of day in Greenwich,
each part with a fixed number of characters.  Days are counted in the Gregorian calendar, in eras
of 400 years that begin with March, so that the leap day is the last day of its year.  Only times
from 1970 on and before the year 10000 can be written (`HttpDate.format?`).
-/

namespace PreviewServer

/-- A day of the Gregorian calendar. -/
structure CivilDate where
  /-- The year. -/
  year : Nat
  /-- The month, from one. -/
  month : Nat
  /-- The day of the month, from one. -/
  day : Nat
  deriving DecidableEq, Repr

namespace CivilDate

/-- The days from the first of March of the year 0 to the first of January 1970. -/
def daysBefore1970 : Nat := 719468

/-- The day that comes this many days after the first of January 1970. -/
def ofDays (days : Nat) : CivilDate :=
  let n := days + daysBefore1970
  let era := n / 146097
  let dayOfEra := n % 146097
  let yearOfEra := (dayOfEra - dayOfEra / 1460 + dayOfEra / 36524 - dayOfEra / 146096) / 365
  let dayOfYear := dayOfEra - (365 * yearOfEra + yearOfEra / 4 - yearOfEra / 100)
  let shifted := (5 * dayOfYear + 2) / 153
  let month := if shifted < 10 then shifted + 3 else shifted - 9
  { year := era * 400 + yearOfEra + if month ≤ 2 then 1 else 0
    month := month
    day := dayOfYear - (153 * shifted + 2) / 5 + 1 }

end CivilDate

namespace HttpDate

/-- The names of the days of the week, from the one of the first of January 1970. -/
def dayNames : List String := ["Thu", "Fri", "Sat", "Sun", "Mon", "Tue", "Wed"]

/-- The names of the months. -/
def monthNames : List String :=
  ["Jan", "Feb", "Mar", "Apr", "May", "Jun", "Jul", "Aug", "Sep", "Oct", "Nov", "Dec"]

/-- A number with at least so many digits. -/
def padded (width n : Nat) : String :=
  let digits := Nat.toDigits 10 n
  String.ofList (List.replicate (width - digits.length) '0' ++ digits)

/-- The text of a point in time, given in seconds since the start of 1970. -/
def text (seconds : Nat) : String :=
  let days := seconds / 86400
  let time := seconds % 86400
  let date := CivilDate.ofDays days
  dayNames.getD (days % 7) "" ++ ", " ++ padded 2 date.day ++ " " ++
    monthNames.getD (date.month - 1) "" ++ " " ++ padded 4 date.year ++ " " ++
    padded 2 (time / 3600) ++ ":" ++ padded 2 (time / 60 % 60) ++ ":" ++ padded 2 (time % 60) ++
    " GMT"

/-- The seconds from the start of 1970 to the start of the year 10000. -/
def limit : Int := 253402300800

/-- The text of a point in time, given in seconds since the start of 1970.  A date has no sign and
four digits for its year, so times before 1970 and from the year 10000 on have none. -/
def format? (seconds : Int) : Option String :=
  if 0 ≤ seconds ∧ seconds < limit then some (text seconds.toNat) else none

/-- The points in time that can be written. -/
theorem isSome_format?_iff {seconds : Int} :
    (format? seconds).isSome ↔ 0 ≤ seconds ∧ seconds < limit := by
  unfold format?
  split
  · rename_i h
    exact iff_of_true rfl h
  · rename_i h
    exact iff_of_false nofun h

end HttpDate

end PreviewServer
