/-!
# Points in time

The text of a point in time in universal time, with six places of the second. Its width
is always the same up to the year 9999.
-/

set_option autoImplicit false

namespace Spreadsheet.Clock

def padded (width n : Nat) : String :=
  let digits := Nat.toDigits 10 n
  String.ofList (List.replicate (width - digits.length) '0' ++ digits)

/-- A day of the calendar. -/
structure Day where
  year : Nat
  month : Nat
  day : Nat
deriving DecidableEq, Repr

/-- The day that lies some days behind the first of January 1970. Years are counted from
the first of March, so that the day that is only there in some years is the last one of its
year; 400 years always have the same number of days. -/
def Day.ofCount (days : Nat) : Day :=
  let fromMarch := days + 719468
  let era := fromMarch / 146097
  let inEra := fromMarch % 146097
  let yearOfEra := (inEra - inEra / 1460 + inEra / 36524 - inEra / 146096) / 365
  let inYear := inEra - (365 * yearOfEra + yearOfEra / 4 - yearOfEra / 100)
  let march := (5 * inYear + 2) / 153
  let month := if march < 10 then march + 3 else march - 9
  let year := 400 * era + yearOfEra + if month ≤ 2 then 1 else 0
  ⟨year, month, inYear - (153 * march + 2) / 5 + 1⟩

/-- The text of the point that lies some microseconds behind the beginning of 1970. -/
def text (microseconds : Nat) : String :=
  let seconds := microseconds / 1000000
  let date := Day.ofCount (seconds / 86400)
  let inDay := seconds % 86400
  let hour := padded 2 (inDay / 3600)
  let minute := padded 2 (inDay / 60 % 60)
  let second := padded 2 (inDay % 60)
  let fraction := padded 6 (microseconds % 1000000)
  s!"{padded 4 date.year}-{padded 2 date.month}-{padded 2 date.day}T" ++
    s!"{hour}:{minute}:{second}.{fraction}Z"

end Spreadsheet.Clock
