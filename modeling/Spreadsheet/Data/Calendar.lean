import Spreadsheet.Text.Digit

/-!
# Days and moments

Days of the Gregorian calendar, extended backwards to the year 1, and moments on them, with
or without a distance from universal time.
-/

set_option autoImplicit false

namespace Spreadsheet.Calendar

/-- Why numbers are no day or moment. -/
inductive Fault where
  | year (number : Nat)
  | month
  | day
  | hour
  | minute
  | second
  | offset (minutes : Int)
deriving DecidableEq, Repr

/-- A day. -/
structure Date where
  year : Nat
  month : Nat
  day : Nat
deriving DecidableEq, Repr

/-- A moment. The offset from universal time is in minutes, positive towards the east. -/
structure Moment where
  date : Date
  hour : Nat
  minute : Nat
  second : Nat
  micros : Nat
  offset : Option Int
deriving DecidableEq, Repr

def isLeap (year : Nat) : Bool := year % 4 == 0 && (year % 100 != 0 || year % 400 == 0)

def daysIn (year month : Nat) : Nat :=
  if month = 2 then (if isLeap year then 29 else 28)
  else if month = 4 ∨ month = 6 ∨ month = 9 ∨ month = 11 then 30
  else 31

def zeroFilled (width n : Nat) : List Char :=
  let digits := Text.decimal n
  List.replicate (width - digits.length) '0' ++ digits

/-- Names and values as they stand behind the name of what they make. -/
def call (name : String) (arguments : List String) : String :=
  name ++ "(" ++ ", ".intercalate arguments ++ ")"

/-- A span of minutes, in whole days and the seconds beyond them. -/
def spanLiteral (minutes : Int) : String :=
  let days := minutes.fdiv 1440
  let seconds := minutes.fmod 1440 * 60
  call "datetime.timedelta"
    ((if days = 0 then [] else [s!"days={days}"]) ++
      (if seconds = 0 then [] else [s!"seconds={seconds}"]))

def Fault.message : Fault → String
  | year number => s!"year {number} is out of range"
  | month => "month must be in 1..12"
  | day => "day is out of range for month"
  | hour => "hour must be in 0..23"
  | minute => "minute must be in 0..59"
  | second => "second must be in 0..59"
  | offset minutes =>
    "offset must be a timedelta strictly between -timedelta(hours=24) and timedelta(hours=24), " ++
      s!"not {spanLiteral minutes}."

namespace Date

/-- The day with the given numbers, of which the first that is out of range is told. -/
def make (year month day : Nat) : Except Fault Date :=
  if year = 0 ∨ 9999 < year then .error (.year year)
  else if month = 0 ∨ 12 < month then .error .month
  else if day = 0 ∨ daysIn year month < day then .error .day
  else .ok ⟨year, month, day⟩

def daysBefore (date : Date) : Nat :=
  let years := date.year - 1
  let months := (List.range date.month).drop 1
  365 * years + years / 4 - years / 100 + years / 400 +
    (months.map (daysIn date.year)).foldr (· + ·) 0 + (date.day - 1)

def text (date : Date) : String :=
  String.ofList
    (zeroFilled 4 date.year ++ '-' :: zeroFilled 2 date.month ++ '-' :: zeroFilled 2 date.day)

def numbers (date : Date) : List Nat := [date.year, date.month, date.day]

/-- A day inside another value. -/
def literal (date : Date) : String := call "datetime.date" (date.numbers.map toString)

end Date

namespace Moment

/-- The moment with the given numbers, if they are in range. The offset is looked at before
all others. -/
def make (year month day hour minute second micros : Nat) (offset : Option Int) :
    Except Fault Moment := do
  match offset with
  | some minutes => if 1440 ≤ minutes.natAbs then throw (.offset minutes)
  | none => pure ()
  let date ← Date.make year month day
  if 23 < hour then throw .hour
  if 59 < minute then throw .minute
  if 59 < second then throw .second
  pure ⟨date, hour, minute, second, micros, offset⟩

def microsBefore (moment : Moment) : Nat :=
  (((moment.date.daysBefore * 24 + moment.hour) * 60 + moment.minute) * 60 + moment.second) *
    1000000 + moment.micros

/-- Whether two moments are the same. Moments with offsets are, wherever their clocks
stand; none of them is the same as one without. -/
def same (first second : Moment) : Bool :=
  let universal (moment : Moment) (offset : Int) : Int :=
    (moment.microsBefore : Int) - offset * 60000000
  match first.offset, second.offset with
  | some here, some there => universal first here == universal second there
  | none, none => first == second
  | _, _ => false

/-- The text of an offset: a sign, hours and minutes. -/
def offsetText (minutes : Int) : List Char :=
  (if minutes < 0 then '-' else '+') ::
    zeroFilled 2 (minutes.natAbs / 60) ++ ':' :: zeroFilled 2 (minutes.natAbs % 60)

/-- The text of a moment. Only fractions of a second that are not zero are written. -/
def text (moment : Moment) : String :=
  moment.date.text ++
    String.ofList
      (' ' :: zeroFilled 2 moment.hour ++ ':' :: zeroFilled 2 moment.minute ++
        ':' :: zeroFilled 2 moment.second ++
        (if moment.micros = 0 then [] else '.' :: zeroFilled 6 moment.micros) ++
        (moment.offset.map offsetText).getD [])

def offsetLiteral (minutes : Int) : String :=
  if minutes = 0 then "datetime.timezone.utc" else call "datetime.timezone" [spanLiteral minutes]

/-- A moment inside another value. Seconds and fractions of them are left out where nothing
but zeros follows. -/
def literal (moment : Moment) : String :=
  let behindMinutes :=
    if moment.micros ≠ 0 then [moment.second, moment.micros]
    else if moment.second ≠ 0 then [moment.second]
    else []
  let numbers := moment.date.numbers ++ [moment.hour, moment.minute] ++ behindMinutes
  let offset := (moment.offset.map fun minutes => s!"tzinfo={offsetLiteral minutes}").toList
  call "datetime.datetime" (numbers.map toString ++ offset)

end Moment

end Spreadsheet.Calendar
