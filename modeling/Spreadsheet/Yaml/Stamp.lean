import Spreadsheet.Number.Integer
import Spreadsheet.Data.Value
import Spreadsheet.Yaml.Error

/-!
# Time stamps

Days and moments as documents write them: a day in digits, and behind it possibly a time and
its distance from universal time.
-/

set_option autoImplicit false

namespace Spreadsheet.Yaml

/-- The distance from universal time as written. -/
inductive Distance where
  | universal
  | hours (west : Bool) (hours minutes : List Char)
deriving DecidableEq, Repr

/-- The time of a day as written. -/
structure Clock where
  hour : List Char
  minute : List Char
  second : List Char
  fraction : List Char
  distance : Option Distance
deriving DecidableEq, Repr

/-- A time stamp as written. -/
structure Stamp where
  year : List Char
  month : List Char
  day : List Char
  clock : Option Clock
deriving DecidableEq, Repr

namespace Stamp

/-- The digits at the start of a text, `least` to `most` of them, and what follows. -/
def takeDigits (least most : Nat) (cs : List Char) : Option (List Char × List Char) :=
  let digits := (cs.take most).takeWhile fun c => '0' ≤ c && c ≤ '9'
  if digits.length < least then none else some (digits, cs.drop digits.length)

def behind (sign : Char) : List Char → Option (List Char)
  | [] => none
  | c :: rest => if c = sign then some rest else none

/-- The blanks between the parts of a stamp. -/
def isGap (c : Char) : Bool := c == ' ' || c == '\t'

def distance? (cs : List Char) : Option Distance :=
  match cs with
  | 'Z' :: rest => if rest = [] then some .universal else none
  | sign :: rest => do
    if sign ≠ '+' ∧ sign ≠ '-' then none
    let (hours, rest) ← takeDigits 1 2 rest
    let (minutes, rest) ←
      match rest with
      | ':' :: rest => takeDigits 2 2 rest
      | rest => some ([], rest)
    if rest = [] then some (.hours (sign == '-') hours minutes) else none
  | [] => none

def clock? (cs : List Char) : Option Clock := do
  let (hour, cs) ← takeDigits 1 2 cs
  let (minute, cs) ← takeDigits 2 2 (← behind ':' cs)
  let (second, cs) ← takeDigits 2 2 (← behind ':' cs)
  let (fraction, cs) :=
    match cs with
    | '.' :: rest => (rest.takeWhile fun c => '0' ≤ c && c ≤ '9',
        rest.dropWhile fun c => '0' ≤ c && c ≤ '9')
    | rest => ([], rest)
  if cs = [] then pure ⟨hour, minute, second, fraction, none⟩
  else pure ⟨hour, minute, second, fraction, some (← distance? (cs.dropWhile isGap))⟩

def ofText? (cs : List Char) : Option Stamp := do
  let (year, cs) ← takeDigits 4 4 cs
  let (month, cs) ← takeDigits 1 2 (← behind '-' cs)
  let (day, cs) ← takeDigits 1 2 (← behind '-' cs)
  if cs = [] then pure ⟨year, month, day, none⟩
  else
    let time ←
      match cs with
      | 'T' :: rest | 't' :: rest => some rest
      | c :: rest => if isGap c then some (rest.dropWhile isGap) else none
      | [] => none
    pure ⟨year, month, day, some (← clock? time)⟩

/-- Whether a stamp is known as one without being announced: a day alone then has two digits
for the month and the day. -/
def isPlain (stamp : Stamp) : Bool :=
  stamp.clock.isSome || (stamp.month.length == 2 && stamp.day.length == 2)

def minutesOf : Distance → Int
  | .universal => 0
  | .hours west hours minutes =>
    let distance : Int := Integer.valueIn 10 hours * 60 + Integer.valueIn 10 minutes
    if west then -distance else distance

/-- The microseconds of a fraction; what is smaller is left out. -/
def micros (fraction : List Char) : Nat :=
  let digits := fraction.take 6
  Integer.valueIn 10 (digits ++ List.replicate (6 - digits.length) '0')

def meaning (stamp : Stamp) : Except Error Data.Scalar := do
  let year := Integer.valueIn 10 stamp.year
  let month := Integer.valueIn 10 stamp.month
  let day := Integer.valueIn 10 stamp.day
  match stamp.clock with
  | none => .day <$> (Calendar.Date.make year month day).mapError Error.calendar
  | some clock =>
    .moment <$> (Calendar.Moment.make year month day (Integer.valueIn 10 clock.hour)
      (Integer.valueIn 10 clock.minute) (Integer.valueIn 10 clock.second) (micros clock.fraction)
      (clock.distance.map minutesOf)).mapError Error.calendar

end Stamp

end Spreadsheet.Yaml
