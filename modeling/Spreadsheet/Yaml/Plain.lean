import Spreadsheet.Yaml.Stamp
import Spreadsheet.Yaml.Tag

/-!
# Plain scalars

What a scalar is that nothing is announced for: a truth value, a number, a day or moment,
nothing, or text. Numbers may be grouped by underscores, and by colons into groups to the base
sixty.
-/

set_option autoImplicit false

namespace Spreadsheet.Yaml.Plain

def truths : List String :=
  ["yes", "Yes", "YES", "no", "No", "NO", "true", "True", "TRUE", "false", "False", "FALSE",
    "on", "On", "ON", "off", "Off", "OFF"]

def nulls : List String := ["", "~", "null", "Null", "NULL"]

def infinities : List String := [".inf", ".Inf", ".INF"]

def notNumbers : List String := [".nan", ".NaN", ".NAN"]

def isDigit (c : Char) : Bool := '0' ≤ c && c ≤ '9'

def isDigitOf (base : Nat) (c : Char) : Bool :=
  c == '_' || (c.toNat < 0x80 && (Integer.digitIn? base c).isSome)

/-- A text cut at its colons. -/
def groups : List Char → List (List Char)
  | [] => [[]]
  | c :: rest =>
    match groups rest with
    | [] => [[c]]
    | group :: later => if c = ':' then [] :: group :: later else (c :: group) :: later

/-- Whether a group behind a colon is a digit to the base sixty. -/
def isSixtieth : List Char → Bool
  | [c] => isDigit c
  | [c, d] => '0' ≤ c && c ≤ '5' && isDigit d
  | _ => false

/-- Whether a text is a row of digits and underscores that begins with a digit. -/
def isGrouped : List Char → Bool
  | [] => false
  | c :: rest => isDigit c && rest.all (isDigitOf 10)

/-- Whether a text without sign is a whole number. A zero in front of other digits, or of a
mark, tells their base. -/
def isWhole : List Char → Bool
  | '0' :: 'b' :: c :: rest => (c :: rest).all (isDigitOf 2)
  | '0' :: 'x' :: c :: rest => (c :: rest).all (isDigitOf 16)
  | '0' :: rest => rest.all (isDigitOf 8)
  | cs =>
    match groups cs with
    | [] => false
    | head :: sixtieths => isGrouped head && sixtieths.all isSixtieth

/-- Whether a text is empty or a power of ten with its sign. -/
def isPower : List Char → Bool
  | [] => true
  | mark :: sign :: digits =>
    (mark == 'e' || mark == 'E') && (sign == '+' || sign == '-') && digits != [] &&
      digits.all isDigit
  | _ => false

/-- Whether a text behind a sign, or without one, is a number with a point. A point in front
of all digits takes no sign. -/
def isFraction (signed : Bool) (cs : List Char) : Bool :=
  match cs.dropWhile (· != '.') with
  | [] => false
  | _ :: after =>
    let fraction := after.takeWhile (isDigitOf 10)
    let power := after.dropWhile (isDigitOf 10)
    match groups (cs.takeWhile (· != '.')) with
    | [] => false
    | [[]] => !signed && isGrouped fraction && isPower power
    | [head] => isGrouped head && isPower power
    | head :: sixtieths => isGrouped head && sixtieths.all isSixtieth && power == []

def splitSign : List Char → Bool × List Char
  | '-' :: rest => (true, rest)
  | '+' :: rest => (true, rest)
  | rest => (false, rest)

def isDouble (cs : List Char) : Bool :=
  let (signed, rest) := splitSign cs
  infinities.contains (String.ofList rest) || notNumbers.contains (String.ofList cs) ||
    isFraction signed rest

/-- A text without the line feed at its end, unless that is all there is. A line feed there
makes no difference to what a scalar is. -/
def withoutBreak (cs : List Char) : List Char :=
  if 1 < cs.length ∧ cs.getLast? = some '\n' then cs.dropLast else cs

def tag (scalar : List Char) : Tag :=
  let cs := withoutBreak scalar
  let text := String.ofList cs
  if truths.contains text then .bool
  else if nulls.contains text then .null
  else if isDouble cs then .float
  else if isWhole (splitSign cs).2 then .int
  else if (Stamp.ofText? cs).any Stamp.isPlain then .moment
  else if text = "<<" then .merge
  else if text = "=" then .default
  else if ["!", "&", "*"].contains text then .unknown
  else .text

end Spreadsheet.Yaml.Plain
