import Spreadsheet.Text.Blank
import Spreadsheet.Text.Digit
import Spreadsheet.Text.Quoted

/-!
# Whole numbers in text

Whole numbers as users write them: an optional sign and digits of any script, in groups
that single underscores divide, with blanks around them. Numbers to another base than ten
may carry its mark.
-/

set_option autoImplicit false

namespace Spreadsheet

/-- Why a text, or some octets in its place, is no whole number. -/
inductive IntegerError where
  | notInteger (base : Nat) (text : String)
  | notOctets (octets : List UInt8)
  | tooLong (digits : Nat)
deriving DecidableEq, Repr

namespace Integer

/-- The greatest number of digits that is read or written to the base ten. -/
def maxDigits : Nat := 4300

/-- The value of a digit to a base. Behind nine come the letters of the alphabet. -/
def digitIn? (base : Nat) (c : Char) : Option Nat :=
  let value :=
    if 'a' ≤ c ∧ c ≤ 'z' then some (c.toNat - 'a'.toNat + 10)
    else if 'A' ≤ c ∧ c ≤ 'Z' then some (c.toNat - 'A'.toNat + 10)
    else Text.digitValue? c
  value.filter (· < base)

def valueIn (base : Nat) (cs : List Char) : Nat :=
  cs.foldl (fun n c => base * n + (digitIn? base c).getD 0) 0

def groupedDigits? (isDigit : Char → Bool) : List Char → Option (List Char)
  | [] => none
  | [c] => if isDigit c then some [c] else none
  | c :: '_' :: rest => if isDigit c then (groupedDigits? isDigit rest).map (c :: ·) else none
  | c :: rest => if isDigit c then (groupedDigits? isDigit rest).map (c :: ·) else none

/-- The blanks that may stand around a number: all but the separators of plain text. -/
def isSpace (c : Char) : Bool :=
  Text.isBlank c && !(0x1C ≤ c.toNat && c.toNat ≤ 0x1F)

def baseMarks : List (Nat × List Char) := [(2, ['b', 'B']), (8, ['o', 'O']), (16, ['x', 'X'])]

/-- What stands behind the mark of a base, which one underscore may follow. -/
def withoutMark (base : Nat) : List Char → List Char
  | '0' :: mark :: rest =>
    if ((baseMarks.lookup base).getD []).contains mark then
      (if rest.head? = some '_' then rest.drop 1 else rest)
    else '0' :: mark :: rest
  | cs => cs

/-- The whole number that a text writes to a base. A row of too many decimal digits is
refused before what follows it is looked at. -/
def readIn (base : Nat) (text : String) : Except IntegerError Int :=
  let cs := text.toList.dropWhile isSpace
  let (negative, unsigned) := match cs with
    | '-' :: rest => (true, rest)
    | '+' :: rest => (false, rest)
    | _ => (false, cs)
  let isDigit (c : Char) : Bool := (digitIn? base c).isSome
  let isRowChar (c : Char) : Bool := isDigit c || c == '_'
  let row := withoutMark base unsigned
  match groupedDigits? isDigit (row.takeWhile isRowChar) with
  | none => .error (.notInteger base text)
  | some digits =>
    if base = 10 ∧ maxDigits < digits.length then .error (.tooLong digits.length)
    else if (row.dropWhile isRowChar).all isSpace then
      let value : Int := valueIn base digits
      .ok (if negative then -value else value)
    else .error (.notInteger base text)

def read (text : String) : Except IntegerError Int := readIn 10 text

def readOctets (octets : List UInt8) : Except IntegerError Int :=
  let asciiChar (octet : UInt8) : Char :=
    if octet.toNat < 0x80 then Char.ofNat octet.toNat else '\x00'
  match read (String.ofList (octets.map asciiChar)) with
  | .error (.notInteger ..) => .error (.notOctets octets)
  | result => result

/-- Whether a number has more digits than are written to the base ten. -/
def isLong (value : Int) : Bool := Nat.pow 10 maxDigits ≤ value.natAbs

/-- The decimal text of a number, unless it has too many digits. -/
def text? (value : Int) : Option String :=
  if isLong value then none else some (toString value)

end Integer

def digitLimit : String :=
  s!"Exceeds the limit ({Integer.maxDigits} digits) for integer string conversion"

/-- The advice at the end of every message about too many digits. -/
def digitAdvice : String := "; use sys.set_int_max_str_digits() to increase the limit"

def tooManyDigits (digits : Nat) : String :=
  digitLimit ++ s!": value has {digits} digits" ++ digitAdvice

def tooLongToWrite : String := digitLimit ++ digitAdvice

/-- The most characters of a quoted text, with its quotes, that a message repeats. -/
def maxQuotation : Nat := 200

/-- The message about what is no number to a base, given what stands there in quotes. -/
def notNumberTo (base : Nat) (quotation : List Char) : String :=
  s!"invalid literal for int() with base {base}: " ++
    String.ofList (quotation.take maxQuotation)

def IntegerError.message : IntegerError → String
  | notInteger base text => notNumberTo base (Text.quoted text.toList)
  | notOctets octets => notNumberTo 10 (Text.quotedOctets octets)
  | tooLong digits => tooManyDigits digits

end Spreadsheet
