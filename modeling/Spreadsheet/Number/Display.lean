import Spreadsheet.Number.Shortest

/-!
# Displayed numbers

How doubles are shown in cells and written in formulas, and their bits.
-/

set_option autoImplicit false

namespace Spreadsheet.Double

/-- The text in a cell: rounded to one decimal place, a half going to the even
tenth, with all digits before the point. The sign of zero is kept. -/
def display (x : Double) : List Char :=
  if x.isNan then "nan".toList
  else
    (if x.negative then ['-'] else []) ++
    (if x.isInfinite then "inf".toList
    else
      let tenths := roundHalfEven (x.units * 10) one
      Text.decimal (tenths / 10) ++ ['.'] ++ Text.decimal (tenths % 10))

def isWhole (x : Double) : Bool :=
  x.isFinite && x.units % one == 0

/-- The text in a formula: all digits of a whole number, without a point and
without the sign of zero; otherwise the shortest decimal. -/
def literal (x : Double) : List Char :=
  if x.isWhole then
    (if x.negative && !x.isZero then ['-'] else []) ++ Text.decimal (x.units / one)
  else x.text

/-- The bits as sixteen hexadecimal digits; all values that are no number have the
same text. -/
def bitsText (x : Double) : List Char :=
  if x.isNan then "nan".toList
  else
    let digits := Nat.toDigits 16 x.bits
    List.replicate (16 - digits.length) '0' ++ digits

end Spreadsheet.Double
