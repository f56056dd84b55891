import Spreadsheet.Number.Rounding
import Spreadsheet.Text.Digit

/-!
# Shortest decimal texts

The decimal with the fewest digits that rounds back to a double, and of those
with equally few digits the one nearest to it; its text, with a power of ten only
for very small and very large values.
-/

set_option autoImplicit false

namespace Spreadsheet.Double

/-- The decimal `digits * 10 ^ exponent`. -/
structure Decimal where
  digits : Nat
  exponent : Int
deriving DecidableEq, Repr

/-- The number of digits of `units * 2 ^ -1074` before the decimal point; zero or
negative if the value is below one tenth. -/
def pointPosition (units : Nat) : Int :=
  (Text.decimal (units * Nat.pow 10 330 / one)).length - 330

/-- Whether the decimal rounds to the absolute value of the double. -/
def Decimal.readsBack (d : Decimal) (x : Double) : Bool :=
  (ofDecimal x.negative d.digits d.exponent) = x

/-- `num / den` with the power of ten moved into the fraction. -/
def scaled (units : Nat) (exponent : Int) : Nat × Nat :=
  match exponent with
  | .ofNat power => (units, one * Nat.pow 10 power)
  | .negSucc power => (units * Nat.pow 10 (power + 1), one)

/-- The decimals with the given exponent on both sides of the value, the nearer
one first; of two equally near ones the even one first. -/
def neighbours (units : Nat) (exponent : Int) : List Decimal :=
  let (num, den) := scaled units exponent
  let below := num / den
  if roundHalfEven num den = below then [⟨below, exponent⟩, ⟨below + 1, exponent⟩]
  else [⟨below + 1, exponent⟩, ⟨below, exponent⟩]

/-- The exact value as a decimal: halving is multiplying by five and dividing by
ten. -/
def exactDecimal (units : Nat) : Decimal := ⟨units * Nat.pow 5 1074, -1074⟩

/-- The decimal with `count` digits that reads back; of two the nearer one. -/
def readingBack? (x : Double) (count : Nat) : Option Decimal :=
  (neighbours x.units (pointPosition x.units - count)).find? (·.readsBack x)

/-- The first decimal that reads back, with `count` digits or more, up to
`count + more` digits; the exact value if there is none. -/
def searchDecimal (x : Double) : Nat → Nat → Decimal
  | 0, _ => exactDecimal x.units
  | more + 1, count => (x.readingBack? count).getD (searchDecimal x more (count + 1))

/-- The shortest decimal that reads back. Seventeen digits tell all doubles
apart. -/
def shortestDecimal (x : Double) : Decimal :=
  searchDecimal x 17 1

def Decimal.significant (d : Decimal) : List Char :=
  ((Text.decimal d.digits).reverse.dropWhile (· == '0')).reverse

/-- Where the decimal point stands, counted from the first digit. -/
def Decimal.position (d : Decimal) : Int :=
  (Text.decimal d.digits).length + d.exponent

/-- The exponent behind the digits: a sign and at least two digits. -/
def exponentText (e : Int) : List Char :=
  let digits := Text.decimal e.natAbs
  'e' :: (if e < 0 then '-' else '+') :: (if digits.length < 2 then '0' :: digits else digits)

/-- A positive decimal as text. A point always has digits on both sides; values
below `10 ^ -4` and from `10 ^ 16` on take a power of ten. -/
def Decimal.text (d : Decimal) : List Char :=
  let digits := d.significant
  let position := d.position
  if position ≤ -4 ∨ 16 < position then
    match digits with
    | [] => ['0']
    | [c] => c :: exponentText (position - 1)
    | c :: more => c :: '.' :: more ++ exponentText (position - 1)
  else if position ≤ 0 then
    ['0', '.'] ++ List.replicate position.natAbs '0' ++ digits
  else if digits.length ≤ position.natAbs then
    digits ++ List.replicate (position.natAbs - digits.length) '0' ++ ['.', '0']
  else digits.take position.natAbs ++ '.' :: digits.drop position.natAbs

/-- The text of a double: its sign and the shortest decimal, or a word. -/
def text (x : Double) : List Char :=
  if x.isNan then "nan".toList
  else
    (if x.negative then ['-'] else []) ++
    (if x.isInfinite then "inf".toList
    else if x.isZero then "0.0".toList
    else x.shortestDecimal.text)

end Spreadsheet.Double
