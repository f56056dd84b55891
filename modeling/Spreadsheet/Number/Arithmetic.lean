import Spreadsheet.Number.Rounding

/-!
# Arithmetic

The four operations and negation on doubles. Finite operands are combined
exactly and the result is rounded once.
-/

set_option autoImplicit false

namespace Spreadsheet.Double

def neg (x : Double) : Double := { x with negative := !x.negative }

/-- The sum. An exact sum of zero is negative only if both operands are. -/
def add (x y : Double) : Double :=
  if x.isNan || y.isNan then nan
  else if x.isInfinite then
    if y.isInfinite && x.negative != y.negative then nan else x
  else if y.isInfinite then y
  else
    let sum := x.signedUnits + y.signedUnits
    if sum = 0 then zero (x.negative && y.negative)
    else nearest (sum < 0) sum.natAbs 1

def sub (x y : Double) : Double := add x (neg y)

def mul (x y : Double) : Double :=
  let negative := x.negative != y.negative
  if x.isNan || y.isNan then nan
  else if x.isInfinite || y.isInfinite then
    if x.isZero || y.isZero then nan else infinity negative
  else nearest negative (x.units * y.units) one

def div (x y : Double) : Double :=
  let negative := x.negative != y.negative
  if x.isNan || y.isNan then nan
  else if x.isInfinite then
    if y.isInfinite then nan else infinity negative
  else if y.isInfinite then zero negative
  else nearest negative (x.units * one) y.units

end Spreadsheet.Double
