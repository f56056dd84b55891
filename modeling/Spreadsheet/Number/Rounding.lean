import Spreadsheet.Number.Double

/-!
# Rounding

Quotients of whole numbers rounded to whole numbers and to doubles: to the
nearest, and of two equally near to the even one.
-/

set_option autoImplicit false

namespace Spreadsheet

/-- The whole number nearest to `num / den`; of two equally near the even one. -/
def roundHalfEven (num den : Nat) : Nat :=
  let whole := num / den
  let twice := 2 * (num % den)
  if twice < den then whole
  else if den < twice then whole + 1
  else if whole % 2 = 0 then whole else whole + 1

namespace Double

/-- The place of the double nearest to `num / den` units. With 53 significant
bits, `2 ^ shift` units are one step of the doubles around the quotient. -/
def nearestPlace (num den : Nat) : Nat :=
  let shift := Nat.log2 (num / den) - 52
  min (shift * Nat.pow 2 52 + roundHalfEven num (den * Nat.pow 2 shift)) infinityPlace

/-- The double nearest to `num / den` units, with the given sign. What lies half
a step or more beyond the greatest finite double becomes infinity. -/
def nearest (negative : Bool) (num den : Nat) : Double :=
  ofPlace negative (nearestPlace num den)

/-- The double nearest to `digits * 10 ^ exponent`, with the given sign. Far out of
range the answer is known without writing out the power of ten. -/
def ofDecimal (negative : Bool) (digits : Nat) (exponent : Int) : Double :=
  if digits = 0 then zero negative
  else if 400 < exponent then infinity negative
  else if exponent < -(Nat.log2 digits + 400 : Int) then zero negative
  else match exponent with
    | .ofNat power => nearest negative (digits * Nat.pow 10 power * one) 1
    | .negSucc power => nearest negative (digits * one) (Nat.pow 10 (power + 1))

end Double

end Spreadsheet
