/-!
# Double precision numbers

The binary64 numbers as data: a sign and the place of the absolute value in the
order of all absolute values. Place 0 is zero, then come the finite values in
order, then infinity, then the values that are no number.

Every finite value is a whole number of units of `2 ^ -1074`, so arithmetic on
units is exact.
-/

set_option autoImplicit false

namespace Spreadsheet

/-- A binary64 number. `place` is its pattern of 64 bits without the sign. -/
structure Double where
  negative : Bool
  place : Nat
  place_lt : place < Nat.pow 2 63
deriving DecidableEq

namespace Double

def infinityPlace : Nat := 2047 * Nat.pow 2 52

/-- The number with a given sign and place; a place that is too great stands for
infinity. -/
def ofPlace (negative : Bool) (place : Nat) : Double :=
  if bounded : place < Nat.pow 2 63 then ⟨negative, place, bounded⟩
  else ⟨negative, infinityPlace, by decide⟩

def zero (negative : Bool) : Double := ofPlace negative 0

instance : Inhabited Double := ⟨zero false⟩

def infinity (negative : Bool) : Double := ofPlace negative infinityPlace

def nan : Double := ofPlace false (infinityPlace + Nat.pow 2 51)

def isFinite (x : Double) : Bool := x.place < infinityPlace

def isNan (x : Double) : Bool := infinityPlace < x.place

def isInfinite (x : Double) : Bool := x.place == infinityPlace

def isZero (x : Double) : Bool := x.place == 0

/-- The units of the finite value at a place. Below `2 ^ 53` places and units
agree; above, each run of `2 ^ 52` places doubles the step. -/
def placeUnits (place : Nat) : Nat :=
  if place < Nat.pow 2 52 then place
  else (Nat.pow 2 52 + place % Nat.pow 2 52) * Nat.pow 2 (place / Nat.pow 2 52 - 1)

def units (x : Double) : Nat := placeUnits x.place

def signedUnits (x : Double) : Int :=
  if x.negative then -(x.units : Int) else x.units

/-- How many units make one. -/
def one : Nat := Nat.pow 2 1074

def bits (x : Double) : Nat :=
  (if x.negative then Nat.pow 2 63 else 0) + x.place

end Double

end Spreadsheet
