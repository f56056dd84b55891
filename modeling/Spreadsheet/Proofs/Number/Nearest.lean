import Mathlib.Algebra.Order.Field.Power
import Mathlib.Data.Rat.Cast.Order
import Mathlib.Tactic.Linarith
import Mathlib.Tactic.Positivity
import Spreadsheet.Proofs.Number.Place

/-! Doubles as exact rational numbers, given by their bits. Rounding finds the nearest of them, and
of two equally near ones the one with even bits; nothing else does. -/

set_option autoImplicit false

namespace Spreadsheet.Double

/-! ### Exact values -/

/-- The rational number that a sign, an exponent and a fraction field stand for. -/
def valueOfFields (sign exponent fraction : Nat) : ℚ :=
  (-1) ^ sign *
    if exponent = 0 then fraction * (2 : ℚ) ^ (-1074 : ℤ)
    else (2 ^ 52 + fraction) * (2 : ℚ) ^ (exponent - 1075 : ℤ)

/-- The exact value that the bits of a number stand for. Infinity has no fraction and the exponent
field behind the last finite one, so it counts as the number that would follow there. -/
def exact (x : Double) : ℚ :=
  valueOfFields (x.bits / 2 ^ 63) (x.bits / 2 ^ 52 % 2 ^ 11) (x.bits % 2 ^ 52)

theorem one_pos : (0 : ℚ) < one := by
  obtain ⟨bits, -, one_eq⟩ := exists_one_eq
  rw [one_eq]
  positivity

theorem two_zpow_eq (exponent : Nat) :
    (2 : ℚ) ^ (exponent - 1074 : ℤ) = 2 ^ exponent / one := by
  obtain ⟨bits, same, one_eq⟩ := exists_one_eq
  have cast : (1074 : ℤ) = bits := by rw [same]; rfl
  rw [cast, one_eq, zpow_sub₀ (by norm_num), zpow_natCast, zpow_natCast, Nat.cast_pow,
    Nat.cast_ofNat]

theorem valueOfFields_place (sign place : Nat) :
    valueOfFields sign (place / 2 ^ 52) (place % 2 ^ 52) =
      (-1) ^ sign * (placeUnits place / one) := by
  rw [valueOfFields]
  congr 1
  by_cases small : place < 2 ^ 52
  · have unit : (2 : ℚ) ^ (-1074 : ℤ) = 1 / one := (two_zpow_eq 0).trans (by rw [pow_zero])
    rw [if_pos (Nat.div_eq_of_lt small), placeUnits_of_lt small, Nat.mod_eq_of_lt small, unit,
      mul_one_div]
  · have large := Nat.le_of_not_lt small
    have step : 1 ≤ place / 2 ^ 52 := (Nat.one_le_div_iff (by decide)).2 large
    have exponent : ((place / 2 ^ 52 : Nat) : ℤ) - 1075 = (place / 2 ^ 52 - 1 : Nat) - 1074 := by
      omega
    rw [if_neg (Nat.one_le_iff_ne_zero.1 step), placeUnits_of_le large, exponent, two_zpow_eq]
    rw [Nat.cast_mul, Nat.cast_add, Nat.cast_pow, Nat.cast_pow, Nat.cast_ofNat, mul_div_assoc]

section Exact

variable {x y : Double}

theorem exact_eq (x : Double) : x.exact = (if x.negative then -1 else 1) * (x.units / one) := by
  obtain ⟨negative, place, bounded⟩ := x
  have bounded : place < 2 ^ 63 := bounded
  have exponent : place / 2 ^ 52 < 2 ^ 11 := by omega
  cases negative with
  | false =>
      have bits : bits ⟨false, place, bounded⟩ = place := Nat.zero_add place
      rw [exact, bits, Nat.mod_eq_of_lt exponent, valueOfFields_place, Nat.div_eq_of_lt bounded,
        pow_zero]
      rfl
  | true =>
      have bits : bits ⟨true, place, bounded⟩ = 2 ^ 63 + place := rfl
      have sign : (2 ^ 63 + place) / 2 ^ 63 = 1 := by omega
      have fields : (2 ^ 63 + place) / 2 ^ 52 % 2 ^ 11 = place / 2 ^ 52 := by omega
      have fraction : (2 ^ 63 + place) % 2 ^ 52 = place % 2 ^ 52 := by omega
      rw [exact, bits, sign, fields, fraction, valueOfFields_place, pow_one]
      rfl

theorem exact_of_unsigned (unsigned : x.negative = false) : x.exact = x.units / one := by
  rw [exact_eq, unsigned, if_neg Bool.false_ne_true, one_mul]

theorem exact_nonneg (unsigned : x.negative = false) : 0 ≤ x.exact := by
  rw [exact_of_unsigned unsigned]
  exact div_nonneg (Nat.cast_nonneg _) one_pos.le

theorem unsigned_of_exact (nonnegative : 0 ≤ x.exact) (other : x ≠ zero true) :
    x.negative = false := by
  rw [← Bool.not_eq_true]
  intro negative
  rw [exact_eq, negative, if_pos rfl, neg_one_mul, neg_nonneg, div_le_iff₀ one_pos, zero_mul]
    at nonnegative
  have none : placeUnits x.place = placeUnits 0 := Nat.le_zero.1 (by exact_mod_cast nonnegative)
  have place : x.place = 0 := strictMono_placeUnits.injective none
  obtain ⟨sign, place, bounded⟩ := x
  cases negative
  cases place
  exact other rfl

theorem exact_zero : (zero false).exact = 0 := by
  have none : (zero false).units = 0 := rfl
  rw [exact_of_unsigned rfl, none, Nat.cast_zero, zero_div]

theorem abs_exact (x : Double) : |x.exact| = x.units / one := by
  have size : |(x.units : ℚ) / one| = x.units / one :=
    abs_of_nonneg (div_nonneg (Nat.cast_nonneg _) one_pos.le)
  rw [exact_eq]
  split
  · rw [neg_one_mul, abs_neg, size]
  · rw [one_mul, size]

theorem isNan_eq_false_iff : x.isNan = false ↔ x.place ≤ infinityPlace := by
  rw [isNan, decide_eq_false_iff_not, Nat.not_lt]

theorem isNan_of_finite (finite : x.isFinite = true) : x.isNan = false :=
  isNan_eq_false_iff.2 (of_decide_eq_true finite).le

theorem exact_lt_iff (unsigned : x.negative = false) (other : y.negative = false) :
    x.exact < y.exact ↔ x.place < y.place := by
  rw [exact_of_unsigned unsigned, exact_of_unsigned other, div_lt_div_iff_of_pos_right one_pos,
    Nat.cast_lt]
  exact strictMono_placeUnits.lt_iff_lt

private theorem exact_inj (unsigned : x.negative = false) (other : y.negative = false) :
    x.exact = y.exact ↔ x = y := by
  constructor
  · intro same
    have place : x.place = y.place :=
      Nat.le_antisymm
        (Nat.not_lt.1 fun less => ((exact_lt_iff other unsigned).2 less).ne same.symm)
        (Nat.not_lt.1 fun less => ((exact_lt_iff unsigned other).2 less).ne same)
    obtain ⟨negative, place, bounded⟩ := x
    obtain ⟨otherNegative, otherPlace, otherBounded⟩ := y
    cases unsigned
    cases other
    cases place
    rfl
  · exact congrArg exact

end Exact

/-! ### Nearest numbers -/

section Distance

variable {q a b : ℚ}

theorem abs_sub_le_iff_of_lt (less : a < b) : |q - a| ≤ |q - b| ↔ 2 * q ≤ a + b := by
  have difference : (q - a) ^ 2 - (q - b) ^ 2 = (b - a) * (2 * q - (a + b)) := by ring
  rw [← sq_le_sq, ← not_lt, ← sub_pos, difference, mul_pos_iff_of_pos_left (sub_pos.2 less),
    sub_pos, not_lt]

theorem abs_sub_le_iff_of_gt (less : b < a) : |q - a| ≤ |q - b| ↔ a + b ≤ 2 * q := by
  have difference : (q - a) ^ 2 - (q - b) ^ 2 = (a - b) * (a + b - 2 * q) := by ring
  rw [← sq_le_sq, ← not_lt, ← sub_pos, difference, mul_pos_iff_of_pos_left (sub_pos.2 less),
    sub_pos, not_lt]

/-- Two numbers are equally near to their midpoint alone. -/
theorem abs_sub_eq_iff_of_ne (other : a ≠ b) : |q - a| = |q - b| ↔ 2 * q = a + b := by
  rcases lt_or_gt_of_ne other with less | less
  · rw [le_antisymm_iff, abs_sub_le_iff_of_lt less, abs_sub_le_iff_of_gt less, le_antisymm_iff,
      add_comm b a]
  · rw [le_antisymm_iff, abs_sub_le_iff_of_gt less, abs_sub_le_iff_of_lt less, le_antisymm_iff,
      add_comm b a, and_comm]

end Distance

/-- No number is nearer to `q`, and the bits are even if another one is equally near. -/
structure Nearest (q : ℚ) (x : Double) : Prop where
  number : x.isNan = false
  least : ∀ y : Double, y.isNan = false → |q - x.exact| ≤ |q - y.exact|
  even : ∀ y : Double, y.isNan = false → y.exact ≠ x.exact → |q - x.exact| = |q - y.exact| →
    x.bits % 2 = 0

section Nearest

variable {q : ℚ} {x y : Double}

/-- For a nearest number without a sign only the places count. -/
theorem nearest_of_places (unsigned : x.negative = false) (number : x.isNan = false) (size : 0 ≤ q)
    (places : ∀ place ≤ infinityPlace, place ≠ x.place →
      |q - x.exact| ≤ |q - placeUnits place / one| ∧
        (|q - x.exact| = |q - placeUnits place / one| → x.place % 2 = 0)) :
    Nearest q x := by
  have bits : x.bits = x.place := by
    rw [bits, unsigned, if_neg Bool.false_ne_true, Nat.zero_add]
  -- Without its sign, a number is no further away.
  have closer (y : Double) : |q - placeUnits y.place / one| ≤ |q - y.exact| := by
    have apart := abs_abs_sub_abs_le q y.exact
    rwa [abs_of_nonneg size, abs_exact] at apart
  have least (y : Double) (other : y.isNan = false) : |q - x.exact| ≤ |q - y.exact| := by
    refine le_trans ?_ (closer y)
    by_cases same : y.place = x.place
    · rw [same, exact_of_unsigned unsigned, units]
    · exact (places y.place (isNan_eq_false_iff.1 other) same).1
  refine ⟨number, least, fun y other differs tie => ?_⟩
  rw [bits]
  by_cases same : y.place = x.place
  · -- The number with the other sign is equally near to zero alone, which is its own negative.
    exfalso
    have opposite : y.exact = -x.exact := by
      have size := abs_exact y
      rw [units, same, ← units, ← abs_exact x] at size
      exact (abs_eq_abs.1 size).resolve_left differs
    have nonneg := exact_nonneg unsigned
    have zero := least (zero false) (by decide)
    rw [exact_zero, sub_zero, abs_of_nonneg size, tie, opposite, sub_neg_eq_add,
      abs_of_nonneg (add_nonneg size nonneg)] at zero
    exact differs (by linarith)
  · have bound := places y.place (isNan_eq_false_iff.1 other) same
    exact bound.2 (le_antisymm bound.1 ((closer y).trans tie.symm.le))

private theorem nearest_nearest (num : Nat) {den : Nat} (positive : 0 < den) :
    Nearest (num / den / one : ℚ) (nearest false num den) := by
  have bounded : nearestPlace num den ≤ infinityPlace := Nat.min_le_right _ _
  have fits : nearestPlace num den < Nat.pow 2 63 := bounded.trans_lt (by decide)
  have value : nearest false num den = ⟨false, nearestPlace num den, fits⟩ := dif_pos fits
  have den_pos : (0 : ℚ) < den := Nat.cast_pos.2 positive
  have twice : 2 * (num / den / one : ℚ) = (2 * num : Nat) / den / one := by
    rw [Nat.cast_mul, Nat.cast_ofNat, mul_div_assoc, mul_div_assoc]
  have sum (a b : Nat) : (a / one + b / one : ℚ) = (a + b : Nat) / one := by
    rw [Nat.cast_add, add_div]
  have apart {a b : Nat} (less : a < b) : (placeUnits a / one : ℚ) < placeUnits b / one :=
    (div_lt_div_iff_of_pos_right one_pos).2 (Nat.cast_lt.2 (strictMono_placeUnits less))
  obtain ⟨before, behind⟩ := nearestPlace_spec num positive
  rw [value]
  have size : (0 : ℚ) ≤ num / den / one :=
    div_nonneg (div_nonneg (Nat.cast_nonneg _) den_pos.le) one_pos.le
  refine nearest_of_places rfl (isNan_eq_false_iff.2 bounded) size fun place within differs => ?_
  rw [exact_of_unsigned rfl, units]
  dsimp only at differs ⊢
  rcases lt_or_gt_of_ne differs with less | less
  · rw [abs_sub_le_iff_of_gt (apart less), abs_sub_eq_iff_of_ne (apart less).ne', twice, sum,
      div_le_div_iff_of_pos_right one_pos, le_div_iff₀ den_pos, div_left_inj' one_pos.ne',
      div_eq_iff den_pos.ne']
    exact_mod_cast before place less
  · rw [abs_sub_le_iff_of_lt (apart less), abs_sub_eq_iff_of_ne (apart less).ne, twice, sum,
      div_le_div_iff_of_pos_right one_pos, div_le_iff₀ den_pos, div_left_inj' one_pos.ne',
      div_eq_iff den_pos.ne']
    exact_mod_cast behind place less within

theorem nearest_exact (number : x.isNan = false) : Nearest x.exact x := by
  refine ⟨number, fun y _ => ?_, fun y _ differs tie => ?_⟩
  · rw [sub_self, abs_zero]
    exact abs_nonneg _
  · rw [sub_self, abs_zero] at tie
    exact absurd (sub_eq_zero.1 (abs_eq_zero.1 tie.symm)).symm differs

/-- What lies between two numbers that round to the same one rounds to it too. -/
theorem Nearest.between {low high : ℚ} (below : Nearest low x) (above : Nearest high x)
    (lower : low ≤ q) (upper : q ≤ high) : Nearest q x := by
  have least (y : Double) (other : y.isNan = false) : |q - x.exact| ≤ |q - y.exact| := by
    rcases lt_trichotomy x.exact y.exact with less | same | less
    · have bound := (abs_sub_le_iff_of_lt less).1 (above.least y other)
      exact (abs_sub_le_iff_of_lt less).2 (by linarith)
    · rw [same]
    · have bound := (abs_sub_le_iff_of_gt less).1 (below.least y other)
      exact (abs_sub_le_iff_of_gt less).2 (by linarith)
  refine ⟨below.number, least, fun y other differs tie => ?_⟩
  rw [abs_sub_eq_iff_of_ne differs.symm] at tie
  -- A midpoint is as far as a number reaches, so it is one of the two ends.
  rcases lt_or_gt_of_ne differs with less | less
  · have bound := (abs_sub_le_iff_of_gt less).1 (below.least y other)
    exact below.even y other differs ((abs_sub_eq_iff_of_ne differs.symm).2 (by linarith))
  · have bound := (abs_sub_le_iff_of_lt less).1 (above.least y other)
    exact above.even y other differs ((abs_sub_eq_iff_of_ne differs.symm).2 (by linarith))

/-- Two numbers that are equally near are next to each other, so that one of them is odd. -/
theorem Nearest.exact_le (near : Nearest q x) (alike : Nearest q y) (unsigned : x.negative = false)
    (other : y.negative = false) : y.exact ≤ x.exact := by
  by_contra greater
  have less := not_le.1 greater
  have tie := le_antisymm (near.least y alike.number) (alike.least x near.number)
  have even := near.even y alike.number less.ne' tie
  have otherEven := alike.even x near.number less.ne tie.symm
  rw [bits, unsigned, if_neg Bool.false_ne_true, Nat.zero_add] at even
  rw [bits, other, if_neg Bool.false_ne_true, Nat.zero_add] at otherEven
  have places := (exact_lt_iff unsigned other).1 less
  have between : x.place + 1 < y.place := by omega
  let middle : Double := ⟨false, x.place + 1, between.trans y.place_lt⟩
  have number : middle.isNan = false :=
    isNan_eq_false_iff.2 (between.le.trans (isNan_eq_false_iff.1 alike.number))
  have low : x.exact < middle.exact := (exact_lt_iff unsigned rfl).2 (Nat.lt_succ_self _)
  have high : middle.exact < y.exact := (exact_lt_iff rfl other).2 between
  have bound := (abs_sub_le_iff_of_lt low).1 (near.least middle number)
  rw [abs_sub_eq_iff_of_ne less.ne] at tie
  linarith

theorem Nearest.unique (near : Nearest q x) (alike : Nearest q y) (unsigned : x.negative = false)
    (other : y.negative = false) : x = y :=
  (exact_inj unsigned other).1
    (le_antisymm (alike.exact_le near other unsigned) (near.exact_le alike unsigned other))

/-- What is less than half the least step away from a number rounds to it. -/
theorem nearest_of_close (unsigned : x.negative = false) (number : x.isNan = false) (size : 0 ≤ q)
    (close : 2 ^ 54 * |q - x.exact| < x.exact) : Nearest q x := by
  refine nearest_of_places unsigned number size fun place within differs => ?_
  have gap : x.exact ≤ 2 ^ 53 * |x.exact - placeUnits place / one| := by
    have steps : (x.units : ℚ) ≤ 2 ^ 53 * |(x.units : ℚ) - placeUnits place| := by
      rcases lt_or_gt_of_ne differs with less | less
      · have gap : (2 ^ 53 * placeUnits place + x.units : ℚ) ≤ 2 ^ 53 * x.units := by
          exact_mod_cast placeUnits_gap less
        have apart := le_abs_self ((x.units : ℚ) - placeUnits place)
        linarith
      · have gap : (2 ^ 53 * x.units + placeUnits place : ℚ) ≤ 2 ^ 53 * placeUnits place := by
          exact_mod_cast placeUnits_gap less
        have apart := neg_le_abs ((x.units : ℚ) - placeUnits place)
        linarith
    rw [exact_of_unsigned unsigned, ← sub_div, abs_div, abs_of_pos one_pos, ← mul_div_assoc]
    exact (div_le_div_iff_of_pos_right one_pos).2 steps
  have triangle := abs_sub_le x.exact q (placeUnits place / one)
  rw [abs_sub_comm x.exact q] at triangle
  have nearer : |q - x.exact| < |q - placeUnits place / one| := by linarith
  exact ⟨nearer.le, fun tie => absurd tie nearer.ne⟩

end Nearest

/-! ### Reading decimals -/

namespace Decimal

def exact (d : Decimal) : ℚ := d.digits * (10 : ℚ) ^ d.exponent

theorem nearest_exact (d : Decimal) : Nearest d.exact (ofDecimal false d.digits d.exponent) := by
  by_cases blank : d.digits = 0
  · have zero : ofDecimal false d.digits d.exponent = zero false := if_pos blank
    have none : d.exact = (Double.zero false).exact := by
      rw [exact, blank, Nat.cast_zero, zero_mul, exact_zero]
    rw [zero, none]
    exact Double.nearest_exact (by decide)
  · have quotient : ((d.digits * 10 ^ d.exponent.toNat * one : Nat) /
        (10 ^ (-d.exponent).toNat : Nat) / one : ℚ) = d.exact := by
      have parts : d.exponent = d.exponent.toNat - (-d.exponent).toNat := by omega
      rw [exact]
      nth_rewrite 3 [parts]
      rw [zpow_sub₀ (by norm_num), zpow_natCast, zpow_natCast, Nat.cast_mul, Nat.cast_mul,
        Nat.cast_pow, Nat.cast_pow, Nat.cast_ofNat, div_right_comm, mul_div_cancel_right₀ _
        one_pos.ne', mul_div_assoc]
    rw [ofDecimal_eq_nearest false blank, ← quotient]
    exact nearest_nearest _ (Nat.pow_pos (by decide))

end Decimal

end Spreadsheet.Double
