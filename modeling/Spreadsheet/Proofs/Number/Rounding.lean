import Mathlib.Tactic.Common
import Mathlib.Tactic.Ring
import Spreadsheet.Number.Shortest

/-! Rounding depends on the quotient alone and leaves a double as it is. A decimal is
rounded from its exact fraction, also where the code answers without writing it out. -/

set_option autoImplicit false

namespace Spreadsheet

private theorem roundHalfEven_mul {k : Nat} (positive : 0 < k) (num den : Nat) :
    roundHalfEven (k * num) (k * den) = roundHalfEven num den := by
  have twice : 2 * (k * (num % den)) = k * (2 * (num % den)) := by ring
  simp only [roundHalfEven, Nat.mul_div_mul_left _ _ positive, Nat.mul_mod_mul_left, twice,
    Nat.mul_lt_mul_left positive]

theorem roundHalfEven_mul_self (whole : Nat) {den : Nat} (positive : 0 < den) :
    roundHalfEven (whole * den) den = whole := by
  simp only [roundHalfEven, Nat.mul_mod_left, Nat.mul_div_cancel _ positive, Nat.mul_zero,
    if_pos positive]

private theorem roundHalfEven_of_lt {num den : Nat} (small : 2 * num < den) :
    roundHalfEven num den = 0 := by
  have below : num < den := by omega
  simp only [roundHalfEven, Nat.mod_eq_of_lt below, Nat.div_eq_of_lt below, if_pos small]

namespace Double

/-! ### The nearest place -/

theorem nearestPlace_mul {k : Nat} (positive : 0 < k) (num den : Nat) :
    nearestPlace (k * num) (k * den) = nearestPlace num den := by
  simp only [nearestPlace, Nat.mul_div_mul_left _ _ positive, Nat.mul_assoc,
    roundHalfEven_mul positive]

/-- Equal quotients have the same nearest place. -/
theorem nearestPlace_congr {num den others other : Nat} (positive : 0 < den)
    (otherPositive : 0 < other) (same : num * other = others * den) :
    nearestPlace num den = nearestPlace others other := by
  rw [← nearestPlace_mul otherPositive, ← nearestPlace_mul positive others, Nat.mul_comm other num,
    same, Nat.mul_comm others, Nat.mul_comm other]

theorem placeUnits_of_lt {place : Nat} (small : place < 2 ^ 52) : placeUnits place = place :=
  if_pos small

theorem placeUnits_of_le {place : Nat} (large : 2 ^ 52 ≤ place) :
    placeUnits place = (2 ^ 52 + place % 2 ^ 52) * 2 ^ (place / 2 ^ 52 - 1) :=
  if_neg (Nat.not_lt.2 large)

/-- A double is its own nearest double. -/
theorem nearestPlace_placeUnits {place den : Nat} (finite : place < infinityPlace)
    (positive : 0 < den) : nearestPlace (placeUnits place * den) den = place := by
  have pow : Nat.pow 2 52 = 2 ^ 52 := rfl
  rw [nearestPlace, Nat.mul_div_cancel _ positive]
  by_cases small : place < 2 ^ 52
  · have shift : Nat.log2 place - 52 = 0 := by
      by_cases zero : place = 0
      · rw [zero]
        rfl
      · have := (Nat.log2_lt zero).2 small
        omega
    simp only [placeUnits_of_lt small, shift, Nat.zero_mul, Nat.zero_add, Nat.pow_eq, Nat.pow_zero,
      Nat.mul_one, roundHalfEven_mul_self place positive]
    omega
  · have large : 2 ^ 52 ≤ place := Nat.le_of_not_lt small
    have step : 1 ≤ place / 2 ^ 52 := (Nat.one_le_div_iff (by decide)).2 large
    have below : place % 2 ^ 52 < 2 ^ 52 := Nat.mod_lt place (by decide)
    have whole := Nat.div_add_mod place (2 ^ 52)
    have log : Nat.log2 (placeUnits place) = 52 + (place / 2 ^ 52 - 1) := by
      rw [placeUnits_of_le large]
      refine (Nat.log2_eq_iff (Nat.mul_ne_zero (by omega) (Nat.two_pow_pos _).ne')).2 ⟨?_, ?_⟩
      · rw [Nat.pow_add]
        exact Nat.mul_le_mul_right _ (Nat.le_add_right _ _)
      · rw [Nat.add_right_comm, Nat.pow_add]
        exact Nat.mul_lt_mul_of_pos_right (by omega) (Nat.two_pow_pos _)
    have units : placeUnits place * den =
        (2 ^ 52 + place % 2 ^ 52) * (den * 2 ^ (place / 2 ^ 52 - 1)) := by
      rw [placeUnits_of_le large]
      ring
    rw [units, log, Nat.add_sub_cancel_left, Nat.pow_eq, Nat.pow_eq,
      roundHalfEven_mul_self _ (Nat.mul_pos positive (Nat.two_pow_pos _))]
    have place_eq : (place / 2 ^ 52 - 1) * 2 ^ 52 + (2 ^ 52 + place % 2 ^ 52) = place := by
      omega
    rw [place_eq]
    omega

private theorem nearestPlace_of_lt {num den : Nat} (small : 2 * num < den) :
    nearestPlace num den = 0 := by
  have below : num < den := by omega
  have log : Nat.log2 0 - 52 = 0 := rfl
  simp only [nearestPlace, Nat.div_eq_of_lt below, log, Nat.zero_mul, Nat.zero_add, Nat.pow_eq,
    Nat.pow_zero, Nat.mul_one, roundHalfEven_of_lt small, Nat.zero_min]

private theorem nearestPlace_of_le {bits num : Nat} (great : 2099 ≤ bits) (large : 2 ^ bits ≤ num) :
    nearestPlace num 1 = infinityPlace := by
  have log : bits ≤ Nat.log2 num :=
    (Nat.le_log2 (Nat.lt_of_lt_of_le (Nat.two_pow_pos bits) large).ne').2 large
  have shift : 2047 * 2 ^ 52 ≤ (Nat.log2 num - 52) * 2 ^ 52 := Nat.mul_le_mul_right _ (by omega)
  have infinity : infinityPlace = 2047 * 2 ^ 52 := rfl
  rw [nearestPlace, Nat.div_one, Nat.pow_eq, infinity]
  omega

/-! ### Decimals -/

theorem two_pow_le_ten_pow (n : Nat) : 2 ^ (3 * n) ≤ 10 ^ n := by
  rw [Nat.pow_mul]
  exact Nat.pow_le_pow_left (by decide) n

/-- The unit as a power with an exponent that nothing evaluates. -/
theorem exists_one_eq : ∃ bits, bits = 1074 ∧ one = 2 ^ bits := by
  unfold one
  generalize 1074 = bits
  exact ⟨bits, rfl, Nat.pow_eq⟩

private theorem infinity_eq_nearest (negative : Bool) {digits power : Nat} (filled : digits ≠ 0)
    (great : 400 < power) :
    infinity negative = nearest negative (digits * 10 ^ power * one) 1 := by
  obtain ⟨bits, wide, one_eq⟩ := exists_one_eq
  have large : 2 ^ (3 * power + bits) ≤ digits * 10 ^ power * one := calc
    2 ^ (3 * power + bits) = 2 ^ (3 * power) * 2 ^ bits := Nat.pow_add 2 _ _
    _ ≤ 10 ^ power * 2 ^ bits := Nat.mul_le_mul_right _ (two_pow_le_ten_pow power)
    _ ≤ digits * 10 ^ power * 2 ^ bits :=
      Nat.mul_le_mul_right _ (Nat.le_mul_of_pos_left _ (Nat.pos_of_ne_zero filled))
    _ = digits * 10 ^ power * one := by rw [one_eq]
  rw [nearest, nearestPlace_of_le (by omega) large, infinity]

private theorem zero_eq_nearest (negative : Bool) {digits power : Nat}
    (little : Nat.log2 digits + 400 < power) :
    zero negative = nearest negative (digits * one) (10 ^ power) := by
  obtain ⟨bits, wide, one_eq⟩ := exists_one_eq
  have small : 2 * (digits * one) < 10 ^ power := calc
    2 * (digits * one) = digits * 2 ^ (bits + 1) := by rw [one_eq, Nat.pow_succ]; ring
    _ < 2 ^ (Nat.log2 digits + 1) * 2 ^ (bits + 1) :=
      Nat.mul_lt_mul_of_pos_right Nat.lt_log2_self (Nat.two_pow_pos _)
    _ = 2 ^ (Nat.log2 digits + 1 + (bits + 1)) := (Nat.pow_add _ _ _).symm
    _ ≤ 2 ^ (3 * power) := Nat.pow_le_pow_right (by decide) (by omega)
    _ ≤ 10 ^ power := two_pow_le_ten_pow power
  rw [nearest, nearestPlace_of_lt small, zero]

/-- The answers for decimals far out of range are those of the exact fraction. -/
theorem ofDecimal_eq_nearest (negative : Bool) {digits : Nat} (filled : digits ≠ 0)
    (exponent : Int) :
    ofDecimal negative digits exponent =
      nearest negative (digits * 10 ^ exponent.toNat * one) (10 ^ (-exponent).toNat) := by
  unfold ofDecimal
  rw [if_neg filled]
  split
  · obtain ⟨power, rfl⟩ := Int.eq_ofNat_of_zero_le (by omega : 0 ≤ exponent)
    have none : (-(power : Int)).toNat = 0 := by omega
    rw [none, Int.toNat_natCast, Nat.pow_zero]
    exact infinity_eq_nearest negative filled (by omega)
  · split
    · rename_i little
      obtain ⟨power, rfl⟩ : ∃ power : Nat, exponent = -power := ⟨(-exponent).toNat, by omega⟩
      have none : (-(power : Int)).toNat = 0 := by omega
      rw [none, Int.neg_neg, Int.toNat_natCast, Nat.pow_zero, Nat.mul_one]
      exact zero_eq_nearest negative (by omega)
    · cases exponent with
      | ofNat power =>
          have none : (-Int.ofNat power).toNat = 0 := by simp
          dsimp only
          rw [none, Nat.pow_zero, Nat.pow_eq, Int.ofNat_eq_natCast, Int.toNat_natCast]
      | negSucc power =>
          have some : (-Int.negSucc power).toNat = power + 1 := rfl
          dsimp only
          rw [some, Nat.pow_eq, Int.toNat_negSucc, Nat.pow_zero, Nat.mul_one]

/-- Zeros at the end of the digits can be moved into the exponent. -/
theorem ofDecimal_mul_pow (negative : Bool) (digits k : Nat) (exponent : Int) :
    ofDecimal negative (digits * 10 ^ k) exponent = ofDecimal negative digits (exponent + k) := by
  by_cases blank : digits = 0
  · rw [blank, Nat.zero_mul]
    rfl
  · have filled : digits * 10 ^ k ≠ 0 := Nat.mul_ne_zero blank (Nat.pow_pos (by decide)).ne'
    have powers : k + exponent.toNat + (-(exponent + k)).toNat =
        (exponent + k).toNat + (-exponent).toNat := by omega
    have same : digits * 10 ^ k * 10 ^ exponent.toNat * one * 10 ^ (-(exponent + k)).toNat =
        digits * 10 ^ (exponent + k).toNat * one * 10 ^ (-exponent).toNat := calc
      _ = digits * one * 10 ^ (k + exponent.toNat + (-(exponent + k)).toNat) := by
        rw [Nat.pow_add, Nat.pow_add]
        ring
      _ = _ := by
        rw [powers, Nat.pow_add]
        ring
    rw [ofDecimal_eq_nearest negative filled, ofDecimal_eq_nearest negative blank, nearest,
      nearest, nearestPlace_congr (Nat.pow_pos (by decide)) (Nat.pow_pos (by decide)) same]

end Double

end Spreadsheet
