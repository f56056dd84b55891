import Mathlib.Order.Monotone.Basic
import Spreadsheet.Proofs.Number.Rounding

/-! The units of the places grow from one to the next, and rounding answers with the place on the
nearer side of every midpoint between two of them. -/

set_option autoImplicit false

namespace Spreadsheet

/-! ### Rounding to whole numbers -/

/-- The rounded quotient is one of the two whole numbers around it, on the nearer side. -/
theorem roundHalfEven_cases (num den : Nat) :
    (roundHalfEven num den = num / den ∧ 2 * (num % den) ≤ den ∧
        (2 * (num % den) = den → num / den % 2 = 0)) ∨
      (roundHalfEven num den = num / den + 1 ∧ den ≤ 2 * (num % den) ∧
        (2 * (num % den) = den → (num / den + 1) % 2 = 0)) := by
  simp only [roundHalfEven]
  split
  · exact .inl ⟨rfl, by omega, by omega⟩
  · split
    · exact .inr ⟨rfl, by omega, by omega⟩
    · split
      · exact .inl ⟨rfl, by omega, by omega⟩
      · exact .inr ⟨rfl, by omega, by omega⟩

namespace Double

/-! ### The units at a place -/

/-- The units at a place, from a significand of at most 53 bits. -/
theorem placeUnits_shift {shift significand : Nat} (small : significand ≤ 2 ^ 53)
    (full : shift = 0 ∨ 2 ^ 52 ≤ significand) :
    placeUnits (shift * 2 ^ 52 + significand) = significand * 2 ^ shift := by
  by_cases below : shift * 2 ^ 52 + significand < 2 ^ 52
  · have shift_eq : shift = 0 := by omega
    rw [placeUnits_of_lt below, shift_eq, Nat.zero_mul, Nat.zero_add, Nat.pow_zero, Nat.mul_one]
  · rw [placeUnits_of_le (Nat.le_of_not_lt below)]
    by_cases last : significand = 2 ^ 53
    · have steps : (shift * 2 ^ 52 + significand) / 2 ^ 52 - 1 = shift + 1 := by omega
      have rest : (shift * 2 ^ 52 + significand) % 2 ^ 52 = 0 := by omega
      rw [steps, rest, last]
      ring
    · have steps : (shift * 2 ^ 52 + significand) / 2 ^ 52 - 1 = shift := by omega
      have rest : 2 ^ 52 + (shift * 2 ^ 52 + significand) % 2 ^ 52 = significand := by omega
      rw [steps, rest]

theorem exists_significand (place : Nat) :
    ∃ shift significand, place = shift * 2 ^ 52 + significand ∧ significand < 2 ^ 53 ∧
      (shift = 0 ∨ 2 ^ 52 ≤ significand) := by
  refine ⟨place / 2 ^ 52 - 1, place - (place / 2 ^ 52 - 1) * 2 ^ 52, ?_, ?_, ?_⟩ <;> omega

theorem strictMono_placeUnits : StrictMono placeUnits := by
  refine strictMono_nat_of_lt_succ fun place => ?_
  obtain ⟨shift, significand, rfl, small, full⟩ := exists_significand place
  rw [placeUnits_shift small.le full, Nat.add_assoc,
    placeUnits_shift small (full.imp_right Nat.le_succ_of_le)]
  exact Nat.mul_lt_mul_of_pos_right (Nat.lt_succ_self _) (Nat.two_pow_pos _)

/-- The step between two places is at least `2 ^ -53` of the greater one. -/
theorem placeUnits_gap {place greater : Nat} (less : place < greater) :
    2 ^ 53 * placeUnits place + placeUnits greater ≤ 2 ^ 53 * placeUnits greater := by
  have next : placeUnits (place + 1) ≤ placeUnits greater := strictMono_placeUnits.monotone less
  suffices step : 2 ^ 53 * placeUnits place ≤ (2 ^ 53 - 1) * placeUnits (place + 1) by omega
  obtain ⟨shift, significand, rfl, small, full⟩ := exists_significand place
  rw [placeUnits_shift small.le full, Nat.add_assoc,
    placeUnits_shift small (full.imp_right Nat.le_succ_of_le), ← Nat.mul_assoc, ← Nat.mul_assoc]
  exact Nat.mul_le_mul_right _ (by omega)

/-! ### The nearest place -/

/-- The significand of a quotient, with the bits behind its 53rd cut off. -/
theorem significand_bounds (whole : Nat) :
    whole / 2 ^ (Nat.log2 whole - 52) < 2 ^ 53 ∧
      (Nat.log2 whole - 52 = 0 ∨ 2 ^ 52 ≤ whole / 2 ^ (Nat.log2 whole - 52)) := by
  have less : whole < 2 ^ (Nat.log2 whole + 1) := Nat.lt_log2_self
  constructor
  · rw [Nat.div_lt_iff_lt_mul (Nat.two_pow_pos _), ← Nat.pow_add]
    exact less.trans_le (Nat.pow_le_pow_right (by decide) (by omega))
  · by_cases flat : Nat.log2 whole - 52 = 0
    · exact .inl flat
    · have filled : whole ≠ 0 := by
        intro none
        rw [none] at flat
        exact flat rfl
      right
      rw [Nat.le_div_iff_mul_le (Nat.two_pow_pos _), ← Nat.pow_add]
      exact (Nat.pow_le_pow_right (by decide) (by omega)).trans (Nat.log2_self_le filled)

/-- A quotient lies between the units of two places in a row, and the nearest place is the nearer
one of these two, if it is not beyond infinity. -/
theorem nearestPlace_cases (num : Nat) {den : Nat} (positive : 0 < den) :
    ∃ below, placeUnits below * den ≤ num ∧ num < placeUnits (below + 1) * den ∧
      ((nearestPlace num den = min below infinityPlace ∧
          2 * num ≤ (placeUnits below + placeUnits (below + 1)) * den ∧
          (2 * num = (placeUnits below + placeUnits (below + 1)) * den → below % 2 = 0)) ∨
        (nearestPlace num den = min (below + 1) infinityPlace ∧
          (placeUnits below + placeUnits (below + 1)) * den ≤ 2 * num ∧
          (2 * num = (placeUnits below + placeUnits (below + 1)) * den →
            (below + 1) % 2 = 0))) := by
  have rounded : nearestPlace num den =
      min ((Nat.log2 (num / den) - 52) * 2 ^ 52 +
        roundHalfEven num (den * 2 ^ (Nat.log2 (num / den) - 52))) infinityPlace := rfl
  have bounds := significand_bounds (num / den)
  rw [Nat.div_div_eq_div_mul] at bounds
  generalize Nat.log2 (num / den) - 52 = shift at rounded bounds
  have whole := Nat.div_add_mod num (den * 2 ^ shift)
  have within := Nat.mod_lt num (Nat.mul_pos positive (Nat.two_pow_pos shift))
  have cases := roundHalfEven_cases num (den * 2 ^ shift)
  generalize num / (den * 2 ^ shift) = significand at rounded bounds whole cases
  generalize num % (den * 2 ^ shift) = rest at whole within cases
  obtain ⟨small, full⟩ := bounds
  have low : placeUnits (shift * 2 ^ 52 + significand) * den = den * 2 ^ shift * significand := by
    rw [placeUnits_shift small.le full]
    ring
  have high : placeUnits (shift * 2 ^ 52 + significand + 1) * den =
      den * 2 ^ shift * significand + den * 2 ^ shift := by
    rw [Nat.add_assoc, placeUnits_shift small (full.imp_right Nat.le_succ_of_le), Nat.succ_mul]
    ring
  refine ⟨shift * 2 ^ 52 + significand, by omega, by omega, ?_⟩
  rw [Nat.add_mul, low, high]
  rcases cases with ⟨round, near, even⟩ | ⟨round, near, even⟩
  · rw [round] at rounded
    refine .inl ⟨rounded, by omega, fun tie => ?_⟩
    have := even (by omega)
    omega
  · rw [round, ← Nat.add_assoc] at rounded
    refine .inr ⟨rounded, by omega, fun tie => ?_⟩
    have := even (by omega)
    omega

/-- The nearest place is on the nearer side of every midpoint to another place, and even if it has
a midpoint with another place. -/
theorem nearestPlace_spec (num : Nat) {den : Nat} (positive : 0 < den) :
    (∀ place < nearestPlace num den,
        (placeUnits (nearestPlace num den) + placeUnits place) * den ≤ 2 * num ∧
          (2 * num = (placeUnits (nearestPlace num den) + placeUnits place) * den →
            nearestPlace num den % 2 = 0)) ∧
      ∀ place, nearestPlace num den < place → place ≤ infinityPlace →
        2 * num ≤ (placeUnits (nearestPlace num den) + placeUnits place) * den ∧
          (2 * num = (placeUnits (nearestPlace num den) + placeUnits place) * den →
            nearestPlace num den % 2 = 0) := by
  obtain ⟨below, low, high, pick⟩ := nearestPlace_cases num positive
  have less {place other : Nat} (before : place < other) :
      placeUnits place * den < placeUnits other * den :=
    Nat.mul_lt_mul_of_pos_right (strictMono_placeUnits before) positive
  have most {place other : Nat} (before : place ≤ other) :
      placeUnits place * den ≤ placeUnits other * den :=
    Nat.mul_le_mul_right _ (strictMono_placeUnits.monotone before)
  simp only [Nat.add_mul] at pick ⊢
  by_cases great : infinityPlace ≤ below
  · have place_eq : nearestPlace num den = infinityPlace := by omega
    rw [place_eq]
    have reached := most great
    refine ⟨fun place before => ?_, fun place behind bounded => absurd bounded (by omega)⟩
    have := less before
    omega
  · rcases pick with ⟨place_eq, near, even⟩ | ⟨place_eq, near, even⟩
    · have place_eq : nearestPlace num den = below := by omega
      rw [place_eq]
      refine ⟨fun place before => ?_, fun place behind _ => ?_⟩
      · have := less before
        omega
      · have reached : placeUnits (below + 1) * den ≤ placeUnits place * den := most behind
        exact ⟨by omega, fun tie => even (by omega)⟩
    · have place_eq : nearestPlace num den = below + 1 := by omega
      rw [place_eq]
      refine ⟨fun place before => ?_, fun place behind _ => ?_⟩
      · have := most (Nat.le_of_lt_succ before)
        exact ⟨by omega, fun tie => even (by omega)⟩
      · have := less behind
        omega

end Double

end Spreadsheet
