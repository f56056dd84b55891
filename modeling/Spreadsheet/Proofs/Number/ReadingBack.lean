import Spreadsheet.Proofs.Number.Literal
import Spreadsheet.Proofs.Number.Pattern
import Spreadsheet.Proofs.Number.Shortest

/-! The literal of a finite number without a sign is a numeral from end to end, and reads as the
number again. Whole numbers have all their digits, the others those of the shortest decimal. -/

set_option autoImplicit false

namespace Spreadsheet

/-! ### What a numeral is worth -/

/-- The exact value of a numeral. -/
def Numeral.exact (n : Numeral) : ℚ := n.decimal.exact

private theorem Numeral.nearest_value (n : Numeral) : Double.Nearest n.exact n.value :=
  n.decimal.nearest_exact

namespace Double

theorem WrittenAt.exact {n : Numeral} {d : Decimal}
    (written : WrittenAt n d.significant d.position) : n.exact = d.exact := by
  obtain ⟨leading, trailing, spelled, place, -⟩ := written.spelled
  have digits : n.decimal = ⟨d.reduced.digits * 10 ^ trailing, n.decimal.exponent⟩ := by
    rw [Numeral.decimal, spelled, Text.digitsValue_append_zeros, Text.digitsValue_zeros_append]
    rfl
  rw [Numeral.exact, digits, Decimal.exact_mul_pow, place, ← d.exact_reduced]
  rfl

/-! ### Whole numbers -/

section Whole

variable {x : Double}

theorem exact_eq_natCast_iff (unsigned : x.negative = false) {m : Nat} :
    x.exact = m ↔ x.units = m * one := by
  rw [exact_of_unsigned unsigned, div_eq_iff one_pos.ne']
  norm_cast

/-- A whole number of at most 53 bits can be shifted until it has as many. -/
theorem exists_shift {m : Nat} (filled : m ≠ 0) (small : m ≤ 2 ^ 53) :
    ∃ shift ≤ 52, 2 ^ 52 ≤ m * 2 ^ shift ∧ m * 2 ^ shift ≤ 2 ^ 53 := by
  by_cases great : 2 ^ 52 ≤ m
  · exact ⟨0, Nat.zero_le _, by omega, by omega⟩
  · have narrow : Nat.log2 m < 52 := (Nat.log2_lt filled).2 (not_le.1 great)
    have least : 2 ^ Nat.log2 m ≤ m := Nat.log2_self_le filled
    have most : m < 2 ^ (Nat.log2 m + 1) := Nat.lt_log2_self
    refine ⟨52 - Nat.log2 m, Nat.sub_le _ _, ?_, ?_⟩
    · calc 2 ^ 52
        _ = 2 ^ Nat.log2 m * 2 ^ (52 - Nat.log2 m) := by
          rw [← Nat.pow_add, Nat.add_sub_cancel' narrow.le]
        _ ≤ m * 2 ^ (52 - Nat.log2 m) := Nat.mul_le_mul_right _ least
    · have sum : Nat.log2 m + 1 + (52 - Nat.log2 m) = 53 := by omega
      calc m * 2 ^ (52 - Nat.log2 m)
        _ ≤ 2 ^ (Nat.log2 m + 1) * 2 ^ (52 - Nat.log2 m) := Nat.mul_le_mul_right _ most.le
        _ = 2 ^ 53 := by rw [← Nat.pow_add, sum]

/-- The whole numbers up to `2 ^ 53` are exact. -/
theorem exists_exact_eq {m : Nat} (small : m ≤ 2 ^ 53) :
    ∃ y : Double, y.negative = false ∧ y.isNan = false ∧ y.exact = m := by
  by_cases none : m = 0
  · exact ⟨zero false, rfl, by decide, by rw [none, exact_zero, Nat.cast_zero]⟩
  · obtain ⟨bits, same, one_eq⟩ := exists_one_eq
    obtain ⟨shift, narrow, full, most⟩ := exists_shift none small
    have sum : shift + (bits - shift) = bits := by omega
    have units : placeUnits ((bits - shift) * 2 ^ 52 + m * 2 ^ shift) = m * one := by
      rw [placeUnits_shift most (.inr full), Nat.mul_assoc, ← Nat.pow_add, sum, one_eq]
    have bounded : (bits - shift) * 2 ^ 52 + m * 2 ^ shift ≤ infinityPlace := by
      have last : infinityPlace = 2047 * 2 ^ 52 := rfl
      omega
    exact ⟨⟨false, _, bounded.trans_lt (by decide)⟩, rfl, isNan_eq_false_iff.2 bounded,
      (exact_eq_natCast_iff rfl).2 units⟩

/-- From `2 ^ 53` on all numbers are whole. -/
theorem exists_natCast_of_le (unsigned : x.negative = false) (large : 2 ^ 53 ≤ x.exact) :
    ∃ m : Nat, x.exact = m := by
  obtain ⟨bits, -, one_eq⟩ := exists_one_eq
  obtain ⟨shift, significand, place, small, full⟩ := exists_significand x.place
  have units : x.units = significand * 2 ^ shift := by
    rw [units, place, placeUnits_shift small.le full]
  rw [exact_of_unsigned unsigned, le_div_iff₀ one_pos] at large
  have large : 2 ^ 53 * 2 ^ bits ≤ significand * 2 ^ shift := by
    rw [← units, ← one_eq]
    exact_mod_cast large
  have wide : bits ≤ shift := by
    by_contra narrow
    have less : significand * 2 ^ shift < 2 ^ 53 * 2 ^ bits :=
      Nat.mul_lt_mul_of_lt_of_le small
        (Nat.pow_le_pow_right (by decide) (by omega)) (Nat.two_pow_pos _)
    omega
  refine ⟨significand * 2 ^ (shift - bits), (exact_eq_natCast_iff unsigned).2 ?_⟩
  rw [units, one_eq, Nat.mul_assoc, ← Nat.pow_add, Nat.sub_add_cancel wide]

theorem literal_of_whole (finite : x.isFinite = true) (unsigned : x.negative = false) {m : Nat}
    (whole : x.exact = m) : x.literal = Text.decimal m := by
  rw [exact_eq_natCast_iff unsigned] at whole
  have unit : 0 < one := Nat.cast_pos.1 one_pos
  rw [literal, if_pos (by simp [isWhole, finite, whole]), unsigned, whole,
    Nat.mul_div_cancel _ unit]
  rfl

private theorem length_decimal_of_finite (finite : x.isFinite = true) {m : Nat}
    (units : x.units = m * one) : (Text.decimal m).length ≤ 309 := by
  have most : placeUnits infinityPlace ≤ Nat.pow 10 309 * one := by decide +kernel
  have less : x.units < placeUnits infinityPlace :=
    strictMono_placeUnits (of_decide_eq_true finite)
  refine (Nat.length_toDigits_le_iff (by decide) (by decide)).2 ?_
  generalize 309 = count at most ⊢
  rw [units] at less
  exact Nat.lt_of_mul_lt_mul_right (less.trans_le most)

end Whole

/-! ### Other numbers -/

private theorem Decimal.exists_natCast {d : Decimal}
    (large : (d.significant.length : Int) ≤ d.position) :
    ∃ m : Nat, d.exact = m := by
  obtain ⟨zeros, same⟩ :=
    Int.eq_ofNat_of_zero_le (by omega : 0 ≤ d.position - d.significant.length)
  refine ⟨Text.digitsValue d.significant * 10 ^ zeros, ?_⟩
  rw [← d.exact_reduced, reduced, exact, same, zpow_natCast, Nat.cast_mul, Nat.cast_pow,
    Nat.cast_ofNat]

/-- A numeral with the digits of the shortest decimal, and with a power of ten only if that is
negative. -/
structure SpellsShortest (n : Numeral) (x : Double) : Prop where
  strict : n.Strict
  power : ∀ e ∈ n.exponent, e.value < 0
  digits : ∃ d : Decimal, d.Shortest x ∧ n.exact = d.exact ∧
    ∃ zeros, n.whole ++ n.fraction = List.replicate zeros '0' ++ Text.decimal d.digits

section Broken

variable {x : Double} (unsigned : x.negative = false) (broken : ∀ m : Nat, x.exact ≠ m)

include unsigned broken

theorem units_pos_of_broken : 0 < x.units := by
  refine Nat.pos_of_ne_zero fun none => broken 0 ?_
  rw [exact_of_unsigned unsigned, none, Nat.cast_zero, zero_div]

section Decimal

variable {d : Decimal} (nearest : Nearest d.exact x)

include nearest

theorem exact_lt_of_broken : d.exact < 2 ^ 53 := by
  have small : x.exact < 2 ^ 53 := by
    by_contra large
    obtain ⟨m, whole⟩ := exists_natCast_of_le unsigned (not_lt.1 large)
    exact broken m whole
  obtain ⟨y, -, number, value⟩ := exists_exact_eq (Nat.le_refl (2 ^ 53))
  have limit : y.exact = 2 ^ 53 := by rw [value, Nat.cast_pow, Nat.cast_ofNat]
  rw [← limit] at small
  have closer := (abs_sub_le_iff_of_lt small).1 (nearest.least y number)
  linarith

/-- A decimal that is whole reads as a whole number. -/
theorem exact_ne_natCast_of_broken (m : Nat) : d.exact ≠ m := by
  intro whole
  have small : m ≤ 2 ^ 53 := by
    have less := exact_lt_of_broken unsigned broken nearest
    rw [whole] at less
    exact_mod_cast less.le
  obtain ⟨y, sign, number, value⟩ := exists_exact_eq small
  have own := nearest_exact number
  rw [value, ← whole] at own
  rw [nearest.unique own unsigned sign] at broken
  exact broken m value

private theorem position_le_of_broken : d.position ≤ 16 := by
  by_contra far
  have filled := nearest.digits_ne_zero unsigned (units_pos_of_broken unsigned broken)
  have behind : 16 ≤ d.position - 1 := by omega
  have reached : (10 : ℚ) ^ (16 : Int) ≤ d.exact :=
    (ten_zpow_le behind).trans (Decimal.exact_bounds filled).1
  have less := exact_lt_of_broken unsigned broken nearest
  norm_num at reached less
  linarith

end Decimal

private theorem exists_writtenAt_of_broken (finite : x.isFinite = true) :
    ∃ n : Numeral, x.literal = n.text ∧
      WrittenAt n x.shortestDecimal.significant x.shortestDecimal.position ∧ n.Strict := by
  have positive := units_pos_of_broken unsigned broken
  have nearest := nearest_shortestDecimal unsigned (isNan_of_finite finite) positive
  have rest : x.units % one ≠ 0 := by
    intro whole
    refine broken (x.units / one) ((exact_eq_natCast_iff unsigned).2 ?_)
    exact (Nat.div_mul_cancel (Nat.dvd_of_mod_eq_zero whole)).symm
  have filled := isZero_of_units_pos positive
  obtain ⟨n, text, written, strict⟩ :=
    Decimal.exists_writtenAt (nearest.digits_ne_zero unsigned positive)
  refine ⟨n, ?_, written, strict⟩
  rw [literal, if_neg (by simp [isWhole, rest]), text_of_finite finite filled, unsigned,
    if_neg Bool.false_ne_true, List.nil_append, text]

/-- The numeral has the digits of the shortest decimal, behind zeros alone. -/
theorem spellsShortest_of_writtenAt (number : x.isNan = false) {n : Numeral} (strict : n.Strict)
    (written : WrittenAt n x.shortestDecimal.significant x.shortestDecimal.position) :
    SpellsShortest n x := by
  have positive := units_pos_of_broken unsigned broken
  have nearest := nearest_shortestDecimal unsigned number positive
  refine ⟨strict, fun e given => ?_, _, shortest_reduced unsigned number positive,
    written.exact.trans (Decimal.exact_reduced _).symm, ?_⟩
  · have power := written.power e given
    have bound := position_le_of_broken unsigned broken nearest
    omega
  · obtain ⟨leading, trailing, spelled, -, large⟩ := written.spelled
    have none : trailing = 0 := by
      by_contra some
      obtain ⟨m, whole⟩ := Decimal.exists_natCast (large (Nat.pos_of_ne_zero some))
      exact exact_ne_natCast_of_broken unsigned broken nearest m whole
    refine ⟨leading, ?_⟩
    rw [spelled, none, Decimal.decimal_reduced (nearest.digits_ne_zero unsigned positive)]
    exact List.append_nil _

end Broken

/-! ### Literals -/

/-- How a number stands in a formula: as a numeral that rounds to it and to no other number, with
every digit of a whole number, else with the digits of the shortest decimal. -/
structure PrintedAs (x : Double) (n : Numeral) : Prop where
  text : x.literal = n.text
  value : n.value = x
  nearest : Nearest n.exact x
  only : ∀ y : Double, y.negative = false → Nearest n.exact y → y = x
  whole : ∀ m : Nat, x.exact = m → x.literal = Text.decimal m ∧ (Text.decimal m).length ≤ 309
  broken : (∀ m : Nat, x.exact ≠ m) → SpellsShortest n x

section Literal

variable {x : Double}

private theorem exists_printedAs (finite : x.isFinite = true) (unsigned : x.negative = false) :
    ∃ n : Numeral, n.WellFormed ∧ PrintedAs x n := by
  obtain ⟨n, formed, text, value⟩ := exists_numeral_of_unsigned finite unsigned
  have nearest : Nearest n.exact x := value ▸ n.nearest_value
  refine ⟨n, formed, text, value, nearest, ?_, ?_, ?_⟩
  · intro y other alike
    exact alike.unique nearest other unsigned
  · intro m whole
    exact ⟨literal_of_whole finite unsigned whole,
      length_decimal_of_finite finite ((exact_eq_natCast_iff unsigned).1 whole)⟩
  · intro broken
    obtain ⟨m, other, written, strict⟩ := exists_writtenAt_of_broken unsigned broken finite
    obtain rfl := written.formed.eq_of_text formed (other.symm.trans text)
    exact spellsShortest_of_writtenAt unsigned broken (isNan_of_finite finite) strict written

/-- The literal of a finite number from zero on is matched by the pattern of numerals from end to
end and reads as this number again, so that no two of them have one literal. -/
theorem literal_reads_back (finite : x.isFinite = true) (nonnegative : 0 ≤ x.exact)
    (other : x ≠ zero true) :
    x.literal ∈ Numeral.pattern ∧ ofText? x.literal = some x ∧
      (∃ n, Numeral.scan? x.literal = some (n, []) ∧ PrintedAs x n) ∧
      ∀ y : Double, y.isFinite = true → 0 ≤ y.exact → y ≠ zero true → y.literal = x.literal →
        y = x := by
  have unsigned := unsigned_of_exact nonnegative other
  obtain ⟨n, formed, printed⟩ := exists_printedAs finite unsigned
  refine ⟨Numeral.mem_pattern_iff.2 ⟨n, formed, printed.text.symm⟩,
    ofText?_eq_some_iff.2 ⟨none, n, nofun, formed, printed.text, printed.value.symm⟩,
    ⟨n, ?_, printed⟩, fun y yFinite yNonnegative yOther same => ?_⟩
  · have scanned : Numeral.scan? (n.text ++ []) = some (n, []) :=
      Numeral.scan?_append_of_stops formed nofun
    rwa [List.append_nil, ← printed.text] at scanned
  · exact literal_inj (unsigned_of_exact yNonnegative yOther) unsigned (isNan_of_finite yFinite)
      (isNan_of_finite finite) same

/-- The least number has one digit, and a power of ten with a minus sign. -/
theorem literal_of_least_reads_back :
    (ofPlace false 1).isFinite = true ∧ 0 ≤ (ofPlace false 1).exact ∧
      ofPlace false 1 ≠ zero true ∧ (ofPlace false 1).literal = "5e-324".toList ∧
      "5e-324".toList ∈ Numeral.pattern ∧ ofText? "5e-324".toList = some (ofPlace false 1) := by
  have text : (ofPlace false 1).literal = "5e-324".toList := by decide +kernel
  have finite : (ofPlace false 1).isFinite = true := by decide
  have nonnegative : 0 ≤ (ofPlace false 1).exact := exact_nonneg (by decide)
  have other : ofPlace false 1 ≠ zero true := by decide
  have reads := literal_reads_back finite nonnegative other
  rw [text] at reads
  exact ⟨finite, nonnegative, other, text, reads.1, reads.2.1⟩

end Literal

end Double

end Spreadsheet
