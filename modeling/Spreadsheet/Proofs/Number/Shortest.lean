import Mathlib.Algebra.Order.Group.Pointwise.Interval
import Spreadsheet.Proofs.Number.Decimal
import Spreadsheet.Proofs.Number.Nearest

/-! The shortest decimal of a number is one of the decimals that round to it, none of which has
fewer digits; of those with as many digits none is nearer. Seventeen digits are always enough. -/

set_option autoImplicit false

namespace Spreadsheet.Double

theorem ten_zpow_pos (exponent : Int) : (0 : ℚ) < 10 ^ exponent := zpow_pos (by norm_num) _

theorem ten_zpow_le {low high : Int} (less : low ≤ high) : (10 : ℚ) ^ low ≤ 10 ^ high :=
  zpow_le_zpow_right₀ (by norm_num) less

theorem ten_zpow_sub_mul (position : Int) (count : Nat) :
    (10 : ℚ) ^ count * 10 ^ (position - count) = 10 ^ position := by
  rw [← zpow_natCast, ← zpow_add₀ (by norm_num)]
  congr 1
  omega

/-- Zeros at the end of the digits can be moved into the exponent. -/
theorem Decimal.exact_mul_pow (digits k : Nat) (exponent : Int) :
    exact ⟨digits * 10 ^ k, exponent⟩ = exact ⟨digits, exponent + k⟩ := by
  rw [exact, exact, zpow_add₀ (by norm_num), zpow_natCast, Nat.cast_mul, Nat.cast_pow,
    Nat.cast_ofNat]
  ring

private theorem Decimal.exact_succ (digits : Nat) (exponent : Int) :
    exact ⟨digits + 1, exponent⟩ = exact ⟨digits, exponent⟩ + 10 ^ exponent := by
  rw [exact, exact, Nat.cast_add, Nat.cast_one, add_mul, one_mul]

theorem Decimal.exact_le_iff {digits others : Nat} {exponent : Int} :
    exact ⟨digits, exponent⟩ ≤ exact ⟨others, exponent⟩ ↔ digits ≤ others := by
  rw [exact, exact, mul_le_mul_iff_left₀ (ten_zpow_pos _), Nat.cast_le]

/-- A decimal is worth as much as its digits before the point tell. -/
theorem Decimal.exact_bounds {d : Decimal} (filled : d.digits ≠ 0) :
    (10 : ℚ) ^ ((Text.decimal d.digits).length + d.exponent - 1) ≤ d.exact ∧
      d.exact < 10 ^ ((Text.decimal d.digits).length + d.exponent) := by
  have length : 0 < (Text.decimal d.digits).length := Nat.length_toDigits_pos
  have least : (10 ^ ((Text.decimal d.digits).length - 1) : ℚ) ≤ d.digits := by
    exact_mod_cast Text.pow_le_of_length_decimal (Nat.pos_of_ne_zero filled)
  have most : (d.digits : ℚ) < 10 ^ (Text.decimal d.digits).length := by
    exact_mod_cast Text.lt_pow_length_decimal d.digits
  have split : ((Text.decimal d.digits).length + d.exponent - 1 : Int) =
      ((Text.decimal d.digits).length - 1 : Nat) + d.exponent := by omega
  rw [split, zpow_add₀ (by norm_num), zpow_add₀ (by norm_num), zpow_natCast, zpow_natCast, exact]
  exact ⟨mul_le_mul_of_nonneg_right least (ten_zpow_pos _).le,
    mul_lt_mul_of_pos_right most (ten_zpow_pos _)⟩

/-- The position of the point, with the shift as one that nothing evaluates. -/
theorem exists_pointPosition_eq :
    ∃ shift : Nat, one ≤ 10 ^ shift ∧ ∀ units, pointPosition units =
      ((Text.decimal (units * 10 ^ shift / one)).length - shift : Int) := by
  have fits : one ≤ Nat.pow 10 330 := by decide +kernel
  have cast : (330 : Int) = (330 : Nat) := rfl
  unfold pointPosition
  rw [cast]
  generalize 330 = shift at fits
  exact ⟨shift, fits, fun _ => rfl⟩

/-- A value lies between the powers of ten that the position of its point tells. -/
theorem pointPosition_bounds {units : Nat} (positive : 0 < units) :
    (10 : ℚ) ^ (pointPosition units - 1) ≤ units / one ∧
      (units / one : ℚ) < 10 ^ pointPosition units := by
  obtain ⟨shift, fits, position⟩ := exists_pointPosition_eq
  have unit : 0 < one := Nat.cast_pos.1 one_pos
  have shift_pos : (0 : ℚ) < 10 ^ shift := pow_pos (by norm_num) _
  have filled : 0 < units * 10 ^ shift / one :=
    Nat.div_pos (fits.trans (Nat.le_mul_of_pos_left _ positive)) unit
  have length : 0 < (Text.decimal (units * 10 ^ shift / one)).length := Nat.length_toDigits_pos
  have least : 10 ^ ((Text.decimal (units * 10 ^ shift / one)).length - 1) * one ≤
      units * 10 ^ shift :=
    (Nat.le_div_iff_mul_le unit).1 (Text.pow_le_of_length_decimal filled)
  have most : units * 10 ^ shift < 10 ^ (Text.decimal (units * 10 ^ shift / one)).length * one :=
    (Nat.div_lt_iff_lt_mul unit).1 (Text.lt_pow_length_decimal _)
  rw [position]
  generalize (Text.decimal (units * 10 ^ shift / one)).length = count at length least most
  have before : (count - shift - 1 : Int) = (count - 1 : Nat) - shift := by omega
  rw [before, zpow_sub₀ (by norm_num), zpow_sub₀ (by norm_num), zpow_natCast, zpow_natCast,
    zpow_natCast, div_le_div_iff₀ shift_pos one_pos, div_lt_div_iff₀ one_pos shift_pos]
  exact ⟨by exact_mod_cast least, by exact_mod_cast most⟩

/-! ### Two decimals around a number -/

private theorem scaled_eq (units : Nat) (exponent : Int) :
    0 < (scaled units exponent).2 ∧
      ((scaled units exponent).1 / (scaled units exponent).2 : ℚ) =
        units / one / 10 ^ exponent := by
  have unit : 0 < one := Nat.cast_pos.1 one_pos
  cases exponent with
  | ofNat power =>
      have parts : scaled units (.ofNat power) = (units, one * 10 ^ power) := rfl
      have filled : 0 < one * 10 ^ power := Nat.mul_pos unit (Nat.pow_pos (by decide))
      rw [parts, Int.ofNat_eq_natCast, zpow_natCast, div_div]
      dsimp only
      rw [Nat.cast_mul, Nat.cast_pow, Nat.cast_ofNat]
      exact ⟨filled, rfl⟩
  | negSucc power =>
      have parts : scaled units (.negSucc power) = (units * 10 ^ (power + 1), one) := rfl
      rw [parts, zpow_negSucc, div_inv_eq_mul]
      dsimp only
      rw [Nat.cast_mul, Nat.cast_pow, Nat.cast_ofNat, mul_div_right_comm]
      exact ⟨unit, rfl⟩

/-- Two decimals around a value that follow each other among the decimals with one exponent, the
nearer one first. -/
structure Around (value : ℚ) (exponent : Int) (near far : Decimal) : Prop where
  half : 2 * |near.exact - value| ≤ 10 ^ exponent
  nearer : |near.exact - value| ≤ |far.exact - value|
  inside : ∀ digits : Nat, near.exact ∈ Set.uIcc (Decimal.exact ⟨digits, exponent⟩) value ∨
    far.exact ∈ Set.uIcc (Decimal.exact ⟨digits, exponent⟩) value
  bound : ∀ digits : Nat, value < Decimal.exact ⟨digits, exponent⟩ →
    near.digits ≤ digits ∧ far.digits ≤ digits

private theorem around_of_rest {value rest : ℚ} {exponent : Int} {below : Nat}
    (split : value = Decimal.exact ⟨below, exponent⟩ + rest) (nonneg : 0 ≤ rest)
    (small : rest < 10 ^ exponent) :
    (2 * rest ≤ 10 ^ exponent → Around value exponent ⟨below, exponent⟩ ⟨below + 1, exponent⟩) ∧
      (10 ^ exponent ≤ 2 * rest →
        Around value exponent ⟨below + 1, exponent⟩ ⟨below, exponent⟩) := by
  have step := Decimal.exact_succ below exponent
  have least : Decimal.exact ⟨below, exponent⟩ ≤ value := by linarith
  have most : value < Decimal.exact ⟨below + 1, exponent⟩ := by linarith
  have inside (digits : Nat) :
      Decimal.exact ⟨below, exponent⟩ ∈ Set.uIcc (Decimal.exact ⟨digits, exponent⟩) value ∨
        Decimal.exact ⟨below + 1, exponent⟩ ∈
          Set.uIcc (Decimal.exact ⟨digits, exponent⟩) value := by
    by_cases low : digits ≤ below
    · exact .inl (Set.mem_uIcc_of_le (Decimal.exact_le_iff.2 low) least)
    · exact .inr (Set.mem_uIcc_of_ge most.le (Decimal.exact_le_iff.2 (by omega)))
  have bound (digits : Nat) (above : value < Decimal.exact ⟨digits, exponent⟩) :
      below + 1 ≤ digits := by
    by_contra low
    have under : digits ≤ below := by omega
    exact absurd (Decimal.exact_le_iff.2 under) (not_le.2 (least.trans_lt above))
  have lower : |Decimal.exact ⟨below, exponent⟩ - value| = rest := by
    rw [abs_sub_comm, split, add_sub_cancel_left, abs_of_nonneg nonneg]
  have upper : |Decimal.exact ⟨below + 1, exponent⟩ - value| = 10 ^ exponent - rest := by
    rw [step, split, add_sub_add_left_eq_sub, abs_of_pos (sub_pos.2 small)]
  constructor
  · intro near
    refine ⟨by rwa [lower], by rw [lower, upper]; linarith, inside, fun digits above => ?_⟩
    exact ⟨Nat.le_of_succ_le (bound digits above), bound digits above⟩
  · intro near
    refine ⟨by rw [upper]; linarith, by rw [lower, upper]; linarith,
      fun digits => (inside digits).symm, fun digits above => ?_⟩
    exact ⟨bound digits above, Nat.le_of_succ_le (bound digits above)⟩

/-- Division with a remainder, on the decimals with one exponent. -/
theorem exists_rest (num : Nat) {den : Nat} (positive : 0 < den) (exponent : Int) :
    ∃ rest : ℚ, (num / den * 10 ^ exponent : ℚ) = Decimal.exact ⟨num / den, exponent⟩ + rest ∧
      0 ≤ rest ∧ rest < 10 ^ exponent ∧
      (2 * (num % den) ≤ den → 2 * rest ≤ 10 ^ exponent) ∧
      (den ≤ 2 * (num % den) → 10 ^ exponent ≤ 2 * rest) := by
  have den_pos : (0 : ℚ) < den := Nat.cast_pos.2 positive
  have whole : (num : ℚ) = den * (num / den : Nat) + (num % den : Nat) := by
    exact_mod_cast (Nat.div_add_mod num den).symm
  have part : (num % den : Nat) < den := Nat.mod_lt num positive
  generalize num % den = rest at whole part
  generalize num / den = below at whole
  have twice : 2 * ((rest / den : ℚ) * 10 ^ exponent) = (2 * rest : Nat) / den * 10 ^ exponent := by
    rw [Nat.cast_mul, Nat.cast_ofNat]
    ring
  have step := ten_zpow_pos exponent
  refine ⟨rest / den * 10 ^ exponent, ?_, ?_, ?_, fun near => ?_, fun near => ?_⟩
  · rw [whole, Decimal.exact, ← add_mul, add_div, mul_div_cancel_left₀ _ den_pos.ne']
  · exact mul_nonneg (div_nonneg (Nat.cast_nonneg _) den_pos.le) step.le
  · exact mul_lt_of_lt_one_left step ((div_lt_one den_pos).2 (Nat.cast_lt.2 part))
  · rw [twice]
    exact mul_le_of_le_one_left step.le ((div_le_one den_pos).2 (Nat.cast_le.2 near))
  · rw [twice]
    exact le_mul_of_one_le_left step.le ((one_le_div den_pos).2 (Nat.cast_le.2 near))

private theorem exists_around (units : Nat) (exponent : Int) :
    ∃ near far, neighbours units exponent = [near, far] ∧
      Around (units / one) exponent near far := by
  obtain ⟨den_pos, quotient⟩ := scaled_eq units exponent
  have parts : neighbours units exponent =
      if roundHalfEven (scaled units exponent).1 (scaled units exponent).2 =
          (scaled units exponent).1 / (scaled units exponent).2 then
        [⟨(scaled units exponent).1 / (scaled units exponent).2, exponent⟩,
          ⟨(scaled units exponent).1 / (scaled units exponent).2 + 1, exponent⟩]
      else [⟨(scaled units exponent).1 / (scaled units exponent).2 + 1, exponent⟩,
        ⟨(scaled units exponent).1 / (scaled units exponent).2, exponent⟩] := rfl
  rw [parts]
  generalize (scaled units exponent).1 = num at quotient ⊢
  generalize (scaled units exponent).2 = den at den_pos quotient ⊢
  obtain ⟨rest, split, nonneg, small, low, high⟩ := exists_rest num den_pos exponent
  rw [quotient, div_mul_cancel₀ _ (ten_zpow_pos _).ne'] at split
  obtain ⟨down, up⟩ := around_of_rest split nonneg small
  rcases roundHalfEven_cases num den with ⟨round, near, -⟩ | ⟨round, near, -⟩
  · exact ⟨_, _, if_pos round, down (low near)⟩
  · exact ⟨_, _, if_neg (by omega), up (high near)⟩

/-! ### Reading back -/

section ReadingBack

variable {x : Double} {d : Decimal} {count : Nat}

theorem readsBack_iff_nearest (unsigned : x.negative = false) :
    d.readsBack x = true ↔ Nearest d.exact x := by
  have nearest := d.nearest_exact
  have sign : (ofDecimal false d.digits d.exponent).negative = false :=
    congrArg negative (ofDecimal_unsigned false _ _)
  rw [readsBack_iff, unsigned]
  constructor
  · intro same
    rwa [same] at nearest
  · intro alike
    exact nearest.unique alike sign unsigned

/-- What lies between a number and what rounds to it rounds to it and is no further away. -/
theorem Nearest.inward {q middle : ℚ} (nearest : Nearest q x)
    (inside : middle ∈ Set.uIcc q x.exact) :
    Nearest middle x ∧ |middle - x.exact| ≤ |q - x.exact| := by
  constructor
  · rcases Set.mem_uIcc.1 inside with ⟨lower, upper⟩ | ⟨lower, upper⟩
    · exact nearest.between (nearest_exact nearest.number) lower upper
    · exact (nearest_exact nearest.number).between nearest lower upper
  · rw [abs_sub_comm middle, abs_sub_comm q]
    exact Set.abs_sub_right_of_mem_uIcc inside

theorem exists_readingBack_eq (unsigned : x.negative = false) (count : Nat) :
    ∃ near far, x.readingBack? count = [near, far].find? (·.readsBack x) ∧
      Around x.exact (pointPosition x.units - count) near far := by
  obtain ⟨near, far, pair, around⟩ := exists_around x.units (pointPosition x.units - count)
  rw [exact_of_unsigned unsigned]
  exact ⟨near, far, congrArg (List.find? _) pair, around⟩

/-- If a decimal on the grid of this many digits reads back, one is found there that is no further
away. -/
theorem exists_readingBack (unsigned : x.negative = false) {digits : Nat}
    (nearest : Nearest (Decimal.exact ⟨digits, pointPosition x.units - count⟩) x) :
    ∃ d, x.readingBack? count = some d ∧
      |d.exact - x.exact| ≤ |Decimal.exact ⟨digits, pointPosition x.units - count⟩ - x.exact| := by
  obtain ⟨near, far, search, around⟩ := exists_readingBack_eq unsigned count
  rw [search]
  by_cases reads : near.readsBack x = true
  · refine ⟨near, List.find?_cons_of_pos reads, ?_⟩
    rcases around.inside digits with inside | inside
    · exact (nearest.inward inside).2
    · exact around.nearer.trans (nearest.inward inside).2
  · rcases around.inside digits with inside | inside
    · exact absurd ((readsBack_iff_nearest unsigned).2 (nearest.inward inside).1) reads
    · have inward := nearest.inward inside
      have farReads := (readsBack_iff_nearest unsigned).2 inward.1
      have passed : [near, far].find? (·.readsBack x) = [far].find? (·.readsBack x) :=
        List.find?_cons_of_neg reads
      exact ⟨far, passed.trans (List.find?_cons_of_pos farReads), inward.2⟩

private theorem digits_le_of_readingBack (unsigned : x.negative = false) (filled : 0 < x.units)
    (found : x.readingBack? count = some d) : d.digits ≤ 10 ^ count := by
  obtain ⟨near, far, search, around⟩ := exists_readingBack_eq unsigned count
  have power : Decimal.exact ⟨10 ^ count, pointPosition x.units - count⟩ =
      10 ^ pointPosition x.units := by
    rw [Decimal.exact, Nat.cast_pow, Nat.cast_ofNat, ten_zpow_sub_mul]
  have above : x.exact < Decimal.exact ⟨10 ^ count, pointPosition x.units - count⟩ := by
    rw [power, exact_of_unsigned unsigned]
    exact (pointPosition_bounds filled).2
  have bound := around.bound _ above
  have member := List.mem_of_find?_eq_some (search.symm.trans found)
  rcases List.mem_cons.1 member with rfl | member
  · exact bound.1
  · rw [List.mem_singleton.1 member]
    exact bound.2

/-- Among decimals of seventeen digits the nearest one is too near for any other number. -/
theorem exists_readingBack_seventeen (unsigned : x.negative = false) (number : x.isNan = false)
    (filled : 0 < x.units) : ∃ d, x.readingBack? 17 = some d := by
  obtain ⟨near, far, search, around⟩ := exists_readingBack_eq unsigned 17
  have size := (pointPosition_bounds filled).1
  rw [← exact_of_unsigned unsigned] at size
  have grid : (10 : ℚ) ^ (pointPosition x.units - 1) =
      10 ^ 16 * 10 ^ (pointPosition x.units - (17 : Nat)) := by
    rw [← ten_zpow_sub_mul _ 16]
    congr 2
    omega
  have step := ten_zpow_pos (pointPosition x.units - (17 : Nat))
  have half := around.half
  rw [grid] at size
  have nonneg : 0 ≤ near.exact := mul_nonneg (Nat.cast_nonneg _) (ten_zpow_pos _).le
  have nearest := nearest_of_close unsigned number nonneg (by linarith)
  refine ⟨near, search.trans (List.find?_cons_of_pos ?_)⟩
  exact (readsBack_iff_nearest unsigned).2 nearest

/-- The search stops at the first count of digits at which a decimal reads back. -/
theorem searchDecimal_spec {more first : Nat}
    (ends : ∃ count, first ≤ count ∧ count < first + more ∧ x.readingBack? count ≠ none) :
    ∃ count, first ≤ count ∧ x.readingBack? count = some (searchDecimal x more first) ∧
      ∀ fewer, first ≤ fewer → fewer < count → x.readingBack? fewer = none := by
  induction more generalizing first with
  | zero =>
      obtain ⟨count, least, most, -⟩ := ends
      omega
  | succ more ih =>
      rw [searchDecimal]
      cases found : x.readingBack? first with
      | some d => exact ⟨first, Nat.le_refl _, found, fun fewer least most => by omega⟩
      | none =>
          have later : ∃ count, first + 1 ≤ count ∧ count < first + 1 + more ∧
              x.readingBack? count ≠ none := by
            obtain ⟨count, least, most, some⟩ := ends
            have other : first ≠ count := by
              rintro rfl
              exact some found
            exact ⟨count, by omega, by omega, some⟩
          obtain ⟨count, least, some, before⟩ := ih later
          refine ⟨count, by omega, some, fun fewer low high => ?_⟩
          by_cases start : fewer = first
          · rw [start, found]
          · exact before fewer (by omega) high

end ReadingBack

/-! ### Shortest decimals -/

namespace Decimal

private theorem significant_mul_pow {n : Nat} (positive : 0 < n) (k : Nat) (e other : Int) :
    significant ⟨n * 10 ^ k, e⟩ = significant ⟨n, other⟩ := by
  have zeros : ∀ c ∈ List.replicate k '0', (c == '0') = true := by
    intro c member
    rw [List.eq_of_mem_replicate member]
    rfl
  rw [significant, significant, Text.decimal_mul_pow positive, List.reverse_append,
    List.reverse_replicate, List.dropWhile_append_of_pos zeros]

section Reduced

variable {d : Decimal}

theorem decimal_reduced (filled : d.digits ≠ 0) :
    Text.decimal d.reduced.digits = d.significant := by
  obtain ⟨zeros, digits, value, -⟩ := d.exists_reduced
  have positive : 0 < d.reduced.digits := by
    refine Nat.pos_of_ne_zero fun none => filled ?_
    rw [value, none, Nat.zero_mul]
  rw [value, Text.decimal_mul_pow positive] at digits
  exact List.append_cancel_right digits

theorem exact_reduced (d : Decimal) : d.reduced.exact = d.exact := by
  obtain ⟨zeros, -, value, exponent⟩ := d.exists_reduced
  have parts : d.exact = exact ⟨d.reduced.digits * 10 ^ zeros, d.exponent⟩ := by rw [← value]
  rw [parts, exact_mul_pow, ← exponent]

private theorem length_reduced_le {count : Nat} (filled : d.digits ≠ 0) (some : 0 < count)
    (most : d.digits ≤ 10 ^ count) : (Text.decimal d.reduced.digits).length ≤ count := by
  rw [decimal_reduced filled]
  rcases Nat.lt_or_eq_of_le most with less | power
  · obtain ⟨zeros, digits⟩ := d.significant_append
    have short : (Text.decimal d.digits).length ≤ count :=
      (Nat.length_toDigits_le_iff (by decide) some).2 less
    rw [digits, List.length_append] at short
    omega
  · have single : d.significant = significant ⟨1, 0⟩ := by
      rw [← significant_mul_pow Nat.one_pos count d.exponent, Nat.one_mul, ← power]
    rw [single]
    exact some

end Reduced

/-- A decimal that reads as the number, with the fewest digits and as near as any with so few. -/
structure Shortest (d : Decimal) (x : Double) : Prop where
  reads : Nearest d.exact x
  fewest : ∀ other : Decimal, Nearest other.exact x →
    (Text.decimal d.digits).length ≤ (Text.decimal other.digits).length
  closest : ∀ other : Decimal, Nearest other.exact x →
    (Text.decimal other.digits).length = (Text.decimal d.digits).length →
      |d.exact - x.exact| ≤ |other.exact - x.exact|

end Decimal

section Shortest

variable {x : Double}

/-- A decimal that reads back is no nearer than one on the grid of as many digits or fewer. -/
theorem exists_on_grid (unsigned : x.negative = false) (positive : 0 < x.units) {other : Decimal}
    (filled : other.digits ≠ 0) (nearest : Nearest other.exact x) :
    ∃ count digits : Nat, 0 < count ∧ count ≤ (Text.decimal other.digits).length ∧
      Nearest (Decimal.exact ⟨digits, pointPosition x.units - count⟩) x ∧
      |Decimal.exact ⟨digits, pointPosition x.units - count⟩ - x.exact| ≤
        |other.exact - x.exact| := by
  have length : 0 < (Text.decimal other.digits).length := Nat.length_toDigits_pos
  have size := pointPosition_bounds positive
  have bounds := Decimal.exact_bounds filled
  rw [← exact_of_unsigned unsigned] at size
  generalize pointPosition x.units = position at size
  rcases lt_trichotomy (position : ℤ) ((Text.decimal other.digits).length + other.exponent) with
    less | same | less
  · -- The power of ten above the number lies between it and the decimal.
    have power : Decimal.exact ⟨10, position - (1 : Nat)⟩ = 10 ^ position := by
      rw [Decimal.exact, ← ten_zpow_sub_mul position 1, pow_one, Nat.cast_ofNat]
    have reached : 10 ^ position ≤ other.exact := (ten_zpow_le (by omega)).trans bounds.1
    have inside : (10 : ℚ) ^ position ∈ Set.uIcc other.exact x.exact :=
      Set.mem_uIcc_of_ge size.2.le reached
    refine ⟨1, 10, Nat.one_pos, length, ?_⟩
    rw [power]
    exact nearest.inward inside
  · have place : (position : ℤ) - (Text.decimal other.digits).length = other.exponent := by omega
    refine ⟨(Text.decimal other.digits).length, other.digits, length, Nat.le_refl _, ?_⟩
    rw [place]
    exact ⟨nearest, le_rfl⟩
  · have power : Decimal.exact ⟨1, position - (1 : Nat)⟩ = 10 ^ (position - 1) := by
      rw [Decimal.exact, Nat.cast_one, Nat.cast_one, one_mul]
    have reached : other.exact ≤ 10 ^ (position - 1) :=
      bounds.2.le.trans (ten_zpow_le (by omega))
    have inside : (10 : ℚ) ^ (position - 1) ∈ Set.uIcc other.exact x.exact :=
      Set.mem_uIcc_of_le reached size.1
    refine ⟨1, 1, Nat.one_pos, length, ?_⟩
    rw [power]
    exact nearest.inward inside

theorem Nearest.digits_ne_zero {d : Decimal} (nearest : Nearest d.exact x)
    (unsigned : x.negative = false) (positive : 0 < x.units) : d.digits ≠ 0 := by
  intro none
  have least := nearest.least (zero false) (by decide)
  have value : d.exact = 0 := by
    rw [Decimal.exact, none, Nat.cast_zero, zero_mul]
  have size : 0 < x.exact := by
    rw [exact_of_unsigned unsigned]
    exact div_pos (Nat.cast_pos.2 positive) one_pos
  rw [value, exact_zero, sub_self, abs_zero, zero_sub, abs_neg, abs_of_pos size] at least
  exact absurd size (not_lt.2 least)

private theorem exists_count (unsigned : x.negative = false) (number : x.isNan = false)
    (positive : 0 < x.units) :
    ∃ count, 0 < count ∧ x.readingBack? count = some x.shortestDecimal ∧
      ∀ fewer, 0 < fewer → fewer < count → x.readingBack? fewer = none := by
  obtain ⟨seventeen, enough⟩ := exists_readingBack_seventeen unsigned number positive
  have ends : ∃ count, 1 ≤ count ∧ count < 1 + 17 ∧ x.readingBack? count ≠ none := by
    refine ⟨17, by decide, by decide, ?_⟩
    rw [enough]
    exact Option.some_ne_none _
  exact searchDecimal_spec ends

/-- What reads back with so few digits stands on a grid that the search has reached. -/
theorem count_le_of_nearest (unsigned : x.negative = false) (positive : 0 < x.units)
    {count : Nat} {d other : Decimal} (found : x.readingBack? count = some d)
    (before : ∀ fewer, 0 < fewer → fewer < count → x.readingBack? fewer = none)
    (nearest : Nearest other.exact x) :
    count ≤ (Text.decimal other.digits).length ∧
      ((Text.decimal other.digits).length = count →
        |d.exact - x.exact| ≤ |other.exact - x.exact|) := by
  obtain ⟨fewer, digits, least, most, grid, nearer⟩ :=
    exists_on_grid unsigned positive (nearest.digits_ne_zero unsigned positive) nearest
  obtain ⟨e, gridFound, gridNearer⟩ := exists_readingBack unsigned grid
  have reached : count ≤ fewer := by
    by_contra small
    rw [before fewer least (not_le.1 small)] at gridFound
    cases gridFound
  refine ⟨reached.trans most, fun same => ?_⟩
  obtain rfl : fewer = count := by omega
  rw [found] at gridFound
  cases gridFound
  exact gridNearer.trans nearer

/-- The decimal that the search finds is shortest among all decimals. -/
theorem shortest_reduced (unsigned : x.negative = false) (number : x.isNan = false)
    (positive : 0 < x.units) : x.shortestDecimal.reduced.Shortest x := by
  obtain ⟨count, some, found, before⟩ := exists_count unsigned number positive
  generalize x.shortestDecimal = d at found
  have same := Decimal.exact_reduced d
  have reads : Nearest d.exact x :=
    (readsBack_iff_nearest unsigned).1 (readsBack_readingBack found)
  have short : (Text.decimal d.reduced.digits).length ≤ count :=
    Decimal.length_reduced_le (reads.digits_ne_zero unsigned positive) some
      (digits_le_of_readingBack unsigned positive found)
  rw [← same] at reads
  have own := count_le_of_nearest unsigned positive found before reads
  refine ⟨reads, fun other nearest => ?_, fun other nearest length => ?_⟩
  · exact short.trans (count_le_of_nearest unsigned positive found before nearest).1
  · rw [same]
    exact (count_le_of_nearest unsigned positive found before nearest).2 (by omega)

theorem nearest_shortestDecimal (unsigned : x.negative = false) (number : x.isNan = false)
    (positive : 0 < x.units) : Nearest x.shortestDecimal.exact x :=
  x.shortestDecimal.exact_reduced ▸ (shortest_reduced unsigned number positive).reads

end Shortest

end Spreadsheet.Double
