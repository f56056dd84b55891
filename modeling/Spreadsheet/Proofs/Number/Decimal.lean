import Mathlib.Data.List.DropRight
import Spreadsheet.Number.Display
import Spreadsheet.Proofs.Number.Numeral
import Spreadsheet.Proofs.Number.Rounding

/-! The text of a finite number is a strict numeral, behind a minus sign if the number is
negative, and the numeral has the number as its value. -/

set_option autoImplicit false

namespace Spreadsheet

/-- Digits of ASCII alone, no zero in front of other digits, a fraction behind every point, and
a fraction or a power of ten. -/
structure Numeral.Strict (n : Numeral) : Prop where
  whole : ∀ c ∈ n.whole, c.isDigit = true
  fraction : ∀ c ∈ n.fraction, c.isDigit = true
  exponent : ∀ e ∈ n.exponent, ∀ c ∈ e.digits, c.isDigit = true
  lead : n.whole = ['0'] ∨ (n.whole ≠ [] ∧ n.whole.head? ≠ some '0')
  point : n.point = !n.fraction.isEmpty
  broken : n.fraction ≠ [] ∨ n.exponent ≠ none

theorem Numeral.Strict.text_eq_cons {n : Numeral} (strict : n.Strict) :
    ∃ c tail, n.text = c :: tail ∧ c.isDigit = true := by
  have filled : n.whole ≠ [] := by
    rcases strict.lead with zero | ⟨filled, _⟩
    · rw [zero]
      exact List.cons_ne_nil '0' []
    · exact filled
  obtain ⟨first, digits, shape⟩ := List.exists_cons_of_ne_nil filled
  refine ⟨first, _, (congrArg (· ++ _ ++ _ ++ _) shape).trans rfl, ?_⟩
  exact strict.whole first (shape ▸ List.mem_cons_self)

theorem Numeral.Strict.ascii_or_sign {n : Numeral} (strict : n.Strict) (formed : n.WellFormed)
    {c : Char} (member : c ∈ n.text) : c.isDigit = true ∨ c ∈ ['.', 'e', 'E', '+', '-'] := by
  rcases formed.mem_text member with (digit | digit | ⟨e, written, digit⟩) | sign
  · exact .inl (strict.whole c digit)
  · exact .inl (strict.fraction c digit)
  · exact .inl (strict.exponent e written c digit)
  · exact .inr sign

/-- The decimal that a numeral writes. -/
def Numeral.decimal (n : Numeral) : Double.Decimal :=
  ⟨Text.digitsValue (n.whole ++ n.fraction),
    (n.exponent.map Exponent.value).getD 0 - n.fraction.length⟩

private theorem Numeral.value_eq (n : Numeral) :
    n.value = Double.ofDecimal false n.decimal.digits n.decimal.exponent := rfl

namespace Double

/-! ### Significant digits -/

namespace Decimal

/-- The significant digits and the zeros behind them are the digits of the decimal. -/
theorem significant_append (d : Decimal) :
    ∃ zeros, Text.decimal d.digits = d.significant ++ List.replicate zeros '0' := by
  have split : (Text.decimal d.digits).rdropWhile (· == '0') ++
      (Text.decimal d.digits).rtakeWhile (· == '0') = Text.decimal d.digits := by
    rw [List.rdropWhile, List.rtakeWhile, ← List.reverse_append,
      List.takeWhile_append_dropWhile, List.reverse_reverse]
  refine ⟨((Text.decimal d.digits).rtakeWhile (· == '0')).length, split.symm.trans ?_⟩
  refine congrArg (d.significant ++ ·) (List.eq_replicate_iff.2 ⟨rfl, fun c member => ?_⟩)
  have zero : (c == '0') = true := List.mem_rtakeWhile_imp (p := (· == '0')) member
  exact beq_iff_eq.1 zero

private theorem ascii_of_mem_significant {d : Decimal} {c : Char} (member : c ∈ d.significant) :
    c.isDigit = true := by
  obtain ⟨zeros, digits⟩ := d.significant_append
  refine Text.ascii_of_mem_decimal (n := d.digits) ?_
  rw [digits]
  exact List.mem_append_left _ member

theorem significant_ne_nil {d : Decimal} (filled : d.digits ≠ 0) : d.significant ≠ [] := by
  obtain ⟨zeros, digits⟩ := d.significant_append
  intro empty
  rw [empty] at digits
  have value := Text.digitsValue_append_zeros [] zeros
  rw [← digits, Text.digitsValue_decimal] at value
  exact filled (value.trans (Nat.zero_mul _))

private theorem head?_significant {d : Decimal} (filled : d.digits ≠ 0) :
    d.significant.head? ≠ some '0' := by
  obtain ⟨zeros, digits⟩ := d.significant_append
  have head := Text.head?_decimal (Nat.pos_of_ne_zero filled)
  rwa [digits, List.head?_append_of_ne_nil _ (significant_ne_nil filled)] at head

/-- The same decimal without zeros at the end of its digits. -/
def reduced (d : Decimal) : Decimal :=
  ⟨Text.digitsValue d.significant, d.position - d.significant.length⟩

theorem exists_reduced (d : Decimal) :
    ∃ zeros, Text.decimal d.digits = d.significant ++ List.replicate zeros '0' ∧
      d.digits = d.reduced.digits * 10 ^ zeros ∧ d.reduced.exponent = d.exponent + zeros := by
  obtain ⟨zeros, digits⟩ := d.significant_append
  refine ⟨zeros, digits, ?_, ?_⟩
  · rw [reduced, ← Text.digitsValue_append_zeros, ← digits, Text.digitsValue_decimal]
  · change d.position - d.significant.length = d.exponent + zeros
    rw [position, digits, List.length_append, List.length_replicate]
    omega

private theorem ofDecimal_reduced (d : Decimal) :
    ofDecimal false d.reduced.digits d.reduced.exponent = ofDecimal false d.digits d.exponent := by
  obtain ⟨zeros, -, digits, exponent⟩ := d.exists_reduced
  rw [exponent, ← ofDecimal_mul_pow, ← digits]

end Decimal

/-! ### Layouts -/

/-- The power of ten that a text gives an exponent. -/
def tenPower (e : Int) : Exponent where
  mark := 'e'
  sign := some (if e < 0 then '-' else '+')
  digits := (exponentText e).drop 2

theorem digits_tenPower (e : Int) :
    (tenPower e).digits = Text.decimal e.natAbs ∨
      (tenPower e).digits = '0' :: Text.decimal e.natAbs := by
  simp only [tenPower, exponentText, List.drop_succ_cons, List.drop_zero]
  split
  · exact .inr rfl
  · exact .inl rfl

theorem ascii_of_mem_tenPower {e : Int} {c : Char} (member : c ∈ (tenPower e).digits) :
    c.isDigit = true := by
  rcases digits_tenPower e with same | same
  · rw [same] at member
    exact Text.ascii_of_mem_decimal member
  · rw [same, List.mem_cons] at member
    rcases member with rfl | digit
    · rfl
    · exact Text.ascii_of_mem_decimal digit

private theorem wellFormed_tenPower (e : Int) : (tenPower e).WellFormed := by
  refine ⟨.inl rfl, ?_, ?_, ?_⟩
  · rintro c ⟨⟩
    split
    · exact .inr rfl
    · exact .inl rfl
  · rcases digits_tenPower e with same | same
    · rw [same]
      exact Nat.toDigits_ne_nil
    · rw [same]
      exact List.cons_ne_nil _ _
  · exact fun c member => Text.isDigit_of_ascii (ascii_of_mem_tenPower member)

theorem value_tenPower (e : Int) : (tenPower e).value = e := by
  have digits : Text.digitsValue (tenPower e).digits = e.natAbs := by
    rcases digits_tenPower e with same | same
    · rw [same, Text.digitsValue_decimal]
    · rw [same]
      exact Text.digitsValue_decimal e.natAbs
  rw [Exponent.value, digits]
  by_cases negative : e < 0
  · have minus : (tenPower e).sign = some '-' := by simp [tenPower, negative]
    rw [if_pos minus]
    omega
  · have plus : (tenPower e).sign ≠ some '-' := by simp [tenPower, negative]
    rw [if_neg plus]
    omega

/-- A numeral writes these digits with the point at this place, and with a power of ten only if the
point is far from them. -/
structure WrittenAt (n : Numeral) (digits : List Char) (position : Int) : Prop where
  formed : n.WellFormed
  spelled : ∃ leading trailing : Nat,
    n.whole ++ n.fraction = List.replicate leading '0' ++ digits ++ List.replicate trailing '0' ∧
      n.decimal.exponent + trailing = position - digits.length ∧
      (0 < trailing → (digits.length : Int) ≤ position)
  power : ∀ e ∈ n.exponent, e.value = position - 1 ∧ (position ≤ -4 ∨ 16 < position)

theorem WrittenAt.value {n : Numeral} {digits : List Char} {position : Int}
    (written : WrittenAt n digits position) :
    n.value = ofDecimal false (Text.digitsValue digits) (position - digits.length) := by
  obtain ⟨leading, trailing, spelled, place, -⟩ := written.spelled
  have digits : n.decimal.digits = Text.digitsValue digits * 10 ^ trailing := by
    rw [Numeral.decimal, spelled, Text.digitsValue_append_zeros, Text.digitsValue_zeros_append]
  rw [n.value_eq, digits, ofDecimal_mul_pow, place]

theorem isDigit_of_mem_zeros (count : Nat) :
    ∀ c ∈ List.replicate count '0', Text.isDigit c = true := by
  intro c member
  rw [List.eq_of_mem_replicate member]
  rfl

section Layout

variable {digits : List Char} {position : Int} (filled : digits ≠ [])
  (decimal : ∀ c ∈ digits, Text.isDigit c = true)

include decimal

theorem writtenAt_power {c : Char} {more : List Char} (shape : digits = c :: more)
    (far : position ≤ -4 ∨ 16 < position) :
    WrittenAt ⟨[c], !more.isEmpty, more, some (tenPower (position - 1))⟩ digits position := by
  subst shape
  rw [List.forall_mem_cons] at decimal
  constructor
  · refine ⟨by simpa using decimal.1, decimal.2, .inl (List.cons_ne_nil c []), ?_, ?_⟩
    · intro none
      simpa using none
    · rintro e ⟨⟩
      exact wellFormed_tenPower _
  · have place : (tenPower (position - 1)).value - (more.length : Int) =
        position - (c :: more).length := by
      rw [value_tenPower, List.length_cons]
      omega
    exact ⟨0, 0, (List.append_nil _).symm, (Int.add_zero _).trans place, nofun⟩
  · rintro e ⟨⟩
    exact ⟨value_tenPower _, far⟩

private theorem writtenAt_small (small : position ≤ 0) :
    WrittenAt ⟨['0'], true, List.replicate position.natAbs '0' ++ digits, none⟩ digits
      position := by
  refine ⟨?_, ⟨position.natAbs + 1, 0, (List.append_nil _).symm, ?_, nofun⟩, nofun⟩
  · refine ⟨isDigit_of_mem_zeros 1, ?_, .inl (List.cons_ne_nil _ _), nofun, nofun⟩
    exact List.forall_mem_append.2 ⟨isDigit_of_mem_zeros _, decimal⟩
  · change (0 : Int) - (List.replicate position.natAbs '0' ++ digits).length + 0 = _
    rw [List.length_append, List.length_replicate]
    omega

include filled

private theorem writtenAt_whole (large : (digits.length : Int) ≤ position) :
    WrittenAt ⟨digits ++ List.replicate (position.natAbs - digits.length) '0', true, ['0'], none⟩
      digits position := by
  refine ⟨?_, ⟨0, position.natAbs - digits.length + 1, ?_, ?_, fun _ => large⟩, nofun⟩
  · refine ⟨?_, isDigit_of_mem_zeros 1, .inl (List.append_ne_nil_of_left_ne_nil filled _), nofun,
      nofun⟩
    exact List.forall_mem_append.2 ⟨decimal, isDigit_of_mem_zeros _⟩
  · rw [List.replicate_succ', List.append_assoc]
    rfl
  · change (0 : Int) - 1 + (position.natAbs - digits.length + 1 : Nat) = _
    omega

private theorem writtenAt_inside (positive : 0 < position) (small : position ≤ digits.length) :
    WrittenAt ⟨digits.take position.natAbs, true, digits.drop position.natAbs, none⟩ digits
      position := by
  refine ⟨?_, ⟨0, 0, ?_, ?_, nofun⟩, nofun⟩
  · refine ⟨fun c member => decimal c (List.mem_of_mem_take member),
      fun c member => decimal c (List.mem_of_mem_drop member), .inl ?_, nofun, nofun⟩
    rw [Ne, List.take_eq_nil_iff]
    rintro (none | empty)
    · omega
    · exact filled empty
  · exact (List.take_append_drop _ _).trans (List.append_nil _).symm
  · change (0 : Int) - (digits.drop position.natAbs).length + 0 = _
    rw [List.length_drop]
    omega

end Layout

/-! The same layouts are strict, if the digits are of ASCII and do not begin with a zero. -/

theorem ascii_of_mem_zeros (count : Nat) : ∀ c ∈ List.replicate count '0', c.isDigit = true := by
  intro c member
  rw [List.eq_of_mem_replicate member]
  rfl

section Strict

variable {digits : List Char} {position : Int} (filled : digits ≠ [])
  (ascii : ∀ c ∈ digits, c.isDigit = true) (lead : digits.head? ≠ some '0')

include ascii

include lead in
theorem strict_power {c : Char} {more : List Char} (shape : digits = c :: more) (e : Int) :
    Numeral.Strict ⟨[c], !more.isEmpty, more, some (tenPower e)⟩ := by
  subst shape
  rw [List.forall_mem_cons] at ascii
  refine ⟨by simpa using ascii.1, ascii.2, ?_, .inr ⟨List.cons_ne_nil c [], lead⟩, rfl,
    .inr (Option.some_ne_none _)⟩
  rintro e ⟨⟩
  exact fun c => ascii_of_mem_tenPower

include filled

private theorem strict_small (count : Nat) :
    Numeral.Strict ⟨['0'], true, List.replicate count '0' ++ digits, none⟩ := by
  have fraction := List.append_ne_nil_of_right_ne_nil (List.replicate count '0') filled
  refine ⟨ascii_of_mem_zeros 1, List.forall_mem_append.2 ⟨ascii_of_mem_zeros count, ascii⟩, nofun,
    .inl rfl, ?_, .inl fraction⟩
  rw [List.isEmpty_eq_false_iff.2 fraction, Bool.not_false]

include lead

private theorem strict_whole (count : Nat) :
    Numeral.Strict ⟨digits ++ List.replicate count '0', true, ['0'], none⟩ := by
  refine ⟨List.forall_mem_append.2 ⟨ascii, ascii_of_mem_zeros count⟩, ascii_of_mem_zeros 1, nofun,
    .inr ⟨List.append_ne_nil_of_left_ne_nil filled _, ?_⟩, rfl, .inl (List.cons_ne_nil '0' [])⟩
  rwa [List.head?_append_of_ne_nil _ filled]

private theorem strict_inside {count : Nat} (positive : 0 < count) (small : count < digits.length) :
    Numeral.Strict ⟨digits.take count, true, digits.drop count, none⟩ := by
  have fraction : digits.drop count ≠ [] := by
    rw [Ne, List.drop_eq_nil_iff]
    omega
  refine ⟨fun c member => ascii c (List.mem_of_mem_take member),
    fun c member => ascii c (List.mem_of_mem_drop member), nofun, .inr ⟨?_, ?_⟩, ?_,
    .inl fraction⟩
  · rw [Ne, List.take_eq_nil_iff]
    rintro (none | empty)
    · omega
    · exact filled empty
  · rwa [List.head?_take, if_neg positive.ne']
  · rw [List.isEmpty_eq_false_iff.2 fraction, Bool.not_false]

end Strict

theorem Decimal.exists_writtenAt {d : Decimal} (filled : d.digits ≠ 0) :
    ∃ n : Numeral, n.text = d.text ∧ WrittenAt n d.significant d.position ∧ n.Strict := by
  have lead := head?_significant filled
  have filled := significant_ne_nil filled
  have ascii : ∀ c ∈ d.significant, c.isDigit = true :=
    fun c member => ascii_of_mem_significant member
  have decimal : ∀ c ∈ d.significant, Text.isDigit c = true :=
    fun c member => Text.isDigit_of_ascii (ascii c member)
  -- The layouts ask nothing else of the digits, nor how the position came about.
  unfold Decimal.text
  generalize d.significant = digits at filled ascii decimal lead
  generalize d.position = position
  dsimp only
  split
  · rename_i far
    split
    · exact absurd rfl filled
    · exact ⟨_, rfl, writtenAt_power decimal rfl far, strict_power ascii lead rfl _⟩
    · rename_i c more single
      refine ⟨_, ?_, writtenAt_power decimal rfl far, strict_power ascii lead rfl _⟩
      cases more with
      | nil => exact absurd rfl single
      | cons => rfl
  · split
    · rename_i small
      exact ⟨_, by simp [Numeral.text], writtenAt_small decimal small,
        strict_small filled ascii _⟩
    · split
      · exact ⟨_, by simp [Numeral.text], writtenAt_whole filled decimal (by omega),
          strict_whole filled ascii lead _⟩
      · exact ⟨_, by simp [Numeral.text], writtenAt_inside filled decimal (by omega) (by omega),
          strict_inside filled ascii lead (by omega) (by omega)⟩

private theorem Decimal.exists_numeral {d : Decimal} (filled : d.digits ≠ 0) :
    ∃ n : Numeral, n.WellFormed ∧ n.Strict ∧ n.text = d.text ∧
      n.value = ofDecimal false d.digits d.exponent := by
  obtain ⟨n, text, written, strict⟩ := exists_writtenAt filled
  exact ⟨n, written.formed, strict, text, written.value.trans d.ofDecimal_reduced⟩

/-! ### Reading back -/

/-- The sign of a decimal is the sign of what it reads as, and decides about nothing else. -/
theorem ofDecimal_unsigned (negative : Bool) (digits : Nat) (exponent : Int) :
    ofDecimal false digits exponent =
      { ofDecimal negative digits exponent with negative := false } := by
  have place : ∀ place, ofPlace false place = { ofPlace negative place with negative := false } := by
    intro place
    unfold ofPlace
    split <;> rfl
  unfold ofDecimal
  split
  · exact place 0
  · split
    · exact place infinityPlace
    · split
      · exact place 0
      · cases exponent with
        | ofNat power => exact place _
        | negSucc power => exact place _

/-- The exact decimal, with the powers as ones that nothing evaluates. -/
theorem exists_exactDecimal_eq :
    ∃ bits : Nat, one = 2 ^ bits ∧ ∀ units, exactDecimal units = ⟨units * 5 ^ bits, -(bits : Int)⟩ := by
  have exponent : (-1074 : Int) = -((1074 : Nat) : Int) := rfl
  unfold one exactDecimal
  rw [exponent]
  generalize 1074 = bits
  exact ⟨bits, Nat.pow_eq, fun _ => rfl⟩

theorem readsBack_iff {d : Decimal} {x : Double} :
    d.readsBack x = true ↔ ofDecimal x.negative d.digits d.exponent = x := by
  rw [Decimal.readsBack, decide_eq_true_iff]

section Finite

variable {x : Double}

theorem ofPlace_place (x : Double) : ofPlace x.negative x.place = x := dif_pos x.place_lt

theorem nearest_units (finite : x.isFinite = true) {den : Nat} (positive : 0 < den) :
    nearest x.negative (x.units * den) den = x := by
  rw [nearest, units, nearestPlace_placeUnits (of_decide_eq_true finite) positive, ofPlace_place]

theorem units_ne_zero (finite : x.isFinite = true) (filled : x.isZero = false) : x.units ≠ 0 := by
  intro none
  have same : nearestPlace (x.units * 1) 1 = x.place :=
    nearestPlace_placeUnits (of_decide_eq_true finite) Nat.one_pos
  rw [none] at same
  rw [isZero, ← same] at filled
  cases filled

theorem isZero_of_units_pos (positive : 0 < x.units) : x.isZero = false := by
  rw [← Bool.not_eq_true]
  intro zero
  rw [units, beq_iff_eq.1 zero] at positive
  exact absurd positive (Nat.lt_irrefl 0)

private theorem readsBack_exactDecimal (finite : x.isFinite = true) (filled : x.isZero = false) :
    (exactDecimal x.units).readsBack x = true := by
  obtain ⟨bits, one_eq, exact_eq⟩ := exists_exactDecimal_eq
  have digits : x.units * 5 ^ bits ≠ 0 :=
    Nat.mul_ne_zero (units_ne_zero finite filled) (Nat.pow_pos (by decide)).ne'
  have num : x.units * 5 ^ bits * 10 ^ (-(bits : Int)).toNat * one = x.units * 10 ^ bits := by
    rw [Int.toNat_neg_natCast, Nat.pow_zero, one_eq, Nat.mul_one, Nat.mul_assoc, ← Nat.mul_pow]
  rw [exact_eq, readsBack_iff, ofDecimal_eq_nearest _ digits, num, Int.neg_neg, Int.toNat_natCast]
  exact nearest_units finite (Nat.pow_pos (by decide))

theorem readsBack_readingBack {count : Nat} {d : Decimal}
    (found : x.readingBack? count = some d) : d.readsBack x = true := by
  unfold readingBack? at found
  exact List.find?_some (p := fun d : Decimal => d.readsBack x) found

private theorem readsBack_searchDecimal (finite : x.isFinite = true) (filled : x.isZero = false)
    (more count : Nat) : (searchDecimal x more count).readsBack x = true := by
  induction more generalizing count with
  -- When no count of digits is left, the answer is every digit of the number.
  | zero => exact readsBack_exactDecimal finite filled
  | succ more ih =>
      rw [searchDecimal]
      cases found : x.readingBack? count with
      | some d => exact readsBack_readingBack found
      | none => exact ih (count + 1)

theorem exists_numeral_shortest (finite : x.isFinite = true) (filled : x.isZero = false) :
    ∃ n : Numeral, n.WellFormed ∧ n.Strict ∧ n.text = x.shortestDecimal.text ∧
      n.value = { x with negative := false } := by
  have reads : ofDecimal x.negative x.shortestDecimal.digits x.shortestDecimal.exponent = x :=
    readsBack_iff.1 (readsBack_searchDecimal finite filled 17 1)
  have digits : x.shortestDecimal.digits ≠ 0 := by
    intro none
    rw [none] at reads
    rw [← reads] at filled
    cases filled
  obtain ⟨n, formed, strict, text, value⟩ := Decimal.exists_numeral digits
  refine ⟨n, formed, strict, text, value.trans ?_⟩
  rw [ofDecimal_unsigned x.negative, reads]

private theorem ofDecimal_whole {count : Nat} (finite : x.isFinite = true)
    (units : x.units = count * one) :
    ofDecimal x.negative count 0 = x := by
  by_cases none : count = 0
  · have zero : x.isZero = true := by
      rw [← Bool.not_eq_false]
      intro filled
      rw [none, Nat.zero_mul] at units
      exact units_ne_zero finite filled units
    have place : x.place = 0 := beq_iff_eq.1 zero
    rw [none]
    change ofPlace x.negative 0 = x
    rw [← place, ofPlace_place]
  · have num : count * 10 ^ (0 : Int).toNat * one = x.units * 1 := by
      rw [Int.toNat_zero, Nat.pow_zero, Nat.mul_one, Nat.mul_one, units]
    rw [ofDecimal_eq_nearest _ none, num]
    exact nearest_units finite Nat.one_pos

private theorem exists_numeral_whole (finite : x.isFinite = true) (whole : x.units % one = 0) :
    ∃ n : Numeral, n.WellFormed ∧ n.text = Text.decimal (x.units / one) ∧
      n.value = { x with negative := false } := by
  have units : x.units = x.units / one * one := (Nat.div_mul_cancel (Nat.dvd_of_mod_eq_zero whole)).symm
  refine ⟨⟨Text.decimal (x.units / one), false, [], none⟩, ?_, ?_, ?_⟩
  · exact ⟨fun c member => Text.isDigit_of_mem_decimal member, nofun, .inl Nat.toDigits_ne_nil,
      fun _ => rfl, nofun⟩
  · simp [Numeral.text]
  · have value : Text.digitsValue (Text.decimal (x.units / one) ++ []) = x.units / one := by
      rw [List.append_nil, Text.digitsValue_decimal]
    change ofDecimal false (Text.digitsValue _) 0 = _
    rw [value, ofDecimal_unsigned x.negative, ofDecimal_whole finite units]

theorem text_of_finite (finite : x.isFinite = true) (filled : x.isZero = false) :
    x.text = (if x.negative then ['-'] else []) ++ x.shortestDecimal.text := by
  have below : x.place < infinityPlace := of_decide_eq_true finite
  have number : x.isNan = false := decide_eq_false (Nat.not_lt.2 below.le)
  have bounded : x.isInfinite = false := beq_eq_false_iff_ne.2 below.ne
  simp only [text, number, bounded, filled, Bool.false_eq_true, if_false]

/-- A text is a strict numeral, behind a minus sign for a negative number. -/
theorem exists_numeral_text (finite : x.isFinite = true) :
    ∃ n : Numeral, n.WellFormed ∧ n.Strict ∧
      x.text = (if x.negative then ['-'] else []) ++ n.text ∧
      n.value = { x with negative := false } := by
  cases zero : x.isZero with
  | false =>
      obtain ⟨n, formed, strict, text, value⟩ := exists_numeral_shortest finite zero
      exact ⟨n, formed, strict, (text_of_finite finite zero).trans (by rw [text]), value⟩
  | true =>
      have place : x.place = 0 := beq_iff_eq.1 zero
      have zeros := ascii_of_mem_zeros 1
      refine ⟨⟨['0'], true, ['0'], none⟩, ?_, ?_, ?_, ?_⟩
      · exact ⟨isDigit_of_mem_zeros 1, isDigit_of_mem_zeros 1, .inl (List.cons_ne_nil '0' []),
          nofun, nofun⟩
      · exact ⟨zeros, zeros, nofun, .inl rfl, rfl, .inl (List.cons_ne_nil '0' [])⟩
      · simp [text, isNan, isInfinite, zero, place, infinityPlace, Numeral.text]
      · obtain ⟨negative, place, bounded⟩ := x
        subst place
        rfl

/-- A literal is a numeral, behind a minus sign for a negative number. -/
theorem exists_numeral_literal (finite : x.isFinite = true) (other : x ≠ zero true) :
    ∃ n : Numeral, n.WellFormed ∧ x.literal = (if x.negative then ['-'] else []) ++ n.text ∧
      n.value = { x with negative := false } := by
  unfold literal
  by_cases whole : x.units % one = 0
  · obtain ⟨n, formed, text, value⟩ := exists_numeral_whole finite whole
    have sign : (x.negative && !x.isZero) = x.negative := by
      cases negative : x.negative with
      | false => rfl
      | true =>
          cases zero : x.isZero with
          | false => rfl
          | true =>
              have place : x.place = 0 := beq_iff_eq.1 zero
              rw [← ofPlace_place x, negative, place] at other
              exact absurd rfl other
    rw [if_pos (by simp [isWhole, finite, whole]), sign, ← text]
    exact ⟨n, formed, rfl, value⟩
  · have positive : 0 < x.units := by
      refine Nat.pos_of_ne_zero fun none => whole ?_
      rw [none, Nat.zero_mod]
    have filled := isZero_of_units_pos positive
    obtain ⟨n, formed, -, text, value⟩ := exists_numeral_shortest finite filled
    rw [if_neg (by simp [isWhole, whole]), text_of_finite finite filled, ← text]
    exact ⟨n, formed, rfl, value⟩

end Finite

end Double

end Spreadsheet
