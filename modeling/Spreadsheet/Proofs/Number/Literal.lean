import Spreadsheet.Proofs.Number.Decimal

/-! The characters of literals, and that unsigned numbers have literals of their own. -/

set_option autoImplicit false

namespace Spreadsheet.Double

variable {x y : Double}

/-- What is no finite number is written as a word. -/
theorem literal_of_not_finite (infinite : x.isFinite ≠ true) :
    x.literal = if x.isNan then "nan".toList
      else (if x.negative then ['-'] else []) ++ "inf".toList := by
  have great : infinityPlace ≤ x.place := Nat.not_lt.1 fun small => infinite (decide_eq_true small)
  have notWhole : x.isWhole = false := by simp [isWhole, infinite]
  rw [literal, notWhole, if_neg Bool.false_ne_true, text]
  split
  · rfl
  · rename_i number
    have bounded : ¬ infinityPlace < x.place := fun beyond => number (decide_eq_true beyond)
    have isInfinite : x.isInfinite = true :=
      beq_iff_eq.2 (Nat.le_antisymm (Nat.not_lt.1 bounded) great)
    rw [if_pos isInfinite]

/-- The literal of an unsigned finite number is a numeral with this value. -/
theorem exists_numeral_of_unsigned (finite : x.isFinite = true) (unsigned : x.negative = false) :
    ∃ n : Numeral, n.WellFormed ∧ x.literal = n.text ∧ n.value = x := by
  have other : x ≠ zero true := by
    rintro rfl
    cases unsigned
  obtain ⟨n, formed, text, value⟩ := exists_numeral_literal finite other
  refine ⟨n, formed, by simpa [unsigned] using text, value.trans ?_⟩
  rw [← unsigned]

theorem mem_literal {c : Char} (member : c ∈ x.literal) :
    Text.isDigit c = true ∨ c ∈ ['.', 'e', 'E', '+', '-'] ∨ c ∈ ['n', 'a', 'i', 'f'] := by
  by_cases finite : x.isFinite = true
  · by_cases zero : x = Double.zero true
    · have text : (Double.zero true).literal = ['0'] := by decide +kernel
      rw [zero, text, List.mem_singleton] at member
      rw [member]
      exact .inl rfl
    · obtain ⟨n, formed, text, _⟩ := exists_numeral_literal finite zero
      rw [text, List.mem_append] at member
      rcases member with sign | inside
      · split at sign
        · rw [List.mem_singleton.1 sign]
          exact .inr (.inl (by decide))
        · cases sign
      · exact (formed.digit_or_sign inside).imp_right .inl
  · have words : ∀ c ∈ "nan".toList ++ '-' :: "inf".toList,
        c ∈ ['.', 'e', 'E', '+', '-'] ∨ c ∈ ['n', 'a', 'i', 'f'] := by simp
    refine .inr (words c ?_)
    rw [literal_of_not_finite finite] at member
    split at member
    · exact List.mem_append_left _ member
    · refine List.mem_append_right _ ?_
      split at member
      · exact member
      · exact List.mem_cons_of_mem _ member

theorem isNan_ofDecimal (negative : Bool) (digits : Nat) (exponent : Int) :
    (ofDecimal negative digits exponent).isNan = false := by
  by_cases filled : digits = 0
  · have same : ofDecimal negative digits exponent = zero negative := if_pos filled
    rw [same]
    exact decide_eq_false (Nat.not_lt_zero _)
  · rw [ofDecimal_eq_nearest negative filled, nearest, nearestPlace]
    have bounded (place : Nat) : min place infinityPlace ≤ infinityPlace := Nat.min_le_right _ _
    rw [ofPlace, dif_pos ((bounded _).trans_lt (by decide))]
    exact decide_eq_false (Nat.not_lt.2 (bounded _))

/-- The literal of an unsigned number is a numeral or the word for infinity. -/
theorem numeral_or_infinity_of_unsigned (unsigned : x.negative = false) (number : x.isNan = false) :
    (∃ n : Numeral, n.WellFormed ∧ x.literal = n.text ∧ n.value = x) ∨
      (x = infinity false ∧ x.literal = "inf".toList) := by
  by_cases finite : x.isFinite = true
  · exact .inl (exists_numeral_of_unsigned finite unsigned)
  · refine .inr ⟨?_, ?_⟩
    · have great : infinityPlace ≤ x.place :=
        Nat.not_lt.1 fun small => finite (decide_eq_true small)
      have place : x.place = infinityPlace :=
        Nat.le_antisymm (Nat.not_lt.1 (of_decide_eq_false number)) great
      rw [← ofPlace_place x, unsigned, place, infinity]
    · rw [literal_of_not_finite finite, number, unsigned]
      rfl

/-- Numbers with one literal are the same number, if they have no sign. -/
theorem literal_inj (first : x.negative = false) (second : y.negative = false)
    (here : x.isNan = false) (there : y.isNan = false) (same : x.literal = y.literal) : x = y := by
  have word : ∀ n : Numeral, n.WellFormed → n.text ≠ "inf".toList := by
    intro n formed text
    have digit := formed.digit_or_sign (c := 'i') (by rw [text]; decide)
    exact absurd digit (by decide)
  rcases numeral_or_infinity_of_unsigned first here with ⟨n, formed, text, rfl⟩ | ⟨rfl, text⟩
  · rcases numeral_or_infinity_of_unsigned second there with
      ⟨m, otherFormed, other, rfl⟩ | ⟨rfl, other⟩
    · rw [text, other] at same
      exact congrArg Numeral.value (formed.eq_of_text otherFormed same)
    · exact absurd (text.symm.trans (same.trans other)) (word n formed)
  · rcases numeral_or_infinity_of_unsigned second there with ⟨m, otherFormed, other, rfl⟩ | ⟨rfl, -⟩
    · exact absurd (other.symm.trans (same.symm.trans text)) (word m otherFormed)
    · rfl

end Spreadsheet.Double
