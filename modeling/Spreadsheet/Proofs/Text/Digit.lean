import Mathlib.Algebra.Group.Nat.Defs
import Mathlib.Data.List.Basic
import Spreadsheet.Text.Blank
import Spreadsheet.Text.Digit

/-! Where the decimal digits stand among the characters: apart from `0` to `9` they are
all far behind the other characters that formulas are written with, and no blank is among
them. Rows of digits have the number that they write as their value. -/

set_option autoImplicit false

namespace Spreadsheet.Text

theorem toNat_of_isDigit {c : Char} (digit : isDigit c = true) :
    (48 ≤ c.toNat ∧ c.toNat ≤ 57) ∨ 1632 ≤ c.toNat := by
  have zeros : ∀ first ∈ digitZeros, first = 48 ∨ 1632 ≤ first := by decide
  rw [isDigit, digitValue?, Option.isSome_map, List.find?_isSome] at digit
  obtain ⟨first, member, within⟩ := digit
  simp only [Bool.and_eq_true, decide_eq_true_eq] at within
  rcases zeros first member with rfl | large
  · omega
  · omega

theorem not_capital_of_isDigit {c : Char} (digit : isDigit c = true) : ¬ ('A' ≤ c ∧ c ≤ 'Z') := by
  intro capital
  have range := toNat_of_isDigit digit
  have least : 'A'.val.toNat = 65 := rfl
  have greatest : 'Z'.val.toNat = 90 := rfl
  simp only [Char.le_def, UInt32.le_iff_toNat_le] at capital
  simp only [Char.toNat] at range
  omega

theorem isBlank_of_isDigit {c : Char} (digit : isDigit c = true) : isBlank c = false := by
  have zeros : ∀ first ∈ digitZeros, first = 0x30 ∨ (0x100 < first ∧ first + 10 ≤ 0x1680) ∨
      (0x1680 < first ∧ first + 10 ≤ 0x2000) ∨ 0x3000 < first := by decide
  rw [isDigit, digitValue?, Option.isSome_map, List.find?_isSome] at digit
  obtain ⟨first, member, within⟩ := digit
  simp only [Bool.and_eq_true, decide_eq_true_eq] at within
  have row := zeros first member
  rw [← Bool.not_eq_true]
  simp only [isBlank, Bool.or_eq_true, Bool.and_eq_true, decide_eq_true_eq, beq_iff_eq]
  omega

/-! ### Rows of digits -/

theorem digitValue?_of_isDigit {c : Char} (digit : c.isDigit = true) :
    digitValue? c = some (c.toNat - 48) := by
  have within : 48 ≤ c.toNat ∧ c.toNat ≤ 57 := by
    simp only [Char.isDigit, Bool.and_eq_true, decide_eq_true_eq, ge_iff_le,
      UInt32.le_iff_toNat_le] at digit
    exact digit
  have zeros : digitZeros = 48 :: digitZeros.tail := rfl
  rw [digitValue?, zeros, List.find?_cons_of_pos, Option.map_some]
  simp only [Bool.and_eq_true, decide_eq_true_eq]
  omega

theorem ascii_of_mem_decimal {n : Nat} {c : Char} (member : c ∈ decimal n) : c.isDigit = true :=
  Nat.isDigit_of_mem_toDigits (by decide) (by decide) member

theorem isDigit_of_ascii {c : Char} (ascii : c.isDigit = true) : isDigit c = true := by
  rw [isDigit, digitValue?_of_isDigit ascii, Option.isSome_some]

theorem isDigit_of_mem_decimal {n : Nat} {c : Char} (member : c ∈ decimal n) :
    isDigit c = true := isDigit_of_ascii (ascii_of_mem_decimal member)

/-- Only zero is written with a zero in front. -/
theorem head?_decimal {n : Nat} (positive : 0 < n) : (decimal n).head? ≠ some '0' := by
  induction n using Nat.strongRecOn with
  | ind n ih =>
      rw [decimal, Nat.toDigits_eq_if (by decide)]
      split
      · rename_i small
        have digits : ∀ digit < 10, 0 < digit → Nat.digitChar digit ≠ '0' := by decide
        simpa using digits n small positive
      · rename_i large
        have before := ih (n / 10) (by omega) (by omega)
        rwa [decimal, ← List.head?_append_of_ne_nil _ Nat.toDigits_ne_nil] at before

theorem digitsValue_decimal (n : Nat) : digitsValue (decimal n) = n := by
  have ascii : ∀ c ∈ decimal n, c.isDigit = true := fun c => ascii_of_mem_decimal
  calc digitsValue (decimal n)
    _ = (decimal n).foldl (fun m c => 10 * m + (c.toNat - '0'.toNat)) 0 := by
      refine List.foldl_ext _ _ 0 fun m c member => ?_
      rw [digitValue?_of_isDigit (ascii c member)]
      rfl
    _ = n := Nat.ofDigitChars_toDigits (by decide) (by decide)

theorem lt_pow_length_decimal (n : Nat) : n < 10 ^ (decimal n).length :=
  (Nat.length_toDigits_le_iff (by decide) Nat.length_toDigits_pos).1 (Nat.le_refl _)

theorem pow_le_of_length_decimal {n : Nat} (positive : 0 < n) :
    10 ^ ((decimal n).length - 1) ≤ n := by
  by_contra small
  have less := Nat.not_le.1 small
  have filled : 0 < (decimal n).length := Nat.length_toDigits_pos
  by_cases single : (decimal n).length - 1 = 0
  · rw [single] at less
    omega
  · have shorter := (Nat.length_toDigits_le_iff (by decide) (Nat.pos_of_ne_zero single)).2 less
    change (decimal n).length ≤ _ at shorter
    omega

theorem decimal_mul_pow {n : Nat} (positive : 0 < n) (k : Nat) :
    decimal (n * 10 ^ k) = decimal n ++ List.replicate k '0' := by
  induction k with
  | zero => rw [Nat.pow_zero, Nat.mul_one, List.replicate_zero, List.append_nil]
  | succ k ih =>
      have filled : 0 < n * 10 ^ k := Nat.mul_pos positive (Nat.pow_pos (by decide))
      have last := Nat.toDigits_append_toDigits (b := 10) (by decide) filled (d := 0) (by decide)
      rw [Nat.pow_succ, ← Nat.mul_assoc, Nat.mul_comm _ 10, List.replicate_succ',
        ← List.append_assoc, ← ih]
      exact last.symm

theorem digitsValue_append_zeros (cs : List Char) (count : Nat) :
    digitsValue (cs ++ List.replicate count '0') = digitsValue cs * 10 ^ count := by
  induction count with
  | zero => rw [List.replicate_zero, List.append_nil, Nat.pow_zero, Nat.mul_one]
  | succ count ih =>
      have last : digitsValue (cs ++ List.replicate count '0' ++ ['0']) =
          10 * digitsValue (cs ++ List.replicate count '0') := by
        rw [digitsValue, List.foldl_append]
        rfl
      rw [List.replicate_succ', ← List.append_assoc, last, ih, Nat.pow_succ, Nat.mul_left_comm,
        Nat.mul_comm 10]

theorem digitsValue_zeros_append (count : Nat) (cs : List Char) :
    digitsValue (List.replicate count '0' ++ cs) = digitsValue cs := by
  induction count with
  | zero => rfl
  | succ count ih => exact ih

end Spreadsheet.Text
