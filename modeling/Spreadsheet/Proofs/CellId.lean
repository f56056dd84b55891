import Mathlib.Data.List.TakeWhile
import Spreadsheet.CellId
import Spreadsheet.Text.Blank

/-! Which texts are identifiers, and what the scan takes of a text that begins with one. -/

set_option autoImplicit false

namespace Spreadsheet.CellId

/-- Capital letters, at least one, then a number without leading zeros. -/
inductive Valid : List Char → Prop where
  | mk {letters digits : List Char} {first : Char} : letters ≠ [] →
      (∀ c ∈ letters, 'A' ≤ c ∧ c ≤ 'Z') → '1' ≤ first ∧ first ≤ '9' →
      (∀ c ∈ digits, '0' ≤ c ∧ c ≤ '9') → Valid (letters ++ first :: digits)

section Characters

variable {c : Char}

theorem isColumnLetter_iff : isColumnLetter c = true ↔ 'A' ≤ c ∧ c ≤ 'Z' := by
  simp [isColumnLetter]

theorem isRowDigit_iff : isRowDigit c = true ↔ '0' ≤ c ∧ c ≤ '9' := by
  simp [isRowDigit]

theorem isRowDigit_and_ne_zero_iff :
    isRowDigit c = true ∧ c ≠ '0' ↔ '1' ≤ c ∧ c ≤ '9' := by
  have zero : '0'.val.toNat = 48 := rfl
  have one : '1'.val.toNat = 49 := rfl
  rw [isRowDigit_iff, Ne, ← Char.toNat_inj]
  simp only [Char.le_def, UInt32.le_iff_toNat_le, Char.toNat]
  omega

private theorem isColumnLetter_eq_false_of_digit (digit : '1' ≤ c ∧ c ≤ '9') :
    isColumnLetter c = false := by
  have letter : 'A'.val.toNat = 65 := rfl
  have nine : '9'.val.toNat = 57 := rfl
  rw [← Bool.not_eq_true, isColumnLetter_iff]
  simp only [Char.le_def, UInt32.le_iff_toNat_le] at digit ⊢
  omega

end Characters

theorem Valid.eq_cons {id : List Char} (valid : Valid id) :
    ∃ c tail, id = c :: tail ∧ 'A' ≤ c ∧ c ≤ 'Z' := by
  obtain @⟨letters, digits, first, filled, capital, _, _⟩ := valid
  cases letters with
  | nil => exact absurd rfl filled
  | cons c tail => exact ⟨c, tail ++ first :: digits, rfl, capital c List.mem_cons_self⟩

theorem Valid.letter_or_digit {id : List Char} (valid : Valid id) {c : Char} (member : c ∈ id) :
    ('A' ≤ c ∧ c ≤ 'Z') ∨ ('0' ≤ c ∧ c ≤ '9') := by
  obtain @⟨letters, digits, first, _, capital, leading, decimal⟩ := valid
  rw [List.mem_append, List.mem_cons] at member
  rcases member with letter | rfl | digit
  · exact .inl (capital c letter)
  · exact .inr (isRowDigit_iff.1 (isRowDigit_and_ne_zero_iff.2 leading).1)
  · exact .inr (decimal c digit)

/-- None of the characters is a blank or the separator of a record. -/
theorem Valid.of_mem {id : List Char} (valid : Valid id) {c : Char} (member : c ∈ id) :
    Text.isBlank c = false ∧ c ≠ ':' := by
  have within := valid.letter_or_digit member
  have range : (65 ≤ c.toNat ∧ c.toNat ≤ 90) ∨ (48 ≤ c.toNat ∧ c.toNat ≤ 57) := by
    simp only [Char.le_def, UInt32.le_iff_toNat_le] at within
    exact within
  constructor
  · rw [← Bool.not_eq_true]
    simp only [Text.isBlank, Bool.or_eq_true, Bool.and_eq_true, decide_eq_true_eq, beq_iff_eq]
    omega
  · rintro rfl
    exact absurd range (by decide)

theorem scan?_append_of_valid {id : List Char} (valid : Valid id) (rest : List Char) :
    scan? (id ++ rest) = some (id ++ rest.takeWhile isRowDigit, rest.dropWhile isRowDigit) := by
  obtain @⟨letters, digits, first, filled, capital, leading, decimal⟩ := valid
  have stops := isColumnLetter_eq_false_of_digit leading
  have taken : (letters ++ first :: (digits ++ rest)).takeWhile isColumnLetter = letters := by
    rw [List.takeWhile_append_of_pos fun c member => isColumnLetter_iff.2 (capital c member),
      List.takeWhile_cons_of_neg (by simp [stops]), List.append_nil]
  have left : (letters ++ first :: (digits ++ rest)).dropWhile isColumnLetter =
      first :: (digits ++ rest) := by
    rw [List.dropWhile_append_of_pos fun c member => isColumnLetter_iff.2 (capital c member),
      List.dropWhile_cons_of_neg (by simp [stops])]
  have row := isRowDigit_and_ne_zero_iff.2 leading
  have digit : ∀ c ∈ digits, isRowDigit c = true :=
    fun c member => isRowDigit_iff.2 (decimal c member)
  rw [List.append_assoc, List.cons_append, scan?, left]
  dsimp only
  rw [taken, if_pos ⟨filled, row⟩, List.takeWhile_append_of_pos digit,
    List.dropWhile_append_of_pos digit, List.append_assoc, List.cons_append]

/-- The scan of a text that begins with an identifier takes this one or a longer one. -/
theorem scan?_exact_or_longer {id : List Char} (valid : Valid id) (rest : List Char) :
    ∃ found behind, scan? (id ++ rest) = some (found, behind) ∧
      ((found = id ∧ behind = rest) ∨ behind.length < rest.length) := by
  refine ⟨_, _, scan?_append_of_valid valid rest, ?_⟩
  cases rest with
  | nil => exact .inl ⟨List.append_nil id, rfl⟩
  | cons c tail =>
      by_cases digit : isRowDigit c = true
      · right
        rw [List.dropWhile_cons_of_pos digit, List.length_cons]
        exact Nat.lt_succ_of_le (List.length_dropWhile_le isRowDigit tail)
      · left
        rw [List.takeWhile_cons_of_neg digit, List.dropWhile_cons_of_neg digit, List.append_nil]
        exact ⟨rfl, rfl⟩

theorem valid_of_scan? {cs id rest : List Char} (scanned : scan? cs = some (id, rest)) :
    Valid id := by
  unfold scan? at scanned
  split at scanned
  · cases scanned
  · split at scanned
    · rename_i first tail found accepted
      cases scanned
      refine .mk accepted.1 ?_ (isRowDigit_and_ne_zero_iff.1 accepted.2) ?_
      · exact fun c member => isColumnLetter_iff.1 (List.mem_takeWhile_imp member)
      · exact fun c member => isRowDigit_iff.1 (List.mem_takeWhile_imp member)
    · cases scanned

theorem isValid_iff {id : String} : isValid id = true ↔ Valid id.toList := by
  constructor
  · intro accepted
    unfold isValid at accepted
    split at accepted
    · rename_i taken scanned
      rw [← scan?_append scanned, List.append_nil]
      exact valid_of_scan? scanned
    · cases accepted
  · intro valid
    have scanned := scan?_append_of_valid valid []
    rw [List.append_nil] at scanned
    rw [isValid, scanned]
    rfl

theorem isValid_eq_false_iff {id : String} : isValid id = false ↔ ¬ Valid id.toList := by
  rw [← isValid_iff, Bool.not_eq_true]

end Spreadsheet.CellId
