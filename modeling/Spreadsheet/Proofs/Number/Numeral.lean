import Mathlib.Data.List.TakeWhile
import Spreadsheet.Number.Numeral
import Spreadsheet.Proofs.Text.Digit

/-! Which texts are numerals, and that the scan takes the longest one. -/

set_option autoImplicit false

namespace Spreadsheet

/-- A mark, an optional sign and at least one digit. -/
structure Exponent.WellFormed (e : Exponent) : Prop where
  mark : e.mark = 'e' ∨ e.mark = 'E'
  sign : ∀ c ∈ e.sign, c = '+' ∨ c = '-'
  filled : e.digits ≠ []
  digits : ∀ c ∈ e.digits, Text.isDigit c = true

/-- Digits before the point or behind it, at least one, no digits behind a missing point,
and an optional power of ten. -/
structure Numeral.WellFormed (n : Numeral) : Prop where
  whole : ∀ c ∈ n.whole, Text.isDigit c = true
  fraction : ∀ c ∈ n.fraction, Text.isDigit c = true
  filled : n.whole ≠ [] ∨ n.fraction ≠ []
  point : n.point = false → n.fraction = []
  exponent : ∀ e ∈ n.exponent, e.WellFormed

namespace Numeral

/-! ### Digits -/

section Digits

variable {digits rest : List Char}

theorem digits_of_scanDigits (cs : List Char) :
    ∀ c ∈ (scanDigits cs).1, Text.isDigit c = true :=
  fun _ member => List.mem_takeWhile_imp member

theorem scanDigits_append_of_digits (decimal : ∀ c ∈ digits, Text.isDigit c = true)
    (rest : List Char) :
    scanDigits (digits ++ rest) = (digits ++ (scanDigits rest).1, (scanDigits rest).2) := by
  rw [scanDigits, List.takeWhile_append_of_pos decimal, List.dropWhile_append_of_pos decimal]
  rfl

def GoesOn (rest : List Char) : Prop := ∃ c tail, rest = c :: tail ∧ Text.isDigit c = true

theorem scanDigits_of_goesOn (more : GoesOn rest) : (scanDigits rest).2.length < rest.length := by
  obtain ⟨c, tail, rfl, digit⟩ := more
  have shorter := List.length_dropWhile_le Text.isDigit tail
  rw [scanDigits, List.dropWhile_cons_of_pos digit, List.length_cons]
  exact Nat.lt_succ_of_le shorter

theorem scanDigits_of_not_goesOn (ends : ¬ GoesOn rest) : scanDigits rest = ([], rest) := by
  cases rest with
  | nil => rfl
  | cons c tail =>
      have other : ¬ Text.isDigit c = true := fun digit => ends ⟨c, tail, rfl, digit⟩
      rw [scanDigits, List.takeWhile_cons_of_neg other, List.dropWhile_cons_of_neg other]

end Digits

/-! ### Powers of ten -/

theorem sign_of_scanSign (cs : List Char) : ∀ c ∈ (scanSign cs).1, c = '+' ∨ c = '-' := by
  unfold scanSign
  split <;> simp

theorem scanSign_append_of_sign {sign : Option Char} {rest : List Char}
    (signs : ∀ c ∈ sign, c = '+' ∨ c = '-') (unsigned : ∀ c ∈ rest.head?, c ≠ '+' ∧ c ≠ '-') :
    scanSign (sign.toList ++ rest) = (sign, rest) := by
  cases sign with
  | some c => rcases signs c rfl with rfl | rfl <;> rfl
  | none =>
      rw [Option.toList_none, List.nil_append, scanSign]
      · rintro tail rfl
        exact (unsigned '+' rfl).1 rfl
      · rintro tail rfl
        exact (unsigned '-' rfl).2 rfl

theorem ne_sign_of_isDigit {c : Char} (digit : Text.isDigit c = true) : c ≠ '+' ∧ c ≠ '-' := by
  constructor
  · intro same
    subst same
    cases digit
  · intro same
    subst same
    cases digit

private theorem wellFormed_of_scanExponent (cs : List Char) :
    ∀ e ∈ (scanExponent cs).1, e.WellFormed := by
  unfold scanExponent
  split
  · simp
  · rename_i mark rest
    split
    · rename_i marked
      split
      · simp
      · rename_i c tail behind found
        have decimal := digits_of_scanDigits (scanSign rest).2
        rw [found] at decimal
        rintro e ⟨⟩
        exact ⟨marked, sign_of_scanSign rest, List.cons_ne_nil c tail, decimal⟩
    · simp

theorem length_scanExponent_le (cs : List Char) : (scanExponent cs).2.length ≤ cs.length := by
  have whole := congrArg List.length (scanExponent_append cs)
  rw [List.length_append] at whole
  omega

theorem scanExponent_append_of_wellFormed {e : Exponent} (formed : e.WellFormed)
    (rest : List Char) :
    scanExponent (e.text ++ rest) =
      (some { e with digits := e.digits ++ (scanDigits rest).1 }, (scanDigits rest).2) := by
  obtain ⟨mark, sign, digits⟩ := e
  obtain ⟨marked, signs, filled, decimal⟩ := formed
  cases digits with
  | nil => exact absurd rfl filled
  | cons c tail =>
      have taken := scanDigits_append_of_digits decimal rest
      have signed : scanSign (sign.toList ++ (c :: tail ++ rest)) = (sign, c :: tail ++ rest) :=
        scanSign_append_of_sign signs (by simpa using ne_sign_of_isDigit (decimal c (by simp)))
      rw [Exponent.text, List.append_assoc, List.cons_append, scanExponent, if_pos marked, signed,
        taken]
      rfl

/-! ### Numerals -/

private theorem length_scanFraction_le (cs : List Char) :
    (scanFraction cs).2.2.length ≤ cs.length := by
  have whole := congrArg List.length (scanFraction_append cs)
  rw [List.length_append] at whole
  omega

/-- The text of a point, if there is one, and of the digits behind it. -/
def fractionText (point : Bool) (fraction : List Char) : List Char :=
  (if point then ['.'] else []) ++ fraction

def exponentText (exponent : Option Exponent) : List Char :=
  (exponent.map Exponent.text).getD []

theorem text_append (n : Numeral) (rest : List Char) :
    n.text ++ rest =
      n.whole ++ (fractionText n.point n.fraction ++ (exponentText n.exponent ++ rest)) := by
  simp only [text, fractionText, exponentText, List.append_assoc]

theorem scanFraction_true_append {fraction : List Char}
    (decimal : ∀ c ∈ fraction, Text.isDigit c = true) (rest : List Char) :
    scanFraction (fractionText true fraction ++ rest) =
      (true, fraction ++ (scanDigits rest).1, (scanDigits rest).2) := by
  change (true, scanDigits (fraction ++ rest)) = _
  rw [scanDigits_append_of_digits decimal]

theorem scanFraction_of_no_point {rest : List Char} (other : ∀ tail, rest ≠ '.' :: tail) :
    scanFraction rest = (false, [], rest) := by
  unfold scanFraction
  split
  · exact absurd rfl (other _)
  · rfl

theorem scan?_eq (cs : List Char) :
    scan? cs =
      if (scanDigits cs).1 = [] ∧ (scanFraction (scanDigits cs).2).2.1 = [] then none
      else some (⟨(scanDigits cs).1, (scanFraction (scanDigits cs).2).1,
          (scanFraction (scanDigits cs).2).2.1,
          (scanExponent (scanFraction (scanDigits cs).2).2.2).1⟩,
        (scanExponent (scanFraction (scanDigits cs).2).2.2).2) := rfl

theorem wellFormed_of_scan? {cs rest : List Char} {n : Numeral}
    (scanned : scan? cs = some (n, rest)) : n.WellFormed := by
  rw [scan?_eq] at scanned
  split at scanned
  · cases scanned
  · rename_i filled
    cases scanned
    refine ⟨digits_of_scanDigits cs, ?_, ?_, ?_, wellFormed_of_scanExponent _⟩
    · unfold scanFraction
      split
      · exact digits_of_scanDigits _
      · simp
    · rwa [not_and_or] at filled
    · unfold scanFraction
      split
      · simp
      · simp

section Longest

variable {n : Numeral}

/-- A power of ten is no continuation of digits or of a point. -/
theorem WellFormed.exponent_eq_none (formed : n.WellFormed) {rest tail : List Char} {c : Char}
    (other : c ≠ 'e' ∧ c ≠ 'E') (begins : exponentText n.exponent ++ rest = c :: tail) :
    n.exponent = none := by
  cases exponent : n.exponent with
  | none => rfl
  | some e =>
      rw [exponent] at begins
      cases begins
      exact absurd (formed.exponent e exponent).mark (not_or.2 other)

theorem ne_mark_of_isDigit {c : Char} (digit : Text.isDigit c = true) : c ≠ 'e' ∧ c ≠ 'E' := by
  constructor
  · intro same
    subst same
    cases digit
  · intro same
    subst same
    cases digit

private theorem scanExponent_exact_or_longer (formed : n.WellFormed) (rest : List Char) :
    scanExponent (exponentText n.exponent ++ rest) = (n.exponent, rest) ∨
      (scanExponent (exponentText n.exponent ++ rest)).2.length < rest.length := by
  cases exponent : n.exponent with
  | none =>
      have whole := scanExponent_append rest
      change scanExponent rest = (none, rest) ∨ (scanExponent rest).2.length < rest.length
      cases scanned : scanExponent rest with
      | mk found behind =>
          rw [scanned] at whole
          cases found with
          | none => exact .inl (Prod.ext rfl whole)
          | some e =>
              have filled : 0 < e.text.length := by simp [Exponent.text]
              right
              rw [← whole, List.length_append]
              exact Nat.lt_add_of_pos_left filled
  | some e =>
      have taken := scanExponent_append_of_wellFormed (formed.exponent e exponent) rest
      change scanExponent (e.text ++ rest) = _ ∨ (scanExponent (e.text ++ rest)).2.length < _
      rw [taken]
      by_cases more : GoesOn rest
      · exact .inr (scanDigits_of_goesOn more)
      · left
        rw [scanDigits_of_not_goesOn more, List.append_nil]

private theorem scanFraction_exact_or_longer (formed : n.WellFormed) (rest : List Char) :
    scanFraction (fractionText n.point n.fraction ++ (exponentText n.exponent ++ rest)) =
        (n.point, n.fraction, exponentText n.exponent ++ rest) ∨
      (scanFraction (fractionText n.point n.fraction ++
        (exponentText n.exponent ++ rest))).2.2.length < rest.length := by
  cases point : n.point with
  | true =>
      rw [scanFraction_true_append formed.fraction]
      by_cases more : GoesOn (exponentText n.exponent ++ rest)
      · obtain ⟨c, tail, begins, digit⟩ := id more
        rw [formed.exponent_eq_none (ne_mark_of_isDigit digit) begins] at more ⊢
        exact .inr (scanDigits_of_goesOn more)
      · left
        rw [scanDigits_of_not_goesOn more, List.append_nil]
  | false =>
      have without := formed.point point
      by_cases pointed : ∃ tail, exponentText n.exponent ++ rest = '.' :: tail
      · obtain ⟨tail, begins⟩ := pointed
        have bare := formed.exponent_eq_none (by decide) begins
        rw [bare] at begins ⊢
        change rest = '.' :: tail at begins
        rw [without, begins]
        right
        have shorter := List.length_dropWhile_le Text.isDigit tail
        exact Nat.lt_succ_of_le shorter
      · left
        rw [without]
        exact scanFraction_of_no_point fun tail begins => pointed ⟨tail, begins⟩

theorem scanDigits_text_append (formed : n.WellFormed) (rest : List Char) :
    scanDigits (n.text ++ rest) =
      (n.whole ++
        (scanDigits (fractionText n.point n.fraction ++ (exponentText n.exponent ++ rest))).1,
        (scanDigits (fractionText n.point n.fraction ++ (exponentText n.exponent ++ rest))).2) := by
  rw [text_append, scanDigits_append_of_digits formed.whole]

private theorem scanDigits_exact_or_longer (formed : n.WellFormed) (rest : List Char) :
    scanDigits (n.text ++ rest) =
        (n.whole, fractionText n.point n.fraction ++ (exponentText n.exponent ++ rest)) ∨
      (n.fraction = [] ∧ (scanDigits (n.text ++ rest)).2.length < rest.length) := by
  rw [scanDigits_text_append formed]
  by_cases more : GoesOn (fractionText n.point n.fraction ++ (exponentText n.exponent ++ rest))
  · obtain ⟨c, tail, begins, digit⟩ := id more
    cases point : n.point with
    | true =>
        rw [point] at begins
        cases begins
        cases digit
    | false =>
        have without := formed.point point
        rw [point, without] at begins
        rw [point, without, formed.exponent_eq_none (ne_mark_of_isDigit digit) begins] at more
        rw [without, formed.exponent_eq_none (ne_mark_of_isDigit digit) begins]
        exact .inr ⟨rfl, scanDigits_of_goesOn more⟩
  · left
    rw [scanDigits_of_not_goesOn more, List.append_nil]

/-- The scan of a text that begins with a numeral takes this numeral or a longer one. -/
theorem scan?_exact_or_longer (formed : n.WellFormed) (rest : List Char) :
    ∃ m behind, scan? (n.text ++ rest) = some (m, behind) ∧
      ((m = n ∧ behind = rest) ∨ behind.length < rest.length) := by
  -- A part that takes more than its own digits leaves none of the later parts to compare.
  rcases scanDigits_exact_or_longer formed rest with taken | ⟨without, longer⟩
  · rw [scan?_eq, taken]
    dsimp only
    have fractions := scanFraction_exact_or_longer formed rest
    have filled : ¬ (n.whole = [] ∧ (scanFraction (fractionText n.point n.fraction ++
        (exponentText n.exponent ++ rest))).2.1 = []) := by
      intro empty
      obtain ⟨noWhole, noFraction⟩ := empty
      have fraction := formed.filled.resolve_left (absurd noWhole)
      have point : n.point = true := by
        rw [← Bool.not_eq_false]
        exact fun without => fraction (formed.point without)
      rw [point, scanFraction_true_append formed.fraction] at noFraction
      exact fraction (List.append_eq_nil_iff.1 noFraction).1
    rw [if_neg filled]
    rcases fractions with taken | longer
    · rw [taken]
      rcases scanExponent_exact_or_longer formed rest with taken | longer
      · rw [taken]
        exact ⟨_, _, rfl, .inl ⟨rfl, rfl⟩⟩
      · exact ⟨_, _, rfl, .inr longer⟩
    · exact ⟨_, _, rfl, .inr (Nat.lt_of_le_of_lt (length_scanExponent_le _) longer)⟩
  · have filled : (scanDigits (n.text ++ rest)).1 ≠ [] := by
      rw [scanDigits_text_append formed]
      exact List.append_ne_nil_of_left_ne_nil (formed.filled.resolve_right (absurd without)) _
    have behindFraction := length_scanFraction_le (scanDigits (n.text ++ rest)).2
    have behindExponent :=
      length_scanExponent_le (scanFraction (scanDigits (n.text ++ rest)).2).2.2
    rw [scan?_eq, if_neg fun empty => filled empty.1]
    exact ⟨_, _, rfl, .inr (by omega)⟩

end Longest

/-! ### What ends a numeral -/

section Stops

variable {n : Numeral} {rest : List Char}

/-- The characters that a numeral can go on with. -/
def Continues (c : Char) : Prop := Text.isDigit c = true ∨ c = '.' ∨ c = 'e' ∨ c = 'E'

theorem not_goesOn_of_stops (stops : ∀ c ∈ rest.head?, ¬ Continues c) : ¬ GoesOn rest := by
  intro more
  obtain ⟨c, tail, rfl, digit⟩ := more
  exact stops c rfl (.inl digit)

private theorem scanExponent_append_of_stops (formed : n.WellFormed)
    (stops : ∀ c ∈ rest.head?, ¬ Continues c) :
    scanExponent (exponentText n.exponent ++ rest) = (n.exponent, rest) := by
  cases exponent : n.exponent with
  | none =>
      change scanExponent rest = (none, rest)
      cases rest with
      | nil => rfl
      | cons c tail =>
          have other : ¬ (c = 'e' ∨ c = 'E') := fun mark => stops c rfl (.inr (.inr mark))
          rw [scanExponent, if_neg other]
  | some e =>
      change scanExponent (e.text ++ rest) = _
      rw [scanExponent_append_of_wellFormed (formed.exponent e exponent),
        scanDigits_of_not_goesOn (not_goesOn_of_stops stops), List.append_nil]

/-- A power of ten begins with its mark, so digits in front of it end there. -/
theorem not_goesOn_exponentText (formed : n.WellFormed)
    (stops : ∀ c ∈ rest.head?, ¬ Continues c) :
    ¬ GoesOn (exponentText n.exponent ++ rest) := by
  intro more
  obtain ⟨c, tail, begins, digit⟩ := id more
  rw [formed.exponent_eq_none (ne_mark_of_isDigit digit) begins] at more
  exact not_goesOn_of_stops stops more

private theorem scanFraction_append_of_stops (formed : n.WellFormed)
    (stops : ∀ c ∈ rest.head?, ¬ Continues c) :
    scanFraction (fractionText n.point n.fraction ++ (exponentText n.exponent ++ rest)) =
      (n.point, n.fraction, exponentText n.exponent ++ rest) := by
  cases point : n.point with
  | true =>
      rw [scanFraction_true_append formed.fraction,
        scanDigits_of_not_goesOn (not_goesOn_exponentText formed stops), List.append_nil]
  | false =>
      rw [formed.point point]
      refine scanFraction_of_no_point fun tail begins => ?_
      change exponentText n.exponent ++ rest = '.' :: tail at begins
      rw [formed.exponent_eq_none (by decide) begins] at begins
      change rest = '.' :: tail at begins
      subst begins
      exact stops '.' rfl (.inr (.inl rfl))

/-- The scan takes the numeral and no more if nothing behind it goes on with it. -/
theorem scan?_append_of_stops (formed : n.WellFormed)
    (stops : ∀ c ∈ rest.head?, ¬ Continues c) : scan? (n.text ++ rest) = some (n, rest) := by
  have ends : ¬ GoesOn (fractionText n.point n.fraction ++ (exponentText n.exponent ++ rest)) := by
    cases point : n.point with
    | true =>
        intro more
        obtain ⟨c, tail, begins, digit⟩ := more
        cases begins
        cases digit
    | false =>
        rw [formed.point point]
        exact not_goesOn_exponentText formed stops
  have filled : ¬ (n.whole = [] ∧ n.fraction = []) := not_and_or.2 formed.filled
  rw [scan?_eq, scanDigits_text_append formed, scanDigits_of_not_goesOn ends, List.append_nil]
  dsimp only
  rw [scanFraction_append_of_stops formed stops]
  dsimp only
  rw [if_neg filled, scanExponent_append_of_stops formed stops]

end Stops

/-! ### Texts that are numbers -/

theorem WellFormed.text_eq_cons {n : Numeral} (formed : n.WellFormed) :
    ∃ c tail, n.text = c :: tail ∧ (Text.isDigit c = true ∨ c = '.') := by
  have shape := text_append n []
  rw [List.append_nil] at shape
  rw [shape]
  cases whole : n.whole with
  | cons c tail => exact ⟨c, _, rfl, .inl (formed.whole c (by simp [whole]))⟩
  | nil =>
      have fraction := formed.filled.resolve_left (absurd whole)
      cases point : n.point with
      | true => exact ⟨'.', _, rfl, .inr rfl⟩
      | false => exact absurd (formed.point point) fraction

theorem WellFormed.mem_text {n : Numeral} (formed : n.WellFormed) {c : Char}
    (member : c ∈ n.text) :
    (c ∈ n.whole ∨ c ∈ n.fraction ∨ ∃ e ∈ n.exponent, c ∈ e.digits) ∨
      c ∈ ['.', 'e', 'E', '+', '-'] := by
  have shape := text_append n []
  simp only [List.append_nil, fractionText] at shape
  rw [shape, List.mem_append, List.mem_append, List.mem_append] at member
  rcases member with digit | (point | digit) | exponent
  · exact .inl (.inl digit)
  · split at point
    · rw [List.mem_singleton.1 point]
      exact .inr (by decide)
    · cases point
  · exact .inl (.inr (.inl digit))
  · cases written : n.exponent with
    | none =>
        rw [written] at exponent
        cases exponent
    | some e =>
        have formed := formed.exponent e written
        rw [written] at exponent
        change c ∈ (e.mark :: e.sign.toList) ++ e.digits at exponent
        rw [List.mem_append, List.mem_cons, Option.mem_toList] at exponent
        rcases exponent with (rfl | sign) | digit
        · rcases formed.mark with same | same <;> rw [same] <;> exact .inr (by decide)
        · rcases formed.sign c sign with rfl | rfl <;> exact .inr (by decide)
        · exact .inl (.inr (.inr ⟨e, rfl, digit⟩))

theorem WellFormed.digit_or_sign {n : Numeral} (formed : n.WellFormed) {c : Char}
    (member : c ∈ n.text) : Text.isDigit c = true ∨ c ∈ ['.', 'e', 'E', '+', '-'] := by
  rcases formed.mem_text member with (digit | digit | ⟨e, written, digit⟩) | sign
  · exact .inl (formed.whole c digit)
  · exact .inl (formed.fraction c digit)
  · exact .inl ((formed.exponent e written).digits c digit)
  · exact .inr sign

theorem WellFormed.isBlank_of_mem_text {n : Numeral} (formed : n.WellFormed) :
    ∀ c ∈ n.text, Text.isBlank c = false := by
  intro c member
  rcases formed.digit_or_sign member with digit | sign
  · exact Text.isBlank_of_isDigit digit
  · simp only [List.mem_cons, List.not_mem_nil, or_false] at sign
    rcases sign with rfl | rfl | rfl | rfl | rfl <;> rfl

theorem ofText?_eq_some_iff {cs : List Char} {n : Numeral} :
    ofText? cs = some n ↔ n.WellFormed ∧ n.text = cs := by
  constructor
  · intro found
    unfold ofText? at found
    split at found
    · rename_i scanned
      cases found
      refine ⟨wellFormed_of_scan? scanned, ?_⟩
      rw [← scan?_append scanned, List.append_nil]
    · cases found
  · intro written
    obtain ⟨formed, rfl⟩ := written
    obtain ⟨m, behind, scanned, exact | longer⟩ := scan?_exact_or_longer formed []
    · obtain ⟨rfl, rfl⟩ := exact
      rw [List.append_nil] at scanned
      rw [ofText?, scanned]
    · cases longer

/-- A text is the text of one numeral at most. -/
theorem WellFormed.eq_of_text {n m : Numeral} (formed : n.WellFormed)
    (other : m.WellFormed) (same : n.text = m.text) : n = m := by
  have found := ofText?_eq_some_iff.2 ⟨formed, same⟩
  rw [ofText?_eq_some_iff.2 ⟨other, rfl⟩] at found
  exact (Option.some.inj found).symm

end Numeral

namespace Double

def signed (sign : Option Char) (value : Double) : Double :=
  if sign = some '-' then { value with negative := true } else value

theorem signed_of_ne {sign : Option Char} (other : sign ≠ some '-') (value : Double) :
    signed sign value = value := if_neg other

/-- A text writes a number: a numeral with an optional sign in front of it. -/
def Writes (cs : List Char) (value : Double) : Prop :=
  ∃ sign : Option Char, ∃ n : Numeral, (∀ c ∈ sign, c = '+' ∨ c = '-') ∧ n.WellFormed ∧
    cs = sign.toList ++ n.text ∧ value = signed sign n.value

/-- A number is no formula: it begins with a sign, a digit or the point. -/
theorem Writes.head?_ne {cs : List Char} {value : Double} (writes : Writes cs value) :
    cs.head? ≠ some '=' := by
  obtain ⟨sign, n, signs, formed, rfl, -⟩ := writes
  obtain ⟨c, tail, shape, begins⟩ := formed.text_eq_cons
  rw [shape]
  cases sign with
  | none =>
      intro marked
      cases marked
      rcases begins with digit | point
      · cases digit
      · cases point
  | some c =>
      intro marked
      cases marked
      rcases signs '=' rfl with plus | minus
      · cases plus
      · cases minus

private theorem ofText?_append {sign : Option Char} {n : Numeral}
    (signs : ∀ c ∈ sign, c = '+' ∨ c = '-') (formed : n.WellFormed) :
    ofText? (sign.toList ++ n.text) = some (signed sign n.value) := by
  obtain ⟨c, tail, shape, begins⟩ := formed.text_eq_cons
  have unsigned : ∀ c ∈ n.text.head?, c ≠ '+' ∧ c ≠ '-' := by
    rw [shape]
    rintro _ ⟨⟩
    rcases begins with digit | rfl
    · exact Numeral.ne_sign_of_isDigit digit
    · decide
  have found := Numeral.ofText?_eq_some_iff.2 ⟨formed, rfl⟩
  rw [ofText?, Numeral.scanSign_append_of_sign signs unsigned]
  cases sign with
  | none =>
      rw [signed_of_ne (Option.some_ne_none '-').symm]
      exact congrArg (Option.map Numeral.value) found
  | some c =>
      rcases signs c rfl with rfl | rfl
      · rw [signed_of_ne (by decide)]
        exact congrArg (Option.map Numeral.value) found
      · exact congrArg (Option.map fun n => signed (some '-') n.value) found

theorem ofText?_eq_some_iff {cs : List Char} {value : Double} :
    ofText? cs = some value ↔ Writes cs value := by
  constructor
  · intro found
    have whole := Numeral.scanSign_append cs
    have signs := Numeral.sign_of_scanSign cs
    unfold ofText? at found
    split at found
    · rename_i rest scanned
      obtain ⟨n, numeral, rfl⟩ := Option.map_eq_some_iff.1 found
      obtain ⟨formed, rfl⟩ := Numeral.ofText?_eq_some_iff.1 numeral
      rw [scanned] at whole signs
      exact ⟨some '-', n, signs, formed, whole.symm, rfl⟩
    · rename_i sign rest other scanned
      obtain ⟨n, numeral, rfl⟩ := Option.map_eq_some_iff.1 found
      obtain ⟨formed, rfl⟩ := Numeral.ofText?_eq_some_iff.1 numeral
      rw [scanned] at whole signs
      exact ⟨sign, n, signs, formed, whole.symm, (signed_of_ne other _).symm⟩
  · intro writes
    obtain ⟨sign, n, signs, formed, rfl, rfl⟩ := writes
    exact ofText?_append signs formed

end Double

end Spreadsheet
