import Mathlib.Data.List.Basic
import Spreadsheet.Json.Printer
import Spreadsheet.Json.Token
import Spreadsheet.Proofs.Number.Decimal

/-! The numbers of JSON text: what is written of a whole number or of a finite double is scanned
as that number again, up to a character that no number goes on with. -/

set_option autoImplicit false

namespace Spreadsheet.Json

/-! ### Where numbers end -/

/-- A number cannot go on with the text. -/
def Stops (rest : List Char) : Prop :=
  ∀ c, rest.head? = some c → isDigit c = false ∧ c ≠ '.' ∧ c ≠ 'e' ∧ c ≠ 'E'

theorem stops_nil : Stops [] := nofun

theorem stops_of_head {c : Char} {rest : List Char} (sign : c = ',' ∨ c = ']' ∨ c = '\x7d') :
    Stops (c :: rest) := by
  rintro _ ⟨⟩
  rcases sign with rfl | rfl | rfl <;> decide

section Numbers

variable {rest : List Char}

theorem isDigit_eq (c : Char) : isDigit c = c.isDigit := by
  simp only [isDigit, Char.isDigit, Char.le_def, ge_iff_le]

theorem isDigit_of_mem_decimal {n : Nat} {c : Char} (member : c ∈ Text.decimal n) :
    isDigit c = true := by
  rw [isDigit_eq]
  exact Text.ascii_of_mem_decimal member

/-! ### The parts of a number -/

theorem takeWhile_append_of_digits {digits : List Char} (decimal : ∀ c ∈ digits, c.isDigit = true)
    (ends : ∀ c, rest.head? = some c → isDigit c = false) :
    (digits ++ rest).takeWhile isDigit = digits ∧ (digits ++ rest).dropWhile isDigit = rest := by
  have decimal : ∀ c ∈ digits, isDigit c = true := fun c member => isDigit_eq c ▸ decimal c member
  rw [List.takeWhile_append_of_pos decimal, List.dropWhile_append_of_pos decimal]
  cases rest with
  | nil => exact ⟨List.append_nil _, rfl⟩
  | cons c tail =>
      have other : ¬ isDigit c = true := by simp [ends c rfl]
      rw [List.takeWhile_cons_of_neg other, List.dropWhile_cons_of_neg other]
      exact ⟨List.append_nil _, rfl⟩

theorem scanWhole_append {whole : List Char} (decimal : ∀ c ∈ whole, c.isDigit = true)
    (lead : whole = ['0'] ∨ (whole ≠ [] ∧ whole.head? ≠ some '0'))
    (ends : ∀ c, rest.head? = some c → isDigit c = false) :
    scanWhole (whole ++ rest) = some (whole, rest) := by
  rcases lead with rfl | ⟨filled, other⟩
  · rfl
  · obtain ⟨first, digits, rfl⟩ := List.exists_cons_of_ne_nil filled
    obtain ⟨taken, left⟩ := takeWhile_append_of_digits decimal ends
    rw [scanWhole.eq_2, taken, left]
    intro tail same
    rw [List.cons_append, List.cons.injEq] at same
    exact other (congrArg some same.1)

theorem scanFraction_append {fraction : List Char} (decimal : ∀ c ∈ fraction, c.isDigit = true)
    (filled : fraction ≠ []) (ends : ∀ c, rest.head? = some c → isDigit c = false) :
    scanFraction ('.' :: (fraction ++ rest)) = (fraction, rest) := by
  obtain ⟨first, digits, rfl⟩ := List.exists_cons_of_ne_nil filled
  obtain ⟨taken, left⟩ := takeWhile_append_of_digits decimal ends
  rw [scanFraction, taken, left]

theorem scanFraction_of_no_point (other : ∀ c, rest.head? = some c → c ≠ '.') :
    scanFraction rest = ([], rest) := by
  refine scanFraction.eq_2 rest fun tail same => ?_
  subst same
  exact other '.' rfl rfl

theorem scanExponent_append {e : Exponent} (formed : e.WellFormed)
    (decimal : ∀ c ∈ e.digits, c.isDigit = true)
    (ends : ∀ c, rest.head? = some c → isDigit c = false) :
    scanExponent (e.text ++ rest) = (some e, rest) := by
  obtain ⟨mark, sign, digits⟩ := e
  obtain ⟨marked, signs, filled, among⟩ := formed
  obtain ⟨first, digits, rfl⟩ := List.exists_cons_of_ne_nil filled
  have unsigned : ∀ c ∈ (first :: digits ++ rest).head?, c ≠ '+' ∧ c ≠ '-' := by
    rintro _ ⟨⟩
    exact Numeral.ne_sign_of_isDigit (among first List.mem_cons_self)
  obtain ⟨taken, left⟩ := takeWhile_append_of_digits decimal ends
  rw [Exponent.text, List.cons_append, List.cons_append, List.append_assoc, scanExponent,
    if_pos marked, Numeral.scanSign_append_of_sign signs unsigned]
  dsimp only
  rw [taken, left]

theorem scanExponent_of_stops (stops : Stops rest) : scanExponent rest = (none, rest) := by
  cases rest with
  | nil => rfl
  | cons c tail =>
      have other : ¬ (c = 'e' ∨ c = 'E') := by
        obtain ⟨_, _, small, large⟩ := stops c rfl
        exact not_or.2 ⟨small, large⟩
      rw [scanExponent, if_neg other]

/-! ### Numbers without a sign -/

private theorem scanNumber_decimal (stops : Stops rest) (negative : Bool) {n : Nat}
    (short : (Text.decimal n).length ≤ Integer.maxDigits) :
    scanNumber negative (Text.decimal n ++ rest) =
      some (.scalar (.int (if negative then -(n : Int) else n)), rest) := by
  have lead : Text.decimal n = ['0'] ∨ (Text.decimal n ≠ [] ∧ (Text.decimal n).head? ≠ some '0') := by
    rcases Nat.eq_zero_or_pos n with rfl | positive
    · exact .inl rfl
    · exact .inr ⟨Nat.toDigits_ne_nil, Text.head?_decimal positive⟩
  have whole := scanWhole_append (fun c => Text.ascii_of_mem_decimal) lead
    (fun c here => (stops c here).1)
  have fraction := scanFraction_of_no_point fun c here => (stops c here).2.1
  simp only [scanNumber, whole, fraction, scanExponent_of_stops stops, and_self, if_true,
    if_neg (Nat.not_lt.2 short), Text.digitsValue_decimal]

/-- Neither a digit nor a point stands in front of a power of ten. -/
theorem apart_of_exponent {n : Numeral} (formed : n.WellFormed) (stops : Stops rest) :
    ∀ c, (Numeral.exponentText n.exponent ++ rest).head? = some c → isDigit c = false ∧ c ≠ '.' := by
  intro c here
  cases written : n.exponent with
  | none =>
      rw [written] at here
      exact ⟨(stops c here).1, (stops c here).2.1⟩
  | some e =>
      have marked := (formed.exponent e written).mark
      rw [written] at here
      obtain rfl : e.mark = c := Option.some.inj here
      rcases marked with same | same <;> rw [same] <;> decide

private theorem scanFraction_fractionText {n : Numeral} (strict : n.Strict)
    (apart : ∀ c, rest.head? = some c → isDigit c = false ∧ c ≠ '.') :
    (∀ c, (Numeral.fractionText n.point n.fraction ++ rest).head? = some c → isDigit c = false) ∧
      scanFraction (Numeral.fractionText n.point n.fraction ++ rest) = (n.fraction, rest) := by
  rw [strict.point, Numeral.fractionText]
  by_cases filled : n.fraction = []
  · rw [filled]
    exact ⟨fun c here => (apart c here).1, scanFraction_of_no_point fun c here => (apart c here).2⟩
  · rw [List.isEmpty_eq_false_iff.2 filled]
    refine ⟨?_, scanFraction_append strict.fraction filled fun c here => (apart c here).1⟩
    rintro _ ⟨⟩
    rfl

private theorem scanNumber_text {n : Numeral} (formed : n.WellFormed) (strict : n.Strict)
    (stops : Stops rest) (negative : Bool) :
    scanNumber negative (n.text ++ rest) =
      some (.scalar (.float (if negative then { n.value with negative := true } else n.value)),
        rest) := by
  obtain ⟨ends, fraction⟩ := scanFraction_fractionText strict (apart_of_exponent formed stops)
  have exponent : scanExponent (Numeral.exponentText n.exponent ++ rest) = (n.exponent, rest) := by
    cases written : n.exponent with
    | none => exact scanExponent_of_stops stops
    | some e =>
        exact scanExponent_append (formed.exponent e written) (strict.exponent e written)
          fun c here => (stops c here).1
  have broken : ¬ (n.fraction = [] ∧ n.exponent = none) := not_and_or.2 strict.broken
  rw [Numeral.text_append, scanNumber, scanWhole_append strict.whole strict.lead ends]
  dsimp only
  rw [fraction]
  dsimp only
  rw [exponent]
  exact if_neg broken

/-! ### Numbers with a sign -/

/-- A word begins with none of the characters of a whole number but the sign, behind which it
goes on with a letter. -/
theorem scanWord_of_digit {c : Char} (digit : isDigit c = true) (tail : List Char) :
    scanWord (c :: tail) = none ∧ scanWord ('-' :: c :: tail) = none := by
  have apart : ∀ letter, isDigit letter = false → letter ≠ c := by
    rintro letter other rfl
    rw [digit] at other
    cases other
  simp [scanWord, words, apart 'n' rfl, apart 't' rfl, apart 'f' rfl, apart 'N' rfl,
    apart 'I' rfl, apart '-' rfl]

theorem scan?_of_digit {c : Char} (digit : isDigit c = true) (tail : List Char) :
    Token.scan? (c :: tail) = scanNumber false (c :: tail) ∧
      Token.scan? ('-' :: c :: tail) = scanNumber true (c :: tail) := by
  have apart : ∀ letter, isDigit letter = false → letter ≠ c := by
    rintro letter other rfl
    rw [digit] at other
    cases other
  obtain ⟨word, signed⟩ := scanWord_of_digit digit tail
  constructor
  · rw [Token.scan?.eq_9, word]
    · exact if_neg (Ne.symm (apart '-' rfl))
    all_goals exact fun same => absurd same (Ne.symm (apart _ rfl))
  · rw [Token.scan?.eq_9, signed]
    · rfl
    all_goals decide

theorem scan?_renderInt (stops : Stops rest) {n : Int}
    (short : (Text.decimal n.natAbs).length ≤ Integer.maxDigits) :
    Token.scan? (renderInt n ++ rest) = some (.scalar (.int n), rest) := by
  obtain ⟨first, digits, shape⟩ :=
    List.exists_cons_of_ne_nil (show Text.decimal n.natAbs ≠ [] from Nat.toDigits_ne_nil)
  have digit : isDigit first = true :=
    isDigit_of_mem_decimal (shape ▸ List.mem_cons_self)
  have number := fun negative => scanNumber_decimal stops negative short
  rw [shape, List.cons_append] at number
  obtain ⟨unsigned, signed⟩ := scan?_of_digit digit (digits ++ rest)
  rw [renderInt, shape]
  split
  · rename_i negative
    rw [List.cons_append, List.nil_append, List.cons_append, List.cons_append, signed, number,
      if_pos rfl]
    have value : -(n.natAbs : Int) = n := by omega
    rw [value]
  · rename_i positive
    rw [List.nil_append, List.cons_append, unsigned, number, if_neg Bool.false_ne_true]
    have value : (n.natAbs : Int) = n := by omega
    rw [value]

theorem renderFloat_of_finite {x : Double} (finite : x.isFinite = true) :
    renderFloat x = x.text := by
  have below : x.place < Double.infinityPlace := of_decide_eq_true finite
  have number : x.isNan = false := decide_eq_false (Nat.not_lt.2 below.le)
  have bounded : x.isInfinite = false := beq_eq_false_iff_ne.2 below.ne
  rw [renderFloat, number, bounded]
  rfl

theorem scan?_renderFloat (stops : Stops rest) {x : Double} (finite : x.isFinite = true) :
    Token.scan? (renderFloat x ++ rest) = some (.scalar (.float x), rest) := by
  obtain ⟨n, formed, strict, text, value⟩ := x.exists_numeral_text finite
  obtain ⟨first, digits, shape, ascii⟩ := strict.text_eq_cons
  have digit : isDigit first = true := isDigit_eq first ▸ ascii
  have number := scanNumber_text formed strict stops
  rw [shape, List.cons_append] at number
  obtain ⟨unsigned, signed⟩ := scan?_of_digit digit (digits ++ rest)
  rw [renderFloat_of_finite finite, text, shape]
  obtain ⟨negative, place, bounded⟩ := x
  cases negative with
  | true =>
      refine signed.trans ((number true).trans ?_)
      rw [if_pos rfl, value]
  | false =>
      refine unsigned.trans ((number false).trans ?_)
      rw [if_neg Bool.false_ne_true, value]

end Numbers

end Spreadsheet.Json

