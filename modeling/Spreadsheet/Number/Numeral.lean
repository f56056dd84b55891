import Spreadsheet.Number.Rounding
import Spreadsheet.Text.Digit

/-!
# Numerals

Unsigned decimal numerals as they are written in cells and formulas: digits with
an optional point among them, and an optional power of ten. At least one digit
stands before the point or behind it. Digits of any script count.
-/

set_option autoImplicit false

namespace Spreadsheet

/-- The power of ten behind a numeral: its mark, sign and digits as written. -/
structure Exponent where
  mark : Char
  sign : Option Char
  digits : List Char
deriving DecidableEq, Repr

/-- A numeral as written. -/
structure Numeral where
  whole : List Char
  point : Bool
  fraction : List Char
  exponent : Option Exponent
deriving DecidableEq, Repr

def Exponent.text (e : Exponent) : List Char :=
  e.mark :: e.sign.toList ++ e.digits

def Exponent.value (e : Exponent) : Int :=
  if e.sign = some '-' then -(Text.digitsValue e.digits : Int) else Text.digitsValue e.digits

namespace Numeral

def text (n : Numeral) : List Char :=
  n.whole ++ (if n.point then ['.'] else []) ++ n.fraction ++
    (n.exponent.map Exponent.text).getD []

def value (n : Numeral) : Double :=
  Double.ofDecimal false (Text.digitsValue (n.whole ++ n.fraction))
    ((n.exponent.map Exponent.value).getD 0 - n.fraction.length)

/-- The digits at the start of a text, and the text behind them. -/
def scanDigits (cs : List Char) : List Char × List Char :=
  (cs.takeWhile Text.isDigit, cs.dropWhile Text.isDigit)

/-- The sign at the start of a text, if there is one, and the text behind it. -/
def scanSign : List Char → Option Char × List Char
  | '+' :: rest => (some '+', rest)
  | '-' :: rest => (some '-', rest)
  | rest => (none, rest)

/-- The power of ten at the start of a text, if one is complete there, and the text
behind it. -/
def scanExponent : List Char → Option Exponent × List Char
  | [] => (none, [])
  | mark :: rest =>
    if mark = 'e' ∨ mark = 'E' then
      match scanDigits (scanSign rest).2 with
      | ([], _) => (none, mark :: rest)
      | (d :: ds, behind) => (some ⟨mark, (scanSign rest).1, d :: ds⟩, behind)
    else (none, mark :: rest)

/-- The point at the start of a text, if there is one, the digits behind it, and the
text behind them. -/
def scanFraction : List Char → Bool × List Char × List Char
  | '.' :: rest => (true, scanDigits rest)
  | rest => (false, [], rest)

/-- The longest numeral at the start of a text, and the text behind it. -/
def scan? (cs : List Char) : Option (Numeral × List Char) :=
  match scanDigits cs with
  | (whole, behind) =>
    match scanFraction behind with
    | (point, fraction, behind) =>
      if whole = [] ∧ fraction = [] then none
      else
        match scanExponent behind with
        | (exponent, behind) => some (⟨whole, point, fraction, exponent⟩, behind)

theorem scanDigits_append (cs : List Char) : (scanDigits cs).1 ++ (scanDigits cs).2 = cs :=
  List.takeWhile_append_dropWhile

theorem scanSign_append (cs : List Char) : (scanSign cs).1.toList ++ (scanSign cs).2 = cs := by
  unfold scanSign
  split <;> rfl

theorem scanFraction_append (cs : List Char) :
    (if (scanFraction cs).1 then ['.'] else []) ++ (scanFraction cs).2.1 ++ (scanFraction cs).2.2 =
      cs := by
  unfold scanFraction
  split
  · simp [scanDigits_append]
  · rfl

/-- What the scan of a power of ten takes and what it leaves make up the text. -/
theorem scanExponent_append (cs : List Char) :
    ((scanExponent cs).1.map Exponent.text).getD [] ++ (scanExponent cs).2 = cs := by
  unfold scanExponent
  split
  · rfl
  · rename_i mark rest
    split
    · have digits := scanDigits_append (scanSign rest).2
      split
      · rfl
      · rename_i found
        rw [found] at digits
        simp only [Option.map_some, Option.getD_some, Exponent.text, List.cons_append,
          List.append_assoc] at digits ⊢
        rw [digits, scanSign_append]
    · rfl

/-- What the scan of a numeral takes and what it leaves make up the text. -/
theorem scan?_append {cs rest : List Char} {n : Numeral} (scanned : scan? cs = some (n, rest)) :
    n.text ++ rest = cs := by
  have digits := scanDigits_append cs
  have fractions := scanFraction_append (scanDigits cs).2
  have exponents := scanExponent_append (scanFraction (scanDigits cs).2).2.2
  simp only [scan?] at scanned
  split at scanned
  · cases scanned
  · cases scanned
    simp only [text, List.append_assoc] at fractions ⊢
    rw [exponents, fractions, digits]

theorem scan?_text_ne_nil {cs rest : List Char} {n : Numeral}
    (scanned : scan? cs = some (n, rest)) : n.text ≠ [] := by
  simp only [scan?] at scanned
  split at scanned
  · cases scanned
  · rename_i digits
    cases scanned
    intro empty
    simp only [text, List.append_eq_nil_iff] at empty
    exact digits ⟨empty.1.1.1, empty.1.2⟩

/-- The numeral that a text is, if it is one from end to end. -/
def ofText? (cs : List Char) : Option Numeral :=
  match scan? cs with
  | some (n, []) => some n
  | _ => none

end Numeral

/-- The double that a decimal text writes, with an optional sign in front of the
numeral. -/
def Double.ofText? (cs : List Char) : Option Double :=
  match Numeral.scanSign cs with
  | (some '-', rest) => (Numeral.ofText? rest).map fun n => { n.value with negative := true }
  | (_, rest) => (Numeral.ofText? rest).map Numeral.value

end Spreadsheet
