import Mathlib.Computability.Language
import Spreadsheet.Proofs.Number.Numeral

/-! The numerals as a regular language: `(\d+\.?\d*|\.\d+)([eE][+-]?\d+)?`. The scan reads a text
as a numeral exactly if the pattern matches all of it. -/

set_option autoImplicit false

namespace Spreadsheet.Numeral

open scoped Computability

namespace Pattern

/-- One character of a class. -/
def oneOf (p : Char → Prop) : Language Char := {cs | ∃ c, p c ∧ [c] = cs}

def maybe (l : Language Char) : Language Char := l + 1

def digit : Language Char := oneOf (Text.isDigit · = true)

def digits : Language Char := digit * digit∗

def point : Language Char := oneOf (· = '.')

def significand : Language Char := digits * maybe point * digit∗ + point * digits

def power : Language Char :=
  oneOf (fun c => c = 'e' ∨ c = 'E') * maybe (oneOf fun c => c = '+' ∨ c = '-') * digits

end Pattern

open Pattern

/-- What a numeral in a formula must match. -/
def pattern : Language Char := significand * maybe power

/-! ### The parts of the pattern -/

section Parts

variable {cs : List Char} {p : Char → Prop}

theorem mem_maybe {l : Language Char} : cs ∈ maybe l ↔ cs ∈ l ∨ cs = [] := by
  rw [maybe, Language.mem_add, Language.mem_one]

theorem mem_maybe_iff {Part : Type} {l : Language Char} {valid : Part → Prop}
    {text : Part → List Char} (spelled : cs ∈ l ↔ ∃ part, valid part ∧ text part = cs) :
    cs ∈ maybe l ↔
      ∃ given : Option Part, (∀ part ∈ given, valid part) ∧ (given.map text).getD [] = cs := by
  rw [mem_maybe, spelled]
  constructor
  · intro found
    rcases found with ⟨part, holds, rfl⟩ | rfl
    · exact ⟨some part, fun other same => Option.some.inj same ▸ holds, rfl⟩
    · exact ⟨none, by simp, rfl⟩
  · intro found
    obtain ⟨given, holds, rfl⟩ := found
    cases given with
    | none => exact .inr rfl
    | some part => exact .inl ⟨part, holds part rfl, rfl⟩

private theorem mem_maybe_oneOf :
    cs ∈ maybe (oneOf p) ↔ ∃ c : Option Char, (∀ d ∈ c, p d) ∧ c.toList = cs := by
  have list (c : Option Char) : (c.map ([·])).getD [] = c.toList := by cases c <;> rfl
  have spelled : cs ∈ oneOf p ↔ ∃ c, p c ∧ [c] = cs := Iff.rfl
  rw [mem_maybe_iff spelled]
  simp only [list]

theorem mem_kstar_digit : cs ∈ digit∗ ↔ ∀ c ∈ cs, Text.isDigit c = true := by
  rw [Language.mem_kstar]
  constructor
  · intro found c member
    obtain ⟨pieces, rfl, each⟩ := found
    obtain ⟨piece, taken, inside⟩ := List.mem_flatten.1 member
    obtain ⟨d, decimal, rfl⟩ := each piece taken
    rwa [List.mem_singleton.1 inside]
  · intro decimal
    have whole : cs = (cs.map ([·])).flatten := by
      rw [← List.flatMap_def, List.flatMap_singleton']
    refine ⟨cs.map ([·]), whole, fun piece taken => ?_⟩
    obtain ⟨c, member, rfl⟩ := List.mem_map.1 taken
    exact ⟨c, decimal c member, rfl⟩

theorem mem_digits : cs ∈ digits ↔ cs ≠ [] ∧ ∀ c ∈ cs, Text.isDigit c = true := by
  rw [digits, Language.mem_mul]
  constructor
  · intro found
    obtain ⟨first, one, more, many, rfl⟩ := found
    obtain ⟨c, decimal, rfl⟩ := one
    exact ⟨List.cons_ne_nil c more, List.forall_mem_cons.2 ⟨decimal, mem_kstar_digit.1 many⟩⟩
  · intro found
    obtain ⟨filled, decimal⟩ := found
    cases cs with
    | nil => exact absurd rfl filled
    | cons c more =>
        rw [List.forall_mem_cons] at decimal
        exact ⟨[c], ⟨c, decimal.1, rfl⟩, more, mem_kstar_digit.2 decimal.2, rfl⟩

private theorem mem_power : cs ∈ power ↔ ∃ e : Exponent, e.WellFormed ∧ e.text = cs := by
  simp only [power, Language.mem_mul, mem_maybe_oneOf, mem_digits]
  constructor
  · intro found
    obtain ⟨_, ⟨_, ⟨mark, marked, rfl⟩, _, ⟨sign, signs, rfl⟩, rfl⟩, digits, decimal, rfl⟩ := found
    exact ⟨⟨mark, sign, digits⟩, ⟨marked, signs, decimal.1, decimal.2⟩, rfl⟩
  · intro found
    obtain ⟨⟨mark, sign, digits⟩, formed, rfl⟩ := found
    exact ⟨_, ⟨[mark], ⟨mark, formed.mark, rfl⟩, _, ⟨sign, formed.sign, rfl⟩, rfl⟩, digits,
      ⟨formed.filled, formed.digits⟩, rfl⟩

theorem mem_maybe_power : cs ∈ maybe power ↔
    ∃ e : Option Exponent, (∀ given ∈ e, given.WellFormed) ∧ exponentText e = cs :=
  mem_maybe_iff mem_power

theorem mem_significand : cs ∈ significand ↔ ∃ whole point fraction,
    WellFormed ⟨whole, point, fraction, none⟩ ∧ whole ++ fractionText point fraction = cs := by
  have noPower : ∀ e ∈ (none : Option Exponent), e.WellFormed := by simp
  simp only [significand, Language.mem_add, Language.mem_mul, mem_digits, mem_kstar_digit]
  constructor
  · intro found
    rcases found with ⟨_, ⟨whole, first, between, pointed, rfl⟩, rest, decimal, rfl⟩ |
      ⟨between, pointed, fraction, second, rfl⟩
    · rcases mem_maybe.1 pointed with ⟨c, rfl, rfl⟩ | rfl
      · refine ⟨whole, true, rest, ⟨first.2, decimal, .inl first.1, by simp, noPower⟩, ?_⟩
        simp [fractionText]
      · -- Without a point all digits stand before it.
        have all := List.forall_mem_append.2 ⟨first.2, decimal⟩
        have filled := List.append_ne_nil_of_left_ne_nil first.1 rest
        refine ⟨whole ++ rest, false, [], ⟨all, by simp, .inl filled, by simp, noPower⟩, ?_⟩
        simp [fractionText]
    · obtain ⟨c, rfl, rfl⟩ := pointed
      exact ⟨[], true, fraction, ⟨by simp, second.2, .inr second.1, by simp, noPower⟩, rfl⟩
  · intro found
    obtain ⟨whole, pointed, fraction, formed, rfl⟩ := found
    have dot : ['.'] ∈ Pattern.point := ⟨'.', rfl, rfl⟩
    by_cases empty : whole = []
    · have filled : fraction ≠ [] := formed.filled.resolve_left (absurd empty)
      have marked : pointed = true := by
        rw [← Bool.not_eq_false]
        exact fun none => filled (formed.point none)
      right
      rw [empty, marked]
      exact ⟨['.'], dot, fraction, ⟨filled, formed.fraction⟩, rfl⟩
    · left
      cases pointed with
      | true =>
          refine ⟨_, ⟨whole, ⟨empty, formed.whole⟩, ['.'], mem_maybe.2 (.inl dot), rfl⟩, fraction,
            formed.fraction, ?_⟩
          simp [fractionText]
      | false =>
          have bare : fraction = [] := formed.point rfl
          refine ⟨_, ⟨whole, ⟨empty, formed.whole⟩, [], mem_maybe.2 (.inr rfl), rfl⟩, [], by simp,
            ?_⟩
          simp [fractionText, bare]

end Parts

/-- The pattern matches the texts of numerals and nothing else. -/
theorem mem_pattern_iff {cs : List Char} :
    cs ∈ pattern ↔ ∃ n : Numeral, n.WellFormed ∧ n.text = cs := by
  rw [pattern, Language.mem_mul]
  constructor
  · intro found
    obtain ⟨front, significand, behind, exponent, rfl⟩ := found
    obtain ⟨whole, point, fraction, formed, rfl⟩ := mem_significand.1 significand
    obtain ⟨e, powers, rfl⟩ := mem_maybe_power.1 exponent
    refine ⟨⟨whole, point, fraction, e⟩, { formed with exponent := powers }, ?_⟩
    simp only [text, fractionText, exponentText, List.append_assoc]
  · intro found
    obtain ⟨n, formed, rfl⟩ := found
    have first : WellFormed ⟨n.whole, n.point, n.fraction, none⟩ :=
      { formed with exponent := by simp }
    refine ⟨_, mem_significand.2 ⟨n.whole, n.point, n.fraction, first, rfl⟩, _,
      mem_maybe_power.2 ⟨n.exponent, formed.exponent, rfl⟩, ?_⟩
    simp only [text, fractionText, exponentText, List.append_assoc]

end Spreadsheet.Numeral
