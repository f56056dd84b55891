import Spreadsheet.Formula.Token
import Spreadsheet.Proofs.CellId
import Spreadsheet.Proofs.Number.Numeral

/-! How a text splits into tokens, and that the scan splits it so. -/

set_option autoImplicit false

namespace Spreadsheet.Formula

namespace Token

/-- Numerals and references are written as such; every sign is a token. -/
def WellFormed : Token → Prop
  | number numeral => numeral.WellFormed
  | reference cell => CellId.Valid cell
  | _ => True

/-- No longer token begins where this one begins. -/
structure Longest (token : Token) (rest : List Char) : Prop where
  formed : token.WellFormed
  longest : ∀ other : Token, other.WellFormed → other.text <+: token.text ++ rest →
    other.text.length ≤ token.text.length

private theorem ofSign?_some {c : Char} {token : Token} (sign : ofSign? c = some token) :
    token.WellFormed ∧ token.text = [c] := by
  unfold ofSign? at sign
  split at sign <;> cases sign <;> exact ⟨trivial, rfl⟩

theorem ofSign?_eq_none {c : Char}
    (other : (Text.isDigit c = true ∨ c = '.') ∨ ('A' ≤ c ∧ c ≤ 'Z')) : ofSign? c = none := by
  unfold ofSign?
  split
  case h_8 => rfl
  all_goals exact absurd other (by decide)

theorem numeral_scan?_eq_none {c : Char} (letter : 'A' ≤ c ∧ c ≤ 'Z') (rest : List Char) :
    Numeral.scan? (c :: rest) = none := by
  rw [← Option.not_isSome_iff_eq_none, Option.isSome_iff_exists]
  intro scans
  obtain ⟨⟨n, behind⟩, scanned⟩ := scans
  obtain ⟨first, tail, shape, begins⟩ := (Numeral.wellFormed_of_scan? scanned).text_eq_cons
  have whole := Numeral.scan?_append scanned
  rw [shape] at whole
  cases whole
  rcases begins with digit | rfl
  · exact Text.not_capital_of_isDigit digit letter
  · exact absurd letter.1 (by decide)

theorem wellFormed_of_scan? {cs rest : List Char} {token : Token}
    (scanned : scan? cs = some (token, rest)) : token.WellFormed := by
  unfold scan? at scanned
  split at scanned
  · cases scanned
  · split at scanned
    · rename_i sign
      cases scanned
      exact (ofSign?_some sign).1
    · split at scanned
      · rename_i found
        cases scanned
        exact Numeral.wellFormed_of_scan? found
      · obtain ⟨⟨cell, behind⟩, found, same⟩ := Option.map_eq_some_iff.1 scanned
        cases same
        exact CellId.valid_of_scan? found

/-- The scan of a text that begins with a token takes this token or a longer one. -/
theorem scan?_exact_or_longer {token : Token} (formed : token.WellFormed) (rest : List Char) :
    ∃ found behind, scan? (token.text ++ rest) = some (found, behind) ∧
      ((found = token ∧ behind = rest) ∨ behind.length < rest.length) := by
  cases token with
  | equals => exact ⟨_, _, rfl, .inl ⟨rfl, rfl⟩⟩
  | operator op => cases op <;> exact ⟨_, _, rfl, .inl ⟨rfl, rfl⟩⟩
  | opening => exact ⟨_, _, rfl, .inl ⟨rfl, rfl⟩⟩
  | closing => exact ⟨_, _, rfl, .inl ⟨rfl, rfl⟩⟩
  | number n =>
      obtain ⟨c, tail, shape, begins⟩ := Numeral.WellFormed.text_eq_cons formed
      obtain ⟨m, behind, scanned, outcome⟩ := Numeral.scan?_exact_or_longer formed rest
      rw [text, shape, List.cons_append] at *
      rw [scan?, ofSign?_eq_none (.inl begins), scanned]
      refine ⟨.number m, behind, rfl, ?_⟩
      rcases outcome with ⟨rfl, rfl⟩ | longer
      · exact .inl ⟨rfl, rfl⟩
      · exact .inr longer
  | reference cell =>
      obtain ⟨c, tail, shape, letter⟩ := CellId.Valid.eq_cons formed
      obtain ⟨id, behind, scanned, outcome⟩ := CellId.scan?_exact_or_longer formed rest
      rw [text, shape, List.cons_append] at *
      rw [scan?, ofSign?_eq_none (.inr letter), numeral_scan?_eq_none letter, scanned]
      refine ⟨.reference id, behind, rfl, ?_⟩
      rcases outcome with ⟨rfl, rfl⟩ | longer
      · exact .inl ⟨rfl, rfl⟩
      · exact .inr longer

theorem scan?_eq_some_iff {cs rest : List Char} {token : Token} :
    scan? cs = some (token, rest) ↔ token.text ++ rest = cs ∧ token.Longest rest := by
  constructor
  · intro scanned
    have whole := scan?_append scanned
    refine ⟨whole, wellFormed_of_scan? scanned, fun other formed starts => ?_⟩
    obtain ⟨behind, shape⟩ := starts
    obtain ⟨found, left, again, outcome⟩ := scan?_exact_or_longer formed behind
    rw [shape, whole, scanned] at again
    cases again
    have lengths := congrArg List.length shape
    simp only [List.length_append] at lengths
    rcases outcome with ⟨rfl, rfl⟩ | longer
    · exact Nat.le_refl _
    · omega
  · intro begins
    obtain ⟨rfl, formed, longest⟩ := begins
    obtain ⟨found, behind, scanned, outcome⟩ := scan?_exact_or_longer formed rest
    have whole := scan?_append scanned
    rcases outcome with ⟨rfl, rfl⟩ | longer
    · exact scanned
    · have bounded := longest found (wellFormed_of_scan? scanned) ⟨behind, whole⟩
      have lengths := congrArg List.length whole
      simp only [List.length_append] at lengths
      omega

theorem WellFormed.text_eq_cons {token : Token} (formed : token.WellFormed) :
    ∃ c tail, token.text = c :: tail ∧ isSkipped c = false := by
  have blank : ∀ c, isSkipped c = true → c.toNat ≤ 32 := by
    intro c skipped
    simp only [isSkipped, Bool.or_eq_true, beq_iff_eq] at skipped
    rcases skipped with (((rfl | rfl) | rfl) | rfl) | rfl <;> decide
  cases token with
  | equals => exact ⟨_, _, rfl, rfl⟩
  | operator op => cases op <;> exact ⟨_, _, rfl, rfl⟩
  | opening => exact ⟨_, _, rfl, rfl⟩
  | closing => exact ⟨_, _, rfl, rfl⟩
  | number n =>
      obtain ⟨c, tail, shape, begins⟩ := Numeral.WellFormed.text_eq_cons formed
      refine ⟨c, tail, shape, ?_⟩
      rw [← Bool.not_eq_true]
      intro skipped
      have small := blank c skipped
      rcases begins with digit | rfl
      · have range := Text.toNat_of_isDigit digit
        omega
      · cases skipped
  | reference cell =>
      obtain ⟨c, tail, shape, letter⟩ := CellId.Valid.eq_cons formed
      refine ⟨c, tail, shape, ?_⟩
      rw [← Bool.not_eq_true]
      intro skipped
      have small := blank c skipped
      have low : 'A'.val.toNat = 65 := rfl
      simp only [Char.le_def, UInt32.le_iff_toNat_le, Char.toNat] at letter small
      omega

end Token

/-! ### Cutting a text -/

/-- A text is these tokens, each the longest where it begins, with skipped blanks before,
between and behind them. -/
inductive Splits : List Char → List Token → Prop where
  | nil : Splits [] []
  | skip {c : Char} {cs : List Char} {tokens : List Token} : isSkipped c = true →
      Splits cs tokens → Splits (c :: cs) tokens
  | token {token : Token} {rest : List Char} {tokens : List Token} : token.Longest rest →
      Splits rest tokens → Splits (token.text ++ rest) (token :: tokens)

namespace Scan

variable {c : Char} {cs rest : List Char} {token : Token} (position : Nat)

theorem ofTextAt_skip (skipped : isSkipped c = true) :
    ofTextAt position (c :: cs) = ofTextAt (position + 1) cs := by
  rw [ofTextAt, if_pos skipped]

theorem ofTextAt_token (longest : token.Longest rest) :
    ofTextAt position (token.text ++ rest) =
      ⟨(position, token) :: (ofTextAt (position + token.text.length) rest).tokens,
        (ofTextAt (position + token.text.length) rest).stuck⟩ := by
  obtain ⟨c, tail, shape, visible⟩ := longest.formed.text_eq_cons
  have scanned := Token.scan?_eq_some_iff.2 ⟨rfl, longest⟩
  rw [shape, List.cons_append] at scanned ⊢
  rw [ofTextAt, if_neg (by simp [visible])]
  split
  · rename_i stuck
    rw [stuck] at scanned
    cases scanned
  · rename_i found
    rw [found] at scanned
    cases scanned
    rw [shape]

private theorem ofTextAt_of_splits {tokens : List Token} (splits : Splits cs tokens) :
    (ofTextAt position cs).stuck = none ∧
      (ofTextAt position cs).tokens.map Prod.snd = tokens := by
  induction splits generalizing position with
  | nil => rw [ofTextAt]; exact ⟨rfl, rfl⟩
  | skip skipped _ ih => rw [ofTextAt_skip position skipped]; exact ih (position + 1)
  | @token token rest tokens longest _ ih =>
      have behind := ih (position + token.text.length)
      rw [ofTextAt_token position longest]
      exact ⟨behind.1, congrArg (token :: ·) behind.2⟩

theorem splits_ofTextAt (cs : List Char) (complete : (ofTextAt position cs).stuck = none) :
    Splits cs ((ofTextAt position cs).tokens.map Prod.snd) := by
  fun_induction ofTextAt position cs with
  | case1 => exact .nil
  | case2 position c rest skipped ih => exact .skip skipped (ih complete)
  | case3 => cases complete
  | case4 position c rest visible token behind scanned tail ih =>
      obtain ⟨whole, longest⟩ := Token.scan?_eq_some_iff.1 scanned
      rw [← whole]
      exact .token longest (ih complete)

/-- A text splits in one way at most, the one that the scan finds. -/
theorem splits_iff {tokens : List Token} :
    Splits cs tokens ↔
      (ofTextAt position cs).stuck = none ∧
        (ofTextAt position cs).tokens.map Prod.snd = tokens := by
  constructor
  · exact ofTextAt_of_splits position
  · intro scanned
    obtain ⟨complete, rfl⟩ := scanned
    exact splits_ofTextAt position cs complete

end Scan

theorem Splits.unique {cs : List Char} {tokens others : List Token} (splits : Splits cs tokens)
    (again : Splits cs others) : others = tokens := by
  rw [← ((Scan.splits_iff 0).1 again).2, ((Scan.splits_iff 0).1 splits).2]

end Spreadsheet.Formula
