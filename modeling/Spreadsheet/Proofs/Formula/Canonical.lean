import Spreadsheet.Proofs.Formula.Rendering
import Spreadsheet.Proofs.Number.Literal

/-! Canonical texts: what is read of a text is written as a text that reads back as the same, unless
a literal is too great for a double. It has become infinite then, and no numeral writes that. A tree
with more levels than there is room for has no canonical text at all. -/

set_option autoImplicit false

namespace Spreadsheet

private theorem Double.mem_literal_of_not_finite {x : Double} (infinite : x.isFinite ≠ true) :
    'n' ∈ x.literal := by
  rw [literal_of_not_finite infinite]
  split
  · decide
  · exact List.mem_append_right _ (by decide)

namespace Formula

/-- The canonical text of what a text writes, as far as there is room for it. -/
def canonical (text : List Char) (room : Nat) : Except ParseError (Option (List Char)) :=
  (parse text).map (·.toText room)

def Finite (tree : Formula) : Prop :=
  ∀ value, .number value ∈ tree.subtrees → value.isFinite = true

section Words

variable {tree other : Formula} {text : List Char} {token : Token} {c : Char}

private theorem subset_parenthesized (wanted : Bool) (text : List Char) :
    text ⊆ parenthesized wanted text := by
  cases wanted with
  | false => exact List.Subset.refl _
  | true => exact List.subset_cons_of_subset _ (List.subset_append_left _ _)

private theorem literal_subset_written {value : Double} (inside : .number value ∈ tree.subtrees) :
    value.literal ⊆ tree.written := by
  induction tree with
  | number other =>
      rw [number.inj (List.mem_singleton.1 inside)]
      exact List.Subset.refl _
  | reference cell => exact nomatch List.mem_singleton.1 inside
  | negate operand ih =>
      have below := ih (leaf_of_negate rfl inside)
      exact List.subset_cons_of_subset _ (List.Subset.trans below (subset_parenthesized _ _))
  | binary op left right leftIH rightIH =>
      rcases leaf_of_binary rfl inside with first | second
      · exact List.subset_append_of_subset_left _
          (List.Subset.trans (leftIH first) (subset_parenthesized _ _))
      · exact List.subset_append_of_subset_right _ (List.subset_cons_of_subset _
          (List.Subset.trans (rightIH second) (subset_parenthesized _ _)))

/-- Tokens have no small letters but the mark of an exponent. -/
theorem Token.WellFormed.not_mem_text (formed : token.WellFormed) : 'n' ∉ token.text := by
  intro member
  cases token with
  | equals => exact absurd member (by decide)
  | operator op => cases op <;> exact absurd member (by decide)
  | opening => exact absurd member (by decide)
  | closing => exact absurd member (by decide)
  | number numeral => exact absurd (Numeral.WellFormed.digit_or_sign formed member) (by decide)
  | reference cell => exact absurd (CellId.Valid.letter_or_digit formed member) (by decide)

theorem Splits.of_mem {tokens : List Token} (splits : Splits text tokens) (member : c ∈ text) :
    isSkipped c = true ∨ ∃ token ∈ tokens, c ∈ token.text := by
  induction splits with
  | nil => cases member
  | skip skipped _ ih =>
      rcases List.mem_cons.1 member with rfl | behind
      · exact .inl skipped
      · exact ih behind
  | @token token _ _ _ _ ih =>
      rcases List.mem_append.1 member with here | behind
      · exact .inr ⟨token, List.mem_cons_self, here⟩
      · refine (ih behind).imp_right fun found => ?_
        obtain ⟨later, among, inside⟩ := found
        exact ⟨later, List.mem_cons_of_mem _ among, inside⟩

theorem Writes.not_mem (writes : Writes text tree) : 'n' ∉ text := by
  intro member
  obtain ⟨tokens, splits, _⟩ := writes
  rcases splits.of_mem (Text.mem_trim member rfl) with skipped | ⟨token, among, inside⟩
  · cases skipped
  · exact (splits.wellFormed token among).not_mem_text inside

/-- A tree whose text can be read has finite literals only. -/
theorem Writes.finite (writes : Writes ('=' :: tree.written) other) : tree.Finite := by
  intro value inside
  by_contra infinite
  have word := literal_subset_written inside (Double.mem_literal_of_not_finite infinite)
  exact writes.not_mem (List.mem_cons_of_mem _ word)

theorem Writes.parse_written (writes : Writes text tree) (finite : tree.Finite) :
    parse ('=' :: tree.written) = .ok tree := by
  rw [(writes.writable finite).parse_written, unsigned_eq_self fun _ => writes.negative_of_literal]

end Words

/-- A formula that is read and has no more levels than there is room for has a canonical text. That
reads back as the formula, and so is its own canonical text, exactly if the literals are finite;
otherwise it is refused. -/
theorem canonical_stable {text : List Char} {tree : Formula} (read : parse text = .ok tree)
    (room : Nat) :
    (room < tree.calls → canonical text room = .ok none) ∧
    (tree.calls ≤ room → ∃ shown, canonical text room = .ok (some shown) ∧
      (tree.Finite → parse shown = .ok tree ∧ canonical shown room = canonical text room) ∧
      (¬ tree.Finite → ∃ error, parse shown = .error error)) := by
  have same : canonical text room = .ok (tree.toText room) := by
    rw [canonical, read, Except.map]
  refine ⟨fun long => same.trans (congrArg Except.ok (toText_eq_none_iff.2 long)), fun fits => ?_⟩
  have shown : tree.toText room = some ('=' :: tree.written) := toText_eq_some_iff.2 ⟨fits, rfl⟩
  refine ⟨_, same.trans (congrArg Except.ok shown), fun finite => ?_, fun infinite => ?_⟩
  · have again := (parse_eq_ok_iff.1 read).parse_written finite
    exact ⟨again, by rw [canonical, canonical, again, read]⟩
  · cases again : parse ('=' :: tree.written) with
    | error error => exact ⟨error, rfl⟩
    | ok other => exact absurd (parse_eq_ok_iff.1 again).finite infinite

/-- Divides by a literal that is too small for a double. -/
def smallDivisor : Formula :=
  .binary .div (.negate (.binary .mul (.number (.ofDecimal false 100 0))
    (.binary .sub (.number (.ofDecimal false 5 (-1))) (.reference "A1")))) (.number (.zero false))

theorem canonical_of_small_literal :
    canonical "= -(\u0661E+2*(.5-A1))/1e-400".toList 6 = .ok (some "=-(100*(0.5-A1))/0".toList) ∧
      parse "=-(100*(0.5-A1))/0".toList = .ok smallDivisor ∧
      canonical "=-(100*(0.5-A1))/0".toList 6 = .ok (some "=-(100*(0.5-A1))/0".toList) ∧
      canonical "= -(\u0661E+2*(.5-A1))/1e-400".toList 5 = .ok none := by
  have read : parse "= -(\u0661E+2*(.5-A1))/1e-400".toList = .ok smallDivisor := by
    decide +kernel
  have finite : smallDivisor.Finite := by
    intro value inside
    simp only [smallDivisor, subtrees, List.mem_cons, List.mem_append, reduceCtorEq,
      number.injEq, List.not_mem_nil, or_false, false_or] at inside
    rcases inside with (same | same) | same <;> rw [same] <;> decide +kernel
  have text : smallDivisor.toText 6 = some "=-(100*(0.5-A1))/0".toList := by decide +kernel
  have written : canonical "= -(\u0661E+2*(.5-A1))/1e-400".toList 6 =
      .ok (some "=-(100*(0.5-A1))/0".toList) := by rw [canonical, read, ← text]; rfl
  obtain ⟨shown, told, again, _⟩ := (canonical_stable read 6).2 (by decide)
  rw [written] at told
  cases told
  obtain ⟨parsed, stable⟩ := again finite
  exact ⟨written, parsed, stable.trans written, (canonical_stable read 5).1 (by decide)⟩

/-- A literal too great for a double reads as infinity, whose text is refused. -/
theorem canonical_refused_of_great_literal :
    canonical "=1e400".toList 1000 = .ok (some "=inf".toList) ∧
      canonical "=inf".toList 1000 = .error (.unexpectedCharacter 'i' 1) := by
  decide +kernel

end Formula

end Spreadsheet
