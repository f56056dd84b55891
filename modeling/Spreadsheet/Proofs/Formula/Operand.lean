import Mathlib.Data.List.Forall2
import Spreadsheet.Proofs.Cell
import Spreadsheet.Proofs.Formula.Rendering

/-! The operands of a formula are the numerals and references of its text, in their order there. A
number is the same operand and cell, so it can be typed either way. -/

set_option autoImplicit false

namespace Spreadsheet

namespace Formula

def literal? : Formula → Option Double
  | number value => some value
  | _ => none

/-- The number literals, from left to right. -/
def literals (tree : Formula) : List Double := tree.subtrees.filterMap literal?

def Token.numeral? : Token → Option Numeral
  | number numeral => some numeral
  | _ => none

/-- What is told by leaves alone can be told from the tokens. -/
theorem Derives.filterMap_subtrees {α : Type} {part : Formula → Option α}
    (atomic : ∀ tree : Formula, tree.precedence < 4 → part tree = none) {level : Level}
    {tokens : List Token} {tree : Formula} (derived : Derives level tokens tree) :
    tree.subtrees.filterMap part = tokens.filterMap fun token => token.leaf?.bind part := by
  have sign (op : Operator) : (Token.operator op).leaf?.bind part = none := rfl
  have inner (op : Operator) (left right : Formula) : part (.binary op left right) = none :=
    atomic _ (by cases op <;> simp [precedence, Operator.precedence])
  have outer (tree : Formula) : part (.negate tree) = none := atomic _ (by simp [precedence])
  induction derived with
  | sum _ ih => exact ih
  | additive _ _ _ leftIH rightIH => simp [subtrees, inner, sign, leftIH, rightIH]
  | product _ ih => exact ih
  | multiplicative _ _ _ leftIH rightIH => simp [subtrees, inner, sign, leftIH, rightIH]
  | unary _ ih => exact ih
  | negate _ ih => simp [subtrees, outer, sign, ih]
  | number numeral => rfl
  | reference cell => rfl
  | group _ ih => simp [Token.leaf?, ih]

theorem Splits.numeral {text : List Char} {tokens : List Token} (splits : Splits text tokens)
    {numeral : Numeral} (inside : numeral ∈ tokens.filterMap Token.numeral?) :
    numeral.WellFormed := by
  obtain ⟨token, among, shape⟩ := List.mem_filterMap.1 inside
  have formed := splits.wellFormed token among
  cases token with
  | number numeral =>
      cases shape
      exact formed
  | _ => cases shape

theorem Derives.literals {level : Level} {tokens : List Token} {tree : Formula}
    (derived : Derives level tokens tree) :
    tree.literals = (tokens.filterMap Token.numeral?).map Numeral.value := by
  have atomic (tree : Formula) (inner : tree.precedence < 4) : tree.literal? = none := by
    cases tree with
    | number => simp [precedence] at inner
    | _ => rfl
  have leaf : (fun token : Token => token.leaf?.bind literal?) =
      fun token => token.numeral?.map Numeral.value := by
    funext token
    cases token <;> rfl
  rw [Formula.literals, derived.filterMap_subtrees atomic, leaf, List.map_filterMap]

/-- A number without a plus sign in front of it is a formula behind the marker. -/
theorem exists_writes_of_number {text : List Char} {value : Double}
    (number : Double.Writes text value) (unsigned : text.head? ≠ some '+') :
    ∃ tree, Writes ('=' :: text) tree ∧ tree.references = ∅ ∧
      ∀ resolve, tree.meaning resolve = .ok value := by
  obtain ⟨sign, numeral, signs, formed, rfl, rfl⟩ := number
  have atom : Derives .atom [.number numeral] (.number numeral.value) := .number numeral
  cases sign with
  | none =>
      have splits := atom.splits (List.forall_mem_singleton.2 formed)
      refine ⟨.number numeral.value, ⟨_, ?_, atom.toSum⟩, rfl, fun _ => rfl⟩
      simpa [Token.text] using splits
  | some sign =>
      obtain rfl : sign = '-' := (signs sign rfl).resolve_left fun plus => unsigned (by simp [plus])
      have positive : numeral.value.negative = false :=
        congrArg Double.negative (Double.ofDecimal_unsigned false _ _)
      have negation : Derives .unary [.operator .sub, .number numeral]
          (.negate (.number numeral.value)) := .negate (.unary atom)
      have splits := negation.splits
        (List.forall_mem_cons.2 ⟨trivial, List.forall_mem_singleton.2 formed⟩)
      refine ⟨.negate (.number numeral.value), ⟨_, ?_, negation.toSum⟩, rfl, fun _ => ?_⟩
      · simpa [Token.text, Operator.symbol] using splits
      · simp [meaning, Except.map, Double.neg, Double.signed, positive]

end Formula

theorem Double.Writes.isBlank_of_mem {text : List Char} {value : Double}
    (number : Double.Writes text value) : ∀ c ∈ text, Text.isBlank c = false := by
  obtain ⟨sign, numeral, signs, formed, rfl, -⟩ := number
  intro c member
  rcases List.mem_append.1 member with sign | inside
  · rcases signs c (Option.mem_toList.1 sign) with rfl | rfl <;> rfl
  · exact formed.isBlank_of_mem_text c inside

namespace Cell

private theorem ofText_of_writes {text : String} {value : Double}
    (number : Double.Writes text.toList value) : ofText text = .ok (some (.number text value)) := by
  have trim : Text.trim text.toList = text.toList := Text.trim_eq_self number.isBlank_of_mem
  obtain ⟨contents, made⟩ := ofText_eq_number_iff.2 (trim.symm ▸ number)
  obtain rfl : contents = trimmed text := (ofText_some made).1
  rwa [trimmed, trim, String.ofList_toList] at made

private theorem ofText_numeral {numeral : Numeral} (formed : numeral.WellFormed) :
    ofText (String.ofList numeral.text) =
      .ok (some (.number (String.ofList numeral.text) numeral.value)) :=
  ofText_of_writes ⟨none, numeral, nofun, formed, String.toList_ofList, rfl⟩

private theorem exists_formula_of_number {text : String} {value : Double}
    (number : Double.Writes text.toList value) (unsigned : text.toList.head? ≠ some '+') :
    ∃ tree : Formula, tree.references = ∅ ∧
      ofText ("=" ++ text) = .ok (some (.formula ("=" ++ text) tree .pending)) ∧
      ∀ cells, (formula ("=" ++ text) tree .pending).evaluate cells =
        .formula ("=" ++ text) tree (.value value) := by
  obtain ⟨tree, writes, alone, meaning⟩ := Formula.exists_writes_of_number number unsigned
  have marked : ("=" ++ text).toList = '=' :: text.toList := String.toList_append
  have trim : Text.trim ("=" ++ text).toList = ("=" ++ text).toList := by
    rw [marked]
    exact Text.trim_eq_self (List.forall_mem_cons.2 ⟨rfl, number.isBlank_of_mem⟩)
  obtain ⟨contents, made⟩ := ofText_eq_formula_iff.2 (marked.symm ▸ writes)
  obtain rfl : contents = trimmed ("=" ++ text) := (ofText_some made).1
  rw [trimmed, trim, String.ofList_toList] at made
  refine ⟨tree, alone, made, fun cells => ?_⟩
  simp [evaluate, Formula.evaluate_eq, meaning, Except.mapError]

/-- Every number but one with a plus sign can be typed as a formula, which has no references and the
same value and display, whatever the other cells hold. Conversely the numerals in the text of a
formula can be typed as numbers, and these are the literals of its tree. -/
theorem number_typed_either_way :
    (∀ (text contents : String) (value : Double), trimmed text = text →
      text.toList.head? ≠ some '+' → ofText text = .ok (some (.number contents value)) →
      ∃ typed, ofText ("=" ++ text) = .ok (some typed) ∧ typed.kind = "formula" ∧
        typed.references = ∅ ∧ ∀ cells, (typed.evaluate cells).isError = false ∧
          (typed.evaluate cells).value? = some value ∧
          (typed.evaluate cells).display = (number contents value).display) ∧
    ∀ (text : List Char) (tree : Formula), Formula.parse text = .ok tree →
      ∃ tokens, Formula.Splits (Text.trim text) tokens ∧
        (∀ other, Formula.Splits (Text.trim text) other → other = tokens) ∧
        List.Forall₂ (fun (numeral : Numeral) value =>
          ofText (String.ofList numeral.text) =
            .ok (some (.number (String.ofList numeral.text) value)))
          (tokens.filterMap Formula.Token.numeral?) tree.literals := by
  constructor
  · intro text contents value bare unsigned made
    have number := ofText_eq_number_iff.1 ⟨contents, made⟩
    rw [show Text.trim text.toList = text.toList by
      simpa [trimmed] using congrArg String.toList bare] at number
    obtain ⟨tree, alone, typed, evaluates⟩ := exists_formula_of_number number unsigned
    refine ⟨_, typed, rfl, alone, fun cells => ?_⟩
    rw [evaluates]
    exact ⟨rfl, rfl, rfl⟩
  · intro text tree read
    obtain ⟨tokens, splits, derived⟩ := Formula.parse_eq_ok_iff.1 read
    refine ⟨.equals :: tokens, splits, fun _ => splits.unique, ?_⟩
    rw [derived.literals, List.forall₂_map_right_iff]
    exact List.forall₂_same.2 fun numeral inside => ofText_numeral (splits.numeral inside)

/-- Negative zero keeps its sign, and digits of any script make up literals. -/
theorem negative_zero_typed_either_way :
    (∃ typed, ofText "=-0e5" = .ok (some typed) ∧ typed.kind = "formula" ∧
      typed.references = ∅ ∧ ∀ cells, (typed.evaluate cells).isError = false ∧
        (typed.evaluate cells).value? = some (.zero true) ∧
        (typed.evaluate cells).display = "-0.0") ∧
    ∃ tree, Formula.parse "= -(\u0661E+2*A1)/.5".toList = .ok tree ∧
      List.Forall₂ (fun (numeral : Numeral) value =>
        ofText (String.ofList numeral.text) =
          .ok (some (.number (String.ofList numeral.text) value)))
        [⟨['\u0661'], false, [], some ⟨'E', some '+', ['2']⟩⟩, ⟨[], true, ['5'], none⟩]
        tree.literals := by
  obtain ⟨numbers, literals⟩ := number_typed_either_way
  constructor
  · have display : (number "-0e5" (.zero true)).display = "-0.0" := by decide +kernel
    have typed := numbers "-0e5" "-0e5" (.zero true) (by decide +kernel) (by decide)
      (by decide +kernel)
    rwa [display] at typed
  · have read : Formula.parse "= -(\u0661E+2*A1)/.5".toList = .ok
        (.binary .div (.negate (.binary .mul (.number (.ofDecimal false 100 0)) (.reference "A1")))
          (.number (.ofDecimal false 5 (-1)))) := by decide +kernel
    obtain ⟨tokens, splits, unique, agree⟩ := literals _ _ read
    obtain ⟨-, rfl⟩ := (Formula.Scan.splits_iff 0).1 splits
    have numerals : ((Formula.Scan.ofText (Text.trim "= -(\u0661E+2*A1)/.5".toList)).tokens.map
        Prod.snd).filterMap Formula.Token.numeral? =
          [⟨['\u0661'], false, [], some ⟨'E', some '+', ['2']⟩⟩, ⟨[], true, ['5'], none⟩] := by
      decide +kernel
    exact ⟨_, read, numerals ▸ agree⟩

end Cell

end Spreadsheet
