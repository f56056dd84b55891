import Spreadsheet.Formula.Evaluation
import Spreadsheet.Formula.Printer
import Spreadsheet.Proofs.Formula.Evaluation
import Spreadsheet.Proofs.Formula.Spacing
import Spreadsheet.Proofs.Number.Decimal

/-! The text of a formula reads back as its tree: parentheses stand wherever the grammar needs
them. The grammar has no negative literals, so a minus sign in front of one is a negation. Trees
with more levels than there is room for have no text, though texts with such trees are read. -/

set_option autoImplicit false

namespace Spreadsheet.Formula

/-- The literals have numerals and the references are identifiers. -/
structure Writable (tree : Formula) : Prop where
  literals : ∀ value, .number value ∈ tree.subtrees →
    value.isFinite = true ∧ value ≠ Double.zero true
  references : ∀ cell, .reference cell ∈ tree.subtrees → CellId.Valid cell.toList

/-- The tree with each negative literal as the negation of its absolute value. -/
def unsigned : Formula → Formula
  | number value => if value.negative then negate (number value.neg) else number value
  | reference cell => reference cell
  | negate operand => negate operand.unsigned
  | binary op left right => binary op left.unsigned right.unsigned

theorem Writable.of_subtrees {tree inside : Formula} (writable : tree.Writable)
    (within : inside.subtrees ⊆ tree.subtrees) : inside.Writable :=
  ⟨fun value literal => writable.literals value (within literal),
    fun cell reference => writable.references cell (within reference)⟩

section Subtrees

variable {op : Operator} {first second : Formula}

theorem subtrees_negate : first.subtrees ⊆ (negate first).subtrees :=
  List.subset_cons_self _ _

theorem subtrees_left : first.subtrees ⊆ (binary op first second).subtrees :=
  List.subset_cons_of_subset _ (List.subset_append_left _ _)

theorem subtrees_right : second.subtrees ⊆ (binary op first second).subtrees :=
  List.subset_cons_of_subset _ (List.subset_append_right _ _)

end Subtrees

theorem unsigned_eq_self {tree : Formula}
    (positive : ∀ value, .number value ∈ tree.subtrees → value.negative = false) :
    tree.unsigned = tree := by
  induction tree with
  | number value => rw [unsigned, positive value (List.mem_singleton.2 rfl), if_neg Bool.false_ne_true]
  | reference cell => rfl
  | negate operand ih =>
      rw [unsigned, ih fun value inside => positive value (subtrees_negate inside)]
  | binary op left right leftIH rightIH =>
      rw [unsigned, leftIH fun value inside => positive value (subtrees_left inside),
        rightIH fun value inside => positive value (subtrees_right inside)]

private theorem meaning_unsigned (tree : Formula) (resolve : Resolver) :
    tree.unsigned.meaning resolve = tree.meaning resolve := by
  induction tree with
  | number value =>
      rw [unsigned]
      split
      · simp only [meaning, Except.map, Double.neg, Bool.not_not]
      · rfl
  | reference cell => rfl
  | negate operand ih => rw [unsigned, meaning, meaning, ih]
  | binary op left right leftIH rightIH => rw [unsigned, meaning, meaning, leftIH, rightIH]

/-! ### Parentheses -/

/-- How strongly the trees of a level bind at least. -/
def Level.binding : Level → Nat
  | .sum => 1
  | .product => 2
  | .unary => 3
  | .atom => 4

section Binding

variable {level : Level} {tokens : List Token} {tree : Formula}
  (derived : Derives level tokens tree)

include derived

theorem Derives.toUnary (tight : 3 ≤ level.binding) : Derives .unary tokens tree := by
  cases level with
  | sum => exact absurd tight (by decide)
  | product => exact absurd tight (by decide)
  | unary => exact derived
  | atom => exact .unary derived

theorem Derives.toProduct (tight : 2 ≤ level.binding) : Derives .product tokens tree := by
  cases level with
  | sum => exact absurd tight (by decide)
  | product => exact derived
  | unary => exact .product derived
  | atom => exact .product (.unary derived)

theorem Derives.toSum : Derives .sum tokens tree := by
  cases level with
  | sum => exact derived
  | product => exact .sum derived
  | unary => exact .sum (.product derived)
  | atom => exact .sum (.product (.unary derived))

end Binding

/-- The text is tokens that derive the tree on a level that binds at least so strongly. -/
def Spells (text : List Char) (least : Nat) (tree : Formula) : Prop :=
  ∃ level tokens, tokens.flatMap Token.text = text ∧ (∀ token ∈ tokens, token.WellFormed) ∧
    Derives level tokens tree ∧ least ≤ level.binding

section Spells

variable {text : List Char} {least : Nat} {tree : Formula}

theorem Spells.parenthesized {wanted : Bool} {within : Nat} (spells : Spells text least tree)
    (enough : wanted = false → within ≤ least) (bounded : within ≤ 4) :
    Spells (parenthesized wanted text) within tree := by
  obtain ⟨level, tokens, rfl, formed, derived, tight⟩ := spells
  cases wanted with
  | false => exact ⟨level, tokens, rfl, formed, derived, (enough rfl).trans tight⟩
  | true =>
      refine ⟨.atom, _, ?_, ?_, .group derived.toSum, bounded⟩
      · simp [Formula.parenthesized, Token.text]
      · refine List.forall_mem_append.2 ⟨List.forall_mem_cons.2 ⟨trivial, formed⟩, ?_⟩
        exact List.forall_mem_singleton.2 trivial

theorem Spells.negate (spells : Spells text 3 tree) : Spells ('-' :: text) 3 (.negate tree) := by
  obtain ⟨level, tokens, rfl, formed, derived, tight⟩ := spells
  refine ⟨.unary, .operator .sub :: tokens, rfl, ?_, .negate (derived.toUnary tight), Nat.le_refl _⟩
  exact List.forall_mem_cons.2 ⟨trivial, formed⟩

theorem Spells.binary {right : List Char} {second : Formula} {op : Operator}
    (spells : Spells text op.precedence tree) (behind : Spells right (op.precedence + 1) second) :
    Spells (text ++ op.symbol :: right) op.precedence (.binary op tree second) := by
  obtain ⟨level, tokens, rfl, formed, derived, tight⟩ := spells
  obtain ⟨other, others, rfl, otherFormed, otherDerived, otherTight⟩ := behind
  have whole : (tokens ++ .operator op :: others).flatMap Token.text =
      tokens.flatMap Token.text ++ op.symbol :: others.flatMap Token.text := by
    rw [List.flatMap_append, List.flatMap_cons]
    rfl
  have allFormed : ∀ token ∈ tokens ++ .operator op :: others, token.WellFormed :=
    List.forall_mem_append.2 ⟨formed, List.forall_mem_cons.2 ⟨trivial, otherFormed⟩⟩
  cases op with
  | add =>
      exact ⟨.sum, _, whole, allFormed,
        .additive (.inl rfl) derived.toSum (otherDerived.toProduct otherTight), Nat.le_refl _⟩
  | sub =>
      exact ⟨.sum, _, whole, allFormed,
        .additive (.inr rfl) derived.toSum (otherDerived.toProduct otherTight), Nat.le_refl _⟩
  | mul =>
      exact ⟨.product, _, whole, allFormed,
        .multiplicative (.inl rfl) (derived.toProduct tight) (otherDerived.toUnary otherTight),
        Nat.le_refl _⟩
  | div =>
      exact ⟨.product, _, whole, allFormed,
        .multiplicative (.inr rfl) (derived.toProduct tight) (otherDerived.toUnary otherTight),
        Nat.le_refl _⟩

end Spells

private theorem spells_literal {value : Double} (finite : value.isFinite = true)
    (other : value ≠ Double.zero true) : Spells value.literal 3 (unsigned (.number value)) := by
  obtain ⟨n, formed, text, reads⟩ := Double.exists_numeral_literal finite other
  have atom : Spells n.text 3 (.number n.value) := by
    refine ⟨.atom, [.number n], ?_, List.forall_mem_singleton.2 formed, .number n, by decide⟩
    rw [List.flatMap_singleton]
    rfl
  rw [text, unsigned]
  cases negative : value.negative with
  | false =>
      have same : n.value = value := by rw [reads, ← negative]
      rw [same] at atom
      rw [if_neg Bool.false_ne_true, if_neg Bool.false_ne_true]
      exact atom
  | true =>
      have absolute : n.value = value.neg := by rw [reads, Double.neg, negative, Bool.not_true]
      rw [absolute] at atom
      exact atom.negate

/-! ### Texts of trees -/

/-- The calls that are open at once while the tree is written. -/
def calls : Formula → Nat
  | number _ => 2
  | reference _ => 1
  | negate operand => operand.calls + 1
  | binary _ left right => max left.calls right.calls + 1

/-- The text of the tree without the marker, however many levels there are. -/
def written : Formula → List Char
  | number value => value.literal
  | reference cell => cell.toList
  | negate operand => '-' :: parenthesized (operand.precedence < 3) operand.written
  | binary op left right =>
    parenthesized (left.precedence < op.precedence) left.written ++
      op.symbol :: parenthesized (right.precedence ≤ op.precedence) right.written

section Written

variable {tree : Formula} {room : Nat} {text : List Char}

theorem render_eq (tree : Formula) (room : Nat) :
    tree.render room = if tree.calls ≤ room then some tree.written else none := by
  induction tree generalizing room with
  | number value => rcases room with _ | _ | room <;> simp [render, calls, written]
  | reference cell => rcases room with _ | room <;> simp [render, calls, written]
  | negate operand ih =>
      rcases room with _ | room
      · rfl
      · rw [render, ih, calls]
        by_cases fits : operand.calls ≤ room <;> simp [fits, written]
  | binary op left right leftIH rightIH =>
      rcases room with _ | room
      · rfl
      · rw [render, leftIH, rightIH, calls]
        by_cases first : left.calls ≤ room <;> by_cases second : right.calls ≤ room <;>
          simp [first, second, written]

theorem toText_eq_some_iff :
    tree.toText room = some text ↔ tree.calls ≤ room ∧ text = '=' :: tree.written := by
  rw [toText, render_eq]
  by_cases fits : tree.calls ≤ room <;> simp [fits, eq_comm]

theorem toText_eq_none_iff : tree.toText room = none ↔ room < tree.calls := by
  rw [toText, render_eq, Option.map_eq_none_iff, ite_eq_right_iff, imp_iff_not nofun, Nat.not_le]

end Written

/-- The text derives the tree, and as tightly as its outermost operation binds. -/
theorem Writable.spells_written {tree : Formula} (writable : tree.Writable) :
    Spells tree.written (min tree.precedence 3) tree.unsigned := by
  induction tree with
  -- A literal has the precedence of an atom, but with a minus sign it is a unary only.
  | number value =>
      obtain ⟨finite, other⟩ := writable.literals value (List.mem_singleton.2 rfl)
      exact spells_literal finite other
  | reference cell =>
      have valid := writable.references cell (List.mem_singleton.2 rfl)
      have atom := Derives.reference cell.toList
      rw [String.ofList_toList] at atom
      refine ⟨.atom, [.reference cell.toList], ?_, List.forall_mem_singleton.2 valid, atom, ?_⟩
      · rw [List.flatMap_singleton]
        rfl
      · exact (Nat.min_le_left _ _)
  | negate operand ih =>
      have inside := ih (writable.of_subtrees subtrees_negate)
      refine (inside.parenthesized (fun wide => ?_) (by decide)).negate
      have tight := of_decide_eq_false wide
      omega
  -- The right operand has to bind more tightly than the operator, the left one only as tightly.
  | binary op left right leftIH rightIH =>
      have first := leftIH (writable.of_subtrees subtrees_left)
      have second := rightIH (writable.of_subtrees subtrees_right)
      have bounds : 1 ≤ op.precedence ∧ op.precedence ≤ 2 := by cases op <;> decide
      have least : min (binary op left right).precedence 3 = op.precedence := by
        rw [precedence]
        omega
      rw [least]
      refine (first.parenthesized (fun wide => ?_) (by omega)).binary
        (second.parenthesized (fun wide => ?_) (by omega))
      · have tight := of_decide_eq_false wide
        omega
      · have tight := of_decide_eq_false wide
        omega

private theorem spaced_of_wellFormed {tokens : List Token}
    (formed : ∀ token ∈ tokens, token.WellFormed) :
    Spaced (tokens.flatMap Token.text) tokens := by
  induction tokens with
  | nil => exact .nil
  | cons token rest ih =>
      rw [List.forall_mem_cons] at formed
      rw [List.flatMap_cons]
      exact .token formed.1 (ih formed.2)

/-- Tokens of a derivation are found again in their texts behind the marker, without any blanks. -/
theorem Derives.splits {level : Level} {tokens : List Token} {tree : Formula}
    (derived : Derives level tokens tree) (formed : ∀ token ∈ tokens, token.WellFormed) :
    Splits (Text.trim ('=' :: tokens.flatMap Token.text)) (.equals :: tokens) := by
  have allFormed : ∀ token ∈ .equals :: tokens, token.WellFormed :=
    List.forall_mem_cons.2 ⟨trivial, formed⟩
  have visible : ∀ c ∈ (Token.equals :: tokens).flatMap Token.text, Text.isBlank c = false := by
    intro c member
    obtain ⟨token, among, inside⟩ := List.mem_flatMap.1 member
    exact (allFormed token among).isBlank_of_mem_text inside
  have splits := (spaced_of_wellFormed allFormed).splits (Apart.sign .nil derived.apart rfl)
  rwa [← Text.trim_eq_self visible] at splits

theorem Spells.writes {text : List Char} {least : Nat} {tree : Formula}
    (spells : Spells text least tree) : Writes ('=' :: text) tree := by
  obtain ⟨level, tokens, rfl, formed, derived, _⟩ := spells
  exact ⟨tokens, derived.splits formed, derived.toSum⟩

/-! ### Trees that are read -/

/-- The tree of a token that is an operand. -/
def Token.leaf? : Token → Option Formula
  | number numeral => some (.number numeral.value)
  | reference cell => some (.reference (String.ofList cell))
  | _ => none

section Leaf

variable {leaf : Formula} (atomic : leaf.precedence = 4)

include atomic

theorem leaf_of_binary {op : Operator} {left right : Formula}
    (inside : leaf ∈ (binary op left right).subtrees) :
    leaf ∈ left.subtrees ∨ leaf ∈ right.subtrees := by
  rcases List.mem_cons.1 inside with rfl | below
  · cases op <;> cases atomic
  · exact List.mem_append.1 below

theorem leaf_of_negate {operand : Formula} (inside : leaf ∈ (negate operand).subtrees) :
    leaf ∈ operand.subtrees := by
  rcases List.mem_cons.1 inside with rfl | below
  · cases atomic
  · exact below

theorem Derives.exists_token {level : Level} {tokens : List Token} {tree : Formula}
    (derived : Derives level tokens tree) (inside : leaf ∈ tree.subtrees) :
    ∃ token ∈ tokens, token.leaf? = some leaf := by
  have joined : ∀ {left right : List Token} {op : Operator},
      (∃ token ∈ left, token.leaf? = some leaf) ∨ (∃ token ∈ right, token.leaf? = some leaf) →
      ∃ token ∈ left ++ .operator op :: right, token.leaf? = some leaf := by
    rintro left right op (⟨token, member, shape⟩ | ⟨token, member, shape⟩)
    · exact ⟨token, List.mem_append_left _ member, shape⟩
    · exact ⟨token, List.mem_append_right _ (List.mem_cons_of_mem _ member), shape⟩
  induction derived with
  | sum _ ih => exact ih inside
  | additive _ _ _ leftIH rightIH => exact joined ((leaf_of_binary atomic inside).imp leftIH rightIH)
  | product _ ih => exact ih inside
  | multiplicative _ _ _ leftIH rightIH =>
      exact joined ((leaf_of_binary atomic inside).imp leftIH rightIH)
  | unary _ ih => exact ih inside
  | negate _ ih =>
      obtain ⟨token, member, shape⟩ := ih (leaf_of_negate atomic inside)
      exact ⟨token, List.mem_cons_of_mem _ member, shape⟩
  | number numeral =>
      rw [List.mem_singleton.1 inside]
      exact ⟨_, List.mem_singleton.2 rfl, rfl⟩
  | reference cell =>
      rw [List.mem_singleton.1 inside]
      exact ⟨_, List.mem_singleton.2 rfl, rfl⟩
  | group _ ih =>
      obtain ⟨token, member, shape⟩ := ih inside
      exact ⟨token, List.mem_append_left _ (List.mem_cons_of_mem _ member), shape⟩

end Leaf

theorem Splits.wellFormed {cs : List Char} {tokens : List Token} (splits : Splits cs tokens) :
    ∀ token ∈ tokens, token.WellFormed := by
  induction splits with
  | nil => exact nofun
  | skip _ _ ih => exact ih
  | token longest _ ih => exact List.forall_mem_cons.2 ⟨longest.formed, ih⟩

section Read

variable {text : List Char} {tree : Formula}

theorem Writes.negative_of_literal (writes : Writes text tree) {value : Double}
    (inside : .number value ∈ tree.subtrees) : value.negative = false := by
  obtain ⟨tokens, _, derived⟩ := writes
  obtain ⟨token, _, shape⟩ := derived.exists_token rfl inside
  cases token with
  | number numeral =>
      cases shape
      exact congrArg Double.negative (Double.ofDecimal_unsigned false _ _)
  | reference cell => cases shape
  | equals => cases shape
  | operator op => cases shape
  | opening => cases shape
  | closing => cases shape

theorem Writes.valid_of_reference (writes : Writes text tree) {cell : String}
    (inside : .reference cell ∈ tree.subtrees) : CellId.Valid cell.toList := by
  obtain ⟨tokens, splits, derived⟩ := writes
  obtain ⟨token, among, shape⟩ := derived.exists_token rfl inside
  have formed := splits.wellFormed token (List.mem_cons_of_mem _ among)
  cases token with
  | reference cell =>
      cases shape
      rw [String.toList_ofList]
      exact formed
  | number numeral => cases shape
  | equals => cases shape
  | operator op => cases shape
  | opening => cases shape
  | closing => cases shape

theorem Writes.writable (writes : Writes text tree)
    (finite : ∀ value, .number value ∈ tree.subtrees → value.isFinite = true) : tree.Writable := by
  refine ⟨fun value inside => ⟨finite value inside, ?_⟩, fun _ => writes.valid_of_reference⟩
  rintro rfl
  have positive := writes.negative_of_literal inside
  cases positive

end Read

theorem Writable.parse_written {tree : Formula} (writable : tree.Writable) :
    parse ('=' :: tree.written) = .ok tree.unsigned :=
  parse_eq_ok_iff.2 writable.spells_written.writes

/-- There is a text of a formula exactly if there is room for it. The text reads back as the
formula, with negative literals as negations, and the value stays; the text of a formula that was
read, with finite literals, reads back as just that formula. -/
theorem parse_toText (tree : Formula) (room : Nat) :
    (room < tree.calls → tree.toText room = none) ∧
    (tree.calls ≤ room → ∃ text, tree.toText room = some text ∧
      (tree.Writable → parse text = .ok tree.unsigned ∧
        ((∀ value, .number value ∈ tree.subtrees → value.negative = false) →
          parse text = .ok tree) ∧
        ∀ resolve, tree.unsigned.evaluate resolve = tree.evaluate resolve) ∧
      ((∀ value, .number value ∈ tree.subtrees → value.isFinite = true) →
        ∀ source, parse source = .ok tree → parse text = .ok tree)) := by
  refine ⟨toText_eq_none_iff.2, fun fits =>
    ⟨_, toText_eq_some_iff.2 ⟨fits, rfl⟩, fun writable => ?_, fun finite source parsed => ?_⟩⟩
  · refine ⟨writable.parse_written, fun positive => ?_, fun resolve => ?_⟩
    · rw [writable.parse_written, unsigned_eq_self positive]
    · rw [evaluate_eq, evaluate_eq, meaning_unsigned]
  · have writes := parse_eq_ok_iff.1 parsed
    rw [(writes.writable finite).parse_written,
      unsigned_eq_self fun _ => writes.negative_of_literal]

/-- A right operand in parentheses that begins with a negative literal. -/
def negativeOperand : Formula :=
  binary .sub (reference "A1") (binary .add (number (.ofDecimal true 1 (-5))) (reference "B2"))

theorem parse_toText_of_negative_literal :
    negativeOperand.Writable ∧ negativeOperand.toText 4 = some "=A1-(-1e-05+B2)".toList ∧
      negativeOperand.toText 3 = none ∧
      parse "=A1-(-1e-05+B2)".toList = .ok (binary .sub (reference "A1")
        (binary .add (negate (number (.ofDecimal false 1 (-5)))) (reference "B2"))) := by
  have writable : negativeOperand.Writable := by
    refine ⟨fun value inside => ?_, fun cell inside => ?_⟩
    · simp only [negativeOperand, subtrees, List.mem_cons, List.mem_append, reduceCtorEq,
        number.injEq, List.not_mem_nil, or_false, false_or] at inside
      rw [inside]
      decide +kernel
    · simp only [negativeOperand, subtrees, List.mem_cons, List.mem_append, reduceCtorEq,
        reference.injEq, List.not_mem_nil, or_false, false_or] at inside
      rcases inside with rfl | rfl
      · exact CellId.isValid_iff.1 (by decide +kernel)
      · exact CellId.isValid_iff.1 (by decide +kernel)
  have text : negativeOperand.toText 4 = some "=A1-(-1e-05+B2)".toList := by decide +kernel
  have tree : negativeOperand.unsigned = binary .sub (reference "A1")
      (binary .add (negate (number (.ofDecimal false 1 (-5)))) (reference "B2")) := by
    decide +kernel
  obtain ⟨canonical, shown, reading, _⟩ := (parse_toText negativeOperand 4).2 (by decide)
  rw [text] at shown
  cases shown
  obtain ⟨reads, _⟩ := reading writable
  rw [tree] at reads
  exact ⟨writable, text, (parse_toText negativeOperand 3).1 (by decide), reads⟩

/-- A one behind some minus signs. -/
def negations : Nat → Formula
  | 0 => number (.ofDecimal false 1 0)
  | count + 1 => negate (negations count)

private theorem calls_negations (count : Nat) : (negations count).calls = count + 2 := by
  induction count with
  | zero => rfl
  | succ count ih => rw [negations, calls, ih]

private theorem written_negations (count : Nat) :
    (negations count).written = List.replicate count '-' ++ ['1'] := by
  induction count with
  | zero => decide +kernel
  | succ count ih =>
      have tight : ¬ (negations count).precedence < 3 := by
        cases count <;> simp [negations, precedence]
      rw [negations, written, ih, parenthesized, if_neg (by simp [tight]), List.replicate_succ,
        List.cons_append]

private theorem one_of_subtrees_negations {count : Nat} {leaf : Formula}
    (atomic : leaf.precedence = 4) (inside : leaf ∈ (negations count).subtrees) :
    leaf = number (.ofDecimal false 1 0) := by
  induction count with
  | zero => exact List.mem_singleton.1 inside
  | succ count ih => exact ih (leaf_of_negate atomic inside)

/-- With a thousand minus signs in front of a number a tree is read that has no text, if no more
than a thousand calls can be open at once. -/
theorem toText_of_many_signs :
    parse ('=' :: (List.replicate 1000 '-' ++ ['1'])) = .ok (negations 1000) ∧
      (negations 1000).Writable ∧ (negations 1000).toText 1000 = none := by
  have positive : ∀ value, number value ∈ (negations 1000).subtrees →
      value.negative = false := by
    intro value inside
    rw [number.inj (one_of_subtrees_negations rfl inside)]
    decide +kernel
  have writable : (negations 1000).Writable := by
    refine ⟨fun value inside => ?_, fun cell inside => ?_⟩
    · rw [number.inj (one_of_subtrees_negations rfl inside)]
      decide +kernel
    · cases one_of_subtrees_negations rfl inside
  refine ⟨?_, writable, toText_eq_none_iff.2 ?_⟩
  · rw [← written_negations, writable.parse_written, unsigned_eq_self positive]
  · rw [calls_negations]
    decide

end Spreadsheet.Formula
