import Spreadsheet.Proofs.Formula.Rendering
import Spreadsheet.Proofs.Number.Literal

/-! The canonical text of a formula has the fewest parentheses of all its texts: a pair stands only
where the grammar has no other way to the tree. -/

set_option autoImplicit false

namespace Spreadsheet.Formula

/-- The two signs of a pair, with their tokens. -/
inductive Parenthesis : Char → Token → Prop where
  | opening : Parenthesis '(' .opening
  | closing : Parenthesis ')' .closing

section Counting

variable {sign : Char} {token : Token} (paired : Parenthesis sign token)

include paired

private theorem Parenthesis.not_mem_numeral {n : Numeral} (formed : n.WellFormed) :
    sign ∉ n.text := by
  intro member
  have character := formed.digit_or_sign member
  cases paired <;> exact absurd character (by decide)

theorem Parenthesis.not_mem_id {id : List Char} (valid : CellId.Valid id) : sign ∉ id := by
  intro member
  have character := valid.letter_or_digit member
  cases paired <;> exact absurd character (by decide)

private theorem Parenthesis.count_text {other : Token} (formed : other.WellFormed) :
    other.text.count sign = [other].count token := by
  cases other with
  | number n =>
      rw [Token.text, List.count_eq_zero.2 (paired.not_mem_numeral formed)]
      cases paired <;> rfl
  | reference cell =>
      rw [Token.text, List.count_eq_zero.2 (paired.not_mem_id formed)]
      cases paired <;> rfl
  | operator op => cases paired <;> cases op <;> rfl
  | _ => cases paired <;> rfl

theorem Splits.count {cs : List Char} {tokens : List Token} (splits : Splits cs tokens) :
    cs.count sign = tokens.count token := by
  induction splits with
  | nil => rfl
  | @skip c cs tokens skipped _ ih =>
      have other : c ≠ sign := by
        rintro rfl
        cases paired <;> cases skipped
      rw [List.count_cons_of_ne other, ih]
  | token longest _ ih =>
      rw [List.count_append, paired.count_text longest.formed, ih, ← List.count_append,
        List.singleton_append]

end Counting

private theorem Derives.balanced {level : Level} {tokens : List Token} {tree : Formula}
    (derived : Derives level tokens tree) : tokens.count .opening = tokens.count .closing := by
  induction derived with
  | sum _ ih => exact ih
  | additive _ _ _ leftIH rightIH => simp [leftIH, rightIH]
  | product _ ih => exact ih
  | multiplicative _ _ _ leftIH rightIH => simp [leftIH, rightIH]
  | unary _ ih => exact ih
  | negate _ ih => simpa using ih
  | number numeral => rfl
  | reference cell => rfl
  | group _ ih => simp [ih]

/-! ### Pairs that a tree needs -/

/-- The pairs that the operands of a tree need. -/
def groups : Formula → Nat
  | number _ => 0
  | reference _ => 0
  | negate operand => operand.groups + if operand.precedence < 3 then 1 else 0
  | binary op left right =>
    (left.groups + if left.precedence < op.precedence then 1 else 0) +
      (right.groups + if right.precedence < op.precedence + 1 then 1 else 0)

/-- The pairs of a tree where what binds less than `least` takes a pair itself. -/
def groupsAt (least : Nat) (tree : Formula) : Nat :=
  tree.groups + if tree.precedence < least then 1 else 0

section Groups

variable {least greater : Nat} {tree : Formula}

theorem groupsAt_mono (ordered : least ≤ greater) :
    tree.groupsAt least ≤ tree.groupsAt greater := by
  unfold groupsAt
  split
  · rw [if_pos (by omega)]
  · exact Nat.le_add_right _ _

theorem groupsAt_of_le (tight : least ≤ tree.precedence) : tree.groupsAt least = tree.groups := by
  rw [groupsAt, if_neg (Nat.not_lt.2 tight), Nat.add_zero]

private theorem groupsAt_le_succ (least : Nat) (tree : Formula) :
    tree.groupsAt least ≤ tree.groups + 1 := by
  unfold groupsAt
  split <;> omega

/-- A derivation has the pairs that the tree needs on its level. -/
theorem Derives.groupsAt_le {level : Level} {tokens : List Token}
    (derived : Derives level tokens tree) :
    tree.groupsAt level.binding ≤ tokens.count .opening := by
  have joined {op : Operator} {left right : List Token} {first second : Formula}
      (before : first.groupsAt op.precedence ≤ left.count .opening)
      (behind : second.groupsAt (op.precedence + 1) ≤ right.count .opening) :
      (binary op first second).groupsAt op.precedence ≤
        (left ++ .operator op :: right).count .opening := by
    have own : (binary op first second).groupsAt op.precedence = (binary op first second).groups :=
      groupsAt_of_le (Nat.le_refl _)
    rw [own, List.count_append, List.count_cons_of_ne (by simp)]
    exact Nat.add_le_add before behind
  induction derived with
  | sum _ ih => exact (groupsAt_mono (by decide)).trans ih
  | additive additive _ _ leftIH rightIH =>
      rcases additive with rfl | rfl <;> exact joined leftIH rightIH
  | product _ ih => exact (groupsAt_mono (by decide)).trans ih
  | multiplicative multiplicative _ _ leftIH rightIH =>
      rcases multiplicative with rfl | rfl <;> exact joined leftIH rightIH
  | unary _ ih => exact (groupsAt_mono (by decide)).trans ih
  | @negate tokens operand _ ih =>
      have own : operand.negate.groupsAt 3 = operand.negate.groups := groupsAt_of_le (Nat.le_refl _)
      rw [Level.binding, own, List.count_cons_of_ne (by simp)]
      exact ih
  | number numeral => exact Nat.le_refl 0
  | reference cell => exact Nat.le_refl 0
  | @group tokens inside _ ih =>
      have within := Nat.le_trans (Nat.le_add_right _ _) ih
      rw [List.cons_append, List.count_cons_self, List.count_append]
      exact (groupsAt_le_succ _ _).trans (Nat.succ_le_succ (within.trans (Nat.le_add_right _ _)))

end Groups

/-- The text has no other pairs than these. -/
theorem Writable.count_written {tree : Formula} (writable : tree.Writable) :
    tree.written.count '(' = tree.groups := by
  have pair (wanted : Prop) [Decidable wanted] (text : List Char) :
      (parenthesized wanted text).count '(' = text.count '(' + if wanted then 1 else 0 := by
    by_cases yes : wanted <;> simp [parenthesized, yes]
  induction tree with
  | number value =>
      refine List.count_eq_zero.2 fun member => ?_
      exact absurd (Double.mem_literal member) (by decide)
  | reference cell =>
      have valid := writable.references cell (List.mem_singleton.2 rfl)
      exact List.count_eq_zero.2 (Parenthesis.opening.not_mem_id valid)
  | negate operand ih =>
      rw [written, groups, ← ih (writable.of_subtrees subtrees_negate), ← pair,
        List.count_cons_of_ne (by decide)]
  | binary op left right leftIH rightIH =>
      have other : op.symbol ≠ '(' := by cases op <;> decide
      rw [written, groups, ← leftIH (writable.of_subtrees subtrees_left),
        ← rightIH (writable.of_subtrees subtrees_right), ← pair, ← pair, List.count_append,
        List.count_cons_of_ne other]
      simp only [Nat.lt_succ_iff]

/-- A text that reads as a tree has its parentheses in pairs, and all that the tree needs. -/
theorem Writes.groups_le {text : List Char} {tree : Formula} (writes : Writes text tree) :
    text.count '(' = text.count ')' ∧ tree.groups ≤ text.count '(' := by
  obtain ⟨tokens, splits, derived⟩ := writes
  have opening := splits.count .opening
  have closing := splits.count .closing
  rw [Text.count_trim rfl, List.count_cons_of_ne (by simp)] at opening closing
  rw [opening, closing]
  exact ⟨derived.balanced, Nat.le_trans (Nat.le_add_right _ _) derived.groupsAt_le⟩

/-- The canonical text of a tree, if there is room for it, has as few parentheses as any text that
reads as the tree. Without one of its pairs, it is refused or reads as another tree. -/
theorem toText_fewest_parentheses {tree : Formula} (writable : tree.Writable)
    (positive : ∀ value, .number value ∈ tree.subtrees → value.negative = false)
    {room : Nat} {canonical : List Char} (shown : tree.toText room = some canonical) :
    parse canonical = .ok tree ∧
    (∀ text, parse text = .ok tree →
      text.count '(' = text.count ')' ∧ canonical.count '(' ≤ text.count '(') ∧
    ∀ before inside behind, canonical = before ++ '(' :: (inside ++ ')' :: behind) →
      parse (before ++ inside ++ behind) ≠ .ok tree := by
  obtain ⟨-, rfl⟩ := toText_eq_some_iff.1 shown
  have count : ('=' :: tree.written).count '(' = tree.groups := by
    rw [List.count_cons_of_ne (by decide), writable.count_written]
  refine ⟨?_, fun text read => ?_, fun before inside behind shape read => ?_⟩
  · rw [writable.parse_written, unsigned_eq_self positive]
  · rw [count]
    exact (parse_eq_ok_iff.1 read).groups_le
  · have fewer := (parse_eq_ok_iff.1 read).groups_le.2
    rw [← count, shape] at fewer
    simp only [List.count_append, List.count_cons_self] at fewer
    rw [List.count_cons_of_ne (by decide)] at fewer
    omega

/-- The last pair is there for its side alone: products and quotients bind alike. -/
def nestedGroups : Formula :=
  .binary .sub (.reference "A1") (.binary .mul (.binary .sub (.reference "B2") (.reference "B3"))
    (.negate (.binary .add (.number (.ofDecimal false 5 (-1)))
      (.binary .div (.reference "C1") (.binary .mul (.reference "A1") (.reference "D1"))))))

theorem fewest_parentheses_of_nestedGroups :
    nestedGroups.toText 10 = some "=A1-(B2-B3)*-(0.5+C1/(A1*D1))".toList ∧
      parse "=A1-(B2-B3)*-(0.5+C1/(A1*D1))".toList = .ok nestedGroups ∧
      (∀ text, parse text = .ok nestedGroups →
        text.count '(' = text.count ')' ∧ 3 ≤ text.count '(') ∧
      parse "=A1-(B2-B3)*-(0.5+C1/A1*D1)".toList ≠ .ok nestedGroups := by
  have text : nestedGroups.toText 10 = some "=A1-(B2-B3)*-(0.5+C1/(A1*D1))".toList := by
    decide +kernel
  have three : "=A1-(B2-B3)*-(0.5+C1/(A1*D1))".toList.count '(' = 3 := by decide
  have read : parse "=A1-(B2-B3)*-(0.5+C1/(A1*D1))".toList = .ok nestedGroups := by
    decide +kernel
  have finite : ∀ value, .number value ∈ nestedGroups.subtrees → value.isFinite = true := by
    intro value inside
    simp only [nestedGroups, subtrees, List.mem_cons, List.mem_append, reduceCtorEq,
      number.injEq, List.not_mem_nil, or_false, false_or] at inside
    rw [inside]
    decide +kernel
  have writes := parse_eq_ok_iff.1 read
  obtain ⟨again, fewest, needed⟩ := toText_fewest_parentheses (writes.writable finite)
    (fun value => writes.negative_of_literal) text
  rw [three] at fewest
  exact ⟨text, again, fewest, needed "=A1-(B2-B3)*-(0.5+C1/".toList "A1*D1".toList ")".toList rfl⟩

end Spreadsheet.Formula
