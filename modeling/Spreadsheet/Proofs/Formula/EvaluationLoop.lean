import Spreadsheet.Proofs.Formula.Evaluation
import Spreadsheet.Proofs.Formula.Recomputation
import Spreadsheet.Proofs.Loop

/-! Evaluation as a loop without a bound, over a stack of trees to visit and a stack of the values
found. It ends with what the rules of evaluation give, and finds a value wherever it takes one. -/

set_option autoImplicit false

namespace Spreadsheet.Formula

/-- The rules of evaluation: the left operand comes before the right one, both come before the
operation, and the first fault is that of the whole. -/
inductive Yields (resolve : Resolver) : Formula → Except Fault Double → Prop where
  | number (value : Double) : Yields resolve (.number value) (.ok value)
  | reference (cell : String) : Yields resolve (.reference cell) (resolve cell)
  | negate {operand : Formula} {value : Double} :
      Yields resolve operand (.ok value) → Yields resolve (.negate operand) (.ok value.neg)
  | negateFault {operand : Formula} {fault : Fault} :
      Yields resolve operand (.error fault) → Yields resolve (.negate operand) (.error fault)
  | binary {op : Operator} {left right : Formula} {leftValue rightValue : Double} :
      Yields resolve left (.ok leftValue) → Yields resolve right (.ok rightValue) →
      ¬ (op = .div ∧ rightValue.isZero = true) →
      Yields resolve (.binary op left right) (.ok (compute op leftValue rightValue))
  | divisionByZero {left right : Formula} {leftValue : Double} (negative : Bool) :
      Yields resolve left (.ok leftValue) → Yields resolve right (.ok (Double.zero negative)) →
      Yields resolve (.binary .div left right) (.error .divisionByZero)
  | leftFault {op : Operator} {left right : Formula} {fault : Fault} :
      Yields resolve left (.error fault) → Yields resolve (.binary op left right) (.error fault)
  | rightFault {op : Operator} {left right : Formula} {leftValue : Double} {fault : Fault} :
      Yields resolve left (.ok leftValue) → Yields resolve right (.error fault) →
      Yields resolve (.binary op left right) (.error fault)

/-- The trees to visit, each with a note whether its operands are done, and the values found that
no operation has taken yet. -/
structure Visit where
  stack : List (Formula × Bool)
  values : List Double

/-- How the loop can stop: with a value, with a fault, at an operation that finds no value to
take, or with more or less than one value at the end. -/
inductive Stop where
  | value (value : Double)
  | fault (fault : Fault)
  | noValue
  | malformed

def Stop.ofResult : Except Fault Double → Stop
  | .ok found => .value found
  | .error met => .fault met

/-- The loop behind an operation or a reference, which gives a value or ends the loop. -/
def Visit.behind (stack : List (Formula × Bool)) (values : List Double) :
    Except Fault Double → Visit ⊕ Stop
  | .ok value => .inl ⟨stack, value :: values⟩
  | .error fault => .inr (.fault fault)

/-- Takes the tree on top of the stack. An operation comes back on it below its operands, with the
note that they are done, and then takes their values. -/
def Visit.round (resolve : Resolver) : Visit → Visit ⊕ Stop
  | ⟨[], [value]⟩ => .inr (.value value)
  | ⟨[], _⟩ => .inr .malformed
  | ⟨(.number value, _) :: stack, values⟩ => .inl ⟨stack, value :: values⟩
  | ⟨(.reference cell, _) :: stack, values⟩ => Visit.behind stack values (resolve cell)
  | ⟨(.negate operand, false) :: stack, values⟩ =>
    .inl ⟨(operand, false) :: (.negate operand, true) :: stack, values⟩
  | ⟨(.negate _, true) :: stack, value :: values⟩ => .inl ⟨stack, value.neg :: values⟩
  | ⟨(.binary op left right, false) :: stack, values⟩ =>
    .inl ⟨(left, false) :: (right, false) :: (.binary op left right, true) :: stack, values⟩
  | ⟨(.binary op _ _, true) :: stack, right :: left :: values⟩ =>
    Visit.behind stack values (apply op left right)
  | _ => .inr .noValue

section Loop

variable {resolve : Resolver} {tree : Formula} {result : Except Fault Double}

private theorem Yields.meaning_eq (yields : Yields resolve tree result) :
    tree.meaning resolve = result := by
  induction yields with
  | number value => rfl
  | reference cell => rfl
  | negate _ ih => rw [meaning, ih]; rfl
  | negateFault _ ih => rw [meaning, ih]; rfl
  | binary _ _ harmless leftIH rightIH =>
      rw [meaning, leftIH, rightIH]
      exact apply_of_harmless _ harmless
  | @divisionByZero left right leftValue negative _ _ leftIH rightIH =>
      have zero : (Double.zero negative).isZero = true := rfl
      rw [meaning, leftIH, rightIH]
      exact apply_of_div_by_zero leftValue zero
  | leftFault _ ih => rw [meaning, ih]; rfl
  | rightFault _ _ leftIH rightIH => rw [meaning, leftIH, rightIH]; rfl

private theorem eq_zero_of_isZero {value : Double} (zero : value.isZero = true) :
    value = Double.zero value.negative := by
  obtain ⟨negative, place, bounded⟩ := value
  obtain rfl : place = 0 := beq_iff_eq.1 zero
  rfl

theorem yields_meaning (resolve : Resolver) (tree : Formula) :
    Yields resolve tree (tree.meaning resolve) := by
  induction tree with
  | number value => exact .number value
  | reference cell => exact .reference cell
  | negate operand ih =>
      rw [meaning]
      cases outcome : operand.meaning resolve with
      | error fault => exact .negateFault (outcome ▸ ih)
      | ok value => exact .negate (outcome ▸ ih)
  | binary op left right leftIH rightIH =>
      rw [meaning]
      cases first : left.meaning resolve with
      | error fault => exact .leftFault (first ▸ leftIH)
      | ok leftValue =>
          cases second : right.meaning resolve with
          | error fault => exact .rightFault (first ▸ leftIH) (second ▸ rightIH)
          | ok rightValue =>
              change Yields resolve _ (apply op leftValue rightValue)
              by_cases harmful : op = .div ∧ rightValue.isZero = true
              · obtain ⟨rfl, zero⟩ := harmful
                rw [apply_of_div_by_zero _ zero]
                rw [second, eq_zero_of_isZero zero] at rightIH
                exact .divisionByZero _ (first ▸ leftIH) rightIH
              · rw [apply_of_harmless _ harmful]
                exact .binary (first ▸ leftIH) (second ▸ rightIH) harmful

private theorem yields_iff : Yields resolve tree result ↔ result = tree.meaning resolve :=
  ⟨fun yields => yields.meaning_eq.symm, fun same => same ▸ yields_meaning resolve tree⟩

/-- The loop stops so where the result of a tree has come out on top of the rest. -/
def EndsBehind (resolve : Resolver) (stack : List (Formula × Bool)) (values : List Double)
    (stop : Stop) : Except Fault Double → Prop
  | .ok value => Ends (Visit.round resolve) ⟨stack, value :: values⟩ stop
  | .error fault => stop = .fault fault

variable {stack : List (Formula × Bool)} {values : List Double} {stop : Stop}

theorem ends_of_behind {state : Visit}
    (next : Visit.round resolve state = Visit.behind stack values result)
    (ends : EndsBehind resolve stack values stop result) :
    Ends (Visit.round resolve) state stop := by
  cases result with
  | ok value => exact .again next ends
  | error fault =>
      obtain rfl : stop = .fault fault := ends
      exact .stop next

/-- A tree adds its value to the values found, whatever lies below it on both stacks. -/
theorem Yields.ends (yields : Yields resolve tree result)
    (ends : EndsBehind resolve stack values stop result) :
    Ends (Visit.round resolve) ⟨(tree, false) :: stack, values⟩ stop := by
  induction yields generalizing stack values with
  | number value => exact .again rfl ends
  | reference cell => exact ends_of_behind rfl ends
  | negate _ ih => exact .again rfl (ih (.again rfl ends))
  | negateFault _ ih => exact .again rfl (ih ends)
  | binary _ _ harmless leftIH rightIH =>
      refine .again rfl (leftIH (rightIH (ends_of_behind ?_ ends)))
      exact congrArg (Visit.behind stack values) (apply_of_harmless _ harmless)
  | divisionByZero negative _ _ leftIH rightIH =>
      refine .again rfl (leftIH (rightIH ?_))
      exact @ends_of_behind resolve (.error .divisionByZero) stack values stop _ rfl ends
  | leftFault _ ih => exact .again rfl (ih ends)
  | rightFault _ _ leftIH rightIH => exact .again rfl (leftIH (rightIH ends))

private theorem Yields.ends_start (yields : Yields resolve tree result) :
    Ends (Visit.round resolve) ⟨[(tree, false)], []⟩ (.ofResult result) := by
  refine yields.ends ?_
  cases result with
  | ok value => exact .stop rfl
  | error fault => rfl

end Loop

/-- Every tree has one result by the rules of evaluation. The loop ends with it and in no other
way, and so does the machine. -/
theorem evaluation_exact (tree : Formula) (resolve : Resolver) :
    ∃ result, (∀ other, Yields resolve tree other ↔ other = result) ∧
      (∀ stop, Ends (Visit.round resolve) ⟨[(tree, false)], []⟩ stop ↔
        stop = .ofResult result) ∧
      tree.evaluate resolve = result.mapError .faulty :=
  ⟨tree.meaning resolve, fun _ => yields_iff,
    (yields_meaning resolve tree).ends_start.iff_eq, evaluate_eq tree resolve⟩

/-- The division fails before the reference behind it is read. -/
example : evaluate (.binary .sub (.binary .div (.number (.zero false)) (.number (.zero true)))
    (.reference "A1")) (fun cell => .error (.unusable cell .empty)) =
      .error (.faulty .divisionByZero) := by
  decide +kernel

end Spreadsheet.Formula
