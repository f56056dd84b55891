import Spreadsheet.Cell

/-! Evaluation that knows the cells of a sheet by their texts alone. A reference leads
to the text of its cell and, if that is a formula, to another evaluation. -/

set_option autoImplicit false

namespace Spreadsheet

/-- The double that an operation gives, division by zero apart. -/
def Formula.compute : Operator → Double → Double → Double
  | .add => Double.add
  | .sub => Double.sub
  | .mul => Double.mul
  | .div => Double.div

/-- What a formula comes to over the texts of the cells, from left to right: a number,
or the first fault. No result of an earlier evaluation takes part. -/
inductive Recomputes (texts : String → Option String) :
    Formula → Except Fault Double → Prop where
  | number {value : Double} : Recomputes texts (.number value) (.ok value)
  | absent {id : String} : texts id = none →
      Recomputes texts (.reference id) (.error (.unusable id .empty))
  | string {id text contents : String} : texts id = some text →
      Cell.ofText text = .ok (some (.string contents)) →
      Recomputes texts (.reference id) (.error (.unusable id .text))
  | literal {id text contents : String} {value : Double} : texts id = some text →
      Cell.ofText text = .ok (some (.number contents value)) →
      Recomputes texts (.reference id) (.ok value)
  | formula {id text contents : String} {tree : Formula} {value : Double} :
      texts id = some text → Cell.ofText text = .ok (some (.formula contents tree .pending)) →
      Recomputes texts tree (.ok value) → Recomputes texts (.reference id) (.ok value)
  | failing {id text contents : String} {tree : Formula} {fault : Fault} :
      texts id = some text → Cell.ofText text = .ok (some (.formula contents tree .pending)) →
      Recomputes texts tree (.error fault) →
      Recomputes texts (.reference id) (.error (.unusable id .inError))
  | negate {operand : Formula} {value : Double} :
      Recomputes texts operand (.ok value) → Recomputes texts (.negate operand) (.ok value.neg)
  | negateFault {operand : Formula} {fault : Fault} :
      Recomputes texts operand (.error fault) → Recomputes texts (.negate operand) (.error fault)
  | binary {op : Operator} {left right : Formula} {leftValue rightValue : Double} :
      Recomputes texts left (.ok leftValue) → Recomputes texts right (.ok rightValue) →
      ¬ (op = .div ∧ rightValue.isZero = true) →
      Recomputes texts (.binary op left right) (.ok (Formula.compute op leftValue rightValue))
  | divisionByZero {left right : Formula} {leftValue rightValue : Double} :
      Recomputes texts left (.ok leftValue) → Recomputes texts right (.ok rightValue) →
      rightValue.isZero = true →
      Recomputes texts (.binary .div left right) (.error .divisionByZero)
  | leftFault {op : Operator} {left right : Formula} {fault : Fault} :
      Recomputes texts left (.error fault) → Recomputes texts (.binary op left right) (.error fault)
  | rightFault {op : Operator} {left right : Formula} {leftValue : Double} {fault : Fault} :
      Recomputes texts left (.ok leftValue) → Recomputes texts right (.error fault) →
      Recomputes texts (.binary op left right) (.error fault)

/-- The cell that an identifier has by the texts of the cells alone. -/
inductive Rebuilds (texts : String → Option String) (id : String) : Cell → Prop where
  | number {text contents : String} {value : Double} : texts id = some text →
      Cell.ofText text = .ok (some (.number contents value)) →
      Rebuilds texts id (.number contents value)
  | string {text contents : String} : texts id = some text →
      Cell.ofText text = .ok (some (.string contents)) → Rebuilds texts id (.string contents)
  | value {text contents : String} {tree : Formula} {value : Double} : texts id = some text →
      Cell.ofText text = .ok (some (.formula contents tree .pending)) →
      Recomputes texts tree (.ok value) → Rebuilds texts id (.formula contents tree (.value value))
  | failed {text contents : String} {tree : Formula} {fault : Fault} : texts id = some text →
      Cell.ofText text = .ok (some (.formula contents tree .pending)) →
      Recomputes texts tree (.error fault) →
      Rebuilds texts id (.formula contents tree (.failed (.faulty fault)))

namespace Formula

theorem apply_of_div_by_zero (leftValue : Double) {rightValue : Double}
    (zero : rightValue.isZero = true) :
    apply .div leftValue rightValue = .error .divisionByZero := if_pos zero

theorem apply_of_harmless {op : Operator} (leftValue : Double) {rightValue : Double}
    (harmless : ¬ (op = .div ∧ rightValue.isZero = true)) :
    apply op leftValue rightValue = .ok (compute op leftValue rightValue) := by
  cases op with
  | add => rfl
  | sub => rfl
  | mul => rfl
  | div => exact if_neg fun zero => harmless ⟨rfl, zero⟩

end Formula

end Spreadsheet
