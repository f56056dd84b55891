import Spreadsheet.Formula.Tree
import Spreadsheet.Number.Arithmetic

/-!
# Evaluating formulas

A formula is evaluated from left to right by a machine with a list of tasks and a
stack of values, so its depth does not matter. `meaning` says what the machine
computes: the value of the operands, then the operation, or the first fault met.
-/

set_option autoImplicit false

namespace Spreadsheet

/-- Why a reference gives no number. -/
inductive Unusable where
  | empty
  | text
  | inError
deriving DecidableEq, Repr

def Unusable.reason : Unusable → String
  | .empty => "cell is empty"
  | .text => "cell holds a string"
  | .inError => "cell is in error"

/-- Why a formula has no value. -/
inductive Fault where
  | unusable (cell : String) (why : Unusable)
  | divisionByZero
deriving DecidableEq, Repr

def Fault.message : Fault → String
  | .unusable cell why => s!"Unusable reference {cell}: {why.reason}"
  | .divisionByZero => "float division by zero"

namespace Formula

/-- The number of a referenced cell, or why there is none. -/
abbrev Resolver := String → Except Fault Double

/-- An operation on two numbers. Division by zero of either sign is a fault,
whatever is divided. -/
def apply (op : Operator) (left right : Double) : Except Fault Double :=
  match op with
  | .add => .ok (left.add right)
  | .sub => .ok (left.sub right)
  | .mul => .ok (left.mul right)
  | .div => if right.isZero then .error .divisionByZero else .ok (left.div right)

/-- The value of a formula, or the first fault from left to right. -/
def meaning (resolve : Resolver) : Formula → Except Fault Double
  | number value => .ok value
  | reference cell => resolve cell
  | negate operand => (operand.meaning resolve).map Double.neg
  | binary op left right => do
    let leftValue ← left.meaning resolve
    let rightValue ← right.meaning resolve
    apply op leftValue rightValue

/-- What the machine has still to do. -/
inductive Task where
  | visit (formula : Formula)
  | negate
  | apply (op : Operator)

/-- How the machine can fail: by a fault of the formula, or because the stack does
not fit the tasks. -/
inductive Failure where
  | faulty (fault : Fault)
  | malformed
deriving DecidableEq, Repr

def Failure.message : Failure → String
  | .faulty fault => fault.message
  | .malformed => "Malformed formula tree"

def size : Formula → Nat
  | number _ => 1
  | reference _ => 1
  | negate operand => operand.size + 1
  | binary _ left right => left.size + right.size + 1

/-- How much work a task is: each tree is met twice at most. -/
def Task.work : Task → Nat
  | visit formula => 2 * formula.size
  | negate => 1
  | apply _ => 1

def totalWork (tasks : List Task) : Nat := tasks.foldr (fun task work => task.work + work) 0

def run (resolve : Resolver) (tasks : List Task) (values : List Double) :
    Except Failure Double :=
  match tasks with
  | [] =>
    match values with
    | [value] => .ok value
    | _ => .error .malformed
  | .visit (.number value) :: rest => run resolve rest (value :: values)
  | .visit (.reference cell) :: rest =>
    match resolve cell with
    | .ok value => run resolve rest (value :: values)
    | .error fault => .error (.faulty fault)
  | .visit (.negate operand) :: rest => run resolve (.visit operand :: .negate :: rest) values
  | .visit (.binary op left right) :: rest =>
    run resolve (.visit left :: .visit right :: .apply op :: rest) values
  | .negate :: rest =>
    match values with
    | value :: values => run resolve rest (value.neg :: values)
    | [] => .error .malformed
  | .apply op :: rest =>
    match values with
    | right :: left :: values =>
      match Formula.apply op left right with
      | .ok value => run resolve rest (value :: values)
      | .error fault => .error (.faulty fault)
    | _ => .error .malformed
termination_by totalWork tasks
decreasing_by
  all_goals simp only [totalWork, List.foldr_cons, Task.work, size]; omega

def evaluate (formula : Formula) (resolve : Resolver) : Except Failure Double :=
  run resolve [.visit formula] []

end Formula

end Spreadsheet
