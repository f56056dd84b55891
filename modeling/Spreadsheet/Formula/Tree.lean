import Spreadsheet.Number.Double
import Spreadsheet.Collection.IdSet

/-!
# Formula trees

Formulas as trees of numbers, references to cells, negations and the four
arithmetic operations.
-/

set_option autoImplicit false

namespace Spreadsheet

/-- The arithmetic operations. -/
inductive Operator where
  | add
  | sub
  | mul
  | div
deriving DecidableEq, Repr

def Operator.symbol : Operator → Char
  | .add => '+'
  | .sub => '-'
  | .mul => '*'
  | .div => '/'

/-- A formula. -/
inductive Formula where
  | number (value : Double)
  | reference (cell : String)
  | negate (operand : Formula)
  | binary (op : Operator) (left right : Formula)
deriving DecidableEq, Inhabited

namespace Formula

/-- Every subtree, a tree before the trees below it and the left operand before
the right one. -/
def subtrees : Formula → List Formula
  | number value => [number value]
  | reference cell => [reference cell]
  | negate operand => negate operand :: operand.subtrees
  | binary op left right => binary op left right :: (left.subtrees ++ right.subtrees)

/-- The cell that a tree refers to, if it is a single reference. -/
def referent? : Formula → Option String
  | reference cell => some cell
  | _ => none

def references (formula : Formula) : IdSet :=
  IdSet.ofList (formula.subtrees.filterMap referent?)

end Formula

end Spreadsheet
