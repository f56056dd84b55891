import Spreadsheet.Formula.Tree
import Spreadsheet.Number.Display

/-!
# Writing formulas

The canonical text of a formula, with parentheses only where the tree needs them,
and an indented dump of the tree. Only a tree with few enough levels has a canonical text;
dumps have no such limit.
-/

set_option autoImplicit false

namespace Spreadsheet

def Operator.precedence : Operator → Nat
  | .add | .sub => 1
  | .mul | .div => 2

namespace Formula

/-- How strongly the outermost operation of a formula binds. -/
def precedence : Formula → Nat
  | number _ => 4
  | reference _ => 4
  | negate _ => 3
  | binary op _ _ => op.precedence

def parenthesized (wanted : Bool) (text : List Char) : List Char :=
  if wanted then '(' :: text ++ [')'] else text

/-- The text of a formula without the marker. Operands are written by calls within the call for
their operation, and the literal of a number by one within its own; there is no text if more
than `room` calls would be open at once. An operand that binds less than its operation takes
parentheses, and so does a right operand that binds equally: operations group to the left. -/
def render : Formula → Nat → Option (List Char)
  | _, 0 => none
  | number value, room + 1 => if room = 0 then none else some value.literal
  | reference cell, _ + 1 => some cell.toList
  | negate operand, room + 1 => do
    let text ← operand.render room
    pure ('-' :: parenthesized (operand.precedence < 3) text)
  | binary op left right, room + 1 => do
    let first ← left.render room
    let second ← right.render room
    pure (parenthesized (left.precedence < op.precedence) first ++
      op.symbol :: parenthesized (right.precedence ≤ op.precedence) second)

def toText (formula : Formula) (room : Nat) : Option (List Char) :=
  (formula.render room).map ('=' :: ·)

/-- The line of a subtree in a dump, without its indentation. -/
def label : Formula → List Char
  | number value => value.literal
  | reference cell => cell.toList
  | negate _ => "negate".toList
  | binary op _ _ => [op.symbol]

/-- The lines of a dump. Operands stand `indent` further to the right than their
operation. -/
def dumpLines (indent depth : Nat) : Formula → List (List Char)
  | number value => [List.replicate depth ' ' ++ (number value).label]
  | reference cell => [List.replicate depth ' ' ++ (reference cell).label]
  | negate operand =>
    (List.replicate depth ' ' ++ (negate operand).label) ::
      operand.dumpLines indent (depth + indent)
  | binary op left right =>
    (List.replicate depth ' ' ++ (binary op left right).label) ::
      (left.dumpLines indent (depth + indent) ++ right.dumpLines indent (depth + indent))

def dump (formula : Formula) (indent : Nat) : List Char :=
  List.intercalate ['\n'] (formula.dumpLines indent 0)

end Formula

end Spreadsheet
