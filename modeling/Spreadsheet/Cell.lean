import Spreadsheet.Collection.Table
import Spreadsheet.Formula.Evaluation
import Spreadsheet.Formula.Parser
import Spreadsheet.Number.Display

/-!
# Cells

A cell holds a number, a string or a formula, made from the text that the user
typed. Only the result of a formula changes after that.
-/

set_option autoImplicit false

namespace Spreadsheet

/-- What is known of the value of a formula cell. -/
inductive Result where
  | pending
  | value (value : Double)
  | failed (failure : Formula.Failure)
deriving DecidableEq

/-- A cell with the text that it was made from, without outer blanks. -/
inductive Cell where
  | number (contents : String) (value : Double)
  | string (contents : String)
  | formula (contents : String) (tree : Formula) (result : Result)
deriving DecidableEq

namespace Cell

def contents : Cell → String
  | number contents _ => contents
  | string contents => contents
  | formula contents _ _ => contents

def kind : Cell → String
  | number .. => "number"
  | string .. => "string"
  | formula .. => "formula"

def formula? : Cell → Option Formula
  | formula _ tree _ => some tree
  | _ => none

def value? : Cell → Option Double
  | number _ value => some value
  | formula _ _ (.value value) => some value
  | _ => none

def isError : Cell → Bool
  | formula _ _ (.value _) => false
  | formula .. => true
  | _ => false

def message? : Cell → Option String
  | formula _ _ .pending => some "not evaluated"
  | formula _ _ (.failed failure) => some failure.message
  | _ => none

def display : Cell → String
  | number _ value => String.ofList value.display
  | string contents => contents
  | formula _ _ (.value value) => String.ofList value.display
  | formula .. => "ERROR"

def references : Cell → IdSet
  | formula _ tree _ => tree.references
  | _ => ∅

/-- The cell as one line of text, with its kind and contents. -/
def summary : Cell → String
  | number contents _ => s!"NumberCell({Text.quote contents})"
  | string contents => s!"StringCell({Text.quote contents})"
  | formula contents _ _ => s!"FormulaCell({Text.quote contents})"

/-- The number of a cell for a formula that refers to it. -/
def resolve (cells : Table String Cell) (id : String) : Except Fault Double :=
  match cells.get? id with
  | none => .error (.unusable id .empty)
  | some (string _) => .error (.unusable id .text)
  | some cell =>
    match cell.value? with
    | some value => .ok value
    | none => .error (.unusable id .inError)

/-- The cell with the result that the given cells lead to. Only formulas change. -/
def evaluate (cells : Table String Cell) : Cell → Cell
  | formula contents tree _ =>
    match tree.evaluate (resolve cells) with
    | .ok value => formula contents tree (.value value)
    | .error failure => formula contents tree (.failed failure)
  | cell => cell

/-- The cell for a typed text: none for a blank text, a number if the text is one
from end to end, a formula behind the marker, otherwise a string. -/
def ofText (text : String) : Except ParseError (Option Cell) :=
  match Text.trim text.toList with
  | [] => .ok none
  | c :: rest =>
    let contents := String.ofList (c :: rest)
    match Double.ofText? (c :: rest) with
    | some value => .ok (some (number contents value))
    | none =>
      if c = '=' then do
        let tree ← Formula.parse (c :: rest)
        pure (some (formula contents tree .pending))
      else .ok (some (string contents))

end Cell

end Spreadsheet
