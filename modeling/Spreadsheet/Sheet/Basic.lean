import Spreadsheet.Cell
import Spreadsheet.CellId
import Spreadsheet.Dependency.Links

/-!
# Sheets

Cells by identifier and the links between them. An edit that is refused leaves the
sheet as it was; an accepted one also brings every cell up to date that reads from
the edited cell, directly or through others.
-/

set_option autoImplicit false

namespace Spreadsheet

/-- Why an edit is refused. -/
inductive EditError where
  | invalidId (id : String)
  | badFormula (error : ParseError)
  | cycle (path : List String)
deriving DecidableEq, Repr

def EditError.message : EditError → String
  | invalidId id =>
    s!"Invalid cell identifier: {Text.quote id} " ++
      "(expected uppercase letters followed by a number, e.g. A1)"
  | badFormula error => error.message
  | cycle path => "Circular cell reference: " ++ " -> ".intercalate path

/-- A sheet. -/
structure Sheet where
  cells : Table String Cell
  links : Links
deriving DecidableEq

namespace Sheet

def empty : Sheet := ⟨∅, ∅⟩

instance : EmptyCollection Sheet := ⟨empty⟩

/-- Evaluates the cell of an identifier, if there is one. -/
def refresh (cells : Table String Cell) (id : String) : Table String Cell :=
  match cells.get? id with
  | none => cells
  | some cell => cells.set id (cell.evaluate cells)

/-- Evaluates every direct or indirect reader of an identifier, each once, and gives their
identifiers in the order of evaluation. -/
def refreshReaders (sheet : Sheet) (id : String) : Sheet × List String :=
  let order := sheet.links.updateOrder id
  ({ sheet with cells := order.foldl refresh sheet.cells }, order)

/-- Removes the cell of an identifier. The cells that were evaluated anew are given
with the sheet; nothing happens if there is no cell. -/
def delete (sheet : Sheet) (id : String) : Sheet × Except EditError (List String) :=
  if !CellId.isValid id then (sheet, .error (.invalidId id))
  else if !sheet.cells.contains id then (sheet, .ok [])
  else
    let (sheet, updated) := refreshReaders ⟨sheet.cells.erase id, sheet.links.remove id⟩ id
    (sheet, .ok updated)

/-- Gives an identifier a cell made from a text. A blank text deletes the cell. The
readers that were evaluated anew are given with the sheet. -/
def set (sheet : Sheet) (id : String) (text : String) : Sheet × Except EditError (List String) :=
  if !CellId.isValid id then (sheet, .error (.invalidId id))
  else
    match Cell.ofText text with
    | .error error => (sheet, .error (.badFormula error))
    | .ok none => sheet.delete id
    | .ok (some cell) =>
      match sheet.links.add id cell.references with
      | (links, some path) => ({ sheet with links }, .error (.cycle path))
      | (links, none) =>
        let (sheet, updated) := refreshReaders ⟨refresh (sheet.cells.set id cell) id, links⟩ id
        (sheet, .ok updated)

def size (sheet : Sheet) : Nat := sheet.cells.size

/-- The text shown for an identifier; no cell shows nothing. -/
def display (sheet : Sheet) (id : String) : String :=
  ((sheet.cells.get? id).map Cell.display).getD ""

def contents (sheet : Sheet) (id : String) : String :=
  ((sheet.cells.get? id).map Cell.contents).getD ""

/-- The identifiers of the cells in error. -/
def failing (sheet : Sheet) : List String :=
  (sheet.cells.rows.filter (·.2.isError)).map Prod.fst

end Sheet

end Spreadsheet
