import Spreadsheet.Dependency.Listing
import Spreadsheet.Sheet.Basic

/-!
# Views of a sheet

The sheet as text, for users.
-/

set_option autoImplicit false

namespace Spreadsheet.Sheet

/-- The line of a cell: identifier, value and contents. -/
def row (id : String) (cell : Cell) : String :=
  s!"{Text.alignRight 6 id} |{Text.alignRight 7 cell.display} | '{cell.contents}'\n"

/-- The table of the cells, followed by the links if they are wanted. -/
def view (sheet : Sheet) (withLinks : Bool) : String :=
  "    ID |  Value | Contents\n" ++
  "-------+--------+---------------\n" ++
  String.join (sheet.cells.rows.map fun (id, cell) => row id cell) ++
  if withLinks then "\nCell Dependencies\n" ++ sheet.links.listing else ""

def summary (sheet : Sheet) : String := s!"Sheet(cells={sheet.size})"

end Spreadsheet.Sheet
