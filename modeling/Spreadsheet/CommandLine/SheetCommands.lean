import Spreadsheet.CommandLine.Run
import Spreadsheet.Project.Scaffold
import Spreadsheet.Sheet.View

/-!
# Commands on sheet files

The commands that make a project, and those that read or edit one sheet file.
-/

set_option autoImplicit false

namespace Spreadsheet.CommandLine

/-- The disk after a sheet has been written to the file that the user named. -/
def storeSheet (host : Host) (sheet : Sheet) (name : String) (next : Host → Run) : Run :=
  match sheet.save host.disk (Path.ofText name) with
  | (disk, .ok ()) => next { host with disk }
  | (disk, .error (.disk .nullCharacter)) =>
    ⟨{ host with disk }, "", .broken (.disk .nullCharacter)⟩
  | (disk, .error error) =>
    ⟨{ host with disk }, "", .refused s!"Could not save {name}: {error.message}"⟩

/-- The cells that were evaluated anew with their values, a line each. -/
def updatedLines (sheet : Sheet) (updated : List String) : String :=
  String.join (updated.map fun id => s!"  {id} = {sheet.display id}\n")

def newProject (host : Host) (arguments : Arguments) : Run :=
  Run.follow host (onlyPath .anything host.disk arguments.positional) fun name =>
    let directory := Path.ofText name
    match Project.scaffold host.disk directory with
    | (disk, .ok ()) => .finished { host with disk } s!"Created project at {directory.text}\n"
    | (disk, .error (.disk (.system .alreadyExists path?))) =>
      ⟨{ host with disk }, "", .refused (DiskError.system .alreadyExists path?).message⟩
    | (disk, .error (.disk error)) => ⟨{ host with disk }, "", .broken (.disk error)⟩
    | (disk, .error (.alreadyProject directory)) =>
      ⟨{ host with disk }, "", .refused (Project.ScaffoldError.alreadyProject directory).message⟩

def showSheet (host : Host) (arguments : Arguments) : Run :=
  Run.follow host (do
    let name ← onlyPath .knownFile host.disk arguments.positional
    sheetIn host.disk (Path.ofText name) name)
  fun sheet => .finished host (sheet.view (!arguments.has "--no-deps"))

def showCell (host : Host) (arguments : Arguments) : Run :=
  Run.follow host (do
    let (name, id) ← pathAndCell .knownFile host.disk arguments.positional
    let sheet ← sheetIn host.disk (Path.ofText name) name
    if CellId.isValid id then pure (sheet.display id)
    else throw (.refused (EditError.invalidId id).message))
  fun value => .finished host s!"{value}\n"

/-- Gives a cell new contents. The file is made if there is none. -/
def editCell (host : Host) (arguments : Arguments) : Run :=
  Run.follow host (do
    let (name, rest) ← requiredPath .anyFile host.disk arguments.positional
    let (id, words) ← required rest
    let path := Path.ofText name
    let sheet ← if ← isThere host.disk path then sheetIn host.disk path name else pure ∅
    pure (name, id, " ".intercalate words, sheet))
  fun (name, id, contents, sheet) =>
    match sheet.set id contents with
    | (_, .error error) =>
      ⟨host, "", .refused s!"Could not set cell {id} to {contents}:\n{error.message}"⟩
    | (sheet, .ok updated) =>
      storeSheet host sheet name fun host =>
        .finished host (s!"{id} = {sheet.display id}\n" ++ updatedLines sheet updated)

def clearCell (host : Host) (arguments : Arguments) : Run :=
  Run.follow host (do
    let (name, id) ← pathAndCell .knownFile host.disk arguments.positional
    let sheet ← sheetIn host.disk (Path.ofText name) name
    pure (name, id, sheet))
  fun (name, id, sheet) =>
    match sheet.delete id with
    | (_, .error error) => ⟨host, "", .refused error.message⟩
    | (sheet, .ok updated) =>
      storeSheet host sheet name fun host =>
        .finished host (s!"Deleted {id}\n" ++ updatedLines sheet updated)

def errorLine (sheet : Sheet) (id : String) : String :=
  let reason := ((sheet.cells.get? id).bind Cell.message?).getD ""
  s!"  {id}: {reason}\n"

/-- Checks that a sheet can be read, and lists its cells in error. -/
def checkSheet (host : Host) (arguments : Arguments) : Run :=
  Run.follow host (do
    let name ← onlyPath .knownFile host.disk arguments.positional
    let sheet ← sheetIn host.disk (Path.ofText name) name
    pure (name, sheet))
  fun (name, sheet) =>
    let errors := sheet.failing
    .finished host (s!"{name}: {sheet.size} cells, {errors.length} in error\n" ++
      String.join (errors.map (errorLine sheet)))

end Spreadsheet.CommandLine
