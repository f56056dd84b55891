import Spreadsheet.Project.Config

/-!
# New projects

A new project is a directory with a configuration file, a small sheet and a directory
for logs. What is there already stays; only a configuration file is not replaced but
refused.
-/

set_option autoImplicit false

namespace Spreadsheet.Project

def sampleConfig : String :=
  "# gridcalc project configuration\n\n" ++
  "# Save file used by \x60gridcalc shell\x60 when no file is given.\n" ++
  "sheet_file: sheet.txt\n\n" ++
  "# Structured event log under logs/.\n" ++
  "logging_enabled: true\n" ++
  "logging_fsync: false\n" ++
  "# logging_tail_bytes: 2097152\n\n" ++
  "# Include upstream/downstream links when showing the sheet.\n" ++
  "show_dependencies: true\n\n" ++
  "# Save after every successful edit in the shell.\n" ++
  "autosave: false\n"

def sampleSheet : String :=
  "A1:5\n" ++
  "B1:=A1*2\n" ++
  "C1:=A1+B1*(2-0.5)\n" ++
  "D1:total\n"

/-- Why no project is made. -/
inductive ScaffoldError where
  | disk (error : DiskError)
  | alreadyProject (directory : String)
deriving DecidableEq, Repr

def ScaffoldError.message : ScaffoldError → String
  | disk error => error.message
  | alreadyProject directory => s!"{Config.fileName} already exists in {directory}"

def inOrder (disk : Disk) : List (Disk → Disk × Except DiskError Unit) →
    Disk × Except DiskError Unit
  | [] => (disk, .ok ())
  | action :: rest =>
    match action disk with
    | (disk, .ok ()) => inOrder disk rest
    | (disk, .error error) => (disk, .error error)

def writeNew (path : Path) (text : String) (disk : Disk) : Disk × Except DiskError Unit :=
  match disk.exists? path with
  | .ok true => (disk, .ok ())
  | .ok false => disk.write path (Text.octets text)
  | .error error => (disk, .error error)

/-- Makes a project in a directory, which is made as well if need be. -/
def scaffold (disk : Disk) (directory : Path) : Disk × Except ScaffoldError Unit :=
  let configFile := directory.child Config.fileName
  match disk.exists? configFile with
  | .error error => (disk, .error (.disk error))
  | .ok true => (disk, .error (.alreadyProject directory.text))
  | .ok false =>
    let (disk, result) := inOrder disk
      [(·.ensureDirectories directory), (·.write configFile (Text.octets sampleConfig)),
        writeNew (directory.child Config.defaultSheetFile) sampleSheet,
        (·.ensureDirectory (directory.child "logs"))]
    (disk, result.mapError ScaffoldError.disk)

end Spreadsheet.Project
