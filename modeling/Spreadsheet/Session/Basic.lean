import Spreadsheet.Dependency.Listing
import Spreadsheet.Host
import Spreadsheet.Sheet.File
import Spreadsheet.Sheet.View

/-!
# Sessions

A sheet that is edited, with the settings that hold for it and the file it belongs to.
-/

set_option autoImplicit false

namespace Spreadsheet

/-- A session. Its name tells its events from those of other sessions. -/
structure Session where
  sheet : Sheet
  config : Config
  sheetFile : Option Path
  name : String

/-- What the user is told after a command, and whether the session is over. -/
structure Reply where
  output : String
  quits : Bool
deriving DecidableEq, Repr

def Reply.text (output : String) : Reply := ⟨output, false⟩

/-- The output as it is printed: a line, unless it is empty. -/
def Reply.printed (reply : Reply) : String :=
  if reply.output = "" then "" else s!"{reply.output}\n"

/-- What records the events of a session, named by its second argument. -/
abbrev Recorder := Host → String → Journal.Event → Host

def Host.recorder : Recorder := fun host session event => host.record event (some session)

namespace Session

/-- A session on a sheet. Settings that are not given are those of the project, and a
sheet file that is not given is the one that the settings name in the project. -/
def create (disk : Disk) (sheet : Sheet) (project : Option Path) (config : Option Config)
    (sheetFile : Option Path) (name : String) : Except ConfigError Session := do
  let config ←
    match config, project with
    | some config, _ => pure config
    | none, some project => Config.load disk project
    | none, none => pure Config.default
  let sheetFile ←
    match sheetFile, project with
    | some path, _ => pure (some path)
    | none, some project => some <$> config.sheetFileIn project
    | none, none => pure none
  pure ⟨sheet, config, sheetFile, name⟩

/-- The sheet as text, with the links if the settings want them. -/
def view (session : Session) : String :=
  session.sheet.view (session.config.isSet "show_dependencies" true)

def note (session : Session) (record : Recorder) (host : Host) (level : Journal.Level)
    (kind : Journal.Kind) (message : String) (context : List (String × Json))
    (errorCode : Option String) : Host :=
  record host session.name ⟨host.time, level, kind, context, message, errorCode⟩

def context (session : Session) (more : List (String × Json)) : List (String × Json) :=
  ("session_id", .string session.name) :: more

def start (session : Session) (record : Recorder) (host : Host) : Host :=
  let file := (session.sheetFile.map Path.text).getD ""
  session.note record host .info .sessionStarted "Session started"
    (session.context [("sheet_file", .string file)]) none

def finish (session : Session) (record : Recorder) (host : Host) : Host :=
  session.note record host .info .sessionEnded "Session ended"
    (session.context [("cells", .int session.sheet.size)]) none

end Session

end Spreadsheet
