import Spreadsheet.CommandLine.Run
import Spreadsheet.Session.Execution

/-!
# Interactive sessions

The command that edits a sheet in a session, line by line. It is cut into the beginning of
the session, what is printed before a line is read, and what a line leads to, so that lines
can be read one at a time.
-/

set_option autoImplicit false

namespace Spreadsheet.CommandLine

def version : String := "0.3.0"

def projectOption (disk : Disk) (arguments : Arguments) : Except Ending Path := do
  let name := (arguments.value? "--project").getD "."
  PathRule.anyDirectory.check disk name
  pure (Path.ofText name)

def fileOption (disk : Disk) (arguments : Arguments) : Except Ending (Option Path) := do
  match arguments.positional with
  | [] => pure none
  | name :: rest =>
    PathRule.anyFile.check disk name
    nothingMore rest
    pure (if name = "" then none else some (Path.ofText name))

/-- The settings of a project. What is wrong with them is told to the user. -/
def loadConfig (disk : Disk) (project : Path) : Except Ending Config :=
  match Config.load disk project with
  | .ok config => .ok config
  | .error (.disk (.system cause path)) => .error (.broken (.disk (.system cause path)))
  | .error error =>
    if error.isUnforeseen then .error (.broken (.config error))
    else .error (.refused error.message)

/-- Sends events to the logs of a directory if it is a project. -/
def attachProject (host : Host) (project : Path) : Host × Except Ending Unit :=
  match host.disk.exists? (project.child Config.fileName) with
  | .error error => (host, .error (.broken (.disk error)))
  | .ok false => (host, .ok ())
  | .ok true =>
    let (host, result) := host.useProject project
    (host, result.mapError fun error => .broken (.attach error))

/-- The sheet file of a session: the one that is named, or else that of the project. -/
def chosenFile (project : Path) (config : Config) : Option Path → Except Ending Path
  | some file => .ok file
  | none => (config.sheetFileIn project).mapError fun error => .broken (.config error)

/-- The sheet to begin with: that of the file, if there is one. -/
def firstSheet (disk : Disk) (file : Path) : Except Ending Sheet := do
  if ← isThere disk file then sheetIn disk file file.text else pure ∅

def openSession (host : Host) (arguments : Arguments) : Host × Except Ending Session :=
  let request : Except Ending (Path × Option Path × Config) := do
    let project ← projectOption host.disk arguments
    let file ← fileOption host.disk arguments
    let config ← loadConfig host.disk project
    pure (project, file, config)
  match request with
  | .error ending => (host, .error ending)
  | .ok (project, file, config) =>
    match attachProject host project with
    | (host, .error ending) => (host, .error ending)
    | (host, .ok ()) =>
      let beginning : Except Ending (Path × Sheet) := do
        let file ← chosenFile project config file
        pure (file, ← firstSheet host.disk file)
      match beginning with
      | .error ending => (host, .error ending)
      | .ok (file, sheet) =>
        let (host, name) := host.takeName
        let session : Session := ⟨sheet, config, some file, name⟩
        (session.start Host.recorder host, .ok session)

def greeting : String := s!"gridcalc {version}\n{Session.help}\n"

def prompt (session : Session) : String := plain s!"\n{session.view}\n> "

def farewell : String := "Bye!\n"

/-- What follows a command: the end of the session, with what is printed then, or the next
line. -/
def proceed (turn : Turn) (next : Host → Session → Run) : Run :=
  match turn.reply with
  | .error error =>
    ⟨turn.session.finish Host.recorder turn.host, "", .broken (.disk error)⟩
  | .ok reply =>
    if reply.quits then
      .finished (turn.session.finish Host.recorder turn.host) (reply.printed ++ farewell)
    else
      let run := next turn.host turn.session
      { run with output := plain reply.printed ++ run.output }

/-- A session on lines that are all there from the start, each repeated as it was read. The
end of the lines ends the session. -/
def converse (host : Host) (session : Session) : List (List Char) → Run
  | [] =>
    let run := proceed (session.run Host.recorder host .quit) fun host _ => .finished host ""
    { run with output := prompt session ++ run.output }
  | line :: rest =>
    let run := proceed (session.execute Host.recorder host line)
      fun host session => converse host session rest
    { run with output := prompt session ++ String.ofList line ++ "\n" ++ run.output }

def runShell (host : Host) (arguments : Arguments) (lines : List (List Char)) : Run :=
  match openSession host arguments with
  | (host, .error ending) => ⟨host, "", ending⟩
  | (host, .ok session) =>
    let run := converse host session lines
    { run with output := greeting ++ run.output }

end Spreadsheet.CommandLine
