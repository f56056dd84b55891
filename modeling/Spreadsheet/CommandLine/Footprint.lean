import Spreadsheet.CommandLine.Program

/-!
# What a run can look at

The paths that are looked up before a command line, or a line of a session, runs.
-/

set_option autoImplicit false

namespace Spreadsheet.CommandLine

/-- The paths of the logs of a project and of the log of a session in it. -/
def logPaths (project : Path) (session : String) : List String :=
  let sink : Journal.Sink := ⟨project.child "logs", 0, .usual⟩
  let log := if Journal.isSafeName session then [(sink.sessionLog session).text] else []
  [sink.logs.text, (sink.logs.child "sessions").text, sink.globalLog.text] ++ log

/-- The paths that an interactive session looks at before the first line: those that are
named, and the sheet file of the project as far as the disk has its settings. -/
def shellPaths (disk : Disk) (arguments : Arguments) (session : String) : List String :=
  let name := (arguments.value? "--project").getD "."
  let project := Path.ofText name
  let sheetFile :=
    match Config.load disk project >>= fun config => config.sheetFileIn project with
    | .ok path => [path.text]
    | .error _ => []
  [name, (project.child Config.fileName).text] ++ logPaths project session ++
    arguments.positional ++ sheetFile

def Subcommand.paths (command : Subcommand) (disk : Disk) (arguments : Arguments)
    (session : String) : List String :=
  match command with
  | .new =>
    arguments.positional.flatMap fun name =>
      let directory := Path.ofText name
      name :: [Config.fileName, Config.defaultSheetFile, "logs"].map fun part =>
        (directory.child part).text
  | .events =>
    let session := (arguments.value? "--session-id").getD ""
    arguments.positional.flatMap fun name => name :: logPaths (Path.ofText name) session
  | .shell => shellPaths disk arguments session
  | _ => arguments.positional.take 1

def Request.paths (disk : Disk) (session : String) : Request → List String
  | .call command arguments => command.paths disk arguments session
  | _ => []

def linePaths (host : Host) (session : Session) (line : List Char) : List String :=
  let logs :=
    match host.sink with
    | none => []
    | some sink => logPaths sink.logs.parent session.name
  let named :=
    match Command.ofLine line with
    | .save (some name) | .load (some name) => [name, (Path.ofText name).text]
    | _ => []
  logs ++ named ++ (session.sheetFile.map Path.text).toList

end Spreadsheet.CommandLine
