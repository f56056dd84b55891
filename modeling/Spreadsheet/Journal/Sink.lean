import Spreadsheet.Disk.Basic
import Spreadsheet.Journal.Event

/-!
# Log files

Events go to the end of the log of the project and, if they belong to a session, to the
end of the log of the session as well. Only session names that are safe as file names
have a log.
-/

set_option autoImplicit false

namespace Spreadsheet.Journal

/-- How many arrays and objects may stand inside one another in what is read of a log: as many as
in an event that can be logged, if not more. -/
structure Levels where
  most : Nat
  enough : Event.maxLevels ≤ most
deriving DecidableEq, Repr

def Levels.usual : Levels := ⟨990, by decide⟩

/-- The logs of a project, and how much of a log is read at most: how many octets of its end, and
how many levels of a value. -/
structure Sink where
  logs : Path
  readLimit : Int
  levels : Levels
deriving DecidableEq, Repr

def isNameChar (c : Char) : Bool :=
  ('A' ≤ c && c ≤ 'Z') || ('a' ≤ c && c ≤ 'z') || ('0' ≤ c && c ≤ '9') || c == '_' || c == '-'

/-- A text without the line feed at its end, if there is one. -/
def dropFeed (cs : List Char) : List Char :=
  if cs.getLast? = some '\n' then cs.dropLast else cs

/-- Whether a session name is safe as a file name. A line feed at its end is let
through. -/
def isSafeName (name : String) : Bool :=
  dropFeed name.toList != [] && (dropFeed name.toList).all isNameChar

namespace Sink

/-- The logs of a project directory; the directories are made if need be. -/
def create (disk : Disk) (project : Path) (readLimit : Int) (levels : Levels) :
    Disk × Except DiskError Sink :=
  let logs := project.child "logs"
  match disk.ensureDirectories logs with
  | (disk, .error error) => (disk, .error error)
  | (disk, .ok ()) =>
    match disk.ensureDirectory (logs.child "sessions") with
    | (disk, .error error) => (disk, .error error)
    | (disk, .ok ()) => (disk, .ok ⟨logs, readLimit, levels⟩)

def globalLog (sink : Sink) : Path := sink.logs.child "events.ndjson"

def sessionLog (sink : Sink) (session : String) : Path :=
  (sink.logs.child "sessions").child (session ++ ".ndjson")

/-- Adds a line to a log. Its directory is made again if it has gone. -/
def appendLine (disk : Disk) (path : Path) (line : List Char) : Disk × Except DiskError Unit :=
  match disk.ensureDirectories path.parent with
  | (disk, .ok ()) => disk.append path (Text.Utf8.encode line)
  | (disk, .error error) => (disk, .error error)

/-- Logs an event that can be written, first for the project and then for its session. -/
def append (sink : Sink) (disk : Disk) (event : Event) (session : Option String) :
    Disk × Except DiskError Unit :=
  match appendLine disk sink.globalLog event.line with
  | (disk, .error error) => (disk, .error error)
  | (disk, .ok ()) =>
    match session with
    | some name =>
      if isSafeName name then appendLine disk (sink.sessionLog name) event.line
      else (disk, .ok ())
    | none => (disk, .ok ())

/-- Logs an event. One that cannot be written leaves the logs alone. -/
def write (sink : Sink) (disk : Disk) (event : Event) (session : Option String) :
    Disk × Except WriteError Unit :=
  match event.check with
  | .error error => (disk, .error error)
  | .ok () =>
    let (disk, result) := sink.append disk event session
    (disk, result.mapError WriteError.disk)

end Sink

end Spreadsheet.Journal
