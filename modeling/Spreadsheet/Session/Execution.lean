import Spreadsheet.Formula.Printer
import Spreadsheet.Session.Basic
import Spreadsheet.Session.Command
import Spreadsheet.Text.Newline

/-!
# Running commands

What each command does to a session and its host, and what it answers. What records events
is a parameter: no answer and no sheet depends on what it does with them.
-/

set_option autoImplicit false

namespace Spreadsheet

def EditError.code : EditError → String
  | invalidId _ => "invalid_cell_id"
  | badFormula _ => "formula_parse_error"
  | cycle _ => "cycle_detected"

def EditError.eventKind : EditError → Journal.Kind
  | cycle _ => .cycleRejected
  | _ => .cellRejected

/-- What the log tells about a refused edit besides its message. -/
def EditError.eventContext : EditError → List (String × Json)
  | cycle path => [("cycle_path", .array (path.map Json.string))]
  | _ => []

/-- The code of a failure with a sheet file in the log, if it has one. -/
def FileError.code? : FileError → Option String
  | record _ => some "sheet_format_error"
  | disk _ => none

/-- Where a command leads: the host and the session after it, and the reply. A path that
cannot even be handed to the system gives no reply. -/
structure Turn where
  host : Host
  session : Session
  reply : Except DiskError Reply

namespace Session

def help : String :=
  "Enter commands as follows\n" ++
  "-------------------------\n" ++
  "set id contents :  Set cell id to given contents\n" ++
  "delete id       :  Delete contents of cell with given id\n" ++
  "get id          :  Show the value and contents of a cell\n" ++
  "tree id         :  Show the parsed formula of a cell\n" ++
  "graph [id]      :  Show dependency links\n" ++
  "show            :  Show the whole sheet\n" ++
  "save [filename] :  Save the current sheet to named file\n" ++
  "load [filename] :  Discard the current sheet and load from the named file\n" ++
  "quit            :  Quit program"

def answer (session : Session) (host : Host) (output : String) : Turn :=
  ⟨host, session, .ok (.text output)⟩

def noteSaveFailed (session : Session) (record : Recorder) (host : Host) (path : Path)
    (error : FileError) : Host :=
  session.note record host .warning .sheetSaveFailed error.message
    (session.context [("path", .string path.text)]) error.code?

/-- Records an accepted edit, with the cells that were evaluated anew. -/
def noteEdit (session : Session) (record : Recorder) (host : Host) (kind : Journal.Kind)
    (id : String) (contents : Option String) (updated : List String) : Host :=
  session.note record host .info kind
    s!"{id} updated, {updated.length} dependents re-evaluated"
    (Journal.Event.editContext id contents
      (session.context [("updated", .array (updated.map Json.string))])) none

def noteRefusal (session : Session) (record : Recorder) (host : Host) (id : String)
    (contents : Option String) (error : EditError) : Host :=
  session.note record host .warning error.eventKind error.message
    (Journal.Event.editContext id contents (session.context error.eventContext))
    (some error.code)

/-- Writes the sheet to its file after an edit, if the settings want that. -/
def autosave (session : Session) (record : Recorder) (host : Host) : Turn :=
  match session.sheetFile with
  | none => session.answer host ""
  | some path =>
    if !session.config.isSet "autosave" false then session.answer host ""
    else
      match session.sheet.save host.disk path with
      | (disk, .ok ()) => session.answer { host with disk } ""
      | (disk, .error (.disk .nullCharacter)) =>
        ⟨{ host with disk }, session, .error .nullCharacter⟩
      | (disk, .error error) =>
        session.answer (session.noteSaveFailed record { host with disk } path error)
          s!"Autosave failed: {error.message}"

def set (session : Session) (record : Recorder) (host : Host) (id contents : String) : Turn :=
  match session.sheet.set id contents with
  | (sheet, .ok updated) =>
    let session := { session with sheet }
    let kind : Journal.Kind := if contents = "" then .cellDeleted else .cellSet
    session.autosave record (session.noteEdit record host kind id (some contents) updated)
  | (sheet, .error error) =>
    let session := { session with sheet }
    session.answer (session.noteRefusal record host id (some contents) error)
      s!"Could not set cell {id} to {contents}:\n{error.message}"

def delete (session : Session) (record : Recorder) (host : Host) (id : String) : Turn :=
  match session.sheet.delete id with
  | (sheet, .ok updated) =>
    let session := { session with sheet }
    session.autosave record (session.noteEdit record host .cellDeleted id none updated)
  | (sheet, .error error) =>
    let session := { session with sheet }
    session.answer (session.noteRefusal record host id none error)
      s!"Could not delete cell {id}:\n{error.message}"

/-- A cell with its value and contents, and why it has no value. -/
def describe (sheet : Sheet) (id : String) : String :=
  match sheet.cells.get? id with
  | none => s!"{id} is empty"
  | some cell =>
    let reason :=
      match cell.message? with
      | none => ""
      | some message => s!"\n  error: {message}"
    s!"{id} = {cell.display} ('{cell.contents}', {cell.kind})" ++ reason

def describeTree (sheet : Sheet) (id : String) : String :=
  match (sheet.cells.get? id).bind Cell.formula? with
  | none => s!"{id} does not hold a formula"
  | some tree => String.ofList (tree.dump 2)

def describeLinks (links : Links) : Option String → String
  | none => Text.trimFeeds links.listing
  | some id =>
    s!"{id} upstream: {(links.sourcesOf id).listing}\n" ++
      s!"{id} downstream: {(links.readersOf id).listing}"

def save (session : Session) (record : Recorder) (host : Host) (path : Path) : Turn :=
  match session.sheet.save host.disk path with
  | (disk, .ok ()) =>
    let host := session.note record { host with disk } .info .sheetSaved
      s!"Saved {session.sheet.size} cells to {path.text}"
      (session.context [("path", .string path.text), ("cells", .int session.sheet.size)]) none
    session.answer host s!"Saving sheet to '{path.text}'... done."
  | (disk, .error (.disk .nullCharacter)) =>
    ⟨{ host with disk }, session, .error .nullCharacter⟩
  | (disk, .error error) =>
    session.answer (session.noteSaveFailed record { host with disk } path error)
      s!"Could not save sheet: {error.message}"

def load (session : Session) (record : Recorder) (host : Host) (path : Path) : Turn :=
  match Sheet.load host.disk path with
  | .ok sheet =>
    let session := { session with sheet }
    let host := session.note record host .info .sheetLoaded
      s!"Loaded {sheet.size} cells from {path.text}"
      (session.context [("path", .string path.text), ("cells", .int sheet.size)]) none
    session.answer host s!"Loading sheet from '{path.text}'... done."
  | .error (.disk .nullCharacter) => ⟨host, session, .error .nullCharacter⟩
  | .error error =>
    let host := session.note record host .error .sheetLoadFailed error.message
      (session.context [("path", .string path.text)]) error.code?
    session.answer host s!"Could not load sheet: {error.message}"

/-- The file that a command names, or else that of the session. -/
def fileFor (session : Session) (name : Option String) : Option Path :=
  match name with
  | some name => some (Path.ofText name)
  | none => session.sheetFile

def run (session : Session) (record : Recorder) (host : Host) : Command → Turn
  | .blank => session.answer host ""
  | .unknown word => session.answer host s!"Unrecognized command '{word}'"
  | .set none => session.answer host "usage: set id contents"
  | .set (some (id, contents)) => session.set record host id contents
  | .delete none => session.answer host "usage: delete id"
  | .delete (some id) => session.delete record host id
  | .get id => session.answer host (describe session.sheet id)
  | .tree id => session.answer host (describeTree session.sheet id)
  | .graph id => session.answer host (describeLinks session.sheet.links id)
  | .view => session.answer host (Text.trimFeeds session.view)
  | .save name =>
    match session.fileFor name with
    | none => session.answer host "usage: save filename"
    | some path => session.save record host path
  | .load name =>
    match session.fileFor name with
    | none => session.answer host "usage: load filename"
    | some path => session.load record host path
  | .help => session.answer host help
  | .quit => ⟨host, session, .ok ⟨"Quitting...", true⟩⟩

def execute (session : Session) (record : Recorder) (host : Host) (line : List Char) : Turn :=
  session.run record host (Command.ofLine line)

end Session

end Spreadsheet
