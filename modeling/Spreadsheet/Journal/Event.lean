import Spreadsheet.Disk.Error
import Spreadsheet.Json.Printer

/-!
# Events

What is worth a line in the log: sessions, edits, and what happens to sheet files.
-/

set_option autoImplicit false

namespace Spreadsheet.Journal

/-- How serious an event is. -/
inductive Level where
  | info
  | warning
  | error
deriving DecidableEq, Repr

def Level.name : Level → String
  | info => "info"
  | warning => "warning"
  | error => "error"

/-- What an event is about. -/
inductive Kind where
  | sessionStarted
  | sessionEnded
  | cellSet
  | cellDeleted
  | cellRejected
  | cycleRejected
  | sheetSaved
  | sheetSaveFailed
  | sheetLoaded
  | sheetLoadFailed
deriving DecidableEq, Repr

def Kind.name : Kind → String
  | sessionStarted => "session_started"
  | sessionEnded => "session_ended"
  | cellSet => "cell_set"
  | cellDeleted => "cell_deleted"
  | cellRejected => "cell_rejected"
  | cycleRejected => "cycle_rejected"
  | sheetSaved => "sheet_saved"
  | sheetSaveFailed => "sheet_save_failed"
  | sheetLoaded => "sheet_loaded"
  | sheetLoadFailed => "sheet_load_failed"

def Kind.all : List Kind :=
  [sessionStarted, sessionEnded, cellSet, cellDeleted, cellRejected, cycleRejected, sheetSaved,
    sheetSaveFailed, sheetLoaded, sheetLoadFailed]

/-- Why an event cannot be logged: a value in its context is too deep, a whole number there has
too many digits, or the disk refuses it. -/
inductive WriteError where
  | tooDeep
  | tooLong
  | disk (error : DiskError)
deriving DecidableEq, Repr

def WriteError.message : WriteError → String
  | tooDeep => "Maximum serialization depth exceeded"
  | tooLong => tooLongToWrite
  | disk error => error.message

/-- An event. `context` holds what the kind of event calls for, by name. -/
structure Event where
  time : String
  level : Level
  kind : Kind
  context : List (String × Json)
  message : String
  errorCode : Option String

namespace Event

/-- The event as it is logged. Its context is free to hold any value, so what JSON has no
words for becomes `null` there. -/
def toJson (event : Event) : Json :=
  .object
    [("schema_version", .int 1), ("ts", .string event.time),
      ("level", .string event.level.name), ("event_type", .string event.kind.name),
      ("context", (Json.object event.context).finite), ("message", .string event.message),
      ("error_code", (event.errorCode.map Json.string).getD .null)]

def line (event : Event) : List Char := event.toJson.render ++ ['\n']

/-- The most levels of a value in the context of an event that can be logged. -/
def maxDepth : Nat := 255

/-- The most levels of an event as it is logged: two are around the values in its context. -/
def maxLevels : Nat := maxDepth + 2

def check (event : Event) : Except WriteError Unit :=
  if maxDepth < Json.membersDepth event.context then .error .tooDeep
  else if Json.membersFitDigits event.context then .ok ()
  else .error .tooLong

/-- The context of an edit: the cell and its contents, and what else is given. What is
given last counts. -/
def editContext (cell : String) (contents : Option String) (more : List (String × Json)) :
    List (String × Json) :=
  let start := ("cell_id", Json.string cell) ::
    (contents.map fun text => ("contents", Json.string text)).toList
  more.foldl (fun members member => Json.setMember members member.1 member.2) start

/-- The longest text in a context, in characters. -/
def maxText : Nat := 256

def shorten : Json → Json
  | .string text =>
    if maxText < text.length then
      .string (String.ofList (text.toList.take maxText) ++ "...[truncated]")
    else .string text
  | other => other

def truncated (event : Event) : Event :=
  { event with context := event.context.map fun (key, value) => (key, shorten value) }

end Event

end Spreadsheet.Journal
