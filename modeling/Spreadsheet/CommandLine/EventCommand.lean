import Spreadsheet.CommandLine.Run
import Spreadsheet.Json.ToData
import Spreadsheet.Text.Capital
import Spreadsheet.Text.Padding

/-!
# Showing the log

The command that lists the events of a project, newest first.
-/

set_option autoImplicit false

namespace Spreadsheet.CommandLine

/-- The text of a value, if its letters make one. -/
def valueText : Json Letters → Except Fault (Option String)
  | .string letters => .ok letters.text?
  | value =>
    match value.toData.shown? with
    | some text => .ok (some text)
    | none => .error .longNumber

def memberText (members : List (Letters × Json Letters)) (key : String) :
    Except Fault (Option String) :=
  match members.lookup (Letters.ofText key) with
  | none => .ok (some "")
  | some value => valueText value

def levelText (members : List (Letters × Json Letters)) : Except Fault (Option String) :=
  match members.lookup (Letters.ofText "level") with
  | none => .ok (some "")
  | some (.string level) => .ok (level.text?.map Text.capitals)
  | some _ => .error .levelNotText

/-- What stands behind the message of an event that has an error code. -/
def codeText (members : List (Letters × Json Letters)) : Except Fault (Option String) :=
  match members.lookup (Letters.ofText "error_code") with
  | none => .ok (some "")
  | some code =>
    if code.toData.isSet then (valueText code).map (·.map fun text => s!"  ({text})")
    else .ok (some "")

/-- The line of an event. It is put together before it turns out whether it can be printed. -/
def eventLine : Json Letters → Except Fault String
  | .object members => do
    let level ← levelText members
    let time ← memberText members "ts"
    let kind ← memberText members "event_type"
    let message ← memberText members "message"
    let code ← codeText members
    match level, time, kind, message, code with
    | some level, some time, some kind, some message, some code =>
      pure ("[" ++ time ++ "] " ++ Text.alignLeft 7 level ++ " " ++ kind ++ ": " ++ message ++
        code ++ "\n")
    | _, _, _, _, _ => throw .halfLetter
  | _ => .error (.query .notObject)

/-- The lines of some events, up to the first one that has no line. -/
def eventLines (host : Host) : List (Json Letters) → Run
  | [] => .finished host ""
  | event :: rest =>
    match eventLine event with
    | .error fault => ⟨host, "", .broken fault⟩
    | .ok line =>
      let run := eventLines host rest
      { run with output := plain line ++ run.output }

def levelNames : List String := [Journal.Level.info, .warning, .error].map Journal.Level.name

/-- The level that is asked for; empty for all. -/
def levelOption (arguments : Arguments) : Except Ending String :=
  match arguments.value? "--level" with
  | none => .ok ""
  | some name => if levelNames.contains name then .ok name else .error .misused

def limitOption (arguments : Arguments) : Except Ending Int :=
  match arguments.value? "--limit" with
  | none => .ok 100
  | some text => (Integer.read text).mapError fun _ => .misused

/-- What a call asks for: a directory, a filter, and the greatest number of events. -/
def eventRequest (disk : Disk) (arguments : Arguments) :
    Except Ending (Path × Journal.Filter × Int) := do
  let level ← levelOption arguments
  let limit ← limitOption arguments
  let directory ← onlyPath .knownDirectory disk arguments.positional
  let text name := (arguments.value? name).getD ""
  pure (Path.ofText directory,
    ⟨level, text "--type", text "--session-id", text "--cell"⟩, limit)

def showEvents (host : Host) (arguments : Arguments) : Run :=
  Run.follow host (eventRequest host.disk arguments) fun (directory, filter, limit) =>
    match Journal.Sink.create host.disk directory Config.defaultReadLimit host.levels with
    | (disk, .error error) => ⟨{ host with disk }, "", .broken (.disk error)⟩
    | (disk, .ok sink) =>
      match sink.query disk filter limit with
      | .error error => ⟨{ host with disk }, "", .broken (.query error)⟩
      | .ok [] => .finished { host with disk } "No events found.\n"
      | .ok events => eventLines { host with disk } events

end Spreadsheet.CommandLine
