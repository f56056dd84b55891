import Spreadsheet.CommandLine.Arguments
import Spreadsheet.Host
import Spreadsheet.Journal.Query
import Spreadsheet.Sheet.File
import Spreadsheet.Text.Control

/-!
# Runs of the program

What a run of the program leaves behind, how it ends, and the checks that every command
makes on its arguments. What it prints is free of control sequences, whatever the cells and
names in it hold.
-/

set_option autoImplicit false

namespace Spreadsheet.CommandLine

/-- What no command expects. -/
inductive Fault where
  | disk (error : DiskError)
  | config (error : ConfigError)
  | attach (error : AttachError)
  | query (error : Journal.QueryError)
  | levelNotText
  | longNumber
  | halfLetter
deriving DecidableEq, Repr

def Fault.message? : Fault → Option String
  | disk error => some error.message
  | config error => some error.message
  | attach error => error.message?
  | query error => error.message?
  | levelNotText => none
  | longNumber => some tooLongToWrite
  | halfLetter => none

/-- How a run ends: well, with arguments that make no sense, with a refusal that the user
is told of, or with what no command expects. -/
inductive Ending where
  | finished
  | misused
  | refused (message : String)
  | broken (fault : Fault)
deriving DecidableEq, Repr

def Ending.exitCode : Ending → Nat
  | finished => 0
  | misused => 2
  | refused _ => 1
  | broken _ => 1

/-- A run: the host after it, what was printed, and how it ended. -/
structure Run where
  host : Host
  output : String
  ending : Ending

/-- A text as it is printed. -/
def plain (text : String) : String := String.ofList (Text.withoutControls text.toList)

namespace Run

def finished (host : Host) (output : String) : Run := ⟨host, plain output, .finished⟩

/-- A run that goes on with a value, unless it has to end before. -/
def follow {α : Type} (host : Host) (value : Except Ending α) (next : α → Run) : Run :=
  match value with
  | .ok value => next value
  | .error ending => ⟨host, "", ending⟩

/-- The warnings and the refusal, as they are told to the user. -/
def complaints (run : Run) : String :=
  let refusal :=
    match run.ending with
    | .refused message => plain s!"Error: {message}\n"
    | _ => ""
  String.join (run.host.warnings.map fun text => s!"[gridcalc] {text}\n") ++ refusal

end Run

/-- What may stand where an argument leads. -/
structure PathRule where
  mustExist : Bool
  fileAllowed : Bool
  directoryAllowed : Bool
deriving DecidableEq, Repr

def PathRule.knownFile : PathRule := ⟨true, true, false⟩

def PathRule.anyFile : PathRule := ⟨false, true, false⟩

def PathRule.knownDirectory : PathRule := ⟨true, false, true⟩

def PathRule.anyDirectory : PathRule := ⟨false, false, true⟩

def PathRule.anything : PathRule := ⟨false, true, true⟩

def PathRule.check (rule : PathRule) (disk : Disk) (path : String) : Except Ending Unit :=
  match disk.stat path with
  | .ok .directory => if rule.directoryAllowed then .ok () else .error .misused
  | .ok (.file _) => if rule.fileAllowed then .ok () else .error .misused
  | .error .nullCharacter => .error (.broken (.disk .nullCharacter))
  | .error (.system ..) => if rule.mustExist then .error .misused else .ok ()

/-- A positional word that must be there, and the words behind it. -/
def required : List String → Except Ending (String × List String)
  | [] => .error .misused
  | word :: rest => .ok (word, rest)

def nothingMore : List String → Except Ending Unit
  | [] => .ok ()
  | _ :: _ => .error .misused

def requiredPath (rule : PathRule) (disk : Disk) (words : List String) :
    Except Ending (String × List String) := do
  let (path, rest) ← required words
  rule.check disk path
  pure (path, rest)

def onlyPath (rule : PathRule) (disk : Disk) (words : List String) : Except Ending String := do
  let (path, rest) ← requiredPath rule disk words
  nothingMore rest
  pure path

def pathAndCell (rule : PathRule) (disk : Disk) (words : List String) :
    Except Ending (String × String) := do
  let (path, rest) ← requiredPath rule disk words
  let (id, rest) ← required rest
  nothingMore rest
  pure (path, id)

/-- The sheet in a file. What is wrong in the file is told to the user, who named it as
`name`. -/
def sheetIn (disk : Disk) (path : Path) (name : String) : Except Ending Sheet :=
  match Sheet.load disk path with
  | .ok sheet => .ok sheet
  | .error (.record error) => .error (.refused s!"Could not load {name}: {error.message}")
  | .error (.disk error) => .error (.broken (.disk error))

def isThere (disk : Disk) (path : Path) : Except Ending Bool :=
  (disk.exists? path).mapError fun error => .broken (.disk error)

end Spreadsheet.CommandLine
