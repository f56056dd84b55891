import Spreadsheet.Disk.Basic
import Spreadsheet.Number.Integer
import Spreadsheet.Text.Newline
import Spreadsheet.Yaml.Document

/-!
# Project configuration

The settings of a project directory: those of its configuration file, and defaults for
the others.
-/

set_option autoImplicit false

namespace Spreadsheet

/-- The settings by name. -/
structure Config where
  members : List (Data.Scalar × Data.Value)

/-- Why the configuration of a project cannot be read. -/
inductive ConfigError where
  | disk (error : DiskError)
  | notUtf8 (octets : List UInt8) (offset : Nat)
  | notYaml (path : String)
  | notMapping (path : String)
  | badValue (error : Yaml.Error)
  | longName
deriving DecidableEq, Repr

def ConfigError.message : ConfigError → String
  | disk error => error.message
  | notUtf8 octets offset => Text.Utf8.faultMessage octets offset
  | notYaml path => s!"{path} is not valid YAML"
  | notMapping path => s!"{path} must contain a mapping"
  | badValue error => error.message
  | longName => tooLongToWrite

/-- Whether an error is outside the mistakes that a configuration is reckoned to have. -/
def ConfigError.isUnforeseen : ConfigError → Bool
  | badValue error => error.isUnforeseen
  | _ => false

namespace Config

def fileName : String := "gridcalc.yaml"

def defaultSheetFile : String := "sheet.txt"

/-- How much of a log is read where nothing else is set, in octets. -/
def defaultReadLimit : Nat := 2097152

def default : Config where
  members :=
    [(.text "sheet_file", .scalar (.text defaultSheetFile)),
      (.text "logging_enabled", .scalar (.bool true)),
      (.text "logging_fsync", .scalar (.bool false)),
      (.text "logging_tail_bytes", .scalar (.int defaultReadLimit)),
      (.text "show_dependencies", .scalar (.bool true)),
      (.text "autosave", .scalar (.bool false))]

def get? (config : Config) (name : String) : Option Data.Value :=
  Data.member? name config.members

/-- Whether a setting counts as set; `fallback` where there is none. -/
def isSet (config : Config) (name : String) (fallback : Bool) : Bool :=
  ((config.get? name).map Data.Value.isSet).getD fallback

/-- The settings with those of a mapping in place of the old ones. -/
def update (config : Config) (members : List (Data.Scalar × Data.Value)) : Config :=
  ⟨members.foldl (fun known member => Data.setMember member.1 member.2 known) config.members⟩

/-- The members of the mapping that a configuration file holds. A document that counts
as not set holds none. -/
def membersOf (path : String) (octets : List UInt8) :
    Except ConfigError (List (Data.Scalar × Data.Value)) :=
  match Text.Utf8.decode octets with
  | .error offset => .error (.notUtf8 octets offset)
  | .ok text =>
    match Yaml.read (Text.unifyLineEnds text) with
    | .error .malformed => .error (.notYaml path)
    | .error error => .error (.badValue error)
    | .ok none => .ok []
    | .ok (some value) =>
      if !value.isSet then .ok []
      else
        match value with
        | .mapping members => .ok members
        | _ => .error (.notMapping path)

def load (disk : Disk) (project : Path) : Except ConfigError Config := do
  let path := project.child fileName
  if ← (disk.exists? path).mapError ConfigError.disk then
    let octets ← (disk.read path).mapError ConfigError.disk
    let members ← membersOf path.text octets
    pure (default.update members)
  else pure default

/-- The sheet file of a project. Its name is the text of the setting, whatever that is. -/
def sheetFileIn (config : Config) (project : Path) : Except ConfigError Path :=
  match config.get? "sheet_file" with
  | none => .ok (project.join (Path.ofText defaultSheetFile))
  | some value =>
    if !value.isSet then .ok (project.join (Path.ofText defaultSheetFile))
    else
      match value.shown? with
      | some name => .ok (project.join (Path.ofText name))
      | none => .error .longName

end Config

end Spreadsheet
