import Spreadsheet.CommandLine.EventCommand
import Spreadsheet.CommandLine.SheetCommands
import Spreadsheet.CommandLine.ShellCommand
import Spreadsheet.Text.Newline

/-!
# The program

The commands by name, and what a command line leads to.
-/

set_option autoImplicit false

namespace Spreadsheet.CommandLine

/-- The commands of the program. -/
inductive Subcommand where
  | new
  | shell
  | show
  | get
  | set
  | delete
  | check
  | events
deriving DecidableEq, Repr

namespace Subcommand

def ofName? : String → Option Subcommand
  | "new" => some new
  | "shell" => some shell
  | "show" => some .show
  | "get" => some get
  | "set" => some set
  | "delete" => some delete
  | "check" => some check
  | "events" => some events
  | _ => none

def options : Subcommand → OptionTable
  | shell => ⟨["--project"], ["--help"], false⟩
  | .show => ⟨[], ["--no-deps", "--help"], false⟩
  | set => ⟨[], ["--help"], true⟩
  | events =>
    ⟨["--level", "--type", "--session-id", "--cell", "--limit"], ["--help"], false⟩
  | _ => ⟨[], ["--help"], false⟩

def usage : Subcommand → String
  | new => "new [OPTIONS] DIRECTORY"
  | shell => "shell [OPTIONS] [FILE]"
  | .show => "show [OPTIONS] FILE"
  | get => "get [OPTIONS] FILE CELL_ID"
  | set => "set [OPTIONS] FILE CELL_ID [CONTENTS]..."
  | delete => "delete [OPTIONS] FILE CELL_ID"
  | check => "check [OPTIONS] FILE"
  | events => "events [OPTIONS] DIRECTORY"

/-- Runs a command. Only an interactive session reads lines. -/
def run (command : Subcommand) (host : Host) (arguments : Arguments)
    (lines : List (List Char)) : Run :=
  match command with
  | new => newProject host arguments
  | shell => runShell host arguments lines
  | .show => showSheet host arguments
  | get => showCell host arguments
  | set => editCell host arguments
  | delete => clearCell host arguments
  | check => checkSheet host arguments
  | events => showEvents host arguments

end Subcommand

/-- What a command line asks for. -/
inductive Request where
  | help (usage : String)
  | version
  | misused
  | call (command : Subcommand) (arguments : Arguments)
deriving DecidableEq, Repr

namespace Request

def ofCommand (command : Subcommand) (words : List String) : Request :=
  match Arguments.ofWords command.options words with
  | none => .misused
  | some arguments =>
    if arguments.has "--help" then .help command.usage else .call command arguments

def ofName (name : String) (words : List String) : Request :=
  match Subcommand.ofName? name with
  | some command => ofCommand command words
  | none => .misused

/-- The options in front of the name of a command, and the words from the name on. A word
of two dashes in front of the name is left out. -/
def leadingOptions : List String → Option (List String × List String)
  | [] => some ([], [])
  | word :: rest =>
    if word = "--" then some ([], rest)
    else if !looksLikeOption word.toList then some ([], word :: rest)
    else if word = "--version" ∨ word = "--help" then
      (leadingOptions rest).map fun (names, words) => (word :: names, words)
    else none

def programUsage : String := "[OPTIONS] COMMAND [ARGS]..."

/-- The request of a command line. What stands in the place of a name and is an option all
the same counts as one. -/
def ofWords (words : List String) : Request :=
  match leadingOptions words with
  | none => .misused
  | some ("--version" :: _, _) => .version
  | some (_ :: _, _) => .help programUsage
  | some ([], []) => .misused
  | some ([], name :: rest) =>
    match leadingOptions (name :: rest) with
    | some ("--version" :: _, _) => .version
    | some (_ :: _, _) => .help programUsage
    | _ => ofName name rest

def run (request : Request) (host : Host) (lines : List (List Char)) : Run :=
  match request with
  | .help usage => .finished host s!"Usage: gridcalc {usage}\n"
  | .version => .finished host s!"gridcalc, version {CommandLine.version}\n"
  | .misused => ⟨host, "", .misused⟩
  | .call command arguments => command.run host arguments lines

end Request

/-- The lines of a text that ends its lines in any of the three ways. -/
def inputLines (input : List Char) : List (List Char) :=
  Text.feedLines (Text.unifyLineEnds input)

/-- Runs the program on the words of a command line and the text that it may read. -/
def run (host : Host) (words : List String) (input : List Char) : Run :=
  (Request.ofWords words).run host (inputLines input)

end Spreadsheet.CommandLine
