/-!
# Arguments

The words of a command line divided into options and positional words, which may be
mixed. An option with a value takes it from behind an equals sign or from the next word,
whatever that is.
-/

set_option autoImplicit false

namespace Spreadsheet.CommandLine

/-- The options that a command knows, with a value and without one. Where words are
`open`, what looks like an option but is none counts as positional. -/
structure OptionTable where
  valued : List String
  flags : List String
  isOpen : Bool
deriving DecidableEq, Repr

/-- What a single word is. -/
inductive Word where
  | positional
  | flag (name : String)
  | setting (name value : String)
  | valued (name : String)
  | refused
deriving DecidableEq, Repr

def looksLikeOption : List Char → Bool
  | '-' :: _ :: _ => true
  | _ => false

/-- The word up to its first equals sign, and what follows the sign if there is one. -/
def splitEquals (word : List Char) : String × Option String :=
  match word.dropWhile (· != '=') with
  | [] => (String.ofList word, none)
  | _ :: value => (String.ofList (word.takeWhile (· != '=')), some (String.ofList value))

def OptionTable.classify (table : OptionTable) (word : String) : Word :=
  if !looksLikeOption word.toList then .positional
  else
    let (name, value?) := splitEquals word.toList
    if table.valued.contains name then
      match value? with
      | some value => .setting name value
      | none => .valued name
    else if table.flags.contains name then
      match value? with
      | some _ => .refused
      | none => .flag name
    else if table.isOpen then .positional
    else .refused

/-- Options in the order in which they are given, with their values, and positional
words. The value of a flag is empty. -/
structure Arguments where
  options : List (String × String)
  positional : List String
deriving DecidableEq, Repr

namespace Arguments

def none : Arguments := ⟨[], []⟩

def addOption (arguments : Arguments) (name value : String) : Arguments :=
  { arguments with options := (name, value) :: arguments.options }

def addPositional (arguments : Arguments) (word : String) : Arguments :=
  { arguments with positional := word :: arguments.positional }

/-- The arguments that some words write. Behind a word of two dashes all words are
positional. -/
def ofWords (table : OptionTable) : List String → Option Arguments
  | [] => some none
  | word :: rest =>
    if word = "--" then some ⟨[], rest⟩
    else
      match table.classify word, rest with
      | .positional, rest => (ofWords table rest).map (·.addPositional word)
      | .flag name, rest => (ofWords table rest).map (·.addOption name "")
      | .setting name value, rest => (ofWords table rest).map (·.addOption name value)
      | .valued name, value :: rest => (ofWords table rest).map (·.addOption name value)
      | .valued _, [] => Option.none
      | .refused, _ => Option.none

def has (arguments : Arguments) (name : String) : Bool :=
  arguments.options.any (·.1 == name)

/-- The value of an option; what is given last counts. -/
def value? (arguments : Arguments) (name : String) : Option String :=
  arguments.options.reverse.lookup name

end Arguments

end Spreadsheet.CommandLine
