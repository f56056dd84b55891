import Spreadsheet.Text.Blank

/-!
# Commands

The commands of a session, one a line: a word and what follows it.
-/

set_option autoImplicit false

namespace Spreadsheet

/-- What a line asks for. An operand that is left out is `none` where that makes a
difference. -/
inductive Command where
  | blank
  | unknown (word : String)
  | set (edit : Option (String × String))
  | delete (id : Option String)
  | get (id : String)
  | tree (id : String)
  | graph (id : Option String)
  | view
  | save (file : Option String)
  | load (file : Option String)
  | help
  | quit
deriving DecidableEq, Repr

namespace Command

def operand? : List Char → Option String
  | [] => none
  | c :: rest => some (String.ofList (c :: rest))

def edit? (operands : List Char) : Option (String × String) :=
  (Text.splitWord operands).map fun (id, contents) =>
    (String.ofList id, String.ofList contents)

def ofWord (word : String) (operands : List Char) : Command :=
  match word with
  | "set" => set (edit? operands)
  | "delete" => delete (operand? operands)
  | "get" => get (String.ofList operands)
  | "tree" => tree (String.ofList operands)
  | "graph" => graph (operand? operands)
  | "show" => view
  | "save" => save (operand? operands)
  | "load" => load (operand? operands)
  | "help" => help
  | "quit" => quit
  | _ => unknown word

/-- The command that a line writes; blanks around it do not count. -/
def ofLine (line : List Char) : Command :=
  match Text.splitWord (Text.trim line) with
  | none => blank
  | some (word, operands) => ofWord (String.ofList word) operands

end Command

end Spreadsheet
