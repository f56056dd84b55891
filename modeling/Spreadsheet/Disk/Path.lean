/-!
# Paths

Paths as they are written down: a root and names. Empty names and single dots say
nothing and are left out; double dots stay, since what they mean depends on the
disk.
-/

set_option autoImplicit false

namespace Spreadsheet

/-- A path. `slashes` is zero for a relative path; otherwise one, or two where a
path begins with exactly two. -/
structure Path where
  slashes : Nat
  names : List String
deriving DecidableEq, Repr

namespace Path

/-- Puts a character in front of the first part, opening one if there is none. -/
def consPart (c : Char) : List (List Char) → List (List Char)
  | [] => [[c]]
  | part :: rest => (c :: part) :: rest

def parts : List Char → List (List Char)
  | [] => [[]]
  | c :: rest => if c = '/' then [] :: parts rest else consPart c (parts rest)

def ofText (text : String) : Path where
  slashes :=
    match text.toList with
    | '/' :: '/' :: '/' :: _ => 1
    | '/' :: '/' :: _ => 2
    | '/' :: _ => 1
    | _ => 0
  names := ((parts text.toList).filter fun part => part != [] && part != ['.']).map String.ofList

/-- The text of a path. A relative path without names is a dot. -/
def text (path : Path) : String :=
  if path.slashes = 0 ∧ path.names = [] then "."
  else String.ofList (List.replicate path.slashes '/') ++ "/".intercalate path.names

def isAbsolute (path : Path) : Bool := path.slashes != 0

/-- The second path, starting from the first one unless it begins at the root. -/
def join (base path : Path) : Path :=
  if path.isAbsolute then path else ⟨base.slashes, base.names ++ path.names⟩

def child (path : Path) (name : String) : Path := ⟨path.slashes, path.names ++ [name]⟩

def parent (path : Path) : Path := ⟨path.slashes, path.names.dropLast⟩

end Path

end Spreadsheet
