/-!
# Tags

What the nodes of a document are to become, and the names under which documents announce
it.
-/

set_option autoImplicit false

namespace Spreadsheet.Yaml

/-- What a node is to become. Some nodes only have a meaning as keys: they lend members to a
mapping, or hold the scalar that stands for it. -/
inductive Tag where
  | null
  | bool
  | int
  | float
  | octets
  | moment
  | text
  | list
  | mapping
  | set
  | pairs
  | merge
  | default
  | unknown
deriving DecidableEq, Repr

namespace Tag

def common : List Char := "tag:yaml.org,2002:".toList

def known : List (String × Tag) :=
  [("null", null), ("bool", bool), ("int", int), ("float", float), ("binary", octets),
    ("timestamp", moment), ("str", text), ("seq", list), ("map", mapping), ("set", set),
    ("omap", pairs), ("pairs", pairs), ("merge", merge), ("value", default)]

def ofName (name : List Char) : Tag :=
  if common.isPrefixOf name then
    (known.lookup (String.ofList (name.drop common.length))).getD unknown
  else unknown

/-- The name that announces nothing: it leaves open what a node is to become. -/
def openName : List Char := ['!']

/-- The short forms for the beginnings of names that every document knows. -/
def handles : List (List Char × List Char) := [(['!'], ['!']), (['!', '!'], common)]

end Tag

end Spreadsheet.Yaml
