import Spreadsheet.Dependency.Links
import Spreadsheet.Text.Padding

/-!
# Listing of links

The links as text, for users.
-/

set_option autoImplicit false

namespace Spreadsheet

def IdSet.listing (set : IdSet) : String :=
  "[" ++ ", ".intercalate set.toList ++ "]"

namespace Links

def listRows (rows : Table String IdSet) : List String :=
  (IdSet.ofList rows.keys).toList.map fun key =>
    s!"{Text.alignRight 4 key} : {((rows.get? key).getD ∅).listing}"

def listing (links : Links) : String :=
  let rows := "Upstream Links:" :: listRows links.sources ++
    "Downstream Links:" :: listRows links.readers
  "\n".intercalate rows ++ "\n"

def count (links : Links) : Nat := links.sources.rows.foldr (fun row total => row.2.size + total) 0

def summary (links : Links) : String :=
  s!"DependencyGraph(nodes={links.nodes.size}, links={links.count})"

end Links

end Spreadsheet
