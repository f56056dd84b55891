import Spreadsheet.Yaml.Object

/-!
# YAML documents

The value that a YAML text describes: its objects with their parts in them. Of members with
the same key the last one counts.
-/

set_option autoImplicit false

namespace Spreadsheet.Yaml

namespace Object

/-- The values of objects that were met and are no part of themselves. -/
abbrev Values := Array (Option Data.Value)

def note (number : Nat) (value : Data.Value) (whole : Bool) :
    StateM Values (Data.Value × Bool) := do
  if whole then modify fun values => values.setIfInBounds number (some value)
  pure (value, whole)

/-- The value of an object inside those `above`, and whether it is whole: nowhere in it does
an object stand inside itself. There it is not repeated. -/
def value (objects : Objects) : Nat → List Nat → Nat → StateM Values (Data.Value × Bool)
  | 0, _, _ => pure (.scalar .null, false)
  | depth + 1, above, number => do
    if let some (some value) := (← get)[number]? then return (value, true)
    let part (child : Nat) : StateM Values (Data.Value × Bool) :=
      value objects depth (number :: above) child
    match objects.getD number none with
    | none => pure (.scalar .null, true)
    | some (.scalar value) => pure (.scalar value, true)
    | some (.set members) => pure (.set members, true)
    | some (.list items) =>
      if above.contains number then return (.sameList, false)
      let parts ← items.mapM part
      note number (.list (parts.map Prod.fst)) (parts.all Prod.snd)
    | some (.mapping members) =>
      if above.contains number then return (.sameMapping, false)
      let parts ← members.mapM fun member => part member.2
      note number (.mapping ((members.map Prod.fst).zip (parts.map Prod.fst)))
        (parts.all Prod.snd)
    | some (.pairs rows) =>
      if above.contains number then return (.sameList, false)
      let parts ← rows.mapM fun row => do pure (← part row.1, ← part row.2)
      note number (.pairs (parts.map fun (first, second) => (first.1, second.1)))
        (parts.all fun (first, second) => first.2 && second.2)

/-- The value of the outermost object. The members of a mapping are looked at one by one: it
is not above them. -/
def document (objects : Objects) (root : Nat) : Data.Value :=
  let depth := objects.size + 1
  let values : Values := Array.replicate objects.size none
  match objects.getD root none with
  | some (.mapping members) =>
    let parts := ((members.mapM fun member => value objects depth [] member.2).run values).1
    .mapping ((members.map Prod.fst).zip (parts.map Prod.fst))
  | _ => ((value objects depth [] root).run values).1.1

end Object

/-- The value that a text describes; nothing if there is no document. -/
def read (text : List Char) : Except Error (Option Data.Value) := do
  let (graph, root) ← Node.ofText? text
  match root with
  | none => pure none
  | some root => pure (some (Object.document (← Object.ofGraph graph root) root))

end Spreadsheet.Yaml
