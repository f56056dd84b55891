import Spreadsheet.Collection.Table
import Spreadsheet.Number.Double

/-!
# JSON values

JSON values with whole numbers of any size kept apart from doubles, and the look-up
of object members. What their strings are is a parameter: values that are written have
texts, and values that are read may have letters that make no text.
-/

set_option autoImplicit false

namespace Spreadsheet

/-- A JSON value with strings of some kind. Objects keep the order of their members. -/
inductive Json (τ : Type := String) where
  | null
  | bool (value : Bool)
  | int (value : Int)
  | float (value : Double)
  | string (value : τ)
  | array (items : List (Json τ))
  | object (members : List (τ × Json τ))

namespace Json

variable {τ υ : Type}

/-- The member of an object with the given key. Values that are no objects have no
members. -/
def member? [BEq τ] (key : τ) : Json τ → Option (Json τ)
  | object members => members.lookup key
  | _ => none

def string? : Json τ → Option τ
  | string value => some value
  | _ => none

mutual

/-- The number of levels of a value: one for itself, and those of the deepest value in it. -/
def depth : Json → Nat
  | array items => itemsDepth items + 1
  | object members => membersDepth members + 1
  | _ => 1

def itemsDepth : List Json → Nat
  | [] => 0
  | item :: rest => max (depth item) (itemsDepth rest)

/-- The number of levels of the deepest value of some members. -/
def membersDepth : List (String × Json) → Nat
  | [] => 0
  | (_, value) :: rest => max (depth value) (membersDepth rest)

end

/-- Adds a member to an object's members, in place of one with the same key. -/
def setMember [DecidableEq τ] (members : List (τ × Json τ)) (key : τ) (value : Json τ) :
    List (τ × Json τ) :=
  Table.setRow key value members

mutual

/-- The value with its strings and keys in another form. -/
def mapText (form : τ → υ) : Json τ → Json υ
  | null => null
  | bool value => bool value
  | int value => int value
  | float value => float value
  | string value => string (form value)
  | array items => array (mapTextItems form items)
  | object members => object (mapTextMembers form members)

def mapTextItems (form : τ → υ) : List (Json τ) → List (Json υ)
  | [] => []
  | item :: rest => mapText form item :: mapTextItems form rest

def mapTextMembers (form : τ → υ) : List (τ × Json τ) → List (υ × Json υ)
  | [] => []
  | (key, value) :: rest => (form key, mapText form value) :: mapTextMembers form rest

end

mutual

/-- The value with `null` in place of every double that is infinite or no number: JSON
proper has no words for those. -/
def finite : Json → Json
  | float value => if value.isNan || value.isInfinite then null else float value
  | array items => array (finiteItems items)
  | object members => object (finiteMembers members)
  | other => other

/-- Some values, with `null` for what JSON has no words for. -/
def finiteItems : List Json → List Json
  | [] => []
  | item :: rest => finite item :: finiteItems rest

/-- Some members, with `null` for what JSON has no words for. -/
def finiteMembers : List (String × Json) → List (String × Json)
  | [] => []
  | (key, value) :: rest => (key, finite value) :: finiteMembers rest

end

end Json

end Spreadsheet
