import Spreadsheet.Json.Token

/-!
# Reading JSON

A text is read token by token, with the arrays and objects that are still open as a
stack. Only so many of them may be open at once. Of members with the same key the last one
counts.
-/

set_option autoImplicit false

namespace Spreadsheet.Json

/-- The values that can stand inside one another. -/
inductive Compound where
  | array
  | object
deriving DecidableEq, Repr

def Compound.name : Compound → String
  | array => "array"
  | object => "object"

/-- Why a text is not read: it is no value, or more than is taken in. -/
inductive ReadError where
  | malformed
  | longInteger (digits : Nat)
  | tooDeep (inside : Compound)
deriving DecidableEq, Repr

/-- An array or object that is still open; its last items come first. -/
inductive Frame where
  | array (items : List (Json Letters))
  | object (members : List (Letters × Json Letters)) (key : Letters)

/-- Where the reader stands between two tokens. -/
inductive ReadState where
  /-- A value must follow. -/
  | nextValue (outer : List Frame)
  /-- Behind the opening of an array. -/
  | firstItem (outer : List Frame)
  /-- Behind the opening of an object. -/
  | firstKey (outer : List Frame)
  /-- A key must follow. -/
  | nextKey (members : List (Letters × Json Letters)) (outer : List Frame)
  /-- A colon must follow. -/
  | nextColon (members : List (Letters × Json Letters)) (key : Letters) (outer : List Frame)
  /-- A value is complete. -/
  | complete (value : Json Letters) (outer : List Frame)

def beginValue (levels : Nat) (outer : List Frame) : Token → Except ReadError ReadState
  | .scalar value => .ok (.complete value outer)
  | .text value => .ok (.complete (.string value) outer)
  | .openArray =>
    if outer.length < levels then .ok (.firstItem outer) else .error (.tooDeep .array)
  | .openObject =>
    if outer.length < levels then .ok (.firstKey outer) else .error (.tooDeep .object)
  | .longInteger digits => .error (.longInteger digits)
  | _ => .error .malformed

def ReadState.step (levels : Nat) : ReadState → Token → Except ReadError ReadState
  | .nextValue outer, token => beginValue levels outer token
  | .firstItem outer, .closeArray => .ok (.complete (.array []) outer)
  | .firstItem outer, token => beginValue levels (.array [] :: outer) token
  | .firstKey outer, .closeObject => .ok (.complete (.object []) outer)
  | .firstKey outer, .text key => .ok (.nextColon [] key outer)
  | .nextKey members outer, .text key => .ok (.nextColon members key outer)
  | .nextColon members key outer, .colon => .ok (.nextValue (.object members key :: outer))
  | .complete value (.array items :: outer), .comma =>
    .ok (.nextValue (.array (value :: items) :: outer))
  | .complete value (.array items :: outer), .closeArray =>
    .ok (.complete (.array (value :: items).reverse) outer)
  | .complete value (.object members key :: outer), .comma =>
    .ok (.nextKey (setMember members key value) outer)
  | .complete value (.object members key :: outer), .closeObject =>
    .ok (.complete (.object (setMember members key value)) outer)
  | _, _ => .error .malformed

def ReadState.run (levels : Nat) (state : ReadState) : List Token → Except ReadError ReadState
  | [] => .ok state
  | token :: rest => do
    let next ← state.step levels token
    next.run levels rest

/-- The value that a text writes, if at most `levels` arrays and objects are ever open in it. -/
def read (levels : Nat) (cs : List Char) : Except ReadError (Json Letters) := do
  let (tokens, stuck) := tokens cs
  let state ← (ReadState.nextValue []).run levels tokens
  match state, stuck with
  | .complete value [], false => .ok value
  | _, _ => .error .malformed

end Spreadsheet.Json
