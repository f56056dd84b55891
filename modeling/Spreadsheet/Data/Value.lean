import Spreadsheet.Collection.Table
import Spreadsheet.Data.Calendar
import Spreadsheet.Number.Integer
import Spreadsheet.Number.Shortest
import Spreadsheet.Text.Letters

/-!
# Data

Values of configuration files and logs, the test whether a value counts as set, and the
text of a value inside other text.
-/

set_option autoImplicit false

namespace Spreadsheet.Data

/-- What stands for text in values: whether there is any, how it is printed, and how it stands
inside another value. -/
class Wording (τ : Type) where
  isEmpty : τ → Bool
  text? : τ → Option String
  quote : τ → String

instance : Wording String := ⟨(· == ""), some, Text.quote⟩

instance : Wording Letters := ⟨List.isEmpty, Letters.text?, Letters.quote⟩

/-- A value without parts. -/
inductive Scalar (τ : Type := String) where
  | null
  | bool (value : Bool)
  | int (value : Int)
  | float (value : Double)
  | text (value : τ)
  | octets (value : List UInt8)
  | day (value : Calendar.Date)
  | moment (value : Calendar.Moment)
deriving DecidableEq

/-- A value. The keys of mappings are scalars. A value that is inside itself is not repeated
there: it is only told whether it is a list or a mapping. -/
inductive Value (τ : Type := String) where
  | scalar (value : Scalar τ)
  | list (items : List (Value τ))
  | mapping (members : List (Scalar τ × Value τ))
  | pairs (rows : List (Value τ × Value τ))
  | set (members : List (Scalar τ))
  | sameList
  | sameMapping

instance : Inhabited Value := ⟨.scalar .null⟩

namespace Scalar

/-- The whole number of a scalar that is equal to one; truth values count as one and
zero. -/
def whole? : Scalar → Option Int
  | bool value => some (if value then 1 else 0)
  | int value => some value
  | float value =>
    if value.isFinite ∧ value.units % Double.one = 0 then
      some (value.signedUnits / (Double.one : Int))
    else none
  | _ => none

/-- Whether two scalars are the same key. Numbers of different types are, if they
are equal. -/
def sameKey (first second : Scalar) : Bool :=
  match first, second with
  | text here, text there => here == there
  | moment here, moment there => here.same there
  | _, _ =>
    match first.whole?, second.whole? with
    | some a, some b => a == b
    | none, none => first == second
    | _, _ => false

section Words

variable {τ : Type} [Wording τ]

/-- Whether a scalar counts as set: not null, false, zero or empty. -/
def isSet : Scalar τ → Bool
  | null => false
  | bool value => value
  | int value => value != 0
  | float value => !value.isZero
  | text value => !Wording.isEmpty value
  | octets value => !value.isEmpty
  | day _ => true
  | moment _ => true

/-- The text of a scalar. A whole number with too many digits has none. -/
def shown? : Scalar τ → Option String
  | null => some "None"
  | bool value => some (if value then "True" else "False")
  | int value => Integer.text? value
  | float value => some (String.ofList value.text)
  | text value => Wording.text? value
  | octets value => some (String.ofList (Text.quotedOctets value))
  | day value => some value.text
  | moment value => some value.text

/-- The text of a scalar inside another value, where text is quoted. -/
def literal? : Scalar τ → Option String
  | text value => some (Wording.quote value)
  | day value => some value.literal
  | moment value => some value.literal
  | other => other.shown?

end Words

end Scalar

namespace Value

variable {τ : Type} [Wording τ]

def isSet : Value τ → Bool
  | scalar value => value.isSet
  | list items => !items.isEmpty
  | mapping members => !members.isEmpty
  | pairs rows => !rows.isEmpty
  | set members => !members.isEmpty
  | sameList => true
  | sameMapping => true

def enclosed (opening : String) (texts : List String) (closing : String) : String :=
  opening ++ ", ".intercalate texts ++ closing

mutual

def literal? : Value τ → Option String
  | scalar value => value.literal?
  | list items => do
    let texts ← itemLiterals? items
    pure (enclosed "[" texts "]")
  | mapping members => do
    let texts ← memberLiterals? members
    pure (enclosed "\x7b" texts "\x7d")
  | pairs rows => do
    let texts ← pairLiterals? rows
    pure (enclosed "[" texts "]")
  | set members => do
    let texts ← members.mapM Scalar.literal?
    pure (if texts.isEmpty then "set()" else enclosed "\x7b" texts "\x7d")
  | sameList => some "[...]"
  | sameMapping => some "\x7b...\x7d"

def itemLiterals? : List (Value τ) → Option (List String)
  | [] => some []
  | item :: rest => do
    let text ← literal? item
    let later ← itemLiterals? rest
    pure (text :: later)

def memberLiterals? : List (Scalar τ × Value τ) → Option (List String)
  | [] => some []
  | (key, value) :: rest => do
    let key ← key.literal?
    let text ← literal? value
    let later ← memberLiterals? rest
    pure ((key ++ ": " ++ text) :: later)

def pairLiterals? : List (Value τ × Value τ) → Option (List String)
  | [] => some []
  | (first, second) :: rest => do
    let first ← literal? first
    let second ← literal? second
    let later ← pairLiterals? rest
    pure (enclosed "(" [first, second] ")" :: later)

end

/-- The text of a value. A value that holds a whole number with too many digits has none. -/
def shown? : Value τ → Option String
  | scalar value => value.shown?
  | other => other.literal?

end Value

/-- Gives a key its value among some members, in place or at the end. A key that is
there already keeps its form. -/
def setMember {α : Type} (key : Scalar) (value : α) : List (Scalar × α) → List (Scalar × α)
  | [] => [(key, value)]
  | member :: rest =>
    if member.1.sameKey key then (member.1, value) :: rest else member :: setMember key value rest

def member? (key : String) (members : List (Scalar × Value)) : Option Value :=
  (members.find? fun member => member.1 == .text key).map Prod.snd

end Spreadsheet.Data
