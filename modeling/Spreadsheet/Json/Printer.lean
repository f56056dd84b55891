import Spreadsheet.Json.Value
import Spreadsheet.Number.Integer
import Spreadsheet.Number.Shortest
import Spreadsheet.Text.Quoted

/-!
# Writing JSON

One value on one line, in ASCII, with the members of every object in the order of
their keys: equal values have equal texts. Values with longer whole numbers than are written
have none.
-/

set_option autoImplicit false

namespace Spreadsheet.Json

def escapeUnit (unit : Nat) : List Char := '\\' :: 'u' :: Text.hexDigits 4 unit

/-- How a character is written inside a string. Beyond 16 bits it takes a pair of
surrogates. -/
def escapeChar (c : Char) : List Char :=
  if c = '"' ∨ c = '\\' then ['\\', c]
  else if c = '\n' then ['\\', 'n']
  else if c = '\r' then ['\\', 'r']
  else if c = '\t' then ['\\', 't']
  else if c = '\x08' then ['\\', 'b']
  else if c = '\x0c' then ['\\', 'f']
  else if ' ' ≤ c ∧ c ≤ '~' then [c]
  else if c.toNat < 0x10000 then escapeUnit c.toNat
  else
    escapeUnit (0xD800 + (c.toNat - 0x10000) / 0x400) ++
      escapeUnit (0xDC00 + (c.toNat - 0x10000) % 0x400)

def renderString (s : String) : List Char :=
  '"' :: s.toList.flatMap escapeChar ++ ['"']

def renderInt (n : Int) : List Char :=
  (if n < 0 then ['-'] else []) ++ Text.decimal n.natAbs

def renderFloat (x : Double) : List Char :=
  if x.isNan then "NaN".toList
  else if x.isInfinite then (if x.negative then "-Infinity".toList else "Infinity".toList)
  else x.text

/-- Puts a row with a key behind all rows with lesser or equal keys. -/
def insertByKey {α : Type} (row : String × α) : List (String × α) → List (String × α)
  | [] => [row]
  | head :: rest => if row.1 < head.1 then row :: head :: rest else head :: insertByKey row rest

def sortByKey {α : Type} (rows : List (String × α)) : List (String × α) :=
  rows.foldl (fun sorted row => insertByKey row sorted) []

mutual

/-- Whether no whole number in a value has more digits than are written. -/
def fitsDigits : Json → Bool
  | int value => !Integer.isLong value
  | array items => itemsFitDigits items
  | object members => membersFitDigits members
  | _ => true

def itemsFitDigits : List Json → Bool
  | [] => true
  | item :: rest => fitsDigits item && itemsFitDigits rest

/-- Whether no whole number in the values of some members has more digits than are written. -/
def membersFitDigits : List (String × Json) → Bool
  | [] => true
  | (_, value) :: rest => fitsDigits value && membersFitDigits rest

end

def commaSeparated (texts : List (List Char)) : List Char :=
  List.intercalate [',', ' '] texts

mutual

def render : Json → List Char
  | null => "null".toList
  | bool value => if value then "true".toList else "false".toList
  | int value => renderInt value
  | float value => renderFloat value
  | string value => renderString value
  | array items => '[' :: commaSeparated (renderItems items) ++ [']']
  | object members =>
    '\x7b' :: commaSeparated ((sortByKey (renderMembers members)).map fun (key, text) =>
      renderString key ++ ':' :: ' ' :: text) ++ ['\x7d']

def renderItems : List Json → List (List Char)
  | [] => []
  | item :: rest => render item :: renderItems rest

/-- The texts of the values of some members, with their keys. -/
def renderMembers : List (String × Json) → List (String × List Char)
  | [] => []
  | (key, value) :: rest => (key, render value) :: renderMembers rest

end

end Spreadsheet.Json
