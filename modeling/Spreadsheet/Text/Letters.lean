import Spreadsheet.Text.Quoted

/-!
# Letters

Text as escapes can spell it. An escape may stand for one half of a pair that makes a
character only together with the other half, so not every row of letters is a text.
-/

set_option autoImplicit false

namespace Spreadsheet

/-- A character, or half of a pair by itself. -/
inductive Letter where
  | char (c : Char)
  | half (unit : Nat)
deriving DecidableEq, Repr

abbrev Letters := List Letter

def Letter.char? : Letter → Option Char
  | char c => some c
  | half _ => none

namespace Letters

def ofText (s : String) : Letters := s.toList.map Letter.char

/-- The text of some letters, unless a half stands among them. -/
def text? (letters : Letters) : Option String := (letters.mapM Letter.char?).map String.ofList

def quoteLetter (quote : Char) : Letter → List Char
  | .char c => Text.quoteChar quote c
  | .half unit => '\\' :: 'u' :: Text.hexDigits 4 unit

/-- The letters in quotes, on one line and in printable characters only. -/
def quote (letters : Letters) : String :=
  let quote := Text.quoteFor (letters.filterMap Letter.char?)
  String.ofList (quote :: letters.flatMap (quoteLetter quote) ++ [quote])

end Letters

end Spreadsheet
