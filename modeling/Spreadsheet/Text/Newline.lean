import Spreadsheet.Text.Blank

/-!
# Line ends

Text files may end their lines in three ways; inside a program a line feed ends them.
-/

set_option autoImplicit false

namespace Spreadsheet.Text

/-- The text with a line feed for every carriage return and for every carriage return
with the line feed behind it. -/
def unifyLineEnds : List Char → List Char
  | [] => []
  | '\r' :: '\n' :: rest => '\n' :: unifyLineEnds rest
  | c :: rest => (if c = '\r' then '\n' else c) :: unifyLineEnds rest

/-- The lines of a text in which line feeds end them. A text that ends with one has no
further empty line. -/
def feedLines : List Char → List (List Char)
  | [] => []
  | '\n' :: rest => [] :: feedLines rest
  | c :: rest => consLine c (feedLines rest)

def trimFeeds (s : String) : String :=
  String.ofList (s.toList.reverse.dropWhile (· == '\n')).reverse

end Spreadsheet.Text
