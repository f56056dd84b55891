/-!
# Blanks, words and lines

Which characters are blank, which end a line, and the trimming and cutting of
text that rest on these two classes.
-/

set_option autoImplicit false

namespace Spreadsheet.Text

/-- The blank characters: the separators of plain text and of the Unicode
space class, whether or not they end a line. -/
def isBlank (c : Char) : Bool :=
  let n := c.toNat
  (0x09 ≤ n && n ≤ 0x0D) || (0x1C ≤ n && n ≤ 0x20) || n == 0x85 || n == 0xA0 ||
  n == 0x1680 || (0x2000 ≤ n && n ≤ 0x200A) || n == 0x2028 || n == 0x2029 ||
  n == 0x202F || n == 0x205F || n == 0x3000

/-- The characters after which a new line begins. Each of them is blank. -/
def isLineBreak (c : Char) : Bool :=
  let n := c.toNat
  (0x0A ≤ n && n ≤ 0x0D) || (0x1C ≤ n && n ≤ 0x1E) || n == 0x85 ||
  n == 0x2028 || n == 0x2029

def trimLeft (cs : List Char) : List Char :=
  cs.dropWhile isBlank

def trimRight (cs : List Char) : List Char :=
  (cs.reverse.dropWhile isBlank).reverse

/-- The text without leading and trailing blanks; blanks inside stay. -/
def trim (cs : List Char) : List Char :=
  trimRight (trimLeft cs)

/-- Puts a character in front of the first line, opening one if there is none. -/
def consLine (c : Char) : List (List Char) → List (List Char)
  | [] => [[c]]
  | line :: rest => (c :: line) :: rest

/-- The lines of a text without the characters that end them. A carriage return
and the line feed after it end one line together; a text that ends with a line
break has no further empty line. -/
def lines : List Char → List (List Char)
  | [] => []
  | '\r' :: '\n' :: rest => [] :: lines rest
  | c :: rest => if isLineBreak c then [] :: lines rest else consLine c (lines rest)

/-- The first word of a text and what follows it, less the blanks between the
two; nothing if the text is blank. Trailing blanks stay with the second part. -/
def splitWord (cs : List Char) : Option (List Char × List Char) :=
  match trimLeft cs with
  | [] => none
  | c :: rest =>
    some ((c :: rest).takeWhile (!isBlank ·), trimLeft ((c :: rest).dropWhile (!isBlank ·)))

def hasLineBreak (s : String) : Bool :=
  s.toList.any isLineBreak

end Spreadsheet.Text
