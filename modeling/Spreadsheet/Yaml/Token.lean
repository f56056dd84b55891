import Spreadsheet.Number.Integer
import Spreadsheet.Text.Utf8
import Spreadsheet.Yaml.ScalarText

/-!
# YAML tokens

The tokens of a YAML text. Indentation becomes tokens that open and close blocks. A
key in front of a colon is only known when the colon is met; its token is then put in
front of the tokens that turned out to be the key. Where the text goes wrong, the tokens before
that place remain: a document may be wrong before it.
-/

set_option autoImplicit false

namespace Spreadsheet.Yaml

/-- What the line of a directive says: that the version is known, what a handle stands for at
the beginning of tags, or something else. -/
inductive Directive where
  | version
  | handle (name beginning : List Char)
  | other
deriving DecidableEq, Repr

/-- A token of YAML text. A tag is written with a handle or in full. -/
inductive Token where
  | streamEnd
  | directive (directive : Directive)
  | documentStart
  | documentEnd
  | blockSequenceStart
  | blockMappingStart
  | blockEnd
  | flowSequenceStart
  | flowSequenceEnd
  | flowMappingStart
  | flowMappingEnd
  | blockEntry
  | flowEntry
  | key
  | value
  | alias (name : List Char)
  | anchor (name : List Char)
  | tag (handle : Option (List Char)) (ending : List Char)
  | scalar (text : List Char) (plain : Bool)
deriving DecidableEq, Repr

/-- A place where a key may have begun: the number of tokens before it, whether
nothing but a key can stand there, and the place itself. -/
structure KeyPlace where
  number : Nat
  required : Bool
  index : Nat
  line : Nat
  column : Nat
deriving DecidableEq, Repr

/-- The state between two tokens: the length of the text, the depth of brackets, the columns
of the open blocks, whether a key may begin here, the places where keys may have begun by
depth, and the tokens so far. -/
structure Lexer where
  cursor : Cursor
  length : Nat
  depth : Nat
  indent : Int
  outer : List Int
  keyAllowed : Bool
  places : List (Nat × KeyPlace)
  tokens : Array Token
deriving Repr

namespace Lexer

def ofText (text : List Char) : Lexer where
  cursor := ⟨text, 0, 0, 0⟩
  length := text.length
  depth := 0
  indent := -1
  outer := []
  keyAllowed := true
  places := []
  tokens := #[]

def allowKey (lexer : Lexer) (allowed : Bool) : Lexer := { lexer with keyAllowed := allowed }

def emit (lexer : Lexer) (token : Token) : Lexer :=
  { lexer with tokens := lexer.tokens.push token }

/-- A token in front of those that came after the first `number`. -/
def insertAt (lexer : Lexer) (number : Nat) (token : Token) : Lexer :=
  { lexer with tokens := lexer.tokens.insertIdxIfInBounds number token }

/-- The longest distance between the beginning of a key and its colon. -/
def maxKeyLength : Nat := 1024

/-- Forgets the places that lie on another line or too far back. Where a key had to
stand, that is an error. -/
def dropStale (lexer : Lexer) : Except Error Lexer :=
  let stale (place : KeyPlace) : Bool :=
    place.line != lexer.cursor.line || maxKeyLength < lexer.cursor.index - place.index
  if lexer.places.any fun (_, place) => stale place && place.required then .error .malformed
  else .ok { lexer with places := lexer.places.filter fun (_, place) => !stale place }

/-- Forgets the place at the present depth. Where a key had to stand, that is an
error. -/
def dropPlace (lexer : Lexer) : Except Error Lexer :=
  match lexer.places.lookup lexer.depth with
  | none => .ok lexer
  | some place =>
    if place.required then .error .malformed
    else .ok { lexer with places := lexer.places.filter (·.1 != lexer.depth) }

def savePlace (lexer : Lexer) : Except Error Lexer := do
  let required := lexer.depth == 0 && lexer.indent == lexer.cursor.column
  if lexer.keyAllowed then
    let lexer ← lexer.dropPlace
    let place := ⟨lexer.tokens.size, required, lexer.cursor.index, lexer.cursor.line,
      lexer.cursor.column⟩
    pure { lexer with places := (lexer.depth, place) :: lexer.places }
  else pure lexer

/-- Closes the blocks that are indented beyond a column, the innermost first. -/
def closeBlocks (lexer : Lexer) (column : Int) : Lexer :=
  if lexer.depth != 0 then lexer
  else
    let rec close (indent : Int) : List Int → Int × List Int × Nat
      | [] => (indent, [], 0)
      | next :: rest =>
        if column < indent then
          let (indent, outer, count) := close next rest
          (indent, outer, count + 1)
        else (indent, next :: rest, 0)
    let (indent, outer, count) := close lexer.indent lexer.outer
    { lexer with indent, outer, tokens := lexer.tokens ++ Array.replicate count .blockEnd }

/-- Opens a block at a column, if it lies beyond the innermost open one. -/
def openBlock (lexer : Lexer) (column : Nat) : Option Lexer :=
  if lexer.indent < column then
    some { lexer with indent := column, outer := lexer.indent :: lexer.outer }
  else none

/-- Skips blanks, comments and line breaks. Outside brackets a key may begin on a new
line. -/
def skipBlanks (lexer : Lexer) : Nat → Lexer
  | 0 => lexer
  | steps + 1 =>
    let cursor := lexer.cursor.skipWhile (· == ' ')
    let cursor := if cursor.peek 0 = some '#' then cursor.skipWhile (!isBreak ·) else cursor
    match cursor.lineBreak? with
    | none => { lexer with cursor }
    | some (_, cursor) =>
      skipBlanks { lexer with cursor, keyAllowed := lexer.keyAllowed || lexer.depth == 0 } steps

def readEnd (lexer : Lexer) : Except Error Lexer := do
  let lexer ← (lexer.closeBlocks (-1)).dropPlace
  pure ({ lexer with keyAllowed := false, places := [] }.emit .streamEnd)

/-- A part of a version: its digits, and the cursor behind them. -/
def readVersionPart (cursor : Cursor) : Except Error (List Char × Cursor) := do
  let (digits, cursor) := cursor.takeWhile fun c => '0' ≤ c && c ≤ '9'
  if digits = [] then throw .malformed
  if Integer.maxDigits < digits.length then throw (.integer (.tooLong digits.length))
  pure (digits, cursor)

/-- A version, of which the first part must be one; the cursor behind it. -/
def readVersion (cursor : Cursor) : Except Error Cursor := do
  let (major, cursor) ← readVersionPart (cursor.skipWhile (· == ' '))
  if cursor.peek 0 ≠ some '.' then throw .malformed
  let (_, cursor) ← readVersionPart cursor.next
  if major.dropWhile (· == '0') ≠ ['1'] then throw .malformed
  if !(endsLine (cursor.peek 0) || cursor.peek 0 == some ' ') then throw .malformed
  pure cursor

/-- A handle at the beginning of tags, between exclamation marks or a single one; the cursor
behind it. -/
def readHandle (cursor : Cursor) : Except Error (List Char × Cursor) := do
  if cursor.peek 0 ≠ some '!' then throw .malformed
  let (name, behind) := cursor.next.takeWhile isNameChar
  if name = [] ∧ behind.peek 0 = some ' ' then pure (['!'], behind)
  else if behind.peek 0 = some '!' then pure ('!' :: name ++ ['!'], behind.next)
  else throw .malformed

/-- The octets of a row of escapes, each a percent sign and two hexadecimal digits; the cursor
behind them. -/
def readEscapes : Nat → Cursor → Except Error (List UInt8 × Cursor)
  | 0, cursor => .ok ([], cursor)
  | steps + 1, cursor =>
    if cursor.peek 0 ≠ some '%' then .ok ([], cursor)
    else do
      let digits := cursor.next.rest.take 2
      if digits.length < 2 ∨ !digits.all (hexValue? · |>.isSome) then throw .malformed
      let (octets, cursor) ← readEscapes steps (cursor.skip 3)
      pure ((hexNumber digits).toUInt8 :: octets, cursor)

/-- A part of the name of a tag, with characters escaped in UTF-8; the cursor behind it. -/
def readTagPart : Nat → Cursor → Except Error (List Char × Cursor)
  | 0, cursor => .ok ([], cursor)
  | steps + 1, cursor =>
    match cursor.peek 0 with
    | none => .ok ([], cursor)
    | some c =>
      if c = '%' then do
        let (octets, cursor) ← readEscapes (cursor.rest.length + 1) cursor
        let text ← (Text.Utf8.decode octets).mapError fun _ => .malformed
        let (later, cursor) ← readTagPart steps cursor
        pure (text ++ later, cursor)
      else if isTagChar c then do
        let (later, cursor) ← readTagPart steps cursor.next
        pure (c :: later, cursor)
      else .ok ([], cursor)

/-- The beginning or ending of the name of a tag. It is not left out. -/
def readTagText (cursor : Cursor) : Except Error (List Char × Cursor) := do
  let (text, behind) ← readTagPart (cursor.rest.length + 1) cursor
  if behind.index = cursor.index then throw .malformed
  pure (text, behind)

def readHandleDirective (cursor : Cursor) : Except Error (Directive × Cursor) := do
  let (name, cursor) ← readHandle (cursor.skipWhile (· == ' '))
  if cursor.peek 0 ≠ some ' ' then throw .malformed
  let (beginning, cursor) ← readTagText (cursor.skipWhile (· == ' '))
  if !(endsLine (cursor.peek 0) || cursor.peek 0 == some ' ') then throw .malformed
  pure (.handle name beginning, cursor)

/-- The line of a directive. What directives say that are not known is not looked at. -/
def readDirective (lexer : Lexer) : Except Error Lexer := do
  let lexer ← (lexer.closeBlocks (-1)).dropPlace
  let (name, cursor) := lexer.cursor.next.takeWhile isNameChar
  if name = [] then throw .malformed
  if !(endsLine (cursor.peek 0) || cursor.peek 0 == some ' ') then throw .malformed
  let (directive, cursor) ←
    if name = "YAML".toList then do pure (.version, ← readVersion cursor)
    else if name = "TAG".toList then readHandleDirective cursor
    else pure (.other, cursor.skipWhile (!isBreak ·))
  let cursor := cursor.skipWhile (· == ' ')
  let cursor := if cursor.peek 0 = some '#' then cursor.skipWhile (!isBreak ·) else cursor
  if !endsLine (cursor.peek 0) then throw .malformed
  let cursor := (cursor.lineBreak?.map Prod.snd).getD cursor
  pure ({ lexer with cursor, keyAllowed := false }.emit (.directive directive))

def readSeparator (lexer : Lexer) (token : Token) : Except Error Lexer := do
  let lexer ← (lexer.closeBlocks (-1)).dropPlace
  pure ({ lexer with cursor := lexer.cursor.skip 3, keyAllowed := false }.emit token)

def readOpening (lexer : Lexer) (token : Token) : Except Error Lexer := do
  let lexer ← lexer.savePlace
  pure ({ lexer with
    cursor := lexer.cursor.next, depth := lexer.depth + 1, keyAllowed := true }.emit token)

/-- A closing bracket. One that closes nothing is refused. -/
def readClosing (lexer : Lexer) (token : Token) : Except Error Lexer := do
  if lexer.depth = 0 then throw .malformed
  let lexer ← lexer.dropPlace
  pure ({ lexer with
    cursor := lexer.cursor.next, depth := lexer.depth - 1, keyAllowed := false }.emit token)

def readComma (lexer : Lexer) : Except Error Lexer := do
  let lexer ← (lexer.allowKey true).dropPlace
  pure ({ lexer with cursor := lexer.cursor.next }.emit .flowEntry)

/-- Opens a block for a sign at the cursor, where one may stand. -/
def openFor (lexer : Lexer) (token : Token) : Except Error Lexer :=
  if lexer.depth != 0 then .ok lexer
  else if !lexer.keyAllowed then .error .malformed
  else
    match lexer.openBlock lexer.cursor.column with
    | some lexer => .ok (lexer.emit token)
    | none => .ok lexer

def readDash (lexer : Lexer) : Except Error Lexer := do
  let lexer ← lexer.openFor .blockSequenceStart
  let lexer ← (lexer.allowKey true).dropPlace
  pure ({ lexer with cursor := lexer.cursor.next }.emit .blockEntry)

def readKey (lexer : Lexer) : Except Error Lexer := do
  let lexer ← lexer.openFor .blockMappingStart
  let lexer ← (lexer.allowKey (lexer.depth == 0)).dropPlace
  pure ({ lexer with cursor := lexer.cursor.next }.emit .key)

/-- The colon behind a key. The key may lie behind or be empty. -/
def readColon (lexer : Lexer) : Except Error Lexer := do
  let lexer ←
    match lexer.places.lookup lexer.depth with
    | some place =>
      let lexer := { lexer with places := lexer.places.filter (·.1 != lexer.depth) }
      let lexer := lexer.insertAt place.number .key
      let lexer :=
        if lexer.depth != 0 then lexer
        else
          match lexer.openBlock place.column with
          | some lexer => lexer.insertAt place.number .blockMappingStart
          | none => lexer
      pure { lexer with keyAllowed := false }
    | none => do
      let lexer ← lexer.openFor .blockMappingStart
      (lexer.allowKey (lexer.depth == 0)).dropPlace
  pure ({ lexer with cursor := lexer.cursor.next }.emit .value)

/-- The name of an anchor or alias, and what may stand behind it. -/
def readName (lexer : Lexer) (token : List Char → Token) : Except Error Lexer := do
  let lexer ← lexer.savePlace
  let (name, cursor) := lexer.cursor.next.takeWhile isNameChar
  let ended := endsWord (cursor.peek 0) ||
    ((cursor.peek 0).any fun c => ['?', ':', ',', ']', '\x7d', '%', '@', '\x60'].contains c)
  if name = [] ∨ !ended then throw .malformed
  pure ({ lexer with cursor, keyAllowed := false }.emit (token name))

/-- A tag at the cursor, and the cursor behind it. It is written in angle brackets, or with a
handle; an exclamation mark alone is a tag as well. -/
def readTagName (cursor : Cursor) : Except Error (Token × Cursor) := do
  match cursor.peek 1 with
  | some '<' =>
    let (name, cursor) ← readTagText (cursor.skip 2)
    if cursor.peek 0 ≠ some '>' then throw .malformed
    pure (.tag none name, cursor.next)
  | following =>
    if endsWord following then pure (.tag none ['!'], cursor.next)
    else
      let word := cursor.next.rest.takeWhile fun c => c != ' ' && !isBreak c
      let (handle, cursor) ←
        if word.contains '!' then readHandle cursor else pure (['!'], cursor.next)
      let (ending, cursor) ← readTagText cursor
      pure (.tag (some handle) ending, cursor)

/-- A tag. A key may begin with one. -/
def readTag (lexer : Lexer) : Except Error Lexer := do
  let lexer ← lexer.savePlace
  let (tag, cursor) ← readTagName lexer.cursor
  if !(endsLine (cursor.peek 0) || cursor.peek 0 == some ' ') then throw .malformed
  pure ({ lexer with cursor, keyAllowed := false }.emit tag)

def readQuoted (lexer : Lexer) (double : Bool) : Except Error Lexer := do
  let lexer ← lexer.savePlace
  let start := lexer.cursor.next
  let (text, cursor) ← quotedText double (lexer.length + 1) start
  pure ({ lexer with cursor, keyAllowed := false }.emit (.scalar text false))

def readBlock (lexer : Lexer) (fold : Bool) : Except Error Lexer := do
  let lexer ← (lexer.allowKey true).dropPlace
  let (text, cursor) ← blockText fold lexer.indent lexer.cursor.next
  pure ({ lexer with cursor }.emit (.scalar text false))

def readPlain (lexer : Lexer) : Except Error Lexer := do
  let lexer ← lexer.savePlace
  let (text, cursor, broken) :=
    plainText (lexer.depth != 0) (lexer.indent + 1) (lexer.length + 1) [] false
      lexer.cursor
  pure ({ lexer with cursor, keyAllowed := broken }.emit (.scalar text true))

def beginsPlain (lexer : Lexer) (c : Char) : Bool :=
  !(endsWord (some c) || ['-', '?', ':', ',', '[', ']', '\x7b', '\x7d', '#', '&', '*', '!', '|',
    '>', '\'', '"', '%', '@', '\x60'].contains c) ||
  (!endsWord (lexer.cursor.peek 1) && (c == '-' || (lexer.depth == 0 && (c == '?' || c == ':'))))

def step (lexer : Lexer) : Except Error Lexer := do
  let lexer ← (lexer.skipBlanks (lexer.length + 1)).dropStale
  let lexer := lexer.closeBlocks lexer.cursor.column
  match lexer.cursor.peek 0 with
  | none => lexer.readEnd
  | some c =>
    let alone := endsWord (lexer.cursor.peek 1)
    let nested := lexer.depth != 0
    if c = '%' ∧ lexer.cursor.column = 0 then lexer.readDirective
    else if lexer.cursor.column = 0 ∧ lexer.cursor.atMarker '-' then
      lexer.readSeparator .documentStart
    else if lexer.cursor.column = 0 ∧ lexer.cursor.atMarker '.' then
      lexer.readSeparator .documentEnd
    else if c = '[' then lexer.readOpening .flowSequenceStart
    else if c = '\x7b' then lexer.readOpening .flowMappingStart
    else if c = ']' then lexer.readClosing .flowSequenceEnd
    else if c = '\x7d' then lexer.readClosing .flowMappingEnd
    else if c = ',' then lexer.readComma
    else if c = '-' ∧ alone then lexer.readDash
    else if c = '?' ∧ (nested ∨ alone) then lexer.readKey
    else if c = ':' ∧ (nested ∨ alone) then lexer.readColon
    else if c = '*' then lexer.readName .alias
    else if c = '&' then lexer.readName .anchor
    else if c = '!' then lexer.readTag
    else if c = '|' ∧ !nested then lexer.readBlock false
    else if c = '>' ∧ !nested then lexer.readBlock true
    else if c = '\'' then lexer.readQuoted false
    else if c = '"' then lexer.readQuoted true
    else if lexer.beginsPlain c then lexer.readPlain
    else throw .malformed

/-- The tokens that are known when the next one cannot be read. A token where a key may
have begun is not known before the colon behind it, and neither are those behind it. -/
def settled (lexer : Lexer) : List Token :=
  match lexer.dropStale with
  | .error _ => []
  | .ok fresh =>
    let numbers := fresh.places.map fun (_, place) => place.number
    lexer.tokens.toList.take (numbers.foldl min lexer.tokens.size)

end Lexer

/-- The tokens of a text: all of them, or those that are known before `fault` is met. -/
structure Scan where
  tokens : List Token
  fault : Error
deriving Repr

namespace Scan

/-- The tokens from a state on. Every token but the last takes a character. -/
def ofLexer (lexer : Lexer) : Nat → Scan
  | 0 => ⟨lexer.tokens.toList, .malformed⟩
  | steps + 1 =>
    match lexer.step with
    | .error fault => ⟨lexer.settled, fault⟩
    | .ok lexer =>
      if lexer.tokens.back? = some .streamEnd then ⟨lexer.tokens.toList, .malformed⟩
      else ofLexer lexer steps

/-- The tokens of a text. A byte order mark in front of it is skipped. -/
def ofText (text : List Char) : Scan :=
  if !text.all isAllowed then ⟨[], .malformed⟩
  else
    let lexer := Lexer.ofText text
    let lexer :=
      if text.head? = some '\uFEFF' then { lexer with cursor := lexer.cursor.next } else lexer
    ofLexer lexer (text.length + 1)

end Scan

end Spreadsheet.Yaml
