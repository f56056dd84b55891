import Spreadsheet.Sheet.Basic
import Spreadsheet.Text.Utf8

/-!
# Sheets as text records

One line for every cell: the identifier, a colon and the contents. Reading makes
the edits in the order of the lines, so references forward are fine; one bad line
refuses the whole text.
-/

set_option autoImplicit false

namespace Spreadsheet

/-- What is wrong with a record. -/
inductive RecordFault where
  | missingSeparator
  | edit (error : EditError)
  | notUtf8 (offset : Nat)
  | lineBreak (id : String)
deriving DecidableEq, Repr

def RecordFault.message : RecordFault → String
  | missingSeparator => "missing " ++ Text.quote ":" ++ " between identifier and contents"
  | edit error => error.message
  | notUtf8 offset => s!"invalid UTF-8 byte at offset {offset}"
  | lineBreak id => s!"contents of {id} contain a line break"

/-- A record that cannot be read or written, with its line, counted from one. -/
structure RecordError where
  fault : RecordFault
  lineNumber : Nat
  line : String
deriving DecidableEq, Repr

def RecordError.message (error : RecordError) : String :=
  s!"Line {error.lineNumber}: {error.fault.message} ({Text.quote error.line})"

namespace Sheet

def record (id : String) (cell : Cell) : String := s!"{id}:{cell.contents}"

/-- The records of some cells, the first of them the `number`th. -/
def recordsFrom (number : Nat) : List (String × Cell) → Except RecordError String
  | [] => .ok ""
  | (id, cell) :: rest =>
    if Text.hasLineBreak cell.contents then
      .error ⟨.lineBreak id, number, record id cell⟩
    else do
      let later ← recordsFrom (number + 1) rest
      pure (record id cell ++ "\n" ++ later)

/-- The sheet as records in the order of its cells. Contents with a line break
cannot be written. -/
def toRecords (sheet : Sheet) : Except RecordError String :=
  recordsFrom 1 sheet.cells.rows

def splitRecord (line : List Char) : Option (List Char × List Char) :=
  match line.dropWhile (· != ':') with
  | [] => none
  | _ :: contents => some (line.takeWhile (· != ':'), contents)

/-- The sheet after one more line; blank lines change nothing. -/
def readLine (sheet : Sheet) (number : Nat) (line : List Char) : Except RecordError Sheet :=
  if line.all Text.isBlank then .ok sheet
  else
    match splitRecord line with
    | none => .error ⟨.missingSeparator, number, String.ofList line⟩
    | some (id, contents) =>
      match sheet.set (String.ofList (Text.trim id)) (String.ofList contents) with
      | (sheet, .ok _) => .ok sheet
      | (_, .error error) => .error ⟨.edit error, number, String.ofList line⟩

/-- The sheet after some more lines, the first of them the `number`th. -/
def readLines (sheet : Sheet) (number : Nat) : List (List Char) → Except RecordError Sheet
  | [] => .ok sheet
  | line :: rest => do
    let sheet ← sheet.readLine number line
    sheet.readLines (number + 1) rest

def ofRecords (text : List Char) : Except RecordError Sheet :=
  (∅ : Sheet).readLines 1 (Text.lines text)

def splitFeeds : List UInt8 → List (List UInt8)
  | [] => [[]]
  | b :: rest =>
    if b = 0x0A then [] :: splitFeeds rest
    else
      match splitFeeds rest with
      | [] => [[b]]
      | line :: later => (b :: line) :: later

/-- The error for octets that are no text from `offset` on: the line, counted by
line feeds, that the offset is in. -/
def utf8Error (octets : List UInt8) (offset : Nat) : RecordError :=
  let before := (octets.take offset).count 0x0A
  let line := (splitFeeds octets)[before]?.getD []
  let line := (line.reverse.dropWhile (· == 0x0D)).reverse
  ⟨.notUtf8 offset, before + 1, String.ofList (Text.Utf8.decodeLossy line)⟩

def ofOctets (octets : List UInt8) : Except RecordError Sheet :=
  match Text.Utf8.decode octets with
  | .ok text => ofRecords text
  | .error offset => .error (utf8Error octets offset)

end Sheet

end Spreadsheet
