import Spreadsheet.Json.Value
import Spreadsheet.Number.Integer
import Spreadsheet.Number.Numeral
import Spreadsheet.Text.Letters

/-!
# JSON tokens

The tokens of JSON text: signs, strings, and the scalar values that one word or
number writes.
-/

set_option autoImplicit false

namespace Spreadsheet.Json

/-- A token of JSON text. -/
inductive Token where
  | openArray
  | closeArray
  | openObject
  | closeObject
  | comma
  | colon
  | text (value : Letters)
  | scalar (value : Json Letters)
  /-- A whole number with more digits than are read. -/
  | longInteger (digits : Nat)

def isDigit (c : Char) : Bool := '0' ≤ c && c ≤ '9'

def isBlank (c : Char) : Bool := c == ' ' || c == '\t' || c == '\n' || c == '\r'

def hexValue? (c : Char) : Option Nat :=
  if '0' ≤ c ∧ c ≤ '9' then some (c.toNat - '0'.toNat)
  else if 'a' ≤ c ∧ c ≤ 'f' then some (c.toNat - 'a'.toNat + 10)
  else if 'A' ≤ c ∧ c ≤ 'F' then some (c.toNat - 'A'.toNat + 10)
  else none

def unit? (a b c d : Char) : Option Nat := do
  let a ← hexValue? a
  let b ← hexValue? b
  let c ← hexValue? c
  let d ← hexValue? d
  pure (((a * 16 + b) * 16 + c) * 16 + d)

def escape? (c : Char) : Option Char :=
  match c with
  | '"' => some '"'
  | '\\' => some '\\'
  | '/' => some '/'
  | 'b' => some '\x08'
  | 'f' => some '\x0c'
  | 'n' => some '\n'
  | 'r' => some '\r'
  | 't' => some '\t'
  | _ => none

def isHighSurrogate (unit : Nat) : Bool := 0xD800 ≤ unit && unit ≤ 0xDBFF

def isLowSurrogate (unit : Nat) : Bool := 0xDC00 ≤ unit && unit ≤ 0xDFFF

/-- What a unit stands for next to none that it makes a pair with. -/
def letterOfUnit (unit : Nat) : Letter :=
  if isHighSurrogate unit || isLowSurrogate unit then .half unit else .char (Char.ofNat unit)

/-- A part of a string: a character as it stands or by its letter, or an escaped
unit. -/
inductive Piece where
  | char (c : Char)
  | unit (unit : Nat)
deriving DecidableEq, Repr

def consPiece (piece : Piece) :
    Option (List Piece × List Char) → Option (List Piece × List Char)
  | none => none
  | some (pieces, rest) => some (piece :: pieces, rest)

/-- The pieces up to the closing quote, and the text behind it. Control characters
must be escaped. -/
def scanPieces : List Char → Option (List Piece × List Char)
  | [] => none
  | '"' :: rest => some ([], rest)
  | '\\' :: 'u' :: a :: b :: c :: d :: rest =>
    match unit? a b c d with
    | none => none
    | some unit => consPiece (.unit unit) (scanPieces rest)
  | '\\' :: letter :: rest =>
    match escape? letter with
    | none => none
    | some c => consPiece (.char c) (scanPieces rest)
  | c :: rest =>
    if c = '\\' ∨ c.toNat < 0x20 then none else consPiece (.char c) (scanPieces rest)

/-- The letters of some pieces. A high and a low surrogate in a row make one character. -/
def joinPieces : List Piece → Letters
  | [] => []
  | .char c :: rest => .char c :: joinPieces rest
  | .unit high :: .unit low :: rest =>
    if isHighSurrogate high && isLowSurrogate low then
      .char (Char.ofNat (0x10000 + (high - 0xD800) * 0x400 + (low - 0xDC00))) :: joinPieces rest
    else letterOfUnit high :: joinPieces (.unit low :: rest)
  | .unit unit :: rest => letterOfUnit unit :: joinPieces rest

/-- The digits behind a point, if at least one stands there. -/
def scanFraction : List Char → List Char × List Char
  | '.' :: rest =>
    match rest.takeWhile isDigit with
    | [] => ([], '.' :: rest)
    | digits => (digits, rest.dropWhile isDigit)
  | rest => ([], rest)

/-- The power of ten behind a number, if one is complete there. -/
def scanExponent : List Char → Option Exponent × List Char
  | [] => (none, [])
  | mark :: rest =>
    if mark = 'e' ∨ mark = 'E' then
      match (Numeral.scanSign rest).2.takeWhile isDigit with
      | [] => (none, mark :: rest)
      | digits => (some ⟨mark, (Numeral.scanSign rest).1, digits⟩,
          (Numeral.scanSign rest).2.dropWhile isDigit)
    else (none, mark :: rest)

/-- The whole part of a number: a single zero, or digits that begin with another
digit. -/
def scanWhole : List Char → Option (List Char × List Char)
  | '0' :: rest => some (['0'], rest)
  | rest =>
    match rest.takeWhile isDigit with
    | [] => none
    | digits => some (digits, rest.dropWhile isDigit)

def scanNumber (negative : Bool) (cs : List Char) : Option (Token × List Char) :=
  match scanWhole cs with
  | none => none
  | some (whole, rest) =>
    match scanFraction rest with
    | (fraction, rest) =>
      match scanExponent rest with
      | (exponent, rest) =>
        if fraction = [] ∧ exponent = none then
          if Integer.maxDigits < whole.length then some (.longInteger whole.length, rest)
          else
            let n : Int := Text.digitsValue whole
            some (.scalar (.int (if negative then -n else n)), rest)
        else
          let x := (Numeral.mk whole true fraction exponent).value
          some (.scalar (.float (if negative then { x with negative := true } else x)), rest)

def words : List (List Char × Json Letters) :=
  [("null".toList, .null), ("true".toList, .bool true), ("false".toList, .bool false),
    ("NaN".toList, .float .nan), ("Infinity".toList, .float (.infinity false)),
    ("-Infinity".toList, .float (.infinity true))]

def scanWord (cs : List Char) : Option (Token × List Char) :=
  (words.find? fun word => word.1.isPrefixOf cs).map fun (word, value) =>
    (.scalar value, cs.drop word.length)

/-- The token at the start of a text, and the text behind it. -/
def Token.scan? (cs : List Char) : Option (Token × List Char) :=
  match cs with
  | [] => none
  | '[' :: rest => some (openArray, rest)
  | ']' :: rest => some (closeArray, rest)
  | '\x7b' :: rest => some (openObject, rest)
  | '\x7d' :: rest => some (closeObject, rest)
  | ',' :: rest => some (comma, rest)
  | ':' :: rest => some (colon, rest)
  | '"' :: rest =>
    (scanPieces rest).map fun (pieces, rest) => (text (joinPieces pieces), rest)
  | c :: rest =>
    match scanWord (c :: rest) with
    | some found => some found
    | none => if c = '-' then scanNumber true rest else scanNumber false (c :: rest)

/-- The tokens of a text, up to the first place where none begins; whether there is
such a place. Every token is at least one character long, so as many steps as there
are characters are enough. -/
def tokensWithin : Nat → List Char → List Token × Bool
  | 0, cs => ([], !(cs.all isBlank))
  | steps + 1, cs =>
    match cs.dropWhile isBlank with
    | [] => ([], false)
    | c :: rest =>
      match Token.scan? (c :: rest) with
      | none => ([], true)
      | some (token, behind) =>
        match tokensWithin steps behind with
        | (tokens, stuck) => (token :: tokens, stuck)

def tokens (cs : List Char) : List Token × Bool := tokensWithin cs.length cs

end Spreadsheet.Json
