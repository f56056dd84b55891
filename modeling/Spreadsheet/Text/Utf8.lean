import Spreadsheet.Text.Quoted

/-!
# UTF-8

Text as octets. The reader works one octet at a time and never stops: where
octets form no character, it marks the longest run of them that could have
begun one (at least one octet) and goes on behind it. The strict and the lossy
reading are two views of its result.
-/

set_option autoImplicit false

namespace Spreadsheet.Text.Utf8

def encodeChar (c : Char) : List UInt8 :=
  let n := c.toNat
  if n < 0x80 then [n.toUInt8]
  else if n < 0x800 then [(0xC0 + n / 0x40).toUInt8, (0x80 + n % 0x40).toUInt8]
  else if n < 0x10000 then
    [(0xE0 + n / 0x1000).toUInt8, (0x80 + n / 0x40 % 0x40).toUInt8, (0x80 + n % 0x40).toUInt8]
  else
    [(0xF0 + n / 0x40000).toUInt8, (0x80 + n / 0x1000 % 0x40).toUInt8,
      (0x80 + n / 0x40 % 0x40).toUInt8, (0x80 + n % 0x40).toUInt8]

def encode (cs : List Char) : List UInt8 :=
  cs.flatMap encodeChar

/-- Where the reader stands between octets: before a character, or inside one
that still owes `owed + 1` octets, the next of them between `least` and
`greatest`, with the bits read so far. -/
inductive State where
  | start
  | inside (owed least greatest bits : Nat)
deriving DecidableEq, Repr

/-- The first octet of a character: a whole character, the beginning of a longer
one, or neither. -/
def first (b : UInt8) : List (Option Char) × State :=
  let n := b.toNat
  if n < 0x80 then ([some (Char.ofNat n)], .start)
  else if 0xC2 ≤ n ∧ n ≤ 0xDF then ([], .inside 0 0x80 0xBF (n - 0xC0))
  else if n = 0xE0 then ([], .inside 1 0xA0 0xBF 0)
  else if n = 0xED then ([], .inside 1 0x80 0x9F 0xD)
  else if 0xE1 ≤ n ∧ n ≤ 0xEF then ([], .inside 1 0x80 0xBF (n - 0xE0))
  else if n = 0xF0 then ([], .inside 2 0x90 0xBF 0)
  else if 0xF1 ≤ n ∧ n ≤ 0xF3 then ([], .inside 2 0x80 0xBF (n - 0xF0))
  else if n = 0xF4 then ([], .inside 2 0x80 0x8F 4)
  else ([none], .start)

/-- One octet: what it completes, and where the reader stands after it. An octet
that cannot continue a character marks what came before and begins anew. -/
def step (state : State) (b : UInt8) : List (Option Char) × State :=
  match state with
  | .start => first b
  | .inside owed least greatest bits =>
    let n := b.toNat
    if least ≤ n ∧ n ≤ greatest then
      let bits := bits * 0x40 + (n - 0x80)
      match owed with
      | 0 => ([some (Char.ofNat bits)], .start)
      | owed + 1 => ([], .inside owed 0x80 0xBF bits)
    else
      let (pieces, state) := first b
      (none :: pieces, state)

def piecesFrom (state : State) : List UInt8 → List (Option Char)
  | [] => match state with
    | .start => []
    | .inside .. => [none]
  | b :: rest => (step state b).1 ++ piecesFrom (step state b).2 rest

/-- The characters of some octets, `none` for each run that forms none. -/
def pieces (octets : List UInt8) : List (Option Char) :=
  piecesFrom .start octets

/-- The characters in front of the first run that forms none. -/
def validPart (octets : List UInt8) : List Char :=
  ((pieces octets).takeWhile Option.isSome).filterMap id

/-- The text of some octets, or the offset of the first run that forms no
character. -/
def decode (octets : List UInt8) : Except Nat (List Char) :=
  if (pieces octets).all Option.isSome then .ok ((pieces octets).filterMap id)
  else .error (encode (validPart octets)).length

/-- The longest beginning of a character at the start of some octets, by its length;
whether the octets end with it. -/
def beginning (state : State) (length : Nat) : List UInt8 → Nat × Bool
  | [] => (length, true)
  | b :: rest =>
    match step state b with
    | ([], next) => beginning next (length + 1) rest
    | _ => (max 1 length, false)

/-- What is wrong with the octets that form no character at `offset`, in words. -/
def faultMessage (octets : List UInt8) (offset : Nat) : String :=
  let behind := octets.drop offset
  let (length, atEnd) := beginning .start 0 behind
  let first := (behind.head?.map UInt8.toNat).getD 0
  let reason :=
    if atEnd then "unexpected end of data"
    else if 0xC2 ≤ first ∧ first ≤ 0xF4 then "invalid continuation byte"
    else "invalid start byte"
  let place :=
    if length = 1 then
      "byte 0x" ++ String.ofList (hexDigits 2 first) ++ s!" in position {offset}"
    else s!"bytes in position {offset}-{offset + length - 1}"
  s!"'utf-8' codec can't decode {place}: {reason}"

/-- The text of some octets, with a replacement character for each run that forms
no character. -/
def decodeLossy (octets : List UInt8) : List Char :=
  (pieces octets).map (·.getD '\uFFFD')

end Spreadsheet.Text.Utf8

namespace Spreadsheet.Text

def octets (s : String) : List UInt8 :=
  Utf8.encode s.toList

end Spreadsheet.Text
