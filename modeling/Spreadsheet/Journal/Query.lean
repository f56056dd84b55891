import Spreadsheet.Journal.Sink
import Spreadsheet.Json.Reader
import Spreadsheet.Text.Blank

/-!
# Reading logs

The newest events of a log, with filters. Lines that hold no JSON value are skipped.
-/

set_option autoImplicit false

namespace Spreadsheet.Journal

/-- Why a log cannot be read or filtered. -/
inductive QueryError where
  | disk (error : DiskError)
  | farOffset
  | longInteger (digits : Nat)
  | tooDeep (inside : Json.Compound)
  | notObject
deriving DecidableEq, Repr

def QueryError.message? : QueryError → Option String
  | disk error => some error.message
  | farOffset => none
  | longInteger digits => some (tooManyDigits digits)
  | tooDeep inside =>
    some ("maximum recursion depth exceeded while decoding a JSON " ++ inside.name ++
      " from a unicode string")
  | notObject => none

/-- Which events are wanted; an empty text wants all. -/
structure Filter where
  level : String
  kind : String
  session : String
  cell : String
deriving DecidableEq, Repr

/-- What follows the first line feed; everything if there is none. -/
def behindFeed (octets : List UInt8) : List UInt8 :=
  match octets.dropWhile (· != 0x0A) with
  | [] => octets
  | _ :: rest => rest

/-- The last octets of a log, at most `count` of them. Of a log that is longer the
first line is left out, since most often only a part of it is there. -/
def tail (count : Nat) (octets : List UInt8) : List UInt8 :=
  if octets.length ≤ count then octets
  else behindFeed (octets.drop (octets.length - count))

def maxOffset : Nat := Nat.pow 2 63 - 1

/-- Why a log of some octets cannot be read with a negative limit: reading would have to
begin behind its end. -/
def behindEnd (size : Nat) (limit : Int) : QueryError :=
  if (maxOffset : Int) < size - limit then .farOffset else .disk (.system .invalidArgument none)

/-- The values on some lines, read with at most so many levels each. -/
def valuesOf (levels : Nat) : List (List Char) → Except QueryError (List (Json Letters))
  | [] => .ok []
  | line :: rest =>
    match Text.trim line with
    | [] => valuesOf levels rest
    | c :: cs =>
      match Json.read levels (c :: cs) with
      | .ok value => (valuesOf levels rest).map (value :: ·)
      | .error .malformed => valuesOf levels rest
      | .error (.longInteger digits) => .error (.longInteger digits)
      | .error (.tooDeep inside) => .error (.tooDeep inside)

def valuesOfOctets (levels : Nat) (octets : List UInt8) :
    Except QueryError (List (Json Letters)) :=
  valuesOf levels (Text.lines (Text.Utf8.decodeLossy octets))

def memberOf (key : String) : Json Letters → Except QueryError (Option (Json Letters))
  | .object members => .ok (members.lookup (Letters.ofText key))
  | _ => .error .notObject

def isText (wanted : String) : Option (Json Letters) → Bool
  | some (.string letters) => letters == Letters.ofText wanted
  | _ => false

def hasText (key wanted : String) (value : Json Letters) : Except QueryError Bool :=
  (memberOf key value).map (isText wanted)

def isAbout (cell : String) (value : Json Letters) : Except QueryError Bool := do
  match ← memberOf "context" value with
  | none => pure false
  | some context => hasText "cell_id" cell context

/-- The values that pass a test, unless the filter is empty. -/
def select (wanted : String) (test : String → Json Letters → Except QueryError Bool)
    (values : List (Json Letters)) : Except QueryError (List (Json Letters)) :=
  if wanted = "" then .ok values else values.filterM (test wanted)

/-- The first `limit` values; with a negative limit all but the last ones. -/
def limited (limit : Int) (values : List (Json Letters)) : List (Json Letters) :=
  match limit with
  | .ofNat count => values.take count
  | .negSucc count => values.take (values.length - (count + 1))

def maxEvents : Int := 2000

namespace Sink

def readLog (sink : Sink) (disk : Disk) (path : Path) :
    Except QueryError (List (Json Letters)) := do
  match ← (disk.look path.text).mapError QueryError.disk with
  | none => pure []
  | some .directory =>
    if sink.readLimit < 0 then throw (behindEnd 0 sink.readLimit)
    else throw (.disk (.system .isDirectory none))
  | some (.file octets) =>
    if sink.readLimit < 0 then throw (behindEnd octets.length sink.readLimit)
    else valuesOfOctets sink.levels.most (tail sink.readLimit.toNat octets)

/-- The events of a session, oldest first; none if the name is not safe. -/
def readSession (sink : Sink) (disk : Disk) (session : String) :
    Except QueryError (List (Json Letters)) :=
  if isSafeName session then sink.readLog disk (sink.sessionLog session) else .ok []

def query (sink : Sink) (disk : Disk) (filter : Filter) (limit : Int) :
    Except QueryError (List (Json Letters)) := do
  let values ←
    if filter.session = "" then sink.readLog disk sink.globalLog
    else sink.readSession disk filter.session
  let values ← select filter.level (hasText "level") values
  let values ← select filter.kind (hasText "event_type") values
  let values ← select filter.cell isAbout values
  pure (limited (min limit maxEvents) values.reverse)

end Sink

end Spreadsheet.Journal
