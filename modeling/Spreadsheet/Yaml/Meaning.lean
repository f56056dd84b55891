import Spreadsheet.Number.Arithmetic
import Spreadsheet.Number.Numeral
import Spreadsheet.Text.Base64
import Spreadsheet.Yaml.Plain

/-!
# Meanings of scalars

The values that scalars have, once it is known what they are to become. Where that was
announced and not seen from the text, the text may be anything.
-/

set_option autoImplicit false

namespace Spreadsheet.Yaml

namespace Meaning

def ungrouped (cs : List Char) : List Char := cs.filter (· != '_')

def truth (cs : List Char) : Except Error Bool :=
  let word := String.ofList (cs.map Char.toLower)
  if ["yes", "true", "on"].contains word then .ok true
  else if ["no", "false", "off"].contains word then .ok false
  else .error (.notTruth word)

def integerIn (base : Nat) (cs : List Char) : Except Error Int :=
  (Integer.readIn base (String.ofList cs)).mapError Error.integer

/-- The number behind a sign. A zero in front tells the base, and colons part digits to the
base sixty. -/
def unsignedInteger (cs : List Char) : Except Error Int :=
  match cs with
  | [] => .error .noNumber
  | ['0'] => .ok 0
  | '0' :: 'b' :: rest => integerIn 2 rest
  | '0' :: 'x' :: rest => integerIn 16 rest
  | '0' :: _ => integerIn 8 cs
  | _ =>
    if cs.contains ':' then do
      let digits ← (Plain.groups cs).mapM (integerIn 10)
      pure (digits.foldl (fun value digit => 60 * value + digit) 0)
    else integerIn 10 cs

def integer (cs : List Char) : Except Error Int :=
  match ungrouped cs with
  | '-' :: rest => (unsignedInteger rest).map fun value => -value
  | '+' :: rest => unsignedInteger rest
  | rest => unsignedInteger rest

/-- The double that a text writes in decimal digits or as a word, with blanks around it. -/
def decimalDouble (cs : List Char) : Except Error Double :=
  let bare := ((cs.dropWhile Integer.isSpace).reverse.dropWhile Integer.isSpace).reverse
  let (sign, word) := Numeral.scanSign bare
  let text := String.ofList word
  let value :=
    if text = "inf" ∨ text = "infinity" then some (Double.infinity (sign == some '-'))
    else if text = "nan" then some .nan
    else Double.ofText? bare
  match value with
  | some value => .ok value
  | none => .error (.notDouble (String.ofList cs))

/-- The sum of some groups to the base sixty and a total, the last group first. The first
one counts `60 ^ place` times. -/
def sumOfGroups (place : Nat) (total : Double) : List Double → Except Error Double
  | [] => .ok total
  | group :: rest =>
    let weight := Double.ofDecimal false (Nat.pow 60 place) 0
    if weight.isInfinite then .error .hugeGroup
    else sumOfGroups (place + 1) (total.add (group.mul weight)) rest

def unsignedDouble (cs : List Char) : Except Error Double :=
  if cs = ".inf".toList then .ok (.infinity false)
  else if cs = ".nan".toList then .ok .nan
  else if cs.contains ':' then do
    let parts ← (Plain.groups cs).mapM decimalDouble
    sumOfGroups 0 (Double.zero false) parts.reverse
  else decimalDouble cs

def double (cs : List Char) : Except Error Double :=
  match (ungrouped cs).map Char.toLower with
  | [] => .error .noNumber
  | '-' :: rest => (unsignedDouble rest).map Double.neg
  | '+' :: rest => unsignedDouble rest
  | rest => unsignedDouble rest

def moment (cs : List Char) : Except Error Data.Scalar :=
  match Stamp.ofText? (Plain.withoutBreak cs) with
  | some stamp => stamp.meaning
  | none => .error .notMoment

def octets (cs : List Char) : Except Error (List UInt8) :=
  match if cs.all (·.toNat < 0x80) then Text.Base64.decode? cs else none with
  | some octets => .ok octets
  | none => .error .malformed

end Meaning

def Tag.meaning (tag : Tag) (cs : List Char) : Except Error Data.Scalar :=
  match tag with
  | .null => .ok .null
  | .bool => .bool <$> Meaning.truth cs
  | .int => .int <$> Meaning.integer cs
  | .float => .float <$> Meaning.double cs
  | .octets => .octets <$> Meaning.octets cs
  | .moment => Meaning.moment cs
  | .text => .ok (.text (String.ofList cs))
  | _ => .error .malformed

end Spreadsheet.Yaml
