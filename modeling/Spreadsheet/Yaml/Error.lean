import Spreadsheet.Data.Calendar
import Spreadsheet.Number.Integer

/-!
# Mistakes in YAML texts

What can be wrong with a YAML text: its form, or a number or date in it.
-/

set_option autoImplicit false

namespace Spreadsheet.Yaml

/-- Why a text is no document. -/
inductive Error where
  | malformed
  | integer (error : IntegerError)
  | notDouble (text : String)
  | calendar (fault : Calendar.Fault)
  /-- An escaped character beyond the last code point. -/
  | noCharacter
  /-- An escaped character beyond all numbers of 31 bits. -/
  | hugeCharacter
  /-- A group of a number to the base sixty that counts for more than the greatest double. -/
  | hugeGroup
  /-- Nothing where a number was announced. -/
  | noNumber
  /-- Another word where a truth value was announced. -/
  | notTruth (word : String)
  /-- Another text where a day or moment was announced. -/
  | notMoment
  /-- A mapping where a day or moment was announced. -/
  | compoundMoment
deriving DecidableEq, Repr

namespace Error

/-- Whether an error is outside the mistakes that readers of a document reckon with. -/
def isUnforeseen : Error → Bool
  | hugeCharacter | hugeGroup | noNumber | notTruth _ | notMoment | compoundMoment => true
  | _ => false

def message : Error → String
  | malformed => "malformed"
  | integer error => error.message
  | notDouble text => "could not convert string to float: " ++ Text.quote text
  | calendar fault => fault.message
  | noCharacter => "chr() arg not in range(0x110000)"
  | hugeCharacter => "signed integer is greater than maximum"
  | hugeGroup => "int too large to convert to float"
  | noNumber => "string index out of range"
  | notTruth word => Text.quote word
  | notMoment => "not a timestamp"
  | compoundMoment => "expected string or bytes-like object"

end Error

end Spreadsheet.Yaml
