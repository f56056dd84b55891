import Spreadsheet.Data.Value
import Spreadsheet.Number.Integer
import Spreadsheet.Project.Config

/-!
# Log limits

How much of a log is read at most, as a project sets it.
-/

set_option autoImplicit false

namespace Spreadsheet.Journal

/-- Why a setting is no limit. -/
inductive LimitError where
  | infinite
  | notNumber
  | notInteger (error : IntegerError)
  | compound
deriving DecidableEq, Repr

def LimitError.message? : LimitError → Option String
  | infinite => none
  | notNumber => some "cannot convert float NaN to integer"
  | notInteger error => some error.message
  | compound => none

/-- The whole number for a setting: fractions are cut off, and text is read. -/
def wholeNumber : Data.Scalar → Except LimitError Int
  | .null => .error .compound
  | .bool value => .ok (if value then 1 else 0)
  | .int value => .ok value
  | .float value =>
    if value.isNan then .error .notNumber
    else if value.isInfinite then .error .infinite
    else .ok (value.signedUnits.tdiv (Double.one : Int))
  | .text value => (Integer.read value).mapError LimitError.notInteger
  | .octets value => (Integer.readOctets value).mapError LimitError.notInteger
  | .day _ | .moment _ => .error .compound

/-- The limit in octets for a setting. What is not set, or null, leaves the limit as it is
by default. -/
def limitOf : Option Data.Value → Except LimitError Int
  | none | some (.scalar .null) => .ok Config.defaultReadLimit
  | some (.scalar value) => wholeNumber value
  | some _ => .error .compound

end Spreadsheet.Journal
