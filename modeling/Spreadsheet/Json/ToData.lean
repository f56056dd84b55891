import Spreadsheet.Data.Value
import Spreadsheet.Json.Value

/-!
# JSON values as data

JSON values as the values that configuration files hold as well.
-/

set_option autoImplicit false

namespace Spreadsheet.Json

variable {τ : Type}

mutual

def toData : Json τ → Data.Value τ
  | null => .scalar .null
  | bool value => .scalar (.bool value)
  | int value => .scalar (.int value)
  | float value => .scalar (.float value)
  | string value => .scalar (.text value)
  | array items => .list (itemsToData items)
  | object members => .mapping (membersToData members)

def itemsToData : List (Json τ) → List (Data.Value τ)
  | [] => []
  | item :: rest => toData item :: itemsToData rest

def membersToData : List (τ × Json τ) → List (Data.Scalar τ × Data.Value τ)
  | [] => []
  | (key, value) :: rest => (.text key, toData value) :: membersToData rest

end

end Spreadsheet.Json
