/-!
# Cell identifiers

Capital letters for the column, then the number of the row without leading zeros,
such as `A1` or `ZD11`. Only the letters `A` to `Z` and the digits `0` to `9`
count.
-/

set_option autoImplicit false

namespace Spreadsheet.CellId

def isColumnLetter (c : Char) : Bool := 'A' ≤ c && c ≤ 'Z'

def isRowDigit (c : Char) : Bool := '0' ≤ c && c ≤ '9'

/-- The longest identifier at the start of a text, and the text behind it. -/
def scan? (cs : List Char) : Option (List Char × List Char) :=
  match cs.dropWhile isColumnLetter with
  | [] => none
  | row :: rest =>
    if cs.takeWhile isColumnLetter ≠ [] ∧ isRowDigit row ∧ row ≠ '0' then
      some (cs.takeWhile isColumnLetter ++ row :: rest.takeWhile isRowDigit,
        rest.dropWhile isRowDigit)
    else none

/-- What the scan takes and what it leaves make up the text. -/
theorem scan?_append {cs id rest : List Char} (scanned : scan? cs = some (id, rest)) :
    id ++ rest = cs := by
  have whole : cs.takeWhile isColumnLetter ++ cs.dropWhile isColumnLetter = cs :=
    List.takeWhile_append_dropWhile
  unfold scan? at scanned
  split at scanned
  · cases scanned
  · rename_i row tail found
    split at scanned
    · cases scanned
      rw [found] at whole
      simp [List.takeWhile_append_dropWhile, whole]
    · cases scanned

theorem scan?_ne_nil {cs id rest : List Char} (scanned : scan? cs = some (id, rest)) :
    id ≠ [] := by
  unfold scan? at scanned
  split at scanned
  · cases scanned
  · split at scanned
    · cases scanned
      simp
    · cases scanned

def isValid (id : String) : Bool :=
  match scan? id.toList with
  | some (_, []) => true
  | _ => false

end Spreadsheet.CellId
