/-!
# Padding

Text filled up with blanks to a least width, counted in characters.
-/

set_option autoImplicit false

namespace Spreadsheet.Text

/-- The text with spaces in front of it up to `width` characters. -/
def alignRight (width : Nat) (s : String) : String :=
  String.ofList (List.replicate (width - s.length) ' ') ++ s

/-- The text with spaces behind it up to `width` characters. -/
def alignLeft (width : Nat) (s : String) : String :=
  s ++ String.ofList (List.replicate (width - s.length) ' ')

end Spreadsheet.Text
