import Spreadsheet.CellId
import Spreadsheet.Formula.Tree
import Spreadsheet.Number.Numeral

/-!
# Formula tokens

The tokens of formula text with their positions. Blanks between tokens are
skipped; numerals and references take as many characters as they can.
-/

set_option autoImplicit false

namespace Spreadsheet.Formula

/-- A token of formula text. -/
inductive Token where
  | equals
  | operator (op : Operator)
  | opening
  | closing
  | number (numeral : Numeral)
  | reference (cell : List Char)
deriving DecidableEq

def Token.text : Token → List Char
  | equals => ['=']
  | operator op => [op.symbol]
  | opening => ['(']
  | closing => [')']
  | number numeral => numeral.text
  | reference cell => cell

/-- The characters that may stand between tokens. -/
def isSkipped (c : Char) : Bool :=
  c == ' ' || c == '\t' || c == '\x0c' || c == '\r' || c == '\n'

def Token.ofSign? (c : Char) : Option Token :=
  match c with
  | '=' => some equals
  | '+' => some (operator .add)
  | '-' => some (operator .sub)
  | '*' => some (operator .mul)
  | '/' => some (operator .div)
  | '(' => some opening
  | ')' => some closing
  | _ => none

/-- The longest token at the start of a text, and the text behind it. -/
def Token.scan? : List Char → Option (Token × List Char)
  | [] => none
  | c :: rest =>
    match ofSign? c with
    | some token => some (token, rest)
    | none =>
      match Numeral.scan? (c :: rest) with
      | some (numeral, rest) => some (number numeral, rest)
      | none => (CellId.scan? (c :: rest)).map fun (cell, rest) => (reference cell, rest)

/-- What the scan takes and what it leaves make up the text. -/
theorem Token.scan?_append {cs rest : List Char} {token : Token}
    (scanned : scan? cs = some (token, rest)) : token.text ++ rest = cs := by
  unfold scan? at scanned
  split at scanned
  · cases scanned
  · split at scanned
    · rename_i sign
      cases scanned
      unfold ofSign? at sign
      split at sign <;> cases sign <;> rfl
    · split at scanned
      · rename_i found
        cases scanned
        exact Numeral.scan?_append found
      · obtain ⟨⟨cell, behind⟩, found, same⟩ := Option.map_eq_some_iff.1 scanned
        cases same
        exact CellId.scan?_append found

theorem Token.scan?_text_ne_nil {cs rest : List Char} {token : Token}
    (scanned : scan? cs = some (token, rest)) : token.text ≠ [] := by
  unfold scan? at scanned
  split at scanned
  · cases scanned
  · split at scanned
    · rename_i sign
      cases scanned
      unfold ofSign? at sign
      split at sign <;> cases sign <;> simp [text]
    · split at scanned
      · rename_i found
        cases scanned
        exact Numeral.scan?_text_ne_nil found
      · obtain ⟨⟨cell, behind⟩, found, same⟩ := Option.map_eq_some_iff.1 scanned
        cases same
        exact CellId.scan?_ne_nil found

/-- The text behind a token is shorter than the text from the token on. -/
theorem Token.length_of_scan? {cs rest : List Char} {token : Token}
    (scanned : scan? cs = some (token, rest)) : rest.length < cs.length := by
  have taken := List.length_pos_iff.2 (scan?_text_ne_nil scanned)
  rw [← scan?_append scanned, List.length_append]
  omega

/-- A text cut into tokens: the tokens with their positions up to the first
character that begins none, and that character with its position. -/
structure Scan where
  tokens : List (Nat × Token)
  stuck : Option (Nat × Char)
deriving DecidableEq

/-- The tokens of a text whose first character stands at `position`. -/
def Scan.ofTextAt (position : Nat) : List Char → Scan
  | [] => ⟨[], none⟩
  | c :: rest =>
    if isSkipped c then ofTextAt (position + 1) rest
    else
      match _scanned : Token.scan? (c :: rest) with
      | none => ⟨[], some (position, c)⟩
      | some (token, behind) =>
        let tail := ofTextAt (position + token.text.length) behind
        ⟨(position, token) :: tail.tokens, tail.stuck⟩
termination_by cs => cs.length
decreasing_by
  · simp
  · exact Token.length_of_scan? _scanned

def Scan.ofText (cs : List Char) : Scan := ofTextAt 0 cs

end Spreadsheet.Formula
