/-!
# Control sequences

What sets the colours of a terminal or moves its cursor: an escape character and an opening
bracket, then parameters, intermediate characters and one final character. Without these
sequences a text is fit for files and pipes.
-/

set_option autoImplicit false

namespace Spreadsheet.Text

def isParameter (c : Char) : Bool := '0' ≤ c && c ≤ '?'

/-- The characters that may stand behind the parameters. -/
def isIntermediate (c : Char) : Bool := ' ' ≤ c && c ≤ '/'

/-- The characters that end a control sequence. -/
def isFinal (c : Char) : Bool := '@' ≤ c && c ≤ '~'

/-- What stands behind the control sequence that a text begins with, if it begins with one. -/
def behindControl? : List Char → Option (List Char)
  | '\x1b' :: '[' :: rest =>
    match (rest.dropWhile isParameter).dropWhile isIntermediate with
    | c :: behind => if isFinal c then some behind else none
    | [] => none
  | _ => none

theorem length_of_behindControl? {cs behind : List Char}
    (found : behindControl? cs = some behind) : behind.length < cs.length := by
  unfold behindControl? at found
  split at found
  · rename_i rest
    split at found
    · rename_i c later left
      split at found
      · cases found
        have inner := (List.dropWhile_suffix isParameter (l := rest)).length_le
        have outer :=
          (List.dropWhile_suffix isIntermediate (l := rest.dropWhile isParameter)).length_le
        simp only [left, List.length_cons] at outer ⊢
        omega
      · cases found
    · cases found
  · cases found

def withoutControls : List Char → List Char
  | [] => []
  | c :: rest =>
    match _found : behindControl? (c :: rest) with
    | some behind => withoutControls behind
    | none => c :: withoutControls rest
termination_by cs => cs.length
decreasing_by
  · exact length_of_behindControl? _found
  · simp

end Spreadsheet.Text
