import Mathlib.Data.List.Induction
import Spreadsheet.Text.Blank

/-! The lines of a text hold none of the characters that end a line, and lines that each end
with a line feed are cut there and nowhere else. -/

set_option autoImplicit false

namespace Spreadsheet.Text

/-- No line of any text has the character. -/
def EndsLine (c : Char) : Prop := ∀ cs, ∀ line ∈ lines cs, c ∉ line

theorem isBlank_of_isLineBreak {c : Char} (ends : isLineBreak c = true) : isBlank c = true := by
  simp only [isLineBreak, isBlank, Bool.or_eq_true, Bool.and_eq_true, decide_eq_true_eq,
    beq_iff_eq] at *
  omega

section Lines

variable {c : Char} {rest line : List Char}

theorem lines_cons_of_isLineBreak (ends : isLineBreak c = true)
    (single : c = '\r' → rest.head? ≠ some '\n') : lines (c :: rest) = [] :: lines rest := by
  rw [lines, if_pos ends]
  rintro tail rfl rfl
  exact single rfl rfl

theorem lines_cons_of_not_isLineBreak (inside : isLineBreak c = false) :
    lines (c :: rest) = consLine c (lines rest) := by
  rw [lines, if_neg (by simp [inside])]
  rintro tail rfl
  cases inside

private theorem not_mem_of_mem_lines {cs : List Char} (member : line ∈ lines cs)
    (ends : isLineBreak c = true) :
    c ∉ line := by
  fun_induction lines cs generalizing line with
  | case1 => cases member
  | case2 rest ih =>
      rcases List.mem_cons.1 member with rfl | later
      · exact List.not_mem_nil
      · exact ih later
  | case3 first rest _ _ ih =>
      rcases List.mem_cons.1 member with rfl | later
      · exact List.not_mem_nil
      · exact ih later
  | case4 first rest _ inside ih =>
      have other : c ≠ first := by
        rintro rfl
        exact inside ends
      cases tail : lines rest with
      | nil =>
          rw [tail, consLine, List.mem_singleton] at member
          rw [member]
          simpa using other
      | cons next later =>
          rw [tail, consLine, List.mem_cons] at member
          rcases member with rfl | behind
          · rw [List.mem_cons, not_or]
            exact ⟨other, ih (tail ▸ List.mem_cons_self)⟩
          · exact ih (tail ▸ List.mem_cons_of_mem _ behind)

theorem endsLine_iff : EndsLine c ↔ isLineBreak c = true := by
  constructor
  · intro ends
    rw [← Bool.not_eq_false]
    intro inside
    have alone : lines [c] = [[c]] := lines_cons_of_not_isLineBreak inside
    exact ends [c] [c] (by rw [alone]; exact List.mem_cons_self) List.mem_cons_self
  · exact fun ends cs line member => not_mem_of_mem_lines member ends

private theorem lines_append_feed (inside : ∀ c ∈ line, isLineBreak c = false) (rest : List Char) :
    lines (line ++ '\n' :: rest) = line :: lines rest := by
  induction line with
  | nil => exact lines_cons_of_isLineBreak rfl fun same => absurd same (by decide)
  | cons c tail ih =>
      rw [List.forall_mem_cons] at inside
      rw [List.cons_append, lines_cons_of_not_isLineBreak inside.1, ih inside.2, consLine]

theorem lines_flatMap_feed_append {rows : List (List Char)}
    (inside : ∀ line ∈ rows, ∀ c ∈ line, isLineBreak c = false) (rest : List Char) :
    lines (rows.flatMap (· ++ ['\n']) ++ rest) = rows ++ lines rest := by
  induction rows with
  | nil => rfl
  | cons line others ih =>
      rw [List.forall_mem_cons] at inside
      rw [List.flatMap_cons, List.append_assoc, List.append_assoc, List.singleton_append,
        lines_append_feed inside.1, ih inside.2, List.cons_append]

theorem lines_eq_singleton (filled : line ≠ []) (inside : ∀ c ∈ line, isLineBreak c = false) :
    lines line = [line] := by
  induction line with
  | nil => exact absurd rfl filled
  | cons c tail ih =>
      rw [List.forall_mem_cons] at inside
      rw [lines_cons_of_not_isLineBreak inside.1]
      by_cases last : tail = []
      · rw [last]
        rfl
      · rw [ih last inside.2, consLine]

/-- Rows with a line feed behind each, which may be missing behind the last one. -/
def IsLinesOf (rows : List (List Char)) (text : List Char) : Prop :=
  text = rows.flatMap (· ++ ['\n']) ∨ text ++ ['\n'] = rows.flatMap (· ++ ['\n'])

theorem IsLinesOf.lines_eq {rows : List (List Char)} {text : List Char}
    (written : IsLinesOf rows text) (filled : ∀ line ∈ rows, line ≠ [])
    (inside : ∀ line ∈ rows, ∀ c ∈ line, isLineBreak c = false) : lines text = rows := by
  rcases written with rfl | unfinished
  · have cut := lines_flatMap_feed_append inside []
    rwa [List.append_nil, lines, List.append_nil] at cut
  · cases rows using List.reverseRecOn with
    | nil => simp at unfinished
    | append_singleton before last =>
        rw [List.flatMap_append, List.flatMap_singleton, ← List.append_assoc,
          List.append_left_inj] at unfinished
        rw [List.forall_mem_append, List.forall_mem_singleton] at filled inside
        rw [unfinished, lines_flatMap_feed_append inside.1, lines_eq_singleton filled.2 inside.2]

end Lines

end Spreadsheet.Text
