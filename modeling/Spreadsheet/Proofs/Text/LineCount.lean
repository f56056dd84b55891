import Mathlib.Data.List.DropRight
import Spreadsheet.Proofs.Text.Line

/-! Lines and line feeds: the line that a place in a text is in, counted by all the line breaks in
front of it and by the line feeds alone. -/

set_option autoImplicit false

namespace Spreadsheet.Text

/-- The line breaks of the text are line feeds, and carriage returns directly in front of one. -/
def ByFeeds : List Char → Prop
  | [] => True
  | c :: rest =>
    (isLineBreak c = true → c = '\n' ∨ c = '\r' ∧ rest.head? = some '\n') ∧ ByFeeds rest

/-- What is behind the last line break. -/
def lastLine (text : List Char) : List Char := text.rtakeWhile (!isLineBreak ·)

/-- What is behind the last line feed. -/
def lastRow (text : List Char) : List Char := text.rtakeWhile (· != '\n')

private theorem rtakeWhile_append_cons {α : Type} {p : α → Bool} {c : α} {behind : List α}
    (stop : p c = false) (on : ∀ c ∈ behind, p c = true) (before : List α) :
    (before ++ c :: behind).rtakeWhile p = behind := by
  have onward : ∀ c ∈ behind.reverse, p c = true := fun c member => on c (List.mem_reverse.1 member)
  simp [List.rtakeWhile, List.takeWhile_append_of_pos onward, stop]

theorem exists_append_rtakeWhile {α : Type} (p : α → Bool) (text : List α) :
    text.rtakeWhile p = text ∨
      ∃ before c, p c = false ∧ text = before ++ c :: text.rtakeWhile p := by
  induction text using List.reverseRecOn with
  | nil => exact .inl rfl
  | append_singleton front last ih =>
      cases on : p last with
      | false => exact .inr ⟨front, last, on, by rw [List.rtakeWhile_concat_neg _ _ _ (by simp [on])]⟩
      | true =>
          rw [List.rtakeWhile_concat_pos _ _ _ on]
          refine ih.imp (congrArg (· ++ [last])) fun cut => ?_
          obtain ⟨before, c, stop, split⟩ := cut
          exact ⟨before, c, stop, by rw [← List.cons_append, ← List.append_assoc, ← split]⟩

theorem exists_append_lastLine (text : List Char) :
    lastLine text = text ∨
      ∃ before c, isLineBreak c = true ∧ text = before ++ c :: lastLine text := by
  simpa [lastLine] using exists_append_rtakeWhile (!isLineBreak ·) text

theorem exists_append_lastRow (text : List Char) :
    lastRow text = text ∨ ∃ before, text = before ++ '\n' :: lastRow text := by
  simpa [lastRow] using exists_append_rtakeWhile (· != '\n') text

theorem isLineBreak_of_mem_lastLine {text : List Char} {c : Char} (member : c ∈ lastLine text) :
    isLineBreak c = false := by
  simpa using List.mem_rtakeWhile_imp member

theorem ne_feed_of_mem_lastRow {text : List Char} {c : Char} (member : c ∈ lastRow text) :
    c ≠ '\n' := by
  simpa using List.mem_rtakeWhile_imp member

section Append

variable {text : List Char} {c : Char}

private theorem consLine_append {rows : List (List Char)} (filled : rows ≠ [])
    (more : List (List Char)) :
    consLine c (rows ++ more) = consLine c rows ++ more := by
  obtain ⟨row, rows, rfl⟩ := List.exists_cons_of_ne_nil filled
  rfl

private theorem length_consLine {rows : List (List Char)} (filled : rows ≠ []) :
    (consLine c rows).length = rows.length := by
  obtain ⟨row, rows, rfl⟩ := List.exists_cons_of_ne_nil filled
  rfl

theorem lines_pair (text : List Char) : lines ('\r' :: '\n' :: text) = [] :: lines text := by
  rw [lines]

theorem lines_ne_nil (filled : text ≠ []) : lines text ≠ [] := by
  fun_induction lines text with
  | case1 => exact absurd rfl filled
  | case2 => exact List.cons_ne_nil _ _
  | case3 => exact List.cons_ne_nil _ _
  | case4 c rest =>
      cases lines rest <;> exact List.cons_ne_nil _ _

/-- A text can be cut behind every line break. -/
theorem lines_append_cons {last : Char} {below : List Char} (ends : isLineBreak last = true)
    (whole : last = '\r' → below.head? ≠ some '\n') (text : List Char) :
    lines (text ++ last :: below) = lines (text ++ [last]) ++ lines below := by
  fun_induction lines text with
  | case1 =>
      have alone : lines [last] = [[]] := lines_cons_of_isLineBreak ends (by simp)
      rw [List.nil_append, List.nil_append, lines_cons_of_isLineBreak ends whole, alone]
      rfl
  | case2 rest ih => simpa [lines_pair] using ih
  | case3 first rest single opens ih =>
      by_cases pair : first = '\r' ∧ rest = [] ∧ last = '\n'
      · obtain ⟨rfl, rfl, rfl⟩ := pair
        simp [lines_pair, lines]
      · have apart (more : List Char) (same : first = '\r') :
            (rest ++ last :: more).head? ≠ some '\n' := by
          cases rest with
          | nil => exact fun feed => pair ⟨same, rfl, by simpa using feed⟩
          | cons next tail => exact fun feed => single tail same (by simpa using feed)
        rw [List.cons_append, List.cons_append, lines_cons_of_isLineBreak opens (apart below),
          lines_cons_of_isLineBreak opens (apart []), ih, List.cons_append]
  | case4 first rest single inside ih =>
      rw [Bool.not_eq_true] at inside
      rw [List.cons_append, List.cons_append, lines_cons_of_not_isLineBreak inside,
        lines_cons_of_not_isLineBreak inside, ih, consLine_append (lines_ne_nil (by simp))]

end Append

section Last

variable {text : List Char} {c : Char} (plain : isLineBreak c = false)

include plain

private theorem lines_single_append {first : Char} (ends : isLineBreak first = true)
    (single : ∀ rest, first = '\r' → text = '\n' :: rest → False) :
    lines (first :: (text ++ [c])) = [] :: lines (text ++ [c]) := by
  refine lines_cons_of_isLineBreak ends fun same => ?_
  cases text with
  | nil =>
      rintro ⟨⟩
      cases plain
  | cons next tail => exact fun feed => single tail same (by simpa using feed)

/-- Counting by line feeds falls behind with every line break of another kind. -/
theorem count_feed_lt_length_lines :
    text.count '\n' < (lines (text ++ [c])).length ∧
      (text.count '\n' + 1 = (lines (text ++ [c])).length ↔ ByFeeds text) := by
  fun_induction lines text with
  | case1 => simp [lines_cons_of_not_isLineBreak plain, ByFeeds, lines, consLine]
  | case2 rest ih =>
      simp [lines_pair, ByFeeds, ih]
  | case3 first rest single ends ih =>
      rw [List.cons_append, lines_single_append plain ends single, List.length_cons]
      by_cases feed : first = '\n'
      · simp [feed, ByFeeds, ih]
      · have other : ¬ ByFeeds (first :: rest) := by
          intro feeds
          obtain ⟨same, next⟩ := (feeds.1 ends).resolve_left feed
          obtain ⟨tail, rfl⟩ := List.head?_eq_some_iff.1 next
          exact single tail same rfl
        rw [List.count_cons_of_ne feed]
        exact ⟨by omega, by omega, fun feeds => absurd feeds other⟩
  | case4 first rest single inside ih =>
      rw [Bool.not_eq_true] at inside
      have other : first ≠ '\n' := by
        rintro rfl
        cases inside
      rw [List.cons_append, lines_cons_of_not_isLineBreak inside,
        length_consLine (lines_ne_nil (by simp)), List.count_cons_of_ne other]
      simpa [ByFeeds, inside] using ih

theorem exists_lines_append :
    ∃ before, lines (text ++ [c]) = before ++ [lastLine text ++ [c]] := by
  have inside (d : Char) (member : d ∈ lastLine text ++ [c]) : isLineBreak d = false := by
    rcases List.mem_append.1 member with line | last
    · exact isLineBreak_of_mem_lastLine line
    · rwa [List.mem_singleton.1 last]
  have single : lines (lastLine text ++ [c]) = [lastLine text ++ [c]] :=
    lines_eq_singleton (by simp) inside
  rcases exists_append_lastLine text with whole | ⟨before, last, ends, split⟩
  · exact ⟨[], by rwa [whole] at single ⊢⟩
  · have apart : (lastLine text ++ [c]).head? ≠ some '\n' :=
      fun feed => absurd (inside '\n' (List.mem_of_head? feed)) (by decide)
    refine ⟨lines (before ++ [last]), ?_⟩
    rw [← single, ← lines_append_cons ends fun _ => apart, ← List.cons_append,
      ← List.append_assoc, ← split]

end Last

private theorem ByFeeds.of_append {before behind : List Char} {c : Char}
    (feeds : ByFeeds (before ++ c :: behind)) (ends : isLineBreak c = true) :
    c = '\n' ∨ c = '\r' ∧ behind.head? = some '\n' := by
  induction before with
  | nil => exact feeds.1 ends
  | cons first rest ih => exact ih feeds.2

theorem ByFeeds.lastLine_eq {text : List Char} (feeds : ByFeeds text) :
    lastLine text = lastRow text := by
  have inside (c : Char) (member : c ∈ lastLine text) : (c != '\n') = true := by
    rw [bne_iff_ne]
    rintro rfl
    exact absurd (isLineBreak_of_mem_lastLine member) (by decide)
  rcases exists_append_lastLine text with whole | ⟨before, last, ends, split⟩
  · rw [lastRow, whole, eq_comm, List.rtakeWhile_eq_self_iff]
    rwa [whole] at inside
  · obtain rfl : last = '\n' := by
      rw [split] at feeds
      refine (feeds.of_append ends).resolve_right fun pair => ?_
      exact absurd (inside '\n' (List.mem_of_head? pair.2)) (by decide)
    exact ((congrArg lastRow split).trans (rtakeWhile_append_cons rfl inside before)).symm

end Spreadsheet.Text
