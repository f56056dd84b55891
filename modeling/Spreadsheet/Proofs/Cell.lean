import Spreadsheet.Cell
import Spreadsheet.Proofs.Formula.Evaluation
import Spreadsheet.Proofs.Formula.Grammar
import Spreadsheet.Proofs.Text.Blank

/-! What a cell keeps when it is evaluated, what its result rests on, and how it goes
back to its text. -/

set_option autoImplicit false

namespace Spreadsheet.Cell

/-- The cell before its first evaluation. -/
def unevaluated : Cell → Cell
  | formula contents tree _ => formula contents tree .pending
  | cell => cell

section Evaluate

variable (cells others : Table String Cell) (cell : Cell)

@[simp] theorem unevaluated_evaluate : (cell.evaluate cells).unevaluated = cell.unevaluated := by
  cases cell with
  | number => rfl
  | string => rfl
  | formula contents tree result =>
      rw [evaluate]
      split <;> rfl

@[simp] theorem contents_unevaluated : cell.unevaluated.contents = cell.contents := by
  cases cell <;> rfl

@[simp] theorem references_unevaluated : cell.unevaluated.references = cell.references := by
  cases cell <;> rfl

theorem evaluate_unevaluated : cell.unevaluated.evaluate cells = cell.evaluate cells := by
  cases cell <;> rfl

@[simp] theorem contents_evaluate : (cell.evaluate cells).contents = cell.contents := by
  rw [← contents_unevaluated, unevaluated_evaluate, contents_unevaluated]

@[simp] theorem evaluate_evaluate :
    (cell.evaluate others).evaluate cells = cell.evaluate cells := by
  rw [← evaluate_unevaluated, unevaluated_evaluate, evaluate_unevaluated]

end Evaluate

/-- The result rests on the cells that are read. -/
theorem evaluate_congr {cells others : Table String Cell} {cell : Cell}
    (agree : ∀ id ∈ cell.references, cells.get? id = others.get? id) :
    cell.evaluate cells = cell.evaluate others := by
  cases cell with
  | number => rfl
  | string => rfl
  | formula contents tree result =>
      have same : tree.meaning (resolve cells) = tree.meaning (resolve others) := by
        refine Formula.meaning_congr fun id mentioned => ?_
        rw [resolve, resolve, agree id (Formula.mem_references_iff.2 mentioned)]
      simp only [evaluate, Formula.evaluate_eq, same]

theorem mem_references_iff {cell : Cell} {id : String} :
    id ∈ cell.references ↔
      ∃ contents tree result, cell = formula contents tree result ∧ tree.Mentions id := by
  cases cell with
  | number => simp [references]
  | string => simp [references]
  | formula contents tree result =>
      rw [references, Formula.mem_references_iff]
      constructor
      · exact fun mentioned => ⟨contents, tree, result, rfl, mentioned⟩
      · intro held
        obtain ⟨_, _, _, same, mentioned⟩ := held
        cases same
        exact mentioned

section OfText

/-- The text of a cell: what was typed, without outer blanks. -/
def trimmed (text : String) : String := String.ofList (Text.trim text.toList)

theorem ofText_trimmed (text : String) : ofText (trimmed text) = ofText text := by
  simp only [ofText, trimmed, String.toList_ofList, Text.trim_trim]

theorem trimmed_eq_empty_iff {text : String} : trimmed text = "" ↔ Text.trim text.toList = [] := by
  rw [trimmed, ← String.toList_inj, String.toList_ofList]
  rfl

/-- What a text without outer blanks gives, case by case. -/
inductive Reading : List Char → Except ParseError (Option Cell) → Prop where
  | blank : Reading [] (.ok none)
  | number {cs : List Char} {value : Double} : cs ≠ [] → Double.ofText? cs = some value →
      Reading cs (.ok (some (.number (String.ofList cs) value)))
  | formula {rest : List Char} {tree : Formula} : Double.ofText? ('=' :: rest) = none →
      Formula.parse ('=' :: rest) = .ok tree →
      Reading ('=' :: rest) (.ok (some (.formula (String.ofList ('=' :: rest)) tree .pending)))
  | malformed {rest : List Char} {error : ParseError} : Double.ofText? ('=' :: rest) = none →
      Formula.parse ('=' :: rest) = .error error → Reading ('=' :: rest) (.error error)
  | string {cs : List Char} : cs ≠ [] → Double.ofText? cs = none → cs.head? ≠ some '=' →
      Reading cs (.ok (some (.string (String.ofList cs))))

theorem reading_ofText (text : String) : Reading (Text.trim text.toList) (ofText text) := by
  unfold ofText
  cases Text.trim text.toList with
  | nil => exact .blank
  | cons first rest =>
      dsimp only
      cases number : Double.ofText? (first :: rest) with
      | some value => exact .number (List.cons_ne_nil first rest) number
      | none =>
          by_cases marked : first = '='
          · subst first
            rw [if_pos rfl]
            cases parsed : Formula.parse ('=' :: rest) with
            | ok tree => exact .formula number parsed
            | error error => exact .malformed number parsed
          · rw [if_neg marked]
            exact .string (List.cons_ne_nil first rest) number (by simpa using marked)

theorem ofText_some {text : String} {cell : Cell} (made : ofText text = .ok (some cell)) :
    cell.contents = trimmed text ∧ cell.unevaluated = cell ∧ trimmed text ≠ "" := by
  have reading := reading_ofText text
  rw [made] at reading
  rw [Ne, trimmed_eq_empty_iff]
  unfold trimmed
  generalize Text.trim text.toList = cs at reading
  cases reading with
  | number filled => exact ⟨rfl, rfl, filled⟩
  | formula => exact ⟨rfl, rfl, List.cons_ne_nil _ _⟩
  | string filled => exact ⟨rfl, rfl, filled⟩

theorem ofText_none {text : String} (made : ofText text = .ok none) : trimmed text = "" := by
  have reading := reading_ofText text
  rw [made] at reading
  rw [trimmed_eq_empty_iff]
  generalize Text.trim text.toList = cs at reading
  cases reading
  rfl

/-- A made cell is made from its own contents again. -/
theorem ofText_contents {text : String} {cell : Cell} (made : ofText text = .ok (some cell)) :
    ofText cell.contents = .ok (some cell) := by
  rw [(ofText_some made).1, ofText_trimmed, made]

theorem ofText_eq_number_iff {text : String} {value : Double} :
    (∃ contents, ofText text = .ok (some (.number contents value))) ↔
      Double.Writes (Text.trim text.toList) value := by
  rw [← Double.ofText?_eq_some_iff]
  have reading := reading_ofText text
  generalize Text.trim text.toList = cs at reading
  generalize ofText text = made at reading
  cases reading with
  | blank => simp [show Double.ofText? [] = none from rfl]
  | number _ number => simp [number]
  | formula other => simp [other]
  | malformed other => simp [other]
  | string _ other => simp [other]

/-- The formulas among the typed texts are those of the grammar. -/
theorem ofText_eq_formula_iff {text : String} {tree : Formula} :
    (∃ contents, ofText text = .ok (some (.formula contents tree .pending))) ↔
      Formula.Writes text.toList tree := by
  have reading := reading_ofText text
  constructor
  · intro made
    obtain ⟨contents, made⟩ := made
    rw [made] at reading
    rw [← Formula.writes_trim_iff]
    generalize Text.trim text.toList = cs at reading
    cases reading with
    | formula _ parsed => exact Formula.parse_eq_ok_iff.1 parsed
  · intro writes
    have marked := writes.head?_eq
    rw [← Formula.writes_trim_iff, ← Formula.parse_eq_ok_iff] at writes
    generalize Text.trim text.toList = cs at reading marked writes
    generalize ofText text = made at reading
    cases reading with
    | blank => cases marked
    | number _ number => exact absurd marked (Double.ofText?_eq_some_iff.1 number).head?_ne
    | formula _ parsed =>
        rw [parsed] at writes
        cases writes
        exact ⟨_, rfl⟩
    | malformed _ refused =>
        rw [refused] at writes
        cases writes
    | string _ _ unmarked => exact absurd marked unmarked

end OfText

end Spreadsheet.Cell
