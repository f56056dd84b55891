import Spreadsheet.Proofs.CellId
import Spreadsheet.Proofs.Formula.Grammar
import Spreadsheet.Proofs.Sheet.History

/-! When an edit is refused, for which reason, and that a refused edit leaves the sheet
as it was. -/

set_option autoImplicit false

namespace Spreadsheet.Sheet

/-- The text that is typed into a cell, without outer blanks. -/
def typed (contents : Option String) : List Char :=
  Text.trim (contents.getD "").toList

/-- A text that is meant as a formula but is none. -/
structure Malformed (cs : List Char) : Prop where
  filled : cs ≠ []
  notNumber : ¬ ∃ value, Double.Writes cs value
  marked : cs.head? = some '='
  notFormula : ¬ ∃ tree, Formula.Writes cs tree

/-- The text of a formula that mentions the identifier itself or a direct or indirect
reader of it. -/
def Circular (links : Links) (id : String) (cs : List Char) : Prop :=
  ∃ tree, Formula.Writes cs tree ∧
    ∃ source, tree.Mentions source ∧ (source = id ∨ links.DependsOn source id)

/-- The same cells in the same order, and the same rows of links in both directions. -/
structure Unchanged (before after : Sheet) : Prop where
  cells : after.cells = before.cells
  links : after.links.SameRows before.links

/-- Which edits a sheet refuses, and what it is then. -/
structure Refusals (sheet : Sheet) : Prop where
  invalid : ∀ id contents,
    (∃ other, (sheet.apply (.set id contents)).2 = .error (.invalidId other)) ↔
      ¬ CellId.Valid id.toList
  malformed : ∀ id contents,
    (∃ error, (sheet.apply (.set id contents)).2 = .error (.badFormula error)) ↔
      CellId.Valid id.toList ∧ Malformed (typed contents)
  circular : ∀ id contents,
    (∃ path, (sheet.apply (.set id contents)).2 = .error (.cycle path)) ↔
      CellId.Valid id.toList ∧ ¬ Malformed (typed contents) ∧
        Circular sheet.links id (typed contents)
  accepted : ∀ id contents,
    (∃ updated, (sheet.apply (.set id contents)).2 = .ok updated) ↔
      CellId.Valid id.toList ∧ ¬ Malformed (typed contents) ∧
        ¬ Circular sheet.links id (typed contents)
  delete : ∀ id,
    (∃ error, (sheet.apply (.delete id)).2 = .error error) ↔ ¬ CellId.Valid id.toList
  unchanged : ∀ edit error, (sheet.apply edit).2 = .error error →
    Unchanged sheet (sheet.apply edit).1

section Typed

variable {cs : List Char}

private theorem reading_typed (id : String) (contents : Option String) :
    Cell.Reading (typed contents) (Edit.set id contents).cell? := by
  cases contents with
  | none => exact .blank
  | some text => exact Cell.reading_ofText text

private theorem malformed_iff {result : Except ParseError (Option Cell)}
    (reading : Cell.Reading cs result) : Malformed cs ↔ ∃ error, result = .error error := by
  cases reading with
  | blank => exact ⟨fun malformed => absurd rfl malformed.filled, by rintro ⟨_, ⟨⟩⟩⟩
  | number _ number =>
      refine ⟨fun malformed => ?_, by rintro ⟨_, ⟨⟩⟩⟩
      exact absurd ⟨_, Double.ofText?_eq_some_iff.1 number⟩ malformed.notNumber
  | formula _ parsed =>
      refine ⟨fun malformed => ?_, by rintro ⟨_, ⟨⟩⟩⟩
      exact absurd ⟨_, Formula.parse_eq_ok_iff.1 parsed⟩ malformed.notFormula
  | @malformed rest error number refused =>
      refine ⟨fun _ => ⟨error, rfl⟩, fun _ => ⟨List.cons_ne_nil '=' rest, ?_, rfl, ?_⟩⟩
      · intro literal
        obtain ⟨value, writes⟩ := literal
        rw [Double.ofText?_eq_some_iff.2 writes] at number
        cases number
      · intro formula
        obtain ⟨tree, writes⟩ := formula
        rw [Formula.parse_eq_ok_iff.2 writes] at refused
        cases refused
  | string _ _ unmarked =>
      exact ⟨fun malformed => absurd malformed.marked unmarked, by rintro ⟨_, ⟨⟩⟩⟩

private theorem not_circular (trimmed : Text.trim cs = cs) (unmarked : cs.head? ≠ some '=')
    (links : Links) (id : String) : ¬ Circular links id cs := by
  intro circular
  obtain ⟨tree, writes, _⟩ := circular
  have marked := writes.head?_eq
  rw [trimmed] at marked
  exact unmarked marked

private theorem not_closesCycle_empty (links : Links) (id : String) :
    ¬ links.ClosesCycle id ∅ := by
  intro closes
  obtain ⟨cell, member, _⟩ := closes
  exact IdSet.not_mem_empty cell member

private theorem circular_iff (trimmed : Text.trim cs = cs) {cell? : Option Cell}
    (reading : Cell.Reading cs (.ok cell?)) (links : Links) (id : String) :
    Circular links id cs ↔
      ∃ cell, cell? = some cell ∧ links.ClosesCycle id cell.references := by
  cases reading with
  | blank =>
      refine iff_of_false (not_circular trimmed (by simp) links id) ?_
      intro closing
      obtain ⟨_, ⟨⟩, _⟩ := closing
  | number _ number =>
      have unmarked := (Double.ofText?_eq_some_iff.1 number).head?_ne
      refine iff_of_false (not_circular trimmed unmarked links id) ?_
      intro closing
      obtain ⟨_, ⟨⟩, closes⟩ := closing
      exact not_closesCycle_empty links id closes
  | string _ _ unmarked =>
      refine iff_of_false (not_circular trimmed unmarked links id) ?_
      intro closing
      obtain ⟨_, ⟨⟩, closes⟩ := closing
      exact not_closesCycle_empty links id closes
  | @formula rest tree _ parsed =>
      constructor
      · intro circular
        obtain ⟨other, writes, source, mentioned, reaches⟩ := circular
        rw [← Formula.parse_eq_ok_iff, parsed] at writes
        cases writes
        exact ⟨_, rfl, source, Formula.mem_references_iff.2 mentioned, reaches⟩
      · intro closes
        obtain ⟨_, ⟨⟩, source, member, reaches⟩ := closes
        exact ⟨tree, Formula.parse_eq_ok_iff.1 parsed, source,
          Formula.mem_references_iff.1 member, reaches⟩

/-- The answer to a typed text, with the condition for each. -/
private inductive Verdict (links : Links) (id : String) (cs : List Char) :
    Except EditError (List String) → Prop where
  | invalid : ¬ CellId.Valid id.toList → Verdict links id cs (.error (.invalidId id))
  | malformed {error : ParseError} : CellId.Valid id.toList → Malformed cs →
      Verdict links id cs (.error (.badFormula error))
  | circular {path : List String} : CellId.Valid id.toList → ¬ Malformed cs →
      Circular links id cs → Verdict links id cs (.error (.cycle path))
  | accepted {updated : List String} : CellId.Valid id.toList → ¬ Malformed cs →
      ¬ Circular links id cs → Verdict links id cs (.ok updated)

private theorem Verdict.answer_iff {links : Links} {id : String}
    {answer : Except EditError (List String)} (verdict : Verdict links id cs answer) :
    ((∃ other, answer = .error (.invalidId other)) ↔ ¬ CellId.Valid id.toList) ∧
    ((∃ error, answer = .error (.badFormula error)) ↔
      CellId.Valid id.toList ∧ Malformed cs) ∧
    ((∃ path, answer = .error (.cycle path)) ↔
      CellId.Valid id.toList ∧ ¬ Malformed cs ∧ Circular links id cs) ∧
    ((∃ updated, answer = .ok updated) ↔
      CellId.Valid id.toList ∧ ¬ Malformed cs ∧ ¬ Circular links id cs) := by
  cases verdict with
  | invalid invalid => simp [invalid]
  | malformed valid malformed => simp [valid, malformed]
  | circular valid formed circular => simp [valid, formed, circular]
  | accepted valid formed harmless => simp [valid, formed, harmless]

private theorem verdict_set {sheet : Sheet} (settled : Settled sheet) (id : String)
    (contents : Option String) :
    Verdict sheet.links id (typed contents) (sheet.apply (.set id contents)).2 := by
  have outcome := outcome_apply settled (.set id contents)
  have reading := reading_typed id contents
  have formed : ∀ cell?, (Edit.set id contents).cell? = .ok cell? →
      ¬ Malformed (typed contents) := by
    intro cell? makes malformed
    obtain ⟨error, refused⟩ := (malformed_iff reading).1 malformed
    rw [makes] at refused
    cases refused
  have circular : ∀ cell?, (Edit.set id contents).cell? = .ok cell? →
      (Circular sheet.links id (typed contents) ↔
        ∃ cell, cell? = some cell ∧ sheet.links.ClosesCycle id cell.references) :=
    fun cell? makes => circular_iff (Text.trim_trim _) (makes ▸ reading) sheet.links id
  have harmless : (Edit.set id contents).cell? = .ok none →
      ¬ Circular sheet.links id (typed contents) := by
    intro clears closes
    obtain ⟨_, ⟨⟩, _⟩ := (circular none clears).1 closes
  generalize sheet.apply (.set id contents) = result at outcome
  cases outcome with
  | invalid refused => exact .invalid (CellId.isValid_eq_false_iff.1 refused)
  | malformed valid refused =>
      exact .malformed (CellId.isValid_iff.1 valid) ((malformed_iff reading).2 ⟨_, refused⟩)
  | absent valid clears =>
      exact .accepted (CellId.isValid_iff.1 valid) (formed none clears) (harmless clears)
  | cleared valid clears =>
      exact .accepted (CellId.isValid_iff.1 valid) (formed none clears) (harmless clears)
  | @circular cell links path valid makes closes =>
      exact .circular (CellId.isValid_iff.1 valid) (formed (some cell) makes)
        ((circular (some cell) makes).2 ⟨cell, rfl, closes⟩)
  | @stored cell base valid makes open_ =>
      refine .accepted (CellId.isValid_iff.1 valid) (formed (some cell) makes) fun closes => ?_
      obtain ⟨_, ⟨⟩, around⟩ := (circular (some cell) makes).1 closes
      exact open_ around

theorem Settled.accepted_iff {sheet : Sheet} (settled : Settled sheet) (id : String)
    (contents : Option String) :
    (∃ updated, (sheet.apply (.set id contents)).2 = .ok updated) ↔
      CellId.Valid id.toList ∧ ¬ Malformed (typed contents) ∧
        ¬ Circular sheet.links id (typed contents) :=
  (verdict_set settled id contents).answer_iff.2.2.2

end Typed

theorem unchanged_of_error {sheet : Sheet} (settled : Settled sheet) (edit : Edit)
    {error : EditError} (refused : (sheet.apply edit).2 = .error error) :
    Unchanged sheet (sheet.apply edit).1 := by
  have outcome := outcome_apply settled edit
  generalize sheet.apply edit = result at outcome refused ⊢
  cases outcome with
  | invalid => exact ⟨rfl, fun _ => ⟨rfl, rfl⟩⟩
  | malformed => exact ⟨rfl, fun _ => ⟨rfl, rfl⟩⟩
  | circular _ _ _ same => exact ⟨rfl, same⟩
  | absent => cases refused
  | cleared => cases refused
  | stored => cases refused

private theorem delete_error_iff {sheet : Sheet} (settled : Settled sheet) (id : String) :
    (∃ error, (sheet.apply (.delete id)).2 = .error error) ↔ ¬ CellId.Valid id.toList := by
  rw [← CellId.isValid_eq_false_iff]
  have outcome := outcome_apply settled (.delete id)
  generalize sheet.apply (.delete id) = result at outcome
  cases outcome with
  | invalid invalid => exact iff_of_true ⟨_, rfl⟩ invalid
  | absent valid => exact iff_of_false (by rintro ⟨_, ⟨⟩⟩) (Bool.not_eq_false _ ▸ valid)
  | cleared valid => exact iff_of_false (by rintro ⟨_, ⟨⟩⟩) (Bool.not_eq_false _ ▸ valid)
  | malformed _ refused => cases refused
  | circular _ makes => cases makes
  | stored _ makes => cases makes

/-- After any edits, the sheet refuses an edit for the reasons given and no other, and a
refused edit leaves it as it was. -/
theorem refusals_ofEdits (edits : List Edit) : Refusals (ofEdits edits) where
  invalid id contents := (verdict_set (settled_ofEdits edits) id contents).answer_iff.1
  malformed id contents := (verdict_set (settled_ofEdits edits) id contents).answer_iff.2.1
  circular id contents := (verdict_set (settled_ofEdits edits) id contents).answer_iff.2.2.1
  accepted id contents := (verdict_set (settled_ofEdits edits) id contents).answer_iff.2.2.2
  delete := delete_error_iff (settled_ofEdits edits)
  unchanged edit _ := unchanged_of_error (settled_ofEdits edits) edit

end Spreadsheet.Sheet
