import Spreadsheet.Proofs.Formula.Recomputation
import Spreadsheet.Proofs.Sheet.History

/-! The cells of a sheet are those that its texts alone lead to, whatever edits it went
through. -/

set_option autoImplicit false

namespace Spreadsheet.Sheet

/-- The result that a formula cell holds for an outcome of its evaluation. -/
def resultOf : Except Fault Double → Result
  | .ok value => .value value
  | .error fault => .failed (.faulty fault)

/-- What a reference to a formula cell gives for an outcome of that formula. -/
def supplied (id : String) : Except Fault Double → Except Fault Double
  | .ok value => .ok value
  | .error _ => .error (.unusable id .inError)

section Settled

variable {sheet : Sheet}

/-- The meaning of a formula over the cells as they stand. -/
def meaning (sheet : Sheet) (tree : Formula) : Except Fault Double :=
  tree.meaning (Cell.resolve sheet.cells)

theorem Settled.result_eq (settled : Settled sheet) {id contents : String} {tree : Formula}
    {result : Result} (found : sheet.cells.get? id = some (.formula contents tree result)) :
    result = resultOf (sheet.meaning tree) := by
  have current := settled.current id
  rw [UpToDate, found, Option.map_some, Option.some.injEq, Cell.evaluate,
    Formula.evaluate_eq] at current
  unfold meaning
  cases outcome : tree.meaning (Cell.resolve sheet.cells) with
  | ok value =>
      rw [outcome] at current
      cases current
      rfl
  | error fault =>
      rw [outcome] at current
      cases current
      rfl

theorem Settled.resolve_formula (settled : Settled sheet) {id contents : String} {tree : Formula}
    {result : Result} (found : sheet.cells.get? id = some (.formula contents tree result)) :
    Cell.resolve sheet.cells id = supplied id (sheet.meaning tree) := by
  rw [Cell.resolve, found, settled.result_eq found]
  cases sheet.meaning tree <;> rfl

theorem Settled.cell_of_text (settled : Settled sheet) {id text : String} {made : Cell}
    (stored : sheet.texts id = some text) (gives : Cell.ofText text = .ok (some made)) :
    ∃ cell, sheet.cells.get? id = some cell ∧ cell.unevaluated = made := by
  obtain ⟨cell, found, rfl⟩ := Option.map_eq_some_iff.1 stored
  rw [settled.made id cell found] at gives
  cases gives
  exact ⟨cell, found, rfl⟩

theorem Settled.formula_of_text (settled : Settled sheet) {id text contents : String}
    {tree : Formula} (stored : sheet.texts id = some text)
    (gives : Cell.ofText text = .ok (some (.formula contents tree .pending))) :
    sheet.cells.get? id = some (.formula contents tree (resultOf (sheet.meaning tree))) := by
  obtain ⟨cell, found, made⟩ := settled.cell_of_text stored gives
  cases cell with
  | number => cases made
  | string => cases made
  | formula others other result =>
      cases made
      rw [found, settled.result_eq found]

/-- Whatever the texts lead to is what the cells as they stand lead to. -/
theorem Settled.meaning_of_recomputes (settled : Settled sheet) {tree : Formula}
    {outcome : Except Fault Double} (recomputes : Recomputes sheet.texts tree outcome) :
    sheet.meaning tree = outcome := by
  unfold meaning
  induction recomputes with
  | number => rfl
  | @absent id missing =>
      have none : sheet.cells.get? id = none := Option.map_eq_none_iff.1 missing
      simp only [Formula.meaning, Cell.resolve, none]
  | string stored gives =>
      obtain ⟨cell, found, made⟩ := settled.cell_of_text stored gives
      cases cell <;> cases made
      simp only [Formula.meaning, Cell.resolve, found]
  | literal stored gives =>
      obtain ⟨cell, found, made⟩ := settled.cell_of_text stored gives
      cases cell <;> cases made
      simp only [Formula.meaning, Cell.resolve, found, Cell.value?]
  | formula stored gives _ ih =>
      rw [Formula.meaning, settled.resolve_formula (settled.formula_of_text stored gives), meaning,
        ih]
      rfl
  | failing stored gives _ ih =>
      rw [Formula.meaning, settled.resolve_formula (settled.formula_of_text stored gives), meaning,
        ih]
      rfl
  | negate _ ih => rw [Formula.meaning, ih]; rfl
  | negateFault _ ih => rw [Formula.meaning, ih]; rfl
  | binary _ _ harmless leftIH rightIH =>
      rw [Formula.meaning, leftIH, rightIH]
      exact Formula.apply_of_harmless _ harmless
  | divisionByZero _ _ zero leftIH rightIH =>
      rw [Formula.meaning, leftIH, rightIH]
      exact Formula.apply_of_div_by_zero _ zero
  | leftFault _ ih => rw [Formula.meaning, ih]; rfl
  | rightFault _ _ leftIH rightIH => rw [Formula.meaning, leftIH, rightIH]; rfl

theorem texts_eq_some {id : String} {cell : Cell} (found : sheet.cells.get? id = some cell) :
    sheet.texts id = some cell.contents := by
  rw [texts, found]
  rfl

private theorem Settled.recomputes_reference (settled : Settled sheet) (id : String)
    (below : ∀ contents tree result, sheet.cells.get? id = some (.formula contents tree result) →
      Recomputes sheet.texts tree (sheet.meaning tree)) :
    Recomputes sheet.texts (.reference id) (Cell.resolve sheet.cells id) := by
  cases found : sheet.cells.get? id with
  | none =>
      have missing : sheet.texts id = none := Option.map_eq_none_iff.2 found
      rw [Cell.resolve, found]
      exact .absent missing
  | some cell =>
      have stored := texts_eq_some found
      have gives := settled.made id cell found
      cases cell with
      | number contents value =>
          rw [Cell.resolve, found]
          exact .literal stored gives
      | string contents =>
          rw [Cell.resolve, found]
          exact .string stored gives
      | formula contents tree result =>
          have inner := below contents tree result found
          rw [settled.resolve_formula found]
          cases outcome : sheet.meaning tree with
          | ok value => exact .formula stored gives (outcome ▸ inner)
          | error fault => exact .failing stored gives (outcome ▸ inner)

private theorem Settled.recomputes_tree (settled : Settled sheet) (tree : Formula)
    (below : ∀ id, tree.Mentions id → ∀ contents inner result,
      sheet.cells.get? id = some (.formula contents inner result) →
      Recomputes sheet.texts inner (sheet.meaning inner)) :
    Recomputes sheet.texts tree (sheet.meaning tree) := by
  unfold meaning at below ⊢
  induction tree with
  | number value => exact .number
  | reference id => exact settled.recomputes_reference id (below id .reference)
  | negate operand ih =>
      have inner := ih fun id inside => below id (.negate inside)
      rw [Formula.meaning]
      cases outcome : operand.meaning (Cell.resolve sheet.cells) with
      | ok value => exact .negate (outcome ▸ inner)
      | error fault => exact .negateFault (outcome ▸ inner)
  | binary op left right leftIH rightIH =>
      have first := leftIH fun id inside => below id (.left inside)
      have second := rightIH fun id inside => below id (.right inside)
      rw [Formula.meaning]
      cases leftOutcome : left.meaning (Cell.resolve sheet.cells) with
      | error fault => exact .leftFault (leftOutcome ▸ first)
      | ok leftValue =>
          cases rightOutcome : right.meaning (Cell.resolve sheet.cells) with
          | error fault => exact .rightFault (leftOutcome ▸ first) (rightOutcome ▸ second)
          | ok rightValue =>
              change Recomputes _ _ (Formula.apply op leftValue rightValue)
              by_cases zero : op = .div ∧ rightValue.isZero = true
              · obtain ⟨rfl, zero⟩ := zero
                rw [Formula.apply_of_div_by_zero leftValue zero]
                exact .divisionByZero (leftOutcome ▸ first) (rightOutcome ▸ second) zero
              · rw [Formula.apply_of_harmless leftValue zero]
                exact .binary (leftOutcome ▸ first) (rightOutcome ▸ second) zero

/-- Without a cycle, following references from text to text comes to an end. -/
private theorem Settled.recomputes_cell (settled : Settled sheet) (id : String) :
    ∀ contents tree result, sheet.cells.get? id = some (.formula contents tree result) →
      Recomputes sheet.texts tree (sheet.meaning tree) := by
  induction id using settled.acyclic.wellFounded.induction with
  | _ id ih =>
      intro contents tree result found
      refine settled.recomputes_tree tree fun source mentioned => ih source ?_
      rw [Links.Reads, settled.aligned]
      exact mem_referencesIn_iff.2 ⟨contents, tree, result, found, mentioned⟩

private theorem Settled.recomputes_iff (settled : Settled sheet) (tree : Formula)
    (outcome : Except Fault Double) :
    Recomputes sheet.texts tree outcome ↔ sheet.meaning tree = outcome := by
  constructor
  · exact settled.meaning_of_recomputes
  · intro same
    subst same
    exact settled.recomputes_tree tree fun id _ => settled.recomputes_cell id

theorem Settled.rebuilds_iff (settled : Settled sheet) (id : String) (cell : Cell) :
    Rebuilds sheet.texts id cell ↔ sheet.cells.get? id = some cell := by
  constructor
  · intro rebuilds
    cases rebuilds with
    | number stored gives =>
        obtain ⟨cell, found, made⟩ := settled.cell_of_text stored gives
        cases cell <;> cases made
        exact found
    | string stored gives =>
        obtain ⟨cell, found, made⟩ := settled.cell_of_text stored gives
        cases cell <;> cases made
        exact found
    | value stored gives recomputes =>
        rw [settled.formula_of_text stored gives, settled.meaning_of_recomputes recomputes]
        rfl
    | failed stored gives recomputes =>
        rw [settled.formula_of_text stored gives, settled.meaning_of_recomputes recomputes]
        rfl
  · intro found
    have stored := texts_eq_some found
    have gives := settled.made id cell found
    cases cell with
    | number contents value => exact .number stored gives
    | string contents => exact .string stored gives
    | formula contents tree result =>
        have recomputes := settled.recomputes_cell id contents tree result found
        rw [settled.result_eq found]
        cases outcome : sheet.meaning tree with
        | ok value => exact .value stored gives (outcome ▸ recomputes)
        | error fault => exact .failed stored gives (outcome ▸ recomputes)

end Settled

/-- What a formula cell shows for an outcome: its value, or the message of the fault. -/
def Shows (cell : Cell) : Except Fault Double → Prop
  | .ok value => cell.isError = false ∧ cell.value? = some value ∧ cell.message? = none
  | .error fault => cell.isError = true ∧ cell.value? = none ∧ cell.message? = some fault.message

/-- After any edits, each cell is the one that the texts of the cells alone lead to, and
a formula cell shows what its formula comes to over these texts. So the texts decide
about the cells, whatever edits led to them. -/
theorem get?_ofEdits_iff_rebuilds (edits : List Edit) :
    (∀ id cell, (ofEdits edits).cells.get? id = some cell ↔
      Rebuilds (ofEdits edits).texts id cell) ∧
    (∀ id contents tree result,
      (ofEdits edits).cells.get? id = some (.formula contents tree result) →
      ∃ outcome, (∀ other, Recomputes (ofEdits edits).texts tree other ↔ other = outcome) ∧
        Shows (.formula contents tree result) outcome) ∧
    ∀ others, (ofEdits others).texts = (ofEdits edits).texts →
      ∀ id, (ofEdits others).cells.get? id = (ofEdits edits).cells.get? id := by
  have settled := settled_ofEdits edits
  refine ⟨fun id cell => (settled.rebuilds_iff id cell).symm, ?_, ?_⟩
  · intro id contents tree result found
    refine ⟨(ofEdits edits).meaning tree, fun other => ?_, ?_⟩
    · rw [settled.recomputes_iff]
      exact eq_comm
    · rw [settled.result_eq found]
      cases (ofEdits edits).meaning tree with
      | ok value => exact ⟨rfl, rfl, rfl⟩
      | error fault => exact ⟨rfl, rfl, rfl⟩
  · intro others same id
    refine Option.ext fun cell => ?_
    rw [← (settled_ofEdits others).rebuilds_iff, ← settled.rebuilds_iff, same]

end Spreadsheet.Sheet
