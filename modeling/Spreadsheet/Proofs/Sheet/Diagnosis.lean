import Spreadsheet.Proofs.Sheet.Effect
import Spreadsheet.Proofs.Sheet.Recomputation

/-! Messages of cells in error lead to a cause: each names the first thing that fails in the
formula, and following the named cells ends where something is missing, no number, or a
division by zero. -/

set_option autoImplicit false

namespace Spreadsheet

open Relation

/-- What can fail in a formula. -/
inductive Hazard where
  | read (cell : String)
  | divide (divisor : Formula)

namespace Formula

/-- What can fail in a formula, in the order of evaluation: operands from left to right, then
the operation on them. -/
def hazards : Formula → List Hazard
  | number _ => []
  | reference cell => [.read cell]
  | negate operand => operand.hazards
  | binary .div left right => left.hazards ++ right.hazards ++ [.divide right]
  | binary _ left right => left.hazards ++ right.hazards

theorem hazards_binary (op : Operator) (left right : Formula) :
    (binary op left right).hazards =
      left.hazards ++ (right.hazards ++ if op = .div then [.divide right] else []) := by
  cases op <;> simp [hazards]

theorem read_mem_hazards_iff {tree : Formula} {cell : String} :
    .read cell ∈ tree.hazards ↔ tree.Mentions cell := by
  induction tree with
  | number value => exact ⟨nofun, nofun⟩
  | reference other =>
      rw [hazards, List.mem_singleton, Hazard.read.injEq]
      constructor
      · rintro rfl
        exact .reference
      · intro mentions
        cases mentions
        rfl
  | negate operand ih =>
      rw [hazards, ih]
      constructor
      · exact .negate
      · intro mentions
        cases mentions with
        | negate inside => exact inside
  | binary op left right leftIH rightIH =>
      have notDivide : Hazard.read cell ∉ if op = .div then [Hazard.divide right] else [] := by
        split <;> simp
      rw [hazards_binary, List.mem_append, List.mem_append, leftIH, rightIH, or_iff_left notDivide]
      constructor
      · rintro (inside | inside)
        · exact .left inside
        · exact .right inside
      · intro mentions
        cases mentions with
        | left inside => exact .inl inside
        | right inside => exact .inr inside

end Formula

namespace Sheet

/-- The state of a cell that makes a reference to it unusable. -/
inductive Condition (sheet : Sheet) (id : String) : Unusable → Prop where
  | empty : sheet.cells.get? id = none → Condition sheet id .empty
  | text {contents : String} : sheet.cells.get? id = some (.string contents) →
      Condition sheet id .text
  | inError {cell : Cell} : sheet.cells.get? id = some cell → cell.isError = true →
      Condition sheet id .inError

inductive Fails (sheet : Sheet) : Hazard → Fault → Prop where
  | read {id : String} {why : Unusable} : Condition sheet id why →
      Fails sheet (.read id) (.unusable id why)
  | divide {divisor : Formula} {value : Double} : sheet.meaning divisor = .ok value →
      value.isZero = true → Fails sheet (.divide divisor) .divisionByZero

inductive Passes (sheet : Sheet) : Hazard → Prop where
  | read {id : String} {cell : Cell} {value : Double} : sheet.cells.get? id = some cell →
      cell.isError = false → cell.value? = some value → Passes sheet (.read id)
  | divide {divisor : Formula} {value : Double} : sheet.meaning divisor = .ok value →
      value.isZero = false → Passes sheet (.divide divisor)

/-- The first of the hazards that does not pass fails with the fault. -/
inductive FirstFault (sheet : Sheet) (fault : Fault) : List Hazard → Prop where
  | here {hazard : Hazard} {rest : List Hazard} : Fails sheet hazard fault →
      FirstFault sheet fault (hazard :: rest)
  | later {hazard : Hazard} {rest : List Hazard} : Passes sheet hazard →
      FirstFault sheet fault rest → FirstFault sheet fault (hazard :: rest)

section Hazards

variable {sheet : Sheet} {fault : Fault} {before after : List Hazard}

theorem FirstFault.append (first : FirstFault sheet fault before) :
    FirstFault sheet fault (before ++ after) := by
  induction first with
  | here fails => exact .here fails
  | later passes _ ih => exact .later passes ih

theorem FirstFault.behind (passes : ∀ hazard ∈ before, Passes sheet hazard)
    (first : FirstFault sheet fault after) : FirstFault sheet fault (before ++ after) := by
  induction before with
  | nil => exact first
  | cons hazard rest ih =>
      rw [List.forall_mem_cons] at passes
      exact .later passes.1 (ih passes.2)

private theorem FirstFault.exists_fails {hazards : List Hazard}
    (first : FirstFault sheet fault hazards) :
    ∃ hazard ∈ hazards, Fails sheet hazard fault := by
  induction first with
  | here fails => exact ⟨_, List.mem_cons_self, fails⟩
  | later _ _ ih =>
      obtain ⟨hazard, member, fails⟩ := ih
      exact ⟨hazard, List.mem_cons_of_mem _ member, fails⟩

/-- A cell gives its number, or is in one of the states that make it unusable. -/
theorem resolve_cases (sheet : Sheet) (id : String) :
    (∃ cell value, sheet.cells.get? id = some cell ∧ cell.isError = false ∧
      cell.value? = some value ∧ Cell.resolve sheet.cells id = .ok value) ∨
    ∃ why, Condition sheet id why ∧ Cell.resolve sheet.cells id = .error (.unusable id why) := by
  cases found : sheet.cells.get? id with
  | none => exact .inr ⟨.empty, .empty found, by simp only [Cell.resolve, found]⟩
  | some cell =>
      cases cell with
      | number contents value =>
          exact .inl ⟨_, value, rfl, rfl, rfl, by simp only [Cell.resolve, found, Cell.value?]⟩
      | string contents => exact .inr ⟨.text, .text found, by simp only [Cell.resolve, found]⟩
      | formula contents tree result =>
          cases result with
          | value value =>
              exact .inl ⟨_, value, rfl, rfl, rfl, by simp only [Cell.resolve, found, Cell.value?]⟩
          | pending =>
              exact .inr ⟨.inError, .inError found rfl, by simp only [Cell.resolve, found, Cell.value?]⟩
          | failed failure =>
              exact .inr ⟨.inError, .inError found rfl, by simp only [Cell.resolve, found, Cell.value?]⟩

/-- What an evaluation has met: nothing that fails, or the fault that it ended with. -/
inductive Met (sheet : Sheet) (hazards : List Hazard) : Except Fault Double → Prop where
  | passed {value : Double} : (∀ hazard ∈ hazards, Passes sheet hazard) → Met sheet hazards (.ok value)
  | failed {fault : Fault} : FirstFault sheet fault hazards → Met sheet hazards (.error fault)

theorem Met.passes {hazards : List Hazard} {value : Double} (met : Met sheet hazards (.ok value)) :
    ∀ hazard ∈ hazards, Passes sheet hazard := by
  cases met with
  | passed passes => exact passes

theorem Met.firstFault {hazards : List Hazard} (met : Met sheet hazards (.error fault)) :
    FirstFault sheet fault hazards := by
  cases met with
  | failed first => exact first

theorem Met.behind {outcome : Except Fault Double} (passes : ∀ hazard ∈ before, Passes sheet hazard)
    (met : Met sheet after outcome) : Met sheet (before ++ after) outcome := by
  cases met with
  | passed rest => exact .passed (List.forall_mem_append.2 ⟨passes, rest⟩)
  | failed first => exact .failed (first.behind passes)

private theorem met_apply {op : Operator} {right : Formula} {rightValue : Double}
    (leftValue : Double) (divisor : sheet.meaning right = .ok rightValue) :
    Met sheet (if op = .div then [.divide right] else []) (Formula.apply op leftValue rightValue) := by
  by_cases divides : op = .div
  · subst op
    rw [if_pos rfl]
    cases zero : rightValue.isZero with
    | true =>
        rw [Formula.apply_of_div_by_zero leftValue zero]
        exact .failed (.here (.divide divisor zero))
    | false =>
        rw [Formula.apply_of_harmless leftValue (by simp [zero])]
        exact .passed (List.forall_mem_singleton.2 (.divide divisor zero))
  · rw [if_neg divides, Formula.apply_of_harmless leftValue fun both => divides both.1]
    exact .passed nofun

/-- Evaluation goes through the hazards of a formula from left to right. -/
theorem met_meaning (sheet : Sheet) (tree : Formula) :
    Met sheet tree.hazards (sheet.meaning tree) := by
  induction tree with
  | number value => exact .passed nofun
  | reference id =>
      change Met sheet [.read id] (Cell.resolve sheet.cells id)
      rcases resolve_cases sheet id with ⟨cell, value, found, sound, holds, gives⟩ | ⟨why, state, gives⟩
      · rw [gives]
        exact .passed (List.forall_mem_singleton.2 (.read found sound holds))
      · rw [gives]
        exact .failed (.here (.read state))
  | negate operand ih =>
      rw [meaning, Formula.meaning, ← meaning, Formula.hazards]
      cases outcome : sheet.meaning operand with
      | error fault => exact .failed (outcome ▸ ih).firstFault
      | ok value => exact .passed (outcome ▸ ih).passes
  | binary op left right leftIH rightIH =>
      rw [meaning, Formula.meaning, ← meaning, ← meaning, Formula.hazards_binary]
      cases leftOutcome : sheet.meaning left with
      | error fault => exact .failed (leftOutcome ▸ leftIH).firstFault.append
      | ok leftValue =>
          refine .behind (leftOutcome ▸ leftIH).passes ?_
          cases rightOutcome : sheet.meaning right with
          | error fault => exact .failed (rightOutcome ▸ rightIH).firstFault.append
          | ok rightValue =>
              exact .behind (rightOutcome ▸ rightIH).passes (met_apply leftValue rightOutcome)

end Hazards

/-! ### Messages -/

/-- The message of the cell gives another cell as the reason for its error. -/
def Names (sheet : Sheet) (id named : String) : Prop :=
  ∃ cell why, sheet.cells.get? id = some cell ∧
    cell.message? = some (Fault.unusable named why).message

/-- Where an error comes from in the end. -/
inductive RootCause (sheet : Sheet) (id : String) : Prop where
  | empty : sheet.cells.get? id = none → RootCause sheet id
  | text {contents : String} : sheet.cells.get? id = some (.string contents) → RootCause sheet id
  | division {contents : String} {tree : Formula} {result : Result} :
      sheet.cells.get? id = some (.formula contents tree result) →
      (Cell.formula contents tree result).message? = some Fault.divisionByZero.message →
      RootCause sheet id

/-- Whatever cells are named one after the other from here on, after finitely many of them
there is one that an error comes from. -/
inductive LeadsToCause (sheet : Sheet) : String → Prop where
  | here {id : String} : RootCause sheet id → LeadsToCause sheet id
  | further {id : String} : (∃ next, Names sheet id next) →
      (∀ next, Names sheet id next → LeadsToCause sheet next) → LeadsToCause sheet id

/-- The message tells what went wrong first when the formula was evaluated from left to right. -/
inductive Explains (sheet : Sheet) (tree : Formula) (message : String) : Prop where
  | division : message = Fault.divisionByZero.message →
      FirstFault sheet .divisionByZero tree.hazards → Explains sheet tree message
  | reference {named : String} {why : Unusable} :
      message = (Fault.unusable named why).message → tree.Mentions named →
      Condition sheet named why → FirstFault sheet (.unusable named why) tree.hazards →
      Explains sheet tree message

/-- What the errors of a sheet and their messages tell. -/
structure ErrorsExplained (sheet : Sheet) : Prop where
  explained : ∀ id contents tree result,
    sheet.cells.get? id = some (.formula contents tree result) →
    (Cell.formula contents tree result).isError = true →
    ∃ message, (Cell.formula contents tree result).message? = some message ∧
      Explains sheet tree message
  silent : ∀ id cell, sheet.cells.get? id = some cell → cell.isError = false → cell.message? = none
  leadsToCause : ∀ id cell, sheet.cells.get? id = some cell → cell.isError = true →
    LeadsToCause sheet id
  /-- No error is masked on the way. -/
  unmasked : ∀ id source, TransGen sheet.RefersTo id source →
    sheet.cells.get? source = none ∨ (∃ contents, sheet.cells.get? source = some (.string contents)) →
    ∃ cell, sheet.cells.get? id = some cell ∧ cell.isError = true

theorem message_unusable (named : String) (why : Unusable) :
    (Fault.unusable named why).message = "Unusable reference " ++ (named ++ (": " ++ why.reason)) := by
  rw [← String.append_assoc, ← String.append_assoc]
  rfl

/-- The name can be read off the message: the reasons differ in their last characters. -/
theorem eq_of_message_unusable {named other : String} {why otherWhy : Unusable}
    (same : (Fault.unusable named why).message = (Fault.unusable other otherWhy).message) :
    named = other := by
  rw [message_unusable, message_unusable, String.append_right_inj] at same
  have ends := congrArg (List.getLast? ∘ String.toList) same
  have reasons : why = otherWhy := by
    cases why <;> cases otherWhy <;> simp [Unusable.reason] at ends ⊢
  rwa [reasons, String.append_left_inj] at same

section Settled

variable {sheet : Sheet} {id contents : String} {tree : Formula} {result : Result}

theorem FirstFault.explains {fault : Fault} (first : FirstFault sheet fault tree.hazards) :
    Explains sheet tree fault.message := by
  obtain ⟨hazard, member, fails⟩ := first.exists_fails
  cases fails with
  | read state => exact .reference rfl (Formula.read_mem_hazards_iff.1 member) state first
  | divide => exact .division rfl first

variable (settled : Settled sheet)

include settled

/-- A formula has either a value or a message, and a message tells what went wrong. -/
theorem Settled.formula_cases
    (found : sheet.cells.get? id = some (.formula contents tree result)) :
    ((∀ hazard ∈ tree.hazards, Passes sheet hazard) ∧
      (Cell.formula contents tree result).isError = false ∧
      (Cell.formula contents tree result).message? = none) ∨
    ∃ message, (Cell.formula contents tree result).isError = true ∧
      (Cell.formula contents tree result).message? = some message ∧ Explains sheet tree message := by
  have met := met_meaning sheet tree
  rw [settled.result_eq found]
  cases outcome : sheet.meaning tree with
  | ok value => exact .inl ⟨(outcome ▸ met).passes, rfl, rfl⟩
  | error fault => exact .inr ⟨_, rfl, rfl, (outcome ▸ met).firstFault.explains⟩

theorem Settled.explained (found : sheet.cells.get? id = some (.formula contents tree result))
    (wrong : (Cell.formula contents tree result).isError = true) :
    ∃ message, (Cell.formula contents tree result).message? = some message ∧
      Explains sheet tree message := by
  rcases settled.formula_cases found with ⟨_, sound, _⟩ | ⟨message, _, shown, explains⟩
  · rw [sound] at wrong
    cases wrong
  · exact ⟨message, shown, explains⟩

theorem Settled.silent {cell : Cell} (found : sheet.cells.get? id = some cell)
    (sound : cell.isError = false) : cell.message? = none := by
  cases cell with
  | number => rfl
  | string => rfl
  | formula contents tree result =>
      rcases settled.formula_cases found with ⟨_, _, none⟩ | ⟨_, wrong, _⟩
      · exact none
      · rw [wrong] at sound
        cases sound

/-- Named cells are read by the cell that names them, so without a cycle they come to an end. -/
theorem Settled.leadsToCause {cell : Cell} (found : sheet.cells.get? id = some cell)
    (wrong : cell.isError = true) : LeadsToCause sheet id := by
  induction id using settled.acyclic.wellFounded.induction generalizing cell with
  | _ id ih =>
      cases cell with
      | number => cases wrong
      | string => cases wrong
      | formula contents tree result =>
          obtain ⟨message, shown, explains⟩ := settled.explained found wrong
          cases explains with
          | division same => exact .here (.division found (same ▸ shown))
          | @reference named why same mentioned state =>
              refine .further ⟨named, _, why, found, same ▸ shown⟩ fun next names => ?_
              obtain ⟨_, otherWhy, again, other⟩ := names
              rw [found, Option.some.injEq] at again
              rw [← again, shown, Option.some.injEq, same] at other
              obtain rfl := eq_of_message_unusable other
              cases state with
              | empty missing => exact .here (.empty missing)
              | text stored => exact .here (.text stored)
              | inError stored alsoWrong =>
                  refine ih named ?_ stored alsoWrong
                  rw [Links.Reads, settled.aligned]
                  exact mem_referencesIn_iff.2 ⟨contents, tree, result, found, mentioned⟩

/-- A formula that mentions an unusable cell cannot get past it. -/
theorem Settled.inError_of_refersTo {source : String} {why : Unusable}
    (refers : sheet.RefersTo id source) (state : Condition sheet source why) :
    Condition sheet id .inError := by
  obtain ⟨contents, tree, result, found, mentioned⟩ := refers
  rcases settled.formula_cases found with ⟨passes, _⟩ | ⟨_, wrong, _⟩
  · cases passes _ (Formula.read_mem_hazards_iff.2 mentioned) with
    | read stored sound holds =>
        cases state with
        | empty missing =>
            rw [missing] at stored
            cases stored
        | text text =>
            rw [text] at stored
            cases stored
            cases holds
        | inError other alsoWrong =>
            rw [other] at stored
            cases stored
            rw [sound] at alsoWrong
            cases alsoWrong
  · exact .inError found wrong

theorem Settled.inError_of_reads {source : String} {why : Unusable}
    (reads : TransGen sheet.RefersTo id source) (state : Condition sheet source why) :
    Condition sheet id .inError := by
  induction reads using TransGen.head_induction_on with
  | single refers => exact settled.inError_of_refersTo refers state
  | head refers _ ih => exact settled.inError_of_refersTo refers ih

theorem Settled.unmasked {source : String} (reads : TransGen sheet.RefersTo id source)
    (unusable : sheet.cells.get? source = none ∨
      ∃ contents, sheet.cells.get? source = some (.string contents)) :
    ∃ cell, sheet.cells.get? id = some cell ∧ cell.isError = true := by
  have inError : Condition sheet id .inError := by
    rcases unusable with missing | ⟨contents, text⟩
    · exact settled.inError_of_reads reads (.empty missing)
    · exact settled.inError_of_reads reads (.text text)
  cases inError with
  | inError found wrong => exact ⟨_, found, wrong⟩

end Settled

/-- After any edits, each message tells what goes wrong first as the cells now stand, messages
lead to a cause, and no error is masked. -/
theorem errorsExplained_ofEdits (edits : List Edit) : ErrorsExplained (ofEdits edits) where
  explained _ _ _ _ := (settled_ofEdits edits).explained
  silent _ _ := (settled_ofEdits edits).silent
  leadsToCause _ _ := (settled_ofEdits edits).leadsToCause
  unmasked _ _ := (settled_ofEdits edits).unmasked

end Sheet

end Spreadsheet
