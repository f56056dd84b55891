import Spreadsheet.Proofs.CellId
import Spreadsheet.Proofs.Sheet.Effect
import Spreadsheet.Proofs.Sheet.Recomputation

/-! The texts of a sheet after an edit, the order of its cells, and that settled sheets with the
same texts are the same but for the order. -/

set_option autoImplicit false

namespace Spreadsheet.Sheet

theorem trimmed_of_text? {id text stored : String}
    (given : (Edit.set id (some text)).text? = some stored) : stored = Cell.trimmed text := by
  change (some (Cell.trimmed text)).filter (· ≠ "") = some stored at given
  rw [Option.filter_eq_some_iff, Option.some.injEq] at given
  exact given.1.symm

section Outcome

variable {sheet base : Sheet} {edit : Edit} {updated : List String}
  {result : Sheet × Except EditError (List String)}

theorem Changed.texts_eq (changed : Changed sheet edit.id base)
    (text : base.texts edit.id = edit.text?) (other : String) :
    (base.refreshReaders edit.id).1.texts other =
      if other = edit.id then edit.text? else sheet.texts other := by
  have same := sameFormulas_foldl_refresh (base.links.updateOrder edit.id) base.cells
  refine (same.contents_eq other).trans ?_
  split
  · subst other
    exact text
  · rename_i different
    rw [changed.others other different]
    rfl

private theorem texts_of_erased (clears : edit.cell? = .ok none)
    (erased : base.cells = sheet.cells.erase edit.id) : base.texts edit.id = edit.text? := by
  rw [text?_of_clears clears, texts, erased, Table.get?_erase, if_pos rfl]
  rfl

private theorem texts_of_placed {cell : Cell} (makes : edit.cell? = .ok (some cell))
    (placed : base.cells = refresh (sheet.cells.set edit.id cell) edit.id) :
    base.texts edit.id = edit.text? := by
  rw [text?_of_makes makes, texts, placed, get?_refresh, if_pos rfl, Table.get?_set, if_pos rfl]
  exact congrArg some (Cell.contents_evaluate _ _)

variable (outcome : Outcome sheet edit result)

include outcome

private theorem Outcome.valid_of_ok (accepted : result.2 = .ok updated) :
    CellId.Valid edit.id.toList := by
  cases outcome with
  | invalid => cases accepted
  | malformed => cases accepted
  | absent valid => exact CellId.isValid_iff.1 valid
  | cleared valid => exact CellId.isValid_iff.1 valid
  | circular => cases accepted
  | stored valid => exact CellId.isValid_iff.1 valid

theorem Outcome.texts_of_ok (accepted : result.2 = .ok updated) (other : String) :
    result.1.texts other = if other = edit.id then edit.text? else sheet.texts other := by
  cases outcome with
  | invalid => cases accepted
  | malformed => cases accepted
  | absent _ clears missing =>
      split
      · subst other
        rw [text?_of_clears clears, texts, missing]
        rfl
      · rfl
  | cleared _ clears _ erased changed => exact changed.texts_eq (texts_of_erased clears erased) other
  | circular => cases accepted
  | stored _ makes _ placed changed => exact changed.texts_eq (texts_of_placed makes placed) other

private theorem Outcome.texts_of_error {error : EditError} (refused : result.2 = .error error) :
    result.1.texts = sheet.texts := by
  cases outcome with
  | invalid => rfl
  | malformed => rfl
  | absent => cases refused
  | cleared => cases refused
  | circular => rfl
  | stored => cases refused

/-- A new cell goes behind the others. -/
theorem Outcome.keys_of_new (accepted : result.2 = .ok updated) (filled : edit.text? ≠ none)
    (new : edit.id ∉ sheet.cells.keys) : result.1.cells.keys = sheet.cells.keys ++ [edit.id] := by
  cases outcome with
  | invalid => cases accepted
  | malformed => cases accepted
  | absent _ clears => exact absurd (text?_of_clears clears) filled
  | cleared _ clears => exact absurd (text?_of_clears clears) filled
  | circular => cases accepted
  | @stored cell base _ makes _ placed changed =>
      have same := sameFormulas_foldl_refresh (base.links.updateOrder edit.id) base.cells
      refine same.keys.trans ?_
      rw [placed, (sameFormulas_refresh _ _).keys, Table.keys_set, if_neg new]

end Outcome

theorem mem_keys_iff_texts {sheet : Sheet} {id : String} :
    id ∈ sheet.cells.keys ↔ sheet.texts id ≠ none := by
  rw [Table.mem_keys_iff, texts, Ne, Option.map_eq_none_iff, ← Ne, Option.ne_none_iff_exists']

/-! ### Identifiers -/

/-- Every cell has an identifier. -/
def Addressed (sheet : Sheet) : Prop := ∀ id ∈ sheet.cells.keys, CellId.Valid id.toList

private theorem addressed_empty : Addressed ∅ := by
  intro id member
  cases member

theorem Addressed.apply {sheet : Sheet} (addressed : Addressed sheet) (settled : Settled sheet)
    (edit : Edit) : Addressed (sheet.apply edit).1 := by
  have outcome := outcome_apply settled edit
  intro id member
  rw [mem_keys_iff_texts] at member
  cases answer : (sheet.apply edit).2 with
  | error error =>
      rw [outcome.texts_of_error answer, ← mem_keys_iff_texts] at member
      exact addressed id member
  | ok updated =>
      rw [outcome.texts_of_ok answer] at member
      split at member
      · rename_i here
        rw [here]
        exact outcome.valid_of_ok answer
      · rw [← mem_keys_iff_texts] at member
        exact addressed id member

private theorem addressed_foldl {sheet : Sheet} (addressed : Addressed sheet)
    (settled : Settled sheet) (edits : List Edit) :
    Addressed (edits.foldl (fun sheet edit => (sheet.apply edit).1) sheet) := by
  induction edits generalizing sheet with
  | nil => exact addressed
  | cons edit rest ih => exact ih (addressed.apply settled edit) (settled.apply edit)

theorem addressed_ofEdits (edits : List Edit) : Addressed (ofEdits edits) :=
  addressed_foldl addressed_empty settled_empty edits

section Settled

variable {first second : Sheet}

/-- The texts decide about the cells and the links. -/
theorem Settled.get?_eq_of_texts_eq (settled : Settled first) (other : Settled second)
    (same : first.texts = second.texts) (id : String) :
    first.cells.get? id = second.cells.get? id := by
  refine Option.ext fun cell => ?_
  rw [← settled.rebuilds_iff, ← other.rebuilds_iff, same]

theorem Settled.sameRows_of_texts_eq (settled : Settled first) (other : Settled second)
    (same : first.texts = second.texts) : first.links.SameRows second.links := by
  refine settled.consistent.sameRows other.consistent fun id => ?_
  rw [settled.aligned, other.aligned, referencesIn, referencesIn,
    settled.get?_eq_of_texts_eq other same]

end Settled

end Spreadsheet.Sheet
