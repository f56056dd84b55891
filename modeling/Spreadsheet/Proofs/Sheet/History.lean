import Spreadsheet.Proofs.Dependency.Addition
import Spreadsheet.Proofs.Sheet.Refresh

/-! Edits, what one edit does to a sheet, and the invariant of every sheet that edits
lead to. -/

set_option autoImplicit false

namespace Spreadsheet

/-- What a user can ask of a sheet. A cell that is set without contents is cleared. -/
inductive Edit where
  | set (id : String) (contents : Option String)
  | delete (id : String)

namespace Edit

def id : Edit → String
  | set id _ => id
  | delete id => id

/-- The cell that the edit asks for; none if the old one is to go. -/
def cell? : Edit → Except ParseError (Option Cell)
  | set _ (some text) => Cell.ofText text
  | set _ none => .ok none
  | delete _ => .ok none

end Edit

namespace Sheet

/-- The sheet after an edit, and the answer to the edit. -/
def apply (sheet : Sheet) : Edit → Sheet × Except EditError (List String)
  | .set id (some text) => sheet.set id text
  | .set id none => sheet.delete id
  | .delete id => sheet.delete id

/-- The sheet after a list of edits on an empty one. Refused edits are among them. -/
def ofEdits (edits : List Edit) : Sheet :=
  edits.foldl (fun sheet edit => (sheet.apply edit).1) ∅

/-- The texts that the cells of a sheet were made from. -/
def texts (sheet : Sheet) (id : String) : Option String := (sheet.cells.get? id).map Cell.contents

/-- Links and cells tell the same references, without a cycle, and every cell holds what
its text and the other cells lead to. -/
structure Settled (sheet : Sheet) : Prop where
  consistent : sheet.links.Consistent
  acyclic : sheet.links.Acyclic
  aligned : ∀ id, sheet.links.sourcesOf id = referencesIn sheet.cells id
  made : ∀ id cell, sheet.cells.get? id = some cell →
    Cell.ofText cell.contents = .ok (some cell.unevaluated)
  current : ∀ id, UpToDate sheet.cells id

theorem settled_empty : Settled ∅ where
  consistent := Links.consistent_empty
  acyclic := Links.acyclic_empty
  aligned _ := rfl
  made id cell found := by cases found
  current _ := rfl

/-! ### A changed cell -/

/-- The sheet with another cell, or none, for one identifier, before its readers are
evaluated. -/
structure Changed (sheet : Sheet) (id : String) (base : Sheet) : Prop where
  accepted : sheet.links.Accepted id (referencesIn base.cells id) base.links
  others : ∀ other, other ≠ id → base.cells.get? other = sheet.cells.get? other
  made : ∀ cell, base.cells.get? id = some cell →
    Cell.ofText cell.contents = .ok (some cell.unevaluated)
  current : UpToDate base.cells id

section Changed

variable {sheet base : Sheet} {id : String}

theorem Changed.ordered (changed : Changed sheet id base) :
    base.links.IsUpdateOrder id (base.refreshReaders id).2 :=
  Links.updateOrder_spec changed.accepted.consistent changed.accepted.acyclic id

theorem Changed.sourcesOf (changed : Changed sheet id base) (settled : Settled sheet)
    (other : String) : base.links.sourcesOf other = referencesIn base.cells other := by
  rw [changed.accepted.sourcesOf]
  split
  · subst other
    rfl
  · rename_i different
    rw [settled.aligned, referencesIn, referencesIn, changed.others other different]

/-- Only readers of the changed cell can be out of date. -/
theorem Changed.upToDate (changed : Changed sheet id base) (settled : Settled sheet)
    {other : String} (outside : ¬ base.links.DependsOn other id) :
    UpToDate base.cells other := by
  by_cases same : other = id
  · exact same ▸ changed.current
  · refine (settled.current other).of_agree (changed.others other same) fun source member => ?_
    refine changed.others source fun reached => outside (.single ?_)
    subst source
    rw [Links.Reads, changed.sourcesOf settled, referencesIn, changed.others other same]
    exact member

theorem Settled.refreshReaders (settled : Settled sheet) (changed : Changed sheet id base) :
    Settled (base.refreshReaders id).1 where
  consistent := changed.accepted.consistent
  acyclic := changed.accepted.acyclic
  aligned other := by
    have same := sameFormulas_foldl_refresh (base.links.updateOrder id) base.cells
    exact (changed.sourcesOf settled other).trans (same.referencesIn_eq other).symm
  made other cell found := by
    have same := sameFormulas_foldl_refresh (base.links.updateOrder id) base.cells
    have before := same.cells other
    change (base.refreshReaders id).1.cells.get? other = some cell at found
    change ((base.refreshReaders id).1.cells.get? other).map Cell.unevaluated = _ at before
    rw [found] at before
    obtain ⟨old, stored, kept⟩ := Option.map_eq_some_iff.1 before.symm
    have made : Cell.ofText old.contents = .ok (some old.unevaluated) := by
      by_cases here : other = id
      · exact changed.made old (here ▸ stored)
      · exact settled.made other old (changed.others other here ▸ stored)
    rwa [← Cell.contents_unevaluated, ← kept, Cell.contents_unevaluated]
  current := by
    refine upToDate_foldl_refresh changed.ordered (changed.sourcesOf settled) fun other outside => ?_
    exact changed.upToDate settled fun depends => outside ((changed.ordered.mem_iff other).2 depends)

end Changed

/-! ### One edit -/

/-- What becomes of an edit: a refusal for one of three reasons, or a sheet on which
the readers of a changed cell are evaluated anew. -/
inductive Outcome (sheet : Sheet) (edit : Edit) :
    Sheet × Except EditError (List String) → Prop where
  | invalid : CellId.isValid edit.id = false →
      Outcome sheet edit (sheet, .error (.invalidId edit.id))
  | malformed {error : ParseError} : CellId.isValid edit.id = true → edit.cell? = .error error →
      Outcome sheet edit (sheet, .error (.badFormula error))
  | absent : CellId.isValid edit.id = true → edit.cell? = .ok none →
      sheet.cells.get? edit.id = none → Outcome sheet edit (sheet, .ok [])
  | cleared {old : Cell} {base : Sheet} : CellId.isValid edit.id = true → edit.cell? = .ok none →
      sheet.cells.get? edit.id = some old → base.cells = sheet.cells.erase edit.id →
      Changed sheet edit.id base →
      Outcome sheet edit ((base.refreshReaders edit.id).1, .ok (base.refreshReaders edit.id).2)
  | circular {cell : Cell} {links : Links} {path : List String} :
      CellId.isValid edit.id = true → edit.cell? = .ok (some cell) →
      sheet.links.ClosesCycle edit.id cell.references → links.SameRows sheet.links →
      Outcome sheet edit ({ sheet with links }, .error (.cycle path))
  | stored {cell : Cell} {base : Sheet} : CellId.isValid edit.id = true →
      edit.cell? = .ok (some cell) → ¬ sheet.links.ClosesCycle edit.id cell.references →
      base.cells = refresh (sheet.cells.set edit.id cell) edit.id → Changed sheet edit.id base →
      Outcome sheet edit ((base.refreshReaders edit.id).1, .ok (base.refreshReaders edit.id).2)

section Step

variable {sheet : Sheet}

private theorem changed_erase (settled : Settled sheet) (id : String) :
    Changed sheet id ⟨sheet.cells.erase id, sheet.links.remove id⟩ where
  accepted := by
    have blank : referencesIn (sheet.cells.erase id) id = ∅ :=
      referencesIn_of_none (by rw [Table.get?_erase, if_pos rfl])
    rw [blank]
    exact Links.accepted_remove settled.consistent settled.acyclic
  others other different := by rw [Table.get?_erase, if_neg different]
  made cell found := by
    rw [Table.get?_erase, if_pos rfl] at found
    cases found
  current := by
    rw [UpToDate, Table.get?_erase, if_pos rfl]
    rfl

private theorem delete_outcome (settled : Settled sheet) {edit : Edit}
    (clears : edit.cell? = .ok none) : Outcome sheet edit (sheet.delete edit.id) := by
  unfold delete
  cases valid : CellId.isValid edit.id with
  | false => exact .invalid valid
  | true =>
      cases present : sheet.cells.contains edit.id with
      | false => exact .absent valid clears (Table.contains_eq_false_iff.1 present)
      | true =>
          obtain ⟨old, found⟩ := Table.contains_iff.1 present
          exact .cleared valid clears found rfl (changed_erase settled edit.id)

private theorem changed_set (settled : Settled sheet) {id text : String} {cell : Cell}
    (made : Cell.ofText text = .ok (some cell))
    (harmless : ¬ sheet.links.ClosesCycle id cell.references) :
    Changed sheet id
      ⟨refresh (sheet.cells.set id cell) id, (sheet.links.add id cell.references).1⟩ where
  accepted := by
    have row : referencesIn (refresh (sheet.cells.set id cell) id) id = cell.references := by
      rw [(sameFormulas_refresh _ id).referencesIn_eq]
      exact referencesIn_of_some (by rw [Table.get?_set, if_pos rfl])
    rw [row]
    exact (Links.add_of_not_closesCycle settled.consistent settled.acyclic harmless).2
  others other different := by
    rw [get?_refresh, if_neg different, Table.get?_set, if_neg different]
  made evaluated found := by
    rw [get?_refresh, if_pos rfl, Table.get?_set, if_pos rfl] at found
    cases found
    rw [Cell.contents_evaluate, Cell.unevaluated_evaluate, Cell.ofText_contents made,
      (Cell.ofText_some made).2.1]
  current := by
    refine upToDate_refresh_self fun reads => harmless ⟨id, ?_, .inl rfl⟩
    rwa [referencesIn_of_some (by rw [Table.get?_set, if_pos rfl])] at reads

private theorem set_outcome (settled : Settled sheet) (id text : String) :
    Outcome sheet (.set id (some text)) (sheet.set id text) := by
  unfold set
  cases valid : CellId.isValid id with
  | false => exact .invalid valid
  | true =>
      cases made : Cell.ofText text with
      | error error => exact .malformed valid made
      | ok cell? =>
          cases cell? with
          | none =>
              have clears : (Edit.set id (some text)).cell? = .ok none := made
              exact delete_outcome settled clears
          | some cell =>
              simp only [Bool.not_true, Bool.false_eq_true, ↓reduceIte]
              -- Whether the links are taken is decided by the cycle alone.
              by_cases closes : sheet.links.ClosesCycle id cell.references
              · obtain ⟨path, refused, same⟩ :=
                  Links.add_of_closesCycle settled.consistent settled.acyclic closes
                cases added : sheet.links.add id cell.references with
                | mk links refusal =>
                    rw [added] at refused same
                    cases refused
                    exact .circular valid made closes same
              · have changed := changed_set settled made closes
                have accepted :=
                  (Links.add_of_not_closesCycle settled.consistent settled.acyclic closes).1
                cases added : sheet.links.add id cell.references with
                | mk links refusal =>
                    rw [added] at accepted changed
                    cases accepted
                    exact .stored valid made closes rfl changed

theorem outcome_apply (settled : Settled sheet) (edit : Edit) :
    Outcome sheet edit (sheet.apply edit) := by
  cases edit with
  | set id contents =>
      cases contents with
      | none => exact delete_outcome settled rfl
      | some text => exact set_outcome settled id text
  | delete id => exact delete_outcome settled rfl

/-- The new links of a refused row have the same rows in another order. -/
theorem Settled.of_sameRows (settled : Settled sheet) {links : Links}
    (same : links.SameRows sheet.links) : Settled { sheet with links } where
  consistent := same.symm.consistent settled.consistent
  acyclic := by
    change ∀ cell, ¬ Relation.TransGen links.Reads cell cell
    rw [same.reads]
    exact settled.acyclic
  aligned id := (same.sourcesOf id).trans (settled.aligned id)
  made := settled.made
  current := settled.current

theorem Settled.apply (settled : Settled sheet) (edit : Edit) : Settled (sheet.apply edit).1 := by
  have outcome := outcome_apply settled edit
  generalize sheet.apply edit = result at outcome
  cases outcome with
  | invalid => exact settled
  | malformed => exact settled
  | absent => exact settled
  | cleared _ _ _ _ changed => exact settled.refreshReaders changed
  | circular _ _ _ same => exact settled.of_sameRows same
  | stored _ _ _ _ changed => exact settled.refreshReaders changed

end Step

private theorem settled_foldl {sheet : Sheet} (settled : Settled sheet) (edits : List Edit) :
    Settled (edits.foldl (fun sheet edit => (sheet.apply edit).1) sheet) := by
  induction edits generalizing sheet with
  | nil => exact settled
  | cons edit rest ih => exact ih (settled.apply edit)

theorem settled_ofEdits (edits : List Edit) : Settled (ofEdits edits) :=
  settled_foldl settled_empty edits

end Sheet

end Spreadsheet
