import Spreadsheet.Proofs.Sheet.History

/-! The links of a sheet are exactly the references of the formulas in its cells. -/

set_option autoImplicit false

namespace Spreadsheet.Sheet

/-- The links of a sheet tell what its formulas refer to, in both directions, and no
more. -/
structure LinksTellReferences (sheet : Sheet) : Prop where
  /-- A cell has a row of sources exactly if it holds a formula with references, and the
  row has these, whether or not there are cells behind them. -/
  sources : ∀ id row, sheet.links.sources.get? id = some row ↔
    ∃ contents tree result, sheet.cells.get? id = some (.formula contents tree result) ∧
      (∃ source, tree.Mentions source) ∧ ∀ source, source ∈ row ↔ tree.Mentions source
  /-- A cell has a row of readers exactly if it is in some row of sources, and the row
  has the cells of those rows. -/
  readers : ∀ id row, sheet.links.readers.get? id = some row ↔
    (∃ reader, sheet.links.Reads reader id) ∧
      ∀ reader, reader ∈ row ↔ sheet.links.Reads reader id
  noEmptySources : Links.NoEmptyRow sheet.links.sources
  noEmptyReaders : Links.NoEmptyRow sheet.links.readers
  acyclic : sheet.links.Acyclic

section Settled

variable {sheet : Sheet} {id : String} {row : IdSet}

private theorem Settled.sources_iff (settled : Settled sheet) :
    sheet.links.sources.get? id = some row ↔
      ∃ contents tree result, sheet.cells.get? id = some (.formula contents tree result) ∧
        (∃ source, tree.Mentions source) ∧ ∀ source, source ∈ row ↔ tree.Mentions source := by
  rw [settled.consistent.sources_eq_some_iff, settled.aligned]
  constructor
  · intro stored
    obtain ⟨filled, same⟩ := stored
    obtain ⟨source, member⟩ : ∃ source, source ∈ row := by
      by_contra none
      exact filled (IdSet.eq_empty_iff.2 fun source member => none ⟨source, member⟩)
    obtain ⟨contents, tree, result, found, mentioned⟩ := mem_referencesIn_iff.1 (same ▸ member)
    refine ⟨contents, tree, result, found, ⟨source, mentioned⟩, fun other => ?_⟩
    rw [← same, referencesIn_of_some found]
    exact Formula.mem_references_iff
  · intro formula
    obtain ⟨contents, tree, result, found, ⟨source, mentioned⟩, members⟩ := formula
    have same : tree.references = row := IdSet.ext fun other => by
      rw [Formula.mem_references_iff, members]
    refine ⟨fun blank => ?_, (referencesIn_of_some found).trans same⟩
    exact IdSet.eq_empty_iff.1 blank source ((members source).2 mentioned)

private theorem Settled.readers_iff (settled : Settled sheet) :
    sheet.links.readers.get? id = some row ↔
      (∃ reader, sheet.links.Reads reader id) ∧
        ∀ reader, reader ∈ row ↔ sheet.links.Reads reader id := by
  have inverse : ∀ reader, reader ∈ sheet.links.readersOf id ↔ sheet.links.Reads reader id :=
    fun reader => (settled.consistent.inverse reader id).symm
  rw [settled.consistent.readers_eq_some_iff]
  constructor
  · intro stored
    obtain ⟨filled, rfl⟩ := stored
    refine ⟨?_, inverse⟩
    by_contra none
    exact filled (IdSet.eq_empty_iff.2 fun reader member => none ⟨reader, (inverse reader).1 member⟩)
  · intro read
    obtain ⟨⟨reader, reads⟩, members⟩ := read
    refine ⟨fun blank => ?_, IdSet.ext fun other => by rw [inverse, members]⟩
    exact IdSet.eq_empty_iff.1 blank reader ((members reader).2 reads)

end Settled

/-- After any edits, refused ones among them, the links tell what the formulas refer to. -/
theorem linksTellReferences_ofEdits (edits : List Edit) :
    LinksTellReferences (ofEdits edits) where
  sources _ _ := (settled_ofEdits edits).sources_iff
  readers _ _ := (settled_ofEdits edits).readers_iff
  noEmptySources := (settled_ofEdits edits).consistent.sources
  noEmptyReaders := (settled_ofEdits edits).consistent.readers
  acyclic := (settled_ofEdits edits).acyclic

end Spreadsheet.Sheet
