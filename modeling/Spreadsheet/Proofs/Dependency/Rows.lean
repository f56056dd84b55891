import Spreadsheet.Proofs.Dependency.Relation

/-! The two directions of links under removal and linking of a row: they stay inverse
to each other, and neither holds an empty row. -/

set_option autoImplicit false

namespace Spreadsheet.Links

def NoEmptyRow (rows : Table String IdSet) : Prop :=
  ∀ key row, rows.get? key = some row → row ≠ ∅

/-- Both directions tell the same links, and rows without elements are not stored. -/
structure Consistent (links : Links) : Prop where
  inverse : ∀ reader cell, cell ∈ links.sourcesOf reader ↔ reader ∈ links.readersOf cell
  sources : NoEmptyRow links.sources
  readers : NoEmptyRow links.readers

/-- The same rows in both directions; the order in which they are kept does not count. -/
def SameRows (first second : Links) : Prop :=
  ∀ cell, first.sources.get? cell = second.sources.get? cell ∧
    first.readers.get? cell = second.readers.get? cell

theorem SameRows.symm {first second : Links} (same : SameRows first second) :
    SameRows second first :=
  fun cell => ⟨(same cell).1.symm, (same cell).2.symm⟩

theorem SameRows.sourcesOf {first second : Links} (same : SameRows first second) (cell : String) :
    first.sourcesOf cell = second.sourcesOf cell := by
  simp only [Links.sourcesOf, (same cell).1]

theorem SameRows.readersOf {first second : Links} (same : SameRows first second) (cell : String) :
    first.readersOf cell = second.readersOf cell := by
  simp only [Links.readersOf, (same cell).2]

theorem SameRows.reads {first second : Links} (same : SameRows first second) :
    first.Reads = second.Reads := by
  funext reader cell
  simp only [Reads, same.sourcesOf reader]

theorem SameRows.consistent {first second : Links} (same : SameRows first second)
    (consistent : Consistent first) : Consistent second where
  inverse reader cell := by
    rw [← same.sourcesOf, ← same.readersOf]
    exact consistent.inverse reader cell
  sources key row stored := consistent.sources key row ((same key).1.trans stored)
  readers key row stored := consistent.readers key row ((same key).2.trans stored)

private theorem NoEmptyRow.get?_eq_some_iff {rows : Table String IdSet} (noEmpty : NoEmptyRow rows)
    {key : String} {row : IdSet} :
    rows.get? key = some row ↔ row ≠ ∅ ∧ (rows.get? key).getD ∅ = row := by
  constructor
  · intro stored
    rw [stored]
    exact ⟨noEmpty key row stored, rfl⟩
  · intro occupied
    obtain ⟨filled, rfl⟩ := occupied
    cases stored : rows.get? key with
    | none =>
        rw [stored] at filled
        exact absurd rfl filled
    | some row => rfl

private theorem get?_eq_of_row_eq {first second : Table String IdSet} {key : String}
    (firstRows : NoEmptyRow first) (secondRows : NoEmptyRow second)
    (same : (first.get? key).getD ∅ = (second.get? key).getD ∅) :
    first.get? key = second.get? key := by
  refine Option.ext fun row => ?_
  rw [firstRows.get?_eq_some_iff, secondRows.get?_eq_some_iff, same]

theorem Consistent.sources_eq_some_iff {links : Links} (consistent : Consistent links)
    {cell : String} {row : IdSet} :
    links.sources.get? cell = some row ↔ row ≠ ∅ ∧ links.sourcesOf cell = row :=
  consistent.sources.get?_eq_some_iff

theorem Consistent.readers_eq_some_iff {links : Links} (consistent : Consistent links)
    {cell : String} {row : IdSet} :
    links.readers.get? cell = some row ↔ row ≠ ∅ ∧ links.readersOf cell = row :=
  consistent.readers.get?_eq_some_iff

/-- Consistent links are known from the sources of every cell. -/
theorem Consistent.sameRows {first second : Links} (firstHolds : Consistent first)
    (secondHolds : Consistent second)
    (same : ∀ cell, first.sourcesOf cell = second.sourcesOf cell) : SameRows first second := by
  intro cell
  refine ⟨get?_eq_of_row_eq firstHolds.sources secondHolds.sources (same cell),
    get?_eq_of_row_eq firstHolds.readers secondHolds.readers (IdSet.ext ?_)⟩
  intro reader
  change reader ∈ first.readersOf cell ↔ reader ∈ second.readersOf cell
  rw [← firstHolds.inverse, ← secondHolds.inverse, same]

theorem consistent_empty : Consistent ∅ where
  inverse reader cell := iff_of_false (IdSet.not_mem_empty cell) (IdSet.not_mem_empty reader)
  sources key row stored := by cases stored
  readers key row stored := by cases stored

theorem acyclic_empty : Acyclic ∅ := by
  intro cell depends
  obtain ⟨_, reads, _⟩ := Relation.TransGen.head'_iff.1 depends
  exact IdSet.not_mem_empty _ reads

/-! ### Dropping a reader -/

private theorem mem_row_dropReader {reader cell key id : String} {rows : Table String IdSet} :
    id ∈ ((dropReader reader rows cell).get? key).getD ∅ ↔
      id ∈ (rows.get? key).getD ∅ ∧ ¬ (key = cell ∧ id = reader) := by
  unfold dropReader
  cases stored : rows.get? cell with
  | none =>
      by_cases here : key = cell
      · subst key
        simp [stored]
      · simp [here]
  | some readers =>
      by_cases here : key = cell
      · subst key
        by_cases last : (readers.erase reader).isEmpty = true
        · have gone := IdSet.eq_empty_iff.1 (IdSet.isEmpty_iff.1 last) id
          simpa [last, stored] using gone
        · simp [last, stored]
      · by_cases last : (readers.erase reader).isEmpty = true <;> simp [last, here]

private theorem mem_row_foldl_dropReader {reader key id : String} {cells : List String}
    {rows : Table String IdSet} :
    id ∈ ((cells.foldl (dropReader reader) rows).get? key).getD ∅ ↔
      id ∈ (rows.get? key).getD ∅ ∧ ¬ (key ∈ cells ∧ id = reader) := by
  induction cells generalizing rows with
  | nil => simp
  | cons cell rest ih =>
      rw [List.foldl_cons, ih, mem_row_dropReader, List.mem_cons]
      tauto

private theorem noEmptyRow_dropReader {reader cell : String} {rows : Table String IdSet}
    (noEmpty : NoEmptyRow rows) : NoEmptyRow (dropReader reader rows cell) := by
  unfold dropReader
  cases found : rows.get? cell with
  | none => exact noEmpty
  | some readers =>
      intro key row stored
      dsimp only at stored
      split at stored
      · rw [Table.get?_erase] at stored
        split at stored
        · cases stored
        · exact noEmpty key row stored
      · rename_i remaining
        rw [Table.get?_set] at stored
        split at stored
        · cases stored
          exact fun blank => remaining (IdSet.isEmpty_iff.2 blank)
        · exact noEmpty key row stored

private theorem noEmptyRow_foldl_dropReader {reader : String} {cells : List String}
    {rows : Table String IdSet} (noEmpty : NoEmptyRow rows) :
    NoEmptyRow (cells.foldl (dropReader reader) rows) := by
  induction cells generalizing rows with
  | nil => exact noEmpty
  | cons cell rest ih => exact ih (noEmptyRow_dropReader noEmpty)

@[simp] theorem sourcesOf_remove (links : Links) (reader cell : String) :
    (links.remove reader).sourcesOf cell = if cell = reader then ∅ else links.sourcesOf cell := by
  simp only [sourcesOf, remove, Table.get?_erase]
  split <;> rfl

private theorem Consistent.mem_readersOf_remove {links : Links} (consistent : Consistent links)
    {reader cell id : String} :
    id ∈ (links.remove reader).readersOf cell ↔ id ∈ links.readersOf cell ∧ id ≠ reader := by
  have row : id ∈ (links.remove reader).readersOf cell ↔
      id ∈ links.readersOf cell ∧ ¬ (cell ∈ links.sourcesOf reader ∧ id = reader) :=
    mem_row_foldl_dropReader
  rw [row]
  constructor
  · intro left
    obtain ⟨member, kept⟩ := left
    refine ⟨member, fun same => kept ⟨?_, same⟩⟩
    exact (consistent.inverse reader cell).2 (same ▸ member)
  · intro left
    obtain ⟨member, different⟩ := left
    exact ⟨member, fun both => different both.2⟩

theorem Consistent.remove {links : Links} (consistent : Consistent links) (reader : String) :
    Consistent (links.remove reader) where
  inverse other cell := by
    rw [sourcesOf_remove, consistent.mem_readersOf_remove, ← consistent.inverse]
    by_cases same : other = reader <;> simp [same]
  sources key row stored := by
    rw [Links.remove, Table.get?_erase] at stored
    split at stored
    · cases stored
    · exact consistent.sources key row stored
  readers := noEmptyRow_foldl_dropReader consistent.readers

/-! ### Adding a row -/

private theorem mem_row_addReader {reader cell key id : String} {rows : Table String IdSet} :
    id ∈ ((addReader reader rows cell).get? key).getD ∅ ↔
      id ∈ (rows.get? key).getD ∅ ∨ key = cell ∧ id = reader := by
  unfold addReader
  by_cases here : key = cell
  · subst key
    simp [or_comm]
  · simp [here]

private theorem mem_row_foldl_addReader {reader key id : String} {cells : List String}
    {rows : Table String IdSet} :
    id ∈ ((cells.foldl (addReader reader) rows).get? key).getD ∅ ↔
      id ∈ (rows.get? key).getD ∅ ∨ key ∈ cells ∧ id = reader := by
  induction cells generalizing rows with
  | nil => simp
  | cons cell rest ih =>
      rw [List.foldl_cons, ih, mem_row_addReader, List.mem_cons]
      tauto

private theorem noEmptyRow_addReader {reader cell : String} {rows : Table String IdSet}
    (noEmpty : NoEmptyRow rows) : NoEmptyRow (addReader reader rows cell) := by
  intro key row stored
  rw [addReader, Table.get?_set] at stored
  split at stored
  · cases stored
    intro blank
    exact IdSet.eq_empty_iff.1 blank reader (IdSet.mem_insert.2 (.inl rfl))
  · exact noEmpty key row stored

private theorem noEmptyRow_foldl_addReader {reader : String} {cells : List String}
    {rows : Table String IdSet} (noEmpty : NoEmptyRow rows) :
    NoEmptyRow (cells.foldl (addReader reader) rows) := by
  induction cells generalizing rows with
  | nil => exact noEmpty
  | cons cell rest ih => exact ih (noEmptyRow_addReader noEmpty)

@[simp] theorem sourcesOf_link (links : Links) (reader cell : String) (cells : IdSet) :
    (links.link reader cells).sourcesOf cell =
      if cell = reader then cells else links.sourcesOf cell := by
  simp only [sourcesOf, link, Table.get?_set]
  split <;> rfl

private theorem mem_readersOf_link {links : Links} {reader cell id : String} {cells : IdSet} :
    id ∈ (links.link reader cells).readersOf cell ↔
      id ∈ links.readersOf cell ∨ cell ∈ cells ∧ id = reader :=
  mem_row_foldl_addReader

theorem Consistent.link {links : Links} (consistent : Consistent links) {reader : String}
    {cells : IdSet} (free : links.sourcesOf reader = ∅) (filled : cells ≠ ∅) :
    Consistent (links.link reader cells) where
  inverse other cell := by
    rw [sourcesOf_link, mem_readersOf_link, ← consistent.inverse]
    by_cases same : other = reader
    · subst other
      simp [free]
    · simp [same]
  sources key row stored := by
    rw [Links.link, Table.get?_set] at stored
    split at stored
    · cases stored
      exact filled
    · exact consistent.sources key row stored
  readers := noEmptyRow_foldl_addReader consistent.readers

end Spreadsheet.Links
