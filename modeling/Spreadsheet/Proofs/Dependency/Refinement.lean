import Spreadsheet.Proofs.Dependency.Addition

/-! Links behave as a relation without cycles whose rows are exchanged one at a time: a row
that would close a cycle is refused, and every other row is taken as it is. -/

set_option autoImplicit false

namespace Spreadsheet

open Relation

/-- What can be asked of links. -/
inductive RowChange where
  | add (reader : String) (cells : IdSet)
  | remove (reader : String)

def RowChange.reader : RowChange → String
  | add reader _ => reader
  | remove reader => reader

/-- Who reads what, without regard to how it is stored. -/
abbrev ReadRelation := String → String → Prop

namespace ReadRelation

def Acyclic (relation : ReadRelation) : Prop := ∀ cell, ¬ TransGen relation cell cell

def withRow (relation : ReadRelation) (reader : String) (row : IdSet) : ReadRelation :=
  fun here cell => if here = reader then cell ∈ row else relation here cell

open Classical in
/-- The relation after a change, and whether the change was taken. -/
noncomputable def change (relation : ReadRelation) : RowChange → ReadRelation × Bool
  | .remove reader => (relation.withRow reader ∅, true)
  | .add reader cells =>
    if cells = ∅ then (relation.withRow reader ∅, true)
    else if (relation.withRow reader cells).Acyclic then (relation.withRow reader cells, true)
    else (relation, false)

/-- The relation after some changes, where nobody reads anything at first. -/
noncomputable def ofChanges (changes : List RowChange) : ReadRelation :=
  changes.foldl (fun relation change => (relation.change change).1) fun _ _ => False

section Change

variable {relation : ReadRelation} {reader : String} {cells : IdSet}

theorem change_add_of_acyclic (acyclic : (relation.withRow reader cells).Acyclic) :
    relation.change (.add reader cells) = (relation.withRow reader cells, true) := by
  by_cases blank : cells = ∅
  · rw [change, if_pos blank, blank]
  · rw [change, if_neg blank, if_pos acyclic]

theorem change_add_of_cyclic (filled : cells ≠ ∅)
    (cyclic : ¬ (relation.withRow reader cells).Acyclic) :
    relation.change (.add reader cells) = (relation, false) := by
  rw [change, if_neg filled, if_neg cyclic]

end Change

end ReadRelation

namespace Links

/-- The links after a change, with the cycle that it would have closed if it is refused. -/
def change (links : Links) : RowChange → Links × Option (List String)
  | .add reader cells => links.add reader cells
  | .remove reader => (links.remove reader, none)

/-- The links after some changes of empty ones. Refused changes are among them. -/
def ofChanges (changes : List RowChange) : Links :=
  changes.foldl (fun links change => (links.change change).1) ∅

/-- The links tell the relation in both directions, without empty rows. -/
structure Represents (links : Links) (relation : ReadRelation) : Prop where
  sources : ∀ reader cell, cell ∈ links.sourcesOf reader ↔ relation reader cell
  readers : ∀ cell reader, reader ∈ links.readersOf cell ↔ relation reader cell
  noEmptySources : NoEmptyRow links.sources
  noEmptyReaders : NoEmptyRow links.readers
  acyclic : relation.Acyclic

/-- A change is refused where the relation refuses it, and leaves the other rows alone. -/
structure Obeys (links : Links) (relation : ReadRelation) (change : RowChange) : Prop where
  answer : (links.change change).2 = none ↔ (relation.change change).2 = true
  refused : ∀ cycle, (links.change change).2 = some cycle → SameRows (links.change change).1 links
  taken : (links.change change).2 = none → ∀ other, other ≠ change.reader →
    (links.change change).1.sources.get? other = links.sources.get? other

section Represents

variable {links after : Links} {reader : String} {cells : IdSet}

theorem represents_reads (consistent : Consistent links) (acyclic : links.Acyclic) :
    Represents links links.Reads where
  sources _ _ := Iff.rfl
  readers cell reader := (consistent.inverse reader cell).symm
  noEmptySources := consistent.sources
  noEmptyReaders := consistent.readers
  acyclic := acyclic

theorem Represents.reads_eq {relation : ReadRelation} (represents : Represents links relation) :
    links.Reads = relation := by
  funext reader cell
  exact propext (represents.sources reader cell)

theorem Represents.consistent {relation : ReadRelation} (represents : Represents links relation) :
    Consistent links where
  inverse reader cell := by rw [represents.sources, represents.readers]
  sources := represents.noEmptySources
  readers := represents.noEmptyReaders

theorem Represents.linksAcyclic {relation : ReadRelation} (represents : Represents links relation) :
    links.Acyclic := by
  obtain rfl := represents.reads_eq
  exact represents.acyclic

private theorem reads_eq_withRow
    (rows : ∀ cell, after.sourcesOf cell = if cell = reader then cells else links.sourcesOf cell) :
    after.Reads = ReadRelation.withRow links.Reads reader cells := by
  funext here cell
  rw [Reads, rows, ReadRelation.withRow]
  split <;> rfl

theorem Accepted.represents (accepted : Accepted links reader cells after) :
    Represents after (ReadRelation.withRow links.Reads reader cells) := by
  rw [← reads_eq_withRow accepted.sourcesOf]
  exact represents_reads accepted.consistent accepted.acyclic

theorem Accepted.get?_eq (accepted : Accepted links reader cells after)
    (consistent : Consistent links) {other : String} (different : other ≠ reader) :
    after.sources.get? other = links.sources.get? other := by
  refine Option.ext fun row => ?_
  rw [accepted.consistent.sources_eq_some_iff, consistent.sources_eq_some_iff, accepted.sourcesOf,
    if_neg different]

theorem withRow_acyclic_iff (acyclic : links.Acyclic) :
    (ReadRelation.withRow links.Reads reader cells).Acyclic ↔ ¬ links.ClosesCycle reader cells := by
  rw [← reads_eq_withRow (sourcesOf_exchange links reader cells)]
  exact acyclic_exchange_iff acyclic

theorem ClosesCycle.ne_empty (closes : links.ClosesCycle reader cells) : cells ≠ ∅ := by
  rintro rfl
  obtain ⟨cell, member, _⟩ := closes
  exact IdSet.not_mem_empty cell member

/-- One change keeps links and relation together. -/
theorem change_spec (consistent : Consistent links) (acyclic : links.Acyclic)
    (change : RowChange) :
    Represents (links.change change).1 (ReadRelation.change links.Reads change).1 ∧
      Obeys links links.Reads change := by
  cases change with
  | remove reader =>
      have accepted : Accepted links reader ∅ (links.remove reader) :=
        accepted_remove consistent acyclic
      exact ⟨accepted.represents, by simp [Links.change, ReadRelation.change],
        by simp [Links.change], fun _ _ => accepted.get?_eq consistent⟩
  | add reader cells =>
      by_cases closes : links.ClosesCycle reader cells
      · have cyclic := mt (withRow_acyclic_iff acyclic).1 (not_not.2 closes)
        obtain ⟨cycle, refused, same⟩ := add_of_closesCycle consistent acyclic closes
        have unchanged := same.symm.consistent consistent
        have kept : Represents (links.add reader cells).1 links.Reads := by
          rw [← same.reads]
          exact represents_reads unchanged (by rw [Acyclic, DependsOn, same.reads]; exact acyclic)
        rw [ReadRelation.change_add_of_cyclic closes.ne_empty cyclic]
        refine ⟨kept, ?_, fun _ _ => same, ?_⟩
        · rw [ReadRelation.change_add_of_cyclic closes.ne_empty cyclic]
          simp [Links.change, refused]
        · simp [Links.change, refused]
      · obtain ⟨taken, accepted⟩ := add_of_not_closesCycle consistent acyclic closes
        have stillAcyclic := (withRow_acyclic_iff acyclic).2 closes
        rw [ReadRelation.change_add_of_acyclic stillAcyclic]
        refine ⟨accepted.represents, ?_, ?_, fun _ _ => accepted.get?_eq consistent⟩
        · rw [ReadRelation.change_add_of_acyclic stillAcyclic]
          simp [Links.change, taken]
        · simp [Links.change, taken]

end Represents

private theorem represents_foldl {links : Links} {relation : ReadRelation}
    (represents : Represents links relation) (changes : List RowChange) :
    Represents (changes.foldl (fun links change => (links.change change).1) links)
      (changes.foldl (fun relation change => (relation.change change).1) relation) := by
  induction changes generalizing links relation with
  | nil => exact represents
  | cons change rest ih =>
      obtain rfl := represents.reads_eq
      exact ih (change_spec represents.consistent represents.linksAcyclic change).1

private theorem represents_empty : Represents ∅ fun _ _ => False := by
  have none : (∅ : Links).Reads = fun _ _ => False := by
    funext reader cell
    exact propext (iff_of_false (IdSet.not_mem_empty cell) id)
  rw [← none]
  exact represents_reads consistent_empty acyclic_empty

/-- After any changes, refused ones among them, links stand for the relation that the same
changes lead to, and take and refuse the next change as the relation does. -/
theorem represents_ofChanges (changes : List RowChange) :
    Represents (ofChanges changes) (ReadRelation.ofChanges changes) ∧
      ∀ change, Obeys (ofChanges changes) (ReadRelation.ofChanges changes) change := by
  have represents : Represents (ofChanges changes) (ReadRelation.ofChanges changes) :=
    represents_foldl represents_empty changes
  refine ⟨represents, fun change => ?_⟩
  rw [← represents.reads_eq]
  exact (change_spec represents.consistent represents.linksAcyclic change).2

end Links

end Spreadsheet
