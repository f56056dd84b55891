import Spreadsheet.Proofs.Dependency.CycleSearch

/-! Giving a reader its row: when it is refused, what it leaves behind then, and what an
accepted row changes. -/

set_option autoImplicit false

namespace Spreadsheet.Links

open Relation

/-- A row of these cells for the reader would close a cycle. -/
def ClosesCycle (links : Links) (reader : String) (cells : IdSet) : Prop :=
  ∃ cell ∈ cells, cell = reader ∨ links.DependsOn cell reader

/-- The links with one row exchanged. -/
def exchange (links : Links) (reader : String) (cells : IdSet) : Links :=
  (links.remove reader).link reader cells

section Exchange

variable {links : Links} {reader : String} {cells : IdSet}

theorem sourcesOf_exchange (links : Links) (reader : String) (cells : IdSet) (cell : String) :
    (links.exchange reader cells).sourcesOf cell =
      if cell = reader then cells else links.sourcesOf cell := by
  rw [exchange, sourcesOf_link, sourcesOf_remove]
  split <;> rfl

theorem Consistent.exchange (consistent : Consistent links) (reader : String)
    (filled : cells ≠ ∅) : Consistent (links.exchange reader cells) :=
  (consistent.remove reader).link (by rw [sourcesOf_remove, if_pos rfl]) filled

private theorem reads_exchange_of_ne {here : String} (different : here ≠ reader) (next : String) :
    (links.exchange reader cells).Reads here next ↔ links.Reads here next := by
  rw [Reads, Reads, sourcesOf_exchange, if_neg different]

private theorem reads_exchange_self (next : String) :
    (links.exchange reader cells).Reads reader next ↔ next ∈ cells := by
  rw [Reads, sourcesOf_exchange, if_pos rfl]

/-- Ways to the reader use other rows only, so they are the same ways as before. -/
theorem leadsTo_exchange_iff {cell : String} :
    (links.exchange reader cells).LeadsTo cell reader ↔ links.LeadsTo cell reader := by
  constructor
  · exact ReflTransGen.of_agree fun here different next => (reads_exchange_of_ne different next).1
  · exact ReflTransGen.of_agree fun here different next => (reads_exchange_of_ne different next).2

theorem closesCycle_iff :
    links.ClosesCycle reader cells ↔ (links.exchange reader cells).DependsOn reader reader := by
  rw [DependsOn, TransGen.head'_iff]
  simp only [reads_exchange_self, leadsTo_exchange_iff]
  constructor
  · intro closes
    rcases closes with ⟨cell, member, rfl | depends⟩
    · exact ⟨cell, member, .refl⟩
    · exact ⟨cell, member, depends.to_reflTransGen⟩
  · intro cycle
    obtain ⟨cell, member, leads⟩ := cycle
    exact ⟨cell, member, (reflTransGen_iff_eq_or_transGen.1 leads).imp_left Eq.symm⟩

theorem acyclic_readsBefore_exchange (acyclic : links.Acyclic) (cell : String) :
    ¬ TransGen ((links.exchange reader cells).ReadsBefore reader) cell cell := by
  -- Away from the reader the rows are the old ones, which have no cycle.
  intro cycle
  refine acyclic cell (TransGen.mono ?_ cell cell cycle)
  intro here next step
  exact (reads_exchange_of_ne step.1 next).1 step.2

theorem acyclic_exchange_iff (acyclic : links.Acyclic) :
    (links.exchange reader cells).Acyclic ↔ ¬ links.ClosesCycle reader cells := by
  rw [closesCycle_iff]
  constructor
  · exact fun acyclicAfter => acyclicAfter reader
  · intro none cell cycle
    have agree : ∀ here, here ≠ reader → ∀ next,
        (links.exchange reader cells).Reads here next → links.Reads here next :=
      fun here different next => (reads_exchange_of_ne different next).1
    rcases TransGen.through_or_avoid agree cycle with avoiding | ⟨reached, onward⟩
    · exact acyclic cell avoiding
    · exact none (onward.trans_left reached)

theorem cycleThrough?_exchange_eq_none_iff (acyclic : links.Acyclic) :
    (links.exchange reader cells).cycleThrough? reader = none ↔
      ¬ links.ClosesCycle reader cells := by
  rw [closesCycle_iff]
  exact cycleThrough?_eq_none_iff (acyclic_readsBefore_exchange acyclic)

end Exchange

section Add

variable {links : Links} {reader : String} {cells : IdSet}

/-- The links after a refused row: the row that the reader had before is put back. -/
def restore (links : Links) (reader : String) (cells : IdSet) : Links :=
  match links.sources.get? reader with
  | none => (links.exchange reader cells).remove reader
  | some previous => ((links.exchange reader cells).remove reader).link reader previous

theorem add_of_ne_empty (filled : cells ≠ ∅) :
    links.add reader cells =
      match (links.exchange reader cells).cycleThrough? reader with
      | none => (links.exchange reader cells, none)
      | some cycle => (links.restore reader cells, some cycle) := by
  have occupied : cells.isEmpty = false := by
    rw [← Bool.not_eq_true, IdSet.isEmpty_iff]
    exact filled
  simp only [add, occupied, Bool.false_eq_true, ↓reduceIte, restore]
  cases links.sources.get? reader <;> rfl

theorem sameRows_restore (consistent : Consistent links) (filled : cells ≠ ∅) :
    SameRows (links.restore reader cells) links := by
  have removed := (consistent.exchange reader filled).remove reader
  have sources : ∀ cell, ((links.exchange reader cells).remove reader).sourcesOf cell =
      if cell = reader then ∅ else links.sourcesOf cell := by
    intro cell
    rw [sourcesOf_remove, sourcesOf_exchange]
    split <;> rfl
  unfold restore
  cases row : links.sources.get? reader with
  | none =>
      refine removed.sameRows consistent fun cell => ?_
      rw [sources]
      split
      · subst cell
        rw [sourcesOf, row]
        rfl
      · rfl
  | some previous =>
      have stored := consistent.sources reader previous row
      have linked := removed.link (by rw [sources, if_pos rfl]) stored
      refine linked.sameRows consistent fun cell => ?_
      rw [sourcesOf_link, sources]
      split
      · subst cell
        rw [sourcesOf, row]
        rfl
      · rfl

/-- A row that closes a cycle is refused, and every row is as it was. -/
theorem add_of_closesCycle (consistent : Consistent links) (acyclic : links.Acyclic)
    (closes : links.ClosesCycle reader cells) :
    ∃ path, (links.add reader cells).2 = some path ∧
      SameRows (links.add reader cells).1 links := by
  have filled : cells ≠ ∅ := by
    intro blank
    subst blank
    obtain ⟨cell, member, _⟩ := closes
    exact IdSet.not_mem_empty cell member
  rw [add_of_ne_empty filled]
  cases search : (links.exchange reader cells).cycleThrough? reader with
  | none => exact absurd closes ((cycleThrough?_exchange_eq_none_iff acyclic).1 search)
  | some path => exact ⟨path, rfl, sameRows_restore consistent filled⟩

structure Accepted (links : Links) (reader : String) (cells : IdSet) (after : Links) : Prop where
  consistent : Consistent after
  acyclic : after.Acyclic
  sourcesOf : ∀ cell, after.sourcesOf cell = if cell = reader then cells else links.sourcesOf cell

theorem accepted_remove (consistent : Consistent links) (acyclic : links.Acyclic) :
    Accepted links reader ∅ (links.remove reader) where
  consistent := consistent.remove reader
  acyclic cell cycle := by
    refine acyclic cell (TransGen.mono ?_ cell cell cycle)
    intro here next reads
    rw [Reads, sourcesOf_remove] at reads
    split at reads
    · exact absurd reads (IdSet.not_mem_empty next)
    · exact reads
  sourcesOf := sourcesOf_remove links reader

theorem add_of_not_closesCycle (consistent : Consistent links) (acyclic : links.Acyclic)
    (harmless : ¬ links.ClosesCycle reader cells) :
    (links.add reader cells).2 = none ∧
      Accepted links reader cells (links.add reader cells).1 := by
  by_cases blank : cells = ∅
  · subst blank
    exact ⟨rfl, accepted_remove consistent acyclic⟩
  · rw [add_of_ne_empty blank, (cycleThrough?_exchange_eq_none_iff acyclic).2 harmless]
    exact ⟨rfl, consistent.exchange reader blank, (acyclic_exchange_iff acyclic).2 harmless,
      sourcesOf_exchange links reader cells⟩

end Add

end Spreadsheet.Links
