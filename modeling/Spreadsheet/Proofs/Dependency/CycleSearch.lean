import Spreadsheet.Proofs.Dependency.Rows

/-! The search for a cycle finds one exactly if there is one. The bound on its depth is
no restriction as long as every cycle passes through the origin. -/

set_option autoImplicit false

namespace Spreadsheet.Links

open Relation

/-- A step of the search: it never goes on from the origin. -/
def ReadsBefore (links : Links) (origin reader cell : String) : Prop :=
  reader ≠ origin ∧ links.Reads reader cell

/-- There is a way through sources from the cell to the origin, possibly an empty one. -/
abbrev LeadsTo (links : Links) (cell origin : String) : Prop :=
  ReflTransGen links.Reads cell origin

theorem not_leadsTo_of_sources {links : Links} {cell origin : String} (different : cell ≠ origin)
    (noSource : ∀ source ∈ (links.sourcesOf cell).toList, ¬ links.LeadsTo source origin) :
    ¬ links.LeadsTo cell origin := by
  intro leads
  rcases ReflTransGen.cases_head_iff.1 leads with same | ⟨source, reads, further⟩
  · exact different same
  · exact noSource source reads further

theorem endsWithin_sources {links : Links} {origin cell : String} {depth : Nat}
    (bounded : EndsWithin (links.ReadsBefore origin) (depth + 1) cell) (different : cell ≠ origin) :
    ∀ source ∈ (links.sourcesOf cell).toList,
      EndsWithin (links.ReadsBefore origin) depth source :=
  fun source member => bounded source ⟨different, member⟩

/-- How a search from some cells comes to its answer. -/
inductive Searched (links : Links) (origin : String) :
    Nat → List String → List String → Option (List String) × List String → Prop where
  | empty {depth exhausted} : Searched links origin depth [] exhausted (none, exhausted)
  | bound {cell rest exhausted} :
      Searched links origin 0 (cell :: rest) exhausted (none, exhausted)
  | arrived {depth rest exhausted} :
      Searched links origin (depth + 1) (origin :: rest) exhausted (some [origin], exhausted)
  | known {depth cell rest exhausted answer} (different : cell ≠ origin)
      (known : cell ∈ exhausted) (others : Searched links origin (depth + 1) rest exhausted answer) :
      Searched links origin (depth + 1) (cell :: rest) exhausted answer
  | found {depth cell rest exhausted path more} (different : cell ≠ origin)
      (fresh : cell ∉ exhausted)
      (sources : Searched links origin depth (links.sourcesOf cell).toList exhausted
        (some path, more)) :
      Searched links origin (depth + 1) (cell :: rest) exhausted (some (cell :: path), more)
  | lost {depth cell rest exhausted more answer} (different : cell ≠ origin)
      (fresh : cell ∉ exhausted)
      (sources : Searched links origin depth (links.sourcesOf cell).toList exhausted (none, more))
      (others : Searched links origin (depth + 1) rest (cell :: more) answer) :
      Searched links origin (depth + 1) (cell :: rest) exhausted answer

theorem searched_search (links : Links) (origin : String) (depth : Nat)
    (cells exhausted : List String) :
    Searched links origin depth cells exhausted (links.search origin depth cells exhausted) := by
  induction depth generalizing cells exhausted with
  | zero => cases cells <;> constructor
  | succ depth deeper =>
      rw [search]
      induction cells generalizing exhausted with
      | nil => exact .empty
      | cons cell rest ih =>
          rw [tryCells]
          split
          · rename_i same
            exact same ▸ .arrived
          · rename_i different
            split
            · rename_i known
              exact .known different known (ih exhausted)
            · rename_i fresh
              have sources := deeper (links.sourcesOf cell).toList exhausted
              split <;> rename_i answered <;> rw [answered] at sources
              · exact .found different fresh sources
              · exact .lost different fresh sources (ih _)

private theorem Searched.leadsTo {links : Links} {origin : String} {depth : Nat}
    {cells exhausted : List String} {answer : Option (List String) × List String}
    (searched : Searched links origin depth cells exhausted answer) (found : answer.1 ≠ none) :
    ∃ cell ∈ cells, links.LeadsTo cell origin := by
  induction searched with
  | empty => exact absurd rfl found
  | bound => exact absurd rfl found
  | arrived => exact ⟨origin, List.mem_cons_self, .refl⟩
  | known _ _ _ ih =>
      obtain ⟨other, member, leads⟩ := ih found
      exact ⟨other, List.mem_cons_of_mem _ member, leads⟩
  | found _ _ _ ih =>
      obtain ⟨source, member, leads⟩ := ih (Option.some_ne_none _)
      exact ⟨_, List.mem_cons_self, leads.head member⟩
  | lost _ _ _ _ _ ih =>
      obtain ⟨other, member, leads⟩ := ih found
      exact ⟨other, List.mem_cons_of_mem _ member, leads⟩

/-- If the search finds nothing, no searched cell leads to the origin, and neither does
any cell that it took for exhausted. -/
theorem Searched.dead_ends {links : Links} {origin : String} {depth : Nat}
    {cells exhausted : List String} {answer : Option (List String) × List String}
    (searched : Searched links origin depth cells exhausted answer)
    (bounded : ∀ cell ∈ cells, EndsWithin (links.ReadsBefore origin) depth cell)
    (dead : ∀ cell ∈ exhausted, ¬ links.LeadsTo cell origin) (lost : answer.1 = none) :
    (∀ cell ∈ cells, ¬ links.LeadsTo cell origin) ∧
      ∀ cell ∈ answer.2, ¬ links.LeadsTo cell origin := by
  induction searched with
  | empty => exact ⟨by simp, dead⟩
  | bound => exact (bounded _ List.mem_cons_self).elim
  | arrived => cases lost
  | known _ known _ ih =>
      obtain ⟨none, stillDead⟩ :=
        ih (fun other member => bounded other (List.mem_cons_of_mem _ member)) dead lost
      exact ⟨List.forall_mem_cons.2 ⟨dead _ known, none⟩, stillDead⟩
  | found => cases lost
  | lost different _ _ _ sourcesIH othersIH =>
      -- The search went through the sources, found nothing, and gives the cell up for good.
      have deeper := endsWithin_sources (bounded _ List.mem_cons_self) different
      obtain ⟨noSource, moreDead⟩ := sourcesIH deeper dead rfl
      have cellDead := not_leadsTo_of_sources different noSource
      obtain ⟨none, stillDead⟩ :=
        othersIH (fun other member => bounded other (List.mem_cons_of_mem _ member))
          (List.forall_mem_cons.2 ⟨cellDead, moreDead⟩) lost
      exact ⟨List.forall_mem_cons.2 ⟨cellDead, none⟩, stillDead⟩

/-- No cell is met twice on a way that does not go on from the origin. -/
theorem endsWithin_size {links : Links} {origin : String}
    (acyclic : ∀ cell, ¬ TransGen (links.ReadsBefore origin) cell cell) (cell : String) :
    EndsWithin (links.ReadsBefore origin) (links.sources.size + 1) cell := by
  rw [← Table.length_keys]
  exact endsWithin_of_acyclic (fun _ _ step => step.2.mem_keys) acyclic cell

/-- Where every cycle passes through the origin, the search through its sources tells
whether there is one. -/
theorem cycleThrough?_eq_none_iff {links : Links} {origin : String}
    (acyclic : ∀ cell, ¬ TransGen (links.ReadsBefore origin) cell cell) :
    links.cycleThrough? origin = none ↔ ¬ links.DependsOn origin origin := by
  rw [cycleThrough?, Option.map_eq_none_iff, DependsOn, TransGen.head'_iff]
  constructor
  · rintro lost ⟨source, reads, leads⟩
    have bounded : ∀ cell ∈ (links.sourcesOf origin).toList,
        EndsWithin (links.ReadsBefore origin) (links.sources.size + 1) cell :=
      fun cell _ => endsWithin_size acyclic cell
    exact ((links.searched_search origin _ _ _).dead_ends bounded (by simp) lost).1 source reads
      leads
  · intro none
    rw [Option.eq_none_iff_forall_ne_some]
    intro path found
    obtain ⟨source, reads, leads⟩ :=
      (links.searched_search origin _ _ _).leadsTo (found ▸ Option.some_ne_none path)
    exact none ⟨source, reads, leads⟩

end Spreadsheet.Links
