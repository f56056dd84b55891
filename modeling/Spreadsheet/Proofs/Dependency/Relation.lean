import Mathlib.Logic.Relation
import Spreadsheet.Dependency.Links
import Spreadsheet.Proofs.Collection.IdSet
import Spreadsheet.Proofs.Collection.Table

/-! The relation that links record, chains of it, and how long chains can be. -/

set_option autoImplicit false

namespace Spreadsheet

open Relation

/-- Chains of steps from a place visit fewer places than the bound says. -/
def EndsWithin (step : String → String → Prop) : Nat → String → Prop
  | 0, _ => False
  | bound + 1, place => ∀ next, step place next → EndsWithin step bound next

section Steps

variable {step other : String → String → Prop}

private theorem endsWithin_of_path {starts : List String}
    (listed : ∀ place next, step place next → place ∈ starts)
    (acyclic : ∀ place, ¬ TransGen step place place) (bound : Nat) (path : List String)
    (place : String) (unique : path.Nodup) (included : path ⊆ starts)
    (leads : ∀ earlier ∈ path, TransGen step earlier place)
    (room : starts.length < path.length + bound) : EndsWithin step bound place := by
  induction bound generalizing path place with
  | zero =>
      have short := unique.length_le_of_subset included
      omega
  | succ bound ih =>
      intro next taken
      have fresh : place ∉ path := fun member => acyclic place (leads place member)
      refine ih (place :: path) next (List.nodup_cons.2 ⟨fresh, unique⟩)
        (List.cons_subset.2 ⟨listed place next taken, included⟩) ?_
        (by rw [List.length_cons]; omega)
      intro earlier member
      rcases List.mem_cons.1 member with rfl | before
      · exact .single taken
      · exact (leads earlier before).tail taken

/-- A chain without repetition visits each place that has a step at most once. -/
theorem endsWithin_of_acyclic {starts : List String}
    (listed : ∀ place next, step place next → place ∈ starts)
    (acyclic : ∀ place, ¬ TransGen step place place) (place : String) :
    EndsWithin step (starts.length + 1) place :=
  endsWithin_of_path listed acyclic _ [] place .nil (by simp) (by simp)
    (by rw [List.length_nil]; omega)

private theorem EndsWithin.acc {bound : Nat} {place : String} (ends : EndsWithin step bound place) :
    Acc (fun next previous => step previous next) place := by
  induction bound generalizing place with
  | zero => exact ends.elim
  | succ bound ih => exact ⟨place, fun next taken => ih (ends next taken)⟩

/-- The way to a target uses no step out of the target. -/
theorem ReflTransGen.of_agree {place target : String}
    (agree : ∀ here, here ≠ target → ∀ next, step here next → other here next)
    (way : ReflTransGen step place target) : ReflTransGen other place target := by
  induction way using ReflTransGen.head_induction_on with
  | refl => exact .refl
  | @head here next taken _ ih =>
      by_cases arrived : here = target
      · exact arrived ▸ .refl
      · exact ih.head (agree here arrived next taken)

/-- A chain that never leaves the origin is a chain of the other relation; any other
chain passes through the origin. -/
theorem TransGen.through_or_avoid {origin first last : String}
    (agree : ∀ here, here ≠ origin → ∀ next, step here next → other here next)
    (way : TransGen step first last) :
    TransGen other first last ∨ ReflTransGen step first origin ∧ TransGen step origin last := by
  induction way with
  | @single last taken =>
      by_cases start : first = origin
      · subst first
        exact .inr ⟨.refl, .single taken⟩
      · exact .inl (.single (agree first start last taken))
  | @tail here last before taken ih =>
      rcases ih with avoiding | ⟨reached, onward⟩
      · by_cases start : here = origin
        · subst here
          exact .inr ⟨before.to_reflTransGen, .single taken⟩
        · exact .inl (avoiding.tail (agree here start last taken))
      · exact .inr ⟨reached, onward.tail taken⟩

end Steps

namespace Links

/-- The reader's row names the cell. -/
def Reads (links : Links) (reader cell : String) : Prop := cell ∈ links.sourcesOf reader

/-- The reader reads from the cell directly or through others. -/
abbrev DependsOn (links : Links) : String → String → Prop := TransGen links.Reads

/-- No cell reads from itself, directly or through others. -/
def Acyclic (links : Links) : Prop := ∀ cell, ¬ links.DependsOn cell cell

theorem Reads.mem_keys {links : Links} {reader cell : String} (reads : links.Reads reader cell) :
    reader ∈ links.sources.keys := by
  cases row : links.sources.get? reader with
  | none =>
      rw [Reads, sourcesOf, row] at reads
      exact absurd reads (IdSet.not_mem_empty cell)
  | some cells => exact Table.mem_keys_iff.2 ⟨cells, row⟩

theorem Acyclic.wellFounded {links : Links} (acyclic : links.Acyclic) :
    WellFounded fun cell reader => links.Reads reader cell :=
  ⟨fun cell => (endsWithin_of_acyclic (fun _ _ reads => reads.mem_keys) acyclic cell).acc⟩

end Links

end Spreadsheet
