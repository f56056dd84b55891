import Spreadsheet.Proofs.Dependency.Addition

/-! Links with the same rows answer every question alike and stay so, in whatever order
the rows came. -/

set_option autoImplicit false

namespace Spreadsheet.Links.SameRows

variable {first second third : Links}

theorem refl (links : Links) : SameRows links links := fun _ => ⟨rfl, rfl⟩

theorem trans (same : SameRows first second) (further : SameRows second third) :
    SameRows first third :=
  fun cell => ⟨(same cell).1.trans (further cell).1, (same cell).2.trans (further cell).2⟩

/-! ### Answers -/

section Answers

variable (same : SameRows first second)

include same

theorem size_sources : first.sources.size = second.sources.size :=
  Table.size_eq_of_get?_eq fun cell => (same cell).1

private theorem search_eq (origin : String) (depth : Nat) (cells exhausted : List String) :
    first.search origin depth cells exhausted = second.search origin depth cells exhausted := by
  induction depth generalizing cells exhausted with
  | zero => rfl
  | succ depth ih =>
      rw [search, search]
      refine congrFun (congrFun (congrArg (tryCells origin) (funext fun cell => funext fun known => ?_))
        cells) exhausted
      rw [ih, same.sourcesOf]

private theorem cycleThrough?_eq (origin : String) :
    first.cycleThrough? origin = second.cycleThrough? origin := by
  rw [cycleThrough?, cycleThrough?, same.search_eq, same.size_sources, same.sourcesOf]

private theorem reachFrom_eq (rounds : Nat) (pending : List String) (reached : IdSet) :
    first.reachFrom rounds pending reached = second.reachFrom rounds pending reached := by
  fun_induction first.reachFrom rounds pending reached with
  | case1 => rw [reachFrom]
  | case2 => simp only [reachFrom]
  | case3 rounds cell pending reached fresh ih =>
      rw [reachFrom, ← same.readersOf]
      exact ih

private theorem dependents_eq (origin : String) :
    first.dependents origin = second.dependents origin := by
  rw [dependents, dependents, same.reachFrom_eq, same.size_sources]

theorem ready_eq (among : IdSet) (placed : List String) :
    first.ready among placed = second.ready among placed := by
  funext cell
  rw [ready, ready, same.sourcesOf]

private theorem placeFrom_eq (among : IdSet) (rounds : Nat) (waiting placed : List String) :
    first.placeFrom among rounds waiting placed = second.placeFrom among rounds waiting placed := by
  induction rounds generalizing waiting placed with
  | zero => simp only [placeFrom]
  | succ rounds ih =>
      cases waiting with
      | nil => simp only [placeFrom]
      | cons cell waiting => simp only [placeFrom, same.readersOf, same.ready_eq, ih]

theorem updateOrder_eq (origin : String) :
    first.updateOrder origin = second.updateOrder origin := by
  simp only [updateOrder, same.dependents_eq, same.ready_eq, same.placeFrom_eq]

end Answers

/-! ### Changes -/

section Changes

variable (same : SameRows first second) (consistent : Consistent first)

include same consistent

theorem remove (reader : String) : SameRows (first.remove reader) (second.remove reader) := by
  have other := same.consistent consistent
  refine (consistent.remove reader).sameRows (other.remove reader) fun cell => ?_
  rw [sourcesOf_remove, sourcesOf_remove, same.sourcesOf]

theorem exchange (reader : String) {cells : IdSet} (filled : cells ≠ ∅) :
    SameRows (first.exchange reader cells) (second.exchange reader cells) := by
  have other := same.consistent consistent
  refine (consistent.exchange reader filled).sameRows (other.exchange reader filled) fun cell => ?_
  rw [sourcesOf_exchange, sourcesOf_exchange, same.sourcesOf]

/-- A row is taken by both or refused by both, with the same cycle. -/
theorem add (reader : String) (cells : IdSet) :
    (first.add reader cells).2 = (second.add reader cells).2 ∧
      SameRows (first.add reader cells).1 (second.add reader cells).1 := by
  by_cases blank : cells = ∅
  · subst blank
    exact ⟨rfl, same.remove consistent reader⟩
  · rw [add_of_ne_empty blank, add_of_ne_empty blank,
      (same.exchange consistent reader blank).cycleThrough?_eq]
    cases (second.exchange reader cells).cycleThrough? reader with
    | none => exact ⟨rfl, same.exchange consistent reader blank⟩
    | some cycle =>
        -- The row that is put back is the old one, the same on both sides.
        have restored : SameRows (second.restore reader cells) second :=
          sameRows_restore (same.consistent consistent) blank
        exact ⟨rfl, (sameRows_restore consistent blank).trans (same.trans restored.symm)⟩

end Changes

end Spreadsheet.Links.SameRows
