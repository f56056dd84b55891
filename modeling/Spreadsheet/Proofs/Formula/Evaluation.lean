import Spreadsheet.Formula.Evaluation
import Spreadsheet.Proofs.Collection.IdSet

/-! The machine computes the meaning of a formula, and the meaning rests on the cells
that the formula mentions. -/

set_option autoImplicit false

namespace Spreadsheet.Formula

/-- A reference to the cell stands somewhere in the formula. -/
inductive Mentions (cell : String) : Formula → Prop where
  | reference : Mentions cell (.reference cell)
  | negate {operand : Formula} : Mentions cell operand → Mentions cell (.negate operand)
  | left {op : Operator} {left right : Formula} :
      Mentions cell left → Mentions cell (.binary op left right)
  | right {op : Operator} {left right : Formula} :
      Mentions cell right → Mentions cell (.binary op left right)

private theorem mem_referents_iff {cell : String} {tree : Formula} :
    cell ∈ tree.subtrees.filterMap referent? ↔ tree.Mentions cell := by
  induction tree with
  | number value =>
      simp only [subtrees, List.filterMap_cons, referent?, List.filterMap_nil, List.not_mem_nil,
        false_iff]
      intro mentions
      cases mentions
  | reference other =>
      simp only [subtrees, List.filterMap_cons, referent?, List.filterMap_nil,
        List.mem_singleton]
      constructor
      · intro same
        subst same
        exact .reference
      · intro mentions
        cases mentions
        rfl
  | negate operand ih =>
      simp only [subtrees, List.filterMap_cons, referent?, ih]
      constructor
      · exact .negate
      · intro mentions
        cases mentions with
        | negate inside => exact inside
  | binary op left right leftIH rightIH =>
      simp only [subtrees, List.filterMap_cons, referent?, List.filterMap_append,
        List.mem_append, leftIH, rightIH]
      constructor
      · intro inside
        rcases inside with inside | inside
        · exact .left inside
        · exact .right inside
      · intro mentions
        cases mentions with
        | left inside => exact .inl inside
        | right inside => exact .inr inside

theorem mem_references_iff {cell : String} {tree : Formula} :
    cell ∈ tree.references ↔ tree.Mentions cell := by
  rw [references, IdSet.mem_ofList, mem_referents_iff]

/-- Visiting a tree puts its value on the stack, or ends the run with its fault. -/
theorem run_visit (resolve : Resolver) (tree : Formula) (rest : List Task)
    (values : List Double) :
    run resolve (.visit tree :: rest) values =
      match tree.meaning resolve with
      | .ok value => run resolve rest (value :: values)
      | .error fault => .error (.faulty fault) := by
  induction tree generalizing rest values with
  | number value => rw [run, meaning]
  | reference cell =>
      cases found : resolve cell with
      | ok value => simp only [run, meaning, found]
      | error fault => simp only [run, meaning, found]
  | negate operand ih =>
      rw [run, ih, meaning]
      cases operand.meaning resolve with
      | error fault => rfl
      | ok value =>
          dsimp only
          rw [run]
          rfl
  | binary op left right leftIH rightIH =>
      rw [run, leftIH, meaning]
      cases left.meaning resolve with
      | error fault => rfl
      | ok leftValue =>
          dsimp only
          rw [rightIH]
          cases right.meaning resolve with
          | error fault => rfl
          | ok rightValue =>
              dsimp only
              rw [run]
              rfl

theorem evaluate_eq (tree : Formula) (resolve : Resolver) :
    tree.evaluate resolve = (tree.meaning resolve).mapError .faulty := by
  rw [evaluate, run_visit]
  cases tree.meaning resolve with
  | error fault => rfl
  | ok value =>
      dsimp only
      rw [run]
      rfl

theorem meaning_congr {resolve other : Resolver} {tree : Formula}
    (agree : ∀ cell, tree.Mentions cell → resolve cell = other cell) :
    tree.meaning resolve = tree.meaning other := by
  induction tree with
  | number value => rfl
  | reference cell => exact agree cell .reference
  | negate operand ih =>
      rw [meaning, meaning, ih fun cell inside => agree cell (.negate inside)]
  | binary op left right leftIH rightIH =>
      rw [meaning, meaning, leftIH fun cell inside => agree cell (.left inside),
        rightIH fun cell inside => agree cell (.right inside)]

end Spreadsheet.Formula
