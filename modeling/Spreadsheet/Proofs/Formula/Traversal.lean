import Spreadsheet.Formula.Printer
import Spreadsheet.Proofs.Loop

/-! The trees below a tree with their depths, and the walk that meets them: a loop without a bound
over a stack of trees to visit. -/

set_option autoImplicit false

namespace Spreadsheet.Formula

def operands : Formula → List Formula
  | number _ => []
  | reference _ => []
  | negate operand => [operand]
  | binary _ left right => [left, right]

/-- Every subtree with its depth, in the order of `subtrees`. -/
def nodes : Formula → List (Nat × Formula)
  | number value => [(0, number value)]
  | reference cell => [(0, reference cell)]
  | negate operand => (0, negate operand) :: operand.nodes.map (Prod.map Nat.succ id)
  | binary op left right =>
    (0, binary op left right) :: (left.nodes ++ right.nodes).map (Prod.map Nat.succ id)

/-- Every subtree with its column, if the tree stands in some column and each operand `indent`
further to the right than its operation. -/
def placed (indent column : Nat) (tree : Formula) : List (Nat × Formula) :=
  tree.nodes.map fun node => (column + indent * node.1, node.2)

/-- The line of a subtree in its column. -/
def lineAt (node : Nat × Formula) : List Char := List.replicate node.1 ' ' ++ node.2.label

/-- The trees to visit with their columns, the next one first, and the trees visited. -/
structure Walk where
  stack : List (Nat × Formula)
  visited : List (Nat × Formula)

/-- Visits the tree on top of the stack. Its operands take its place, the left one on top. -/
def Walk.round (indent : Nat) : Walk → Walk ⊕ List (Nat × Formula)
  | ⟨[], visited⟩ => .inr visited
  | ⟨(column, tree) :: stack, visited⟩ =>
    .inl ⟨tree.operands.map (column + indent, ·) ++ stack, visited ++ [(column, tree)]⟩

section Nodes

variable (indent column : Nat) (tree : Formula)

theorem map_snd_nodes : tree.nodes.map Prod.snd = tree.subtrees := by
  induction tree with
  | number value => rfl
  | reference cell => rfl
  | negate operand ih =>
      rw [nodes, subtrees, ← ih]
      simp
  | binary op left right leftIH rightIH =>
      rw [nodes, subtrees, ← leftIH, ← rightIH]
      simp [Function.comp_def]

theorem placed_eq :
    tree.placed indent column =
      (column, tree) :: tree.operands.flatMap (placed indent (column + indent)) := by
  have deeper (depth : Nat) : column + indent * (depth + 1) = column + indent + indent * depth := by
    rw [Nat.mul_add_one, Nat.add_right_comm, Nat.add_assoc]
  cases tree <;> simp [placed, nodes, operands, deeper, Function.comp_def]

theorem map_snd_placed : (tree.placed indent column).map Prod.snd = tree.subtrees := by
  rw [placed, List.map_map, ← map_snd_nodes]
  rfl

theorem dumpLines_eq : tree.dumpLines indent column = (tree.placed indent column).map lineAt := by
  induction tree generalizing column with
  | number value => simp [dumpLines, placed_eq, operands, lineAt]
  | reference cell => simp [dumpLines, placed_eq, operands, lineAt]
  | negate operand ih => simp [dumpLines, placed_eq _ _ (negate operand), operands, lineAt, ih]
  | binary op left right leftIH rightIH =>
      simp [dumpLines, placed_eq _ _ (binary op left right), operands, lineAt, leftIH, rightIH]

end Nodes

section Walk

variable {indent column : Nat} {stack visited answer : List (Nat × Formula)}

/-- A tree is visited with all below it before what lies further down on the stack. -/
theorem ends_visit (tree : Formula)
    (ends : Ends (Walk.round indent) ⟨stack, visited ++ tree.placed indent column⟩ answer) :
    Ends (Walk.round indent) ⟨(column, tree) :: stack, visited⟩ answer := by
  induction tree generalizing column stack visited with
  | number value => exact .again rfl ends
  | reference cell => exact .again rfl ends
  | negate operand ih =>
      refine .again rfl (ih ?_)
      rw [placed_eq] at ends
      simpa [operands] using ends
  | binary op left right leftIH rightIH =>
      refine .again rfl (leftIH (rightIH ?_))
      rw [placed_eq] at ends
      simpa [operands] using ends

/-- The walk over a tree comes to an end, and has met every subtree in its place then. -/
theorem ends_walk_iff (indent : Nat) (tree : Formula) (visited : List (Nat × Formula)) :
    Ends (Walk.round indent) ⟨[(0, tree)], []⟩ visited ↔ visited = tree.placed indent 0 :=
  (ends_visit tree (.stop rfl)).iff_eq visited

end Walk

end Spreadsheet.Formula
