import Spreadsheet.Proofs.CellId
import Spreadsheet.Proofs.Formula.Operand
import Spreadsheet.Proofs.Formula.Traversal
import Spreadsheet.Proofs.Number.Literal

/-! A dump has a line for each subtree, and what stands in the lines is enough to tell the tree: a
label begins with a character that says how many operands follow it. -/

set_option autoImplicit false

namespace Spreadsheet.Formula

/-- The references are identifiers and the literals numbers without a sign. -/
structure Tellable (tree : Formula) : Prop where
  literals : ∀ value, .number value ∈ tree.subtrees → value.negative = false ∧ value.isNan = false
  references : ∀ cell, .reference cell ∈ tree.subtrees → CellId.Valid cell.toList

/-- A tree without its operands, literals and references. -/
inductive Shape where
  | number
  | reference
  | negate
  | binary (op : Operator)

def shape : Formula → Shape
  | number _ => .number
  | reference _ => .reference
  | negate _ => .negate
  | binary op _ _ => .binary op

/-- The shape of the trees whose labels begin with this character. -/
def Shape.ofChar (c : Char) : Shape :=
  if CellId.isColumnLetter c then reference else
  match c with
  | 'n' => negate
  | '+' => binary .add
  | '-' => binary .sub
  | '*' => binary .mul
  | '/' => binary .div
  | _ => number

section Label

variable {tree first second : Formula}

theorem Tellable.of_subtrees (tellable : tree.Tellable) (within : first.subtrees ⊆ tree.subtrees) :
    first.Tellable :=
  ⟨fun value literal => tellable.literals value (within literal),
    fun cell reference => tellable.references cell (within reference)⟩

private theorem Shape.ofChar_eq_number {c : Char}
    (begins : Text.isDigit c = true ∨ c = '.' ∨ c = 'i') :
    ofChar c = number := by
  have capital : ¬ CellId.isColumnLetter c = true := by
    rw [CellId.isColumnLetter_iff]
    rcases begins with digit | rfl | rfl
    · exact Text.not_capital_of_isDigit digit
    · decide
    · decide
  unfold ofChar
  rw [if_neg capital]
  split
  case h_6 => rfl
  all_goals exact absurd begins (by decide)

private theorem exists_literal_eq_cons {value : Double} (unsigned : value.negative = false)
    (number : value.isNan = false) :
    ∃ c rest, value.literal = c :: rest ∧ (Text.isDigit c = true ∨ c = '.' ∨ c = 'i') := by
  rcases Double.numeral_or_infinity_of_unsigned unsigned number with
    ⟨n, formed, text, -⟩ | ⟨-, text⟩
  · obtain ⟨c, rest, shape, begins⟩ := formed.text_eq_cons
    exact ⟨c, rest, text.trans shape, begins.imp_right .inl⟩
  · exact ⟨'i', ['n', 'f'], text, .inr (.inr rfl)⟩

theorem Tellable.label_eq_cons (tellable : tree.Tellable) :
    ∃ c rest, tree.label = c :: rest ∧ Shape.ofChar c = tree.shape ∧ c ≠ ' ' := by
  cases tree with
  | number value =>
      obtain ⟨unsigned, number⟩ := tellable.literals value (List.mem_singleton.2 rfl)
      obtain ⟨c, rest, text, begins⟩ := exists_literal_eq_cons unsigned number
      refine ⟨c, rest, text, Shape.ofChar_eq_number begins, ?_⟩
      rintro rfl
      exact absurd begins (by decide)
  | reference cell =>
      have valid := tellable.references cell (List.mem_singleton.2 rfl)
      obtain ⟨c, rest, text, capital⟩ := valid.eq_cons
      refine ⟨c, rest, text, ?_, ?_⟩
      · unfold Shape.ofChar
        exact if_pos (CellId.isColumnLetter_iff.2 capital)
      · rintro rfl
        exact absurd capital (by decide)
  | negate operand => exact ⟨'n', _, rfl, rfl, by decide⟩
  | binary op left right => exact ⟨op.symbol, [], rfl, by cases op <;> rfl, by cases op <;> decide⟩

private theorem Tellable.shape_eq (tellable : first.Tellable) (other : second.Tellable)
    (same : first.label = second.label) : first.shape = second.shape := by
  obtain ⟨c, rest, text, shape, -⟩ := tellable.label_eq_cons
  obtain ⟨d, behind, again, otherShape, -⟩ := other.label_eq_cons
  rw [text, again] at same
  rw [← shape, ← otherShape, (List.cons.inj same).1]

theorem shape_eq_of_labels {rest behind : List (List Char)} (tellable : first.Tellable)
    (other : second.Tellable)
    (same : first.subtrees.map label ++ rest = second.subtrees.map label ++ behind) :
    first.shape = second.shape := by
  have head (tree : Formula) (rest : List (List Char)) :
      (tree.subtrees.map label ++ rest).head? = some tree.label := by cases tree <;> rfl
  have heads := congrArg List.head? same
  rw [head, head] at heads
  exact tellable.shape_eq other (Option.some.inj heads)

/-- The labels of the subtrees tell the tree and where they end. -/
theorem labels_cancel {rest behind : List (List Char)} (tellable : first.Tellable)
    (other : second.Tellable)
    (same : first.subtrees.map label ++ rest = second.subtrees.map label ++ behind) :
    first = second ∧ rest = behind := by
  induction first generalizing second rest behind with
  | number value =>
      cases second <;> cases shape_eq_of_labels tellable other same
      rename_i second
      obtain ⟨text, rfl⟩ := List.cons.inj same
      obtain ⟨unsigned, number⟩ := tellable.literals value (List.mem_singleton.2 rfl)
      obtain ⟨otherUnsigned, otherNumber⟩ := other.literals second (List.mem_singleton.2 rfl)
      rw [Double.literal_inj unsigned otherUnsigned number otherNumber text]
      exact ⟨rfl, rfl⟩
  | reference cell =>
      cases second <;> cases shape_eq_of_labels tellable other same
      obtain ⟨text, rfl⟩ := List.cons.inj same
      rw [String.toList_inj.1 text]
      exact ⟨rfl, rfl⟩
  | negate operand ih =>
      cases second <;> cases shape_eq_of_labels tellable other same
      obtain ⟨rfl, rfl⟩ := ih (tellable.of_subtrees subtrees_negate)
        (other.of_subtrees subtrees_negate) (List.cons.inj same).2
      exact ⟨rfl, rfl⟩
  -- The labels of the left operand end somewhere in the rest, where those of the right one begin.
  | binary op left right leftIH rightIH =>
      cases second <;> cases shape_eq_of_labels tellable other same
      simp only [subtrees, List.map_cons, List.map_append, List.cons_append,
        List.append_assoc] at same
      obtain ⟨rfl, behindLeft⟩ := leftIH (tellable.of_subtrees subtrees_left)
        (other.of_subtrees subtrees_left) (List.cons.inj same).2
      obtain ⟨rfl, rfl⟩ := rightIH (tellable.of_subtrees subtrees_right)
        (other.of_subtrees subtrees_right) behindLeft
      exact ⟨rfl, rfl⟩

end Label

section Lines

variable {tree : Formula} {indent : Nat}

private theorem Tellable.dropWhile_lineAt (tellable : tree.Tellable) (column : Nat) :
    (lineAt (column, tree)).dropWhile (· == ' ') = tree.label := by
  obtain ⟨c, rest, text, -, visible⟩ := tellable.label_eq_cons
  have blank : ∀ d ∈ List.replicate column ' ', (d == ' ') = true :=
    fun d member => by rw [List.eq_of_mem_replicate member]; rfl
  rw [lineAt, List.dropWhile_append_of_pos blank, text,
    List.dropWhile_cons_of_neg (by simpa using visible)]

private theorem mem_subtrees_trans {inside below : Formula} (member : inside ∈ tree.subtrees)
    (under : below ∈ inside.subtrees) : below ∈ tree.subtrees := by
  induction tree with
  | number value => rwa [List.mem_singleton.1 member] at under
  | reference cell => rwa [List.mem_singleton.1 member] at under
  | negate operand ih =>
      rcases List.mem_cons.1 member with rfl | member
      · exact under
      · exact subtrees_negate (ih member)
  | binary op left right leftIH rightIH =>
      rcases List.mem_cons.1 member with rfl | member
      · exact under
      · rcases List.mem_append.1 member with member | member
        · exact subtrees_left (leftIH member)
        · exact subtrees_right (rightIH member)

/-- Without their blanks the lines of a dump are the labels of the subtrees. -/
theorem Tellable.map_dropWhile_dumpLines (tellable : tree.Tellable) :
    (tree.dumpLines indent 0).map (List.dropWhile (· == ' ')) = tree.subtrees.map label := by
  rw [dumpLines_eq, ← map_snd_placed indent 0, List.map_map, List.map_map]
  refine List.map_congr_left fun node member => ?_
  have inside : node.2 ∈ tree.subtrees := by
    rw [← map_snd_placed indent 0]
    exact List.mem_map_of_mem member
  exact (tellable.of_subtrees fun _ => mem_subtrees_trans inside).dropWhile_lineAt node.1

private theorem feed_not_mem_label (apart : ∀ cell, tree = reference cell → '\n' ∉ cell.toList) :
    '\n' ∉ tree.label := by
  intro member
  cases tree with
  | number value => exact absurd (Double.mem_literal member) (by decide)
  | reference cell => exact apart cell rfl member
  | negate operand =>
      have word : '\n' ∉ "negate".toList := by decide
      exact word member
  | binary op left right =>
      have sign : '\n' ≠ op.symbol := by cases op <;> decide
      exact sign (List.mem_singleton.1 member)

theorem splitOn_dump (apart : ∀ cell, .reference cell ∈ tree.subtrees → '\n' ∉ cell.toList) :
    (tree.dump indent).splitOn '\n' = tree.dumpLines indent 0 := by
  rw [dump, dumpLines_eq]
  refine List.splitOn_intercalate '\n' ?_ ?_
  · intro line member
    obtain ⟨node, placed, rfl⟩ := List.mem_map.1 member
    have inside := List.mem_map_of_mem (f := Prod.snd) placed
    rw [map_snd_placed] at inside
    rw [lineAt, List.mem_append, not_or]
    refine ⟨fun blank => absurd (List.eq_of_mem_replicate blank) (by decide), ?_⟩
    exact feed_not_mem_label fun cell same => apart cell (same ▸ inside)
  · rw [placed_eq]
    exact List.cons_ne_nil _ _

theorem Tellable.splitOn_dump (tellable : tree.Tellable) :
    (tree.dump indent).splitOn '\n' = tree.dumpLines indent 0 := by
  refine Formula.splitOn_dump fun cell reference feed => ?_
  exact absurd ((tellable.references cell reference).letter_or_digit feed) (by decide)

end Lines

theorem Writes.tellable {text : List Char} {tree : Formula} (writes : Writes text tree) :
    tree.Tellable := by
  refine ⟨fun value literal => ⟨writes.negative_of_literal literal, ?_⟩,
    fun _ => writes.valid_of_reference⟩
  obtain ⟨tokens, -, derived⟩ := writes
  have member : value ∈ tree.literals := List.mem_filterMap.2 ⟨_, literal, rfl⟩
  rw [derived.literals] at member
  obtain ⟨numeral, -, rfl⟩ := List.mem_map.1 member
  exact Double.isNan_ofDecimal _ _ _

/-- A dump has a line for each subtree, in the order in which the walk meets them and as many times
the indentation to the right as the subtree is deep. No two trees have one dump, if their references
are identifiers and their literals have no sign, as they are in all trees that are read. -/
theorem dump_identifies_tree (indent : Nat) :
    (∀ tree : Formula, tree.nodes.map Prod.snd = tree.subtrees ∧
      ∃ visited, (∀ other, Ends (Walk.round indent) ⟨[(0, tree)], []⟩ other ↔ other = visited) ∧
        visited = tree.nodes.map (fun node => (indent * node.1, node.2)) ∧
        tree.dump indent = List.intercalate ['\n'] (visited.map lineAt) ∧
        ((∀ cell, .reference cell ∈ tree.subtrees → '\n' ∉ cell.toList) →
          (tree.dump indent).splitOn '\n' = visited.map lineAt)) ∧
    (∀ first second : Formula, first.Tellable → second.Tellable →
      first.dump indent = second.dump indent → first = second) ∧
    ∀ text tree, parse text = .ok tree → tree.Tellable := by
  refine ⟨fun tree => ⟨map_snd_nodes tree, _, ends_walk_iff indent tree, ?_, ?_, fun apart => ?_⟩,
    fun first second tellable other same => ?_, fun text tree read => ?_⟩
  · simp only [placed, Nat.zero_add]
  · rw [dump, dumpLines_eq]
  · rw [splitOn_dump apart, dumpLines_eq]
  · have lines : first.dumpLines indent 0 = second.dumpLines indent 0 := by
      rw [← tellable.splitOn_dump, ← other.splitOn_dump, same]
    have labels : first.subtrees.map label ++ [] = second.subtrees.map label ++ [] := by
      rw [← tellable.map_dropWhile_dumpLines, ← other.map_dropWhile_dumpLines, lines]
    exact (labels_cancel tellable other labels).1
  · exact (parse_eq_ok_iff.1 read).tellable

/-- Two groupings of one difference, whose dumps have the same lines in another order, and a literal
whose label is a word. -/
theorem dump_identifies_grouping :
    (∃ first second, parse "=A1-B2-C3".toList = .ok first ∧
      parse "=A1-(B2-C3)".toList = .ok second ∧
      first.dump 0 = "-\n-\nA1\nB2\nC3".toList ∧ second.dump 0 ≠ first.dump 0) ∧
    ∃ tree, parse "=A1*-1e999".toList = .ok tree ∧
      (tree.dump 2).splitOn '\n' =
        ["*".toList, "  A1".toList, "  negate".toList, "    inf".toList] := by
  have first : parse "=A1-B2-C3".toList = .ok (.binary .sub
      (.binary .sub (.reference "A1") (.reference "B2")) (.reference "C3")) := by decide +kernel
  have second : parse "=A1-(B2-C3)".toList = .ok (.binary .sub (.reference "A1")
      (.binary .sub (.reference "B2") (.reference "C3"))) := by decide +kernel
  have great : parse "=A1*-1e999".toList = .ok (.binary .mul (.reference "A1")
      (.negate (.number (.infinity false)))) := by decide +kernel
  obtain ⟨-, tells, read⟩ := dump_identifies_tree 0
  refine ⟨⟨_, _, first, second, by decide, fun same => ?_⟩, _, great, ?_⟩
  · cases tells _ _ (read _ _ second) (read _ _ first) same
  · obtain ⟨-, visited, -, places, -, lines⟩ := (dump_identifies_tree 2).1 (.binary .mul
      (.reference "A1") (.negate (.number (.infinity false))))
    rw [lines ?_, places]
    · decide +kernel
    · intro cell inside
      have valid := (read _ _ great).references cell inside
      exact fun feed => absurd (valid.letter_or_digit feed) (by decide)

end Spreadsheet.Formula
