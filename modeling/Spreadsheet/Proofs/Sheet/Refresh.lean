import Spreadsheet.Proofs.Cell
import Spreadsheet.Proofs.Dependency.UpdateOrder
import Spreadsheet.Sheet.Basic

/-! Evaluating cells one after the other in an update order brings all cells of a
sheet up to date. -/

set_option autoImplicit false

namespace Spreadsheet.Sheet

/-- The cells that the cell of an identifier reads from. -/
def referencesIn (cells : Table String Cell) (id : String) : IdSet :=
  ((cells.get? id).map Cell.references).getD ∅

theorem referencesIn_of_some {cells : Table String Cell} {id : String} {cell : Cell}
    (found : cells.get? id = some cell) : referencesIn cells id = cell.references := by
  rw [referencesIn, found]
  rfl

theorem referencesIn_of_none {cells : Table String Cell} {id : String}
    (missing : cells.get? id = none) : referencesIn cells id = ∅ := by
  rw [referencesIn, missing]
  rfl

theorem mem_referencesIn_iff {cells : Table String Cell} {id source : String} :
    source ∈ referencesIn cells id ↔
      ∃ contents tree result, cells.get? id = some (.formula contents tree result) ∧
        tree.Mentions source := by
  cases found : cells.get? id with
  | none =>
      rw [referencesIn_of_none found]
      refine iff_of_false (IdSet.not_mem_empty source) ?_
      intro reads
      obtain ⟨_, _, _, ⟨⟩, _⟩ := reads
  | some cell =>
      rw [referencesIn_of_some found, Cell.mem_references_iff]
      simp only [Option.some.injEq]

/-- Another evaluation would change nothing about the cell of the identifier. -/
def UpToDate (cells : Table String Cell) (id : String) : Prop :=
  (cells.get? id).map (Cell.evaluate cells) = cells.get? id

/-- The same identifiers in the same order with the same cells, evaluation aside. -/
structure SameFormulas (first second : Table String Cell) : Prop where
  keys : first.keys = second.keys
  cells : ∀ id, (first.get? id).map Cell.unevaluated = (second.get? id).map Cell.unevaluated

namespace SameFormulas

variable {first second third : Table String Cell}

theorem refl (cells : Table String Cell) : SameFormulas cells cells :=
  ⟨rfl, fun _ => rfl⟩

theorem trans (left : SameFormulas first second) (right : SameFormulas second third) :
    SameFormulas first third :=
  ⟨left.keys.trans right.keys, fun id => (left.cells id).trans (right.cells id)⟩

/-- What evaluation leaves alone is the same in both tables. -/
theorem map_eq {α : Type} {part : Cell → α} (same : SameFormulas first second)
    (kept : ∀ cell, part cell.unevaluated = part cell) (id : String) :
    (first.get? id).map part = (second.get? id).map part := by
  have composed : part ∘ Cell.unevaluated = part := funext kept
  rw [← composed, ← Option.map_map, same.cells, Option.map_map]

theorem referencesIn_eq (same : SameFormulas first second) (id : String) :
    referencesIn first id = referencesIn second id :=
  congrArg (Option.getD · ∅) (same.map_eq Cell.references_unevaluated id)

theorem contents_eq (same : SameFormulas first second) (id : String) :
    (first.get? id).map Cell.contents = (second.get? id).map Cell.contents :=
  same.map_eq Cell.contents_unevaluated id

end SameFormulas

/-! ### One evaluation -/

section Refresh

variable (cells : Table String Cell) (id other : String)

theorem get?_refresh :
    (refresh cells id).get? other =
      if other = id then (cells.get? id).map (Cell.evaluate cells) else cells.get? other := by
  unfold refresh
  cases found : cells.get? id with
  | none =>
      dsimp only
      split
      · subst other
        exact found
      · rfl
  | some cell => exact Table.get?_set cells id (cell.evaluate cells) other

theorem sameFormulas_refresh : SameFormulas (refresh cells id) cells where
  keys := by
    unfold refresh
    cases found : cells.get? id with
    | none => rfl
    | some cell => rw [Table.keys_set, if_pos (Table.mem_keys_iff.2 ⟨cell, found⟩)]
  cells other := by
    rw [get?_refresh]
    split
    · subst other
      cases cells.get? id with
      | none => rfl
      | some cell => exact congrArg some (Cell.unevaluated_evaluate cells cell)
    · rfl

end Refresh

/-- A cell is as up to date as before if what it reads stays the same. -/
theorem UpToDate.of_agree {cells others : Table String Cell} {id : String}
    (current : UpToDate cells id) (same : others.get? id = cells.get? id)
    (agree : ∀ source ∈ referencesIn cells id, others.get? source = cells.get? source) :
    UpToDate others id := by
  unfold UpToDate at current ⊢
  unfold referencesIn at agree
  rw [same]
  cases found : cells.get? id with
  | none => rfl
  | some cell =>
      rw [found] at current agree
      exact (congrArg some (Cell.evaluate_congr agree)).trans current

theorem upToDate_refresh_self {cells : Table String Cell} {id : String}
    (free : id ∉ referencesIn cells id) : UpToDate (refresh cells id) id := by
  unfold UpToDate
  unfold referencesIn at free
  rw [get?_refresh, if_pos rfl]
  cases found : cells.get? id with
  | none => rfl
  | some cell =>
      rw [found] at free
      simp only [Option.map_some, Option.some.injEq, Cell.evaluate_evaluate]
      refine Cell.evaluate_congr fun source member => ?_
      have different : source ≠ id := fun same => free (same ▸ member)
      rw [get?_refresh, if_neg different]

theorem UpToDate.refresh {cells : Table String Cell} {id other : String}
    (current : UpToDate cells other) (different : other ≠ id)
    (free : id ∉ referencesIn cells other) : UpToDate (refresh cells id) other := by
  refine current.of_agree ?_ fun source member => ?_
  · rw [get?_refresh, if_neg different]
  · have apart : source ≠ id := fun same => free (same ▸ member)
    rw [get?_refresh, if_neg apart]

/-! ### A row of evaluations -/

theorem sameFormulas_foldl_refresh (order : List String) (cells : Table String Cell) :
    SameFormulas (order.foldl refresh cells) cells := by
  induction order generalizing cells with
  | nil => exact .refl cells
  | cons id rest ih => exact (ih (refresh cells id)).trans (sameFormulas_refresh cells id)

theorem get?_foldl_refresh_of_not_mem {order : List String} {id : String} (outside : id ∉ order)
    (cells : Table String Cell) : (order.foldl refresh cells).get? id = cells.get? id := by
  induction order generalizing cells with
  | nil => rfl
  | cons head rest ih =>
      rw [List.mem_cons, not_or] at outside
      rw [List.foldl_cons, ih outside.2, get?_refresh, if_neg outside.1]

/-- The part of an update order that is left makes up to date what is not: no cell that
is up to date already reads from one of it. -/
private theorem upToDate_foldl_refresh_rest {links : Links} {origin : String}
    {order : List String} (ordered : links.IsUpdateOrder origin order) (before rest : List String)
    (split : order = before ++ rest) (cells : Table String Cell)
    (aligned : ∀ id, links.sourcesOf id = referencesIn cells id)
    (current : ∀ id, id ∉ rest → UpToDate cells id) (id : String) :
    UpToDate (rest.foldl refresh cells) id := by
  induction rest generalizing before cells with
  | nil => exact current id List.not_mem_nil
  | cons head rest ih =>
      have member : head ∈ order := split ▸ List.mem_append_right _ List.mem_cons_self
      have unplaced : head ∉ before := by
        have unique := ordered.nodup
        rw [split] at unique
        exact fun earlier =>
          (List.nodup_append.1 unique).2.2 head earlier head List.mem_cons_self rfl
      -- After its evaluation the head is up to date, and who reads it stands behind it.
      refine ih (before ++ [head]) (by rw [split, List.append_assoc, List.singleton_append])
        (refresh cells head) (fun other => ?_) fun other outside => ?_
      · rw [aligned, (sameFormulas_refresh cells head).referencesIn_eq]
      · by_cases same : other = head
        · subst other
          refine upToDate_refresh_self fun reads => unplaced ?_
          rw [← aligned] at reads
          exact ordered.sourcesFirst before head rest split head reads member
        · have left : other ∉ head :: rest := by
            rw [List.mem_cons, not_or]
            exact ⟨same, outside⟩
          refine (current other left).refresh same fun reads => ?_
          rw [← aligned] at reads
          have depends := ((ordered.mem_iff head).1 member).head reads
          have placed : other ∈ before := by
            have listed := (ordered.mem_iff other).2 depends
            rw [split] at listed
            exact (List.mem_append.1 listed).resolve_right left
          obtain ⟨early, late, parts⟩ := List.append_of_mem placed
          have whole : order = early ++ other :: (late ++ head :: rest) := by
            rw [split, parts, List.append_assoc, List.cons_append]
          have earlier := ordered.sourcesFirst early other _ whole head reads member
          exact unplaced (parts ▸ List.mem_append_left _ earlier)

theorem upToDate_foldl_refresh {links : Links} {origin : String} {order : List String}
    (ordered : links.IsUpdateOrder origin order) {cells : Table String Cell}
    (aligned : ∀ id, links.sourcesOf id = referencesIn cells id)
    (current : ∀ id, id ∉ order → UpToDate cells id) (id : String) :
    UpToDate (order.foldl refresh cells) id :=
  upToDate_foldl_refresh_rest ordered [] order rfl cells aligned current id

end Spreadsheet.Sheet
