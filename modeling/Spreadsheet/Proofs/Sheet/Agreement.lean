import Spreadsheet.Proofs.Dependency.Agreement
import Spreadsheet.Proofs.Sheet.Refusal

/-! Sheets with the same cells and the same rows of links answer every edit alike and
stay so. -/

set_option autoImplicit false

namespace Spreadsheet.Sheet.Unchanged

variable {first second third : Sheet}

theorem refl (sheet : Sheet) : Unchanged sheet sheet := ⟨rfl, .refl sheet.links⟩

theorem symm (same : Unchanged first second) : Unchanged second first :=
  ⟨same.cells.symm, same.links.symm⟩

theorem trans (same : Unchanged first second) (further : Unchanged second third) :
    Unchanged first third :=
  ⟨further.cells.trans same.cells, further.links.trans same.links⟩

theorem settled (same : Unchanged first second) (settled : Settled first) : Settled second := by
  have moved := settled.of_sameRows same.links
  rwa [← same.cells] at moved

theorem display_eq (same : Unchanged first second) : second.display = first.display := by
  funext id
  rw [display, display, same.cells]

section Edits

variable (same : Unchanged first second)

include same

theorem refreshReaders (id : String) :
    (second.refreshReaders id).2 = (first.refreshReaders id).2 ∧
      Unchanged (first.refreshReaders id).1 (second.refreshReaders id).1 := by
  refine ⟨same.links.updateOrder_eq id, ?_, same.links⟩
  simp only [Sheet.refreshReaders, same.cells, same.links.updateOrder_eq]

variable (consistent : first.links.Consistent)

include consistent

theorem delete (id : String) :
    (second.delete id).2 = (first.delete id).2 ∧
      Unchanged (first.delete id).1 (second.delete id).1 := by
  have base : Unchanged ⟨first.cells.erase id, first.links.remove id⟩
      ⟨second.cells.erase id, second.links.remove id⟩ :=
    ⟨congrArg (Table.erase · id) same.cells,
      (same.links.symm.remove consistent id).symm⟩
  obtain ⟨updated, after⟩ := base.refreshReaders id
  unfold Sheet.delete
  rw [same.cells]
  split
  · exact ⟨rfl, same⟩
  · split
    · exact ⟨rfl, same⟩
    · rw [same.cells] at updated after
      exact ⟨congrArg Except.ok updated, after⟩

theorem set (id text : String) :
    (second.set id text).2 = (first.set id text).2 ∧
      Unchanged (first.set id text).1 (second.set id text).1 := by
  unfold Sheet.set
  split
  · exact ⟨rfl, same⟩
  · split
    · exact ⟨rfl, same⟩
    · exact same.delete consistent id
    · rename_i cell made
      obtain ⟨answer, rows⟩ := same.links.symm.add consistent id cell.references
      cases firstAdded : first.links.add id cell.references with
      | mk firstLinks firstRefusal =>
          cases secondAdded : second.links.add id cell.references with
          | mk secondLinks secondRefusal =>
              rw [firstAdded, secondAdded] at answer rows
              cases answer
              cases firstRefusal with
              | some path => exact ⟨rfl, same.cells, rows.symm⟩
              | none =>
                  have base : Unchanged
                      ⟨refresh (first.cells.set id cell) id, firstLinks⟩
                      ⟨refresh (second.cells.set id cell) id, secondLinks⟩ :=
                    ⟨by rw [same.cells], rows.symm⟩
                  obtain ⟨updated, after⟩ := base.refreshReaders id
                  exact ⟨congrArg Except.ok updated, after⟩

theorem apply (edit : Edit) :
    (second.apply edit).2 = (first.apply edit).2 ∧
      Unchanged (first.apply edit).1 (second.apply edit).1 := by
  cases edit with
  | set id contents =>
      cases contents with
      | none => exact same.delete consistent id
      | some text => exact same.set consistent id text
  | delete id => exact same.delete consistent id

end Edits

end Spreadsheet.Sheet.Unchanged
