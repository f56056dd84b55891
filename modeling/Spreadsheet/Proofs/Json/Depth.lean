import Mathlib.Data.List.MinMax
import Spreadsheet.Proofs.Json.Order

/-! The levels of a value: each value inside another one has less of them, and words in place of
doubles that are not finite change nothing about them. -/

set_option autoImplicit false

namespace Spreadsheet.Json

theorem depth_pos (value : Json) : 0 < value.depth := by
  cases value with
  | array => exact Nat.succ_pos _
  | object => exact Nat.succ_pos _
  | _ => exact Nat.one_pos

theorem itemsDepth_eq (items : List Json) : itemsDepth items = (items.map depth).foldr max 0 := by
  induction items with
  | nil => rfl
  | cons item rest ih => rw [itemsDepth, ih, List.map_cons, List.foldr_cons]

theorem membersDepth_eq (members : List (String × Json)) :
    membersDepth members = (members.map fun member => member.2.depth).foldr max 0 := by
  induction members with
  | nil => rfl
  | cons member rest ih => rw [membersDepth, ih, List.map_cons, List.foldr_cons]

theorem depth_lt_of_mem_items {item : Json} {items : List Json} (among : item ∈ items) :
    item.depth < (array items).depth := by
  rw [depth, itemsDepth_eq]
  exact Nat.lt_succ_of_le (List.le_max_of_le' 0 (List.mem_map_of_mem among) (Nat.le_refl _))

theorem depth_lt_of_mem_members {member : String × Json} {members : List (String × Json)}
    (among : member ∈ members) : member.2.depth < (object members).depth := by
  rw [depth, membersDepth_eq]
  exact Nat.lt_succ_of_le
    (List.le_max_of_le' 0 (List.mem_map.2 ⟨member, among, rfl⟩) (Nat.le_refl _))

theorem Writable.depth_finite {value : Json} (writable : Writable value) :
    value.finite.depth = value.depth := by
  induction writable with
  | float value =>
      rcases finite_float value with none | ⟨same, _⟩
      · rw [none]
        rfl
      · rw [same]
  | array _ same =>
      rw [finite, finiteItems_eq, depth, depth, itemsDepth_eq, itemsDepth_eq, List.map_map]
      exact congrArg (fun depths => depths.foldr max 0 + 1) (List.map_congr_left same)
  | object _ _ same =>
      rw [finite, finiteMembers_eq, depth, depth, membersDepth_eq, membersDepth_eq, List.map_map]
      exact congrArg (fun depths => depths.foldr max 0 + 1) (List.map_congr_left same)
  | _ => rfl

end Spreadsheet.Json
