import Mathlib.Data.List.Sort
import Spreadsheet.Collection.IdSet

/-! Membership in sets of identifiers, and their equality. -/

set_option autoImplicit false

namespace Spreadsheet.IdSet

theorem mem_toList {set : IdSet} {id : String} : id ∈ set.toList ↔ id ∈ set := Iff.rfl

@[simp] theorem not_mem_empty (id : String) : id ∉ (∅ : IdSet) := List.not_mem_nil

private theorem mem_insertAscending_self (id : String) (ids : List String) :
    id ∈ insertAscending id ids := by
  induction ids with
  | nil => simp [insertAscending]
  | cons head rest ih =>
      unfold insertAscending
      split
      · exact List.mem_cons_self
      · split
        · exact List.mem_cons_of_mem head ih
        · rename_i notBefore notAfter
          have same : id = head := String.le_antisymm notAfter notBefore
          exact same ▸ List.mem_cons_self

private theorem mem_insertAscending_of_mem {id other : String} {ids : List String}
    (member : other ∈ ids) : other ∈ insertAscending id ids := by
  induction ids with
  | nil => cases member
  | cons head rest ih =>
      unfold insertAscending
      split
      · exact List.mem_cons_of_mem id member
      · split
        · rcases List.mem_cons.1 member with same | later
          · exact same ▸ List.mem_cons_self
          · exact List.mem_cons_of_mem head (ih later)
        · exact member

@[simp] theorem mem_insert {set : IdSet} {id other : String} :
    other ∈ set.insert id ↔ other = id ∨ other ∈ set := by
  constructor
  · exact mem_of_mem_insertAscending
  · intro member
    rcases member with rfl | member
    · exact mem_insertAscending_self other set.toList
    · exact mem_insertAscending_of_mem member

@[simp] theorem mem_filter {set : IdSet} {test : String → Bool} {id : String} :
    id ∈ set.filter test ↔ id ∈ set ∧ test id = true :=
  List.mem_filter

@[simp] theorem mem_erase {set : IdSet} {id other : String} :
    other ∈ set.erase id ↔ other ∈ set ∧ other ≠ id := by
  simp [erase]

private theorem mem_foldl_insert {ids : List String} {set : IdSet} {id : String} :
    id ∈ ids.foldl insert set ↔ id ∈ set ∨ id ∈ ids := by
  induction ids generalizing set with
  | nil => simp
  | cons head rest ih =>
      rw [List.foldl_cons, ih, mem_insert, List.mem_cons]
      tauto

@[simp] theorem mem_ofList {ids : List String} {id : String} : id ∈ ofList ids ↔ id ∈ ids := by
  simp [ofList, mem_foldl_insert]

@[simp] theorem mem_union {first second : IdSet} {id : String} :
    id ∈ first.union second ↔ id ∈ first ∨ id ∈ second :=
  mem_foldl_insert

theorem nodup_toList (set : IdSet) : set.toList.Nodup :=
  set.ascending.imp fun before => String.ne_of_lt before

/-- The order of the stored identifiers is fixed, so sets with the same elements are equal. -/
theorem ext {first second : IdSet} (same : ∀ id, id ∈ first ↔ id ∈ second) : first = second := by
  obtain ⟨ids, ascending⟩ := first
  obtain ⟨others, othersAscending⟩ := second
  congr 1
  have permuted : ids.Perm others :=
    (List.perm_ext_iff_of_nodup (ascending.imp fun before => String.ne_of_lt before)
      (othersAscending.imp fun before => String.ne_of_lt before)).2 same
  exact permuted.eq_of_pairwise
    (fun _ _ _ _ before after => absurd before (String.lt_asymm after)) ascending othersAscending

@[simp] theorem isEmpty_iff {set : IdSet} : set.isEmpty = true ↔ set = ∅ := by
  constructor
  · intro blank
    apply ext
    intro id
    rw [← mem_toList, List.isEmpty_iff.1 blank]
    rfl
  · intro same
    subst same
    rfl

theorem eq_empty_iff {set : IdSet} : set = ∅ ↔ ∀ id, id ∉ set := by
  constructor
  · rintro rfl id
    exact not_mem_empty id
  · intro none
    exact ext fun id => iff_of_false (none id) (not_mem_empty id)

end Spreadsheet.IdSet
