import Mathlib.Data.List.Perm.Basic
import Spreadsheet.Collection.Table

/-! What each change of a table does to the value of every key and to the order of
the keys. -/

set_option autoImplicit false

namespace Spreadsheet.Table

section Rows

variable {κ α : Type}

theorem nodup_keys (table : Table κ α) : table.keys.Nodup := table.nodup

@[simp] theorem length_keys (table : Table κ α) : table.keys.length = table.size :=
  List.length_map _

end Rows

variable {κ α : Type} [DecidableEq κ]

private theorem lookup_row (key : κ) (value : α) (rows : List (κ × α)) (other : κ) :
    ((key, value) :: rows).lookup other =
      if other = key then some value else rows.lookup other := by
  rw [List.lookup_cons]
  by_cases same : other = key
  · simp [same]
  · have different : (other == key) = false := by simpa using same
    simp [same, different]

private theorem lookup_setRow (key : κ) (value : α) (rows : List (κ × α)) (other : κ) :
    (setRow key value rows).lookup other =
      if other = key then some value else rows.lookup other := by
  induction rows with
  | nil => simp only [setRow, lookup_row]
  | cons row rest ih =>
      obtain ⟨first, stored⟩ := row
      by_cases here : first = key
      · subst first
        simp only [setRow, ↓reduceIte, lookup_row]
        split <;> rfl
      · simp only [setRow, here, ↓reduceIte, lookup_row, ih]
        by_cases same : other = first
        · have different : other ≠ key := same ▸ here
          rw [if_pos same, if_neg different, if_pos same]
        · rw [if_neg same, if_neg same]

theorem setRow_of_not_mem {key : κ} {rows : List (κ × α)} (absent : key ∉ rows.map Prod.fst)
    (value : α) : setRow key value rows = rows ++ [(key, value)] := by
  induction rows with
  | nil => rfl
  | cons row rest ih =>
      rw [List.map_cons, List.mem_cons, not_or] at absent
      rw [setRow, if_neg (Ne.symm absent.1), ih absent.2, List.cons_append]

@[simp] theorem get?_set (table : Table κ α) (key : κ) (value : α) (other : κ) :
    (table.set key value).get? other = if other = key then some value else table.get? other :=
  lookup_setRow key value table.rows other

private theorem lookup_filter_ne (key : κ) (rows : List (κ × α)) (other : κ) :
    (rows.filter (·.1 != key)).lookup other =
      if other = key then none else rows.lookup other := by
  induction rows with
  | nil => simp
  | cons row rest ih =>
      obtain ⟨first, stored⟩ := row
      by_cases dropped : first = key
      · subst first
        rw [List.filter_cons_of_neg (by simp), ih, lookup_row]
        split <;> rfl
      · rw [List.filter_cons_of_pos (by simpa using dropped), lookup_row, ih, lookup_row]
        by_cases same : other = first
        · have different : other ≠ key := same ▸ dropped
          rw [if_pos same, if_neg different, if_pos same]
        · rw [if_neg same, if_neg same]

@[simp] theorem get?_erase (table : Table κ α) (key other : κ) :
    (table.erase key).get? other = if other = key then none else table.get? other :=
  lookup_filter_ne key table.rows other

theorem mem_keys_iff {table : Table κ α} {key : κ} :
    key ∈ table.keys ↔ ∃ value, table.get? key = some value := by
  have found : key ∈ table.rows.map Prod.fst ↔ (table.rows.lookup key).isSome := by
    induction table.rows with
    | nil => simp
    | cons row rest ih =>
        obtain ⟨first, stored⟩ := row
        rw [List.map_cons, List.mem_cons, ih, lookup_row]
        by_cases same : key = first <;> simp [same]
  exact found.trans Option.isSome_iff_exists

theorem contains_iff {table : Table κ α} {key : κ} :
    table.contains key = true ↔ ∃ value, table.get? key = some value := by
  rw [← mem_keys_iff]
  exact List.contains_iff_mem

theorem contains_eq_false_iff {table : Table κ α} {key : κ} :
    table.contains key = false ↔ table.get? key = none := by
  rw [← Bool.not_eq_true, contains_iff, not_exists]
  exact Option.eq_none_iff_forall_not_mem.symm

/-- A key keeps its place when it gets a new value, and a new key goes to the end. -/
theorem keys_set (table : Table κ α) (key : κ) (value : α) :
    (table.set key value).keys =
      if key ∈ table.keys then table.keys else table.keys ++ [key] :=
  map_fst_setRow key value table.rows

theorem keys_erase (table : Table κ α) (key : κ) :
    (table.erase key).keys = table.keys.filter (· != key) := by
  simp only [keys, erase, List.filter_map]
  rfl

theorem mem_rows_iff {table : Table κ α} {row : κ × α} :
    row ∈ table.rows ↔ table.get? row.1 = some row.2 := by
  obtain ⟨rows, nodup⟩ := table
  change row ∈ rows ↔ rows.lookup row.1 = some row.2
  induction rows with
  | nil => simp
  | cons first rest ih =>
      obtain ⟨key, value⟩ := first
      rw [List.map_cons, List.nodup_cons] at nodup
      rw [List.mem_cons, ih nodup.2, lookup_row]
      by_cases here : row.1 = key
      · have absent : rest.lookup row.1 ≠ some row.2 := by
          intro found
          exact nodup.1 (List.mem_map.2 ⟨row, (ih nodup.2).2 found, here⟩)
        rw [if_pos here, or_iff_left absent, Prod.ext_iff, Option.some.injEq]
        exact ⟨fun same => same.2.symm, fun same => ⟨here, same.symm⟩⟩
      · have different : row ≠ (key, value) := fun same => here (congrArg Prod.fst same)
        rw [if_neg here, or_iff_right different]

theorem lookup_map_of_injective {β ι : Type} [BEq ι] [LawfulBEq ι] {name : κ → ι}
    (injective : Function.Injective name) (f : α → β) (rows : List (κ × α)) (key : κ) :
    (rows.map fun row => (name row.1, f row.2)).lookup (name key) = (rows.lookup key).map f := by
  induction rows with
  | nil => rfl
  | cons row rest ih =>
      rw [List.map_cons, List.lookup_cons, List.lookup_cons, ih,
        show (name key == name row.1) = (key == row.1) by
          rw [Bool.eq_iff_iff, beq_iff_eq, beq_iff_eq, injective.eq_iff]]
      cases key == row.1 <;> rfl

theorem lookup_map {β : Type} (f : α → β) (rows : List (κ × α)) (key : κ) :
    (rows.map fun row => (row.1, f row.2)).lookup key = (rows.lookup key).map f :=
  lookup_map_of_injective Function.injective_id f rows key

theorem lookup_eq_of_perm {rows others : List (κ × α)} (perm : rows.Perm others)
    (nodup : (rows.map Prod.fst).Nodup) (key : κ) : rows.lookup key = others.lookup key := by
  have again : (others.map Prod.fst).Nodup := (perm.map Prod.fst).nodup_iff.1 nodup
  refine Option.ext fun value => ?_
  have here := @mem_rows_iff κ α _ ⟨rows, nodup⟩ (key, value)
  have there := @mem_rows_iff κ α _ ⟨others, again⟩ (key, value)
  exact here.symm.trans (perm.mem_iff.trans there)

theorem size_eq_of_get?_eq {first second : Table κ α}
    (same : ∀ key, first.get? key = second.get? key) : first.size = second.size := by
  have keys : first.keys.Perm second.keys := by
    refine (List.perm_ext_iff_of_nodup first.nodup_keys second.nodup_keys).2 fun key => ?_
    rw [mem_keys_iff, mem_keys_iff, same]
  rw [← length_keys, ← length_keys, keys.length_eq]

/-- A table is its keys in order with the value of each. -/
theorem ext_of_keys {first second : Table κ α} (keys : first.keys = second.keys)
    (values : ∀ key, first.get? key = second.get? key) : first = second := by
  have paired : ∀ table : Table κ α, table.rows.map (fun row => (row.1, some row.2)) =
      table.keys.map fun key => (key, table.get? key) := by
    intro table
    rw [Table.keys, List.map_map]
    refine List.map_congr_left fun row member => ?_
    rw [Function.comp_apply, mem_rows_iff.1 member]
  have rows : first.rows = second.rows := by
    have injective : ∀ row other : κ × α, (row.1, some row.2) = (other.1, some other.2) →
        row = other := by
      intro row other same
      simpa [Prod.ext_iff] using same
    refine (List.map_inj_right injective).1 ?_
    rw [paired, paired, keys]
    simp only [values]
  obtain ⟨firstRows, _⟩ := first
  obtain ⟨secondRows, _⟩ := second
  cases rows
  rfl

end Spreadsheet.Table
