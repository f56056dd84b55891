/-!
# Tables

Values by key, in the order in which the keys came in: a new key goes to the end,
a key that gets a new value keeps its place.
-/

set_option autoImplicit false

namespace Spreadsheet

/-- Values by key, each key once. -/
structure Table (κ α : Type) where
  rows : List (κ × α)
  nodup : (rows.map Prod.fst).Nodup

namespace Table

variable {κ α : Type}

instance [DecidableEq κ] [DecidableEq α] : DecidableEq (Table κ α) := fun first second =>
  if same : first.rows = second.rows then
    .isTrue (by cases first; cases second; simp_all)
  else .isFalse fun equal => same (equal ▸ rfl)

def empty : Table κ α := ⟨[], .nil⟩

instance : EmptyCollection (Table κ α) := ⟨empty⟩

def keys (table : Table κ α) : List κ := table.rows.map Prod.fst

def size (table : Table κ α) : Nat := table.rows.length

variable [DecidableEq κ]

def get? (table : Table κ α) (key : κ) : Option α := table.rows.lookup key

def contains (table : Table κ α) (key : κ) : Bool := table.keys.contains key

/-- Gives a key its value in a list of rows, in place or at the end. -/
def setRow (key : κ) (value : α) : List (κ × α) → List (κ × α)
  | [] => [(key, value)]
  | row :: rest => if row.1 = key then (key, value) :: rest else row :: setRow key value rest

theorem map_fst_setRow (key : κ) (value : α) (rows : List (κ × α)) :
    (setRow key value rows).map Prod.fst =
      if key ∈ rows.map Prod.fst then rows.map Prod.fst else rows.map Prod.fst ++ [key] := by
  induction rows with
  | nil => simp [setRow]
  | cons row rest ih =>
      by_cases same : row.1 = key
      · simp [setRow, same]
      · have other : ¬ key = row.1 := fun equal => same equal.symm
        simp only [setRow, same, ↓reduceIte, List.map_cons, ih, List.mem_cons, other, false_or]
        split <;> rfl

def set (table : Table κ α) (key : κ) (value : α) : Table κ α where
  rows := setRow key value table.rows
  nodup := by
    rw [map_fst_setRow]
    split
    · exact table.nodup
    · rename_i absent
      refine List.nodup_append.2 ⟨table.nodup, by simp, ?_⟩
      intro a member b single equal
      rw [List.mem_singleton] at single
      exact absent (single ▸ equal ▸ member)

def erase (table : Table κ α) (key : κ) : Table κ α where
  rows := table.rows.filter (·.1 != key)
  nodup := table.nodup.sublist (List.filter_sublist.map Prod.fst)

end Table

end Spreadsheet
