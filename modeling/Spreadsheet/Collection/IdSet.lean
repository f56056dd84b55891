/-!
# Sets of identifiers

Finite sets kept as lists in ascending code point order, so that equal sets are
equal values and every walk over a set has one order.
-/

set_option autoImplicit false

namespace Spreadsheet

/-- A finite set of identifiers. -/
structure IdSet where
  toList : List String
  ascending : toList.Pairwise (· < ·)
deriving DecidableEq

namespace IdSet

/-- Inserts an identifier into an ascending list, unless it is there. -/
def insertAscending (id : String) : List String → List String
  | [] => [id]
  | head :: rest =>
    if id < head then id :: head :: rest
    else if head < id then head :: insertAscending id rest
    else head :: rest

theorem mem_of_mem_insertAscending {id other : String} {ids : List String}
    (member : other ∈ insertAscending id ids) : other = id ∨ other ∈ ids := by
  induction ids with
  | nil => simpa [insertAscending] using member
  | cons head rest ih =>
      unfold insertAscending at member
      split at member
      · simpa using member
      · split at member
        · rcases List.mem_cons.1 member with same | later
          · exact .inr (same ▸ List.mem_cons_self)
          · exact (ih later).imp_right (List.mem_cons_of_mem head)
        · exact .inr member

theorem ascending_insertAscending (id : String) {ids : List String}
    (ascending : ids.Pairwise (· < ·)) : (insertAscending id ids).Pairwise (· < ·) := by
  induction ids with
  | nil => simp [insertAscending]
  | cons head rest ih =>
      rw [List.pairwise_cons] at ascending
      unfold insertAscending
      split
      · rename_i before
        refine List.pairwise_cons.2 ⟨fun other member => ?_, List.pairwise_cons.2 ascending⟩
        rcases List.mem_cons.1 member with same | later
        · exact same ▸ before
        · exact String.lt_trans before (ascending.1 other later)
      · split
        · rename_i after
          refine List.pairwise_cons.2 ⟨fun other member => ?_, ih ascending.2⟩
          rcases mem_of_mem_insertAscending member with same | later
          · exact same ▸ after
          · exact ascending.1 other later
        · exact List.pairwise_cons.2 ascending

def empty : IdSet := ⟨[], .nil⟩

instance : EmptyCollection IdSet := ⟨empty⟩

instance : Membership String IdSet := ⟨fun set id => id ∈ set.toList⟩

instance (id : String) (set : IdSet) : Decidable (id ∈ set) :=
  inferInstanceAs (Decidable (id ∈ set.toList))

def insert (set : IdSet) (id : String) : IdSet :=
  ⟨insertAscending id set.toList, ascending_insertAscending id set.ascending⟩

def filter (set : IdSet) (test : String → Bool) : IdSet :=
  ⟨set.toList.filter test, set.ascending.filter test⟩

def erase (set : IdSet) (id : String) : IdSet := set.filter (· != id)

def ofList (ids : List String) : IdSet := ids.foldl insert ∅

def union (first second : IdSet) : IdSet := second.toList.foldl insert first

def isEmpty (set : IdSet) : Bool := set.toList.isEmpty

def size (set : IdSet) : Nat := set.toList.length

end IdSet

end Spreadsheet
