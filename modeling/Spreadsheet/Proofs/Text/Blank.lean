import Mathlib.Data.List.DropRight
import Spreadsheet.Text.Blank

/-! Trimming a text twice is trimming it once, and a text without blanks stays as it is. No other
character goes. -/

set_option autoImplicit false

namespace Spreadsheet.Text

theorem isBlank_of_trimLeft {cs rest : List Char} {first : Char}
    (shape : trimLeft cs = first :: rest) : isBlank first = false := by
  have kept := List.head?_dropWhile_not isBlank cs
  rw [← trimLeft, shape] at kept
  simpa using kept

/-- The first character stays when trailing blanks go, unless all goes. -/
theorem isBlank_of_trim {cs rest : List Char} {first : Char} (shape : trim cs = first :: rest) :
    isBlank first = false := by
  have taken : first :: rest <+: trimLeft cs := by
    rw [← shape]
    exact List.rdropWhile_prefix isBlank (trimLeft cs)
  obtain ⟨behind, whole⟩ := taken
  exact isBlank_of_trimLeft whole.symm

private theorem trimLeft_trim (cs : List Char) : trimLeft (trim cs) = trim cs := by
  cases shape : trim cs with
  | nil => rfl
  | cons first rest =>
      rw [trimLeft, List.dropWhile_cons_of_neg (by simp [isBlank_of_trim shape])]

theorem trim_trim (cs : List Char) : trim (trim cs) = trim cs := by
  conv_lhs => rw [trim, trimLeft_trim]
  exact List.rdropWhile_idempotent isBlank (trimLeft cs)

theorem mem_of_mem_trim {cs : List Char} {c : Char} (member : c ∈ trim cs) : c ∈ cs :=
  (List.dropWhile_suffix isBlank).subset ((List.rdropWhile_prefix isBlank (trimLeft cs)).subset member)

theorem mem_trim {cs : List Char} {c : Char} (member : c ∈ cs) (visible : isBlank c = false) :
    c ∈ trim cs := by
  have kept {cs : List Char} (member : c ∈ cs) : c ∈ cs.dropWhile isBlank := by
    rw [← List.takeWhile_append_dropWhile (p := isBlank) (l := cs), List.mem_append] at member
    refine member.resolve_left fun blank => ?_
    rw [List.mem_takeWhile_imp blank] at visible
    cases visible
  exact List.mem_reverse.2 (kept (List.mem_reverse.2 (kept member)))

section Count

variable {c : Char} (visible : isBlank c = false)

include visible

theorem count_dropWhile (cs : List Char) : (cs.dropWhile isBlank).count c = cs.count c := by
  have none : (cs.takeWhile isBlank).count c = 0 := by
    refine List.count_eq_zero.2 fun member => ?_
    rw [List.mem_takeWhile_imp member] at visible
    cases visible
  conv_rhs => rw [← List.takeWhile_append_dropWhile (p := isBlank) (l := cs)]
  rw [List.count_append, none, Nat.zero_add]

theorem count_trim (cs : List Char) : (trim cs).count c = cs.count c := by
  rw [trim, trimRight, List.count_reverse, count_dropWhile visible, List.count_reverse, trimLeft,
    count_dropWhile visible]

end Count

theorem trimRight_eq_self {cs : List Char} (visible : ∀ c ∈ cs, isBlank c = false) :
    trimRight cs = cs := by
  refine List.rdropWhile_eq_self_iff.2 fun filled => ?_
  rw [visible _ (List.getLast_mem filled), Bool.not_eq_true]

theorem trim_eq_self {cs : List Char} (visible : ∀ c ∈ cs, isBlank c = false) : trim cs = cs := by
  have left : trimLeft cs = cs := by
    cases cs with
    | nil => rfl
    | cons first rest =>
        rw [trimLeft, List.dropWhile_cons_of_neg (by simp [visible first List.mem_cons_self])]
  rw [trim, left, trimRight_eq_self visible]

theorem trim_eq_self_of_ends {first last : Char} {inside : List Char}
    (front : isBlank first = false) (back : isBlank last = false) :
    trim (first :: inside ++ [last]) = first :: inside ++ [last] := by
  have left : trimLeft (first :: inside ++ [last]) = first :: inside ++ [last] := by
    rw [trimLeft, List.cons_append, List.dropWhile_cons_of_neg (by simp [front])]
  rw [trim, left, trimRight, List.reverse_append, List.reverse_singleton, List.singleton_append,
    List.dropWhile_cons_of_neg (by simp [back]), List.reverse_cons, List.reverse_reverse]

end Spreadsheet.Text
