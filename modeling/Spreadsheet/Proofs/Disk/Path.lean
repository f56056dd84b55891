import Mathlib.Data.List.Basic
import Spreadsheet.Disk.Path

/-! The names of a path, and its text cut into names again. -/

set_option autoImplicit false

namespace Spreadsheet.Path

/-- A name that says nothing. -/
def Silent (name : String) : Prop := name = "" ∨ name = "."

instance (name : String) : Decidable (Silent name) :=
  inferInstanceAs (Decidable (name = "" ∨ name = "."))

section Parts

variable {cs : List Char}

theorem parts_eq_splitOn (cs : List Char) : parts cs = cs.splitOn '/' := by
  induction cs with
  | nil => rfl
  | cons c rest ih =>
      rw [parts, List.splitOn_cons_eq_if_modifyHead, ih]
      simp only [beq_iff_eq]
      split
      · rfl
      · obtain ⟨first, others, split⟩ := List.exists_cons_of_ne_nil (List.splitOn_ne_nil '/' rest)
        rw [split]
        rfl

theorem parts_ne_nil (cs : List Char) : parts cs ≠ [] := by
  rw [parts_eq_splitOn]
  exact List.splitOn_ne_nil '/' cs

theorem mem_parts_iff {c : Char} : (∃ part ∈ parts cs, c ∈ part) ↔ c ∈ cs ∧ c ≠ '/' := by
  induction cs with
  | nil => simp [parts]
  | cons d rest ih =>
      rw [parts]
      split
      · rename_i slash
        rw [List.exists_mem_cons_iff, ih, List.mem_cons]
        have other : c ≠ '/' → c ≠ d := fun different same => different (same.trans slash)
        simp only [List.not_mem_nil, false_or]
        tauto
      · rename_i different
        obtain ⟨first, others, split⟩ := List.exists_cons_of_ne_nil (parts_ne_nil rest)
        rw [split, List.exists_mem_cons_iff] at ih
        rw [split, consPart, List.exists_mem_cons_iff, List.mem_cons, List.mem_cons, or_assoc, ih]
        have other : c = d → c ≠ '/' := fun same slash => different (same.symm.trans slash)
        tauto

private theorem parts_append_slashes (count : Nat) (cs : List Char) :
    parts (List.replicate count '/' ++ cs) = List.replicate count [] ++ parts cs := by
  induction count with
  | zero => rfl
  | succ count ih =>
      rw [List.replicate_succ, List.cons_append, parts, if_pos rfl, ih]
      rfl

private theorem parts_intercalate {names : List String} (filled : names ≠ [])
    (whole : ∀ name ∈ names, '/' ∉ name.toList) :
    (parts ("/".intercalate names).toList).map String.ofList = names := by
  have inside : ∀ part ∈ names.map String.toList, '/' ∉ part := by
    intro part member
    obtain ⟨name, among, rfl⟩ := List.mem_map.1 member
    exact whole name among
  rw [parts_eq_splitOn, String.toList_intercalate]
  change ((['/'].intercalate (names.map String.toList)).splitOn '/').map String.ofList = names
  rw [List.splitOn_intercalate '/' inside (by simpa using filled), List.map_map]
  simp [Function.comp_def]

end Parts

/-! ### Paths that were written down -/

private theorem slashes_ofText_ne_zero_iff {text : String} :
    (ofText text).slashes ≠ 0 ↔ text.toList.head? = some '/' := by
  unfold ofText
  cases text.toList with
  | nil => simp
  | cons first rest =>
      by_cases slash : first = '/'
      · subst slash
        dsimp only
        split <;> simp_all
      · dsimp only
        split <;> simp_all

theorem names_ofText (text : String) :
    (ofText text).names =
      ((parts text.toList).map String.ofList).filter fun name => ¬ Silent name := by
  have same : ∀ part : List Char,
      (part != [] && part != ['.']) = decide (¬ Silent (String.ofList part)) := by
    intro part
    have blank : (String.ofList part = "") = (part = []) := by
      rw [← String.toList_inj, String.toList_ofList]
      rfl
    have dot : (String.ofList part = ".") = (part = ['.']) := by
      rw [← String.toList_inj, String.toList_ofList]
      rfl
    rw [Bool.eq_iff_iff]
    simp [Silent, blank, dot]
  rw [List.filter_map]
  exact congrArg (List.map String.ofList) (List.filter_congr fun part _ => same part)

theorem of_mem_names_ofText {text name : String} (member : name ∈ (ofText text).names) :
    '/' ∉ name.toList ∧ ¬ Silent name := by
  rw [names_ofText, List.mem_filter, List.mem_map] at member
  obtain ⟨⟨part, among, rfl⟩, speaks⟩ := member
  rw [String.toList_ofList]
  exact ⟨fun inside => (mem_parts_iff.1 ⟨part, among, inside⟩).2 rfl, of_decide_eq_true speaks⟩

/-- The text of a path has its names, behind some that say nothing. -/
theorem parts_text (path : Path) (whole : ∀ name ∈ path.names, '/' ∉ name.toList) :
    ∃ silent : List String, (∀ name ∈ silent, Silent name) ∧
      (parts path.text.toList).map String.ofList = silent ++ path.names := by
  unfold text
  split
  · rename_i blank
    refine ⟨["."], by simp [Silent], ?_⟩
    rw [blank.2]
    rfl
  · rw [String.toList_append, String.toList_ofList, parts_append_slashes, List.map_append,
      List.map_replicate]
    by_cases filled : path.names = []
    · rw [filled]
      refine ⟨List.replicate path.slashes "" ++ [""], fun name member => ?_, ?_⟩
      · simp only [List.mem_append, List.mem_replicate, List.mem_singleton] at member
        exact .inl (by tauto)
      · rw [List.append_nil]
        rfl
    · refine ⟨List.replicate path.slashes "", fun name member => ?_, ?_⟩
      · exact .inl (List.eq_of_mem_replicate member)
      · rw [parts_intercalate filled whole]

theorem head?_text_iff {path : Path}
    (speaks : ∀ name ∈ path.names, '/' ∉ name.toList ∧ ¬ Silent name) :
    path.text.toList.head? = some '/' ↔ path.slashes ≠ 0 := by
  obtain ⟨slashes, names⟩ := path
  cases slashes with
  | succ count => simp [text, List.replicate_succ]
  | zero =>
      cases names with
      | nil => simp [text]
      | cons first rest =>
          obtain ⟨whole, speaks⟩ := speaks first List.mem_cons_self
          have filled : first.toList ≠ [] := fun blank =>
            speaks (.inl (String.toList_eq_nil_iff.1 blank))
          obtain ⟨c, tail, shape⟩ := List.exists_cons_of_ne_nil filled
          have different : c ≠ '/' := by
            rintro rfl
            exact whole (shape ▸ List.mem_cons_self)
          cases rest <;> simp [text, String.intercalate_cons_cons, shape, different]

theorem head?_text_ofText_iff {text : String} :
    (ofText text).text.toList.head? = some '/' ↔ text.toList.head? = some '/' := by
  rw [head?_text_iff fun name member => of_mem_names_ofText member, slashes_ofText_ne_zero_iff]

theorem mem_text_ofText {text : String} {c : Char} (inside : c ∈ text.toList) (slash : c ≠ '/')
    (dot : c ≠ '.') : c ∈ (ofText text).text.toList := by
  obtain ⟨part, member, within⟩ := mem_parts_iff.2 ⟨inside, slash⟩
  have speaks : ¬ Silent (String.ofList part) := by
    rintro (blank | single)
    · rw [← String.toList_inj, String.toList_ofList] at blank
      rw [blank] at within
      cases within
    · rw [← String.toList_inj, String.toList_ofList] at single
      rw [single] at within
      exact dot (List.mem_singleton.1 within)
  have named : String.ofList part ∈ (ofText text).names := by
    rw [names_ofText, List.mem_filter]
    exact ⟨List.mem_map_of_mem member, decide_eq_true speaks⟩
  obtain ⟨silent, _, cut⟩ := parts_text (ofText text) fun name among => (of_mem_names_ofText among).1
  have again : String.ofList part ∈ (parts (ofText text).text.toList).map String.ofList := by
    rw [cut]
    exact List.mem_append_right silent named
  obtain ⟨other, among, same⟩ := List.mem_map.1 again
  rw [String.ofList_inj] at same
  subst same
  exact (mem_parts_iff.1 ⟨other, among, within⟩).1

end Spreadsheet.Path
