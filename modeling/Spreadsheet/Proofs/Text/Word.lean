import Spreadsheet.Proofs.Text.Blank

/-! The first word of a line: what it is, and that trimming the line only trims what
follows it. -/

set_option autoImplicit false

namespace Spreadsheet.Text

/-- The text begins with the word, blanks in front of it aside, and the rest follows. -/
structure Begins (word rest text : List Char) : Prop where
  filled : word ≠ []
  visible : ∀ c ∈ word, isBlank c = false
  ends : ∀ c, rest.head? = some c → isBlank c = true
  split : ∃ lead, (∀ c ∈ lead, isBlank c = true) ∧ text = lead ++ word ++ rest

section Trim

variable {cs lead word rest : List Char}

theorem trimLeft_append_of_blank (blank : ∀ c ∈ lead, isBlank c = true) (cs : List Char) :
    trimLeft (lead ++ cs) = trimLeft cs :=
  List.dropWhile_append_of_pos blank

theorem trimLeft_eq_nil_iff : trimLeft cs = [] ↔ ∀ c ∈ cs, isBlank c = true :=
  List.dropWhile_eq_nil_iff

theorem trimLeft_of_visible {first : Char} (visible : isBlank first = false) :
    trimLeft (first :: rest) = first :: rest := by
  rw [trimLeft, List.dropWhile_cons_of_neg (by simp [visible])]

theorem trimRight_append (word rest : List Char) :
    trimRight (word ++ rest) =
      if trimRight rest = [] then trimRight word else word ++ trimRight rest := by
  simp only [trimRight, List.reverse_append, List.dropWhile_append, List.isEmpty_iff,
    List.reverse_eq_nil_iff]
  split
  · rfl
  · rw [List.reverse_append, List.reverse_reverse]

theorem trimRight_word_append (visible : ∀ c ∈ word, isBlank c = false) (rest : List Char) :
    trimRight (word ++ rest) = word ++ trimRight rest := by
  rw [trimRight_append, trimRight_eq_self visible]
  split
  · rename_i blank
    rw [blank, List.append_nil]
  · rfl

private theorem trimRight_eq_nil_iff : trimRight cs = [] ↔ ∀ c ∈ cs, isBlank c = true := by
  rw [trimRight, List.reverse_eq_nil_iff, List.dropWhile_eq_nil_iff]
  simp

/-- It does not matter which side is trimmed first. -/
theorem trimLeft_trimRight (cs : List Char) : trimLeft (trimRight cs) = trim cs := by
  have cut : cs = cs.takeWhile isBlank ++ trimLeft cs := List.takeWhile_append_dropWhile.symm
  have blank : ∀ c ∈ cs.takeWhile isBlank, isBlank c = true := fun c member =>
    List.mem_takeWhile_imp member
  rw [trim]
  cases shape : trimLeft cs with
  | nil =>
      have all := trimLeft_eq_nil_iff.1 shape
      rw [trimRight_eq_nil_iff.2 all]
      rfl
  | cons first rest =>
      have visible := isBlank_of_trimLeft shape
      have single : ∀ c ∈ [first], isBlank c = false := by simpa using visible
      have tail := trimRight_word_append single rest
      rw [List.singleton_append, List.singleton_append] at tail
      rw [cut, shape, trimRight_append, tail, if_neg (List.cons_ne_nil _ _),
        trimLeft_append_of_blank blank, trimLeft_of_visible visible]

end Trim

section Words

variable {word rest text : List Char}

theorem Begins.trimLeft_eq (begins : Begins word rest text) : trimLeft text = word ++ rest := by
  obtain ⟨filled, visible, _, lead, blank, rfl⟩ := begins
  obtain ⟨first, tail, rfl⟩ := List.exists_cons_of_ne_nil filled
  rw [List.append_assoc, trimLeft_append_of_blank blank, List.cons_append,
    trimLeft_of_visible (visible first List.mem_cons_self)]

theorem Begins.splitWord_eq (begins : Begins word rest text) :
    splitWord text = some (word, trimLeft rest) := by
  have opens := begins.trimLeft_eq
  obtain ⟨filled, visible, ends, _⟩ := begins
  obtain ⟨first, tail, rfl⟩ := List.exists_cons_of_ne_nil filled
  have inside : ∀ c ∈ first :: tail, (!isBlank c) = true := by simpa using visible
  have stops : rest.takeWhile (!isBlank ·) = [] ∧ rest.dropWhile (!isBlank ·) = rest := by
    cases rest with
    | nil => exact ⟨rfl, rfl⟩
    | cons c tail => simp [ends c rfl]
  rw [List.cons_append] at opens
  simp only [splitWord, opens]
  rw [← List.cons_append, List.takeWhile_append_of_pos inside, List.dropWhile_append_of_pos inside,
    stops.1, stops.2, List.append_nil]

/-- A text has only one first word. -/
theorem Begins.unique {otherWord otherRest : List Char} (begins : Begins word rest text)
    (other : Begins otherWord otherRest text) : word = otherWord ∧ rest = otherRest := by
  have cut := begins.splitWord_eq
  rw [other.splitWord_eq, Option.some.injEq, Prod.mk.injEq] at cut
  obtain ⟨rfl, _⟩ := cut
  have whole := begins.trimLeft_eq
  rw [other.trimLeft_eq, List.append_cancel_left_eq] at whole
  exact ⟨rfl, whole.symm⟩

theorem begins_of_space (filled : word ≠ []) (visible : word.all (!isBlank ·) = true)
    (rest : List Char) : Begins word (' ' :: rest) (word ++ ' ' :: rest) :=
  ⟨filled, by simpa using visible, fun c head => by cases head; rfl, [], nofun, rfl⟩

theorem Begins.behind_space (begins : Begins word rest text) : Begins word rest (' ' :: text) := by
  obtain ⟨filled, visible, ends, lead, blank, rfl⟩ := begins
  exact ⟨filled, visible, ends, ' ' :: lead, List.forall_mem_cons.2 ⟨rfl, blank⟩, rfl⟩

theorem Begins.trim (begins : Begins word rest text) :
    Begins word (trimRight rest) (trim text) := by
  have opens := begins.trimLeft_eq
  obtain ⟨filled, visible, ends, _⟩ := begins
  refine ⟨filled, visible, fun c first => ends c ?_, [], by simp, ?_⟩
  · obtain ⟨behind, whole⟩ : trimRight rest <+: rest := List.rdropWhile_prefix isBlank rest
    cases shape : trimRight rest with
    | nil =>
        rw [shape] at first
        cases first
    | cons head tail =>
        rw [shape] at first whole
        rw [← whole]
        exact first
  · rw [Text.trim, opens, trimRight_word_append visible, List.nil_append]

/-- Of a trimmed line, the first word is as before and what follows it is trimmed. -/
theorem Begins.splitWord_trim (begins : Begins word rest text) :
    splitWord (Text.trim text) = some (word, Text.trim rest) := by
  rw [begins.trim.splitWord_eq, trimLeft_trimRight]

theorem trim_of_blank (blank : ∀ c ∈ text, isBlank c = true) : Text.trim text = [] := by
  rw [Text.trim, trimLeft_eq_nil_iff.2 blank]
  rfl

theorem blank_or_begins (text : List Char) :
    (∀ c ∈ text, isBlank c = true) ∨ ∃ word rest, Begins word rest text := by
  cases shape : trimLeft text with
  | nil => exact .inl (trimLeft_eq_nil_iff.1 shape)
  | cons first tail =>
      have visible := isBlank_of_trimLeft shape
      refine .inr ⟨(first :: tail).takeWhile (!isBlank ·), (first :: tail).dropWhile (!isBlank ·),
        ?_, ?_, ?_, text.takeWhile isBlank, ?_, ?_⟩
      · simp [visible]
      · intro c member
        simpa using List.mem_takeWhile_imp member
      · intro c stops
        have kept := List.head?_dropWhile_not (!isBlank ·) (first :: tail)
        rw [stops] at kept
        simpa using kept
      · exact fun c member => List.mem_takeWhile_imp member
      · rw [List.append_assoc, List.takeWhile_append_dropWhile, ← shape]
        exact List.takeWhile_append_dropWhile.symm

end Words

end Spreadsheet.Text
