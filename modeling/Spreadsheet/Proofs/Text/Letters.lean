import Mathlib.Data.List.Basic
import Spreadsheet.Text.Letters

/-! The letters of a text: no two texts share them, and they are the rows without a half that
stands by itself. -/

set_option autoImplicit false

namespace Spreadsheet.Letters

variable {letters : Letters}

theorem ofText_injective : Function.Injective ofText := by
  intro first second same
  have chars : Function.Injective Letter.char := by
    intro c d same
    cases same
    rfl
  exact String.toList_inj.1 (chars.list_map same)

theorem mapM_char?_eq_some_iff {cs : List Char} :
    letters.mapM Letter.char? = some cs ↔ letters = cs.map .char := by
  induction letters generalizing cs with
  | nil => cases cs <;> simp
  | cons letter rest ih =>
      rw [List.mapM_cons]
      cases letter with
      | half unit => cases cs <;> simp [Letter.char?]
      | char c =>
          simp only [Letter.char?, Option.bind_eq_bind, Option.bind_some, Option.pure_def,
            Option.bind_eq_some_iff, Option.some.injEq, ih]
          constructor
          · rintro ⟨ds, rfl, rfl⟩
            rfl
          · intro same
            cases cs with
            | nil => cases same
            | cons d ds =>
                rw [List.map_cons, List.cons.injEq] at same
                obtain ⟨head, rfl⟩ := same
                cases head
                exact ⟨ds, rfl, rfl⟩

theorem text?_eq_some_iff {s : String} : letters.text? = some s ↔ letters = ofText s := by
  rw [text?, Option.map_eq_some_iff]
  constructor
  · rintro ⟨cs, read, rfl⟩
    rw [mapM_char?_eq_some_iff.1 read, ofText, String.toList_ofList]
  · rintro rfl
    exact ⟨s.toList, mapM_char?_eq_some_iff.2 rfl, String.ofList_toList⟩

end Spreadsheet.Letters
