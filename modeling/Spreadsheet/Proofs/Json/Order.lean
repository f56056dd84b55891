import Mathlib.Data.List.Basic
import Mathlib.Data.List.Perm.Basic
import Spreadsheet.Json.Printer
import Spreadsheet.Number.Integer
import Spreadsheet.Text.Letters

/-! Objects with their members in the order of the keys: as they are written and read back,
whatever order they had before. -/

set_option autoImplicit false

namespace Spreadsheet.Json

/-! ### Rows in the order of their keys -/

section Rows

variable {α β : Type}

private theorem insertByKey_map (f : α → β) (row : String × α) (rows : List (String × α)) :
    (insertByKey row rows).map (fun row => (row.1, f row.2)) =
      insertByKey (row.1, f row.2) (rows.map fun row => (row.1, f row.2)) := by
  induction rows with
  | nil => rfl
  | cons head rest ih =>
      rw [insertByKey, List.map_cons, insertByKey]
      split
      · rfl
      · rw [List.map_cons, ih]

theorem sortByKey_map (f : α → β) (rows : List (String × α)) :
    sortByKey (rows.map fun row => (row.1, f row.2)) =
      (sortByKey rows).map fun row => (row.1, f row.2) := by
  have onward : ∀ sorted : List (String × α),
      (rows.map fun row => (row.1, f row.2)).foldl (fun sorted row => insertByKey row sorted)
          (sorted.map fun row => (row.1, f row.2)) =
        (rows.foldl (fun sorted row => insertByKey row sorted) sorted).map
          fun row => (row.1, f row.2) := by
    induction rows with
    | nil => exact fun _ => rfl
    | cons row rest ih =>
        intro sorted
        rw [List.map_cons, List.foldl_cons, List.foldl_cons, ← insertByKey_map, ih]
  exact onward []

private theorem insertByKey_perm (row : String × α) (rows : List (String × α)) :
    (insertByKey row rows).Perm (row :: rows) := by
  induction rows with
  | nil => exact .refl _
  | cons head rest ih =>
      unfold insertByKey
      split
      · exact .refl _
      · exact (ih.cons head).trans (.swap row head rest)

theorem sortByKey_perm (rows : List (String × α)) : (sortByKey rows).Perm rows := by
  have onward : ∀ sorted : List (String × α),
      (rows.foldl (fun sorted row => insertByKey row sorted) sorted).Perm (sorted ++ rows) := by
    induction rows with
    | nil =>
        intro sorted
        rw [List.append_nil]
        exact .refl sorted
    | cons row rest ih =>
        intro sorted
        exact (ih (insertByKey row sorted)).trans
          (((insertByKey_perm row sorted).append_right rest).trans List.perm_middle.symm)
  exact onward []

end Rows

/-! ### Values -/

mutual

/-- The value with the members of every object in the order of their keys. -/
def ordered : Json → Json
  | array items => array (orderedItems items)
  | object members => object (sortByKey (orderedMembers members))
  | other => other

def orderedItems : List Json → List Json
  | [] => []
  | item :: rest => ordered item :: orderedItems rest

def orderedMembers : List (String × Json) → List (String × Json)
  | [] => []
  | (key, value) :: rest => (key, ordered value) :: orderedMembers rest

end

section Maps

private theorem orderedItems_eq (items : List Json) : orderedItems items = items.map ordered := by
  induction items with
  | nil => rfl
  | cons item rest ih => rw [orderedItems, ih, List.map_cons]

private theorem orderedMembers_eq (members : List (String × Json)) :
    orderedMembers members = members.map fun member => (member.1, ordered member.2) := by
  induction members with
  | nil => rfl
  | cons member rest ih => rw [orderedMembers, ih, List.map_cons]

theorem renderItems_eq (items : List Json) : renderItems items = items.map render := by
  induction items with
  | nil => rfl
  | cons item rest ih => rw [renderItems, ih, List.map_cons]

private theorem renderMembers_eq (members : List (String × Json)) :
    renderMembers members = members.map fun member => (member.1, render member.2) := by
  induction members with
  | nil => rfl
  | cons member rest ih => rw [renderMembers, ih, List.map_cons]

theorem ordered_object (members : List (String × Json)) :
    ordered (.object members) =
      .object ((sortByKey members).map fun member => (member.1, ordered member.2)) := by
  rw [ordered, orderedMembers_eq, sortByKey_map]

private theorem mapTextItems_eq {τ υ : Type} (form : τ → υ) (items : List (Json τ)) :
    mapTextItems form items = items.map (mapText form) := by
  induction items with
  | nil => rfl
  | cons item rest ih => rw [mapTextItems, ih, List.map_cons]

private theorem mapTextMembers_eq {τ υ : Type} (form : τ → υ) (members : List (τ × Json τ)) :
    mapTextMembers form members =
      members.map fun member => (form member.1, mapText form member.2) := by
  induction members with
  | nil => rfl
  | cons member rest ih => rw [mapTextMembers, ih, List.map_cons]

/-- The value as it is read back from what is written of it. -/
def asRead (value : Json) : Json Letters := value.ordered.mapText Letters.ofText

theorem asRead_array (items : List Json) : asRead (.array items) = .array (items.map asRead) := by
  rw [asRead, ordered, mapText, mapTextItems_eq, orderedItems_eq, List.map_map]
  rfl

theorem asRead_object (members : List (String × Json)) :
    asRead (.object members) =
      .object ((sortByKey members).map fun member => (.ofText member.1, asRead member.2)) := by
  rw [asRead, ordered_object, mapText, mapTextMembers_eq, List.map_map]
  rfl

def memberText (member : String × Json) : List Char :=
  renderString member.1 ++ ':' :: ' ' :: render member.2

theorem render_object (members : List (String × Json)) :
    render (.object members) =
      '\x7b' :: commaSeparated ((sortByKey members).map memberText) ++ ['\x7d'] := by
  rw [render, renderMembers_eq, sortByKey_map, List.map_map]
  rfl

theorem commaSeparated_cons (first : List Char) (others : List (List Char)) :
    commaSeparated (first :: others) = first ++ others.flatMap fun text => ',' :: ' ' :: text := by
  induction others generalizing first with
  | nil => simp [commaSeparated]
  | cons second rest ih =>
      have next := ih second
      rw [commaSeparated] at next ⊢
      rw [List.intercalate_cons_cons, next, List.flatMap_cons]
      simp

end Maps

/-! ### Values that can be written -/

/-- No whole number is longer than what is read, and no object has two members with the same
key. -/
inductive Writable : Json → Prop where
  | null : Writable .null
  | bool (value : Bool) : Writable (.bool value)
  | int {value : Int} : (Text.decimal value.natAbs).length ≤ Integer.maxDigits →
      Writable (.int value)
  | float (value : Double) : Writable (.float value)
  | string (value : String) : Writable (.string value)
  | array {items : List Json} : (∀ item ∈ items, Writable item) → Writable (.array items)
  | object {members : List (String × Json)} : (members.map Prod.fst).Nodup →
      (∀ member ∈ members, Writable member.2) → Writable (.object members)

/-- Values without doubles, in which no whole number is longer than what is read, and no object
has two members with the same key. -/
inductive Plain : Json → Prop where
  | null : Plain .null
  | bool (value : Bool) : Plain (.bool value)
  | int {value : Int} : (Text.decimal value.natAbs).length ≤ Integer.maxDigits →
      Plain (.int value)
  | string (value : String) : Plain (.string value)
  | array {items : List Json} : (∀ item ∈ items, Plain item) → Plain (.array items)
  | object {members : List (String × Json)} : (members.map Prod.fst).Nodup →
      (∀ member ∈ members, Plain member.2) → Plain (.object members)

theorem Plain.writable {value : Json} (plain : Plain value) : Writable value := by
  induction plain with
  | null => exact .null
  | bool value => exact .bool value
  | int short => exact .int short
  | string value => exact .string value
  | array _ writable => exact .array writable
  | object nodup _ writable => exact .object nodup writable

theorem finiteItems_eq (items : List Json) : finiteItems items = items.map finite := by
  induction items with
  | nil => rfl
  | cons item rest ih => rw [finiteItems, ih, List.map_cons]

theorem finiteMembers_eq (members : List (String × Json)) :
    finiteMembers members = members.map fun member => (member.1, finite member.2) := by
  induction members with
  | nil => rfl
  | cons member rest ih => rw [finiteMembers, ih, List.map_cons]

theorem Plain.finite_eq {value : Json} (plain : Plain value) : value.finite = value := by
  induction plain with
  | array _ same =>
      rw [finite, finiteItems_eq, List.map_congr_left same, List.map_id']
  | object _ _ same =>
      rw [finite, finiteMembers_eq,
        List.map_congr_left fun member among => by rw [same member among], List.map_id']
  | _ => rfl

theorem finite_float (x : Double) :
    finite (.float x) = .null ∨ (finite (.float x) = .float x ∧ x.isFinite = true) := by
  rw [finite]
  split
  · exact .inl rfl
  · rename_i number
    simp only [Double.isNan, Double.isInfinite, Bool.or_eq_true, decide_eq_true_eq,
      beq_iff_eq] at number
    exact .inr ⟨rfl, decide_eq_true (by omega)⟩

end Spreadsheet.Json
