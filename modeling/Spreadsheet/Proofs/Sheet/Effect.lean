import Spreadsheet.Proofs.Sheet.History

/-! The effect of an accepted edit: its own cell, the cells that read from it in an order
that respects what they read, and nothing else. -/

set_option autoImplicit false

namespace Spreadsheet

/-- The text that the identifier of an edit is to have: none if its cell is to go. -/
def Edit.text? : Edit → Option String
  | set _ contents => (contents.map Cell.trimmed).filter (· ≠ "")
  | delete _ => none

namespace Sheet

/-- The reader holds a formula that mentions the cell. -/
def RefersTo (sheet : Sheet) (reader cell : String) : Prop :=
  ∃ contents tree result, sheet.cells.get? reader = some (.formula contents tree result) ∧
    tree.Mentions cell

/-- What an accepted edit does to a sheet, and what the list of updated cells tells. -/
structure Effect (before after : Sheet) (edit : Edit) (updated : List String) : Prop where
  texts : ∀ other, after.texts other = if other = edit.id then edit.text? else before.texts other
  keys : after.cells.keys =
    if edit.text? = none then before.cells.keys.filter (· != edit.id)
    else if edit.id ∈ before.cells.keys then before.cells.keys
    else before.cells.keys ++ [edit.id]
  /-- There is nothing to do where there is nothing to clear. -/
  idle : edit.text? = none → edit.id ∉ before.cells.keys → updated = [] ∧ after = before
  nodup : updated.Nodup
  not_mem : edit.id ∉ updated
  /-- Otherwise exactly the direct and indirect readers are updated. -/
  mem_iff : edit.text? ≠ none ∨ edit.id ∈ before.cells.keys →
    ∀ cell, cell ∈ updated ↔ Relation.TransGen after.RefersTo cell edit.id
  formula : ∀ cell ∈ updated, ∃ contents tree result,
    after.cells.get? cell = some (.formula contents tree result)
  sourcesFirst : ∀ earlier cell later, updated = earlier ++ cell :: later →
    ∀ source ∈ updated, after.RefersTo cell source → source ∈ earlier
  frame : ∀ other, other ≠ edit.id → other ∉ updated →
    after.cells.get? other = before.cells.get? other

section Settled

variable {sheet base : Sheet} {edit : Edit}

private theorem Settled.refersTo_eq (settled : Settled sheet) :
    sheet.RefersTo = sheet.links.Reads := by
  funext reader cell
  rw [Links.Reads, settled.aligned]
  exact propext mem_referencesIn_iff.symm

private theorem Changed.effect (settled : Settled sheet) (changed : Changed sheet edit.id base)
    (text : base.texts edit.id = edit.text?)
    (keys : base.cells.keys =
      if edit.text? = none then sheet.cells.keys.filter (· != edit.id)
      else if edit.id ∈ sheet.cells.keys then sheet.cells.keys
      else sheet.cells.keys ++ [edit.id])
    (busy : edit.text? ≠ none ∨ edit.id ∈ sheet.cells.keys) :
    Effect sheet (base.refreshReaders edit.id).1 edit (base.refreshReaders edit.id).2 := by
  have same := sameFormulas_foldl_refresh (base.links.updateOrder edit.id) base.cells
  have refersTo := (settled.refreshReaders changed).refersTo_eq
  have ordered := changed.ordered
  have depends : ∀ cell, cell ∈ (base.refreshReaders edit.id).2 ↔
      Relation.TransGen (base.refreshReaders edit.id).1.RefersTo cell edit.id := by
    rw [refersTo]
    exact ordered.mem_iff
  refine ⟨?_, same.keys.trans keys, ?_, ordered.nodup, ?_, fun _ => depends, ?_, ?_, ?_⟩
  · intro other
    refine (same.contents_eq other).trans ?_
    split
    · subst other
      exact text
    · rename_i different
      rw [changed.others other different]
      rfl
  · intro clears absent
    rcases busy with stored | present
    · exact absurd clears stored
    · exact absurd present absent
  · intro member
    exact changed.accepted.acyclic edit.id ((ordered.mem_iff edit.id).1 member)
  · intro cell member
    obtain ⟨_, ⟨contents, tree, result, found, _⟩, _⟩ :=
      Relation.TransGen.head'_iff.1 ((depends cell).1 member)
    exact ⟨contents, tree, result, found⟩
  · intro earlier cell later split source member refers
    rw [refersTo] at refers
    exact ordered.sourcesFirst earlier cell later split source refers member
  · intro other different outside
    exact (get?_foldl_refresh_of_not_mem outside base.cells).trans
      (changed.others other different)

private theorem effect_of_absent (clears : edit.text? = none)
    (absent : edit.id ∉ sheet.cells.keys) : Effect sheet sheet edit [] := by
  have idle : ¬ (edit.text? ≠ none ∨ edit.id ∈ sheet.cells.keys) := by
    simp [clears, absent]
  refine ⟨?_, ?_, fun _ _ => ⟨rfl, rfl⟩, .nil, List.not_mem_nil, fun busy => absurd busy idle,
    ?_, ?_, fun _ _ _ => rfl⟩
  · intro other
    split
    · subst other
      rw [clears, texts, Option.map_eq_none_iff]
      cases found : sheet.cells.get? edit.id with
      | none => rfl
      | some cell => exact absurd (Table.mem_keys_iff.2 ⟨cell, found⟩) absent
    · rfl
  · rw [if_pos clears, List.filter_eq_self.2]
    intro key member
    have different : key ≠ edit.id := fun same => absent (same ▸ member)
    simpa using different
  · intro cell member
    cases member
  · intro earlier cell later split
    simp at split

end Settled

theorem text?_of_clears {edit : Edit} (clears : edit.cell? = .ok none) :
    edit.text? = none := by
  cases edit with
  | delete => rfl
  | set id contents =>
      cases contents with
      | none => rfl
      | some text => simp [Edit.text?, Cell.ofText_none clears]

theorem text?_of_makes {edit : Edit} {cell : Cell}
    (makes : edit.cell? = .ok (some cell)) : edit.text? = some cell.contents := by
  cases edit with
  | delete => cases makes
  | set id contents =>
      cases contents with
      | none => cases makes
      | some text =>
          obtain ⟨same, _, filled⟩ := Cell.ofText_some makes
          simp [Edit.text?, same, filled]

/-- An accepted edit has its effect and no other. -/
theorem effect_of_accepted (edits : List Edit) (edit : Edit) (updated : List String)
    (accepted : ((ofEdits edits).apply edit).2 = .ok updated) :
    Effect (ofEdits edits) ((ofEdits edits).apply edit).1 edit updated := by
  have settled := settled_ofEdits edits
  have outcome := outcome_apply settled edit
  generalize ofEdits edits = sheet at settled outcome accepted ⊢
  generalize sheet.apply edit = result at outcome accepted ⊢
  cases outcome with
  | invalid => cases accepted
  | malformed => cases accepted
  | circular => cases accepted
  | absent _ clears missing =>
      cases accepted
      refine effect_of_absent (text?_of_clears clears) ?_
      rw [Table.mem_keys_iff, missing]
      simp
  | cleared _ clears found erased changed =>
      cases accepted
      have none := text?_of_clears clears
      refine changed.effect settled ?_ ?_ (.inr (Table.mem_keys_iff.2 ⟨_, found⟩))
      · rw [none, texts, erased, Table.get?_erase, if_pos rfl]
        rfl
      · rw [if_pos none, erased, Table.keys_erase]
  | stored _ makes _ placed changed =>
      cases accepted
      have text := text?_of_makes makes
      have some : edit.text? ≠ none := by simp [text]
      refine changed.effect settled ?_ ?_ (.inl some)
      · rw [text, texts, placed, get?_refresh, if_pos rfl, Table.get?_set, if_pos rfl]
        exact congrArg Option.some (Cell.contents_evaluate _ _)
      · rw [if_neg some, placed, (sameFormulas_refresh _ _).keys, Table.keys_set]

/-- Both readers of a text that is new are updated, the nearer one first. -/
theorem effect_of_text_before_readers :
    ((ofEdits [.set "C1" (some "=B1+A1"), .set "B1" (some "=A1")]).apply
        (.set "A1" (some " x"))).2 = .ok ["B1", "C1"] ∧
      Effect (ofEdits [.set "C1" (some "=B1+A1"), .set "B1" (some "=A1")])
        ((ofEdits [.set "C1" (some "=B1+A1"), .set "B1" (some "=A1")]).apply
          (.set "A1" (some " x"))).1 (.set "A1" (some " x")) ["B1", "C1"] := by
  have accepted : ((ofEdits [.set "C1" (some "=B1+A1"), .set "B1" (some "=A1")]).apply
      (.set "A1" (some " x"))).2 = .ok ["B1", "C1"] := by decide +kernel
  exact ⟨accepted, effect_of_accepted _ _ _ accepted⟩

end Sheet

end Spreadsheet
