import Spreadsheet.Proofs.Sheet.Loading

/-! Sheets written as records and read again, and which sheets can be written. -/

set_option autoImplicit false

namespace Spreadsheet.Sheet

/-! ### Writing -/

/-- The cells of a sheet as records, in their order. -/
def recordsOf (sheet : Sheet) : List Record :=
  sheet.cells.rows.map fun row => ⟨row.1, row.2.contents⟩

theorem hasLineBreak_iff {text : String} :
    Text.hasLineBreak text = true ↔ ∃ c ∈ text.toList, Text.EndsLine c := by
  simp only [Text.endsLine_iff]
  exact List.any_eq_true

private theorem toList_record (id : String) (cell : Cell) :
    (record id cell).toList = (Record.mk id cell.contents).line := by
  simp [record, Record.line, toString]

section Rows

variable {rows : List (String × Cell)} (number : Nat)

theorem recordsFrom_error (broken : ∃ row ∈ rows, Text.hasLineBreak row.2.contents = true) :
    ∃ error, recordsFrom number rows = .error error := by
  induction rows generalizing number with
  | nil =>
      obtain ⟨_, ⟨⟩, _⟩ := broken
  | cons row rest ih =>
      obtain ⟨id, cell⟩ := row
      rw [recordsFrom]
      split
      · exact ⟨_, rfl⟩
      · rename_i whole
        rw [List.exists_mem_cons_iff, or_iff_right whole] at broken
        obtain ⟨error, refused⟩ := ih (number + 1) broken
        exact ⟨error, by rw [refused]; rfl⟩

theorem recordsFrom_ok (whole : ∀ row ∈ rows, Text.hasLineBreak row.2.contents = false) :
    ∃ text, recordsFrom number rows = .ok text ∧
      text.toList = (rows.map fun row => (record row.1 row.2).toList).flatMap (· ++ ['\n']) := by
  induction rows generalizing number with
  | nil => exact ⟨"", rfl, rfl⟩
  | cons row rest ih =>
      obtain ⟨id, cell⟩ := row
      rw [List.forall_mem_cons] at whole
      obtain ⟨later, written, text⟩ := ih (number + 1) whole.2
      refine ⟨record id cell ++ "\n" ++ later, ?_, ?_⟩
      · rw [recordsFrom, whole.1, if_neg Bool.false_ne_true, written]
        rfl
      · simp [text]

end Rows

section Written

variable {sheet : Sheet}

/-- A sheet cannot be written exactly if some contents would end their line. -/
theorem toRecords_error_iff :
    (∃ error, sheet.toRecords = .error error) ↔
      ∃ id cell, sheet.cells.get? id = some cell ∧ ∃ c ∈ cell.contents.toList, Text.EndsLine c := by
  constructor
  · intro refused
    obtain ⟨error, refused⟩ := refused
    by_contra none
    have whole : ∀ row ∈ sheet.cells.rows, Text.hasLineBreak row.2.contents = false := by
      intro row member
      rw [← Bool.not_eq_true, hasLineBreak_iff]
      exact fun broken => none ⟨row.1, row.2, Table.mem_rows_iff.1 member, broken⟩
    obtain ⟨text, written, _⟩ := recordsFrom_ok 1 whole
    rw [toRecords, written] at refused
    cases refused
  · intro broken
    obtain ⟨id, cell, found, broken⟩ := broken
    exact recordsFrom_error 1 ⟨(id, cell), Table.mem_rows_iff.2 found, hasLineBreak_iff.2 broken⟩

private theorem isText_of_toRecords {text : String} (written : sheet.toRecords = .ok text) :
    Record.IsText sheet.recordsOf text.toList ∧
      ∀ record ∈ sheet.recordsOf, ∀ c ∈ record.contents.toList, ¬ Text.EndsLine c := by
  have whole : ∀ row ∈ sheet.cells.rows, Text.hasLineBreak row.2.contents = false := by
    intro row member
    rw [← Bool.not_eq_true]
    intro broken
    obtain ⟨error, refused⟩ := recordsFrom_error 1 ⟨row, member, broken⟩
    rw [← toRecords, written] at refused
    cases refused
  constructor
  · obtain ⟨other, again, rows⟩ := recordsFrom_ok 1 whole
    rw [← toRecords, written] at again
    cases again
    left
    rw [rows, recordsOf, List.map_map]
    simp only [toList_record, Function.comp_def]
  · intro record member c inside ends
    obtain ⟨row, among, rfl⟩ := List.mem_map.1 member
    have broken := hasLineBreak_iff.2 ⟨c, inside, ends⟩
    rw [whole row among] at broken
    cases broken

end Written

/-! ### A sheet and its records -/

section Records

variable {sheet : Sheet} {record : Record}

theorem mem_recordsOf_iff :
    record ∈ sheet.recordsOf ↔ sheet.texts record.id = some record.contents := by
  rw [recordsOf, List.mem_map, texts, Option.map_eq_some_iff]
  constructor
  · intro stored
    obtain ⟨row, member, rfl⟩ := stored
    exact ⟨row.2, Table.mem_rows_iff.1 member, rfl⟩
  · intro stored
    obtain ⟨cell, found, same⟩ := stored
    exact ⟨(record.id, cell), Table.mem_rows_iff.2 found, by rw [same]⟩

theorem valid_of_mem_recordsOf (addressed : Addressed sheet) (member : record ∈ sheet.recordsOf) :
    CellId.Valid record.id.toList := by
  refine addressed record.id (mem_keys_iff_texts.2 ?_)
  rw [mem_recordsOf_iff.1 member]
  exact Option.some_ne_none _

theorem exists_ofText_of_mem_recordsOf (settled : Settled sheet)
    (member : record ∈ sheet.recordsOf) :
    ∃ cell, Cell.ofText record.contents = .ok (some cell) ∧ cell.contents = record.contents := by
  obtain ⟨cell, found, same⟩ := Option.map_eq_some_iff.1 (mem_recordsOf_iff.1 member)
  have made := settled.made record.id cell found
  rw [same] at made
  exact ⟨cell.unevaluated, made, cell.contents_unevaluated.trans same⟩

theorem text?_of_mem_recordsOf (settled : Settled sheet) (member : record ∈ sheet.recordsOf) :
    record.edit.text? = some record.contents := by
  obtain ⟨cell, made, same⟩ := exists_ofText_of_mem_recordsOf settled member
  have makes : record.edit.cell? = .ok (some cell) := made
  rw [text?_of_makes makes, same]

theorem keys_recordsOf (addressed : Addressed sheet) :
    sheet.recordsOf.map Record.key = sheet.cells.keys := by
  have keys : sheet.recordsOf.map Record.key = sheet.recordsOf.map Record.id :=
    List.map_congr_left fun record member =>
      Record.key_of_valid (valid_of_mem_recordsOf addressed member)
  rw [keys, recordsOf, List.map_map]
  rfl

variable (settled : Settled sheet) (addressed : Addressed sheet)

include settled addressed

theorem holds_recordsOf : Holds sheet sheet.recordsOf := by
  refine ⟨settled, fun id text => ⟨fun stored => ?_, fun named => ?_⟩⟩
  · have member : ⟨id, text⟩ ∈ sheet.recordsOf := mem_recordsOf_iff.2 stored
    exact ⟨⟨id, text⟩, member, Record.key_of_valid (valid_of_mem_recordsOf addressed member),
      text?_of_mem_recordsOf settled member⟩
  · obtain ⟨record, member, rfl, given⟩ := named
    rw [text?_of_mem_recordsOf settled member, Option.some.injEq] at given
    rw [Record.key_of_valid (valid_of_mem_recordsOf addressed member), ← given]
    exact mem_recordsOf_iff.1 member

private theorem loadable_recordsOf : Record.Loadable sheet.recordsOf := by
  refine ⟨fun record member => ?_, fun record member marked => ?_, ?_⟩
  · have valid := valid_of_mem_recordsOf addressed member
    rwa [Record.key_of_valid valid]
  · obtain ⟨cell, made, _⟩ := exists_ofText_of_mem_recordsOf settled member
    exact exists_writes_of_ofText made marked
  -- The records refer to each other as the cells are linked, in whatever order these came.
  · rw [← (holds_recordsOf settled addressed).reads_eq]
    exact settled.acyclic

/-- What is written is read again as the same cells in the same order. -/
theorem read_of_toRecords {text : String} (written : sheet.toRecords = .ok text) :
    ∃ loaded, ofRecords text.toList = .ok loaded ∧ loaded.cells = sheet.cells ∧
      loaded.links.SameRows sheet.links := by
  obtain ⟨isText, whole⟩ := isText_of_toRecords written
  have formed : ∀ record ∈ sheet.recordsOf, record.WellFormed := by
    intro record member
    have valid := valid_of_mem_recordsOf addressed member
    refine ⟨fun inside => (valid.of_mem inside).2 rfl, fun c inside ends => ?_, whole record member⟩
    have blank := Text.isBlank_of_isLineBreak (Text.endsLine_iff.1 ends)
    rw [(valid.of_mem inside).1] at blank
    cases blank
  have distinct : (sheet.recordsOf.map Record.key).Nodup := by
    rw [keys_recordsOf addressed]
    exact sheet.cells.nodup_keys
  have loadable := loadable_recordsOf settled addressed
  obtain ⟨loaded, read⟩ := (exists_ofRecords_iff formed distinct isText).2 loadable
  have holds := holds_of_ofRecords formed distinct isText read
  have texts := (holds_recordsOf settled addressed).texts_eq holds fun _ => Iff.rfl
  refine ⟨loaded, read, Table.ext_of_keys ?_ ?_, ?_⟩
  · rw [ofRecords, isText.lines_eq formed] at read
    have keys := keys_of_readLines holds_empty
      (fun record member => (formed record member).separated) distinct (fun record member => ?_) read
    · rw [keys, keys_recordsOf addressed]
      rfl
    · rw [text?_of_mem_recordsOf settled member]
      exact Option.some_ne_none _
  · exact holds.settled.get?_eq_of_texts_eq settled texts
  · exact holds.settled.sameRows_of_texts_eq settled texts

end Records

/-! ### Sheets that are read -/

/-- No text of a cell would end its line. -/
def OneLine (sheet : Sheet) : Prop :=
  ∀ id text, sheet.texts id = some text → ∀ c ∈ text.toList, ¬ Text.EndsLine c

theorem oneLine_empty : OneLine ∅ := by
  intro id text stored
  cases stored

section Read

variable {sheet after : Sheet} {number : Nat} {line : List Char}

theorem OneLine.apply {id text : String} {updated : List String} (oneLine : OneLine sheet)
    (settled : Settled sheet) (inside : ∀ c ∈ text.toList, ¬ Text.EndsLine c)
    (accepted : (sheet.apply (.set id (some text))).2 = .ok updated) :
    OneLine (sheet.apply (.set id (some text))).1 := by
  intro other stored given
  rw [(outcome_apply settled _).texts_of_ok accepted] at given
  split at given
  · intro c member
    rw [trimmed_of_text? given, Cell.trimmed, String.toList_ofList] at member
    exact inside c (Text.mem_of_mem_trim member)
  · exact oneLine other stored given

private theorem subset_of_splitRecord {id contents : List Char}
    (cut : splitRecord line = some (id, contents)) : contents ⊆ line := by
  unfold splitRecord at cut
  split at cut
  · cases cut
  · rename_i first rest found
    cases cut
    intro c member
    refine (List.dropWhile_suffix (· != ':')).subset ?_
    rw [found]
    exact List.mem_cons_of_mem _ member

/-- A line is blank or sets one cell to a part of itself. -/
theorem edit_of_readLine (read : sheet.readLine number line = .ok after) :
    after = sheet ∨ ∃ id text updated, text.toList ⊆ line ∧
      sheet.apply (.set id (some text)) = (after, .ok updated) := by
  unfold Sheet.readLine at read
  split at read
  · cases read
    exact .inl rfl
  · split at read
    · cases read
    · rename_i id contents cut
      split at read
      · rename_i next updated answer
        cases read
        refine .inr ⟨_, String.ofList contents, updated, ?_, answer⟩
        rw [String.toList_ofList]
        exact subset_of_splitRecord cut
      · cases read

theorem edits_of_readLines {rest : List (List Char)}
    (read : sheet.readLines number rest = .ok after) :
    ∃ edits : List Edit, edits.foldl (fun sheet edit => (sheet.apply edit).1) sheet = after := by
  induction rest generalizing sheet number with
  | nil =>
      cases read
      exact ⟨[], rfl⟩
  | cons line rest ih =>
      obtain ⟨next, taken, onward⟩ := readLines_cons_iff.1 read
      obtain ⟨edits, made⟩ := ih onward
      rcases edit_of_readLine taken with rfl | ⟨id, text, updated, _, applied⟩
      · exact ⟨edits, made⟩
      · refine ⟨.set id (some text) :: edits, ?_⟩
        rw [List.foldl_cons, applied]
        exact made

theorem OneLine.readLine (oneLine : OneLine sheet) (settled : Settled sheet)
    (inside : ∀ c ∈ line, ¬ Text.EndsLine c) (read : sheet.readLine number line = .ok after) :
    Settled after ∧ OneLine after := by
  rcases edit_of_readLine read with rfl | ⟨id, text, updated, within, applied⟩
  · exact ⟨settled, oneLine⟩
  · have settledAfter := settled.apply (.set id (some text))
    have oneLineAfter := oneLine.apply settled (fun c member => inside c (within member))
      (congrArg Prod.snd applied)
    rw [applied] at settledAfter oneLineAfter
    exact ⟨settledAfter, oneLineAfter⟩

theorem OneLine.readLines {rest : List (List Char)} (oneLine : OneLine sheet)
    (settled : Settled sheet) (inside : ∀ line ∈ rest, ∀ c ∈ line, ¬ Text.EndsLine c)
    (read : sheet.readLines number rest = .ok after) : OneLine after := by
  induction rest generalizing sheet number with
  | nil =>
      cases read
      exact oneLine
  | cons line rest ih =>
      rw [List.forall_mem_cons] at inside
      obtain ⟨next, taken, onward⟩ := readLines_cons_iff.1 read
      obtain ⟨settledNext, oneLineNext⟩ := oneLine.readLine settled inside.1 taken
      exact ih oneLineNext settledNext inside.2 onward

end Read

/-- A sheet cannot be written exactly if some contents would end their line. Otherwise what is
written is read again as the same sheet. Reading makes no sheets that edits do not make, and
every sheet that is read can be written. -/
theorem ofRecords_toRecords (edits : List Edit) :
    ((∃ error, (ofEdits edits).toRecords = .error error) ↔
      ∃ id cell, (ofEdits edits).cells.get? id = some cell ∧
        ∃ c ∈ cell.contents.toList, Text.EndsLine c) ∧
    (∀ text, (ofEdits edits).toRecords = .ok text →
      ∃ loaded, ofRecords text.toList = .ok loaded ∧ loaded.cells = (ofEdits edits).cells ∧
        loaded.links.SameRows (ofEdits edits).links) ∧
    ∀ text sheet, ofRecords text = .ok sheet →
      (∃ edits, ofEdits edits = sheet) ∧ ∃ written, sheet.toRecords = .ok written := by
  refine ⟨toRecords_error_iff, fun text written => ?_, fun text sheet read => ?_⟩
  · exact read_of_toRecords (settled_ofEdits edits) (addressed_ofEdits edits) written
  · refine ⟨edits_of_readLines read, ?_⟩
    have oneLine : OneLine sheet := by
      refine oneLine_empty.readLines settled_empty (fun line member c inside ends => ?_) read
      exact ends text line member inside
    cases written : sheet.toRecords with
    | ok text => exact ⟨text, rfl⟩
    | error error =>
        obtain ⟨id, cell, found, c, inside, ends⟩ := toRecords_error_iff.1 ⟨error, written⟩
        exact absurd ends (oneLine id cell.contents (texts_eq_some found) c inside)

end Spreadsheet.Sheet
