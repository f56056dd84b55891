import Spreadsheet.Proofs.Sheet.Contents
import Spreadsheet.Proofs.Sheet.Refusal
import Spreadsheet.Proofs.Text.Line
import Spreadsheet.Sheet.Records

/-! Reading records: which lists of records are read, and that their order does not matter
for the sheet that they give. -/

set_option autoImplicit false

namespace Spreadsheet

open Relation

/-- A line of a text of records, cut at its first separator. -/
structure Record where
  id : String
  contents : String

namespace Record

/-- The identifier that the record means. -/
def key (record : Record) : String := String.ofList (Text.trim record.id.toList)

def line (record : Record) : List Char := record.id.toList ++ ':' :: record.contents.toList

def edit (record : Record) : Edit := .set record.key (some record.contents)

theorem key_of_valid {record : Record} (valid : CellId.Valid record.id.toList) :
    record.key = record.id := by
  rw [key, Text.trim_eq_self fun c inside => (valid.of_mem inside).1, String.ofList_toList]

/-- The record can be written as one line and is cut again where it was put together. -/
structure WellFormed (record : Record) : Prop where
  separated : ':' ∉ record.id.toList
  id : ∀ c ∈ record.id.toList, ¬ Text.EndsLine c
  contents : ∀ c ∈ record.contents.toList, ¬ Text.EndsLine c

/-- The text has one line for each record, in this order. -/
def IsText (records : List Record) (text : List Char) : Prop :=
  Text.IsLinesOf (records.map line) text

theorem IsText.lines_eq {records : List Record} {text : List Char} (written : IsText records text)
    (formed : ∀ record ∈ records, record.WellFormed) :
    Text.lines text = records.map line := by
  refine Text.IsLinesOf.lines_eq written ?_ ?_
  · intro row member
    obtain ⟨record, _, rfl⟩ := List.mem_map.1 member
    exact List.append_ne_nil_of_right_ne_nil _ (List.cons_ne_nil _ _)
  · intro row member c inside
    obtain ⟨record, among, rfl⟩ := List.mem_map.1 member
    obtain ⟨_, id, contents⟩ := formed record among
    rw [← Bool.not_eq_true, ← Text.endsLine_iff]
    rcases List.mem_append.1 inside with before | behind
    · exact id c before
    · rcases List.mem_cons.1 behind with rfl | behind
      · rw [Text.endsLine_iff]
        decide
      · exact contents c behind

/-- The formula of one record mentions the cell of the other identifier. -/
def Refers (records : List Record) (reader cell : String) : Prop :=
  ∃ record ∈ records, record.key = reader ∧
    ∃ tree, Formula.Writes record.contents.toList tree ∧ tree.Mentions cell

/-- Records that make a sheet together. -/
structure Loadable (records : List Record) : Prop where
  valid : ∀ record ∈ records, CellId.Valid record.key.toList
  formulas : ∀ record ∈ records, (Text.trim record.contents.toList).head? = some '=' →
    ∃ tree, Formula.Writes record.contents.toList tree
  acyclic : ∀ id, ¬ TransGen (Refers records) id id

section Among

variable {fewer records : List Record} (among : ∀ record ∈ fewer, record ∈ records)

include among

theorem Refers.mono {reader cell : String} (refers : Refers fewer reader cell) :
    Refers records reader cell := by
  obtain ⟨record, member, formula⟩ := refers
  exact ⟨record, among record member, formula⟩

theorem Loadable.mono (loadable : Loadable records) : Loadable fewer where
  valid record member := loadable.valid record (among record member)
  formulas record member := loadable.formulas record (among record member)
  acyclic id cycle := loadable.acyclic id (TransGen.mono (fun _ _ => Refers.mono among) _ _ cycle)

end Among

end Record

namespace Sheet

theorem not_malformed_iff {text : String} :
    ¬ Malformed (typed (some text)) ↔
      ((Text.trim text.toList).head? = some '=' → ∃ tree, Formula.Writes text.toList tree) := by
  have same : (∃ tree, Formula.Writes text.toList tree) ↔
      ∃ tree, Formula.Writes (Text.trim text.toList) tree :=
    exists_congr fun _ => Formula.writes_trim_iff.symm
  change ¬ Malformed (Text.trim text.toList) ↔ _
  rw [same]
  generalize Text.trim text.toList = cs
  constructor
  · intro formed marked
    by_contra none
    refine formed ⟨?_, ?_, marked, none⟩
    · rintro rfl
      cases marked
    · intro number
      obtain ⟨value, writes⟩ := number
      exact writes.head?_ne marked
  · intro formula malformed
    exact malformed.notFormula (formula malformed.marked)

theorem exists_writes_of_ofText {text : String} {cell : Cell}
    (made : Cell.ofText text = .ok (some cell))
    (marked : (Text.trim text.toList).head? = some '=') :
    ∃ tree, Formula.Writes text.toList tree := by
  have reading := Cell.reading_ofText text
  rw [made] at reading
  suffices trimmed : ∃ tree, Formula.Writes (Text.trim text.toList) tree from
    trimmed.imp fun _ => Formula.writes_trim_iff.1
  generalize Text.trim text.toList = cs at reading marked
  cases reading with
  | number _ number => exact absurd marked (Double.ofText?_eq_some_iff.1 number).head?_ne
  | formula _ parsed => exact ⟨_, Formula.parse_eq_ok_iff.1 parsed⟩
  | string _ _ unmarked => exact absurd marked unmarked

/-! ### Sheets made from records -/

/-- The cells of a sheet are those that records name, one for each that is not blank. -/
structure Holds (sheet : Sheet) (records : List Record) : Prop where
  settled : Settled sheet
  texts : ∀ id text, sheet.texts id = some text ↔
    ∃ record ∈ records, record.key = id ∧ record.edit.text? = some text

section Holds

variable {sheet other : Sheet} {records : List Record}

theorem holds_empty : Holds ∅ [] := ⟨settled_empty, fun _ _ => ⟨nofun, nofun⟩⟩

private theorem Holds.reads_iff (holds : Holds sheet records) {reader cell : String} :
    sheet.links.Reads reader cell ↔ Record.Refers records reader cell := by
  rw [Links.Reads, holds.settled.aligned, mem_referencesIn_iff]
  constructor
  · intro formula
    obtain ⟨contents, tree, result, found, mentions⟩ := formula
    obtain ⟨record, member, here, text⟩ := (holds.texts reader contents).1 (texts_eq_some found)
    refine ⟨record, member, here, tree, Cell.ofText_eq_formula_iff.1 ⟨contents, ?_⟩, mentions⟩
    have made := holds.settled.made reader _ found
    rw [← Cell.ofText_trimmed, ← trimmed_of_text? text]
    exact made
  · intro refers
    obtain ⟨record, member, rfl, tree, writes, mentions⟩ := refers
    obtain ⟨contents, made⟩ := Cell.ofText_eq_formula_iff.2 writes
    have makes : record.edit.cell? = .ok (some (.formula contents tree .pending)) := made
    have stored : sheet.texts record.key = some contents :=
      (holds.texts _ _).2 ⟨record, member, rfl, text?_of_makes makes⟩
    have again := Cell.ofText_contents made
    exact ⟨contents, tree, _, holds.settled.formula_of_text stored again, mentions⟩

theorem Holds.reads_eq (holds : Holds sheet records) :
    sheet.links.Reads = Record.Refers records := by
  funext reader cell
  exact propext holds.reads_iff

theorem Holds.texts_eq {others : List Record} (holds : Holds sheet records)
    (otherHolds : Holds other others) (same : ∀ record, record ∈ others ↔ record ∈ records) :
    other.texts = sheet.texts := by
  funext id
  refine Option.ext fun text => ?_
  rw [otherHolds.texts, holds.texts]
  simp only [same]

theorem Holds.apply {record : Record} (holds : Holds sheet records)
    (new : ∀ before ∈ records, before.key ≠ record.key) {updated : List String}
    (accepted : (sheet.apply record.edit).2 = .ok updated) :
    Holds (sheet.apply record.edit).1 (records ++ [record]) := by
  refine ⟨holds.settled.apply record.edit, fun id text => ?_⟩
  rw [(outcome_apply holds.settled record.edit).texts_of_ok accepted]
  change (if id = record.key then _ else _) = some text ↔ _
  by_cases here : id = record.key
  · subst here
    rw [if_pos rfl]
    constructor
    · exact fun given => ⟨record, by simp, rfl, given⟩
    · intro named
      obtain ⟨found, member, same, given⟩ := named
      rcases List.mem_append.1 member with before | last
      · exact absurd same (new found before)
      · rwa [List.mem_singleton.1 last] at given
  · rw [if_neg here, holds.texts]
    constructor
    · intro named
      obtain ⟨found, before, same, given⟩ := named
      exact ⟨found, List.mem_append_left _ before, same, given⟩
    · intro named
      obtain ⟨found, member, same, given⟩ := named
      rcases List.mem_append.1 member with before | last
      · exact ⟨found, before, same, given⟩
      · rw [List.mem_singleton.1 last] at same
        exact absurd same.symm here

end Holds

/-! ### Reading lines -/

section Read

variable {sheet after : Sheet} {record : Record} {number : Nat}

private theorem readLine_line (separated : ':' ∉ record.id.toList) :
    sheet.readLine number record.line = .ok after ↔
      ∃ updated, sheet.apply record.edit = (after, .ok updated) := by
  have before : ∀ c ∈ record.id.toList, (c != ':') = true := by
    intro c member
    rw [bne_iff_ne]
    rintro rfl
    exact separated member
  have visible : record.line.all Text.isBlank = false := by
    rw [List.all_eq_false]
    exact ⟨':', by simp [Record.line], by decide⟩
  have cut : splitRecord record.line = some (record.id.toList, record.contents.toList) := by
    rw [splitRecord, Record.line, List.dropWhile_append_of_pos before,
      List.takeWhile_append_of_pos before]
    simp
  have set_eq : sheet.set (String.ofList (Text.trim record.id.toList))
      (String.ofList record.contents.toList) = sheet.apply record.edit := by
    rw [String.ofList_toList]
    rfl
  simp only [readLine, visible, Bool.false_eq_true, if_false, cut, set_eq]
  cases sheet.apply record.edit with
  | mk changed answer => cases answer <;> simp

theorem readLines_cons_iff {line : List Char} {rest : List (List Char)} :
    sheet.readLines number (line :: rest) = .ok after ↔
      ∃ next, sheet.readLine number line = .ok next ∧ next.readLines (number + 1) rest = .ok after := by
  rw [readLines]
  cases sheet.readLine number line with
  | error => simp [bind, Except.bind]
  | ok next => simp [bind, Except.bind]

variable {done rest : List Record}

theorem readLines_record_iff (separated : ':' ∉ record.id.toList) :
    sheet.readLines number ((record :: rest).map Record.line) = .ok after ↔
      (∃ updated, (sheet.apply record.edit).2 = .ok updated) ∧
        (sheet.apply record.edit).1.readLines (number + 1) (rest.map Record.line) = .ok after := by
  rw [List.map_cons, readLines_cons_iff]
  simp only [readLine_line separated]
  generalize sheet.apply record.edit = result
  obtain ⟨next, answer⟩ := result
  constructor
  · intro taken
    obtain ⟨_, ⟨updated, same⟩, onward⟩ := taken
    cases same
    exact ⟨⟨updated, rfl⟩, onward⟩
  · intro accepted
    obtain ⟨⟨updated, rfl⟩, onward⟩ := accepted
    exact ⟨next, ⟨updated, rfl⟩, onward⟩

theorem key_ne_of_nodup (distinct : ((done ++ record :: rest).map Record.key).Nodup) :
    ∀ before ∈ done, before.key ≠ record.key := by
  intro before member
  rw [List.map_append, List.nodup_append] at distinct
  exact distinct.2.2 _ (List.mem_map_of_mem member) _ List.mem_cons_self

theorem Holds.readLines (holds : Holds sheet done)
    (separated : ∀ record ∈ rest, ':' ∉ record.id.toList)
    (distinct : ((done ++ rest).map Record.key).Nodup)
    (read : sheet.readLines number (rest.map Record.line) = .ok after) :
    Holds after (done ++ rest) := by
  -- The sheet so far holds what is done, and each record that is read moves there.
  induction rest generalizing sheet done number with
  | nil =>
      cases read
      rwa [List.append_nil]
  | cons record rest ih =>
      rw [List.forall_mem_cons] at separated
      obtain ⟨⟨updated, answer⟩, onward⟩ := (readLines_record_iff separated.1).1 read
      have held := holds.apply (key_ne_of_nodup distinct) answer
      rw [List.append_cons] at distinct ⊢
      exact ih held separated.2 distinct onward

theorem keys_of_readLines (holds : Holds sheet done)
    (separated : ∀ record ∈ rest, ':' ∉ record.id.toList)
    (distinct : ((done ++ rest).map Record.key).Nodup)
    (filled : ∀ record ∈ rest, record.edit.text? ≠ none)
    (read : sheet.readLines number (rest.map Record.line) = .ok after) :
    after.cells.keys = sheet.cells.keys ++ rest.map Record.key := by
  induction rest generalizing sheet done number with
  | nil =>
      cases read
      rw [List.map_nil, List.append_nil]
  | cons record rest ih =>
      rw [List.forall_mem_cons] at separated filled
      obtain ⟨⟨updated, answer⟩, onward⟩ := (readLines_record_iff separated.1).1 read
      have unnamed : record.key ∉ sheet.cells.keys := by
        rw [mem_keys_iff_texts, Option.ne_none_iff_exists', not_exists]
        intro text stored
        obtain ⟨before, member, same, _⟩ := (holds.texts _ _).1 stored
        exact key_ne_of_nodup distinct before member same
      have keys := (outcome_apply holds.settled record.edit).keys_of_new answer filled.1 unnamed
      have held := holds.apply (key_ne_of_nodup distinct) answer
      rw [List.append_cons] at distinct
      rw [ih held separated.2 distinct filled.2 onward, keys, List.append_assoc]
      rfl

private theorem accepted_of_readLines (settled : Settled sheet)
    (separated : ∀ record ∈ rest, ':' ∉ record.id.toList)
    (read : sheet.readLines number (rest.map Record.line) = .ok after) :
    ∀ record ∈ rest, CellId.Valid record.key.toList ∧ ¬ Malformed (typed (some record.contents)) := by
  induction rest generalizing sheet number with
  | nil => exact nofun
  | cons record rest ih =>
      rw [List.forall_mem_cons] at separated ⊢
      obtain ⟨accepted, onward⟩ := (readLines_record_iff separated.1).1 read
      obtain ⟨valid, formed, _⟩ :=
        (settled.accepted_iff record.key (some record.contents)).1 accepted
      exact ⟨⟨valid, formed⟩, ih (settled.apply record.edit) separated.2 onward⟩

/-- No record closes a cycle as long as all of them together have none. -/
theorem not_circular_of_acyclic {records : List Record} (holds : Holds sheet done)
    (acyclic : ∀ id, ¬ TransGen (Record.Refers records) id id)
    (within : ∀ before ∈ done, before ∈ records) (member : record ∈ records) :
    ¬ Circular sheet.links record.key (typed (some record.contents)) := by
  intro circular
  obtain ⟨tree, writes, source, mentioned, closes⟩ := circular
  have refers : Record.Refers records record.key source :=
    ⟨record, member, rfl, tree, Formula.writes_trim_iff.1 writes, mentioned⟩
  rcases closes with rfl | depends
  · exact acyclic record.key (.single refers)
  · rw [Links.DependsOn, holds.reads_eq] at depends
    have onward := TransGen.mono (fun _ _ => Record.Refers.mono within) _ _ depends
    exact acyclic record.key (.head refers onward)

private theorem exists_readLines {records : List Record} (loadable : Record.Loadable records)
    (holds : Holds sheet done) (separated : ∀ record ∈ rest, ':' ∉ record.id.toList)
    (distinct : ((done ++ rest).map Record.key).Nodup)
    (within : ∀ record ∈ done ++ rest, record ∈ records) :
    ∃ after, sheet.readLines number (rest.map Record.line) = .ok after := by
  induction rest generalizing sheet done number with
  | nil => exact ⟨sheet, rfl⟩
  | cons record rest ih =>
      rw [List.forall_mem_cons] at separated
      have member : record ∈ records := within record (by simp)
      -- What is done refers to no more than all records do, so no cycle is closed on the way.
      have harmless := not_circular_of_acyclic holds loadable.acyclic
        (fun before old => within before (List.mem_append_left _ old)) member
      obtain ⟨updated, accepted⟩ := (holds.settled.accepted_iff record.key (some record.contents)).2
        ⟨loadable.valid record member, not_malformed_iff.2 (loadable.formulas record member), harmless⟩
      have held := holds.apply (key_ne_of_nodup distinct) accepted
      rw [List.append_cons] at distinct within
      obtain ⟨after, onward⟩ := ih held separated.2 distinct within
      exact ⟨after, (readLines_record_iff separated.1).2 ⟨⟨updated, accepted⟩, onward⟩⟩

end Read

section Text

variable {records : List Record} {text : List Char}
  (formed : ∀ record ∈ records, record.WellFormed) (distinct : (records.map Record.key).Nodup)
  (written : Record.IsText records text)

include formed distinct written

theorem holds_of_ofRecords {sheet : Sheet} (read : ofRecords text = .ok sheet) :
    Holds sheet records := by
  rw [ofRecords, written.lines_eq formed] at read
  exact holds_empty.readLines (fun record member => (formed record member).separated) distinct read

theorem exists_ofRecords_iff :
    (∃ sheet, ofRecords text = .ok sheet) ↔ Record.Loadable records := by
  have separated : ∀ record ∈ records, ':' ∉ record.id.toList :=
    fun record member => (formed record member).separated
  constructor
  · intro success
    obtain ⟨sheet, read⟩ := success
    have holds := holds_of_ofRecords formed distinct written read
    rw [ofRecords, written.lines_eq formed] at read
    have accepted := accepted_of_readLines settled_empty separated read
    refine ⟨fun record member => (accepted record member).1,
      fun record member => not_malformed_iff.1 (accepted record member).2, ?_⟩
    rw [← holds.reads_eq]
    exact holds.settled.acyclic
  · intro loadable
    rw [ofRecords, written.lines_eq formed]
    exact exists_readLines loadable holds_empty separated distinct fun record member => member

end Text

/-- The order of the lines decides neither about success nor about cells and links, as long as
no two of them name one identifier. A text is read exactly if its records make a sheet together. -/
theorem ofRecords_perm {records permuted : List Record} {text other : List Char}
    (formed : ∀ record ∈ records, record.WellFormed) (distinct : (records.map Record.key).Nodup)
    (perm : permuted.Perm records) (written : Record.IsText records text)
    (otherWritten : Record.IsText permuted other) :
    ((∃ sheet, ofRecords other = .ok sheet) ↔ ∃ sheet, ofRecords text = .ok sheet) ∧
    (∀ first second, ofRecords text = .ok first → ofRecords other = .ok second →
      (∀ id, second.cells.get? id = first.cells.get? id) ∧
        second.links.SameRows first.links) ∧
    ((∃ sheet, ofRecords text = .ok sheet) ↔ Record.Loadable records) := by
  have same : ∀ record, record ∈ permuted ↔ record ∈ records := fun _ => perm.mem_iff
  have otherFormed : ∀ record ∈ permuted, record.WellFormed :=
    fun record member => formed record ((same record).1 member)
  have otherDistinct : (permuted.map Record.key).Nodup :=
    (perm.map Record.key).nodup_iff.2 distinct
  refine ⟨?_, fun first second read otherRead => ?_, exists_ofRecords_iff formed distinct written⟩
  · rw [exists_ofRecords_iff formed distinct written,
      exists_ofRecords_iff otherFormed otherDistinct otherWritten]
    exact ⟨.mono fun record member => (same record).2 member,
      .mono fun record member => (same record).1 member⟩
  · have holds := holds_of_ofRecords formed distinct written read
    have otherHolds := holds_of_ofRecords otherFormed otherDistinct otherWritten otherRead
    have texts := holds.texts_eq otherHolds same
    exact ⟨otherHolds.settled.get?_eq_of_texts_eq holds.settled texts,
      otherHolds.settled.sameRows_of_texts_eq holds.settled texts⟩

/-- A formula before the cell that it reads from, and behind it in a text without a last line
feed. -/
theorem ofRecords_perm_of_forward_reference :
    ∃ first second, ofRecords "B1:=A1\n A1 :x\n".toList = .ok first ∧
      ofRecords " A1 :x\nB1:=A1".toList = .ok second ∧
      (∀ id, second.cells.get? id = first.cells.get? id) ∧
      second.links.SameRows first.links := by
  have plain : ∀ text : String, Text.hasLineBreak text = false →
      ∀ c ∈ text.toList, ¬ Text.EndsLine c := by
    intro text none c member
    rw [Text.endsLine_iff]
    exact List.any_eq_false.1 none c member
  have formed : ∀ record ∈ [Record.mk "B1" "=A1", ⟨" A1 ", "x"⟩], record.WellFormed := by
    rw [List.forall_mem_cons, List.forall_mem_singleton]
    exact ⟨⟨by decide, plain _ (by decide), plain _ (by decide)⟩,
      ⟨by decide, plain _ (by decide), plain _ (by decide)⟩⟩
  have written : Record.IsText [⟨"B1", "=A1"⟩, ⟨" A1 ", "x"⟩] "B1:=A1\n A1 :x\n".toList :=
    .inl (by decide)
  have otherWritten : Record.IsText [⟨" A1 ", "x"⟩, ⟨"B1", "=A1"⟩] " A1 :x\nB1:=A1".toList :=
    .inr (by decide)
  obtain ⟨succeeds, agree, _⟩ := ofRecords_perm formed (by decide) (.swap _ _ []) written otherWritten
  have read : (ofRecords "B1:=A1\n A1 :x\n".toList).toOption.isSome = true := by decide +kernel
  cases first : ofRecords "B1:=A1\n A1 :x\n".toList with
  | error error =>
      rw [first] at read
      cases read
  | ok sheet =>
      obtain ⟨second, otherRead⟩ := succeeds.2 ⟨sheet, first⟩
      exact ⟨sheet, second, rfl, otherRead, agree sheet second first otherRead⟩

end Sheet

end Spreadsheet
