import Spreadsheet.Proofs.Disk.File
import Spreadsheet.Proofs.Sheet.RoundTrip
import Spreadsheet.Proofs.Text.Utf8
import Spreadsheet.Sheet.File

/-! Sheets in files: which sheets a file can hold, and that a saved sheet is loaded again. -/

set_option autoImplicit false

namespace Spreadsheet.Sheet

/-- The sheet that a path stands for: the one in its file, or the empty one as long as
there is no file. -/
inductive InFile (disk : Disk) (path : Path) : Sheet → Prop where
  | loaded {sheet : Sheet} : load disk path = .ok sheet → InFile disk path sheet
  | missing {place : Place} : disk.target path.text = .ok (.vacant place) → InFile disk path ∅

theorem ofOctets_octets (text : String) : ofOctets (Text.octets text) = ofRecords text.toList := by
  rw [ofOctets, Text.octets, Text.Utf8.decode_encode]

section Loaded

variable {disk : Disk} {path : Path} {sheet : Sheet}

theorem load_eq_ok_iff :
    load disk path = .ok sheet ↔
      ∃ place octets, disk.target path.text = .ok (.entry place (.file octets)) ∧
        ofOctets octets = .ok sheet := by
  have read : ∀ octets, disk.read path = .ok octets ↔
      ∃ place, disk.target path.text = .ok (.entry place (.file octets)) :=
    fun octets => Disk.read_eq_ok_iff
  rw [exists_comm]
  simp only [exists_and_right, ← read, load]
  cases disk.read path with
  | error error => simp [Except.mapError, bind, Except.bind]
  | ok octets =>
      simp only [Except.mapError, bind, Except.bind, Except.ok.injEq, exists_eq_left']
      cases ofOctets octets <;> simp

theorem readLines_of_ofOctets {octets : List UInt8} (read : ofOctets octets = .ok sheet) :
    ∃ text, readLines ∅ 1 (Text.lines text) = .ok sheet := by
  unfold ofOctets at read
  split at read
  · exact ⟨_, read⟩
  · cases read

/-- Loading makes no sheets that edits do not make. -/
theorem edits_of_load (loaded : load disk path = .ok sheet) : ∃ edits, ofEdits edits = sheet := by
  obtain ⟨_, octets, _, read⟩ := load_eq_ok_iff.1 loaded
  obtain ⟨text, taken⟩ := readLines_of_ofOctets read
  exact edits_of_readLines taken

private theorem oneLine_of_load (loaded : load disk path = .ok sheet) : OneLine sheet := by
  obtain ⟨_, octets, _, read⟩ := load_eq_ok_iff.1 loaded
  obtain ⟨text, taken⟩ := readLines_of_ofOctets read
  exact oneLine_empty.readLines settled_empty
    (fun line member c inside ends => ends text line member inside) taken

theorem InFile.edits (stored : InFile disk path sheet) : ∃ edits, ofEdits edits = sheet := by
  cases stored with
  | loaded loaded => exact edits_of_load loaded
  | missing => exact ⟨[], rfl⟩

theorem InFile.oneLine (stored : InFile disk path sheet) : OneLine sheet := by
  cases stored with
  | loaded loaded => exact oneLine_of_load loaded
  | missing => exact oneLine_empty

/-- The file can be written, whether or not it is there. -/
theorem InFile.writable (stored : InFile disk path sheet) :
    ∃ goal place, disk.target path.text = .ok goal ∧ goal.filePlace? = some place := by
  cases stored with
  | loaded loaded =>
      obtain ⟨place, octets, found, _⟩ := load_eq_ok_iff.1 loaded
      exact ⟨_, place, found, rfl⟩
  | @missing place free => exact ⟨_, place, free, rfl⟩

end Loaded

/-! ### Saving -/

section Saved

variable {disk : Disk} {path : Path} {sheet : Sheet}

theorem OneLine.apply_iff {edit : Edit} {updated : List String} (oneLine : OneLine sheet)
    (settled : Settled sheet) (accepted : (sheet.apply edit).2 = .ok updated) :
    OneLine (sheet.apply edit).1 ↔
      ¬ ∃ text, edit.text? = some text ∧ ∃ c ∈ text.toList, Text.EndsLine c := by
  have texts := (outcome_apply settled edit).texts_of_ok accepted
  constructor
  · rintro whole ⟨text, given, c, inside, ends⟩
    refine whole edit.id text ?_ c inside ends
    rw [texts, if_pos rfl, given]
  · intro whole id text stored c inside ends
    rw [texts] at stored
    split at stored
    · exact whole ⟨text, stored, c, inside, ends⟩
    · exact oneLine id text stored c inside ends

theorem toRecords_of_oneLine (oneLine : OneLine sheet) : ∃ text, sheet.toRecords = .ok text := by
  cases written : sheet.toRecords with
  | ok text => exact ⟨text, rfl⟩
  | error error =>
      obtain ⟨id, cell, found, c, inside, ends⟩ := toRecords_error_iff.1 ⟨error, written⟩
      exact absurd ends (oneLine id cell.contents (texts_eq_some found) c inside)

theorem save_of_oneLine (settled : Settled sheet) (addressed : Addressed sheet)
    (oneLine : OneLine sheet) {goal : Target} {place : Place}
    (found : disk.target path.text = .ok goal) (writable : goal.filePlace? = some place) :
    ∃ after, sheet.save disk path = (after, .ok ()) ∧
      ∃ loaded, load after path = .ok loaded ∧ Unchanged sheet loaded := by
  obtain ⟨text, written⟩ := toRecords_of_oneLine oneLine
  obtain ⟨loaded, read, cells, links⟩ := read_of_toRecords settled addressed written
  refine ⟨disk.put place (.file (Text.octets text)), ?_, loaded, ?_, cells, links⟩
  · simp only [save, written, Disk.write_of_target found writable]
    rfl
  · refine load_eq_ok_iff.2 ⟨place, Text.octets text, Disk.target_put found writable _, ?_⟩
    rw [ofOctets_octets]
    exact read

theorem save_of_not_oneLine (disk : Disk) (path : Path) (broken : ¬ OneLine sheet) :
    ∃ error, sheet.save disk path = (disk, .error (.record error)) := by
  cases written : sheet.toRecords with
  | error error => exact ⟨error, by rw [save, written]⟩
  | ok text =>
      refine absurd (fun id text stored c inside ends => ?_) broken
      obtain ⟨cell, found, rfl⟩ := Option.map_eq_some_iff.1 stored
      obtain ⟨error, refused⟩ := toRecords_error_iff.2 ⟨id, cell, found, c, inside, ends⟩
      rw [written] at refused
      cases refused

end Saved

end Spreadsheet.Sheet
