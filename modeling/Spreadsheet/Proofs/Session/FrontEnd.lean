import Spreadsheet.Proofs.Sheet.Agreement
import Spreadsheet.Proofs.Sheet.File
import Spreadsheet.Proofs.Text.Word
import Spreadsheet.Session.Execution

/-! What lines do to the sheet of a session: an edit, a loaded sheet, or nothing. -/

set_option autoImplicit false

namespace Spreadsheet

/-- What a line can ask for that concerns the sheet. -/
inductive Demand where
  | edit (edit : Edit)
  | load (name : String)

/-- What a line asks for, told by its words. Blanks separate words and do not count otherwise. -/
inductive Asks (line : List Char) : Demand → Prop where
  | set {operands id contents : List Char} : Text.Begins "set".toList operands line →
      Text.Begins id contents operands →
      Asks line (.edit (.set (String.ofList id) (some (String.ofList contents))))
  | delete {operands : List Char} : Text.Begins "delete".toList operands line →
      Text.trim operands ≠ [] → Asks line (.edit (.delete (String.ofList (Text.trim operands))))
  | load {operands : List Char} : Text.Begins "load".toList operands line →
      Asks line (.load (String.ofList (Text.trim operands)))

/-- A line asks for one thing at most. -/
theorem Asks.unique {line : List Char} {demand other : Demand} (asks : Asks line demand)
    (also : Asks line other) : demand = other := by
  cases asks with
  | set begins first =>
      cases also with
      | set otherBegins otherFirst =>
          obtain ⟨_, rfl⟩ := begins.unique otherBegins
          obtain ⟨rfl, rfl⟩ := first.unique otherFirst
          rfl
      | delete otherBegins => exact absurd (begins.unique otherBegins).1 (by decide)
      | load otherBegins => exact absurd (begins.unique otherBegins).1 (by decide)
  | delete begins =>
      cases also with
      | set otherBegins => exact absurd (begins.unique otherBegins).1 (by decide)
      | delete otherBegins =>
          obtain ⟨_, rfl⟩ := begins.unique otherBegins
          rfl
      | load otherBegins => exact absurd (begins.unique otherBegins).1 (by decide)
  | load begins =>
      cases also with
      | set otherBegins => exact absurd (begins.unique otherBegins).1 (by decide)
      | delete otherBegins => exact absurd (begins.unique otherBegins).1 (by decide)
      | load otherBegins =>
          obtain ⟨_, rfl⟩ := begins.unique otherBegins
          rfl

theorem Sheet.set_trimmed (sheet : Sheet) (id text : String) :
    sheet.set id (Cell.trimmed text) = sheet.set id text := by
  simp only [set, Cell.ofText_trimmed]

namespace Session

/-- The file of a name, or that of the session if there is no name. -/
def fileNamed (session : Session) (name : String) : Option Path :=
  if name = "" then session.sheetFile else some (Path.ofText name)

def Loads (session : Session) (disk : Disk) (name : String) (sheet : Sheet) : Prop :=
  ∃ path, session.fileNamed name = some path ∧ Sheet.load disk path = .ok sheet

/-- What is answered to an edit that is refused. -/
def refusal (error : EditError) : Edit → String
  | .set id contents =>
    let typed := Cell.trimmed (contents.getD "")
    s!"Could not set cell {id} to {typed}:\n{error.message}"
  | .delete id => s!"Could not delete cell {id}:\n{error.message}"

/-- What each line does to a session. Whatever is recorded, and whether or not a file can be
written, makes no difference to it. -/
structure FrontEnd (session : Session) (record : Recorder) (host : Host) : Prop where
  edit : ∀ line edit, Asks line (.edit edit) →
    (session.execute record host line).session =
      { session with sheet := (session.sheet.apply edit).1 }
  refused : ∀ line edit error, Asks line (.edit edit) →
    (session.sheet.apply edit).2 = .error error →
    session.sheet.Unchanged (session.execute record host line).session.sheet ∧
      (session.execute record host line).reply = .ok (.text (refusal error edit))
  loaded : ∀ line name sheet, Asks line (.load name) → session.Loads host.disk name sheet →
    (session.execute record host line).session = { session with sheet }
  notLoaded : ∀ line name, Asks line (.load name) → (∀ sheet, ¬ session.Loads host.disk name sheet) →
    (session.execute record host line).session = session
  other : ∀ line, (∀ demand, ¬ Asks line demand) →
    (session.execute record host line).session = session

section Commands

variable {session : Session} {record : Recorder} {host : Host} {line : List Char}

theorem ofLine_of_begins {word operands : List Char} (begins : Text.Begins word operands line) :
    Command.ofLine line = Command.ofWord (String.ofList word) (Text.trim operands) := by
  rw [Command.ofLine, begins.splitWord_trim]

theorem ofLine_of_blank (blank : ∀ c ∈ line, Text.isBlank c = true) :
    Command.ofLine line = .blank := by
  rw [Command.ofLine, Text.trim_of_blank blank]
  rfl

theorem session_autosave (session : Session) (record : Recorder) (host : Host) :
    (session.autosave record host).session = session := by
  unfold autosave
  split
  · rfl
  · split
    · rfl
    · split <;> rfl

theorem session_save (session : Session) (record : Recorder) (host : Host) (path : Path) :
    (session.save record host path).session = session := by
  unfold save
  split <;> rfl

theorem session_set (session : Session) (record : Recorder) (host : Host) (id contents : String) :
    (session.set record host id contents).session =
      { session with sheet := (session.sheet.set id contents).1 } := by
  unfold set
  split
  · rename_i taken
    rw [session_autosave, taken]
  · rename_i taken
    rw [taken]
    rfl

theorem session_delete (session : Session) (record : Recorder) (host : Host) (id : String) :
    (session.delete record host id).session =
      { session with sheet := (session.sheet.delete id).1 } := by
  unfold delete
  split
  · rename_i taken
    rw [session_autosave, taken]
  · rename_i taken
    rw [taken]
    rfl

private theorem reply_set {id contents : String} {error : EditError}
    (refused : (session.sheet.set id contents).2 = .error error) :
    (session.set record host id contents).reply =
      .ok (.text s!"Could not set cell {id} to {contents}:\n{error.message}") := by
  unfold set
  split
  · rename_i taken
    rw [taken] at refused
    cases refused
  · rename_i taken
    rw [taken] at refused
    cases refused
    rfl

private theorem reply_delete {id : String} {error : EditError}
    (refused : (session.sheet.delete id).2 = .error error) :
    (session.delete record host id).reply =
      .ok (.text s!"Could not delete cell {id}:\n{error.message}") := by
  unfold delete
  split
  · rename_i taken
    rw [taken] at refused
    cases refused
  · rename_i taken
    rw [taken] at refused
    cases refused
    rfl

theorem session_load (session : Session) (record : Recorder) (host : Host) (path : Path) :
    (session.load record host path).session =
      match Sheet.load host.disk path with
      | .ok sheet => { session with sheet }
      | .error _ => session := by
  unfold load
  split
  · rename_i found
    rw [found]
    rfl
  · rename_i failed
    rw [failed]
  · rename_i failed
    rw [failed]
    rfl

end Commands

/-! ### Lines that ask for something -/

section Asked

variable {session : Session} {record : Recorder} {host : Host} {line operands : List Char}

theorem ofLine_of_set {id contents : List Char} (begins : Text.Begins "set".toList operands line)
    (first : Text.Begins id contents operands) :
    Command.ofLine line =
      .set (some (String.ofList id, Cell.trimmed (String.ofList contents))) := by
  have edit : Command.edit? (Text.trim operands) =
      some (String.ofList id, Cell.trimmed (String.ofList contents)) := by
    rw [Command.edit?, first.splitWord_trim, Cell.trimmed, String.toList_ofList]
    rfl
  rw [ofLine_of_begins begins, String.ofList_toList]
  exact congrArg Command.set edit

theorem ofLine_of_delete (begins : Text.Begins "delete".toList operands line)
    (named : Text.trim operands ≠ []) :
    Command.ofLine line = .delete (some (String.ofList (Text.trim operands))) := by
  obtain ⟨first, rest, shape⟩ := List.exists_cons_of_ne_nil named
  rw [ofLine_of_begins begins, String.ofList_toList, shape]
  rfl

theorem ofLine_of_load (begins : Text.Begins "load".toList operands line) :
    Command.ofLine line = .load (Command.operand? (Text.trim operands)) := by
  rw [ofLine_of_begins begins, String.ofList_toList]
  rfl

theorem execute_edit {edit : Edit} (asks : Asks line (.edit edit)) :
    (session.execute record host line).session =
      { session with sheet := (session.sheet.apply edit).1 } := by
  cases asks with
  | @set operands id contents begins first =>
      rw [execute, ofLine_of_set begins first, run, session_set, Sheet.set_trimmed]
      rfl
  | delete begins named =>
      rw [execute, ofLine_of_delete begins named, run, session_delete]
      rfl

theorem execute_refused {edit : Edit} {error : EditError} (asks : Asks line (.edit edit))
    (refused : (session.sheet.apply edit).2 = .error error) :
    (session.execute record host line).reply = .ok (.text (refusal error edit)) := by
  cases asks with
  | @set operands id contents begins first =>
      rw [execute, ofLine_of_set begins first, run]
      refine reply_set ?_
      rw [Sheet.set_trimmed]
      exact refused
  | delete begins named =>
      rw [execute, ofLine_of_delete begins named, run]
      exact reply_delete refused

theorem fileFor_operand (session : Session) (operands : List Char) :
    session.fileFor (Command.operand? operands) = session.fileNamed (String.ofList operands) := by
  cases operands with
  | nil => rfl
  | cons c rest =>
      have filled : String.ofList (c :: rest) ≠ "" := by
        rw [Ne, ← String.toList_inj, String.toList_ofList]
        exact List.cons_ne_nil c rest
      rw [fileNamed, if_neg filled]
      rfl

theorem execute_load {name : String} (asks : Asks line (.load name)) :
    (∀ sheet, session.Loads host.disk name sheet →
      (session.execute record host line).session = { session with sheet }) ∧
    ((∀ sheet, ¬ session.Loads host.disk name sheet) →
      (session.execute record host line).session = session) := by
  cases asks with
  | load begins =>
      rw [execute, ofLine_of_load begins, run, fileFor_operand]
      unfold Loads
      split
      · rename_i nowhere
        simp only [nowhere]
        exact ⟨by rintro sheet ⟨_, ⟨⟩, _⟩, fun _ => rfl⟩
      · rename_i path here
        simp only [here, Option.some.injEq, exists_eq_left', session_load]
        constructor
        · intro sheet loaded
          rw [loaded]
        · intro fails
          split
          · rename_i sheet loaded
            exact absurd loaded (fails sheet)
          · rfl

/-- A line that asks for nothing may show or save the sheet, which stays as it is. -/
theorem execute_other (none : ∀ demand, ¬ Asks line demand) :
    (session.execute record host line).session = session := by
  rcases Text.blank_or_begins line with blank | ⟨word, operands, begins⟩
  · rw [execute, ofLine_of_blank blank]
    rfl
  · rw [execute, ofLine_of_begins begins]
    have spelled : ∀ name, String.ofList word = name → word = name.toList := by
      rintro name rfl
      exact String.toList_ofList.symm
    unfold Command.ofWord
    split
    · rename_i same
      rw [spelled _ same] at begins
      rcases Text.blank_or_begins operands with blank | ⟨id, contents, first⟩
      · rw [Text.trim_of_blank blank]
        rfl
      · exact absurd (.set begins first) (none _)
    · rename_i same
      rw [spelled _ same] at begins
      by_cases named : Text.trim operands = []
      · rw [named]
        rfl
      · exact absurd (.delete begins named) (none _)
    · rfl
    · rfl
    · rfl
    · rfl
    · unfold run
      dsimp only
      split
      · rfl
      · exact session_save session record host _
    · rename_i same
      rw [spelled _ same] at begins
      exact absurd (.load begins) (none _)
    · rfl
    · rfl
    · rfl

end Asked

theorem frontEnd_of_settled {session : Session} (settled : session.sheet.Settled)
    (record : Recorder) (host : Host) : FrontEnd session record host where
  edit line edit asks := execute_edit asks
  refused line edit error asks refused := by
    refine ⟨?_, execute_refused asks refused⟩
    rw [execute_edit asks]
    exact Sheet.unchanged_of_error settled edit refused
  loaded line name sheet asks loads := (execute_load asks).1 sheet loads
  notLoaded line name asks fails := (execute_load asks).2 fails
  other line none := execute_other none

/-! ### Runs of lines -/

/-- An edit that is accepted, or a sheet that is loaded. -/
inductive Change where
  | edit (edit : Edit)
  | load (sheet : Sheet)

def Change.make (sheet : Sheet) : Change → Sheet
  | .edit accepted => (sheet.apply accepted).1
  | .load loaded => loaded

/-- The change that one line makes, if it makes any. -/
inductive Makes (session : Session) (disk : Disk) (line : List Char) : List Change → Prop where
  | edit {edit : Edit} {updated : List String} : Asks line (.edit edit) →
      (session.sheet.apply edit).2 = .ok updated → Makes session disk line [.edit edit]
  | load {name : String} {sheet : Sheet} : Asks line (.load name) →
      session.Loads disk name sheet → Makes session disk line [.load sheet]
  | nothing :
      (∀ edit updated, Asks line (.edit edit) → (session.sheet.apply edit).2 ≠ .ok updated) →
      (∀ name sheet, Asks line (.load name) → ¬ session.Loads disk name sheet) →
      Makes session disk line []

/-- The host and the session after some lines. -/
def executeAll (session : Session) (record : Recorder) (host : Host) :
    List (List Char) → Host × Session
  | [] => (host, session)
  | line :: rest =>
    let turn := session.execute record host line
    turn.session.executeAll record turn.host rest

/-- The changes that some lines make one after the other. -/
inductive Changes (record : Recorder) : Host → Session → List (List Char) → List Change → Prop where
  | nil {host : Host} {session : Session} : Changes record host session [] []
  | cons {host : Host} {session : Session} {line : List Char} {rest : List (List Char)}
      {change changes : List Change} : Makes session host.disk line change →
      Changes record (session.execute record host line).host
        (session.execute record host line).session rest changes →
      Changes record host session (line :: rest) (change ++ changes)

section Run

variable {session : Session} {record : Recorder} {host : Host} {line : List Char}

private theorem exists_makes (session : Session) (disk : Disk) (line : List Char) :
    ∃ change, Makes session disk line change := by
  by_cases accepts : ∃ edit updated, Asks line (.edit edit) ∧
      (session.sheet.apply edit).2 = .ok updated
  · obtain ⟨edit, updated, asks, accepted⟩ := accepts
    exact ⟨_, .edit asks accepted⟩
  · by_cases loads : ∃ name sheet, Asks line (.load name) ∧ session.Loads disk name sheet
    · obtain ⟨name, sheet, asks, loads⟩ := loads
      exact ⟨_, .load asks loads⟩
    · refine ⟨[], .nothing ?_ ?_⟩
      · exact fun edit updated asks accepted => accepts ⟨edit, updated, asks, accepted⟩
      · exact fun name sheet asks loaded => loads ⟨name, sheet, asks, loaded⟩

/-- A line hands an edit or a loaded sheet on, or leaves the session as it is. -/
theorem FrontEnd.cases (frontEnd : FrontEnd session record host) (line : List Char) :
    (∃ edit, Asks line (.edit edit) ∧ (session.execute record host line).session =
      { session with sheet := (session.sheet.apply edit).1 }) ∨
    (∃ name sheet, Asks line (.load name) ∧ session.Loads host.disk name sheet ∧
      (session.execute record host line).session = { session with sheet }) ∨
    (session.execute record host line).session = session := by
  by_cases asked : ∃ demand, Asks line demand
  · obtain ⟨demand, asks⟩ := asked
    cases demand with
    | edit edit => exact .inl ⟨edit, asks, frontEnd.edit line edit asks⟩
    | load name =>
        by_cases loads : ∃ sheet, session.Loads host.disk name sheet
        · obtain ⟨sheet, loads⟩ := loads
          exact .inr (.inl ⟨name, sheet, asks, loads, frontEnd.loaded line name sheet asks loads⟩)
        · exact .inr (.inr (frontEnd.notLoaded line name asks (not_exists.1 loads)))
  · exact .inr (.inr (frontEnd.other line (not_exists.1 asked)))

theorem FrontEnd.unchanged_of_nothing (frontEnd : FrontEnd session record host)
    (noEdit : ∀ edit updated, Asks line (.edit edit) → (session.sheet.apply edit).2 ≠ .ok updated)
    (noLoad : ∀ name sheet, Asks line (.load name) → ¬ session.Loads host.disk name sheet) :
    session.sheet.Unchanged (session.execute record host line).session.sheet := by
  rcases frontEnd.cases line with ⟨edit, asks, _⟩ | ⟨name, sheet, asks, loads, _⟩ | same
  · cases answer : (session.sheet.apply edit).2 with
    | ok updated => exact absurd answer (noEdit edit updated asks)
    | error error => exact (frontEnd.refused line edit error asks answer).1
  · exact absurd loads (noLoad name sheet asks)
  · rw [same]
    exact .refl session.sheet

theorem edits_execute (made : ∃ edits, Sheet.ofEdits edits = session.sheet) (record : Recorder)
    (host : Host) (line : List Char) :
    ∃ edits, Sheet.ofEdits edits = (session.execute record host line).session.sheet := by
  obtain ⟨edits, made⟩ := made
  have frontEnd := frontEnd_of_settled (made ▸ Sheet.settled_ofEdits edits) record host
  rcases frontEnd.cases line with ⟨edit, _, after⟩ | ⟨name, sheet, _, loads, after⟩ | same
  · refine ⟨edits ++ [edit], ?_⟩
    rw [after, Sheet.ofEdits, List.foldl_append, ← Sheet.ofEdits, made]
    rfl
  · obtain ⟨path, _, loaded⟩ := loads
    rw [after]
    exact Sheet.edits_of_load loaded
  · rw [same]
    exact ⟨edits, made⟩

/-- A line changes the sheet of the session as it changes one that is the same. -/
theorem Makes.unchanged {change : List Change} (makes : Makes session host.disk line change)
    (settled : session.sheet.Settled) {memory : Sheet} (same : memory.Unchanged session.sheet) :
    (change.foldl Change.make memory).Unchanged
      (session.execute record host line).session.sheet := by
  have frontEnd := frontEnd_of_settled settled record host
  cases makes with
  | @edit edit updated asks accepted =>
      rw [frontEnd.edit line edit asks]
      exact (same.apply (same.symm.settled settled).consistent edit).2
  | @load name sheet asks loads =>
      rw [frontEnd.loaded line name sheet asks loads]
      exact .refl sheet
  | nothing noEdit noLoad => exact same.trans (frontEnd.unchanged_of_nothing noEdit noLoad)

/-- Both sheets go on side by side, and the one of the session is always one that edits make. -/
theorem exists_changes {memory : Sheet} (same : memory.Unchanged session.sheet)
    (made : ∃ edits, Sheet.ofEdits edits = session.sheet) (record : Recorder) (host : Host)
    (lines : List (List Char)) :
    ∃ changes, Changes record host session lines changes ∧
      (changes.foldl Change.make memory).Unchanged
        (session.executeAll record host lines).2.sheet ∧
      ∃ edits, Sheet.ofEdits edits = (session.executeAll record host lines).2.sheet := by
  induction lines generalizing host session memory with
  | nil => exact ⟨[], .nil, same, made⟩
  | cons line rest ih =>
      obtain ⟨change, makes⟩ := exists_makes session host.disk line
      have settled : session.sheet.Settled := by
        obtain ⟨edits, made⟩ := made
        exact made ▸ Sheet.settled_ofEdits edits
      obtain ⟨changes, told, kept, madeAfter⟩ :=
        ih (makes.unchanged settled same) (edits_execute made record host line) _
      refine ⟨change ++ changes, .cons makes told, ?_, madeAfter⟩
      rwa [List.foldl_append]

end Run

/-- A session hands edits and loaded sheets on and leaves its sheet alone otherwise. After any
lines, the sheet is one that edits make, and the one that the accepted edits and the loaded sheets
alone lead to. -/
theorem frontEnd_ofEdits (edits : List Edit) (config : Config) (file : Option Path) (name : String)
    (record : Recorder) (host : Host) :
    let session : Session := ⟨.ofEdits edits, config, file, name⟩
    FrontEnd session record host ∧
      ∀ lines, ∃ changes, Changes record host session lines changes ∧
        let after := (session.executeAll record host lines).2.sheet
        (changes.foldl Change.make session.sheet).Unchanged after ∧
          after.Settled ∧ ∃ edits, Sheet.ofEdits edits = after := by
  intro session
  refine ⟨frontEnd_of_settled (Sheet.settled_ofEdits edits) record host, fun lines => ?_⟩
  obtain ⟨changes, told, same, others, made⟩ :=
    exists_changes (.refl session.sheet) ⟨edits, rfl⟩ record host lines
  exact ⟨changes, told, same, made ▸ Sheet.settled_ofEdits others, others, made⟩

end Session

end Spreadsheet
