import Spreadsheet.Proofs.Session.Autosave

/-! A session replies to every line and reports whatever fails, with one exception: a path with a
null character cannot be handed to the system at all, and what comes of that is not caught. -/

set_option autoImplicit false

namespace Spreadsheet

/-! ### Paths with a null character -/

section Null

variable (sheet : Sheet) (disk : Disk) (path : Path)

private theorem Disk.read_eq_null_iff :
    disk.read path = .error .nullCharacter ↔ '\x00' ∈ path.text.toList := by
  rw [← stat_eq_null_iff disk, read]
  cases disk.stat path.text with
  | error error => simp
  | ok entry => cases entry <;> simp

private theorem Disk.write_eq_null_iff (octets : List UInt8) :
    (disk.write path octets).2 = .error .nullCharacter ↔ '\x00' ∈ path.text.toList := by
  rw [← target_eq_null_iff disk, write, filePlace]
  cases disk.target path.text with
  | error error => simp
  | ok goal =>
      cases goal with
      | vacant => simp
      | entry place entry => cases entry <;> simp

private theorem Sheet.load_eq_null_iff :
    load disk path = .error (.disk .nullCharacter) ↔ '\x00' ∈ path.text.toList := by
  rw [← Disk.read_eq_null_iff disk, load]
  cases disk.read path with
  | error error => simp [Except.mapError, bind, Except.bind]
  | ok octets =>
      cases read : ofOctets octets <;> simp [read, Except.mapError, bind, Except.bind]

/-- A sheet that cannot be written as records is refused before its file is opened. -/
theorem Sheet.save_eq_null_iff :
    (sheet.save disk path).2 = .error (.disk .nullCharacter) ↔
      sheet.OneLine ∧ '\x00' ∈ path.text.toList := by
  by_cases oneLine : sheet.OneLine
  · obtain ⟨text, written⟩ := toRecords_of_oneLine oneLine
    rw [← Disk.write_eq_null_iff disk path (Text.octets text), save, written]
    cases answer : (disk.write path (Text.octets text)).2 <;>
      simp [answer, oneLine, Except.mapError]
  · obtain ⟨error, refused⟩ := save_of_not_oneLine disk path oneLine
    simp [refused, oneLine]

end Null

namespace Session

/-- What is replied to a failure with a sheet file. -/
def reportOf (what : String) : FileError → Except DiskError Reply
  | .disk .nullCharacter => .error .nullCharacter
  | error => .ok (.text (what ++ error.message))

section Reports

variable {what : String} {error : FileError}

theorem reportOf_eq_error_iff {uncaught : DiskError} :
    reportOf what error = .error uncaught ↔
      uncaught = .nullCharacter ∧ error = .disk .nullCharacter := by
  rcases error with (_ | _) | _ <;> simp [reportOf, eq_comm]

theorem reply_of_reportOf {reply : Reply} (replied : reportOf what error = .ok reply) :
    reply = .text (what ++ error.message) := by
  rcases error with (_ | _) | _ <;> simp_all [reportOf]

end Reports

section Files

variable {session : Session} {record : Recorder} {host : Host} {path : Path}

theorem reply_save :
    (session.save record host path).reply =
      match (session.sheet.save host.disk path).2 with
      | .ok () => .ok (.text s!"Saving sheet to '{path.text}'... done.")
      | .error error => reportOf "Could not save sheet: " error := by
  unfold save
  rcases session.sheet.save host.disk path with ⟨_, ((_ | _) | _) | _⟩ <;> rfl

theorem reply_load :
    (session.load record host path).reply =
      match Sheet.load host.disk path with
      | .ok _ => .ok (.text s!"Loading sheet from '{path.text}'... done.")
      | .error error => reportOf "Could not load sheet: " error := by
  unfold load
  rcases Sheet.load host.disk path with ((_ | _) | _) | _ <;> rfl

theorem SavesTo.reply_autosave (saves : session.SavesTo path) :
    (session.autosave record host).reply =
      match (session.sheet.save host.disk path).2 with
      | .ok () => .ok (.text "")
      | .error error => reportOf "Autosave failed: " error := by
  rw [saves.autosave_eq]
  rcases session.sheet.save host.disk path with ⟨_, ((_ | _) | _) | _⟩ <;> rfl

private theorem reply_autosave_of_not_savesTo (keeps : ∀ path, ¬ session.SavesTo path) :
    (session.autosave record host).reply = .ok (.text "") := by
  unfold autosave
  split
  · rfl
  · rename_i path file
    split
    · rfl
    · rename_i wanted
      exact absurd ⟨file, by simpa using wanted⟩ (keeps path)

variable {error : DiskError}

theorem reply_save_eq_error_iff :
    (session.save record host path).reply = .error error ↔
      error = .nullCharacter ∧ session.sheet.OneLine ∧ '\x00' ∈ path.text.toList := by
  rw [reply_save, ← Sheet.save_eq_null_iff session.sheet host.disk]
  cases (session.sheet.save host.disk path).2 with
  | ok => simp
  | error failure => simp [reportOf_eq_error_iff]

theorem reply_load_eq_error_iff :
    (session.load record host path).reply = .error error ↔
      error = .nullCharacter ∧ '\x00' ∈ path.text.toList := by
  rw [reply_load, ← Sheet.load_eq_null_iff host.disk]
  cases Sheet.load host.disk path with
  | ok => simp
  | error failure => simp [reportOf_eq_error_iff]

theorem reply_autosave_eq_error_iff :
    (session.autosave record host).reply = .error error ↔
      error = .nullCharacter ∧
        ∃ path, session.SavesTo path ∧ session.sheet.OneLine ∧ '\x00' ∈ path.text.toList := by
  by_cases saves : ∃ path, session.SavesTo path
  · obtain ⟨path, saves⟩ := saves
    have only (other : Path) : session.SavesTo other ↔ other = path := by
      constructor
      · exact fun also => Option.some.inj (also.file.symm.trans saves.file)
      · exact fun same => same ▸ saves
    simp only [only, exists_eq_left, saves.reply_autosave,
      ← Sheet.save_eq_null_iff session.sheet host.disk]
    cases (session.sheet.save host.disk path).2 with
    | ok => simp
    | error failure => simp [reportOf_eq_error_iff]
  · have keeps : ∀ path, ¬ session.SavesTo path := not_exists.1 saves
    simp [reply_autosave_of_not_savesTo keeps, keeps]

end Files

/-! ### Lines -/

/-- The files that a line opens. A sheet with a line break in its contents is refused before. -/
inductive Opens (session : Session) (line : List Char) : Path → Prop where
  | autosave {edit : Edit} {sheet : Sheet} {updated : List String} {path : Path} :
      Asks line (.edit edit) → session.sheet.apply edit = (sheet, .ok updated) →
      session.SavesTo path → sheet.OneLine → Opens session line path
  | save {operands : List Char} {path : Path} : Text.Begins "save".toList operands line →
      session.fileNamed (String.ofList (Text.trim operands)) = some path →
      session.sheet.OneLine → Opens session line path
  | load {name : String} {path : Path} : Asks line (.load name) →
      session.fileNamed name = some path → Opens session line path

/-- What fails on a line, with the report of it. -/
inductive Fails (session : Session) (record : Recorder) (host : Host) (line : List Char) :
    String → Prop where
  | edit {edit : Edit} {error : EditError} : Asks line (.edit edit) →
      (session.sheet.apply edit).2 = .error error →
      Fails session record host line (refusal error edit)
  | autosave {edit : Edit} {sheet : Sheet} {updated : List String} {path : Path}
      {error : FileError} : Asks line (.edit edit) →
      session.sheet.apply edit = (sheet, .ok updated) → session.SavesTo path →
      (sheet.save (({ session with sheet } : Session).noteEdit record host
        (if edit.text = "" then .cellDeleted else .cellSet) edit.id edit.typed updated).disk
          path).2 = .error error →
      Fails session record host line ("Autosave failed: " ++ error.message)
  | save {operands : List Char} {path : Path} {error : FileError} :
      Text.Begins "save".toList operands line →
      session.fileNamed (String.ofList (Text.trim operands)) = some path →
      (session.sheet.save host.disk path).2 = .error error →
      Fails session record host line ("Could not save sheet: " ++ error.message)
  | load {name : String} {path : Path} {error : FileError} : Asks line (.load name) →
      session.fileNamed name = some path → Sheet.load host.disk path = .error error →
      Fails session record host line ("Could not load sheet: " ++ error.message)

section Lines

variable {session : Session} {record : Recorder} {host : Host} {line operands : List Char}
  {name : String} {path : Path} {error : DiskError}

theorem execute_of_save (begins : Text.Begins "save".toList operands line)
    (named : session.fileNamed (String.ofList (Text.trim operands)) = some path) :
    session.execute record host line = session.save record host path := by
  have asked : Command.ofLine line = .save (Command.operand? (Text.trim operands)) := by
    rw [ofLine_of_begins begins, String.ofList_toList]
    rfl
  rw [execute, asked, run, fileFor_operand, named]

theorem execute_of_load (asks : Asks line (.load name)) (named : session.fileNamed name = some path) :
    session.execute record host line = session.load record host path := by
  cases asks with
  | load begins => rw [execute, ofLine_of_load begins, run, fileFor_operand, named]

theorem begins_of_ofLine {command : Command} (asked : Command.ofLine line = command)
    (filled : command ≠ .blank) :
    ∃ word operands, Text.Begins word operands line ∧
      Command.ofWord (String.ofList word) (Text.trim operands) = command := by
  rcases Text.blank_or_begins line with blank | ⟨word, operands, begins⟩
  · exact absurd (asked.symm.trans (ofLine_of_blank blank)) filled
  · exact ⟨word, operands, begins, (ofLine_of_begins begins).symm.trans asked⟩

private theorem begins_of_save {name : Option String} (asked : Command.ofLine line = .save name) :
    ∃ operands, Text.Begins "save".toList operands line ∧
      name = Command.operand? (Text.trim operands) := by
  obtain ⟨word, operands, begins, asked⟩ := begins_of_ofLine asked nofun
  obtain ⟨operand, saves | loads⟩ := Command.word_of_file (.inl asked)
  · obtain rfl : word = "save".toList := by rw [← saves, String.toList_ofList]
    exact ⟨operands, begins, operand⟩
  · rw [loads] at asked
    cases asked

private theorem asks_of_load {name : Option String} (asked : Command.ofLine line = .load name) :
    ∃ operands, Asks line (.load (String.ofList (Text.trim operands))) ∧
      name = Command.operand? (Text.trim operands) := by
  obtain ⟨word, operands, begins, asked⟩ := begins_of_ofLine asked nofun
  obtain ⟨operand, saves | loads⟩ := Command.word_of_file (.inr asked)
  · rw [saves] at asked
    cases asked
  · obtain rfl : word = "load".toList := by rw [← loads, String.toList_ofList]
    exact ⟨operands, .load begins, operand⟩

theorem opens_of_edit {edit : Edit} (asks : Asks line (.edit edit))
    (lost : (session.execute record host line).reply = .error error) :
    error = .nullCharacter ∧ ∃ path, Opens session line path ∧ '\x00' ∈ path.text.toList := by
  cases applied : session.sheet.apply edit with
  | mk sheet answer =>
      cases answer with
      | error refusal =>
          rw [execute_refused asks (congrArg Prod.snd applied)] at lost
          cases lost
      | ok updated =>
          rw [execute_accepted record host asks applied] at lost
          obtain ⟨same, path, saves, oneLine, null⟩ := reply_autosave_eq_error_iff.1 lost
          exact ⟨same, path, .autosave asks applied (saves.of_settings rfl) oneLine, null⟩

/-- Whatever is not a reply comes of opening a file. -/
theorem opens_of_error (lost : (session.execute record host line).reply = .error error) :
    error = .nullCharacter ∧ ∃ path, Opens session line path ∧ '\x00' ∈ path.text.toList := by
  have run := lost
  unfold execute at run
  cases asked : Command.ofLine line with
  | set edit =>
      cases edit with
      | none =>
          rw [asked] at run
          cases run
      | some edit =>
          obtain ⟨edit, asks⟩ := asks_of_ofLine (.inl ⟨edit, asked⟩)
          exact opens_of_edit asks lost
  | delete id =>
      cases id with
      | none =>
          rw [asked] at run
          cases run
      | some id =>
          obtain ⟨edit, asks⟩ := asks_of_ofLine (.inr ⟨id, asked⟩)
          exact opens_of_edit asks lost
  | save name =>
      obtain ⟨operands, begins, rfl⟩ := begins_of_save asked
      rw [asked, Session.run, fileFor_operand] at run
      cases named : session.fileNamed (String.ofList (Text.trim operands)) with
      | none =>
          rw [named] at run
          cases run
      | some path =>
          rw [named] at run
          obtain ⟨same, oneLine, null⟩ := reply_save_eq_error_iff.1 run
          exact ⟨same, path, .save begins named oneLine, null⟩
  | load name =>
      obtain ⟨operands, asks, rfl⟩ := asks_of_load asked
      rw [asked, Session.run, fileFor_operand] at run
      cases named : session.fileNamed (String.ofList (Text.trim operands)) with
      | none =>
          rw [named] at run
          cases run
      | some path =>
          rw [named] at run
          obtain ⟨same, null⟩ := reply_load_eq_error_iff.1 run
          exact ⟨same, path, .load asks named, null⟩
  | _ =>
      rw [asked] at run
      cases run

theorem Opens.reply (opens : Opens session line path) (null : '\x00' ∈ path.text.toList) :
    (session.execute record host line).reply = .error .nullCharacter := by
  cases opens with
  | autosave asks accepted saves oneLine =>
      rw [execute_accepted record host asks accepted]
      exact reply_autosave_eq_error_iff.2 ⟨rfl, path, saves.of_settings rfl, oneLine, null⟩
  | save begins named oneLine =>
      rw [execute_of_save begins named]
      exact reply_save_eq_error_iff.2 ⟨rfl, oneLine, null⟩
  | load asks named =>
      rw [execute_of_load asks named]
      exact reply_load_eq_error_iff.2 ⟨rfl, null⟩

theorem Fails.reply {report : String} {reply : Reply} (fails : Fails session record host line report)
    (replied : (session.execute record host line).reply = .ok reply) : reply = .text report := by
  cases fails with
  | edit asks refused =>
      rw [execute_refused asks refused] at replied
      exact (Except.ok.inj replied).symm
  | @autosave edit sheet updated path error asks accepted saves failed =>
      have saves : SavesTo { session with sheet } path := saves.of_settings rfl
      rw [execute_accepted record host asks accepted, saves.reply_autosave, failed] at replied
      exact reply_of_reportOf replied
  | save begins named failed =>
      rw [execute_of_save begins named, reply_save, failed] at replied
      exact reply_of_reportOf replied
  | load asks named failed =>
      rw [execute_of_load asks named, reply_load, failed] at replied
      exact reply_of_reportOf replied

end Lines

/-- A session replies to every line unless it opens a file whose path has a null character, and
what is uncaught then is that the path has one. Every edit that is refused, and every file that
cannot be read or written, is told in the reply. -/
theorem replies_unless_null (session : Session) (record : Recorder) (host : Host)
    (line : List Char) :
    (∀ error, (session.execute record host line).reply = .error error ↔
      error = .nullCharacter ∧ ∃ path, Opens session line path ∧ '\x00' ∈ path.text.toList) ∧
    ∀ report, Fails session record host line report → ∀ reply,
      (session.execute record host line).reply = .ok reply → reply = .text report := by
  refine ⟨fun error => ⟨opens_of_error, ?_⟩, fun report fails reply => fails.reply⟩
  intro opened
  obtain ⟨rfl, path, opens, null⟩ := opened
  exact opens.reply null

/-- A session without a file of its own, on an empty disk. -/
def bareSession : Session := ⟨∅, Config.default, none, "a"⟩

def bareHost : Host := Host.start ⟨∅, []⟩ .usual "t" 0 []

theorem replies_of_missing_file :
    ∃ reply, (bareSession.execute Host.recorder bareHost "load x".toList).reply = .ok reply ∧
      reply = .text "Could not load sheet: [Errno 2] No such file or directory: 'x'" := by
  have begins : Text.Begins "load".toList [' ', 'x'] "load x".toList :=
    Text.begins_of_space (List.cons_ne_nil _ _) (by decide) ['x']
  have asks : Asks "load x".toList (.load "x") := .load begins
  have missing : Sheet.load bareHost.disk (Path.ofText "x") =
      .error (.disk (.system .notFound (some "x"))) := by decide +kernel
  have fails : Fails bareSession Host.recorder bareHost "load x".toList _ :=
    .load asks rfl missing
  obtain ⟨lost, told⟩ := replies_unless_null bareSession Host.recorder bareHost "load x".toList
  cases replied : (bareSession.execute Host.recorder bareHost "load x".toList).reply with
  | ok reply => exact ⟨reply, rfl, told _ fails reply replied⟩
  | error error =>
      obtain ⟨-, path, opens, null⟩ := (lost error).1 replied
      cases opens with
      | autosave also => cases asks.unique also
      | save also => exact absurd (begins.unique also).1 (by decide)
      | load also named =>
          cases asks.unique also
          cases named
          exact absurd null (by decide)

/-- A null character in a path is uncaught. -/
theorem no_reply_of_null_in_path :
    (bareSession.execute Host.recorder bareHost "save a\x00b".toList).reply =
      .error .nullCharacter := by
  decide +kernel

end Session

end Spreadsheet
