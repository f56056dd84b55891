import Spreadsheet.Proofs.Disk.Place
import Spreadsheet.Proofs.Journal.Confinement
import Spreadsheet.Proofs.Session.Independence
import Spreadsheet.Proofs.Session.Journal

/-! The file of a session that saves its sheet after every edit keeps up with the sheet, as long
as nobody else writes to it. A write takes place as a whole here or leaves the disk as it was. -/

set_option autoImplicit false

namespace Spreadsheet

open Disk

/-! ### Logs leave the file alone -/

namespace Journal.Sink

variable {sink : Sink} {disk : Disk} {place : Place}

private theorem spares_writeWith {session : Option String}
    (apart : ∀ log : Log, log.Safe → log.Holds session → disk.placeOf (sink.path log) ≠ place)
    (fault : Option Fault) (event : Event) :
    Spares place disk (sink.writeWith fault disk event session).1 := by
  unfold writeWith
  split
  · exact .refl place disk
  · unfold appendWith
    split
    · exact spares_append apart event
    · exact .refl place disk
    · have first := spares_appendLine (apart .project trivial trivial) event.line
      change Spares place disk (appendLine disk sink.globalLog event.line).1 at first
      split <;> rename_i result <;> rwa [result] at first

end Journal.Sink

/-- No log is kept in the file of the path. -/
def Host.NoLog (host : Host) (path : Path) : Prop :=
  ∀ sink ∈ host.sink, ∀ log : Journal.Log, log.Safe →
    host.disk.placeOf (sink.path log) ≠ host.disk.placeOf path

/-- The file of the path is left alone, and is no log afterwards. -/
structure Host.Leaves (path : Path) (before after : Host) : Prop where
  spares : Spares (before.disk.placeOf path) before.disk after.disk
  noLog : after.NoLog path

namespace Host

variable {path : Path} {host after : Host}

theorem NoLog.of_workingPlace (noLog : host.NoLog path) (sink : after.sink = host.sink)
    (same : after.disk.workingPlace = host.disk.workingPlace) : after.NoLog path := by
  intro other attached log safe
  rw [placeOf_of_workingPlace same, placeOf_of_workingPlace same]
  exact noLog other (sink ▸ attached) log safe

theorem Leaves.trans {last : Host} (first : Leaves path host after)
    (second : Leaves path after last) : Leaves path host last := by
  refine ⟨first.spares.trans ?_, second.noLog⟩
  rw [← first.spares.placeOf_eq path]
  exact second.spares

theorem leaves_recorderWith (faults : Journal.Event → Option Journal.Fault)
    (noLog : host.NoLog path) (name : String) (event : Journal.Event) :
    Leaves path host (recorderWith faults host name event) := by
  rcases host.recordWith_cases (faults event) event (some name) with
    same | ⟨sink, attached, still, disk⟩
  · rw [recorderWith, same]
    exact ⟨.refl _ host.disk, noLog⟩
  · have apart : ∀ log : Journal.Log, log.Safe → log.Holds (some name) →
        host.disk.placeOf (sink.path log) ≠ host.disk.placeOf path :=
      fun log safe _ => noLog sink attached log safe
    have spares := Journal.Sink.spares_writeWith apart (faults event) event.truncated
    rw [← disk] at spares
    exact ⟨spares, noLog.of_workingPlace (still.trans attached.symm) spares.keeps.workingPlace⟩

theorem NoLog.save (noLog : host.NoLog path) (sheet : Sheet) (other : Path) :
    NoLog { host with disk := (sheet.save host.disk other).1 } path :=
  noLog.of_workingPlace rfl (sheet.keeps_save host.disk other).workingPlace

end Host

/-- The logs that stand keep out of every file that is not one of them. -/
theorem Journal.Sink.Stands.placeOf_path {sink : Sink} {disk : Disk} {root : Place}
    (stands : sink.Stands disk root) {log : Log} (safe : log.Safe) :
    disk.placeOf (sink.path log) = log.place root := by
  rw [Sink.placeOf_path stands.spelled safe, ← place_of_target stands.logs]
  rfl

/-! ### The file holds the sheet -/

namespace Sheet

/-- The file of the path holds the records of the sheet. -/
def Stored (path : Path) (disk : Disk) (sheet : Sheet) : Prop :=
  ∃ text, sheet.toRecords = .ok text ∧ disk.read path = .ok (Text.octets text)

variable {path : Path} {disk after : Disk} {sheet other : Sheet}

theorem Stored.spares (stored : Stored path disk sheet)
    (spares : Spares (disk.placeOf path) disk after) : Stored path after sheet := by
  obtain ⟨text, written, read⟩ := stored
  exact ⟨text, written, spares.read read⟩

private theorem Stored.of_unchanged (stored : Stored path disk sheet)
    (same : sheet.Unchanged other) :
    Stored path disk other := by
  rwa [Stored, toRecords, same.cells]

private theorem stored_of_save (saved : sheet.save disk path = (after, .ok ())) :
    Stored path after sheet := by
  unfold save at saved
  split at saved
  · cases saved
  · rename_i text written
    refine ⟨text, written, ?_⟩
    cases found : disk.filePlace path with
    | error error =>
        rw [Disk.write, found] at saved
        cases saved
    | ok here =>
        rw [Disk.write, found] at saved
        cases saved
        obtain ⟨goal, reached, writable⟩ := target_of_filePlace found
        exact read_put reached writable _

/-- The sheet may be saved once more, to its file or to another one. -/
theorem Stored.save (stored : Stored path disk sheet) (file : Path) :
    Stored path (sheet.save disk file).1 sheet := by
  obtain ⟨text, written, read⟩ := stored
  refine ⟨text, written, ?_⟩
  rw [Sheet.save, written]
  by_cases same : disk.placeOf file = disk.placeOf path
  · change (disk.write file (Text.octets text)).1.read path = _
    unfold Disk.write
    split
    · rename_i found
      obtain ⟨place, reached⟩ := read_eq_ok_iff.1 read
      have here : place = disk.placeOf path := place_of_target reached
      rw [(place_of_filePlace found).1, same, ← here]
      exact read_put reached rfl _
    · exact read
  · exact (spares_write same _).read read

theorem stored_record {host : Host} (noLog : host.NoLog path)
    (stored : Stored path host.disk sheet) (faults : Journal.Event → Option Journal.Fault) (name : String)
    (event : Journal.Event) : Stored path (Host.recorderWith faults host name event).disk sheet :=
  stored.spares (Host.leaves_recorderWith faults noLog name event).spares

/-- What is stored can be loaded, as the same sheet. -/
theorem Stored.exists_load (stored : Stored path disk sheet) (settled : Settled sheet)
    (addressed : Addressed sheet) :
    ∃ text loaded, disk.read path = .ok (Text.octets text) ∧ ofRecords text.toList = .ok loaded ∧
      sheet.Unchanged loaded := by
  obtain ⟨text, written, read⟩ := stored
  obtain ⟨loaded, taken, cells, links⟩ := read_of_toRecords settled addressed written
  exact ⟨text, loaded, read, taken, cells, links⟩

end Sheet

namespace Session

open Host

variable {session : Session} {host : Host} {path : Path} {line : List Char} {sheet : Sheet}

section Lines

variable {faults : Journal.Event → Option Journal.Fault}

/-! ### Accepted edits -/

theorem execute_accepted (record : Recorder) (host : Host) {edit : Edit} {updated : List String}
    (asks : Asks line (.edit edit)) (accepted : session.sheet.apply edit = (sheet, .ok updated)) :
    session.execute record host line =
      ({ session with sheet } : Session).autosave record
        (({ session with sheet } : Session).noteEdit record host
          (if edit.text = "" then .cellDeleted else .cellSet) edit.id edit.typed updated) := by
  cases asks with
  | @set operands id contents begins first =>
      rw [Sheet.apply] at accepted
      rw [execute, ofLine_of_set begins first, run, set, Sheet.set_trimmed, accepted]
      rfl
  | @delete operands begins named =>
      rw [Sheet.apply] at accepted
      rw [execute, ofLine_of_delete begins named, run, delete, accepted]
      rfl

/-- The session saves its sheet to this file after every edit. -/
structure SavesTo (session : Session) (path : Path) : Prop where
  file : session.sheetFile = some path
  wanted : session.config.isSet "autosave" false = true

theorem SavesTo.of_settings {other : Session} (saves : session.SavesTo path)
    (same : other = { session with sheet := other.sheet }) : other.SavesTo path := by
  rw [same]
  exact ⟨saves.file, saves.wanted⟩

theorem SavesTo.autosave_eq (saves : session.SavesTo path) (record : Recorder) (host : Host) :
    session.autosave record host =
      match session.sheet.save host.disk path with
      | (disk, .ok ()) => session.answer { host with disk } ""
      | (disk, .error (.disk .nullCharacter)) =>
        ⟨{ host with disk }, session, .error .nullCharacter⟩
      | (disk, .error error) =>
        session.answer (session.noteSaveFailed record { host with disk } path error)
          s!"Autosave failed: {error.message}" := by
  rw [autosave, saves.file]
  dsimp only
  rw [saves.wanted]
  rfl

/-- Only a sheet that was saved is passed over in silence. -/
theorem SavesTo.stored_of_silent (saves : session.SavesTo path) {record : Recorder}
    (silent : (session.autosave record host).reply = .ok (.text "")) :
    Sheet.Stored path (session.autosave record host).host.disk session.sheet := by
  rw [saves.autosave_eq] at silent ⊢
  split at silent
  · rename_i saved
    exact Sheet.stored_of_save saved
  · cases silent
  · rename_i error _ _
    have output := congrArg Reply.output (Except.ok.inj silent)
    change "Autosave failed: " ++ _ = "" at output
    have filled : 0 < "Autosave failed: ".length := by decide
    have length := congrArg String.length output
    rw [String.length_append, String.length_empty] at length
    omega

/-- Contents that end a line are not saved, and the file is left alone. -/
theorem SavesTo.refuses_of_not_oneLine (saves : session.SavesTo path)
    (faults : Journal.Event → Option Journal.Fault) (noLog : host.NoLog path)
    (broken : ¬ session.sheet.OneLine) :
    (∃ error : RecordError, (session.autosave (recorderWith faults) host).reply =
      .ok (.text ("Autosave failed: " ++ error.message))) ∧
      Leaves path host (session.autosave (recorderWith faults) host).host := by
  obtain ⟨error, refused⟩ := Sheet.save_of_not_oneLine host.disk path broken
  rw [saves.autosave_eq, refused]
  exact ⟨⟨error, rfl⟩, leaves_recorderWith faults noLog _ _⟩

/-! ### Other lines -/

section Stored

variable (noLog : host.NoLog path) (stored : Sheet.Stored path host.disk session.sheet)

include noLog stored

private theorem stored_save (file : Path) :
    Sheet.Stored path (session.save (recorderWith faults) host file).host.disk session.sheet := by
  have saved := stored.save file
  have clear := noLog.save session.sheet file
  unfold save
  split <;> rename_i result <;> rw [result] at saved clear
  · exact Sheet.stored_record clear saved faults _ _
  · exact saved
  · exact Sheet.stored_record clear saved faults _ _

private theorem stored_load (file : Path) :
    Sheet.Stored path (session.load (recorderWith faults) host file).host.disk session.sheet := by
  unfold load
  split
  · exact Sheet.stored_record noLog stored faults _ _
  · exact stored
  · exact Sheet.stored_record noLog stored faults _ _

/-- A line that changes nothing leaves the file with the sheet that it had. -/
theorem stored_execute
    (noEdit : ∀ edit updated, Asks line (.edit edit) →
      (session.sheet.apply edit).2 ≠ .ok updated) :
    Sheet.Stored path (session.execute (recorderWith faults) host line).host.disk
      session.sheet := by
  by_cases asked : ∃ edit, Asks line (.edit edit)
  · obtain ⟨edit, asks⟩ := asked
    rw [host_execute_edit asks]
    cases applied : session.sheet.apply edit with
    | mk sheet answer =>
        cases answer with
        | ok updated => exact absurd (congrArg Prod.snd applied) (noEdit edit updated asks)
        | error error => exact Sheet.stored_record noLog stored faults _ _
  · unfold execute
    cases ask : Command.ofLine line with
    | set edit =>
        cases edit with
        | none => exact stored
        | some edit => exact absurd (asks_of_ofLine (.inl ⟨edit, ask⟩)) asked
    | delete id =>
        cases id with
        | none => exact stored
        | some id => exact absurd (asks_of_ofLine (.inr ⟨id, ask⟩)) asked
    | save name =>
        unfold run
        dsimp only
        split
        · exact stored
        · exact stored_save noLog stored _
    | load name =>
        unfold run
        dsimp only
        split
        · exact stored
        · exact stored_load noLog stored _
    | _ => exact stored

end Stored

private theorem noLog_of_records {name : String} {files : Path → Prop} {events : List Journal.Event}
    {after : Host} (records : Journal.Records (recorderWith faults) name files host events after)
    (noLog : host.NoLog path) : after.NoLog path := by
  induction records with
  | nil => exact noLog
  | note _ _ ih => exact ih (leaves_recorderWith faults noLog _ _).noLog
  | miss _ _ _ ih => exact ih (leaves_recorderWith faults noLog _ _).noLog
  | save sheet file _ _ ih => exact ih (noLog.save sheet file)

private theorem noLog_execute (noLog : host.NoLog path) (line : List Char) :
    (session.execute (recorderWith faults) host line).host.NoLog path := by
  obtain ⟨events, records, _⟩ := session.exists_records (recorderWith faults) host line
  exact noLog_of_records records noLog

end Lines

/-! ### Runs -/

/-- Others may do anything between two lines but write to the file of the path or keep a log
there. -/
structure Others (path : Path) (before after : Host) : Prop where
  read : ∀ octets, before.disk.read path = .ok octets → after.disk.read path = .ok octets
  noLog : after.NoLog path

/-- A session reads lines while others use the host as well. Logs may fail on every line in
another way. The list has the changes that the lines make to the sheet. -/
inductive Runs (path : Path) : Host → Session → List Change → Host → Session → Prop where
  | nil {host : Host} {session : Session} : Runs path host session [] host session
  | line {host last : Host} {session final : Session} {line : List Char}
      {change changes : List Change} (faults : Journal.Event → Option Journal.Fault) :
      Makes session host.disk line change →
      Runs path (session.execute (recorderWith faults) host line).host
        (session.execute (recorderWith faults) host line).session changes last final →
      Runs path host session (change ++ changes) last final
  | others {host middle last : Host} {session final : Session} {changes : List Change} :
      Others path host middle → Runs path middle session changes last final →
      Runs path host session changes last final

section Runs

variable {last : Host} {final : Session} {changes : List Change}

/-- What holds whatever the lines ask for. -/
structure Prepared (path : Path) (host : Host) (session : Session) : Prop where
  saves : session.SavesTo path
  noLog : host.NoLog path
  made : ∃ edits, Sheet.ofEdits edits = session.sheet

theorem Prepared.execute (prepared : Prepared path host session)
    (faults : Journal.Event → Option Journal.Fault) (line : List Char) :
    Prepared path (session.execute (recorderWith faults) host line).host
      (session.execute (recorderWith faults) host line).session where
  saves := prepared.saves.of_settings (settings_execute session _ host line)
  noLog := noLog_execute prepared.noLog line
  made := edits_execute prepared.made _ host line

theorem Prepared.runs (runs : Runs path host session changes last final)
    (prepared : Prepared path host session) : Prepared path last final := by
  induction runs with
  | nil => exact prepared
  | line faults _ _ ih => exact ih (prepared.execute faults _)
  | others others _ ih => exact ih ⟨prepared.saves, others.noLog, prepared.made⟩

theorem Prepared.settled (prepared : Prepared path host session) : session.sheet.Settled := by
  obtain ⟨edits, made⟩ := prepared.made
  exact made ▸ Sheet.settled_ofEdits edits

theorem Prepared.addressed (prepared : Prepared path host session) : session.sheet.Addressed := by
  obtain ⟨edits, made⟩ := prepared.made
  exact made ▸ Sheet.addressed_ofEdits edits

/-- Lines without an accepted edit or a loaded sheet keep file and sheet together. -/
theorem Prepared.stored_runs (runs : Runs path host session changes last final)
    (idle : changes = []) (prepared : Prepared path host session)
    (stored : Sheet.Stored path host.disk session.sheet) :
    Sheet.Stored path last.disk final.sheet := by
  induction runs with
  | nil => exact stored
  | line faults makes _ ih =>
      obtain ⟨rfl, rest⟩ := List.append_eq_nil_iff.1 idle
      refine ih rest (prepared.execute faults _) ?_
      cases makes with
      | nothing noEdit noLoad =>
          have frontEnd := frontEnd_of_settled prepared.settled (recorderWith faults)
          exact (stored_execute prepared.noLog stored noEdit).of_unchanged
            ((frontEnd _).unchanged_of_nothing noEdit noLoad)
  | others others _ ih =>
      obtain ⟨text, written, read⟩ := stored
      exact ih idle ⟨prepared.saves, others.noLog, prepared.made⟩
        ⟨text, written, others.read _ read⟩

/-- What an accepted edit leads to in a session that saves its sheet to a file. -/
structure KeepsUp (path : Path) (host : Host) (turn : Turn) : Prop where
  inStep : turn.reply = .ok (.text "") → ∀ last final,
    Runs path turn.host turn.session [] last final →
    ∃ text loaded, last.disk.read path = .ok (Text.octets text) ∧
      Sheet.ofRecords text.toList = .ok loaded ∧ final.sheet.Unchanged loaded
  refuses : (∃ id cell, turn.session.sheet.cells.get? id = some cell ∧
      ∃ c ∈ cell.contents.toList, Text.EndsLine c) →
    (∃ error : RecordError,
      turn.reply = .ok (.text ("Autosave failed: " ++ error.message))) ∧
    (∀ octets, host.disk.read path = .ok octets → turn.host.disk.read path = .ok octets) ∧
    ∀ octets, turn.host.disk.get? (host.disk.placeOf path) = some (.file octets) ↔
      host.disk.get? (host.disk.placeOf path) = some (.file octets)

private theorem Prepared.keepsUp (prepared : Prepared path host session)
    (faults : Journal.Event → Option Journal.Fault) {edit : Edit} {updated : List String}
    (asks : Asks line (.edit edit)) (accepted : (session.sheet.apply edit).2 = .ok updated) :
    KeepsUp path host (session.execute (recorderWith faults) host line) := by
  have after := prepared.execute faults line
  have whole : session.sheet.apply edit = ((session.sheet.apply edit).1, .ok updated) :=
    Prod.ext rfl accepted
  have turn := execute_accepted (recorderWith faults) host asks whole
  have sheet := session_autosave { session with sheet := (session.sheet.apply edit).1 }
    (recorderWith faults)
  have saves : SavesTo { session with sheet := (session.sheet.apply edit).1 } path :=
    ⟨prepared.saves.file, prepared.saves.wanted⟩
  constructor
  · intro silent last final runs
    have stored : Sheet.Stored path (session.execute (recorderWith faults) host line).host.disk
        (session.execute (recorderWith faults) host line).session.sheet := by
      rw [turn] at silent ⊢
      rw [sheet]
      exact saves.stored_of_silent silent
    have ended := Prepared.runs runs after
    exact (Prepared.stored_runs runs rfl after stored).exists_load ended.settled ended.addressed
  · intro broken
    rw [turn, sheet] at broken
    have lines : ¬ (session.sheet.apply edit).1.OneLine := by
      obtain ⟨id, cell, found, c, inside, ends⟩ := broken
      exact fun oneLine => oneLine id cell.contents (Sheet.texts_eq_some found) c inside ends
    have noted := leaves_recorderWith faults prepared.noLog
    rw [turn, noteEdit, note]
    obtain ⟨reply, leaves⟩ := saves.refuses_of_not_oneLine faults (noted _ _).noLog lines
    have whole := (noted _ _).trans leaves
    exact ⟨reply, fun octets => whole.spares.read, whole.spares.file⟩

end Runs

/-- A session with autosave keeps its file in step with its sheet. After an accepted edit with no
output the file can be read as the sheet of the session, until the next edit is accepted or a sheet
is loaded. An accepted edit that leaves contents with a line break says that the sheet was not
saved, and leaves the file alone. -/
theorem keepsUp_of_autosave (edits : List Edit) (config : Config) (path : Path) (name : String)
    (host : Host) (wanted : config.isSet "autosave" false = true) (noLog : host.NoLog path) :
    ∀ changes before session,
      Runs path host ⟨.ofEdits edits, config, some path, name⟩ changes before session →
      ∀ faults line edit updated, Asks line (.edit edit) →
        (session.sheet.apply edit).2 = .ok updated →
        KeepsUp path before (session.execute (recorderWith faults) before line) := by
  intro changes before session runs faults line edit updated asks accepted
  have prepared : Prepared path host ⟨.ofEdits edits, config, some path, name⟩ :=
    ⟨⟨rfl, wanted⟩, noLog, edits, rfl⟩
  exact (Prepared.runs runs prepared).keepsUp faults asks accepted

/-! ### A file in a new project -/

def sheetPath : Path := ⟨0, ["sheet"]⟩

def loggingHost : Host :=
  { Host.start Journal.newProject .usual "t" 0 [] with sink := some Journal.newLogs }

def savingSession : Session :=
  ⟨.ofEdits [], ⟨[(.text "autosave", .scalar (.bool true))]⟩, some sheetPath, "a"⟩

def failures : Journal.Event → Option Journal.Fault := fun _ => some (.before "full")

private theorem noLog_sheetPath : loggingHost.NoLog sheetPath := by
  intro sink attached log safe same
  obtain rfl := Option.mem_some_iff.1 attached
  have here : loggingHost.disk.placeOf sheetPath = ["sheet"] := by decide +kernel
  have within := log.prefix_place ["logs"]
  rw [← Journal.stands_newLogs.placeOf_path safe] at within
  change ["logs"] <+: loggingHost.disk.placeOf _ at within
  rw [same, here] at within
  exact absurd within (by decide)

/-- An edit that is refused and one that cannot be saved, each behind one that is saved. -/
theorem keepsUp_of_refused_and_broken :
    let saved := savingSession.execute (recorderWith failures) loggingHost "set A1 x".toList
    let refused := saved.session.execute (recorderWith failures) saved.host "set a y".toList
    let broken := saved.session.execute (recorderWith failures) saved.host "set B1 y\x0bz".toList
    (∃ text loaded, refused.host.disk.read sheetPath = .ok (Text.octets text) ∧
      Sheet.ofRecords text.toList = .ok loaded ∧ refused.session.sheet.Unchanged loaded) ∧
    ∃ error : RecordError, broken.reply = .ok (.text ("Autosave failed: " ++ error.message)) := by
  have silent : (savingSession.execute (recorderWith failures) loggingHost
      "set A1 x".toList).reply = .ok (.text "") := by decide +kernel
  intro saved refused broken
  have first : Asks "set A1 x".toList (.edit (.set "A1" (some " x"))) :=
    Journal.asks_set "A1" "x" (by decide) rfl
  have second : Asks "set a y".toList (.edit (.set "a" (some " y"))) :=
    Journal.asks_set "a" "y" (by decide) rfl
  have third : Asks "set B1 y\x0bz".toList (.edit (.set "B1" (some " y\x0bz"))) :=
    Journal.asks_set "B1" "y\x0bz" (by decide) rfl
  have sheet : saved.session.sheet = (savingSession.sheet.apply (.set "A1" (some " x"))).1 := by
    rw [execute_edit first]
  have accepted : (savingSession.sheet.apply (.set "A1" (some " x"))).2 = .ok [] := by
    decide +kernel
  have further : (saved.session.sheet.apply (.set "B1" (some " y\x0bz"))).2 = .ok [] := by
    rw [sheet]
    decide +kernel
  have lost : ∀ updated, (saved.session.sheet.apply (.set "a" (some " y"))).2 ≠ .ok updated := by
    intro updated taken
    have refused : (saved.session.sheet.apply (.set "a" (some " y"))).2.toOption = none := by
      rw [sheet]
      decide +kernel
    rw [taken] at refused
    cases refused
  have given : (saved.session.sheet.apply (.set "B1" (some " y\x0bz"))).1.cells.get? "B1" =
      some (.string "y\x0bz") := by
    rw [sheet]
    decide +kernel
  have runs : Runs sheetPath loggingHost savingSession [.edit (.set "A1" (some " x"))] saved.host
      saved.session := .line failures (.edit first accepted) .nil
  have idle : Runs sheetPath saved.host saved.session [] refused.host refused.session := by
    refine .line failures (.nothing ?_ ?_) .nil
    · intro edit updated asks
      cases second.unique asks
      exact lost updated
    · intro name sheet asks
      cases second.unique asks
  have keeps := keepsUp_of_autosave [] savingSession.config sheetPath "a" loggingHost rfl
    noLog_sheetPath
  change ∀ changes before session, Runs sheetPath loggingHost savingSession changes before
    session → _ at keeps
  have once := keeps _ _ _ .nil failures _ _ _ first accepted
  have again := keeps _ _ _ runs failures _ _ _ third further
  refine ⟨once.inStep silent _ _ idle,
    (again.refuses ⟨"B1", .string "y\x0bz", ?_, '\x0b', ?_, ?_⟩).1⟩
  · rw [execute_edit third]
    exact given
  · decide
  · exact Text.endsLine_iff.2 (by decide)

end Session

end Spreadsheet
