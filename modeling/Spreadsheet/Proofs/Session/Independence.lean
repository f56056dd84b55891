import Spreadsheet.Proofs.Disk.Area
import Spreadsheet.Proofs.Journal.Log
import Spreadsheet.Proofs.Session.Recording

/-! What becomes of the events of a session makes no difference to it. Its replies, its sheet and
the files outside of the logs are the same whether events are logged, discarded or lost half-way. -/

set_option autoImplicit false

namespace Spreadsheet

namespace Journal

/-- What can go wrong with an event, and what is said of it: nothing is logged, or the line is in
the log of the project but not in that of the session. -/
inductive Fault where
  | before (message : String)
  | between (message : String)

namespace Sink

/-- Logs an event as `append` does, up to the point where something goes wrong. -/
def appendWith (fault : Option Fault) (sink : Sink) (disk : Disk) (event : Event)
    (session : Option String) : Disk × Except String Unit :=
  match fault with
  | none =>
    let (disk, result) := sink.append disk event session
    (disk, result.mapError DiskError.message)
  | some (.before message) => (disk, .error message)
  | some (.between message) =>
    match appendLine disk sink.globalLog event.line with
    | (disk, .error error) => (disk, .error error.message)
    | (disk, .ok ()) => (disk, .error message)

def writeWith (fault : Option Fault) (sink : Sink) (disk : Disk) (event : Event)
    (session : Option String) : Disk × Except String Unit :=
  match event.check with
  | .error error => (disk, .error error.message)
  | .ok () => sink.appendWith fault disk event session

private theorem writeWith_none (sink : Sink) (disk : Disk) (event : Event)
    (session : Option String) :
    sink.writeWith none disk event session =
      ((sink.write disk event session).1,
        (sink.write disk event session).2.mapError WriteError.message) := by
  unfold writeWith write
  cases event.check with
  | error error => rfl
  | ok =>
      dsimp only [appendWith]
      cases (sink.append disk event session).2 <;> rfl

section Area

variable {sink : Sink} {disk : Disk} {root : Place} {inside : Place → Prop}

/-- Whether or not a line can be added to a log, no directory goes, and nothing changes outside of
an area that holds the logs. -/
theorem Stands.appendLine_within (stands : sink.Stands disk root)
    (within : ∀ log : Log, inside (log.place root)) (log : Log) (safe : log.Safe)
    (line : List Char) :
    disk.Keeps (appendLine disk (sink.path log) line).1 ∧
      Disk.AgreeOutside inside disk (appendLine disk (sink.path log) line).1 := by
  cases added : appendLine disk (sink.path log) line with
  | mk after answer =>
      cases answer with
      | error =>
          rw [stands.disk_of_appendLine_error log added]
          exact ⟨.refl disk, .refl inside disk⟩
      | ok =>
          obtain ⟨takes, rfl⟩ := (stands.appendLine_eq_ok_iff safe).1 added
          exact ⟨Disk.keeps_put takes.free, Disk.agreeOutside_put (within log) disk⟩

private theorem Stands.append_within (stands : sink.Stands disk root)
    (within : ∀ log : Log, inside (log.place root)) (event : Event) (session : Option String) :
    disk.Keeps (sink.append disk event session).1 ∧
      Disk.AgreeOutside inside disk (sink.append disk event session).1 := by
  have first := stands.appendLine_within within .project trivial event.line
  unfold append
  rw [← show sink.path .project = sink.globalLog from rfl]
  generalize appendLine disk (sink.path .project) event.line = project at first
  obtain ⟨middle, _ | _⟩ := project
  · exact first
  · dsimp only
    split
    · rename_i name
      split
      · rename_i safe
        have second := (stands.keeps first.1).appendLine_within within (.session name) safe
          event.line
        exact ⟨first.1.trans second.1, first.2.trans second.2⟩
      · exact first
    · exact first

theorem Stands.writeWith_within (stands : sink.Stands disk root)
    (within : ∀ log : Log, inside (log.place root)) (fault : Option Fault) (event : Event)
    (session : Option String) :
    disk.Keeps (sink.writeWith fault disk event session).1 ∧
      Disk.AgreeOutside inside disk (sink.writeWith fault disk event session).1 := by
  have unchanged : disk.Keeps disk ∧ Disk.AgreeOutside inside disk disk :=
    ⟨.refl disk, .refl inside disk⟩
  unfold writeWith
  split
  · exact unchanged
  · cases fault with
    | none => exact stands.append_within within event session
    | some fault =>
        cases fault with
        | before => exact unchanged
        | between =>
            have first := stands.appendLine_within within .project trivial event.line
            dsimp only [appendWith]
            split
            · rename_i added
              exact congrArg Prod.fst added ▸ first
            · rename_i added
              exact congrArg Prod.fst added ▸ first

end Area

end Sink

end Journal

namespace Host

def recordWith (fault : Option Journal.Fault) (host : Host) (event : Journal.Event)
    (session : Option String) : Host :=
  match host.sink with
  | none => host
  | some sink =>
    match sink.writeWith fault host.disk event.truncated session with
    | (disk, .ok ()) => { host with disk }
    | (disk, .error message) => { host with disk }.warn s!"logging failed: {message}"

private theorem recordWith_none (host : Host) (event : Journal.Event) (session : Option String) :
    host.recordWith none event session = host.record event session := by
  unfold recordWith record
  cases host.sink with
  | none => rfl
  | some sink =>
      dsimp only
      rw [Journal.Sink.writeWith_none]
      generalize sink.write host.disk event.truncated session = result
      obtain ⟨disk, answer⟩ := result
      cases answer <;> rfl

/-- A recorder that meets with a fault or none, depending on the event. -/
def recorderWith (faults : Journal.Event → Option Journal.Fault) : Recorder :=
  fun host session event => host.recordWith (faults event) event (some session)

theorem recorderWith_none : recorderWith (fun _ => none) = recorder := by
  funext host session event
  exact host.recordWith_none event (some session)

theorem recordWith_cases (fault : Option Journal.Fault) (host : Host) (event : Journal.Event)
    (session : Option String) :
    host.recordWith fault event session = host ∨ ∃ sink ∈ host.sink,
      (host.recordWith fault event session).sink = some sink ∧
        (host.recordWith fault event session).disk =
          (sink.writeWith fault host.disk event.truncated session).1 := by
  unfold recordWith
  cases attached : host.sink with
  | none => exact .inl rfl
  | some sink =>
      refine .inr ⟨sink, rfl, ?_⟩
      dsimp only
      split
      · rename_i written
        exact ⟨rfl, (congrArg Prod.fst written).symm⟩
      · rename_i written
        exact ⟨warn_sink _ _, (warn_disk _ _).trans (congrArg Prod.fst written).symm⟩

/-- The logs of the host, if it has any, are all in one area. -/
def LogsWithin (inside : Place → Prop) (host : Host) : Prop :=
  ∀ sink ∈ host.sink, ∃ root, sink.Stands host.disk root ∧
    ∀ log : Journal.Log, inside (log.place root)

section LogsWithin

variable {inside : Place → Prop} {host after : Host}

theorem LogsWithin.keeps (logs : host.LogsWithin inside) (same : after.sink = host.sink)
    (keeps : host.disk.Keeps after.disk) : after.LogsWithin inside := by
  intro sink attached
  obtain ⟨root, stands, within⟩ := logs sink (same ▸ attached)
  exact ⟨root, stands.keeps keeps, within⟩

theorem LogsWithin.save (logs : host.LogsWithin inside) (sheet : Sheet) (path : Path) :
    LogsWithin inside { host with disk := (sheet.save host.disk path).1 } :=
  logs.keeps rfl (sheet.keeps_save host.disk path)

end LogsWithin

end Host

/-- A recorder that changes nothing outside of an area, as long as the logs are in it. -/
structure Discreet (inside : Place → Prop) (record : Recorder) : Prop where
  agree : ∀ {host : Host} (name : String) (event : Journal.Event), host.LogsWithin inside →
    Disk.AgreeOutside inside host.disk (record host name event).disk
  stays : ∀ {host : Host} (name : String) (event : Journal.Event), host.LogsWithin inside →
    (record host name event).LogsWithin inside

theorem Host.discreet_recorderWith (inside : Place → Prop)
    (faults : Journal.Event → Option Journal.Fault) : Discreet inside (recorderWith faults) where
  agree {host} name event logs := by
    rcases host.recordWith_cases (faults event) event (some name) with
      same | ⟨sink, attached, _, disk⟩
    · rw [recorderWith, same]
      exact .refl inside host.disk
    · obtain ⟨root, stands, within⟩ := logs sink attached
      rw [recorderWith, disk]
      exact (stands.writeWith_within within _ _ _).2
  stays {host} name event logs := by
    rcases host.recordWith_cases (faults event) event (some name) with
      same | ⟨sink, attached, still, disk⟩
    · rw [recorderWith, same]
      exact logs
    · obtain ⟨root, stands, within⟩ := logs sink attached
      refine logs.keeps (still.trans attached.symm) ?_
      rw [recorderWith, disk]
      exact (stands.writeWith_within within _ _ _).1

/-! ### Turns -/

/-- Two hosts that a session cannot tell apart. -/
structure Paired (inside : Place → Prop) (host₁ host₂ : Host) : Prop where
  first : host₁.LogsWithin inside
  second : host₂.LogsWithin inside
  agree : Disk.AgreeOutside inside host₁.disk host₂.disk

/-- Two turns with one outcome. -/
structure SameTurn (inside : Place → Prop) (turn₁ turn₂ : Turn) : Prop where
  reply : turn₂.reply = turn₁.reply
  session : turn₂.session = turn₁.session
  hosts : Paired inside turn₁.host turn₂.host

section Turns

variable {inside : Place → Prop} {record₁ record₂ : Recorder} {host₁ host₂ : Host} {path : Path}

theorem Paired.answer (paired : Paired inside host₁ host₂) (session : Session) (output : String) :
    SameTurn inside (session.answer host₁ output) (session.answer host₂ output) :=
  ⟨rfl, rfl, paired⟩

/-- A sheet is saved on both hosts or on none, and with the same answer. -/
theorem Paired.save (paired : Paired inside host₁ host₂) (sheet : Sheet)
    (clear : host₁.disk.Avoids inside path) :
    ∃ disk₁ disk₂ answer, sheet.save host₁.disk path = (disk₁, answer) ∧
      sheet.save host₂.disk path = (disk₂, answer) ∧
        Paired inside { host₁ with disk := disk₁ } { host₂ with disk := disk₂ } := by
  obtain ⟨answer, agree⟩ := sheet.save_of_agreeOutside paired.agree clear
  exact ⟨_, _, _, rfl, Prod.ext rfl answer, paired.first.save sheet path,
    paired.second.save sheet path, agree⟩

variable (first : Discreet inside record₁) (second : Discreet inside record₂)

include first second

theorem Paired.record (paired : Paired inside host₁ host₂) (name : String)
    (event₁ event₂ : Journal.Event) :
    Paired inside (record₁ host₁ name event₁) (record₂ host₂ name event₂) where
  first := first.stays name event₁ paired.first
  second := second.stays name event₂ paired.second
  agree := ((first.agree name event₁ paired.first).symm.trans paired.agree).trans
    (second.agree name event₂ paired.second)

private theorem Paired.saveTurn (paired : Paired inside host₁ host₂) (session : Session)
    (clear : host₁.disk.Avoids inside path) :
    SameTurn inside (session.save record₁ host₁ path) (session.save record₂ host₂ path) := by
  obtain ⟨disk₁, disk₂, answer, saved₁, saved₂, after⟩ := paired.save session.sheet clear
  unfold Session.save
  rw [saved₁, saved₂]
  rcases answer with (_ | _) | _
  · rename_i error
    cases error with
    | nullCharacter => exact ⟨rfl, rfl, after⟩
    | system => exact (after.record first second session.name _ _).answer session _
  · exact (after.record first second session.name _ _).answer session _
  · exact (after.record first second session.name _ _).answer session _

private theorem Paired.loadTurn (paired : Paired inside host₁ host₂) (session : Session)
    (clear : host₁.disk.Avoids inside path) :
    SameTurn inside (session.load record₁ host₁ path) (session.load record₂ host₂ path) := by
  unfold Session.load
  rw [Sheet.load_of_agreeOutside paired.agree clear]
  split
  · exact (paired.record first second session.name _ _).answer _ _
  · exact ⟨rfl, rfl, paired⟩
  · exact (paired.record first second session.name _ _).answer session _

theorem Paired.autosave (paired : Paired inside host₁ host₂) (session : Session)
    (clear : ∀ path, session.sheetFile = some path → host₁.disk.Avoids inside path) :
    SameTurn inside (session.autosave record₁ host₁) (session.autosave record₂ host₂) := by
  unfold Session.autosave
  cases file : session.sheetFile with
  | none => exact paired.answer session ""
  | some path =>
      dsimp only
      split
      · exact paired.answer session ""
      · obtain ⟨disk₁, disk₂, answer, saved₁, saved₂, after⟩ :=
          paired.save session.sheet (clear path file)
        rw [saved₁, saved₂]
        rcases answer with (_ | _) | _
        · rename_i error
          cases error with
          | nullCharacter => exact ⟨rfl, rfl, after⟩
          | system => exact (after.record first second session.name _ _).answer session _
        · exact (after.record first second session.name _ _).answer session _
        · exact after.answer session ""

theorem Paired.editTurn (paired : Paired inside host₁ host₂) (session : Session)
    (clear : ∀ path, session.sheetFile = some path → host₁.disk.Avoids inside path)
    (kind : Journal.Kind) (id : String) (contents : Option String) (updated : List String) :
    SameTurn inside
      (session.autosave record₁ (session.noteEdit record₁ host₁ kind id contents updated))
      (session.autosave record₂ (session.noteEdit record₂ host₂ kind id contents updated)) :=
  -- The sheet is saved after the edit was recorded, and the hosts are alike in between too.
  (paired.record first second session.name _ _).autosave first second session
    fun path own => (clear path own).of_workingPlace
      (first.agree session.name _ paired.first).workingPlace

private theorem Paired.setTurn (paired : Paired inside host₁ host₂) (session : Session)
    (clear : ∀ path, session.sheetFile = some path → host₁.disk.Avoids inside path)
    (id contents : String) :
    SameTurn inside (session.set record₁ host₁ id contents)
      (session.set record₂ host₂ id contents) := by
  unfold Session.set
  split
  · rename_i sheet updated _
    exact paired.editTurn first second { session with sheet } clear _ id _ updated
  · exact (paired.record first second session.name _ _).answer _ _

private theorem Paired.deleteTurn (paired : Paired inside host₁ host₂) (session : Session)
    (clear : ∀ path, session.sheetFile = some path → host₁.disk.Avoids inside path)
    (id : String) :
    SameTurn inside (session.delete record₁ host₁ id) (session.delete record₂ host₂ id) := by
  unfold Session.delete
  split
  · rename_i sheet updated _
    exact paired.editTurn first second { session with sheet } clear _ id _ updated
  · exact (paired.record first second session.name _ _).answer _ _

private theorem Paired.executeTurn (paired : Paired inside host₁ host₂) (session : Session)
    {line : List Char}
    (clear : ∀ path, Uses session.sheetFile line path → host₁.disk.Avoids inside path) :
    SameTurn inside (session.execute record₁ host₁ line) (session.execute record₂ host₂ line) := by
  have own (path : Path) (named : session.sheetFile = some path) :
      host₁.disk.Avoids inside path := clear path (.own named)
  unfold Session.execute
  cases asked : Command.ofLine line with
  | set edit =>
      cases edit with
      | none => exact paired.answer session _
      | some edit => exact paired.setTurn first second session own edit.1 edit.2
  | delete id =>
      cases id with
      | none => exact paired.answer session _
      | some id => exact paired.deleteTurn first second session own id
  | save name =>
      unfold Session.run
      dsimp only
      split
      · exact paired.answer session _
      · rename_i path named
        exact paired.saveTurn first second session
          (clear path (Session.uses_of_ofLine (.inl asked) named))
  | load name =>
      unfold Session.run
      dsimp only
      split
      · exact paired.answer session _
      · rename_i path named
        exact paired.loadTurn first second session
          (clear path (Session.uses_of_ofLine (.inr asked) named))
  | quit => exact ⟨rfl, rfl, paired⟩
  | _ => exact paired.answer session _

end Turns

/-! ### Whole sessions -/

/-- A session that is over: the host and the session at the end, and the replies in order. -/
structure Course where
  host : Host
  session : Session
  replies : List (Except DiskError Reply)

namespace Session

/-- The rest of a session, with a recorder for each line and one for the end. -/
def attend (session : Session) (records : Nat → Recorder) (host : Host) : List (List Char) → Course
  | [] => ⟨session.finish (records 0) host, session, []⟩
  | line :: rest =>
    let turn := session.execute (records 0) host line
    let course := turn.session.attend (fun call => records (call + 1)) turn.host rest
    { course with replies := turn.reply :: course.replies }

/-- A session from its start over some lines to its end, with a recorder for each of these. -/
def converse (session : Session) (records : Nat → Recorder) (host : Host)
    (lines : List (List Char)) : Course :=
  session.attend (fun call => records (call + 1)) (session.start (records 0) host) lines

end Session

section Courses

variable {inside : Place → Prop} {records₁ records₂ : Nat → Recorder} {host₁ host₂ : Host}

theorem Journal.Records.workingPlace {record : Recorder} {name : String} {files : Path → Prop}
    {host after : Host} {events : List Journal.Event}
    (records : Records record name files host events after) (discreet : Discreet inside record)
    (logs : host.LogsWithin inside) : after.disk.workingPlace = host.disk.workingPlace := by
  induction records with
  | nil => rfl
  | note _ _ ih =>
      rw [ih (discreet.stays name _ logs), (discreet.agree name _ logs).workingPlace]
  | miss _ _ _ ih =>
      rw [ih (discreet.stays name _ logs), (discreet.agree name _ logs).workingPlace]
  | save sheet path _ _ ih =>
      rw [ih (logs.save sheet path), (sheet.keeps_save _ path).workingPlace]

structure SameCourse (inside : Place → Prop) (course₁ course₂ : Course) : Prop where
  replies : course₂.replies = course₁.replies
  session : course₂.session = course₁.session
  hosts : Paired inside course₁.host course₂.host

theorem Paired.attend (paired : Paired inside host₁ host₂) (session : Session)
    (first : ∀ call, Discreet inside (records₁ call))
    (second : ∀ call, Discreet inside (records₂ call)) {lines : List (List Char)}
    (clear : ∀ line ∈ lines, ∀ path, Uses session.sheetFile line path →
      host₁.disk.Avoids inside path) :
    SameCourse inside (session.attend records₁ host₁ lines)
      (session.attend records₂ host₂ lines) := by
  induction lines generalizing host₁ host₂ session records₁ records₂ with
  | nil => exact ⟨rfl, rfl, paired.record (first 0) (second 0) session.name _ _⟩
  | cons line rest ih =>
      rw [List.forall_mem_cons] at clear
      have turn := paired.executeTurn (first 0) (second 0) session clear.1
      obtain ⟨events, records, _⟩ := Session.exists_records session (records₁ 0) host₁ line
      -- The working place stays, so the files of the other lines still keep out of the area.
      have place := records.workingPlace (first 0) paired.first
      have still : ∀ other ∈ rest, ∀ path,
          Uses (session.execute (records₁ 0) host₁ line).session.sheetFile other path →
            (session.execute (records₁ 0) host₁ line).host.disk.Avoids inside path := by
        intro other member path uses
        rw [Session.settings_execute] at uses
        exact (clear.2 other member path uses).of_workingPlace place
      have course := ih turn.hosts (session.execute (records₁ 0) host₁ line).session
        (fun call => first (call + 1)) (fun call => second (call + 1)) still
      unfold Session.attend
      dsimp only
      rw [turn.reply, turn.session]
      exact ⟨congrArg (List.cons _) course.replies, course.session, course.hosts⟩

/-- Two hosts may differ in an area that holds their logs, be it these alone or all of their
directory: one may have logs and the other none, or they may fail with different events. If the
path of no line gets into this area, a session gets the same replies on both, goes the same way,
and leaves the same behind outside of the area. -/
theorem Session.course_independent_of_logs (session : Session) {lines : List (List Char)}
    (logs₁ : host₁.LogsWithin inside) (logs₂ : host₂.LogsWithin inside)
    (agree : Disk.AgreeOutside inside host₁.disk host₂.disk)
    (clear : ∀ line ∈ lines, ∀ path, Uses session.sheetFile line path →
      host₁.disk.Avoids inside path)
    (faults₁ faults₂ : Nat → Journal.Event → Option Journal.Fault) :
    let course₁ := session.converse (fun call => Host.recorderWith (faults₁ call)) host₁ lines
    let course₂ := session.converse (fun call => Host.recorderWith (faults₂ call)) host₂ lines
    course₂.replies = course₁.replies ∧ course₂.session = course₁.session ∧
      Disk.AgreeOutside inside course₁.host.disk course₂.host.disk := by
  have first (call : Nat) := Host.discreet_recorderWith inside (faults₁ call)
  have second (call : Nat) := Host.discreet_recorderWith inside (faults₂ call)
  have paired : Paired inside host₁ host₂ := ⟨logs₁, logs₂, agree⟩
  have started : Paired inside (session.start (Host.recorderWith (faults₁ 0)) host₁)
      (session.start (Host.recorderWith (faults₂ 0)) host₂) :=
    paired.record (first 0) (second 0) session.name _ _
  have course := started.attend session (fun call => first (call + 1))
    (fun call => second (call + 1)) fun line member path uses =>
      (clear line member path uses).of_workingPlace
        ((first 0).agree session.name _ logs₁).workingPlace
  exact ⟨course.replies, course.session, course.hosts.agree⟩

/-- A session that saves its sheet after each edit, with logs that fail half-way and without. -/
theorem course_independent_of_logs_that_fail :
    let host : Host := Host.start Journal.newProject .usual "t" 0 []
    let settings : Config := ⟨[(.text "autosave", .scalar (.bool true))]⟩
    let session : Session := ⟨∅, settings, some ⟨0, ["sheet"]⟩, "a"⟩
    let lines : List (List Char) := ["set A1 5".toList, "save b".toList]
    let course₁ := session.converse (fun _ => Host.recorderWith fun _ => some (.between "full"))
      { host with sink := some Journal.newLogs } lines
    let course₂ := session.converse (fun _ => Host.recorderWith fun _ => none) host lines
    course₂.replies = course₁.replies ∧ course₂.session = course₁.session ∧
      Disk.AgreeOutside (["logs"] <+: ·) course₁.host.disk course₂.host.disk := by
  intro host settings session lines
  have logs : Host.LogsWithin (["logs"] <+: ·) { host with sink := some Journal.newLogs } := by
    intro sink attached
    obtain rfl := Option.mem_some_iff.1 attached
    exact ⟨["logs"], Journal.stands_newLogs, Journal.Log.prefix_place ["logs"]⟩
  have none : host.LogsWithin (["logs"] <+: ·) := fun sink attached =>
    absurd attached (Option.not_mem_none sink)
  refine session.course_independent_of_logs logs none (.refl _ Journal.newProject) ?_
    (fun _ _ => some (.between "full")) fun _ _ => Option.none
  intro line member path uses
  have file : path = ⟨0, ["sheet"]⟩ ∨ path = ⟨0, ["b"]⟩ := by
    rcases List.mem_pair.1 member with rfl | rfl
    · have set := Text.begins_of_space (by decide : "set".toList ≠ []) rfl "A1 5".toList
      rcases uses.cases set with own | ⟨word, _⟩
      · exact .inl (Option.some.inj own).symm
      · exact absurd word (by decide)
    · have save := Text.begins_of_space (by decide : "save".toList ≠ []) rfl "b".toList
      rcases uses.cases save with own | ⟨_, named⟩
      · exact .inl (Option.some.inj own).symm
      · exact .inr named
  rcases file with rfl | rfl
  · exact .of_outside (List.forall_mem_singleton.2 ⟨by decide, by decide⟩)
      (by decide) (by decide)
  · exact .of_outside (List.forall_mem_singleton.2 ⟨by decide, by decide⟩)
      (by decide) (by decide)

end Courses

end Spreadsheet
