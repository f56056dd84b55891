import Spreadsheet.Journal.Query
import Spreadsheet.Proofs.Disk.Directory
import Spreadsheet.Proofs.Text.Utf8

/-! The logs of a project as files of their own: where each one is, and that a line is added
to one log and leaves the others alone. -/

set_option autoImplicit false

namespace Spreadsheet.Journal

/-- A log: that of the whole project, or that of one session. -/
inductive Log where
  | project
  | session (name : String)
deriving DecidableEq

namespace Log

/-- The name of the log as a file. -/
def fileName : Log → String
  | project => "events.ndjson"
  | session name => name ++ ".ndjson"

/-- The directory of the log, in that of all logs. -/
def folder (root : Place) : Log → Place
  | project => root
  | session _ => root ++ ["sessions"]

def place (root : Place) (log : Log) : Place := log.folder root ++ [log.fileName]

/-- Only these logs are ever written. -/
def Safe : Log → Prop
  | project => True
  | session name => isSafeName name = true

instance (log : Log) : Decidable log.Safe :=
  match log with
  | project => inferInstanceAs (Decidable True)
  | Log.session name => inferInstanceAs (Decidable (isSafeName name = true))

/-- An event of the session, if any, belongs in the log. -/
def Holds (session : Option String) : Log → Prop
  | project => True
  | Log.session name => session = some name

instance (session : Option String) (log : Log) : Decidable (log.Holds session) :=
  match log with
  | project => inferInstanceAs (Decidable True)
  | Log.session name => inferInstanceAs (Decidable (session = some name))

/-- A log that is written, if the system takes a file with its name in. -/
def Short : Log → Prop
  | project => True
  | session name => isSafeName name = true ∧ name.length ≤ 200

theorem Short.safe {log : Log} (short : log.Short) : log.Safe := by
  cases log with
  | project => trivial
  | session => exact short.1

theorem place_ne_nil (root : Place) (log : Log) : log.place root ≠ [] := by simp [place]

theorem prefix_place (root : Place) (log : Log) : root <+: log.place root := by
  cases log with
  | project => exact List.prefix_append root _
  | session =>
      rw [place, folder, List.append_assoc]
      exact List.prefix_append root _

theorem place_inj {root : Place} {first second : Log} :
    first.place root = second.place root ↔ first = second := by
  constructor
  · intro same
    obtain ⟨folder, file⟩ := List.append_inj' same rfl
    have file := List.singleton_inj.1 file
    cases first with
    | project =>
        cases second with
        | project => rfl
        | session => simp [Log.folder] at folder
    | session name =>
        cases second with
        | project => simp [Log.folder] at folder
        | session other =>
            rw [fileName, fileName, ← String.toList_inj, String.toList_append, String.toList_append,
              List.append_left_inj, String.toList_inj] at file
            rw [file]
  · exact congrArg _

end Log

/-- The place of one of the logs. -/
def IsLog (root : Place) (place : Place) : Prop := ∃ log : Log, place = log.place root

/-! ### Names of sessions -/

theorem isSafeName_of_all {name : String} (filled : name ≠ "")
    (chars : ∀ c ∈ name.toList, isNameChar c = true) : isSafeName name = true := by
  have noFeed : dropFeed name.toList = name.toList := by
    refine if_neg fun last => ?_
    have named := chars '\n' (List.mem_of_getLast? last)
    exact absurd named (by decide)
  rw [isSafeName, noFeed, Bool.and_eq_true, List.all_eq_true, bne_iff_ne, Ne,
    String.toList_eq_nil_iff]
  exact ⟨filled, chars⟩

/-- A name whose log can be written and read. -/
structure SessionName (name : String) : Prop where
  filled : name ≠ ""
  chars : ∀ c ∈ name.toList, isNameChar c = true
  short : name.length ≤ 200

theorem SessionName.log_short {name : String} (proper : SessionName name) :
    (Log.session name).Short :=
  ⟨isSafeName_of_all proper.filled proper.chars, proper.short⟩

theorem of_mem_safeName {name : String} {c : Char} (safe : isSafeName name = true)
    (member : c ∈ name.toList) : isNameChar c = true ∨ c = '\n' := by
  rw [isSafeName, Bool.and_eq_true, List.all_eq_true] at safe
  unfold dropFeed at safe
  split at safe
  · rename_i last
    rw [← List.dropLast_append_getLast? _ last, List.mem_append, List.mem_singleton] at member
    exact member.imp_left (safe.2 c)
  · exact .inl (safe.2 c member)

private theorem ascii_of_safeName {name : String} (safe : isSafeName name = true) :
    ∀ c ∈ name.toList, 0 < c.toNat ∧ c.toNat < 0x80 := by
  intro c member
  rcases of_mem_safeName safe member with named | rfl
  · simp only [isNameChar, Bool.or_eq_true, Bool.and_eq_true, decide_eq_true_eq, beq_iff_eq,
      Char.le_def, UInt32.le_iff_toNat_le] at named
    rcases named with (((upper | lower) | digit) | rfl) | rfl
    · exact ⟨Nat.lt_of_lt_of_le (by decide) upper.1, Nat.lt_of_le_of_lt upper.2 (by decide)⟩
    · exact ⟨Nat.lt_of_lt_of_le (by decide) lower.1, Nat.lt_of_le_of_lt lower.2 (by decide)⟩
    · exact ⟨Nat.lt_of_lt_of_le (by decide) digit.1, Nat.lt_of_le_of_lt digit.2 (by decide)⟩
    · decide
    · decide
  · decide

namespace Log

theorem ascii_fileName {log : Log} (safe : log.Safe) :
    ∀ c ∈ log.fileName.toList, 0 < c.toNat ∧ c.toNat < 0x80 := by
  cases log with
  | project => simp [fileName]
  | session name =>
      intro c member
      rw [fileName, String.toList_append, List.mem_append] at member
      rcases member with inside | behind
      · exact ascii_of_safeName safe c inside
      · have ending : ∀ c ∈ ".ndjson".toList, 0 < c.toNat ∧ c.toNat < 0x80 := by simp
        exact ending c behind

private theorem length_octets_fileName {log : Log} (short : log.Short) :
    (Text.octets log.fileName).length ≤ 207 := by
  rw [Text.octets, Text.Utf8.length_encode_of_ascii fun c member =>
    (ascii_fileName short.safe c member).2]
  cases log with
  | project => decide
  | session name =>
      rw [fileName, String.toList_append, List.length_append, String.length_toList]
      exact Nat.add_le_add_right short.2 7

theorem entryName_of_safe {log : Log} (safe : log.Safe) : Disk.EntryName log.fileName := by
  cases log with
  | project => exact ⟨by decide, by decide, by decide⟩
  | session name =>
      have long : 2 < (name ++ ".ndjson").length := by
        rw [String.length_append]
        exact Nat.lt_of_lt_of_le (by decide) (Nat.le_add_left _ _)
      have apart : ∀ short : String, short.length ≤ 2 → name ++ ".ndjson" ≠ short := by
        rintro _ short rfl
        exact absurd long (Nat.not_lt.2 short)
      refine ⟨fun slash => ?_, ?_, apart _ (by decide)⟩
      · rw [fileName, String.toList_append, List.mem_append] at slash
        rcases slash with inside | behind
        · rcases of_mem_safeName safe inside with named | feed
          · exact absurd named (by decide)
          · exact absurd feed (by decide)
        · exact absurd behind (by decide)
      · rintro (blank | dot)
        · exact apart _ (by decide) blank
        · exact apart _ (by decide) dot

end Log

namespace Sink

/-- The file of a log. -/
def path (sink : Sink) : Log → Path
  | .project => sink.globalLog
  | .session name => sink.sessionLog name

/-- The directory of a log. -/
def folder (sink : Sink) : Log → Path
  | .project => sink.logs
  | .session _ => sink.logs.child "sessions"

/-- The directories of the logs are there, that of all logs at some place. -/
structure Stands (sink : Sink) (disk : Disk) (root : Place) : Prop where
  spelled : sink.logs.Spelled
  filled : sink.logs.names ≠ []
  logs : disk.target sink.logs.text = .ok (.entry root .directory)
  sessions : disk.target (sink.logs.child "sessions").text =
    .ok (.entry (root ++ ["sessions"]) .directory)

/-- Lines can be added to the log. -/
structure Takes (sink : Sink) (disk : Disk) (root : Place) (log : Log) : Prop where
  fits : Disk.Fits (sink.folder log) log.fileName
  free : disk.get? (log.place root) ≠ some .directory

section Stands

variable {sink : Sink} {disk after : Disk} {root : Place} {log : Log} {line : List Char}

theorem path_eq (sink : Sink) (log : Log) :
    sink.path log = (sink.folder log).child log.fileName := by
  cases log <;> rfl

theorem parent_path (sink : Sink) (log : Log) : (sink.path log).parent = sink.folder log := by
  rw [path_eq, Path.parent, Path.child, List.dropLast_concat]

theorem entryName_sessions : Disk.EntryName "sessions" := ⟨by decide, by decide, by decide⟩

theorem spelled_folder (spelled : sink.logs.Spelled) (log : Log) : (sink.folder log).Spelled := by
  cases log with
  | project => exact spelled
  | session => exact spelled.child entryName_sessions.whole entryName_sessions.speaks

theorem folder_filled (filled : sink.logs.names ≠ []) (log : Log) :
    (sink.folder log).names ≠ [] := by
  cases log with
  | project => exact filled
  | session => simp [folder, Path.child]

theorem plain_folder (filled : sink.logs.names ≠ []) (plain : '\x00' ∉ sink.logs.text.toList)
    (log : Log) : '\x00' ∉ (sink.folder log).text.toList := by
  cases log with
  | project => exact plain
  | session =>
      rw [folder, Path.text_child filled]
      simpa using plain

private theorem length_octets_folder (filled : sink.logs.names ≠ []) (log : Log) :
    (Text.octets (sink.folder log).text).length ≤ (Text.octets sink.logs.text).length + 9 := by
  cases log with
  | project => exact Nat.le_add_right _ _
  | session =>
      rw [folder, Path.text_child filled, Text.octets, String.toList_append, String.toList_append,
        Text.Utf8.encode_append, Text.Utf8.encode_append, List.length_append, List.length_append]
      exact Nat.le_refl _

theorem plain_path (filled : sink.logs.names ≠ []) (plain : '\x00' ∉ sink.logs.text.toList)
    (safe : log.Safe) : '\x00' ∉ (sink.path log).text.toList := by
  rw [path_eq, Path.text_child (folder_filled filled log), String.toList_append,
    String.toList_append, List.mem_append, List.mem_append, not_or, not_or]
  refine ⟨⟨plain_folder filled plain log, by decide⟩, fun null => ?_⟩
  exact absurd (Log.ascii_fileName safe _ null).1 (by decide)

/-- Where the path of the logs is not too long, the system takes all of them in. -/
theorem fits_of_short (filled : sink.logs.names ≠ []) (plain : '\x00' ∉ sink.logs.text.toList)
    (room : (Text.octets sink.logs.text).length + 217 ≤ Disk.maxPath) (short : log.Short) :
    Disk.Fits (sink.folder log) log.fileName := by
  have name := Log.length_octets_fileName short
  have folder := length_octets_folder filled log
  refine ⟨path_eq sink log ▸ plain_path filled plain short.safe, ?_, Nat.le_trans name (by decide)⟩
  rw [Path.text_child (folder_filled filled log), Text.octets, String.toList_append,
    String.toList_append, Text.Utf8.encode_append, Text.Utf8.encode_append, List.length_append,
    List.length_append]
  have slash : (Text.Utf8.encode "/".toList).length = 1 := rfl
  rw [Text.octets] at name folder
  omega

theorem Stands.target_folder (stands : sink.Stands disk root) (log : Log) :
    disk.target (sink.folder log).text = .ok (.entry (log.folder root) .directory) := by
  cases log with
  | project => exact stands.logs
  | session => exact stands.sessions

theorem Stands.keeps (stands : sink.Stands disk root) (keeps : disk.Keeps after) :
    sink.Stands after root :=
  ⟨stands.spelled, stands.filled, keeps.target stands.logs, keeps.target stands.sessions⟩

theorem exists_stands_of_create {project : Path} {readLimit : Int} {levels : Levels}
    (spelled : project.Spelled)
    (made : create disk project readLimit levels = (after, .ok sink)) :
    ∃ root, sink.Stands after root := by
  unfold create at made
  dsimp only at made
  split at made
  · cases made
  · rename_i middle first
    split at made
    · cases made
    · rename_i second
      cases made
      obtain ⟨root, logs⟩ := Disk.isDirectory_iff.1 (Disk.ensureDirectories_of_ok first).2
      obtain ⟨keeps, standing⟩ := Disk.ensureDirectory_of_ok second
      obtain ⟨place, sessions⟩ := Disk.isDirectory_iff.1 standing
      have written : (project.child "logs").Spelled := spelled.child (by decide) (by decide)
      have filled : (project.child "logs").names ≠ [] := by simp [Path.child]
      have logs := keeps.target logs
      obtain ⟨_, same⟩ := (Disk.target_child_iff written filled logs entryName_sessions).1 sessions
      refine ⟨root, written, filled, logs, ?_⟩
      rw [sessions]
      split at same <;> cases same
      rfl

/-- A line is added to the file of its log, and to nothing else. -/
theorem Stands.appendLine_eq_ok_iff (stands : sink.Stands disk root) (safe : log.Safe) :
    appendLine disk (sink.path log) line = (after, .ok ()) ↔
      sink.Takes disk root log ∧ after = disk.put (log.place root)
        (.file (disk.octetsAt (log.place root) ++ Text.Utf8.encode line)) := by
  have standing := Disk.isDirectory_iff.2 ⟨_, stands.target_folder log⟩
  rw [appendLine, parent_path, Disk.ensureDirectories_of_isDirectory standing, path_eq]
  dsimp only
  rw [Disk.append_child_eq_ok_iff (spelled_folder stands.spelled log)
    (folder_filled stands.filled log) (stands.target_folder log) (Log.entryName_of_safe safe)]
  exact ⟨fun ⟨⟨fits, free⟩, same⟩ => ⟨⟨fits, free⟩, same⟩,
    fun ⟨⟨fits, free⟩, same⟩ => ⟨⟨fits, free⟩, same⟩⟩

theorem Stands.disk_of_appendLine_error {error : DiskError} (stands : sink.Stands disk root)
    (log : Log) (refused : appendLine disk (sink.path log) line = (after, .error error)) :
    after = disk := by
  have standing := Disk.isDirectory_iff.2 ⟨_, stands.target_folder log⟩
  rw [appendLine, parent_path, Disk.ensureDirectories_of_isDirectory standing] at refused
  exact Disk.append_of_error refused

end Stands

/-! ### Lines in logs -/

/-- The logs as they were, each with some more text behind it. -/
structure Extends (sink : Sink) (root : Place) (before after : Disk) (more : Log → List Char) :
    Prop where
  keeps : before.Keeps after
  takes : ∀ log, sink.Takes after root log ↔ sink.Takes before root log
  octets : ∀ log : Log, after.octetsAt (log.place root) =
    before.octetsAt (log.place root) ++ Text.Utf8.encode (more log)

section Extends

variable {sink : Sink} {disk after : Disk} {root : Place} {log : Log} {line : List Char}
  {more : Log → List Char}

theorem Extends.refl (sink : Sink) (root : Place) (disk : Disk) :
    sink.Extends root disk disk fun _ => [] :=
  ⟨.refl disk, fun _ => Iff.rfl, fun _ => (List.append_nil _).symm⟩

theorem Extends.trans {later : Disk} {further : Log → List Char}
    (first : sink.Extends root disk after more) (second : sink.Extends root after later further) :
    sink.Extends root disk later fun log => more log ++ further log where
  keeps := first.keeps.trans second.keeps
  takes log := (second.takes log).trans (first.takes log)
  octets log := by
    rw [second.octets, first.octets, List.append_assoc, Text.Utf8.encode_append]

theorem Stands.extends_of_appendLine (stands : sink.Stands disk root) {log : Log} (safe : log.Safe)
    (added : appendLine disk (sink.path log) line = (after, .ok ())) :
    sink.Extends root disk after fun other => if other = log then line else [] := by
  obtain ⟨takes, rfl⟩ := (stands.appendLine_eq_ok_iff safe).1 added
  refine ⟨Disk.keeps_put takes.free, fun other => ?_, fun other => ?_⟩
  · have standing (octets : List UInt8) :
        (disk.put (log.place root) (.file octets)).get? (other.place root) ≠ some .directory ↔
          disk.get? (other.place root) ≠ some .directory := by
      rw [Disk.get?_put, if_neg (other.place_ne_nil root)]
      by_cases same : other = log
      · subst same
        rw [if_pos rfl]
        exact iff_of_true nofun takes.free
      · rw [if_neg fun place => same (Log.place_inj.1 place)]
    exact ⟨fun takes => ⟨takes.fits, (standing _).1 takes.free⟩,
      fun takes => ⟨takes.fits, (standing _).2 takes.free⟩⟩
  · rw [Disk.octetsAt_put (log.place_ne_nil root)]
    by_cases same : other = log
    · rw [same, if_pos rfl, if_pos rfl]
    · rw [if_neg fun place => same (Log.place_inj.1 place), if_neg same, Text.Utf8.encode,
        List.flatMap_nil, List.append_nil]

theorem Stands.exists_appendLine (stands : sink.Stands disk root) (safe : log.Safe)
    (takes : sink.Takes disk root log) (line : List Char) :
    ∃ after, appendLine disk (sink.path log) line = (after, .ok ()) :=
  ⟨_, (stands.appendLine_eq_ok_iff safe).2 ⟨takes, rfl⟩⟩

/-- An event goes to the logs it belongs in, as a line at their ends. -/
theorem Stands.exists_append (event : Event) {session : Option String}
    (stands : sink.Stands disk root)
    (takes : ∀ log : Log, log.Safe → log.Holds session → sink.Takes disk root log) :
    ∃ after, sink.append disk event session = (after, .ok ()) ∧
      sink.Extends root disk after fun log =>
        if log.Safe ∧ log.Holds session then event.line else [] := by
  have project : Log.project.Safe := trivial
  obtain ⟨middle, first⟩ :=
    stands.exists_appendLine project (takes .project project trivial) event.line
  have shared := stands.extends_of_appendLine project first
  have told : appendLine disk sink.globalLog event.line = (middle, .ok ()) := first
  unfold append
  rw [told]
  dsimp only
  split
  · rename_i name
    split
    · rename_i safe
      have standing := stands.keeps shared.keeps
      have own : (Log.session name).Safe := safe
      obtain ⟨after, second⟩ := standing.exists_appendLine own
        ((shared.takes _).2 (takes (.session name) own rfl)) event.line
      refine ⟨after, second, ?_⟩
      convert shared.trans (standing.extends_of_appendLine own second)
        using 2 with log
      cases log with
      | project => simp [Log.Safe, Log.Holds]
      | session other =>
          by_cases same : other = name
          · simp [Log.Safe, Log.Holds, same, safe]
          · simp [Log.Safe, Log.Holds, same, Ne.symm same]
    · rename_i barred
      refine ⟨middle, rfl, ?_⟩
      convert shared using 2 with log
      cases log with
      | project => simp [Log.Safe, Log.Holds]
      | session other =>
          by_cases same : other = name
          · simp [Log.Safe, same, barred]
          · simp [Log.Holds, Ne.symm same]
  · refine ⟨middle, rfl, ?_⟩
    convert shared using 2 with log
    cases log <;> simp [Log.Safe, Log.Holds]

theorem Stands.exists_write {event : Event} {session : Option String}
    (stands : sink.Stands disk root) (fits : event.check = .ok ())
    (takes : ∀ log : Log, log.Safe → log.Holds session → sink.Takes disk root log) :
    ∃ after, sink.write disk event session = (after, .ok ()) ∧
      sink.Extends root disk after fun log =>
        if log.Safe ∧ log.Holds session then event.line else [] := by
  obtain ⟨after, added, extended⟩ := stands.exists_append event takes
  refine ⟨after, ?_, extended⟩
  rw [write, fits]
  dsimp only
  rw [added]
  rfl

theorem write_of_check {event : Event} {session : Option String} {error : WriteError}
    (deep : event.check = .error error) :
    sink.write disk event session = (disk, .error error) := by
  rw [write, deep]

end Extends

/-! ### Reading a log -/

theorem tail_of_short {count : Nat} {octets : List UInt8} (short : octets.length ≤ count) :
    tail count octets = octets := if_pos short

section Reading

variable {sink : Sink} {disk : Disk} {root : Place} {log : Log}

theorem Stands.target_path (stands : sink.Stands disk root) (safe : log.Safe)
    (takes : sink.Takes disk root log) :
    disk.target (sink.path log).text = .ok (match disk.get? (log.place root) with
      | none => .vacant (log.place root)
      | some entry => .entry (log.place root) entry) := by
  rw [path_eq, Disk.target_child_iff (spelled_folder stands.spelled log)
    (folder_filled stands.filled log) (stands.target_folder log) (Log.entryName_of_safe safe)]
  exact ⟨takes.fits, rfl⟩

theorem Stands.look_path (stands : sink.Stands disk root) (safe : log.Safe)
    (takes : sink.Takes disk root log) :
    disk.look (sink.path log).text = .ok (disk.get? (log.place root)) := by
  rw [Disk.look, Disk.stat, stands.target_path safe takes]
  cases disk.get? (log.place root) <;> rfl

theorem readLog_of_read {path : Path} {octets : List UInt8} (allowed : 0 ≤ sink.readLimit)
    (read : disk.read path = .ok octets) :
    sink.readLog disk path =
      valuesOfOctets sink.levels.most (tail sink.readLimit.toNat octets) := by
  simp only [readLog, Disk.read_eq_ok_iff_look.1 read, if_neg (Int.not_lt.2 allowed)]
  rfl

/-- A log that is no longer than what is read at most is read in full. -/
theorem Stands.readLog_eq (stands : sink.Stands disk root) (safe : log.Safe)
    (takes : sink.Takes disk root log)
    (bounded : ∀ octets, disk.read (sink.path log) = .ok octets →
      (octets.length : Int) ≤ sink.readLimit) :
    sink.readLog disk (sink.path log) =
      valuesOfOctets sink.levels.most (disk.octetsAt (log.place root)) := by
  have found := stands.target_path safe takes
  rw [Disk.octetsAt]
  cases present : disk.get? (log.place root) with
  | none =>
      rw [readLog, stands.look_path safe takes, present]
      rfl
  | some entry =>
      rw [present] at found
      cases entry with
      | directory => exact absurd present takes.free
      | file octets =>
          have read := Disk.read_eq_ok_iff.2 ⟨_, found⟩
          have within := bounded octets read
          rw [readLog_of_read (by omega) read, tail_of_short (by omega)]

end Reading

end Sink

/-! ### A new project -/

def newProject : Disk :=
  ⟨⟨[(["logs"], .directory), (["logs", "sessions"], .directory)], by decide⟩, []⟩

def newLogs : Sink := ⟨⟨1, ["logs"]⟩, 4096, .usual⟩

theorem stands_newLogs : newLogs.Stands newProject ["logs"] := by
  have spelled : newLogs.logs.Spelled := List.forall_mem_singleton.2 ⟨by decide, by decide⟩
  refine ⟨spelled, by decide, ?_, ?_⟩
  · exact (Disk.target_iff_leads spelled (by decide)).2
      ⟨by decide, .onward rfl (by decide) (.here rfl)⟩
  · exact (Disk.target_iff_leads
      (spelled.child Sink.entryName_sessions.whole Sink.entryName_sessions.speaks) (by decide)).2
      ⟨by decide, .onward rfl (by decide) (.onward rfl (by decide) (.here rfl))⟩

theorem get?_newProject (log : Log) : newProject.get? (log.place ["logs"]) = none := by
  cases log <;> rfl

theorem takes_newLogs {log : Log} (short : log.Short) : newLogs.Takes newProject ["logs"] log := by
  refine ⟨Sink.fits_of_short (by decide) (by decide) (by decide) short, ?_⟩
  rw [get?_newProject]
  nofun

end Spreadsheet.Journal
