import Spreadsheet.Proofs.Disk.Likeness
import Spreadsheet.Proofs.Journal.AnyLog

/-! Names of sessions do not lead away from the logs: whatever names are given, no file is opened
but the log of the project and those of sessions with a safe name. -/

set_option autoImplicit false

namespace Spreadsheet.Journal

open Disk

/-- A safe name is made of name characters, at least one, but a line feed may stand behind them. -/
theorem isSafeName_iff {name : String} :
    isSafeName name = true ↔ ∃ stem : String, stem ≠ "" ∧
      (∀ c ∈ stem.toList, isNameChar c = true) ∧ (name = stem ∨ name = stem ++ "\n") := by
  constructor
  · intro safe
    rw [isSafeName, Bool.and_eq_true, List.all_eq_true, bne_iff_ne] at safe
    refine ⟨String.ofList (dropFeed name.toList), ?_, ?_, ?_⟩
    · rw [Ne, ← String.toList_eq_nil_iff, String.toList_ofList]
      exact safe.1
    · rw [String.toList_ofList]
      exact safe.2
    · unfold dropFeed
      split
      · rename_i last
        refine .inr (String.toList_inj.1 ?_)
        rw [String.toList_append, String.toList_ofList]
        exact (List.dropLast_append_getLast? _ last).symm
      · exact .inl String.ofList_toList.symm
  · rintro ⟨stem, filled, chars, rfl | rfl⟩
    · exact isSafeName_of_all filled chars
    · have whole : dropFeed (stem ++ "\n").toList = stem.toList := by
        rw [String.toList_append]
        exact (if_pos (by simp)).trans List.dropLast_concat
      rw [isSafeName, whole, Bool.and_eq_true, List.all_eq_true, bne_iff_ne, Ne,
        String.toList_eq_nil_iff]
      exact ⟨filled, chars⟩

/-! ### Requests -/

/-- What is asked of the logs. -/
inductive Request where
  | write (event : Event) (session : Option String)
  | readSession (name : String)
  | query (filter : Filter) (limit : Int)

/-- The session that is named, if any. -/
def Request.session? : Request → Option String
  | write _ session => session
  | readSession name => some name
  | query filter _ => if filter.session = "" then none else some filter.session

inductive Answer where
  | written (result : Except WriteError Unit)
  | events (result : Except QueryError (List (Json Letters)))

namespace Sink

def answer (sink : Sink) (disk : Disk) : Request → Disk × Answer
  | .write event session =>
    ((sink.write disk event session).1, .written (sink.write disk event session).2)
  | .readSession name => (disk, .events (sink.readSession disk name))
  | .query filter limit => (disk, .events (sink.query disk filter limit))

/-- Answers some requests one after the other. -/
def answerAll (sink : Sink) (disk : Disk) : List Request → Disk × List Answer
  | [] => (disk, [])
  | request :: rest =>
    ((sink.answerAll (sink.answer disk request).1 rest).1,
      (sink.answer disk request).2 :: (sink.answerAll (sink.answer disk request).1 rest).2)

/-- The files that the requests may open. -/
def Opened (sink : Sink) (disk : Disk) (requests : List Request) (place : Place) : Prop :=
  ∃ log : Log, log.Safe ∧ (∃ request ∈ requests, log.Holds request.session?) ∧
    place = log.place (disk.placeOf sink.logs)

variable {sink : Sink} {disk first second after : Disk} {place : Place}

theorem placeOf_path (spelled : sink.logs.Spelled) {log : Log} (safe : log.Safe) :
    disk.placeOf (sink.path log) = log.place (disk.placeOf sink.logs) := by
  rw [path_eq, placeOf_child (spelled_folder spelled log) (Log.entryName_of_safe safe)]
  cases log with
  | project => rfl
  | session => rw [folder, placeOf_child spelled entryName_sessions, Log.place, Log.folder]

/-! ### What is written -/

theorem spares_appendLine {path : Path} (apart : disk.placeOf path ≠ place) (line : List Char) :
    Spares place disk (appendLine disk path line).1 := by
  have made := spares_ensureDirectories place disk path.parent
  unfold appendLine
  split
  · rename_i result
    rw [result] at made
    exact made.trans (Disk.spares_append (made.placeOf_eq path ▸ apart) _)
  · rename_i result
    rwa [result] at made

theorem keeps_appendLine (disk : Disk) (path : Path) (line : List Char) :
    disk.Keeps (appendLine disk path line).1 := by
  have beyond : disk.placeOf path ≠ disk.placeOf path ++ [""] := by simp
  exact (spares_appendLine beyond line).keeps

section Apart

variable {session : Option String}
  (apart : ∀ log : Log, log.Safe → log.Holds session → disk.placeOf (sink.path log) ≠ place)

include apart

theorem spares_append (event : Event) : Spares place disk (sink.append disk event session).1 := by
  have project : Spares place disk (appendLine disk sink.globalLog event.line).1 :=
    spares_appendLine (apart .project trivial trivial) event.line
  unfold append
  split
  · rename_i result
    rwa [result] at project
  · rename_i result
    rw [result] at project
    split
    · rename_i name
      split
      · rename_i safe
        have clear := apart (.session name) safe rfl
        rw [← project.placeOf_eq] at clear
        exact project.trans (spares_appendLine clear event.line)
      · exact project
    · exact project

theorem spares_write (event : Event) : Spares place disk (sink.write disk event session).1 := by
  unfold write
  split
  · exact .refl place disk
  · exact spares_append apart event

end Apart

theorem spares_answer (request : Request)
    (apart : ∀ log : Log, log.Safe → log.Holds request.session? →
      disk.placeOf (sink.path log) ≠ place) :
    Spares place disk (sink.answer disk request).1 := by
  cases request with
  | write event session => exact spares_write apart event
  | readSession name => exact .refl place disk
  | query filter limit => exact .refl place disk

/-- No log is at the root, so what is asked of them leaves it alone, and all directories with it. -/
theorem keeps_answer (spelled : sink.logs.Spelled) (disk : Disk) (request : Request) :
    disk.Keeps (sink.answer disk request).1 := by
  have apart : ∀ log : Log, log.Safe → log.Holds request.session? →
      disk.placeOf (sink.path log) ≠ [] := by
    intro log safe _
    rw [placeOf_path spelled safe]
    exact log.place_ne_nil _
  exact (spares_answer request apart).keeps

/-- A run leaves every file alone that is none of the logs that the requests name. -/
theorem spares_answerAll (requests : List Request)
    (apart : ∀ log : Log, log.Safe → (∃ request ∈ requests, log.Holds request.session?) →
      disk.placeOf (sink.path log) ≠ place) :
    Spares place disk (sink.answerAll disk requests).1 := by
  induction requests generalizing disk with
  | nil => exact .refl place disk
  | cons request rest ih =>
      have step := spares_answer request fun log safe holds =>
        apart log safe ⟨request, List.mem_cons_self, holds⟩
      refine step.trans (ih fun log safe named => ?_)
      obtain ⟨other, member, holds⟩ := named
      rw [step.placeOf_eq]
      exact apart log safe ⟨other, List.mem_cons_of_mem _ member, holds⟩

/-! ### What is read -/

section Alike

variable {opened : Place → Prop} (alike : Alike opened first second)

include alike

theorem answerAlike_appendLine {path : Path} (within : opened (first.placeOf path))
    (line : List Char) :
    AnswerAlike opened (appendLine first path line) (appendLine second path line) := by
  have still := (spares_ensureDirectories (first.placeOf path) first path.parent).placeOf_eq path
  unfold appendLine
  generalize made : first.ensureDirectories path.parent = result at still
  obtain ⟨after, answer⟩ := result
  obtain ⟨other, madeThere, alike⟩ := (alike.ensureDirectories path.parent).exists_eq made
  rw [madeThere]
  cases answer with
  | ok => exact alike.append_of_opened (still ▸ within) _
  | error => exact ⟨rfl, alike⟩

section Within

variable {session : Option String}
  (within : ∀ log : Log, log.Safe → log.Holds session → opened (first.placeOf (sink.path log)))

include within

private theorem answerAlike_append (event : Event) :
    AnswerAlike opened (sink.append first event session) (sink.append second event session) := by
  have project : AnswerAlike opened (appendLine first sink.globalLog event.line)
      (appendLine second sink.globalLog event.line) :=
    answerAlike_appendLine alike (within .project trivial trivial) event.line
  have still := (keeps_appendLine first sink.globalLog event.line).workingPlace
  unfold append
  generalize made : appendLine first sink.globalLog event.line = result at project still
  obtain ⟨after, answer⟩ := result
  obtain ⟨other, madeThere, alike⟩ := project.exists_eq rfl
  rw [madeThere]
  cases answer with
  | error => exact ⟨rfl, alike⟩
  | ok =>
      cases session with
      | none => exact ⟨rfl, alike⟩
      | some name =>
          dsimp only
          split
          · rename_i safe
            have own := within (.session name) safe rfl
            rw [← placeOf_of_workingPlace still] at own
            exact answerAlike_appendLine alike own event.line
          · exact ⟨rfl, alike⟩

private theorem answerAlike_write (event : Event) :
    AnswerAlike opened (sink.write first event session) (sink.write second event session) := by
  unfold write
  split
  · exact ⟨rfl, alike⟩
  · obtain ⟨answer, after⟩ := answerAlike_append alike within event
    exact ⟨congrArg (Except.mapError WriteError.disk) answer, after⟩

theorem readLog_eq_of_holds {log : Log} (safe : log.Safe) (holds : log.Holds session) :
    sink.readLog second (sink.path log) = sink.readLog first (sink.path log) := by
  rw [readLog, readLog, alike.look_eq_of_opened (within log safe holds)]

end Within

private theorem readSession_eq_of_alike {name : String}
    (within : ∀ log : Log, log.Safe → log.Holds (some name) →
      opened (first.placeOf (sink.path log))) :
    sink.readSession second name = sink.readSession first name := by
  unfold readSession
  split
  · rename_i safe
    have own : Log.Safe (.session name) := safe
    have read := readLog_eq_of_holds alike within own rfl
    exact read
  · rfl

private theorem query_eq_of_alike {filter : Filter} {limit : Int}
    (within : ∀ log : Log, log.Safe → log.Holds (Request.query filter limit).session? →
      opened (first.placeOf (sink.path log))) :
    sink.query second filter limit = sink.query first filter limit := by
  have holds : filter.log.Holds (Request.query filter limit).session? := by
    by_cases every : filter.session = "" <;> simp [Filter.log, Request.session?, every, Log.Holds]
  rw [query_eq, query_eq]
  split
  · rename_i safe
    rw [readLog_eq_of_holds alike within safe holds]
  · rfl

private theorem answerAlike_answer (request : Request)
    (within : ∀ log : Log, log.Safe → log.Holds request.session? →
      opened (first.placeOf (sink.path log))) :
    AnswerAlike opened (sink.answer first request) (sink.answer second request) := by
  cases request with
  | write event session =>
      obtain ⟨answer, after⟩ := answerAlike_write alike within event
      exact ⟨congrArg Answer.written answer, after⟩
  | readSession name =>
      have same := readSession_eq_of_alike alike within
      exact ⟨congrArg Answer.events same, alike⟩
  | query filter limit =>
      have same := query_eq_of_alike alike within
      exact ⟨congrArg Answer.events same, alike⟩

private theorem answerAlike_answerAll (spelled : sink.logs.Spelled) (requests : List Request)
    (within : ∀ log : Log, log.Safe → (∃ request ∈ requests, log.Holds request.session?) →
      opened (first.placeOf (sink.path log))) :
    AnswerAlike opened (sink.answerAll first requests) (sink.answerAll second requests) := by
  induction requests generalizing first second with
  | nil => exact ⟨rfl, alike⟩
  | cons request rest ih =>
      have step := answerAlike_answer alike request fun log safe holds =>
        within log safe ⟨request, List.mem_cons_self, holds⟩
      have still := (keeps_answer spelled first request).workingPlace
      have further := ih step.alike fun log safe named => by
        obtain ⟨other, member, holds⟩ := named
        rw [placeOf_of_workingPlace still]
        exact within log safe ⟨other, List.mem_cons_of_mem _ member, holds⟩
      have answers : (sink.answerAll second (request :: rest)).2 =
          (sink.answerAll first (request :: rest)).2 := by
        rw [answerAll, answerAll, step.answer, further.answer]
      exact ⟨answers, further.alike⟩

end Alike

/-! ### Names that are not safe -/

section Unsafe

variable {name : String} (bad : isSafeName name = false)

include bad

theorem write_of_not_safe (disk : Disk) (event : Event) :
    sink.write disk event (some name) = sink.write disk event none := by
  have same : sink.append disk event (some name) = sink.append disk event none := by
    unfold append
    simp only [bad, Bool.false_eq_true, if_false]
  rw [write, write, same]

private theorem readSession_of_not_safe (disk : Disk) : sink.readSession disk name = .ok [] := by
  rw [readSession, bad, if_neg Bool.false_ne_true]

private theorem query_of_not_safe_session {filter : Filter} (named : filter.session = name)
    (filled : name ≠ "") (disk : Disk) (limit : Int) : sink.query disk filter limit = .ok [] := by
  have log : filter.log = .session name := by rw [Filter.log, if_neg (named ▸ filled), named]
  have barred : ¬ filter.log.Safe := by
    rw [log]
    exact Bool.eq_false_iff.1 bad
  rw [query_eq, if_neg barred]
  refine Filter.pick_eq_ok_iff.2 ⟨List.forall_mem_nil _, ?_⟩
  unfold limited
  split <;> exact List.take_nil.symm

end Unsafe

/-! ### The log of the project -/

theorem octetsAt_of_appendLine (spelled : sink.logs.Spelled) {log : Log} (safe : log.Safe)
    {line : List Char} (added : appendLine disk (sink.path log) line = (after, .ok ())) :
    after.octetsAt (log.place (disk.placeOf sink.logs)) =
      disk.octetsAt (log.place (disk.placeOf sink.logs)) ++ Text.Utf8.encode line := by
  have made := spares_ensureDirectories (disk.placeOf (sink.path log)) disk (sink.path log).parent
  have inside : disk.placeOf (sink.path log) ≠ [] := by
    rw [placeOf_path spelled safe]
    exact log.place_ne_nil _
  rw [← placeOf_path spelled safe]
  unfold appendLine at added
  split at added
  · rename_i result
    rw [result] at made
    have behind := octetsAt_append added (made.placeOf_eq _ ▸ inside)
    rwa [made.placeOf_eq, made.octetsAt_eq] at behind
  · cases added

private theorem append_of_ok {event : Event} {session : Option String}
    (added : sink.append disk event session = (after, .ok ())) :
    ∃ middle, appendLine disk (sink.path .project) event.line = (middle, .ok ()) ∧
      (after = middle ∨ ∃ name, Log.Safe (.session name) ∧
        appendLine middle (sink.path (.session name)) event.line = (after, .ok ())) := by
  unfold append at added
  split at added
  · cases added
  · rename_i middle project
    refine ⟨middle, project, ?_⟩
    split at added
    · rename_i name
      split at added
      · rename_i safe
        exact .inr ⟨name, safe, added⟩
      · cases added
        exact .inl rfl
    · cases added
      exact .inl rfl

/-- An event that is written is in the log of the project, whatever session is named. -/
theorem octetsAt_of_write (spelled : sink.logs.Spelled) {event : Event} {session : Option String}
    (written : sink.write disk event session = (after, .ok ())) :
    after.octetsAt (Log.project.place (disk.placeOf sink.logs)) =
      disk.octetsAt (Log.project.place (disk.placeOf sink.logs)) ++
        Text.Utf8.encode event.line := by
  have added : sink.append disk event session = (after, .ok ()) := by
    unfold write at written
    split at written
    · cases written
    · generalize sink.append disk event session = result at written
      obtain ⟨other, answer⟩ := result
      cases answer <;> cases written
      rfl
  obtain ⟨middle, first, same | ⟨name, safe, second⟩⟩ := append_of_ok added
  · rw [same]
    exact octetsAt_of_appendLine spelled (show Log.project.Safe from trivial) first
  · have still := keeps_appendLine disk (sink.path .project) event.line
    rw [first] at still
    have apart : middle.placeOf (sink.path (.session name)) ≠
        Log.project.place (disk.placeOf sink.logs) := by
      rw [placeOf_of_workingPlace still.workingPlace, placeOf_path spelled safe]
      exact fun same => Log.noConfusion (Log.place_inj.1 same)
    have spares := spares_appendLine apart event.line
    rw [second] at spares
    rw [spares.octetsAt_eq]
    exact octetsAt_of_appendLine spelled (show Log.project.Safe from trivial) first

/-- Safe names are made of letters, digits, dashes and underscores, but a line feed may stand at
their ends. Whatever is asked of the logs, no file is written or read but the log of the project and
those of the sessions with safe names that are named. With any other name an event is written as
without one, and nothing is read; what is written is in the log of the project every time. -/
theorem session_names_confined (spelled : sink.logs.Spelled) :
    (∀ name, isSafeName name = true ↔ ∃ stem : String, stem ≠ "" ∧
      (∀ c ∈ stem.toList, isNameChar c = true) ∧ (name = stem ∨ name = stem ++ "\n")) ∧
    (∀ (disk : Disk) (requests : List Request),
      (∀ place, ¬ sink.Opened disk requests place →
        Spares place disk (sink.answerAll disk requests).1) ∧
      ∀ other, Alike (sink.Opened disk requests) disk other →
        AnswerAlike (sink.Opened disk requests) (sink.answerAll disk requests)
          (sink.answerAll other requests)) ∧
    (∀ name, isSafeName name = false → ∀ disk,
      (∀ event, sink.write disk event (some name) = sink.write disk event none ∧
        ∀ root, sink.Stands disk root → sink.Takes disk root .project → event.check = .ok () →
          ∃ after, sink.write disk event (some name) = (after, .ok ())) ∧
      sink.readSession disk name = .ok [] ∧
      ∀ filter limit, filter.session = name → name ≠ "" → sink.query disk filter limit = .ok []) ∧
    ∀ disk after event session, sink.write disk event session = (after, .ok ()) →
      after.octetsAt (Log.project.place (disk.placeOf sink.logs)) =
        disk.octetsAt (Log.project.place (disk.placeOf sink.logs)) ++
          Text.Utf8.encode event.line := by
  refine ⟨fun name => isSafeName_iff, fun disk requests => ⟨fun place closed => ?_, ?_⟩,
    fun name bad disk => ⟨fun event => ⟨write_of_not_safe bad disk event, ?_⟩,
      readSession_of_not_safe bad disk, ?_⟩,
    fun disk after event session => octetsAt_of_write spelled⟩
  · refine spares_answerAll requests fun log safe named same => closed ⟨log, safe, named, ?_⟩
    rw [← same, placeOf_path spelled safe]
  · intro other alike
    refine answerAlike_answerAll alike spelled requests fun log safe named => ?_
    exact ⟨log, safe, named, placeOf_path spelled safe⟩
  · intro root stands takes fits
    rw [write_of_not_safe bad disk event]
    have takesAll : ∀ log : Log, log.Safe → log.Holds none → sink.Takes disk root log := by
      intro log _ holds
      cases log with
      | project => exact takes
      | session => cases holds
    obtain ⟨after, written, -⟩ := stands.exists_write fits takesAll
    exact ⟨after, written⟩
  · exact fun filter limit named filled => query_of_not_safe_session bad named filled disk limit

def saved : Event := ⟨"t", .info, .sheetSaved, [], "saved", none⟩

theorem session_names_confined_of_parent :
    let requests : List Request := [.write saved (some "../a"), .write saved (some "b-1"),
      .readSession "../a", .query ⟨"", "", "../a", ""⟩ 10]
    (∀ place, place ≠ ["logs", "events.ndjson"] → place ≠ ["logs", "sessions", "b-1.ndjson"] →
      Spares place newProject (newLogs.answerAll newProject requests).1) ∧
    ∃ after, newLogs.write newProject saved (some "../a") = (after, .ok ()) ∧
      after.octetsAt ["logs", "events.ndjson"] = Text.Utf8.encode saved.line ∧
      newLogs.readSession after "../a" = .ok [] := by
  intro requests
  have logs : newProject.placeOf newLogs.logs = ["logs"] :=
    (place_of_target stands_newLogs.logs).symm
  have bad : isSafeName "../a" = false := by decide
  obtain ⟨-, runs, barred, reaches⟩ := session_names_confined stands_newLogs.spelled
  constructor
  · intro place notProject notSession
    refine (runs newProject requests).1 place ?_
    rintro ⟨log, safe, ⟨request, member, holds⟩, rfl⟩
    rw [logs] at notProject notSession
    cases log with
    | project => exact notProject rfl
    | session name =>
        have named : name = "../a" ∨ name = "b-1" := by
          simp only [requests, List.mem_cons, List.not_mem_nil, or_false] at member
          rcases member with rfl | rfl | rfl | rfl <;>
            simp_all [Log.Holds, Request.session?]
        rcases named with rfl | rfl
        · rw [Log.Safe, bad] at safe
          cases safe
        · exact notSession rfl
  · obtain ⟨-, written⟩ := (barred "../a" bad newProject).1 saved
    obtain ⟨after, done⟩ := written ["logs"] stands_newLogs (takes_newLogs trivial) (by decide)
    have reached := reaches newProject after saved (some "../a") done
    rw [logs] at reached
    exact ⟨after, done, reached, (barred "../a" bad after).2.1⟩

/-- The log of a session whose name ends with a line feed is made, and read again. -/
theorem session_log_of_line_feed :
    isNameChar '\n' = false ∧
    newProject.get? ["logs", "sessions", "a\n.ndjson"] = none ∧
    (newLogs.write newProject saved (some "a\n")).1.get? ["logs", "sessions", "a\n.ndjson"] =
      some (.file (Text.Utf8.encode saved.line)) ∧
    newLogs.readSession (newLogs.write newProject saved (some "a\n")).1 "a\n" =
      .ok [saved.entry] := by
  let calls : List Call := [⟨saved, some "a\n"⟩]
  have short : (Log.session "a\n").Short := ⟨by decide, by decide⟩
  have plain : ∀ call ∈ calls, call.event.Plain :=
    List.forall_mem_singleton.2 (.object (by decide) (List.forall_mem_nil _))
  have names : ∀ call ∈ calls, ∀ name ∈ call.session, name.length ≤ 200 := by
    simp [calls, show "a\n".length = 2 from rfl]
  have read := fresh_newLogs.readLog_writeAll plain names short fun octets read => by
    rw [fresh_newLogs.octets_of_read names short read]
    decide +kernel
  have held := (stands_newLogs.extends_writeAll (fun _ => takes_newLogs) names).2.octets
    (.session "a\n")
  have after : (newLogs.writeAll newProject calls).1 =
      (newLogs.write newProject saved (some "a\n")).1 := rfl
  have events : (Log.session "a\n").events calls = [saved] := rfl
  rw [after, events] at read
  rw [after, events, if_pos short.safe, fresh_newLogs.blank _ short, List.nil_append,
    List.flatMap_singleton] at held
  refine ⟨by decide, by decide, ?_, ?_⟩
  · have filled : Text.Utf8.encode saved.line ≠ [] := by decide +kernel
    rw [← held] at filled ⊢
    exact get?_of_octetsAt_ne_nil filled
  · rw [readSession, if_pos short.1]
    exact read

end Sink

end Spreadsheet.Journal
