import Spreadsheet.Proofs.Disk.Area
import Spreadsheet.Proofs.Journal.Log
import Spreadsheet.Proofs.Session.Recording

/-! The log of a session as a journal: doing again what its events tell leads to the sheet of the
session, with the same answer each time. -/

set_option autoImplicit false

namespace Spreadsheet

/-- The edit leaves its texts in full in the log. -/
structure Edit.Short (edit : Edit) : Prop where
  id : edit.id.length ≤ 256
  text : edit.text.length ≤ 256

namespace Journal

/-! ### Logs that take every line -/

/-- Every line for the session can be added to its logs. -/
structure Sink.Serves (sink : Sink) (disk : Disk) (root : Place) (name : String) : Prop where
  stands : sink.Stands disk root
  adds : ∀ log : Log, log.Safe → log.Holds (some name) → ∀ line,
    ∃ after, Sink.appendLine disk (sink.path log) line = (after, .ok ())

/-- The disk after some events were logged for a session one after the other, with sheets saved to
some files in between. -/
inductive Logs (sink : Sink) (name : String) (files : Path → Prop) :
    Disk → List Event → Disk → Prop where
  | nil {disk : Disk} : Logs sink name files disk [] disk
  | event {disk next after : Disk} {event : Event} {events : List Event} :
      sink.write disk event (some name) = (next, .ok ()) → Logs sink name files next events after →
      Logs sink name files disk (event :: events) after
  | save {disk after : Disk} {events : List Event} (sheet : Sheet) (path : Path) : files path →
      Logs sink name files (sheet.save disk path).1 events after →
      Logs sink name files disk events after

section Serves

variable {sink : Sink} {disk after : Disk} {root : Place} {name : String} {files : Path → Prop}
  {log : Log} {event : Event} {events : List Event}

theorem Sink.Serves.takes (serves : sink.Serves disk root name) (safe : log.Safe)
    (holds : log.Holds (some name)) : sink.Takes disk root log := by
  obtain ⟨after, added⟩ := serves.adds log safe holds []
  exact ((serves.stands.appendLine_eq_ok_iff safe).1 added).1

theorem Sink.Serves.of_takes (stands : sink.Stands disk root)
    (takes : ∀ log : Log, log.Safe → log.Holds (some name) → sink.Takes disk root log) :
    sink.Serves disk root name :=
  ⟨stands, fun log safe holds line => stands.exists_appendLine safe (takes log safe holds) line⟩

theorem Sink.Serves.of_extends {more : Log → List Char} (serves : sink.Serves disk root name)
    (extended : sink.Extends root disk after more) : sink.Serves after root name :=
  .of_takes (serves.stands.keeps extended.keeps) fun log safe holds =>
    (extended.takes log).2 (serves.takes safe holds)

/-- A sheet can be saved over a log, but a file is there all the same. -/
theorem Sink.Serves.save (serves : sink.Serves disk root name) (sheet : Sheet) (path : Path) :
    sink.Serves (sheet.save disk path).1 root name := by
  refine .of_takes (serves.stands.keeps (sheet.keeps_save disk path)) fun log safe holds => ?_
  have takes := serves.takes safe holds
  refine ⟨takes.fits, ?_⟩
  rcases sheet.save_cases disk path with same | ⟨place, _, _, octets, put⟩
  · rw [same]
    exact takes.free
  · rw [put, Disk.get?_put, if_neg (log.place_ne_nil root)]
    split
    · nofun
    · exact takes.free

private theorem shorten_depth (value : Json) : (Event.shorten value).depth = value.depth := by
  cases value with
  | string text =>
      rw [Event.shorten]
      split <;> rfl
  | _ => rfl

private theorem shorten_fitsDigits (value : Json) :
    (Event.shorten value).fitsDigits = value.fitsDigits := by
  cases value with
  | string text =>
      rw [Event.shorten]
      split <;> rfl
  | _ => rfl

theorem check_truncated (event : Event) : event.truncated.check = event.check := by
  have same (members : List (String × Json)) :
      Json.membersDepth (members.map fun member => (member.1, Event.shorten member.2)) =
          Json.membersDepth members ∧
        Json.membersFitDigits (members.map fun member => (member.1, Event.shorten member.2)) =
          Json.membersFitDigits members := by
    induction members with
    | nil => exact ⟨rfl, rfl⟩
    | cons member rest ih =>
        rw [List.map_cons, Json.membersDepth, Json.membersDepth, Json.membersFitDigits,
          Json.membersFitDigits, ih.1, ih.2, shorten_depth, shorten_fitsDigits]
        exact ⟨rfl, rfl⟩
  rw [Event.check, Event.check, Event.truncated, (same event.context).1, (same event.context).2]

theorem Sink.Serves.record {host : Host} (serves : sink.Serves host.disk root name)
    (attached : host.sink = some sink) (fits : event.check = .ok ()) :
    ∃ next more, sink.write host.disk event.truncated (some name) = (next, .ok ()) ∧
      sink.Extends root host.disk next more ∧
        Host.recorder host name event = { host with disk := next } := by
  obtain ⟨next, written, extended⟩ := serves.stands.exists_write
    ((check_truncated event).trans fits) fun log safe holds => serves.takes safe holds
  refine ⟨next, _, written, extended, ?_⟩
  rw [Host.recorder, Host.record, attached]
  dsimp only
  rw [written]

theorem Records.logs {host last : Host}
    (records : Records Host.recorder name files host events last)
    (attached : host.sink = some sink) (serves : sink.Serves host.disk root name) :
    Logs sink name files host.disk (events.map Event.truncated) last.disk ∧
      last.sink = some sink ∧ sink.Serves last.disk root name := by
  induction records with
  | nil => exact ⟨.nil, attached, serves⟩
  | note fits _ ih =>
      obtain ⟨next, more, written, extended, recorded⟩ := serves.record attached fits
      rw [recorded] at ih
      obtain ⟨logs, still⟩ := ih attached (serves.of_extends extended)
      exact ⟨.event written logs, still⟩
  | miss _ fails _ ih =>
      obtain ⟨disk, still⟩ := Host.record_of_check attached ((check_truncated _).trans fails)
      obtain ⟨logs, last⟩ := ih still (disk ▸ serves)
      exact ⟨disk ▸ logs, last⟩
  | save sheet path file _ ih =>
      obtain ⟨logs, still⟩ := ih attached (serves.save sheet path)
      exact ⟨.save sheet path file logs, still⟩

theorem Logs.append {middle : Disk} {more : List Event}
    (logs : Logs sink name files disk events middle)
    (further : Logs sink name files middle more after) :
    Logs sink name files disk (events ++ more) after := by
  induction logs with
  | nil => exact further
  | event written _ ih => exact .event written (ih further)
  | save sheet path file _ ih => exact .save sheet path file (ih further)

theorem Logs.mono {others : Path → Prop} (logs : Logs sink name files disk events after)
    (more : ∀ path, files path → others path) : Logs sink name others disk events after := by
  induction logs with
  | nil => exact .nil
  | event written _ ih => exact .event written ih
  | save sheet path file _ ih => exact .save sheet path (more path file) ih

private theorem extends_save (sink : Sink) (sheet : Sheet) {path : Path}
    (clear : disk.Avoids (IsLog root) path) :
    sink.Extends root disk (sheet.save disk path).1 fun _ => [] := by
  have same (log : Log) : (sheet.save disk path).1.get? (log.place root) =
      disk.get? (log.place root) := by
    rcases sheet.save_cases disk path with same | ⟨place, member, _, octets, put⟩
    · rw [same]
    · have apart : log.place root ≠ place := fun here => clear place member ⟨log, here.symm⟩
      rw [put, Disk.get?_put, if_neg (log.place_ne_nil root), if_neg apart]
  refine ⟨sheet.keeps_save disk path, fun log => ?_, fun log => ?_⟩
  · exact ⟨fun takes => ⟨takes.fits, same log ▸ takes.free⟩,
      fun takes => ⟨takes.fits, (same log).symm ▸ takes.free⟩⟩
  · rw [Disk.octetsAt, same]
    exact (List.append_nil _).symm

/-- As long as no sheet is saved over a log, the logs hold the lines of the events. -/
theorem Logs.extends (logs : Logs sink name files disk events after)
    (serves : sink.Serves disk root name)
    (clear : ∀ path, files path → disk.Avoids (IsLog root) path) :
    sink.Extends root disk after fun log =>
      if log.Safe ∧ log.Holds (some name) then events.flatMap Event.line else [] := by
  induction logs with
  | nil =>
      convert Sink.Extends.refl sink root _ using 2
      exact ite_self _
  | @event disk next after event events written _ ih =>
      have fits : event.check = .ok () := by
        cases check : event.check with
        | error error =>
            rw [Sink.write_of_check check] at written
            cases written
        | ok => rfl
      obtain ⟨next', told, extended⟩ := serves.stands.exists_write fits
        fun log safe holds => serves.takes safe holds
      obtain rfl : next' = next := congrArg Prod.fst (told.symm.trans written)
      have further := ih (serves.of_extends extended) fun path file =>
        (clear path file).of_workingPlace extended.keeps.workingPlace
      convert extended.trans further using 2 with log
      split <;> rfl
  | @save disk after events sheet path file _ ih =>
      have saved := extends_save sink sheet (clear path file)
      have further := ih (serves.of_extends saved) fun path file =>
        (clear path file).of_workingPlace saved.keeps.workingPlace
      exact saved.trans further

end Serves

/-! ### Shortened texts -/

section Truncated

variable {event : Event} {edit : Edit} {updated : List String} {session : Session}
  {line : List Char} {events : List Event}

theorem lookup_truncated (event : Event) (key : String) :
    event.truncated.context.lookup key = (event.context.lookup key).map Event.shorten :=
  Table.lookup_map Event.shorten event.context key

theorem shorten_string {text : String} (short : text.length ≤ 256) :
    Event.shorten (.string text) = .string text :=
  if_neg (Nat.not_lt.2 short)

theorem Event.Tells.truncated (tells : event.Tells edit updated) (short : edit.Short) :
    event.truncated.Tells edit updated where
  kind := tells.kind
  id := by rw [lookup_truncated, tells.id, Option.map_some, shorten_string short.id]
  contents filled := by
    rw [lookup_truncated, tells.contents filled, Option.map_some, shorten_string short.text]
  updated := by
    rw [lookup_truncated, tells.updated]
    rfl

theorem Event.TellsRefusal.truncated {error : EditError} (tells : event.TellsRefusal error) :
    event.truncated.TellsRefusal error := by
  cases tells with
  | cycle kind path =>
      refine .cycle kind ?_
      rw [lookup_truncated, path]
      rfl
  | other different kind none =>
      refine .other different kind ?_
      rw [lookup_truncated, none]
      rfl

theorem quiet_truncated (quiet : ∀ event ∈ events, event.Quiet) :
    ∀ event ∈ events.map Event.truncated, event.Quiet := by
  intro event member
  obtain ⟨whole, among, rfl⟩ := List.mem_map.1 member
  exact quiet whole among

theorem Notes.truncated (notes : Notes session line events)
    (short : ∀ edit updated, Asks line (.edit edit) →
      (session.sheet.apply edit).2 = .ok updated → edit.Short) :
    Notes session line (events.map Event.truncated) := by
  cases notes with
  | accepted asks accepted tells quiet =>
      exact .accepted asks accepted (tells.truncated (short _ _ asks accepted))
        (quiet_truncated quiet)
  | refused asks refused tells => exact .refused asks refused tells.truncated
  | other noEdit quiet => exact .other noEdit (quiet_truncated quiet)

end Truncated

/-! ### Doing again what events tell -/

/-- What one event does to a sheet when it is done again: the answer to an edit is the one that
the event tells of. -/
inductive Redo (sheet : Sheet) (event : Event) : Sheet → Prop where
  | set {after : Sheet} {id text : String} {updated : List String} : event.kind = .cellSet →
      event.context.lookup "cell_id" = some (.string id) →
      event.context.lookup "contents" = some (.string text) →
      sheet.set id text = (after, .ok updated) →
      event.context.lookup "updated" = some (.array (updated.map Json.string)) →
      Redo sheet event after
  | delete {after : Sheet} {id : String} {updated : List String} : event.kind = .cellDeleted →
      event.context.lookup "cell_id" = some (.string id) →
      sheet.delete id = (after, .ok updated) →
      event.context.lookup "updated" = some (.array (updated.map Json.string)) →
      Redo sheet event after
  | skip : event.kind ≠ .cellSet → event.kind ≠ .cellDeleted → Redo sheet event sheet

inductive Replay : Sheet → List Event → Sheet → Prop where
  | nil {sheet : Sheet} : Replay sheet [] sheet
  | cons {sheet next after : Sheet} {event : Event} {events : List Event} :
      Redo sheet event next → Replay next events after → Replay sheet (event :: events) after

section Replay

variable {sheet memory after : Sheet} {event : Event} {events : List Event} {edit : Edit}
  {updated : List String} {session : Session} {line : List Char}

theorem Replay.append {more : List Event} {last : Sheet} (replay : Replay sheet events after)
    (further : Replay after more last) : Replay sheet (events ++ more) last := by
  induction replay with
  | nil => exact further
  | cons redo _ ih => exact .cons redo (ih further)

theorem replay_skip (sheet : Sheet)
    (skipped : ∀ event ∈ events, event.kind ≠ .cellSet ∧ event.kind ≠ .cellDeleted) :
    Replay sheet events sheet := by
  induction events with
  | nil => exact .nil
  | cons event rest ih =>
      rw [List.forall_mem_cons] at skipped
      exact .cons (.skip skipped.1.1 skipped.1.2) (ih skipped.2)

theorem Event.Quiet.skipped (quiet : event.Quiet) :
    event.kind ≠ .cellSet ∧ event.kind ≠ .cellDeleted := by
  rw [Event.Quiet, List.mem_cons, List.mem_cons, not_or, not_or] at quiet
  exact ⟨quiet.1, quiet.2.1⟩

theorem Event.TellsRefusal.skipped {error : EditError} (tells : event.TellsRefusal error) :
    event.kind ≠ .cellSet ∧ event.kind ≠ .cellDeleted := by
  cases tells with
  | cycle kind => rw [kind]; exact ⟨nofun, nofun⟩
  | other _ kind => rw [kind]; exact ⟨nofun, nofun⟩

/-- An edit that clears a cell deletes it, and any other one sets it to the trimmed text. -/
theorem apply_eq_of_text (sheet : Sheet) (edit : Edit) :
    sheet.apply edit = if edit.text = "" then sheet.delete edit.id
      else sheet.set edit.id edit.text := by
  have cleared (id : String) : sheet.set id "" = sheet.delete id := by
    unfold Sheet.set Sheet.delete
    split <;> rfl
  cases edit with
  | delete id => rfl
  | set id contents =>
      cases contents with
      | none => rfl
      | some text =>
          change sheet.set id text =
            if Cell.trimmed text = "" then sheet.delete id else sheet.set id (Cell.trimmed text)
          rw [← cleared, ← Sheet.set_trimmed]
          split
          · rename_i blank
            rw [blank]
          · rfl

theorem Event.Tells.redo (tells : event.Tells edit updated)
    (accepted : (memory.apply edit).2 = .ok updated) : Redo memory event (memory.apply edit).1 := by
  have answer : memory.apply edit = ((memory.apply edit).1, .ok updated) :=
    Prod.ext rfl accepted
  have kind := tells.kind
  rw [apply_eq_of_text] at answer ⊢
  by_cases blank : edit.text = ""
  · rw [if_pos blank] at kind answer ⊢
    exact .delete kind tells.id answer tells.updated
  · rw [if_neg blank] at kind answer ⊢
    exact .set kind tells.id (tells.contents blank) answer tells.updated

private theorem mem_change_of_accepted {disk : Disk} {change : List Session.Change}
    (makes : Session.Makes session disk line change) (asks : Asks line (.edit edit))
    (accepted : (session.sheet.apply edit).2 = .ok updated) :
    Session.Change.edit edit ∈ change := by
  cases makes with
  | edit also =>
      cases asks.unique also
      exact List.mem_singleton_self _
  | load also => cases asks.unique also
  | nothing noEdit => exact absurd accepted (noEdit edit updated asks)

/-- Doing again what a line logged takes a sheet that is the same to one that is the same. -/
theorem replay_line {host : Host} {change : List Session.Change} (record : Recorder)
    (notes : Notes session line events) (makes : Session.Makes session host.disk line change)
    (noLoad : ∀ loaded, Session.Change.load loaded ∉ change) (settled : session.sheet.Settled)
    (same : memory.Unchanged session.sheet) :
    ∃ after, Replay memory events after ∧
      after.Unchanged (session.execute record host line).session.sheet := by
  have frontEnd := Session.frontEnd_of_settled settled record host
  cases makes with
  | load => exact absurd (List.mem_singleton_self _) (noLoad _)
  | @edit edit updated asks accepted =>
      have consistent := (same.symm.settled settled).consistent
      obtain ⟨answer, unchanged⟩ := same.apply consistent edit
      rw [frontEnd.edit line edit asks]
      cases notes with
      | accepted also taken tells quiet =>
          cases asks.unique also
          obtain rfl : updated = _ := Except.ok.inj (accepted.symm.trans taken)
          exact ⟨_, .cons (tells.redo (answer.symm.trans accepted))
            (replay_skip _ fun event member => (quiet event member).skipped), unchanged⟩
      | refused also refused =>
          cases asks.unique also
          rw [accepted] at refused
          cases refused
      | other noEdit => exact absurd asks (noEdit edit)
  | nothing noEdit notLoaded =>
      have kept := frontEnd.unchanged_of_nothing noEdit notLoaded
      refine ⟨memory, replay_skip memory fun event member => ?_, same.trans kept⟩
      cases notes with
      | accepted asks accepted => exact absurd accepted (noEdit _ _ asks)
      | refused asks refused tells => exact List.mem_singleton.1 member ▸ tells.skipped
      | other _ quiet => exact (quiet event member).skipped

end Replay

/-! ### Runs of lines -/

/-- The events that some lines logged one after the other. -/
inductive Chronicle (sink : Sink) : Host → Session → List (List Char) → List Event → Prop where
  | nil {host : Host} {session : Session} : Chronicle sink host session [] []
  | cons {host : Host} {session : Session} {line : List Char} {rest : List (List Char)}
      {events more : List Event} :
      Logs sink session.name (Uses session.sheetFile line) host.disk events
        (session.execute Host.recorder host line).host.disk →
      Notes session line events →
      Chronicle sink (session.execute Host.recorder host line).host
        (session.execute Host.recorder host line).session rest more →
      Chronicle sink host session (line :: rest) (events ++ more)

section Run

variable {sink : Sink} {root : Place} {host : Host} {session : Session} {lines : List (List Char)}
  {changes : List Session.Change} {memory : Sheet}

private theorem exists_chronicle (attached : host.sink = some sink)
    (serves : sink.Serves host.disk root session.name)
    (made : ∃ edits, Sheet.ofEdits edits = session.sheet) (same : memory.Unchanged session.sheet)
    (told : Session.Changes Host.recorder host session lines changes)
    (short : ∀ change ∈ changes, ∃ edit : Edit, change = .edit edit ∧ edit.Short) :
    ∃ events replayed, Chronicle sink host session lines events ∧
      Replay memory events replayed ∧
        replayed.Unchanged (session.executeAll Host.recorder host lines).2.sheet := by
  induction told generalizing memory with
  | nil => exact ⟨[], memory, .nil, .nil, same⟩
  | @cons host session line rest change changes makes _ ih =>
      rw [List.forall_mem_append] at short
      have settled : session.sheet.Settled := by
        obtain ⟨edits, made⟩ := made
        exact made ▸ Sheet.settled_ofEdits edits
      obtain ⟨recorded, records, notes⟩ :=
        Session.exists_records session Host.recorder host line
      obtain ⟨logs, stillAttached, stillServes⟩ := records.logs attached serves
      have logged : Notes session line (recorded.map Event.truncated) := by
        refine notes.truncated fun edit updated asks accepted => ?_
        obtain ⟨other, same, fits⟩ := short.1 _ (mem_change_of_accepted makes asks accepted)
        cases same
        exact fits
      have noLoad : ∀ loaded, Session.Change.load loaded ∉ change := by
        intro loaded member
        obtain ⟨edit, wrong, _⟩ := short.1 _ member
        cases wrong
      -- The sheet on which the events are done again need not be equal to that of the session: a
      -- refused edit may leave its links in another order.
      obtain ⟨next, replay, nextSame⟩ :=
        replay_line Host.recorder logged makes noLoad settled same
      have name : (session.execute Host.recorder host line).session.name = session.name := by
        rw [Session.settings_execute]
      obtain ⟨more, replayed, chronicle, further, last⟩ := ih stillAttached (name ▸ stillServes)
        (Session.edits_execute made Host.recorder host line) nextSame short.2
      exact ⟨_, replayed, .cons logs logged chronicle, replay.append further, last⟩

theorem Chronicle.logs {events : List Event}
    (chronicle : Chronicle sink host session lines events) :
    Logs sink session.name (fun path => ∃ line ∈ lines, Uses session.sheetFile line path) host.disk
      events (session.executeAll Host.recorder host lines).1.disk := by
  induction chronicle with
  | nil => exact .nil
  | @cons host session line rest events more logs _ _ ih =>
      have settings := Session.settings_execute session Host.recorder host line
      rw [congrArg Session.name settings, congrArg Session.sheetFile settings] at ih
      refine (logs.mono fun path uses => ?_).append (ih.mono fun path uses => ?_)
      · exact ⟨line, List.mem_cons_self, uses⟩
      · obtain ⟨other, member, uses⟩ := uses
        exact ⟨other, List.mem_cons_of_mem _ member, uses⟩

theorem asks_set (id contents : String) (filled : id ≠ "")
    (visible : id.toList.all (!Text.isBlank ·) = true) :
    Asks ("set ".toList ++ id.toList ++ ' ' :: contents.toList)
      (.edit (.set id (some (String.ofList (' ' :: contents.toList))))) := by
  have begins := Text.begins_of_space (by decide : "set".toList ≠ []) rfl
    (id.toList ++ ' ' :: contents.toList)
  have first := Text.begins_of_space (by simpa using filled) visible contents.toList
  have asks := Asks.set begins first.behind_space
  rwa [String.ofList_toList] at asks

/-- A session that begins with an empty sheet keeps a journal in the logs: what is logged for its
lines, done again in order on another empty sheet, answers as logged and leads to its sheet. Unless
a sheet is saved over a log, its own log has the lines of just these events behind what was
there. -/
theorem exists_replay (attached : host.sink = some sink)
    (serves : sink.Serves host.disk root session.name) (empty : session.sheet = ∅)
    {edits : List Edit}
    (told : Session.Changes Host.recorder (session.start Host.recorder host) session lines
      (edits.map .edit))
    (short : ∀ edit ∈ edits, edit.Short) :
    let begun := session.start Host.recorder host
    let after := session.executeAll Host.recorder begun lines
    ∃ first events replayed,
      Logs sink session.name (fun _ => False) host.disk [first] begun.disk ∧ first.Quiet ∧
        Chronicle sink begun session lines events ∧ Replay ∅ (first :: events) replayed ∧
        replayed.Unchanged after.2.sheet ∧
        (isSafeName session.name = true →
          (∀ line ∈ lines, ∀ path, Uses session.sheetFile line path →
            host.disk.Avoids (IsLog root) path) →
          after.1.disk.octetsAt ((Log.session session.name).place root) =
            host.disk.octetsAt ((Log.session session.name).place root) ++
              Text.Utf8.encode ((first :: events).flatMap Event.line)) := by
  intro begun after
  have made : ∃ edits, Sheet.ofEdits edits = session.sheet := ⟨[], empty.symm⟩
  obtain ⟨started, records, quiet⟩ : ∃ event, Records Host.recorder session.name (fun _ => False)
      host [event] begun ∧ event.Quiet :=
    ⟨_, .note rfl .nil, by simp [Event.Quiet]⟩
  obtain ⟨logs, stillAttached, stillServes⟩ := records.logs attached serves
  have each : ∀ change ∈ edits.map Session.Change.edit,
      ∃ edit : Edit, change = .edit edit ∧ edit.Short := by
    intro change member
    obtain ⟨edit, among, rfl⟩ := List.mem_map.1 member
    exact ⟨edit, rfl, short edit among⟩
  obtain ⟨events, replayed, chronicle, replay, same⟩ :=
    exists_chronicle stillAttached stillServes made (.refl session.sheet) told each
  refine ⟨started.truncated, events, replayed, logs, quiet, chronicle, ?_, same,
    fun safe clear => ?_⟩
  · exact .cons (.skip (Event.Quiet.skipped quiet).1 (Event.Quiet.skipped quiet).2) (empty ▸ replay)
  · have whole := (logs.mono fun _ never => never.elim).append chronicle.logs
    have extended := whole.extends serves fun path used => by
      obtain ⟨line, member, uses⟩ := used
      exact clear line member path uses
    rw [extended.octets, if_pos ⟨safe, rfl⟩]
    rfl

/-- A session in a new project with an edit that is accepted and one that is not. -/
theorem exists_replay_of_two_edits :
    let host : Host := { Host.start newProject .usual "t" 0 [] with sink := some newLogs }
    let session : Session := ⟨∅, Config.default, none, "a"⟩
    let lines : List (List Char) := ["set A1 5".toList, "set x 1".toList]
    let begun := session.start Host.recorder host
    ∃ started events replayed, Chronicle newLogs begun session lines events ∧
      Replay ∅ (started :: events) replayed ∧
        replayed.Unchanged (session.executeAll Host.recorder begun lines).2.sheet := by
  intro host session lines begun
  have serves : newLogs.Serves newProject ["logs"] "a" := by
    refine .of_takes stands_newLogs fun log safe holds => takes_newLogs ?_
    cases log with
    | project => trivial
    | session name =>
        cases holds
        exact ⟨safe, by decide⟩
  have first : Asks "set A1 5".toList (.edit (.set "A1" (some " 5"))) :=
    asks_set "A1" "5" (by decide) rfl
  have second : Asks "set x 1".toList (.edit (.set "x" (some " 1"))) :=
    asks_set "x" "1" (by decide) rfl
  have told : Session.Changes Host.recorder begun session lines
      ([.set "A1" (some " 5")].map Session.Change.edit) := by
    refine .cons (.edit first rfl) (.cons (.nothing ?_ ?_) .nil)
    · intro edit updated asks accepted
      cases second.unique asks
      rw [Session.execute_edit first] at accepted
      cases accepted
    · intro name sheet asks
      cases second.unique asks
  obtain ⟨started, events, replayed, _, _, chronicle, replay, same, _⟩ :=
    exists_replay rfl serves rfl told (List.forall_mem_singleton.2 ⟨by decide, by decide⟩)
  exact ⟨started, events, replayed, chronicle, replay, same⟩

end Run

end Journal

end Spreadsheet
