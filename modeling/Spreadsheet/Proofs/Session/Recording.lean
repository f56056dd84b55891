import Spreadsheet.Proofs.Collection.Table
import Spreadsheet.Proofs.Session.FrontEnd

/-! What a session records and saves while a line runs: for every edit one event that tells of
it, and none that looks like one otherwise. -/

set_option autoImplicit false

namespace Spreadsheet

namespace Edit

/-- The text that was given with the edit, if any. -/
def typed : Edit → Option String
  | set _ contents => some (Cell.trimmed (contents.getD ""))
  | delete _ => none

/-- The text that the edit gives a cell; nothing if it clears the cell. -/
def text (edit : Edit) : String := edit.typed.getD ""

private theorem typed_of_text {edit : Edit} (filled : edit.text ≠ "") :
    edit.typed = some edit.text := by
  cases edit with
  | set => rfl
  | delete => exact absurd rfl filled

end Edit

section Words

variable {word : String} {operands : List Char}

private theorem Command.word_of_set {edit : String × String}
    (asked : ofWord word operands = .set (some edit)) :
    word = "set" ∧ edit? operands = some edit := by
  unfold ofWord at asked
  split at asked <;> simp_all

private theorem Command.word_of_delete {id : String}
    (asked : ofWord word operands = .delete (some id)) :
    word = "delete" ∧ operand? operands = some id := by
  unfold ofWord at asked
  split at asked <;> simp_all

theorem Command.word_of_file {name : Option String}
    (asked : ofWord word operands = .save name ∨ ofWord word operands = .load name) :
    name = operand? operands ∧ (word = "save" ∨ word = "load") := by
  unfold ofWord at asked
  split at asked <;> simp_all

end Words

/-- The files that a line may read or write, in a session with a file of its own or without. -/
inductive Uses (own : Option Path) (line : List Char) : Path → Prop where
  | own {path : Path} : own = some path → Uses own line path
  | save {operands : List Char} : Text.Begins "save".toList operands line →
      Text.trim operands ≠ [] → Uses own line (Path.ofText (String.ofList (Text.trim operands)))
  | load {operands : List Char} : Text.Begins "load".toList operands line →
      Text.trim operands ≠ [] → Uses own line (Path.ofText (String.ofList (Text.trim operands)))

theorem Uses.cases {own : Option Path} {line word operands : List Char} {path : Path}
    (uses : Uses own line path) (begins : Text.Begins word operands line) :
    own = some path ∨ (word = "save".toList ∨ word = "load".toList) ∧
      path = Path.ofText (String.ofList (Text.trim operands)) := by
  cases uses with
  | own named => exact .inl named
  | save also =>
      obtain ⟨rfl, rfl⟩ := begins.unique also
      exact .inr ⟨.inl rfl, rfl⟩
  | load also =>
      obtain ⟨rfl, rfl⟩ := begins.unique also
      exact .inr ⟨.inr rfl, rfl⟩

namespace Journal

namespace Event

/-- The event is not about an edit. -/
def Quiet (event : Event) : Prop :=
  event.kind ∉ [Kind.cellSet, Kind.cellDeleted, Kind.cellRejected, Kind.cycleRejected]

/-- The event says which edit was accepted, and which cells were evaluated anew. -/
structure Tells (event : Event) (edit : Edit) (updated : List String) : Prop where
  kind : event.kind = if edit.text = "" then .cellDeleted else .cellSet
  id : event.context.lookup "cell_id" = some (.string edit.id)
  contents : edit.text ≠ "" → event.context.lookup "contents" = some (.string edit.text)
  updated : event.context.lookup "updated" = some (.array (updated.map Json.string))

/-- The event says that an edit was refused, and with the cycle if that is why. -/
inductive TellsRefusal (event : Event) : EditError → Prop where
  | cycle {path : List String} : event.kind = .cycleRejected →
      event.context.lookup "cycle_path" = some (.array (path.map Json.string)) →
      TellsRefusal event (.cycle path)
  | other {error : EditError} : (∀ path, error ≠ .cycle path) → event.kind = .cellRejected →
      event.context.lookup "cycle_path" = none → TellsRefusal event error

end Event

/-- The events of one line, by what the line does to the sheet. -/
inductive Notes (session : Session) (line : List Char) : List Event → Prop where
  | accepted {edit : Edit} {updated : List String} {event : Event} {others : List Event} :
      Asks line (.edit edit) → (session.sheet.apply edit).2 = .ok updated →
      event.Tells edit updated → (∀ other ∈ others, other.Quiet) →
      Notes session line (event :: others)
  | refused {edit : Edit} {error : EditError} {event : Event} : Asks line (.edit edit) →
      (session.sheet.apply edit).2 = .error error → event.TellsRefusal error →
      Notes session line [event]
  | other {events : List Event} : (∀ edit, ¬ Asks line (.edit edit)) →
      (∀ event ∈ events, event.Quiet) → Notes session line events

/-- The host after some events were recorded one after the other, with sheets saved to some files
in between. An event that cannot be logged is not among them, and is about no edit. -/
inductive Records (record : Recorder) (name : String) (files : Path → Prop) :
    Host → List Event → Host → Prop where
  | nil {host : Host} : Records record name files host [] host
  | note {host after : Host} {event : Event} {events : List Event} : event.check = .ok () →
      Records record name files (record host name event) events after →
      Records record name files host (event :: events) after
  | miss {host after : Host} {event : Event} {events : List Event} {error : WriteError} :
      event.Quiet → event.check = .error error →
      Records record name files (record host name event) events after →
      Records record name files host events after
  | save {host after : Host} {events : List Event} (sheet : Sheet) (path : Path) : files path →
      Records record name files { host with disk := (sheet.save host.disk path).1 } events after →
      Records record name files host events after

/-- The host after some events about no edit were recorded in this way. -/
def RecordsQuietly (record : Recorder) (name : String) (files : Path → Prop) (host after : Host) :
    Prop :=
  ∃ events, Records record name files host events after ∧ ∀ event ∈ events, event.Quiet

variable {record : Recorder} {name : String} {files : Path → Prop} {host after : Host}
  {events : List Event}

theorem Records.of_save {sheet : Sheet} {path : Path} {disk : Disk}
    {result : Except FileError Unit} (saved : sheet.save host.disk path = (disk, result))
    (file : files path) (records : Records record name files { host with disk } events after) :
    Records record name files host events after := by
  refine .save sheet path file ?_
  rwa [saved]

theorem Records.append {middle : Host} {more : List Event}
    (records : Records record name files host events middle)
    (further : Records record name files middle more after) :
    Records record name files host (events ++ more) after := by
  induction records with
  | nil => exact further
  | note fits _ ih => exact .note fits (ih further)
  | miss quiet fails _ ih => exact .miss quiet fails (ih further)
  | save sheet path file _ ih => exact .save sheet path file (ih further)

theorem RecordsQuietly.refl (record : Recorder) (name : String) (files : Path → Prop)
    (host : Host) : RecordsQuietly record name files host host := ⟨[], .nil, nofun⟩

/-- An event about no edit is recorded if it can be logged at all. -/
theorem RecordsQuietly.note {event : Event} (quiet : event.Quiet) :
    RecordsQuietly record name files host (record host name event) := by
  cases fits : event.check with
  | ok => exact ⟨[event], .note fits .nil, List.forall_mem_singleton.2 quiet⟩
  | error error => exact ⟨[], .miss quiet fits .nil, nofun⟩

theorem RecordsQuietly.of_save {sheet : Sheet} {path : Path} {disk : Disk}
    {result : Except FileError Unit} (saved : sheet.save host.disk path = (disk, result))
    (file : files path) (records : RecordsQuietly record name files { host with disk } after) :
    RecordsQuietly record name files host after := by
  obtain ⟨events, records, quiet⟩ := records
  exact ⟨events, .of_save saved file records, quiet⟩

private theorem itemsDepth_strings (texts : List String) :
    Json.itemsDepth (texts.map Json.string) ≤ 1 := by
  induction texts with
  | nil => exact Nat.zero_le 1
  | cons text rest ih =>
      rw [List.map_cons, Json.itemsDepth]
      exact max_le (Nat.le_refl 1) ih

private theorem itemsFitDigits_strings (texts : List String) :
    Json.itemsFitDigits (texts.map Json.string) = true := by
  induction texts with
  | nil => rfl
  | cons text rest ih =>
      rw [List.map_cons, Json.itemsFitDigits, ih]
      rfl

end Journal

namespace Host

theorem warn_disk (host : Host) (text : String) : (host.warn text).disk = host.disk := by
  unfold warn
  split
  · split <;> rfl
  · rfl

theorem warn_sink (host : Host) (text : String) : (host.warn text).sink = host.sink := by
  unfold warn
  split
  · split <;> rfl
  · rfl

/-- An event that cannot be logged leaves nothing but perhaps a warning. -/
theorem record_of_check {host : Host} {sink : Journal.Sink} {event : Journal.Event}
    {session : Option String} {error : Journal.WriteError} (attached : host.sink = some sink)
    (fails : event.truncated.check = .error error) :
    (host.record event session).disk = host.disk ∧
      (host.record event session).sink = some sink := by
  rw [record, attached]
  dsimp only
  rw [Journal.Sink.write, fails]
  exact ⟨warn_disk _ _, warn_sink _ _⟩

end Host

namespace Session

open Journal

variable {session : Session} {record : Recorder} {host : Host} {files : Path → Prop}

/-! ### Events about edits -/

section Edits

theorem editContext_eq (id : String) (contents : Option String) (name : String)
    (more : List (String × Json)) (one : more = [] ∨ ∃ value,
      more = [("updated", value)] ∨ more = [("cycle_path", value)]) :
    Event.editContext id contents (("session_id", .string name) :: more) =
      ("cell_id", .string id) ::
        ((contents.map fun text => ("contents", Json.string text)).toList ++
          ("session_id", .string name) :: more) := by
  rcases one with rfl | ⟨value, rfl | rfl⟩ <;> cases contents <;> rfl

theorem check_editContext (id : String) (contents : Option String) (name : String) (key : String)
    (texts : List String) {event : Event} (context : event.context = ("cell_id", .string id) ::
      ((contents.map fun text => ("contents", Json.string text)).toList ++
        [("session_id", .string name), (key, .array (texts.map Json.string))])) :
    event.check = .ok () := by
  have flat := itemsDepth_strings texts
  have shallow : Json.membersDepth event.context ≤ 2 := by
    rw [context]
    cases contents <;>
      simp only [Option.map_none, Option.map_some, Option.toList_none, Option.toList_some,
        List.nil_append, List.cons_append, Json.membersDepth, Json.depth] <;>
      omega
  have digits : Json.membersFitDigits event.context = true := by
    rw [context]
    cases contents <;> simp [Json.membersFitDigits, Json.fitsDigits, itemsFitDigits_strings]
  rw [Event.check, if_neg (Nat.not_lt.2 (Nat.le_trans shallow (by decide))), if_pos digits]

private theorem tells_of_context {event : Event} {edit : Edit} {name : String}
    {updated : List String} (kind : event.kind = if edit.text = "" then .cellDeleted else .cellSet)
    (context : event.context = ("cell_id", .string edit.id) ::
      ((edit.typed.map fun text => ("contents", Json.string text)).toList ++
        [("session_id", .string name), ("updated", .array (updated.map Json.string))])) :
    event.Tells edit updated := by
  refine ⟨kind, ?_, fun filled => ?_, ?_⟩
  · rw [context]
    rfl
  · rw [context, Edit.typed_of_text filled]
    rfl
  · rw [context]
    cases edit.typed <;> rfl

private theorem tellsRefusal_of_context {event : Event} {error : EditError} {id : String}
    {contents : Option String} {name : String} (kind : event.kind = error.eventKind)
    (context : event.context = ("cell_id", .string id) ::
      ((contents.map fun text => ("contents", Json.string text)).toList ++
        ("session_id", .string name) :: error.eventContext)) : event.TellsRefusal error := by
  cases error with
  | cycle path =>
      refine .cycle kind ?_
      rw [context]
      cases contents <;> rfl
  | invalidId =>
      refine .other nofun kind ?_
      rw [context]
      cases contents <;> rfl
  | badFormula =>
      refine .other nofun kind ?_
      rw [context]
      cases contents <;> rfl

private theorem records_noteRefusal (session : Session) (record : Recorder) (host : Host)
    (files : Path → Prop) (id : String)
    (contents : Option String) (error : EditError) :
    ∃ event, Records record session.name files host [event]
      (session.noteRefusal record host id contents error) ∧ event.TellsRefusal error := by
  have one : error.eventContext = [] ∨ ∃ value, error.eventContext = [("updated", value)] ∨
      error.eventContext = [("cycle_path", value)] := by
    cases error with
    | cycle => exact .inr ⟨_, .inr rfl⟩
    | _ => exact .inl rfl
  have context := editContext_eq id contents session.name error.eventContext one
  refine ⟨_, .note ?_ .nil, tellsRefusal_of_context rfl context⟩
  cases error with
  | cycle path => exact check_editContext id contents session.name "cycle_path" path context
  | _ => cases contents <;> rfl

private theorem records_noteEdit (session : Session) (record : Recorder) (host : Host)
    (files : Path → Prop) (edit : Edit) (updated : List String) :
    ∃ event, Records record session.name files host [event]
      (session.noteEdit record host (if edit.text = "" then .cellDeleted else .cellSet) edit.id
        edit.typed updated) ∧ event.Tells edit updated := by
  have context := editContext_eq edit.id edit.typed session.name
    [("updated", .array (updated.map Json.string))] (.inr ⟨_, .inl rfl⟩)
  exact ⟨_, .note (check_editContext edit.id edit.typed session.name "updated" updated context)
    .nil, tells_of_context rfl context⟩

end Edits

private theorem records_autosave (session : Session) (record : Recorder) (host : Host)
    (own : ∀ path, session.sheetFile = some path → files path) :
    RecordsQuietly record session.name files host (session.autosave record host).host := by
  unfold autosave
  split
  · exact .refl ..
  · rename_i path here
    split
    · exact .refl ..
    · split
      · rename_i saved
        exact .of_save saved (own path here) (.refl ..)
      · rename_i saved
        exact .of_save saved (own path here) (.refl ..)
      · rename_i saved
        exact .of_save saved (own path here) (.note (by simp [Event.Quiet]))

private theorem records_save (session : Session) (record : Recorder) (host : Host) {path : Path}
    (file : files path) :
    RecordsQuietly record session.name files host (session.save record host path).host := by
  unfold save
  split
  · rename_i saved
    exact .of_save saved file (.note (by simp [Event.Quiet]))
  · rename_i saved
    exact .of_save saved file (.refl ..)
  · rename_i saved
    exact .of_save saved file (.note (by simp [Event.Quiet]))

private theorem records_load (session : Session) (record : Recorder) (host : Host) (path : Path) :
    RecordsQuietly record session.name files host (session.load record host path).host := by
  unfold load
  split
  · exact .note (by simp [Event.Quiet])
  · exact .refl ..
  · exact .note (by simp [Event.Quiet])

/-! ### Lines -/

theorem host_execute_edit {line : List Char} {edit : Edit} (asks : Asks line (.edit edit)) :
    (session.execute record host line).host =
      match session.sheet.apply edit with
      | (sheet, .ok updated) =>
        let after : Session := { session with sheet }
        (after.autosave record (after.noteEdit record host
          (if edit.text = "" then .cellDeleted else .cellSet) edit.id edit.typed updated)).host
      | (sheet, .error error) =>
        let after : Session := { session with sheet }
        after.noteRefusal record host edit.id edit.typed error := by
  cases asks with
  | @set operands id contents begins first =>
      rw [execute, ofLine_of_set begins first, run, set, Sheet.set_trimmed, Sheet.apply]
      generalize session.sheet.set (String.ofList id) (String.ofList contents) = result
      obtain ⟨sheet, answer⟩ := result
      cases answer <;> rfl
  | @delete operands begins named =>
      rw [execute, ofLine_of_delete begins named, run, delete, Sheet.apply]
      generalize session.sheet.delete (String.ofList (Text.trim operands)) = result
      obtain ⟨sheet, answer⟩ := result
      cases answer <;> rfl

/-- What comes of an edit is recorded in one event, before the sheet is saved. -/
theorem records_edit {line : List Char} {edit : Edit} (asks : Asks line (.edit edit))
    (own : ∀ path, session.sheetFile = some path → files path) :
    ∃ events, Records record session.name files host events
        (session.execute record host line).host ∧ Notes session line events := by
  rw [host_execute_edit asks]
  cases applied : session.sheet.apply edit with
  | mk sheet answer =>
      cases answer with
      | error error =>
          obtain ⟨event, records, tells⟩ := records_noteRefusal
            { session with sheet } record host files edit.id edit.typed error
          exact ⟨[event], records, .refused asks (congrArg Prod.snd applied) tells⟩
      | ok updated =>
          obtain ⟨event, records, tells⟩ :=
            records_noteEdit { session with sheet } record host files edit updated
          obtain ⟨others, saved, quiet⟩ := records_autosave { session with sheet } record _ own
          exact ⟨event :: others, records.append saved,
            .accepted asks (congrArg Prod.snd applied) tells quiet⟩

theorem asks_of_ofLine {line : List Char}
    (asked : (∃ edit, Command.ofLine line = .set (some edit)) ∨
      ∃ id, Command.ofLine line = .delete (some id)) : ∃ edit, Asks line (.edit edit) := by
  rcases Text.blank_or_begins line with blank | ⟨word, operands, begins⟩
  · rw [ofLine_of_blank blank] at asked
    simp at asked
  · rw [ofLine_of_begins begins] at asked
    rcases asked with ⟨edit, asked⟩ | ⟨id, asked⟩
    · obtain ⟨named, edits⟩ := Command.word_of_set asked
      obtain rfl : word = "set".toList := by rw [← named, String.toList_ofList]
      rcases Text.blank_or_begins operands with blank | ⟨id, contents, first⟩
      · rw [Text.trim_of_blank blank] at edits
        cases edits
      · exact ⟨_, .set begins first⟩
    · obtain ⟨named, operand⟩ := Command.word_of_delete asked
      obtain rfl : word = "delete".toList := by rw [← named, String.toList_ofList]
      refine ⟨_, .delete begins fun blank => ?_⟩
      rw [blank] at operand
      cases operand

theorem uses_of_ofLine {line : List Char} {name : Option String} {path : Path}
    (asked : Command.ofLine line = .save name ∨ Command.ofLine line = .load name)
    (named : session.fileFor name = some path) : Uses session.sheetFile line path := by
  rcases Text.blank_or_begins line with blank | ⟨word, operands, begins⟩
  · rw [ofLine_of_blank blank] at asked
    simp at asked
  · rw [ofLine_of_begins begins] at asked
    obtain ⟨rfl, word⟩ := Command.word_of_file asked
    cases shape : Text.trim operands with
    | nil =>
        rw [shape] at named
        exact .own named
    | cons c rest =>
        have filled : Text.trim operands ≠ [] := shape ▸ List.cons_ne_nil c rest
        rw [shape, Command.operand?, ← shape] at named
        cases named
        rcases word with same | same
        · obtain rfl : word = "save".toList := by rw [← same, String.toList_ofList]
          exact .save begins filled
        · obtain rfl : word = "load".toList := by rw [← same, String.toList_ofList]
          exact .load begins filled

theorem settings_execute (session : Session) (record : Recorder) (host : Host)
    (line : List Char) :
    (session.execute record host line).session =
      { session with sheet := (session.execute record host line).session.sheet } := by
  unfold execute
  cases Command.ofLine line with
  | set edit =>
      cases edit with
      | none => rfl
      | some edit => rw [run, session_set]
  | delete id =>
      cases id with
      | none => rfl
      | some id => rw [run, session_delete]
  | save name =>
      unfold run
      dsimp only
      split
      · rfl
      · rw [session_save]
  | load name =>
      unfold run
      dsimp only
      split
      · rfl
      · rw [session_load]
        split <;> rfl
  | _ => rfl

/-- Lines that ask for no edit record nothing that tells of one. -/
theorem records_other {line : List Char} (noEdit : ∀ edit, ¬ Asks line (.edit edit)) :
    RecordsQuietly record session.name (Uses session.sheetFile line) host
      (session.execute record host line).host := by
  have nothing := RecordsQuietly.refl record session.name (Uses session.sheetFile line) host
  unfold execute
  cases asked : Command.ofLine line with
  | set edit =>
      cases edit with
      | none => exact nothing
      | some edit =>
          obtain ⟨edit, asks⟩ := asks_of_ofLine (.inl ⟨edit, asked⟩)
          exact absurd asks (noEdit edit)
  | delete id =>
      cases id with
      | none => exact nothing
      | some id =>
          obtain ⟨edit, asks⟩ := asks_of_ofLine (.inr ⟨id, asked⟩)
          exact absurd asks (noEdit edit)
  | save name =>
      unfold run
      dsimp only
      split
      · exact nothing
      · rename_i named
        exact records_save session record host (uses_of_ofLine (.inl asked) named)
  | load name =>
      unfold run
      dsimp only
      split
      · exact nothing
      · exact records_load session record host _
  | _ => exact nothing

theorem exists_records (session : Session) (record : Recorder) (host : Host) (line : List Char) :
    ∃ events, Records record session.name (Uses session.sheetFile line) host events
        (session.execute record host line).host ∧ Notes session line events := by
  by_cases asked : ∃ edit, Asks line (.edit edit)
  · obtain ⟨edit, asks⟩ := asked
    exact records_edit asks fun path own => .own own
  · obtain ⟨events, records, quiet⟩ := records_other (not_exists.1 asked)
    exact ⟨events, records, .other (not_exists.1 asked) quiet⟩

end Session

end Spreadsheet
