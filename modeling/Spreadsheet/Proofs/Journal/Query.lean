import Spreadsheet.Proofs.Journal.Line
import Spreadsheet.Proofs.Journal.Log

/-! What is read from logs that started empty: the events that were written, and of those the
ones that a filter wants. -/

set_option autoImplicit false

namespace Spreadsheet.Journal

/-! ### Filters on events -/

def Event.cell? (event : Event) : Option String :=
  (event.context.lookup "cell_id").bind Json.string?

/-- What the filter asks of an event by itself; the session is a matter of the log. -/
def Filter.Wants (filter : Filter) (event : Event) : Prop :=
  (filter.level = "" ∨ event.level.name = filter.level) ∧
    (filter.kind = "" ∨ event.kind.name = filter.kind) ∧
    (filter.cell = "" ∨ event.cell? = some filter.cell)

instance (filter : Filter) (event : Event) : Decidable (filter.Wants event) :=
  inferInstanceAs (Decidable ((filter.level = "" ∨ event.level.name = filter.level) ∧
    (filter.kind = "" ∨ event.kind.name = filter.kind) ∧
    (filter.cell = "" ∨ event.cell? = some filter.cell)))

section Filters

variable {event : Event} {events : List Event}

theorem isText_eq (wanted : String) (value? : Option (Json Letters)) :
    isText wanted value? = decide (value?.bind Json.string? = some (Letters.ofText wanted)) := by
  cases value? with
  | none => rfl
  | some value => cases value <;> simp [isText, Json.string?, Bool.beq_eq_decide_eq]

private theorem string?_asRead (value : Json) :
    value.asRead.string? = value.string?.map .ofText := by
  cases value with
  | array => rw [Json.asRead_array]; rfl
  | object => rw [Json.asRead_object]; rfl
  | _ => rfl

private theorem string?_finite (value : Json) : value.finite.string? = value.string? := by
  cases value with
  | float value =>
      rcases Json.finite_float value with same | ⟨same, _⟩
      · rw [same]
        rfl
      · rw [same]
  | array => rw [Json.finite]; rfl
  | object => rw [Json.finite]; rfl
  | _ => rfl

private theorem hasText_level (wanted : String) (event : Event) :
    hasText "level" wanted event.stored = .ok (decide (event.level.name = wanted)) := by
  rw [event.stored_eq]
  exact congrArg Except.ok ((isText_eq wanted (some (.string (.ofText event.level.name)))).trans
    (by simp [Json.string?, Letters.ofText_injective.eq_iff]))

private theorem hasText_kind (wanted : String) (event : Event) :
    hasText "event_type" wanted event.stored = .ok (decide (event.kind.name = wanted)) := by
  rw [event.stored_eq]
  exact congrArg Except.ok ((isText_eq wanted (some (.string (.ofText event.kind.name)))).trans
    (by simp [Json.string?, Letters.ofText_injective.eq_iff]))

private theorem isAbout_stored (wanted : String) (writable : event.Writable) :
    isAbout wanted event.stored = .ok (decide (event.cell? = some wanted)) := by
  have nodup : (event.context.map Prod.fst).Nodup := by
    cases writable.context
    assumption
  have found : ((Json.sortByKey (event.context.map fun member =>
      (member.1, member.2.finite))).map fun member =>
        (Letters.ofText member.1, member.2.asRead)).lookup (.ofText "cell_id") =
          (event.context.lookup "cell_id").map fun value => value.finite.asRead := by
    rw [Table.lookup_map_of_injective Letters.ofText_injective Json.asRead, Json.sortByKey_map,
      Table.lookup_map, Option.map_map,
      ← Table.lookup_eq_of_perm (Json.sortByKey_perm event.context).symm nodup]
    rfl
  have told : isAbout wanted event.stored =
      hasText "cell_id" wanted (Json.object event.context).finite.asRead := by
    rw [event.stored_eq]
    rfl
  rw [told, Json.finite, Json.finiteMembers_eq, Json.asRead_object, hasText, memberOf, Except.map,
    found, isText_eq, Event.cell?]
  cases event.context.lookup "cell_id" with
  | none => rfl
  | some value =>
      simp only [Option.map_some, Option.bind_some, string?_asRead, string?_finite]
      have same := @Function.Injective.eq_iff _ _ _
        (Option.map_injective Letters.ofText_injective) value.string? (some wanted)
      exact congrArg Except.ok (decide_eq_decide.2 same)

private theorem filterM_map {test : Json Letters → Except QueryError Bool} {kept : Event → Prop}
    [DecidablePred kept]
    (tested : ∀ event ∈ events, test event.stored = .ok (decide (kept event))) :
    (events.map Event.stored).filterM test = .ok ((events.filter kept).map Event.stored) := by
  have onward (before : List (Json Letters)) : (events.map Event.stored).filterAuxM test before =
      .ok (((events.filter kept).map Event.stored).reverse ++ before) := by
    induction events generalizing before with
    | nil => rfl
    | cons event rest ih =>
        rw [List.forall_mem_cons] at tested
        rw [List.map_cons, List.filterAuxM, tested.1]
        refine (ih tested.2 _).trans ?_
        by_cases keep : kept event <;> simp [keep]
  rw [List.filterM, onward]
  simp [bind, Except.bind, pure, Except.pure]

theorem select_map {wanted : String} {test : String → Json Letters → Except QueryError Bool}
    {kept : Event → Prop} [DecidablePred kept]
    (tested : ∀ event ∈ events, test wanted event.stored = .ok (decide (kept event))) :
    select wanted test (events.map Event.stored) =
      .ok ((events.filter fun event => wanted = "" ∨ kept event).map Event.stored) := by
  rw [select]
  split
  · rename_i blank
    simp [blank]
  · rename_i filled
    simp [filterM_map tested, filled]

private theorem min_maxEvents (limit : Nat) :
    min (limit : Int) maxEvents = ((min limit 2000 : Nat) : Int) := by
  rw [maxEvents]
  omega

/-- The newest of the wanted events, at most as many as are given out at once. -/
theorem selected_stored (filter : Filter) (writable : ∀ event ∈ events, event.Writable)
    (limit : Nat) :
    (do let values ← select filter.level (hasText "level") (events.map Event.stored)
        let values ← select filter.kind (hasText "event_type") values
        let values ← select filter.cell isAbout values
        pure (limited (min limit maxEvents) values.reverse)) =
      .ok (((events.filter fun event => filter.Wants event).reverse.take
        (min limit 2000)).map Event.stored) := by
  rw [select_map fun event _ => hasText_level filter.level event]
  simp only [bind, Except.bind]
  rw [select_map fun event _ => hasText_kind filter.kind event]
  dsimp only
  rw [select_map fun event member => isAbout_stored filter.cell
    (writable event (List.mem_of_mem_filter (List.mem_of_mem_filter member)))]
  have wanted : (((events.filter fun event =>
      filter.level = "" ∨ event.level.name = filter.level).filter
      fun event => filter.kind = "" ∨ event.kind.name = filter.kind).filter
        fun event => filter.cell = "" ∨ event.cell? = some filter.cell) =
          events.filter fun event => filter.Wants event := by
    rw [List.filter_filter, List.filter_filter]
    refine List.filter_congr fun event _ => ?_
    rw [Bool.eq_iff_iff, decide_eq_true_iff, Filter.Wants]
    simp only [Bool.and_eq_true, decide_eq_true_eq]
    tauto
  dsimp only
  rw [min_maxEvents, wanted, ← List.map_reverse]
  exact congrArg Except.ok (List.map_take ..).symm

private theorem selected (filter : Filter) (plain : ∀ event ∈ events, event.Plain)
    (writable : ∀ event ∈ events, event.Writable) (limit : Nat) :
    (do let values ← select filter.level (hasText "level") (events.map Event.entry)
        let values ← select filter.kind (hasText "event_type") values
        let values ← select filter.cell isAbout values
        pure (limited (min limit maxEvents) values.reverse)) =
      .ok (((events.filter fun event => filter.Wants event).reverse.take
        (min limit 2000)).map Event.entry) := by
  have wanted : ∀ event ∈ (events.filter fun event => filter.Wants event).reverse.take
      (min limit 2000), event.Plain := fun event member =>
    plain event (List.mem_of_mem_filter (List.mem_reverse.1 (List.mem_of_mem_take member)))
  rw [← map_stored_of_plain plain, ← map_stored_of_plain wanted]
  exact selected_stored filter writable limit

end Filters

/-! ### Writing -/

/-- An event to write, for a session if one is named. -/
structure Call where
  event : Event
  session : Option String

/-- Writes some events one after the other, whatever comes of each. -/
def Sink.writeAll (sink : Sink) (disk : Disk) : List Call → Disk × List (Except WriteError Unit)
  | [] => (disk, [])
  | call :: rest =>
    let (disk, result) := sink.write disk call.event call.session
    let (disk, results) := sink.writeAll disk rest
    (disk, result :: results)

/-- The events that belong in the log, in the order of writing. -/
def Log.events (log : Log) (calls : List Call) : List Event :=
  (calls.filter fun call => call.event.check.isOk && log.Holds call.session).map Call.event

/-- Logs with nothing in them that lines can be added to. -/
structure Sink.Fresh (sink : Sink) (disk : Disk) (root : Place) : Prop where
  stands : sink.Stands disk root
  blank : ∀ log : Log, log.Short → disk.octetsAt (log.place root) = []
  adds : ∀ log : Log, log.Short → ∀ line,
    ∃ after, Sink.appendLine disk (sink.path log) line = (after, .ok ())

/-- The log that a query reads. -/
def Filter.log (filter : Filter) : Log :=
  if filter.session = "" then .project else .session filter.session

section Writing

variable {sink : Sink} {disk after : Disk} {root : Place} {log : Log} {calls : List Call}
  {results : List (Except WriteError Unit)}

theorem Sink.Fresh.takes (fresh : sink.Fresh disk root) (short : log.Short) :
    sink.Takes disk root log := by
  obtain ⟨after, added⟩ := fresh.adds log short []
  exact ((fresh.stands.appendLine_eq_ok_iff short.safe).1 added).1

theorem Log.flatMap_events_cons (log : Log) (call : Call) (rest : List Call) :
    (log.events (call :: rest)).flatMap Event.line =
      (if call.event.check.isOk ∧ log.Holds call.session then call.event.line else []) ++
        (log.events rest).flatMap Event.line := by
  by_cases gets : call.event.check.isOk ∧ log.Holds call.session
  · rw [if_pos gets, Log.events, List.filter_cons_of_pos (by simpa using gets)]
    rfl
  · rw [if_neg gets, Log.events, List.filter_cons_of_neg (by simpa using gets)]
    rfl

private theorem Sink.writeAll_cons (sink : Sink) (disk : Disk) (call : Call) (rest : List Call) :
    sink.writeAll disk (call :: rest) =
      ((sink.writeAll (sink.write disk call.event call.session).1 rest).1,
        (sink.write disk call.event call.session).2 ::
          (sink.writeAll (sink.write disk call.event call.session).1 rest).2) := rfl

theorem Sink.Stands.fresh (stands : sink.Stands disk root)
    (plain : '\x00' ∉ sink.logs.text.toList)
    (room : (Text.octets sink.logs.text).length + 217 ≤ Disk.maxPath)
    (empty : ∀ log : Log, disk.get? (log.place root) = none) : sink.Fresh disk root where
  stands := stands
  blank log _ := by rw [Disk.octetsAt, empty log]
  adds log short line := by
    refine stands.exists_appendLine short.safe ⟨?_, ?_⟩ line
    · exact Sink.fits_of_short stands.filled plain room short
    · rw [empty log]
      exact (Option.some_ne_none _).symm

theorem Sink.Stands.extends_writeAll (stands : sink.Stands disk root)
    (takes : ∀ log : Log, log.Short → sink.Takes disk root log)
    (short : ∀ call ∈ calls, ∀ name ∈ call.session, name.length ≤ 200) :
    (sink.writeAll disk calls).2 = calls.map (fun call => call.event.check) ∧
      sink.Extends root disk (sink.writeAll disk calls).1 fun log =>
        if log.Safe then (log.events calls).flatMap Event.line else [] := by
  induction calls generalizing disk with
  | nil =>
      refine ⟨rfl, ?_⟩
      change sink.Extends root disk disk _
      convert Extends.refl sink root disk using 2 with log
      exact ite_self _
  | cons call rest ih =>
      rw [List.forall_mem_cons] at short
      rw [writeAll_cons, List.map_cons]
      cases fits : call.event.check with
      | error error =>
          -- What cannot be written is in no log, and the disk is as it was.
          obtain ⟨answers, extended⟩ := ih stands takes short.2
          rw [write_of_check fits]
          refine ⟨by rw [answers], ?_⟩
          convert extended using 2 with log
          rw [Log.flatMap_events_cons, fits]
          simp [Except.isOk, Except.toBool]
      | ok =>
          have gets : ∀ log : Log, log.Safe → log.Holds call.session →
              sink.Takes disk root log := by
            intro log safe holds
            refine takes log ?_
            cases log with
            | project => trivial
            | session name => exact ⟨safe, short.1 name holds⟩
          obtain ⟨middle, told, first⟩ := stands.exists_write fits gets
          obtain ⟨answers, extended⟩ := ih (stands.keeps first.keeps)
            (fun log short => (first.takes log).2 (takes log short)) short.2
          rw [told]
          refine ⟨by rw [answers], ?_⟩
          convert first.trans extended using 2 with log
          rw [Log.flatMap_events_cons, fits]
          by_cases safe : log.Safe <;> simp [safe, Except.isOk, Except.toBool]

theorem Log.plain_events (log : Log) (plain : ∀ call ∈ calls, call.event.Plain) :
    ∀ event ∈ log.events calls, event.Plain := by
  intro event member
  obtain ⟨call, among, rfl⟩ := List.mem_map.1 member
  exact plain call (List.mem_of_mem_filter among)

theorem Log.writable_events (log : Log) (plain : ∀ call ∈ calls, call.event.Plain) :
    ∀ event ∈ log.events calls, event.Writable := by
  intro event member
  refine (log.plain_events plain event member).writable ?_
  obtain ⟨call, among, rfl⟩ := List.mem_map.1 member
  have kept := List.of_mem_filter among
  cases fits : call.event.check with
  | ok => rfl
  | error error =>
      rw [fits] at kept
      cases kept

theorem Sink.Fresh.readLog_writeAll (fresh : sink.Fresh disk root)
    (plain : ∀ call ∈ calls, call.event.Plain)
    (names : ∀ call ∈ calls, ∀ name ∈ call.session, name.length ≤ 200) (short : log.Short)
    (bounded : ∀ octets, (sink.writeAll disk calls).1.read (sink.path log) = .ok octets →
      (octets.length : Int) ≤ sink.readLimit) :
    sink.readLog (sink.writeAll disk calls).1 (sink.path log) =
      .ok ((log.events calls).map Event.entry) := by
  obtain ⟨_, extended⟩ := fresh.stands.extends_writeAll (fun _ => fresh.takes) names
  rw [(fresh.stands.keeps extended.keeps).readLog_eq short.safe
    ((extended.takes log).2 (fresh.takes short)) bounded, extended.octets, fresh.blank log short,
    if_pos short.safe, List.nil_append,
    valuesOfOctets_lines (log.writable_events plain) sink.levels.enough,
    map_stored_of_plain (log.plain_events plain)]

theorem Sink.Fresh.octets_of_read (fresh : sink.Fresh disk root)
    (names : ∀ call ∈ calls, ∀ name ∈ call.session, name.length ≤ 200) (short : log.Short)
    {octets : List UInt8} (read : (sink.writeAll disk calls).1.read (sink.path log) = .ok octets) :
    octets = Text.Utf8.encode ((log.events calls).flatMap Event.line) := by
  obtain ⟨_, extended⟩ := fresh.stands.extends_writeAll (fun _ => fresh.takes) names
  obtain ⟨place, found⟩ := Disk.read_eq_ok_iff.1 read
  rw [(fresh.stands.keeps extended.keeps).target_path short.safe
    ((extended.takes log).2 (fresh.takes short))] at found
  have held := extended.octets log
  rw [fresh.blank log short, if_pos short.safe, List.nil_append, Disk.octetsAt] at held
  cases present : (sink.writeAll disk calls).1.get? (log.place root) with
  | none =>
      rw [present] at found
      cases found
  | some entry =>
      rw [present] at found held
      cases found
      exact held

theorem fresh_newLogs : newLogs.Fresh newProject ["logs"] :=
  stands_newLogs.fresh (by decide) (by decide) get?_newProject

/-- Logs that started empty give back what was written: every session its own events in order,
and every query the newest of the wanted ones. -/
theorem Sink.Fresh.reads_what_was_written (fresh : sink.Fresh disk root)
    (plain : ∀ call ∈ calls, call.event.Plain)
    (names : ∀ call ∈ calls, ∀ name ∈ call.session, name.length ≤ 200)
    (bounded : ∀ log : Log, log.Short → ∀ octets,
      (sink.writeAll disk calls).1.read (sink.path log) = .ok octets →
        (octets.length : Int) ≤ sink.readLimit) :
    (sink.writeAll disk calls).2 = calls.map (fun call => call.event.check) ∧
      (∀ name, SessionName name → sink.readSession (sink.writeAll disk calls).1 name =
        .ok (((Log.session name).events calls).map Event.entry)) ∧
      ∀ (filter : Filter) (limit : Nat), (filter.session = "" ∨ SessionName filter.session) →
        sink.query (sink.writeAll disk calls).1 filter limit =
          .ok ((((filter.log.events calls).filter fun event => filter.Wants event).reverse.take
            (min limit 2000)).map Event.entry) := by
  have back (log : Log) (short : log.Short) :=
    fresh.readLog_writeAll plain names short (bounded log short)
  have session (name : String) (proper : SessionName name) :
      sink.readSession (sink.writeAll disk calls).1 name =
        .ok (((Log.session name).events calls).map Event.entry) := by
    rw [readSession, if_pos proper.log_short.1]
    exact back (.session name) proper.log_short
  refine ⟨(fresh.stands.extends_writeAll (fun _ => fresh.takes) names).1, session, ?_⟩
  intro filter limit proper
  have wanted := selected filter (filter.log.plain_events plain)
    (filter.log.writable_events plain) limit
  rw [query]
  split
  · rename_i every
    have log : filter.log = .project := if_pos every
    have read : sink.readLog (sink.writeAll disk calls).1 sink.globalLog =
        .ok ((filter.log.events calls).map Event.entry) := log ▸ back .project trivial
    rw [read]
    exact wanted
  · rename_i named
    have log : filter.log = .session filter.session := if_neg named
    have read : sink.readSession (sink.writeAll disk calls).1 filter.session =
        .ok ((filter.log.events calls).map Event.entry) :=
      log ▸ session _ (proper.resolve_left named)
    rw [read]
    exact wanted

theorem reads_what_was_written_of_two_sessions :
    let begun : Event := ⟨"t0", .info, .sessionStarted, [("sheet_file", .string "")], "", none⟩
    let edit : Event := ⟨"t1", .info, .cellSet,
      [("cell_id", .string "A1"), ("contents", .string "\"\u2028\\"), ("updated", .array [])],
      "", none⟩
    let calls : List Call := [⟨begun, some "a"⟩, ⟨edit, some "b"⟩, ⟨edit, none⟩, ⟨edit, some "a"⟩]
    let after := (newLogs.writeAll newProject calls).1
    newLogs.readSession after "a" = .ok [begun.entry, edit.entry] ∧
      newLogs.query after ⟨"", "cell_set", "", "A1"⟩ 2 = .ok [edit.entry, edit.entry] := by
  intro begun edit calls after
  have plain : ∀ call ∈ calls, call.event.Plain := by
    have started : begun.Plain :=
      .object (by decide) (List.forall_mem_singleton.2 (.string ""))
    have edited : edit.Plain :=
      .object (by decide) (List.forall_mem_cons.2 ⟨.string _, List.forall_mem_cons.2
        ⟨.string _, List.forall_mem_singleton.2 (.array nofun)⟩⟩)
    simp [calls, started, edited]
  have names : ∀ call ∈ calls, ∀ name ∈ call.session, name.length ≤ 200 := by
    simp [calls, show "a".length = 1 from rfl, show "b".length = 1 from rfl]
  have bounded : ∀ log : Log, log.Short → ∀ octets, after.read (newLogs.path log) = .ok octets →
      (octets.length : Int) ≤ newLogs.readLimit := by
    intro log short octets read
    rw [fresh_newLogs.octets_of_read names short read]
    cases log with
    | project => decide +kernel
    | session name =>
        by_cases first : name = "a"
        · subst first
          decide +kernel
        · by_cases second : name = "b"
          · subst second
            decide +kernel
          · have none : (Log.session name).events calls = [] := by
              simp [Log.events, Log.Holds, calls, Ne.symm first, Ne.symm second]
            rw [none]
            decide
  obtain ⟨_, session, query⟩ := fresh_newLogs.reads_what_was_written plain names bounded
  exact ⟨session "a" ⟨by decide, List.all_eq_true.1 rfl, by decide⟩,
    query ⟨"", "cell_set", "", "A1"⟩ 2 (.inl rfl)⟩

end Writing

end Spreadsheet.Journal
