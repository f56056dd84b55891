import Spreadsheet.CommandLine.EventCommand
import Spreadsheet.Proofs.Journal.Tail

/-! The command that lists events reads the log with the default limit, whatever limit the project
has set. Where both limits leave the log whole, that makes no difference; with a lesser limit the
project's own logs give out the newest part of what is listed. -/

set_option autoImplicit false

namespace Spreadsheet

/-! ### The same logs with another limit -/

namespace Journal.Sink

def withLimit (sink : Sink) (limit : Int) : Sink := { sink with readLimit := limit }

variable {sink : Sink} {disk after : Disk} {project path : Path} {limit other : Int}
  {levels : Levels}

/-- The limit has no part in where the logs are, nor in making their directories. -/
theorem create_withLimit (made : create disk project limit levels = (after, .ok sink))
    (other : Int) :
    sink.readLimit = limit ∧
      create disk project other levels = (after, .ok (sink.withLimit other)) := by
  unfold create at made ⊢
  dsimp only at made ⊢
  split at made
  · cases made
  · split at made
    · cases made
    · cases made
      exact ⟨rfl, rfl⟩

private theorem create_of_isDirectory (logs : disk.isDirectory (project.child "logs") = .ok true)
    (sessions : disk.isDirectory ((project.child "logs").child "sessions") = .ok true)
    (limit : Int) (levels : Levels) :
    create disk project limit levels = (disk, .ok ⟨project.child "logs", limit, levels⟩) := by
  simp only [create, Disk.ensureDirectories_of_isDirectory logs,
    Disk.ensureDirectory_of_isDirectory sessions]

/-- A log that is within both limits is read alike. -/
theorem readLog_withLimit (allowed : 0 ≤ sink.readLimit) (otherAllowed : 0 ≤ other)
    (within : ∀ octets, disk.read path = .ok octets →
      (octets.length : Int) ≤ min sink.readLimit other) :
    (sink.withLimit other).readLog disk path = sink.readLog disk path := by
  have first : ¬ sink.readLimit < 0 := Int.not_lt.2 allowed
  have second : ¬ (sink.withLimit other).readLimit < 0 := Int.not_lt.2 otherAllowed
  cases seen : disk.look path.text with
  | error error => simp only [readLog, seen, Except.mapError, bind, Except.bind]
  | ok entry? =>
      cases entry? with
      | none => simp only [readLog, seen, Except.mapError, bind, Except.bind]
      | some entry =>
          cases entry with
          | directory =>
              simp only [readLog, seen, Except.mapError, bind, Except.bind, if_neg first,
                if_neg second]
          | file octets =>
              have read := Disk.read_eq_ok_iff_look.2 seen
              have short := within octets read
              have same : (sink.withLimit other).readLimit = other := rfl
              rw [readLog_of_read otherAllowed read, readLog_of_read allowed read,
                tail_of_short (by omega), tail_of_short (by omega), withLimit]

private theorem query_withLimit {filter : Filter} (allowed : 0 ≤ sink.readLimit)
    (otherAllowed : 0 ≤ other)
    (within : ∀ octets, disk.read (sink.path filter.log) = .ok octets →
      (octets.length : Int) ≤ min sink.readLimit other) (count : Int) :
    (sink.withLimit other).query disk filter count = sink.query disk filter count := by
  have read := readLog_withLimit allowed otherAllowed within
  unfold query
  by_cases every : filter.session = ""
  · have log : filter.log = .project := if_pos every
    rw [log] at read
    rw [if_pos every, if_pos every]
    exact congrArg (· >>= _) read
  · have log : filter.log = .session filter.session := if_neg every
    rw [log] at read
    have session : (sink.withLimit other).readSession disk filter.session =
        sink.readSession disk filter.session := by
      unfold readSession
      split
      · exact read
      · rfl
    rw [if_neg every, if_neg every, session]

theorem query_of_not_safe {filter : Filter} (bad : ¬ filter.log.Safe) (count : Nat) :
    sink.query disk filter count = .ok [] := by
  have named : filter.session ≠ "" := by
    intro every
    rw [show filter.log = .project from if_pos every] at bad
    exact bad trivial
  rw [show filter.log = .session filter.session from if_neg named] at bad
  change ¬ isSafeName filter.session = true at bad
  rw [query, if_neg named, readSession, if_neg bad]
  exact (@selected_stored [] filter (List.forall_mem_nil _) count).trans (by simp)

/-- A lesser limit gives out the newest part of what a greater one does. -/
theorem query_withLimit_prefix {filter : Filter} {events : List Event} {lesser greater : Nat}
    (less : lesser ≤ greater) (writable : ∀ event ∈ events, event.Writable)
    (held : disk.read (sink.path filter.log) = .ok (octetsOf events)) (count : Nat) :
    ∃ newer all, (sink.withLimit lesser).query disk filter count = .ok newer ∧
      (sink.withLimit greater).query disk filter count = .ok all ∧ newer <+: all := by
  by_cases safe : filter.log.Safe
  · obtain ⟨kept, keptRead, newest, _⟩ :=
      @exists_readLog (sink.withLimit lesser) _ _ _ _ rfl writable held
    obtain ⟨more, moreRead, wider, _⟩ :=
      @exists_readLog (sink.withLimit greater) _ _ _ _ rfl writable held
    have suffix := newest.mono wider (room_mono less)
    refine ⟨_, _, query_of_readLog safe (fun event member => ?_) keptRead count,
      query_of_readLog safe (fun event member => ?_) moreRead count, ?_⟩
    · exact writable event (newest.suffix.subset member)
    · exact writable event (wider.suffix.subset member)
    · exact ((List.reverse_prefix.2 (suffix.filter _)).take _).map _
  · exact ⟨[], [], query_of_not_safe safe count, query_of_not_safe safe count, List.prefix_rfl⟩

end Journal.Sink

namespace Host

open Journal

variable {host after : Host} {directory : Path} {config : Config} {sink : Sink} {bound : Int}

/-- The logs that events are sent to are read as far as the project has set. -/
theorem create_of_useProject (loaded : Config.load host.disk directory = .ok config)
    (setting : config.get? "logging_tail_bytes" = some (.scalar (.int bound)))
    (attached : host.useProject directory = (after, .ok ())) (logs : after.sink = some sink) :
    Sink.create host.disk directory bound host.levels = (after.disk, .ok sink) := by
  rw [useProject, loaded] at attached
  dsimp only at attached
  rw [useConfig] at attached
  split at attached
  · cases attached
    cases logs
  · have limit : limitOf (config.get? "logging_tail_bytes") = .ok bound := by
      rw [setting]
      rfl
    rw [limit] at attached
    dsimp only at attached
    rw [attach] at attached
    split at attached
    · rename_i disk made found
      cases attached
      cases logs
      exact found
    · cases attached

end Host

namespace CommandLine

open Journal

variable {host after : Host} {arguments : Arguments} {directory : Path} {filter : Filter}
  {limit : Int} {config : Config} {sink : Sink} {bound : Int}

/-- The listing of what a query answers. -/
def listing (host : Host) : Except QueryError (List (Json Letters)) → Run
  | .error error => ⟨host, "", .broken (.query error)⟩
  | .ok [] => .finished host "No events found.\n"
  | .ok events => eventLines host events

theorem showEvents_eq_listing {disk : Disk}
    (asked : eventRequest host.disk arguments = .ok (directory, filter, limit))
    (made : Sink.create host.disk directory Config.defaultReadLimit host.levels =
      (disk, .ok sink)) :
    showEvents host arguments = listing { host with disk } (sink.query disk filter limit) := by
  rw [showEvents, asked, Run.follow]
  dsimp only
  rw [made]
  dsimp only
  cases sink.query disk filter limit with
  | error error => rfl
  | ok events => cases events <;> rfl

/-- Where a project has set how much of its logs is read, the command lists what the logs answer
with the default limit. That is what the project's own logs answer, if the limits are the same or
the log in question is within both of them. Of any log of written events the lesser limit gives
out the newest part of what the greater one does. -/
theorem showEvents_eq_default
    (asked : eventRequest host.disk arguments = .ok (directory, filter, limit))
    (loaded : Config.load host.disk directory = .ok config)
    (setting : config.get? "logging_tail_bytes" = some (.scalar (.int bound))) (positive : 0 < bound)
    (attached : host.useProject directory = (after, .ok ())) (logs : after.sink = some sink) :
    sink.readLimit = bound ∧
      showEvents host arguments = listing { host with disk := after.disk }
        ((sink.withLimit Config.defaultReadLimit).query after.disk filter limit) ∧
      ((bound = Config.defaultReadLimit ∨
          ∀ octets, after.disk.read (sink.path filter.log) = .ok octets →
            (octets.length : Int) ≤ min bound Config.defaultReadLimit) →
        showEvents host arguments =
          listing { host with disk := after.disk } (sink.query after.disk filter limit)) ∧
      ∀ events, (∀ event ∈ events, event.Writable) →
        after.disk.read (sink.path filter.log) = .ok (octetsOf events) → 0 ≤ limit →
          ∃ own shown, sink.query after.disk filter limit = .ok own ∧
            (sink.withLimit Config.defaultReadLimit).query after.disk filter limit = .ok shown ∧
            if bound ≤ Config.defaultReadLimit then own <+: shown else shown <+: own := by
  have made := Host.create_of_useProject loaded setting attached logs
  obtain ⟨own, again⟩ := Sink.create_withLimit made Config.defaultReadLimit
  have shown := showEvents_eq_listing asked again
  refine ⟨own, shown, ?_, fun events writable held enough => ?_⟩
  · rintro (same | short)
    · rw [shown, ← same, ← own]
      rfl
    · have agree :=
        Sink.query_withLimit (own ▸ positive.le) (Int.natCast_nonneg _) (own ▸ short) limit
      rw [shown, agree]
  · obtain ⟨count, rfl⟩ := Int.eq_ofNat_of_zero_le enough
    obtain ⟨bound, rfl⟩ := Int.eq_ofNat_of_zero_le positive.le
    have same : sink.withLimit bound = sink := congrArg sink.withLimit own.symm
    split
    · rename_i less
      obtain ⟨newer, all, here, there, inside⟩ :=
        Sink.query_withLimit_prefix (Int.ofNat_le.1 less) writable held count
      exact ⟨newer, all, same ▸ here, there, inside⟩
    · rename_i greater
      obtain ⟨newer, all, there, here, inside⟩ :=
        Sink.query_withLimit_prefix (Int.ofNat_le.1 (le_of_not_ge greater)) writable held count
      exact ⟨all, newer, same ▸ here, there, inside⟩

/-! ### A project with two events -/

/-- A project directory with a configuration and a log of two events. -/
def loggedProject (settings : String) : Disk :=
  ⟨⟨[(["p"], .directory), (["p", "gridcalc.yaml"], .file (Text.octets settings)),
    (["p", "logs"], .directory), (["p", "logs", "sessions"], .directory),
    (["p", "logs", "events.ndjson"], .file (octetsOf [started, edited]))], by simp⟩, []⟩

section Logged

variable (settings : String)

theorem target_loggedProject : (loggedProject settings).target (Path.ofText "p").text =
    .ok (.entry ["p"] .directory) :=
  (Disk.target_iff_leads (Path.spelled_ofText "p") (by decide)).2
    ⟨by decide, .onward rfl (by decide) (.here rfl)⟩

theorem eventRequest_loggedProject : eventRequest (loggedProject settings) ⟨[], ["p"]⟩ =
    .ok (Path.ofText "p", ⟨"", "", "", ""⟩, 100) := by
  have standing : (loggedProject settings).stat "p" = .ok .directory :=
    Disk.stat_eq_ok_iff.2 ⟨_, target_loggedProject settings⟩
  have named : onlyPath .knownDirectory (loggedProject settings) ["p"] = .ok "p" := by
    simp only [onlyPath, requiredPath, required, PathRule.check, standing, bind, Except.bind]
    rfl
  simp only [eventRequest, named]
  rfl

theorem target_child_loggedProject {name : String} {entry : Entry}
    (proper : Disk.EntryName name) (fits : Disk.Fits (Path.ofText "p") name)
    (found : (loggedProject settings).get? ["p", name] = some entry) :
    (loggedProject settings).target ((Path.ofText "p").child name).text =
      .ok (.entry ["p", name] entry) := by
  refine (Disk.target_child_iff (Path.spelled_ofText "p") (by decide)
    (target_loggedProject settings) proper).2 ⟨fits, ?_⟩
  rw [List.singleton_append, found]

/-- The settings enable the logs and limit how much of them is read. -/
def limits (settings : String) (bound : Int) : Bool :=
  match Config.membersOf ((Path.ofText "p").child Config.fileName).text (Text.octets settings) with
  | .ok members =>
    (Config.default.update members).isSet "logging_enabled" true &&
      match (Config.default.update members).get? "logging_tail_bytes" with
      | some (.scalar (.int value)) => value == bound
      | _ => false
  | .error _ => false

variable {settings}

theorem load_loggedProject {bound : Int} (limited : limits settings bound = true) :
    ∃ config : Config, Config.load (loggedProject settings) (Path.ofText "p") = .ok config ∧
      config.isSet "logging_enabled" true = true ∧
        config.get? "logging_tail_bytes" = some (.scalar (.int bound)) := by
  rw [limits] at limited
  split at limited
  · rename_i members read
    rw [Bool.and_eq_true] at limited
    obtain ⟨enabled, limited⟩ := limited
    have found := @target_child_loggedProject settings Config.fileName _
      ⟨by decide, by decide, by decide⟩ ⟨by decide, by decide, by decide⟩ rfl
    refine ⟨Config.default.update members, ?_, enabled, ?_⟩
    · simp only [Config.load, Disk.exists?_of_entry found, Disk.read_eq_ok_iff.2 ⟨_, found⟩,
        Except.mapError, bind, Except.bind, read]
      rfl
    · split at limited
      · rename_i value setting
        rw [setting, eq_of_beq limited]
      · cases limited
  · cases limited

/-- The logs of the project. -/
def ownLogs (limit : Int) : Sink := ⟨(Path.ofText "p").child "logs", limit, .usual⟩

theorem stands_loggedProject (settings : String) (limit : Int) :
    (ownLogs limit).Stands (loggedProject settings) ["p", "logs"] := by
  have logs := @target_child_loggedProject settings "logs" _
    ⟨by decide, by decide, by decide⟩ ⟨by decide, by decide, by decide⟩ rfl
  have spelled : ((Path.ofText "p").child "logs").Spelled :=
    (Path.spelled_ofText "p").child (by decide) (by decide)
  have filled : ((Path.ofText "p").child "logs").names ≠ [] := by decide
  have fits : Disk.Fits ((Path.ofText "p").child "logs") "sessions" :=
    ⟨by decide, by decide, by decide⟩
  exact ⟨spelled, filled, logs,
    (Disk.target_child_iff spelled filled logs Sink.entryName_sessions).2 ⟨fits, rfl⟩⟩

theorem read_loggedProject (settings : String) (limit : Int) :
    (loggedProject settings).read (ownLogs limit).globalLog =
      .ok (octetsOf [started, edited]) := by
  have fits : Disk.Fits ((Path.ofText "p").child "logs") "events.ndjson" :=
    ⟨by decide, by decide, by decide⟩
  have takes : (ownLogs limit).Takes (loggedProject settings) ["p", "logs"] .project :=
    ⟨fits, nofun⟩
  exact Disk.read_eq_ok_iff.2
    ⟨_, @Sink.Stands.target_path _ _ _ .project (stands_loggedProject settings limit) trivial takes⟩

theorem create_loggedProject (settings : String) (limit : Int) :
    Sink.create (loggedProject settings) (Path.ofText "p") limit .usual =
      (loggedProject settings, .ok (ownLogs limit)) := by
  have stands := stands_loggedProject settings limit
  exact Sink.create_of_isDirectory (Disk.isDirectory_iff.2 ⟨_, stands.logs⟩)
    (Disk.isDirectory_iff.2 ⟨_, stands.sessions⟩) limit .usual

theorem query_loggedProject (settings : String) {limit : Nat} {kept : List Event}
    (cut : tail limit (octetsOf [started, edited]) = octetsOf kept)
    (suffix : kept <:+ [started, edited]) :
    (ownLogs limit).query (loggedProject settings) ⟨"", "", "", ""⟩ (100 : Nat) =
      .ok ((kept.reverse.take 100).map Event.stored) := by
  have writable : ∀ event ∈ kept, event.Writable :=
    fun event member => writable_startedAndEdited event (suffix.subset member)
  refine Sink.query_unfiltered writable ?_ 100
  have read := @Sink.readLog_of_read (ownLogs limit) _ _ _ (Int.natCast_nonneg limit)
    (read_loggedProject settings limit)
  have limit : (ownLogs limit).readLimit.toNat = limit := rfl
  rw [read, limit, cut, octetsOf, valuesOfOctets_lines writable (Sink.levels _).enough]

theorem query_whole (settings : String) {limit : Nat} (enough : 319 ≤ limit) :
    (ownLogs limit).query (loggedProject settings) ⟨"", "", "", ""⟩ (100 : Nat) =
      .ok [edited.stored, started.stored] := by
  have short := length_octetsOf_startedAndEdited.2.le.trans enough
  exact query_loggedProject settings (Sink.tail_of_short short) (List.suffix_refl _)

def hostOf (settings : String) : Host := .start (loggedProject settings) .usual "t" 0 []

theorem useProject_loggedProject {bound : Int} (limited : limits settings bound = true) :
    (hostOf settings).useProject (Path.ofText "p") =
      ({ hostOf settings with sink := some (ownLogs bound) }, .ok ()) := by
  obtain ⟨config, loaded, enabled, setting⟩ := load_loggedProject limited
  have loaded : Config.load (hostOf settings).disk (Path.ofText "p") = .ok config := loaded
  have made : Sink.create (hostOf settings).disk (Path.ofText "p") bound (hostOf settings).levels =
      (loggedProject settings, .ok (ownLogs bound)) := create_loggedProject settings bound
  have limit : limitOf (some (.scalar (.int bound))) = .ok bound := rfl
  rw [Host.useProject, loaded]
  dsimp only
  rw [Host.useConfig, enabled, setting, limit]
  simp only [Host.attach, made]
  rfl

/-- Whatever the settings, both events are listed. -/
theorem showEvents_loggedProject (settings : String) :
    showEvents (hostOf settings) ⟨[], ["p"]⟩ =
      listing (hostOf settings) (.ok [edited.stored, started.stored]) := by
  have asked : eventRequest (hostOf settings).disk ⟨[], ["p"]⟩ = _ :=
    eventRequest_loggedProject settings
  have made : Sink.create (hostOf settings).disk (Path.ofText "p") Config.defaultReadLimit
      (hostOf settings).levels = _ :=
    create_loggedProject settings Config.defaultReadLimit
  rw [showEvents_eq_listing asked made]
  exact congrArg (listing (hostOf settings)) (query_whole settings (by decide))

end Logged

theorem showEvents_within_limit :
    (ownLogs 400).query (loggedProject "logging_tail_bytes: 400\n") ⟨"", "", "", ""⟩ 100 =
        .ok [edited.stored, started.stored] ∧
      showEvents (hostOf "logging_tail_bytes: 400\n") ⟨[], ["p"]⟩ =
        listing (hostOf "logging_tail_bytes: 400\n") (.ok [edited.stored, started.stored]) := by
  have limited : limits "logging_tail_bytes: 400\n" 400 = true := by decide +kernel
  obtain ⟨config, loaded, _, setting⟩ := load_loggedProject limited
  obtain ⟨_, _, shown, _⟩ := @showEvents_eq_default (hostOf "logging_tail_bytes: 400\n")
    _ _ _ _ _ _ _ _ (eventRequest_loggedProject _) loaded setting (by decide)
    (useProject_loggedProject limited) rfl
  have answer := query_whole "logging_tail_bytes: 400\n" (show 319 ≤ 400 by decide)
  refine ⟨answer, (shown (.inr ?_)).trans (congrArg _ answer)⟩
  intro octets read
  obtain rfl := Except.ok.inj ((read_loggedProject _ 400).symm.trans read)
  rw [length_octetsOf_startedAndEdited.2]
  decide

theorem showEvents_beyond_limit :
    (hostOf "logging_tail_bytes: 200\n").useProject (Path.ofText "p") =
        ({ hostOf "logging_tail_bytes: 200\n" with sink := some (ownLogs 200) }, .ok ()) ∧
      (ownLogs 200).query (loggedProject "logging_tail_bytes: 200\n") ⟨"", "", "", ""⟩ 100 =
        .ok [edited.stored] ∧
      showEvents (hostOf "logging_tail_bytes: 200\n") ⟨[], ["p"]⟩ =
        listing (hostOf "logging_tail_bytes: 200\n") (.ok [edited.stored, started.stored]) := by
  have limited : limits "logging_tail_bytes: 200\n" 200 = true := by decide +kernel
  have cut : tail 200 (octetsOf [started, edited]) = octetsOf [edited] := by decide +kernel
  have newest := List.suffix_cons started [edited]
  exact ⟨useProject_loggedProject limited, query_loggedProject _ cut newest,
    showEvents_loggedProject _⟩

end CommandLine

end Spreadsheet
