import Spreadsheet.Proofs.Journal.Tail
import Spreadsheet.Proofs.Text.LineCount
import Spreadsheet.Proofs.Text.ValidPart
import Spreadsheet.Proofs.Text.Word

/-! Queries of logs that anyone may have written to. Lines that hold no value are passed over, but a
line can also hold a value that is no event, and most filters fail on those. -/

set_option autoImplicit false

namespace Spreadsheet

theorem bind_eq_ok_iff {ε α β : Type} {result : Except ε α} {next : α → Except ε β} {value : β} :
    result >>= next = .ok value ↔ ∃ middle, result = .ok middle ∧ next middle = .ok value := by
  cases result <;> simp [bind, Except.bind]

private theorem map_eq_ok_iff {ε α β : Type} {result : Except ε α} {f : α → β} {value : β} :
    result.map f = .ok value ↔ ∃ middle, result = .ok middle ∧ f middle = value := by
  cases result <;> simp [Except.map]

namespace Json

def IsObject (value : Json Letters) : Prop := ∃ members, value = .object members

/-- The text of a member, if there is such a member and it is a text. -/
def text? (key : String) (value : Json Letters) : Option String :=
  ((value.member? (.ofText key)).bind string?).bind Letters.text?

theorem text?_eq_some_iff {key text : String} {value : Json Letters} :
    value.text? key = some text ↔
      (value.member? (.ofText key)).bind string? = some (.ofText text) := by
  simp only [text?, Option.bind_eq_some_iff, Letters.text?_eq_some_iff, exists_eq_right]

end Json

namespace Journal

/-! ### Values on lines -/

/-- A line of the octets is the value, blanks around it apart. -/
def OnLine (levels : Nat) (octets : List UInt8) (value : Json Letters) : Prop :=
  ∃ line ∈ Text.lines (Text.Utf8.decodeLossy octets),
    Json.read levels (Text.trim line) = .ok value

def valuesOn (levels : Nat) (octets : List UInt8) : List (Json Letters) :=
  (Text.lines (Text.Utf8.decodeLossy octets)).filterMap fun line =>
    (Json.read levels (Text.trim line)).toOption

/-- Reading the lines comes upon no whole number with more digits than are converted, and on no
array or object inside more others than are open at once. -/
def WithinLimits (levels : Nat) (octets : List UInt8) : Prop :=
  ∀ line ∈ Text.lines (Text.Utf8.decodeLossy octets), ∀ error,
    Json.read levels (Text.trim line) = .error error → error = .malformed

section Values

variable {levels : Nat} {octets above below : List UInt8} {value : Json Letters}
  {values : List (Json Letters)}

theorem mem_valuesOn_iff : value ∈ valuesOn levels octets ↔ OnLine levels octets value := by
  have same (line : List Char) : (Json.read levels (Text.trim line)).toOption = some value ↔
      Json.read levels (Text.trim line) = .ok value := by
    cases Json.read levels (Text.trim line) <;> simp [Except.toOption]
  simp [valuesOn, OnLine, same]

private theorem valuesOf_eq_ok_iff {lines : List (List Char)} :
    valuesOf levels lines = .ok values ↔
      (∀ line ∈ lines, ∀ error, Json.read levels (Text.trim line) = .error error →
        error = .malformed) ∧
        values = lines.filterMap fun line => (Json.read levels (Text.trim line)).toOption := by
  induction lines generalizing values with
  | nil => simp [valuesOf, eq_comm]
  | cons line rest ih =>
      have blank : Json.read levels [] = .error .malformed := rfl
      rw [valuesOf, List.forall_mem_cons, List.filterMap_cons]
      cases Text.trim line with
      | nil => simp [ih, blank, Except.toOption]
      | cons c cs =>
          cases read : Json.read levels (c :: cs) with
          | ok value => simp [read, map_eq_ok_iff, ih, Except.toOption, and_assoc, @eq_comm _ values]
          | error error => cases error <;> simp [read, ih, Except.toOption]

theorem valuesOfOctets_eq_ok_iff :
    valuesOfOctets levels octets = .ok values ↔
      WithinLimits levels octets ∧ values = valuesOn levels octets :=
  valuesOf_eq_ok_iff

private theorem valuesOf_brackets {count : Nat} (deep : levels < count) :
    valuesOf levels [List.replicate count '['] = .error (.tooDeep .array) := by
  cases count with
  | zero => exact absurd deep (Nat.not_lt_zero levels)
  | succ count =>
      have visible : ∀ c ∈ List.replicate (count + 1) '[', Text.isBlank c = false := by
        intro c member
        rw [List.eq_of_mem_replicate member]
        rfl
      have whole : Text.trim (List.replicate (count + 1) '[') =
          '[' :: List.replicate count '[' := by
        rw [Text.trim, List.replicate_succ, Text.trimLeft_of_visible rfl, ← List.replicate_succ,
          Text.trimRight_eq_self visible]
      have refused := Json.read_replicate deep []
      rw [List.append_nil, List.replicate_succ] at refused
      rw [valuesOf, whole]
      simp only [refused]

/-- A line of more brackets than may be open cannot be read. -/
theorem valuesOfOctets_brackets {count : Nat} (deep : levels < count) :
    valuesOfOctets levels (Text.Utf8.encode (List.replicate count '[')) =
      .error (.tooDeep .array) := by
  have filled : List.replicate count '[' ≠ [] := by
    rw [Ne, List.replicate_eq_nil_iff]
    omega
  have inside : ∀ c ∈ List.replicate count '[', Text.isLineBreak c = false := by
    intro c member
    rw [List.eq_of_mem_replicate member]
    rfl
  rw [valuesOfOctets, Text.Utf8.decodeLossy_encode, Text.lines_eq_singleton filled inside,
    valuesOf_brackets deep]

/-- Octets can be cut behind a line feed. -/
theorem onLine_append_feed :
    OnLine levels (above ++ 0x0A :: below) value ↔
      OnLine levels (above ++ [0x0A]) value ∨ OnLine levels below value := by
  have cut : Text.lines (Text.Utf8.decodeLossy above ++ '\n' :: Text.Utf8.decodeLossy below) =
      Text.lines (Text.Utf8.decodeLossy above ++ ['\n']) ++
        Text.lines (Text.Utf8.decodeLossy below) :=
    Text.lines_append_cons rfl (fun same => absurd same (by decide)) _
  have single : Text.Utf8.decodeLossy [] = [] := rfl
  simp only [OnLine, Text.Utf8.decodeLossy_append_feed, cut, single, List.mem_append, or_and_right,
    exists_or]

private theorem OnLine.of_tail {count : Nat} (found : OnLine levels (tail count octets) value)
    (whole : octets.length ≤ count ∨ 0x0A ∈ octets.drop (octets.length - count)) :
    OnLine levels octets value := by
  unfold tail at found
  split at found
  · exact found
  · rename_i long
    obtain ⟨front, behind, piece, plain⟩ := List.eq_append_cons_of_mem (whole.resolve_left long)
    rw [piece, behindFeed_append plain] at found
    rw [← List.take_append_drop (octets.length - count) octets, piece, ← List.append_assoc]
    exact onLine_append_feed.2 (.inr found)

end Values

/-! ### Filters on values -/

/-- The filter asks something of the events themselves. -/
def Filter.Asks (filter : Filter) : Prop := filter.level ≠ "" ∨ filter.kind ≠ "" ∨ filter.cell ≠ ""

/-- The value has what the filter asks for. -/
def Filter.Accepts (filter : Filter) (value : Json Letters) : Prop :=
  (filter.level = "" ∨ value.text? "level" = some filter.level) ∧
    (filter.kind = "" ∨ value.text? "event_type" = some filter.kind) ∧
    (filter.cell = "" ∨
      (value.member? (.ofText "context")).bind (Json.text? "cell_id") = some filter.cell)

instance (filter : Filter) (value : Json Letters) : Decidable (filter.Accepts value) :=
  inferInstanceAs (Decidable ((filter.level = "" ∨ value.text? "level" = some filter.level) ∧
    (filter.kind = "" ∨ value.text? "event_type" = some filter.kind) ∧
    (filter.cell = "" ∨
      (value.member? (.ofText "context")).bind (Json.text? "cell_id") = some filter.cell)))

/-- The filter can be put to the value. Whoever asks for a cell looks into the context of every
value that has the level and the kind asked for. -/
structure Filter.Handles (filter : Filter) (value : Json Letters) : Prop where
  object : filter.Asks → value.IsObject
  context : filter.cell ≠ "" → { filter with cell := "" }.Accepts value →
    ∀ context, value.member? (.ofText "context") = some context → context.IsObject

section Filters

variable {value : Json Letters} {values kept : List (Json Letters)}

theorem hasText_of_object (key wanted : String) (object : value.IsObject) :
    hasText key wanted value = .ok (decide (value.text? key = some wanted)) := by
  obtain ⟨members, rfl⟩ := object
  have same := isText_eq wanted (Json.member? (.ofText key) (.object members))
  exact congrArg Except.ok (same.trans (decide_eq_decide.2 Json.text?_eq_some_iff.symm))

theorem hasText_of_other (key wanted : String) (other : ¬ value.IsObject) :
    hasText key wanted value = .error .notObject := by
  cases value with
  | object members => exact absurd ⟨members, rfl⟩ other
  | _ => rfl

/-- What is asked for a cell has an object for its context, or none. -/
def HasContext (value : Json Letters) : Prop :=
  value.IsObject ∧ ∀ context, value.member? (.ofText "context") = some context → context.IsObject

theorem isAbout_object (cell : String) (members : List (Letters × Json Letters)) :
    isAbout cell (.object members) = match members.lookup (.ofText "context") with
      | none => .ok false
      | some context => hasText "cell_id" cell context := rfl

private theorem isAbout_of_hasContext (cell : String) (proper : HasContext value) :
    isAbout cell value =
      .ok (decide
        ((value.member? (.ofText "context")).bind (Json.text? "cell_id") = some cell)) := by
  obtain ⟨⟨members, rfl⟩, contexts⟩ := proper
  rw [isAbout_object]
  cases found : members.lookup (.ofText "context") with
  | none => simp [Json.member?, found]
  | some context => simp [Json.member?, found, hasText_of_object "cell_id" cell (contexts _ found)]

private theorem isAbout_of_other (cell : String) (other : ¬ HasContext value) :
    isAbout cell value = .error .notObject := by
  cases value with
  | object members =>
      rw [isAbout_object]
      cases found : members.lookup (.ofText "context") with
      | none => exact absurd ⟨⟨members, rfl⟩, by simp [Json.member?, found]⟩ other
      | some context =>
          refine hasText_of_other "cell_id" cell fun object => other ⟨⟨members, rfl⟩, ?_⟩
          simp [Json.member?, found, object]
  | _ => rfl

private theorem filterM_eq_ok_iff {test : Json Letters → Except QueryError Bool}
    {handles accepts : Json Letters → Prop} [DecidablePred accepts]
    (passes : ∀ value, handles value → test value = .ok (decide (accepts value)))
    (fails : ∀ value, ¬ handles value → test value = .error .notObject) :
    values.filterM test = .ok kept ↔
      (∀ value ∈ values, handles value) ∧ kept = values.filter accepts := by
  have onward (before found : List (Json Letters)) : values.filterAuxM test before = .ok found ↔
      (∀ value ∈ values, handles value) ∧ found = (values.filter accepts).reverse ++ before := by
    induction values generalizing before with
    | nil => simp [List.filterAuxM, pure, Except.pure, eq_comm]
    | cons value rest ih =>
        rw [List.filterAuxM, List.forall_mem_cons]
        by_cases handled : handles value
        · rw [passes value handled]
          refine (ih _).trans ?_
          by_cases keep : accepts value <;> simp [keep, handled]
        · rw [fails value handled]
          simp [handled, bind, Except.bind]
  simp [List.filterM, bind_eq_ok_iff, onward, pure, Except.pure, @eq_comm _ kept]

theorem select_eq_ok_iff {wanted : String} {test : String → Json Letters → Except QueryError Bool}
    {handles accepts : Json Letters → Prop} [DecidablePred accepts]
    (passes : ∀ value, handles value → test wanted value = .ok (decide (accepts value)))
    (fails : ∀ value, ¬ handles value → test wanted value = .error .notObject) :
    select wanted test values = .ok kept ↔
      (∀ value ∈ values, wanted = "" ∨ handles value) ∧
        kept = values.filter fun value => wanted = "" ∨ accepts value := by
  rw [select]
  split
  · rename_i blank
    simp [blank, eq_comm]
  · rename_i filled
    simp [filterM_eq_ok_iff passes fails, filled]

/-- Tests are put one after the other, each to what has passed those before it. -/
theorem Filter.handles_iff {filter : Filter} :
    filter.Handles value ↔ (filter.level = "" ∨ value.IsObject) ∧
      ((filter.level = "" ∨ value.text? "level" = some filter.level) →
        (filter.kind = "" ∨ value.IsObject) ∧
          ((filter.kind = "" ∨ value.text? "event_type" = some filter.kind) →
            filter.cell = "" ∨ HasContext value)) := by
  constructor
  · rintro ⟨object, context⟩
    have allowed (wanted : String) (asks : wanted ≠ "" → filter.Asks) :
        wanted = "" ∨ value.IsObject := or_iff_not_imp_left.2 fun filled => object (asks filled)
    refine ⟨allowed _ .inl, fun level => ⟨allowed _ fun kind => .inr (.inl kind), fun kind => ?_⟩⟩
    refine or_iff_not_imp_left.2 fun cell => ⟨object (.inr (.inr cell)), ?_⟩
    exact context cell ⟨level, kind, .inl rfl⟩
  · rintro ⟨first, rest⟩
    constructor
    · intro asks
      by_cases level : filter.level = ""
      · obtain ⟨second, third⟩ := rest (.inl level)
        by_cases kind : filter.kind = ""
        · have cell := (asks.resolve_left (absurd level)).resolve_left (absurd kind)
          exact ((third (.inl kind)).resolve_left cell).1
        · exact second.resolve_left kind
      · exact first.resolve_left level
    · rintro cell ⟨level, kind, _⟩
      exact (((rest level).2 kind).resolve_left cell).2

private theorem filter_accepts (filter : Filter) (values : List (Json Letters)) :
    (((values.filter fun value =>
      filter.level = "" ∨ value.text? "level" = some filter.level).filter fun value =>
        filter.kind = "" ∨ value.text? "event_type" = some filter.kind).filter fun value =>
          filter.cell = "" ∨
            (value.member? (.ofText "context")).bind (Json.text? "cell_id") =
              some filter.cell) =
      values.filter fun value => filter.Accepts value := by
  rw [List.filter_filter, List.filter_filter]
  refine List.filter_congr fun value _ => ?_
  rw [Bool.eq_iff_iff, decide_eq_true_iff, Filter.Accepts]
  simp only [Bool.and_eq_true, decide_eq_true_eq]
  tauto

/-- What a query makes of the values that it has read. -/
def Filter.pick (filter : Filter) (limit : Int) (values : List (Json Letters)) :
    Except QueryError (List (Json Letters)) := do
  let values ← select filter.level (hasText "level") values
  let values ← select filter.kind (hasText "event_type") values
  let values ← select filter.cell isAbout values
  pure (limited (min limit maxEvents) values.reverse)

theorem Filter.pick_eq_ok_iff {filter : Filter} {limit : Int} {answer : List (Json Letters)} :
    filter.pick limit values = .ok answer ↔ (∀ value ∈ values, filter.Handles value) ∧
      answer = limited (min limit maxEvents)
        (values.filter fun value => filter.Accepts value).reverse := by
  have text (key wanted : String) {before after : List (Json Letters)} :=
    @select_eq_ok_iff before after wanted (hasText key) _ _ _
      (fun _ => hasText_of_object key wanted) fun _ => hasText_of_other key wanted
  have about (wanted : String) {before after : List (Json Letters)} :=
    @select_eq_ok_iff before after wanted isAbout _ _ _
      (fun _ => isAbout_of_hasContext wanted) fun _ => isAbout_of_other wanted
  simp only [Filter.pick, bind_eq_ok_iff, text, about, and_assoc, exists_and_left, exists_eq_left,
    List.forall_mem_filter, decide_eq_true_eq, filter_accepts, Filter.handles_iff, forall_and,
    pure, Except.pure, Except.ok.injEq, @eq_comm _ answer]

end Filters

/-! ### Queries -/

private theorem length_limited_le {limit : Int} (positive : 0 ≤ limit)
    (values : List (Json Letters)) :
    ((limited limit values).length : Int) ≤ limit := by
  obtain ⟨count, rfl⟩ := Int.eq_ofNat_of_zero_le positive
  simp [limited]

private theorem mem_of_mem_limited {limit : Int} {value : Json Letters}
    {values : List (Json Letters)}
    (member : value ∈ limited limit values) : value ∈ values := by
  cases limit <;> exact List.mem_of_mem_take member

namespace Sink

/-- What a query looks at of a log. There is nothing in the log of a session whose name is not
safe. -/
def window (sink : Sink) (disk : Disk) (root : Place) (log : Log) : List UInt8 :=
  if log.Safe then tail sink.readLimit.toNat (disk.octetsAt (log.place root)) else []

/-- What is read of the octets begins with a line. -/
def Whole (sink : Sink) (octets : List UInt8) : Prop :=
  octets.length ≤ sink.readLimit.toNat ∨
    0x0A ∈ octets.drop (octets.length - sink.readLimit.toNat)

section Queries

variable {sink : Sink} {disk : Disk} {root : Place} {log : Log}
  {values : List (Json Letters)}

/-- A log that takes no lines cannot be looked at, or is a directory. -/
theorem Stands.look_path_of_not_takes (stands : sink.Stands disk root) (safe : log.Safe)
    (barred : ¬ sink.Takes disk root log) :
    disk.look (sink.path log).text =
        .error (.system .nameTooLong (some (sink.path log).text)) ∨
      disk.look (sink.path log).text = .ok (some .directory) := by
  have written := spelled_folder stands.spelled log
  have filled := folder_filled stands.filled log
  have folder := stands.target_folder log
  have proper := Log.entryName_of_safe safe
  by_cases fits : Disk.Fits (sink.folder log) log.fileName
  · have directory : disk.get? (log.place root) = some .directory :=
      of_not_not fun free => barred ⟨fits, free⟩
    rw [Log.place] at directory
    have found := (Disk.target_child_iff written filled folder proper).2 ⟨fits, rfl⟩
    rw [directory] at found
    right
    rw [Disk.look, Disk.stat, path_eq, found]
  · obtain ⟨⟨plain, _⟩, _⟩ := (Disk.target_iff_leads stands.spelled stands.filled).1 stands.logs
    have missed := Disk.target_child_of_not_fits written filled folder proper
      (path_eq sink log ▸ plain_path stands.filled plain safe) fits
    left
    rw [Disk.look, Disk.stat, path_eq, missed]

theorem readLog_eq_ok_iff {path : Path} (allowed : 0 ≤ sink.readLimit) :
    sink.readLog disk path = .ok values ↔
      disk.look path.text = .ok none ∧ values = [] ∨
        ∃ octets, disk.look path.text = .ok (some (.file octets)) ∧
          valuesOfOctets sink.levels.most (tail sink.readLimit.toNat octets) = .ok values := by
  have positive := Int.not_lt.2 allowed
  unfold readLog
  cases disk.look path.text with
  | error => simp [Except.mapError, bind, Except.bind]
  | ok entry? =>
      rcases entry? with _ | (_ | octets)
      · simp [Except.mapError, bind, Except.bind, pure, Except.pure, eq_comm]
      · simp [Except.mapError, bind, Except.bind, positive, throw, throwThe, MonadExceptOf.throw]
      · simp [Except.mapError, bind, Except.bind, positive]

/-- What takes no lines cannot be read either. -/
theorem Stands.readLog_eq_ok_iff (stands : sink.Stands disk root) (safe : log.Safe)
    (allowed : 0 ≤ sink.readLimit) :
    sink.readLog disk (sink.path log) = .ok values ↔ sink.Takes disk root log ∧
      valuesOfOctets sink.levels.most (tail sink.readLimit.toNat (disk.octetsAt (log.place root))) =
        .ok values := by
  rw [Sink.readLog_eq_ok_iff allowed]
  by_cases takes : sink.Takes disk root log
  · have empty : valuesOfOctets sink.levels.most (tail sink.readLimit.toNat []) = .ok [] := by
      rw [tail_of_short (Nat.zero_le _)]
      rfl
    rw [stands.look_path safe takes, Disk.octetsAt]
    rcases present : disk.get? (log.place root) with _ | (_ | octets)
    · simp [takes, empty, eq_comm]
    · exact absurd present takes.free
    · simp [takes]
  · rcases stands.look_path_of_not_takes safe takes with long | directory
    · simp [long, takes]
    · simp [directory, takes]

/-- A query reads a single log and puts its tests to what it finds there. -/
theorem query_eq (sink : Sink) (disk : Disk) (filter : Filter) (limit : Int) :
    sink.query disk filter limit =
      (if filter.log.Safe then sink.readLog disk (sink.path filter.log) else .ok []) >>=
        filter.pick limit := by
  unfold query
  split
  · rename_i every
    have log : filter.log = .project := if_pos every
    rw [log, if_pos (show Log.project.Safe from trivial)]
    rfl
  · rename_i named
    have log : filter.log = .session filter.session := if_neg named
    rw [log, readSession]
    rfl

theorem Stands.read_eq_ok_iff (stands : sink.Stands disk root) (allowed : 0 ≤ sink.readLimit) :
    (if log.Safe then sink.readLog disk (sink.path log) else .ok []) = .ok values ↔
      (log.Safe → sink.Takes disk root log) ∧
        WithinLimits sink.levels.most (sink.window disk root log) ∧
        values = valuesOn sink.levels.most (sink.window disk root log) := by
  unfold window
  split
  · rename_i safe
    rw [stands.readLog_eq_ok_iff safe allowed, valuesOfOctets_eq_ok_iff]
    simp [safe]
  · rename_i barred
    have empty : WithinLimits sink.levels.most [] ∧ valuesOn sink.levels.most [] = [] :=
      ⟨nofun, rfl⟩
    simp [barred, empty, eq_comm]

private theorem Stands.query_eq_ok_iff (stands : sink.Stands disk root)
    (allowed : 0 ≤ sink.readLimit)
    {filter : Filter} {limit : Int} {answer : List (Json Letters)} :
    sink.query disk filter limit = .ok answer ↔
      ((filter.log.Safe → sink.Takes disk root filter.log) ∧
        WithinLimits sink.levels.most (sink.window disk root filter.log) ∧
        ∀ value, OnLine sink.levels.most (sink.window disk root filter.log) value →
          filter.Handles value) ∧
      answer = limited (min limit maxEvents)
        ((valuesOn sink.levels.most (sink.window disk root filter.log)).filter
          fun value => filter.Accepts value).reverse := by
  rw [query_eq, bind_eq_ok_iff]
  simp only [stands.read_eq_ok_iff allowed, Filter.pick_eq_ok_iff, mem_valuesOn_iff, and_assoc,
    exists_and_left, exists_eq_left]

private theorem onLine_of_window {value : Json Letters}
    (found : OnLine sink.levels.most (sink.window disk root log) value)
    (whole : sink.Whole (disk.octetsAt (log.place root))) :
    OnLine sink.levels.most (disk.octetsAt (log.place root)) value := by
  unfold window at found
  split at found
  · exact found.of_tail whole
  · obtain ⟨_, none, _⟩ := found
    cases none

/-- A query of logs with any contents gives an answer if and only if its log can be read, nothing
there is too long or too deep, and every value there can be asked what the filter asks. Then the
answer has what is asked for, and no more of it than the limit. -/
theorem Stands.query_of_any_log (stands : sink.Stands disk root) (allowed : 0 ≤ sink.readLimit)
    (filter : Filter) (limit : Int) :
    ((∃ answer, sink.query disk filter limit = .ok answer) ↔
      (filter.log.Safe → sink.Takes disk root filter.log) ∧
        WithinLimits sink.levels.most (sink.window disk root filter.log) ∧
        ∀ value, OnLine sink.levels.most (sink.window disk root filter.log) value →
          filter.Handles value) ∧
    ∀ answer, sink.query disk filter limit = .ok answer →
      answer = limited (min limit 2000)
        ((valuesOn sink.levels.most (sink.window disk root filter.log)).filter
          fun value => filter.Accepts value).reverse ∧
      (0 ≤ limit → (answer.length : Int) ≤ limit) ∧
      ∀ value ∈ answer, filter.Accepts value ∧ (filter.Asks → value.IsObject) ∧
        OnLine sink.levels.most (sink.window disk root filter.log) value ∧
        (sink.Whole (disk.octetsAt (filter.log.place root)) →
          OnLine sink.levels.most (disk.octetsAt (filter.log.place root)) value) := by
  simp only [stands.query_eq_ok_iff allowed, exists_and_left, exists_eq, and_true, true_and]
  rintro answer ⟨⟨_, _, handled⟩, rfl⟩
  refine ⟨rfl, fun positive => ?_, fun value member => ?_⟩
  · exact (length_limited_le (le_min positive (by decide)) _).trans (min_le_left _ _)
  · have among := List.mem_reverse.1 (mem_of_mem_limited member)
    rw [List.mem_filter, mem_valuesOn_iff, decide_eq_true_iff] at among
    obtain ⟨found, accepted⟩ := among
    exact ⟨accepted, (handled value found).object, found, onLine_of_window found⟩

end Queries

/-- A project with some octets in its log. -/
def projectWith (octets : List UInt8) : Disk :=
  newProject.put (Log.project.place ["logs"]) (.file octets)

theorem stands_projectWith (octets : List UInt8) :
    newLogs.Stands (projectWith octets) ["logs"] :=
  stands_newLogs.keeps (Disk.keeps_put (by simp [get?_newProject]))

theorem get?_projectWith (octets : List UInt8) :
    (projectWith octets).get? (Log.project.place ["logs"]) = some (.file octets) := by
  simp [projectWith, Disk.get?_put, Log.place_ne_nil]

theorem takes_projectWith (octets : List UInt8) :
    newLogs.Takes (projectWith octets) ["logs"] .project := by
  have short : Log.project.Short := trivial
  exact ⟨(takes_newLogs short).fits, by simp [get?_projectWith]⟩

private theorem window_projectWith {octets : List UInt8} (short : octets.length ≤ 4096) :
    newLogs.window (projectWith octets) ["logs"] .project = octets := by
  have safe : Log.project.Safe := trivial
  have whole : tail newLogs.readLimit.toNat octets = octets := tail_of_short short
  simp [window, safe, Disk.octetsAt, get?_projectWith, whole]

/-- Among the lines are one in another encoding, one with half of a pair, one with a level that is
no text, and one that was cut off. -/
def damaged : List UInt8 :=
  Text.octets "\x7b\"level\":\"info\"\x7d\n\x7b\"level\":\"" ++ 0xE4 ::
    Text.octets "\"\x7d\n\n\x7b\"level\":\"\\ud83d\"\x7d\n\x7b\"level\":3\x7d\n\x7b\"level\":"

theorem query_of_damaged_log :
    newLogs.query (projectWith damaged) ⟨"info", "", "", ""⟩ 5 =
      .ok [.object [(.ofText "level", .string (.ofText "info"))]] := by
  obtain ⟨answers, told⟩ :=
    (stands_projectWith damaged).query_of_any_log (by decide) ⟨"info", "", "", ""⟩ 5
  have log : (⟨"info", "", "", ""⟩ : Filter).log = .project := if_pos rfl
  have read : valuesOfOctets newLogs.levels.most damaged =
      .ok [.object [(.ofText "level", .string (.ofText "info"))],
        .object [(.ofText "level", .string (.ofText "\uFFFD"))],
        .object [(.ofText "level", .string [.half 0xD83D])],
        .object [(.ofText "level", .int 3)]] := rfl
  obtain ⟨short, values⟩ := valuesOfOctets_eq_ok_iff.1 read
  rw [log, window_projectWith (by decide)] at answers told
  have handles : ∀ value, OnLine newLogs.levels.most damaged value →
      Filter.Handles ⟨"info", "", "", ""⟩ value := by
    intro value found
    rw [← mem_valuesOn_iff, ← values] at found
    have object : value.IsObject := by
      simp only [List.mem_cons, List.not_mem_nil, or_false] at found
      rcases found with rfl | rfl | rfl | rfl <;> exact ⟨_, rfl⟩
    exact ⟨fun _ => object, fun asked => absurd rfl asked⟩
  obtain ⟨answer, given⟩ := answers.2 ⟨fun _ => takes_projectWith damaged, short, handles⟩
  obtain ⟨rfl, _⟩ := told answer given
  rw [given, ← values]
  rfl

theorem query_fails_on_brackets {count : Nat} (deep : newLogs.levels.most < count)
    (short : count ≤ 4096) {filter : Filter} (every : filter.session = "") (limit : Int) :
    newLogs.query (projectWith (Text.Utf8.encode (List.replicate count '['))) filter limit =
      .error (.tooDeep .array) := by
  have size (count : Nat) : (Text.Utf8.encode (List.replicate count '[')).length = count := by
    induction count with
    | zero => rfl
    | succ count ih =>
        rw [List.replicate_succ, Text.Utf8.encode, List.flatMap_cons, List.length_append,
          ← Text.Utf8.encode, ih]
        exact Nat.add_comm 1 count
  have fits : (Text.Utf8.encode (List.replicate count '[')).length ≤ newLogs.readLimit.toNat :=
    (size count).trans_le short
  have held : (projectWith (Text.Utf8.encode (List.replicate count '['))).read newLogs.globalLog =
      .ok (Text.Utf8.encode (List.replicate count '[')) := by
    have project : Log.project.Safe := trivial
    have found := (stands_projectWith (Text.Utf8.encode (List.replicate count '['))).target_path
      project (takes_projectWith _)
    rw [get?_projectWith] at found
    exact Disk.read_eq_ok_iff.2 ⟨_, found⟩
  have read := readLog_of_read (show 0 ≤ newLogs.readLimit by decide) held
  rw [tail_of_short fits, valuesOfOctets_brackets deep] at read
  rw [query, if_pos every, read]
  rfl

/-- Filters fail on a line with a number. Without a filter the number is given out, and a negative
limit leaves out as many of the oldest values. -/
theorem query_fails_on_number :
    newLogs.query (projectWith (Text.octets "5\n6\n")) ⟨"info", "", "", ""⟩ 200 =
        .error .notObject ∧
      newLogs.query (projectWith (Text.octets "5\n6\n")) ⟨"", "", "", ""⟩ (-1) =
        .ok [.int 6] := by
  have read : newLogs.readLog (projectWith (Text.octets "5\n6\n")) newLogs.globalLog =
      .ok [.int 5, .int 6] := by
    have project : Log.project.Safe := trivial
    refine ((stands_projectWith _).readLog_eq_ok_iff project (by decide)).2
      ⟨takes_projectWith _, ?_⟩
    rw [Disk.octetsAt, get?_projectWith]
    rfl
  constructor <;> rw [query, if_pos rfl, read] <;> rfl

end Sink

end Journal

end Spreadsheet
