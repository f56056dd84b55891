import Spreadsheet.Journal.Query
import Spreadsheet.Proofs.Json.RoundTrip
import Spreadsheet.Proofs.Text.Blank
import Spreadsheet.Proofs.Text.Line
import Spreadsheet.Proofs.Text.Utf8

/-! Events as lines: what was logged is read back, one value a line. -/

set_option autoImplicit false

namespace Spreadsheet

namespace Journal

namespace Event

/-- The event can be logged, and its context is a dictionary. -/
structure Writable (event : Event) : Prop where
  context : Json.Writable (.object event.context)
  fits : event.check = .ok ()

/-- The context is a dictionary of values that can be written in full. -/
def Plain (event : Event) : Prop := Json.Plain (.object event.context)

/-- The event as it is read back. -/
def stored (event : Event) : Json Letters := event.toJson.asRead

/-- A plain event as it is read back, with the members of every object in the order of their
keys. -/
def entry (event : Event) : Json Letters :=
  Json.mapText Letters.ofText <| .object
    [("context", (Json.object event.context).ordered),
      ("error_code", (event.errorCode.map Json.string).getD .null),
      ("event_type", .string event.kind.name), ("level", .string event.level.name),
      ("message", .string event.message), ("schema_version", .int 1), ("ts", .string event.time)]

variable {event : Event} {levels : Nat}

theorem Plain.writable (plain : event.Plain) (fits : event.check = .ok ()) : event.Writable :=
  ⟨Json.Plain.writable plain, fits⟩

theorem stored_eq (event : Event) :
    event.stored = Json.mapText Letters.ofText (.object
      [("context", (Json.object event.context).finite.ordered),
        ("error_code", (event.errorCode.map Json.string).getD .null),
        ("event_type", .string event.kind.name), ("level", .string event.level.name),
        ("message", .string event.message), ("schema_version", .int 1),
        ("ts", .string event.time)]) := by
  have code : ((event.errorCode.map Json.string).getD .null).ordered =
      (event.errorCode.map Json.string).getD .null := by
    cases event.errorCode <;> rfl
  rw [stored, Json.asRead, Event.toJson, Json.ordered_object]
  simp only [Json.sortByKey, List.foldl_cons, List.foldl_nil, Json.insertByKey, String.reduceLT,
    if_true, if_false, List.map_cons, List.map_nil, code]
  rfl

theorem Plain.stored_eq (plain : event.Plain) : event.stored = event.entry := by
  rw [Event.stored_eq, plain.finite_eq]
  rfl

private theorem Writable.depth_le (writable : event.Writable) :
    Json.membersDepth event.context ≤ Event.maxDepth := by
  have fits := writable.fits
  rw [check] at fits
  split at fits
  · cases fits
  · exact Nat.not_lt.1 ‹_›

/-- What is written of an event holds a value without what JSON has no words for. -/
theorem Writable.exists_finite (writable : event.Writable) :
    ∃ value, Json.Writable value ∧ value.finite = event.toJson ∧
      value.depth ≤ Event.maxLevels := by
  have keys : (["schema_version", "ts", "level", "event_type", "context", "message",
      "error_code"] : List String).Nodup := by decide
  have code : Json.Writable ((event.errorCode.map Json.string).getD .null) ∧
      ((event.errorCode.map Json.string).getD .null).finite =
        (event.errorCode.map Json.string).getD .null := by
    cases event.errorCode with
    | none => exact ⟨.null, rfl⟩
    | some code => exact ⟨.string code, rfl⟩
  refine ⟨.object
    [("schema_version", .int 1), ("ts", .string event.time), ("level", .string event.level.name),
      ("event_type", .string event.kind.name), ("context", .object event.context),
      ("message", .string event.message),
      ("error_code", (event.errorCode.map Json.string).getD .null)], .object keys ?_, ?_, ?_⟩
  · simp only [List.forall_mem_cons]
    exact ⟨.int (by decide), .string _, .string _, .string _, writable.context, .string _, code.1,
      nofun⟩
  · rw [Json.finite, Json.finiteMembers_eq]
    simp only [List.map_cons, List.map_nil, code.2]
    rfl
  · have shallow := writable.depth_le
    have level : ((event.errorCode.map Json.string).getD .null).depth = 1 := by
      cases event.errorCode <;> rfl
    simp only [Json.depth, Json.membersDepth, level, maxLevels]
    omega

theorem Writable.read_render (writable : event.Writable) (enough : Event.maxLevels ≤ levels) :
    Json.read levels event.toJson.render = .ok event.stored := by
  obtain ⟨value, writable, same, shallow⟩ := writable.exists_finite
  rw [stored, ← same, writable.read_render (Nat.le_trans shallow enough)]

private theorem trim_render (event : Event) :
    Text.trim event.toJson.render = event.toJson.render := by
  rw [toJson, Json.render_object]
  exact Text.trim_eq_self_of_ends rfl rfl

private theorem render_ne_nil (event : Event) : event.toJson.render ≠ [] := by
  rw [toJson, Json.render_object]
  exact List.cons_ne_nil _ _

/-- Nothing in the line of an event but its end is taken for the end of a line. -/
theorem Writable.not_isLineBreak (writable : event.Writable) :
    ∀ c ∈ event.toJson.render, Text.isLineBreak c = false := by
  obtain ⟨value, writable, same, _⟩ := writable.exists_finite
  intro c member
  have printable := Json.printable_iff.1 (writable.printable c (same ▸ member))
  rw [← Bool.not_eq_true, Text.isLineBreak]
  simp only [Bool.or_eq_true, Bool.and_eq_true, decide_eq_true_eq, beq_iff_eq]
  omega

end Event

variable {levels : Nat}

private theorem valuesOf_cons_of_read {line : List Char} {rest : List (List Char)}
    {value : Json Letters}
    (trimmed : Text.trim line = line) (filled : line ≠ [])
    (read : Json.read levels line = .ok value) :
    valuesOf levels (line :: rest) = (valuesOf levels rest).map (value :: ·) := by
  rw [valuesOf, trimmed]
  cases line with
  | nil => exact absurd rfl filled
  | cons => simp only [read]

variable {events : List Event}

private theorem valuesOf_renders (writable : ∀ event ∈ events, event.Writable)
    (enough : Event.maxLevels ≤ levels) :
    valuesOf levels (events.map fun event => event.toJson.render) =
      .ok (events.map Event.stored) := by
  induction events with
  | nil => rfl
  | cons event rest ih =>
      rw [List.forall_mem_cons] at writable
      rw [List.map_cons, valuesOf_cons_of_read event.trim_render event.render_ne_nil
        (writable.1.read_render enough), ih writable.2]
      rfl

theorem valuesOfOctets_lines (writable : ∀ event ∈ events, event.Writable)
    (enough : Event.maxLevels ≤ levels) :
    valuesOfOctets levels (Text.Utf8.encode (events.flatMap Event.line)) =
      .ok (events.map Event.stored) := by
  have rows : events.flatMap Event.line =
      (events.map fun event => event.toJson.render).flatMap (· ++ ['\n']) := by
    rw [List.flatMap_map]
    rfl
  have inside : ∀ line ∈ events.map fun event => event.toJson.render,
      ∀ c ∈ line, Text.isLineBreak c = false := by
    intro line member
    obtain ⟨event, among, rfl⟩ := List.mem_map.1 member
    exact (writable event among).not_isLineBreak
  have cut := Text.lines_flatMap_feed_append inside []
  rw [List.append_nil, Text.lines, List.append_nil] at cut
  rw [valuesOfOctets, Text.Utf8.decodeLossy_encode, rows, cut, valuesOf_renders writable enough]

theorem map_stored_of_plain (plain : ∀ event ∈ events, event.Plain) :
    events.map Event.stored = events.map Event.entry :=
  List.map_congr_left fun event member => (plain event member).stored_eq

end Journal

end Spreadsheet
