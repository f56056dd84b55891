import Spreadsheet.Proofs.Journal.Query

/-! What is read of the end of a log: whole events alone, the newest ones that fit. Behind a cut
the events have to fit with an octet to spare, since the first line there is always left out. -/

set_option autoImplicit false

namespace Spreadsheet.Journal

/-! ### Octets of events -/

/-- The lines of some events in a log. -/
def octetsOf (events : List Event) : List UInt8 :=
  Text.Utf8.encode (events.flatMap Event.line)

section Octets

variable {event : Event} {events rest kept more : List Event} {bound : Nat}

theorem octetsOf_append (first second : List Event) :
    octetsOf (first ++ second) = octetsOf first ++ octetsOf second := by
  rw [octetsOf, List.flatMap_append, Text.Utf8.encode, List.flatMap_append]
  rfl

theorem octetsOf_cons (event : Event) (rest : List Event) :
    octetsOf (event :: rest) =
      Text.Utf8.encode event.toJson.render ++ 0x0A :: octetsOf rest := by
  rw [octetsOf, List.flatMap_cons, Event.line, Text.Utf8.encode, List.append_assoc,
    List.flatMap_append]
  rfl

theorem length_octetsOf_pos (filled : events ≠ []) : 0 < (octetsOf events).length := by
  obtain ⟨event, rest, rfl⟩ := List.exists_cons_of_ne_nil filled
  rw [octetsOf_cons, List.length_append, List.length_cons]
  omega

private theorem length_octetsOf_le (suffix : more <:+ events) :
    (octetsOf more).length ≤ (octetsOf events).length := by
  obtain ⟨before, rfl⟩ := suffix
  rw [octetsOf_append, List.length_append]
  omega

private theorem eq_of_length_octetsOf (suffix : more <:+ events)
    (long : (octetsOf events).length ≤ (octetsOf more).length) : more = events := by
  obtain ⟨before, rfl⟩ := suffix
  cases before with
  | nil => rfl
  | cons event before =>
      have filled := length_octetsOf_pos (List.cons_ne_nil event before)
      rw [octetsOf_append, List.length_append] at long
      omega

private theorem Event.Writable.not_mem_encode (writable : event.Writable) :
    0x0A ∉ Text.Utf8.encode event.toJson.render := by
  intro inside
  cases writable.not_isLineBreak '\n' (Text.Utf8.feed_of_mem_encode inside)

/-! ### The newest events -/

/-- The events at the end of a log whose lines fit into some octets, as many as do. -/
structure Newest (bound : Nat) (events kept : List Event) : Prop where
  suffix : kept <:+ events
  fits : (octetsOf kept).length ≤ bound
  most : ∀ more, more <:+ events → (octetsOf more).length ≤ bound → more.length ≤ kept.length

theorem newest_self (fits : (octetsOf events).length ≤ bound) : Newest bound events events :=
  ⟨List.suffix_refl events, fits, fun _ suffix _ => suffix.length_le⟩

theorem Newest.cons (newest : Newest bound rest kept)
    (long : bound < (octetsOf (event :: rest)).length) : Newest bound (event :: rest) kept := by
  refine ⟨newest.suffix.trans (List.suffix_cons event rest), newest.fits, fun more suffix fits => ?_⟩
  rcases List.suffix_cons_iff.1 suffix with rfl | behind
  · omega
  · exact newest.most more behind fits

theorem Newest.unique {other : List Event} (newest : Newest bound events kept)
    (another : Newest bound events other) : kept = other := by
  have least := newest.most other another.suffix another.fits
  have most := another.most kept newest.suffix newest.fits
  exact (List.suffix_of_suffix_length_le newest.suffix another.suffix most).eq_of_length
    (by omega)

/-- More room takes in older events, and leaves none of the newer ones out. -/
theorem Newest.mono {other : Nat} (newest : Newest bound events kept)
    (wider : Newest other events more) (less : bound ≤ other) : kept <:+ more :=
  List.suffix_of_suffix_length_le newest.suffix wider.suffix
    (wider.most kept newest.suffix (newest.fits.trans less))

/-- An octet less makes no difference, unless some of the events fit exactly. -/
theorem Newest.of_pred_iff (newest : Newest (bound - 1) events kept)
    (long : bound < (octetsOf events).length) :
    Newest bound events kept ↔
      ∀ more, more <:+ events → (octetsOf more).length = bound → more = [] ∨ more = events := by
  constructor
  · intro fitting more suffix exact
    by_contra other
    rw [not_or] at other
    have filled := length_octetsOf_pos other.1
    have shorter := fitting.most more suffix exact.le
    have inside := length_octetsOf_le
      (List.suffix_of_suffix_length_le suffix newest.suffix shorter)
    have fits := newest.fits
    omega
  · intro inexact
    refine ⟨newest.suffix, newest.fits.trans (Nat.sub_le bound 1), fun more suffix fits => ?_⟩
    by_cases exact : (octetsOf more).length = bound
    · rcases inexact more suffix exact with rfl | rfl
      · exact Nat.zero_le _
      · omega
    · exact newest.most more suffix (by omega)

/-! ### Behind a cut -/

/-- The room that a limit leaves for the events of a log of some octets. -/
def room (bound size : Nat) : Nat := if size ≤ bound then bound else bound - 1

theorem room_mono {first second size : Nat} (less : first ≤ second) :
    room first size ≤ room second size := by
  unfold room
  split
  · split
    · exact less
    · omega
  · split
    · omega
    · exact Nat.sub_le_sub_right less 1

theorem behindFeed_append {front behind : List UInt8} (inside : 0x0A ∉ front) :
    behindFeed (front ++ 0x0A :: behind) = behind := by
  have other : ∀ octet ∈ front, (octet != 0x0A) = true := by
    intro octet member
    rw [bne_iff_ne]
    rintro rfl
    exact inside member
  rw [behindFeed, List.dropWhile_append_of_pos other, List.dropWhile_cons_of_neg (by decide)]

/-- Wherever a log is cut, the events behind the first line feed are the newest ones that fit
with an octet to spare. -/
theorem exists_newest_behindFeed (writable : ∀ event ∈ events, event.Writable) (offset : Nat) :
    ∃ kept, Newest ((octetsOf events).length - offset - 1) events kept ∧
      behindFeed ((octetsOf events).drop offset) = octetsOf kept := by
  induction events generalizing offset with
  | nil => exact ⟨[], newest_self (Nat.zero_le _), by cases offset <;> rfl⟩
  | cons event rest ih =>
      rw [List.forall_mem_cons] at writable
      have size : (octetsOf (event :: rest)).length =
          (Text.Utf8.encode event.toJson.render).length + 1 + (octetsOf rest).length := by
        rw [octetsOf_cons, List.length_append, List.length_cons]
        omega
      by_cases within : offset ≤ (Text.Utf8.encode event.toJson.render).length
      · -- The cut is in the first line, or in front of it: the other lines are left.
        refine ⟨rest, .cons (newest_self (by omega)) (by omega), ?_⟩
        rw [octetsOf_cons, List.drop_append_of_le_length within]
        exact behindFeed_append fun inside =>
          writable.1.not_mem_encode (List.mem_of_mem_drop inside)
      · obtain ⟨further, rfl⟩ := Nat.exists_eq_add_of_lt (Nat.lt_of_not_le within)
        obtain ⟨kept, newest, left⟩ := ih writable.2 further
        have behind : (octetsOf (event :: rest)).drop
            ((Text.Utf8.encode event.toJson.render).length + further + 1) =
              (octetsOf rest).drop further := by
          rw [octetsOf_cons, Nat.add_assoc, List.drop_length_add_append, List.drop_succ_cons]
        refine ⟨kept, .cons ?_ (by omega), behind ▸ left⟩
        convert newest using 1
        omega

private theorem exists_newest_tail (writable : ∀ event ∈ events, event.Writable) (bound : Nat) :
    ∃ kept, tail bound (octetsOf events) = octetsOf kept ∧
      Newest (room bound (octetsOf events).length) events kept ∧
      (Newest bound events kept ↔
        ∀ more, more <:+ events → (octetsOf more).length = bound → more = [] ∨ more = events) := by
  rw [tail, room]
  split
  · rename_i short
    refine ⟨events, rfl, newest_self short, fun _ more suffix exact => .inr ?_,
      fun _ => newest_self short⟩
    exact eq_of_length_octetsOf suffix (exact ▸ short)
  · rename_i long
    obtain ⟨kept, newest, left⟩ :=
      exists_newest_behindFeed writable ((octetsOf events).length - bound)
    have spare : (octetsOf events).length - ((octetsOf events).length - bound) - 1 = bound - 1 := by
      omega
    rw [spare] at newest
    exact ⟨kept, left, newest, newest.of_pred_iff (Nat.lt_of_not_le long)⟩

end Octets

/-! ### Reading a log -/

section Reading

variable {sink : Sink} {disk : Disk} {path : Path} {bound : Nat}

private theorem Sink.Fresh.read_writeAll {root : Place} {log : Log} {calls : List Call}
    (fresh : sink.Fresh disk root)
    (names : ∀ call ∈ calls, ∀ name ∈ call.session, name.length ≤ 200) (short : log.Short)
    (filled : log.events calls ≠ []) :
    (sink.writeAll disk calls).1.read (sink.path log) = .ok (octetsOf (log.events calls)) := by
  obtain ⟨_, extended⟩ := fresh.stands.extends_writeAll (fun _ => fresh.takes) names
  have found := (fresh.stands.keeps extended.keeps).target_path short.safe
    ((extended.takes log).2 (fresh.takes short))
  have held : (sink.writeAll disk calls).1.octetsAt (log.place root) =
      octetsOf (log.events calls) := by
    rw [extended.octets, fresh.blank log short, if_pos short.safe]
    rfl
  have present := Disk.get?_of_octetsAt_ne_nil
    (held ▸ List.ne_nil_of_length_pos (length_octetsOf_pos filled))
  rw [present, held] at found
  exact Disk.read_eq_ok_iff.2 ⟨_, found⟩

theorem Sink.exists_readLog {events : List Event} (limit : sink.readLimit = bound)
    (writable : ∀ event ∈ events, event.Writable)
    (held : disk.read path = .ok (octetsOf events)) :
    ∃ kept, sink.readLog disk path = .ok (kept.map Event.stored) ∧
      Newest (room bound (octetsOf events).length) events kept ∧
      (Newest bound events kept ↔
        ∀ more, more <:+ events → (octetsOf more).length = bound → more = [] ∨ more = events) := by
  obtain ⟨kept, left, newest, exact⟩ := exists_newest_tail writable bound
  have among : ∀ event ∈ kept, event.Writable :=
    fun event member => writable event (newest.suffix.subset member)
  refine ⟨kept, ?_, newest, exact⟩
  rw [readLog_of_read (by omega) held, limit, Int.toNat_natCast, left, octetsOf,
    valuesOfOctets_lines among sink.levels.enough]

/-- A query gives out the wanted events among those that are read of its log, the newest first. -/
theorem Sink.query_of_readLog {filter : Filter} {kept : List Event} (safe : filter.log.Safe)
    (writable : ∀ event ∈ kept, event.Writable)
    (read : sink.readLog disk (sink.path filter.log) = .ok (kept.map Event.stored)) (count : Nat) :
    sink.query disk filter count = .ok (((kept.filter fun event => filter.Wants event).reverse.take
      (min count 2000)).map Event.stored) := by
  have wanted := selected_stored filter writable count
  rw [query]
  split
  · rename_i every
    have log : filter.log = .project := if_pos every
    rw [log] at read
    change sink.readLog disk sink.globalLog = _ at read
    rw [read]
    exact wanted
  · rename_i named
    have log : filter.log = .session filter.session := if_neg named
    rw [log] at read safe
    change isSafeName filter.session = true at safe
    change sink.readLog disk (sink.sessionLog filter.session) = _ at read
    rw [readSession, if_pos safe, read]
    exact wanted

theorem Sink.query_unfiltered {kept : List Event} (writable : ∀ event ∈ kept, event.Writable)
    (read : sink.readLog disk sink.globalLog = .ok (kept.map Event.stored)) (count : Nat) :
    sink.query disk ⟨"", "", "", ""⟩ count =
      .ok ((kept.reverse.take (min count 2000)).map Event.stored) := by
  rw [@query_of_readLog _ _ ⟨"", "", "", ""⟩ _ trivial writable read, List.filter_eq_self.2]
  exact fun event _ => decide_eq_true ⟨.inl rfl, .inl rfl, .inl rfl⟩

/-- Of a log of written events the newest ones are read, as whole lines and as many as fit into
the limit. Only where the log is cut and some of its events fit exactly, one too few is read. -/
theorem Sink.readLog_newest {events : List Event} (limit : sink.readLimit = bound)
    (writable : ∀ event ∈ events, event.Writable)
    (held : disk.read path = .ok (octetsOf events)) :
    ∃ kept, sink.readLog disk path = .ok (kept.map Event.stored) ∧
      (∀ session, path = sink.sessionLog session → isSafeName session = true →
        sink.readSession disk session = .ok (kept.map Event.stored)) ∧
      (path = sink.globalLog → ∀ count : Nat, sink.query disk ⟨"", "", "", ""⟩ count =
        .ok ((kept.reverse.take (min count 2000)).map Event.stored)) ∧
      Newest (if (octetsOf events).length ≤ bound then bound else bound - 1) events kept ∧
      (Newest bound events kept ↔
        ∀ more, more <:+ events → (octetsOf more).length = bound → more = [] ∨ more = events) := by
  obtain ⟨kept, read, newest, exact⟩ := exists_readLog limit writable held
  have among : ∀ event ∈ kept, event.Writable :=
    fun event member => writable event (newest.suffix.subset member)
  refine ⟨kept, read, ?_, ?_, newest, exact⟩
  · rintro session rfl safe
    rw [readSession, if_pos safe, read]
  · rintro rfl count
    exact query_unfiltered among read count

end Reading

/-- The beginning of a session, with characters that are escaped in the log. -/
def started : Event :=
  ⟨"t0", .info, .sessionStarted, [("sheet_file", .string "Ä\u2028")], "", none⟩

/-- An edit, with a number in its context that the log has no word for. -/
def edited : Event :=
  ⟨"t1", .info, .cellSet, [("cell_id", .string "A1"), ("value", .float .nan)], "", none⟩

theorem writable_startedAndEdited : ∀ event ∈ [started, edited], event.Writable := by
  have first : started.Writable :=
    ⟨.object (by decide) (List.forall_mem_singleton.2 (.string _)), rfl⟩
  have second : edited.Writable :=
    ⟨.object (by decide)
      (List.forall_mem_cons.2 ⟨.string _, List.forall_mem_singleton.2 (.float _)⟩), rfl⟩
  simp [first, second]

theorem length_octetsOf_startedAndEdited :
    (octetsOf [edited]).length = 157 ∧ (octetsOf [started, edited]).length = 319 := by
  decide +kernel

theorem newest_edited {bound : Nat} (fits : 157 ≤ bound) (cut : bound < 319) :
    Newest bound [started, edited] [edited] := by
  obtain ⟨single, both⟩ := length_octetsOf_startedAndEdited
  exact (newest_self (by omega)).cons (by omega)

/-- A project with the two events in its log. -/
def startedAndEdited : Disk :=
  (newLogs.writeAll newProject [⟨started, none⟩, ⟨edited, none⟩]).1

theorem read_startedAndEdited :
    startedAndEdited.read newLogs.globalLog = .ok (octetsOf [started, edited]) :=
  @Sink.Fresh.read_writeAll _ _ _ .project _ fresh_newLogs (by simp) trivial (List.cons_ne_nil _ _)

theorem readLog_newest_of_cut_line :
    Sink.readLog ⟨newLogs.logs, 200, .usual⟩ startedAndEdited newLogs.globalLog =
        .ok [edited.stored] ∧
      Sink.query ⟨newLogs.logs, 200, .usual⟩ startedAndEdited ⟨"", "", "", ""⟩ 5 =
        .ok [edited.stored] := by
  obtain ⟨kept, read, _, query, newest, _⟩ :=
    @Sink.readLog_newest ⟨newLogs.logs, 200, .usual⟩ _ _ 200 _ rfl
      writable_startedAndEdited read_startedAndEdited
  obtain ⟨_, both⟩ := length_octetsOf_startedAndEdited
  rw [if_neg (by omega)] at newest
  rw [newest.unique (newest_edited (by omega) (by omega))] at read query
  exact ⟨read, query rfl 5⟩

/-- An event that fits exactly is not read behind the cut. -/
theorem readLog_of_exact_fit :
    startedAndEdited.read newLogs.globalLog = .ok (octetsOf [started, edited]) ∧
      Newest 157 [started, edited] [edited] ∧
      Sink.readLog ⟨newLogs.logs, 157, .usual⟩ startedAndEdited newLogs.globalLog = .ok [] := by
  have cut : tail 157 (octetsOf [started, edited]) = [] := by decide +kernel
  refine ⟨read_startedAndEdited, newest_edited (by omega) (by omega), ?_⟩
  refine (@Sink.readLog_of_read ⟨newLogs.logs, 157, .usual⟩ _ _ _ (by decide)
    read_startedAndEdited).trans ?_
  exact congrArg (valuesOfOctets _) cut

end Spreadsheet.Journal
