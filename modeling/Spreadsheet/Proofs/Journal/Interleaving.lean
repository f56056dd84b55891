import Mathlib.Logic.Function.Basic
import Spreadsheet.Proofs.Journal.Log

/-! Sessions that write to the logs of one project at the same time. The line of an event goes
to the log of the project first and to that of its session later, and the lines of other
sessions may come in between. -/

set_option autoImplicit false

namespace Spreadsheet

/-- The texts of a family in one text, each in its own order. -/
inductive Shuffle {ι α : Type} [DecidableEq ι] : (ι → List α) → List α → Prop where
  | nil : Shuffle (fun _ => []) []
  | cons {parts : ι → List α} {whole : List α} (i : ι) (first : α) : Shuffle parts whole →
      Shuffle (Function.update parts i (first :: parts i)) (first :: whole)

/-- The parts of a text of which each item has a mark. -/
def marked {ι α : Type} [DecidableEq ι] (items : List (ι × α)) (i : ι) : List α :=
  (items.filter fun item => item.1 = i).map Prod.snd

section Marked

variable {ι α : Type} [DecidableEq ι]

theorem marked_append (first second : List (ι × α)) (i : ι) :
    marked (first ++ second) i = marked first i ++ marked second i := by
  rw [marked, List.filter_append, List.map_append]
  rfl

theorem marked_singleton (item : ι × α) (i : ι) :
    marked [item] i = if i = item.1 then [item.2] else [] := by
  by_cases same : i = item.1 <;> simp [marked, same, eq_comm]

private theorem marked_cons (item : ι × α) (rest : List (ι × α)) :
    marked (item :: rest) =
      Function.update (marked rest) item.1 (item.2 :: marked rest item.1) := by
  funext i
  by_cases same : i = item.1
  · subst same
    simp [marked]
  · simp [marked, same, Ne.symm same]

private theorem shuffle_marked (items : List (ι × α)) :
    Shuffle (marked items) (items.map Prod.snd) := by
  induction items with
  | nil => exact .nil
  | cons item rest ih =>
      rw [marked_cons]
      exact .cons item.1 item.2 ih

end Marked

namespace Journal

/-- A session as far as its writing goes: the events it will write, and the one that is in the
log of the project but not in its own yet. -/
structure Writer where
  pending : List Event
  begun : Option Event

/-- The logs on a disk and the sessions that write to them, by name. -/
structure Writers where
  disk : Disk
  writer : String → Writer

inductive Addition where
  | shared (name : String) (event : Event)
  | kept (name : String) (event : Event)

/-- A step of one session: the next event goes to the log of the project, or the one that is
there already goes to its own. -/
inductive Step (sink : Sink) : Writers → Addition → Writers → Prop where
  | share {disk after : Disk} {writer : String → Writer} {name : String} {event : Event}
      {rest : List Event} : writer name = ⟨event :: rest, none⟩ →
      Sink.appendLine disk sink.globalLog event.line = (after, .ok ()) →
      Step sink ⟨disk, writer⟩ (.shared name event)
        ⟨after, Function.update writer name ⟨rest, some event⟩⟩
  | keep {disk after : Disk} {writer : String → Writer} {name : String} {event : Event}
      {rest : List Event} : writer name = ⟨rest, some event⟩ →
      Sink.appendLine disk (sink.sessionLog name) event.line = (after, .ok ()) →
      Step sink ⟨disk, writer⟩ (.kept name event)
        ⟨after, Function.update writer name ⟨rest, none⟩⟩

/-- The states that some sessions can come to, with the additions so far. -/
inductive Reaches (sink : Sink) (start : Writers) : List Addition → Writers → Prop where
  | start : Reaches sink start [] start
  | step {additions : List Addition} {addition : Addition} {now next : Writers} :
      Reaches sink start additions now → Step sink now addition next →
      Reaches sink start (additions ++ [addition]) next

namespace Addition

def shared? : Addition → Option (String × Event)
  | shared name event => some (name, event)
  | kept _ _ => none

def kept? : Addition → Option (String × Event)
  | shared _ _ => none
  | kept name event => some (name, event)

end Addition

/-- The events that have gone to the log of the project, with their sessions. -/
def sharedEvents (additions : List Addition) : List (String × Event) :=
  additions.filterMap Addition.shared?

/-- The events that have gone to the log of a session. -/
def keptEvents (additions : List Addition) : String → List Event :=
  marked (additions.filterMap Addition.kept?)

/-- How the logs stand to each other after some additions. -/
structure InStep (sink : Sink) (root : Place) (start : Writers) (additions : List Addition)
    (now : Writers) : Prop where
  stands : sink.Stands now.disk root
  project : now.disk.octetsAt (Log.project.place root) =
    Text.Utf8.encode ((sharedEvents additions).flatMap fun item => item.2.line)
  session : ∀ name, now.disk.octetsAt ((Log.session name).place root) =
    Text.Utf8.encode ((keptEvents additions name).flatMap Event.line)
  ahead : ∀ name, marked (sharedEvents additions) name =
    keptEvents additions name ++ (now.writer name).begun.toList
  inOrder : ∀ name, (start.writer name).pending =
    marked (sharedEvents additions) name ++ (now.writer name).pending

section Additions

variable (additions : List Addition) (name : String) (event : Event)

theorem sharedEvents_shared : sharedEvents (additions ++ [.shared name event]) =
    sharedEvents additions ++ [(name, event)] := List.filterMap_append

theorem sharedEvents_kept :
    sharedEvents (additions ++ [.kept name event]) = sharedEvents additions :=
  List.filterMap_append.trans (List.append_nil _)

theorem keptEvents_shared :
    keptEvents (additions ++ [.shared name event]) = keptEvents additions :=
  congrArg marked (List.filterMap_append.trans (List.append_nil _))

theorem keptEvents_kept (other : String) :
    keptEvents (additions ++ [.kept name event]) other =
      keptEvents additions other ++ if other = name then [event] else [] := by
  rw [keptEvents, List.filterMap_append, marked_append, ← keptEvents]
  exact congrArg _ (marked_singleton (name, event) other)

end Additions

section Steps

variable {sink : Sink} {root : Place} {start now next : Writers} {additions : List Addition}
  {addition : Addition}

private theorem InStep.pending_ne_nil (agree : InStep sink root start additions now) {name : String}
    {event : Event} (begun : (now.writer name).begun = some event) :
    (start.writer name).pending ≠ [] := by
  rw [agree.inOrder, agree.ahead, begun]
  simp

theorem InStep.step (agree : InStep sink root start additions now)
    (safe : ∀ name, (start.writer name).pending ≠ [] → isSafeName name = true)
    (step : Step sink now addition next) :
    InStep sink root start (additions ++ [addition]) next := by
  cases step with
  | @share disk after writer name event rest turn added =>
      have project : Log.project.Safe := trivial
      have extended := agree.stands.extends_of_appendLine project added
      refine ⟨agree.stands.keeps extended.keeps, ?_, fun other => ?_, fun other => ?_,
        fun other => ?_⟩
      · rw [extended.octets, if_pos rfl, agree.project, sharedEvents_shared, List.flatMap_append,
          Text.Utf8.encode_append, List.flatMap_singleton]
      · rw [extended.octets, if_neg nofun, agree.session, keptEvents_shared]
        exact List.append_nil _
      · rw [sharedEvents_shared, marked_append, agree.ahead, keptEvents_shared, marked_singleton]
        by_cases same : other = name
        · subst same
          simp [turn]
        · simp [same]
      · rw [sharedEvents_shared, marked_append, agree.inOrder, marked_singleton]
        by_cases same : other = name
        · subst same
          simp [turn]
        · simp [same]
  | @keep disk after writer name event rest turn added =>
      have begun : (writer name).begun = some event := by rw [turn]
      have own : (Log.session name).Safe := safe name (agree.pending_ne_nil begun)
      have extended := agree.stands.extends_of_appendLine own added
      refine ⟨agree.stands.keeps extended.keeps, ?_, fun other => ?_, fun other => ?_,
        fun other => ?_⟩
      · rw [extended.octets, if_neg nofun, agree.project, sharedEvents_kept]
        exact List.append_nil _
      · rw [extended.octets, agree.session, keptEvents_kept, List.flatMap_append,
          Text.Utf8.encode_append]
        by_cases same : other = name
        · subst same
          simp
        · simp [same]
      · rw [sharedEvents_kept, agree.ahead, keptEvents_kept]
        by_cases same : other = name
        · subst same
          simp [turn]
        · simp [same]
      · rw [sharedEvents_kept, agree.inOrder]
        by_cases same : other = name
        · subst same
          simp [turn]
        · simp [same]

theorem Reaches.inStep (reaches : Reaches sink start additions now)
    (stands : sink.Stands start.disk root)
    (blank : ∀ log : Log, start.disk.octetsAt (log.place root) = [])
    (idle : ∀ name, (start.writer name).begun = none)
    (safe : ∀ name, (start.writer name).pending ≠ [] → isSafeName name = true) :
    InStep sink root start additions now := by
  induction reaches with
  | start =>
      refine ⟨stands, blank .project, fun name => blank (.session name), fun name => ?_,
        fun _ => rfl⟩
      rw [idle]
      rfl
  | step _ step ih => exact ih.step safe step

/-- A write that nothing comes in between is the two steps of its session. -/
theorem exists_steps_of_append {disk after : Disk} {writer : String → Writer} {name : String}
    {event : Event} {rest : List Event} (turn : writer name = ⟨event :: rest, none⟩)
    (safe : isSafeName name = true)
    (written : sink.append disk event (some name) = (after, .ok ())) :
    ∃ middle : Writers, Step sink ⟨disk, writer⟩ (.shared name event) middle ∧
      Step sink middle (.kept name event) ⟨after, Function.update writer name ⟨rest, none⟩⟩ := by
  unfold Sink.append at written
  split at written
  · cases written
  · rename_i middle first
    dsimp only at written
    rw [if_pos safe] at written
    refine ⟨_, .share turn first, ?_⟩
    have second : Step sink _ _ _ :=
      .keep (Function.update_self name ⟨rest, some event⟩ writer) written
    rwa [Function.update_idem] at second

/-- Whatever the order of the steps, the log of the project holds the events that were begun, and
those of a session in it are those in its own log and at most one more. With no write on the way
it is a shuffle of the logs of the sessions. -/
theorem Reaches.logs_in_step (reaches : Reaches sink start additions now)
    (stands : sink.Stands start.disk root)
    (blank : ∀ log : Log, start.disk.octetsAt (log.place root) = [])
    (idle : ∀ name, (start.writer name).begun = none)
    (names : ∀ name, (start.writer name).pending ≠ [] →
      name ≠ "" ∧ ∀ c ∈ name.toList, isNameChar c = true) :
    InStep sink root start additions now ∧
      ((∀ name, (now.writer name).begun = none) →
        Shuffle (keptEvents additions) ((sharedEvents additions).map Prod.snd)) := by
  have agree := reaches.inStep stands blank idle fun name pending =>
    isSafeName_of_all (names name pending).1 (names name pending).2
  refine ⟨agree, fun settled => ?_⟩
  have same : marked (sharedEvents additions) = keptEvents additions := by
    funext name
    rw [agree.ahead, settled]
    exact List.append_nil _
  rw [← same]
  exact shuffle_marked (sharedEvents additions)

/-- Two sessions, the first of which is overtaken by the other. -/
theorem logs_in_step_of_overtaking :
    let event (text : String) : Event := ⟨"t", .info, .cellSet, [], text, none⟩
    let start : Writers := ⟨newProject, fun name =>
      if name = "a" then ⟨[event "x"], none⟩ else if name = "b" then ⟨[event "y"], none⟩
      else ⟨[], none⟩⟩
    let additions : List Addition :=
      [.shared "a" (event "x"), .shared "b" (event "y"), .kept "b" (event "y")]
    ∃ now, Reaches newLogs start additions now ∧ InStep newLogs ["logs"] start additions now := by
  intro event start additions
  have first : SessionName "a" := ⟨by decide, List.all_eq_true.1 rfl, by decide⟩
  have second : SessionName "b" := ⟨by decide, List.all_eq_true.1 rfl, by decide⟩
  have project : Log.project.Short := trivial
  obtain ⟨disk₁, added₁⟩ :=
    stands_newLogs.exists_appendLine project.safe (takes_newLogs project) (event "x").line
  have step₁ := stands_newLogs.extends_of_appendLine project.safe added₁
  have stands₁ := stands_newLogs.keeps step₁.keeps
  obtain ⟨disk₂, added₂⟩ := stands₁.exists_appendLine project.safe
    ((step₁.takes _).2 (takes_newLogs project)) (event "y").line
  have step₂ := step₁.trans (stands₁.extends_of_appendLine project.safe added₂)
  have stands₂ := stands_newLogs.keeps step₂.keeps
  obtain ⟨disk₃, added₃⟩ := stands₂.exists_appendLine second.log_short.safe
    ((step₂.takes _).2 (takes_newLogs second.log_short)) (event "y").line
  have reaches : Reaches newLogs start additions ⟨disk₃, _⟩ :=
    ((Reaches.start.step (.share rfl added₁)).step (.share rfl added₂)).step (.keep rfl added₃)
  refine ⟨_, reaches, (reaches.logs_in_step stands_newLogs
    (fun log => by rw [Disk.octetsAt, get?_newProject]) (fun name => ?_) fun name pending => ?_).1⟩
  · dsimp only [start]
    split
    · rfl
    · split <;> rfl
  · dsimp only [start] at pending
    split at pending
    · rename_i same
      exact same ▸ ⟨first.filled, first.chars⟩
    · split at pending
      · rename_i same
        exact same ▸ ⟨second.filled, second.chars⟩
      · exact absurd rfl pending

end Steps

end Journal

end Spreadsheet
