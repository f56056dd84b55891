import Spreadsheet.CommandLine.Program
import Spreadsheet.Proofs.Sheet.Agreement
import Spreadsheet.Proofs.Sheet.File

/-! Commands that edit a sheet file, next to the same edits on a sheet in memory: what they
leave in the file, what they print, and when they fail. -/

set_option autoImplicit false

namespace Spreadsheet.CommandLine

/-- The commands that edit a sheet file, with the words behind its name. -/
inductive FileEdit where
  | set (id : String) (words : List String)
  | delete (id : String)

namespace FileEdit

def edit : FileEdit → Edit
  | set id words => .set id (some (" ".intercalate words))
  | delete id => .delete id

def run (name : String) (host : Host) : FileEdit → Run
  | set id words => Subcommand.set.run host ⟨[], name :: id :: words⟩ []
  | delete id => Subcommand.delete.run host ⟨[], [name, id]⟩ []

/-- The contents would end their line, blanks around them aside. -/
def Breaks : FileEdit → Prop
  | set _ words => ∃ c ∈ Sheet.typed (some (" ".intercalate words)), Text.EndsLine c
  | delete _ => False

/-- The command needs a file, and the name leads to none as it was typed. -/
def Misses (disk : Disk) (name : String) : FileEdit → Prop
  | set _ _ => False
  | delete _ => ¬ ∃ octets, disk.stat name = .ok (.file octets)

/-- What is told of a sheet after the edit: the edited cell, and the cells that were evaluated
anew with their values. -/
def report (sheet : Sheet) (updated : List String) (command : FileEdit) : String :=
  let head :=
    match command with
    | set id _ => s!"{id} = {sheet.display id}\n"
    | delete id => s!"Deleted {id}\n"
  plain (head ++ String.join (updated.map fun id => s!"  {id} = {sheet.display id}\n"))

end FileEdit

/-- A disk with a sheet file, and a sheet in memory. -/
structure Mirror where
  disk : Disk
  sheet : Sheet

namespace Mirror

/-- One more run on the file. The same edit is made in memory if the run ends well. -/
def after (name : String) (mirror : Mirror) (call : Host × FileEdit) : Mirror :=
  let run := call.2.run name { call.1 with disk := mirror.disk }
  ⟨run.host.disk,
    if run.ending = .finished then (mirror.sheet.apply call.2.edit).1 else mirror.sheet⟩

/-- The file holds what is in memory. -/
def Matches (name : String) (mirror : Mirror) : Prop :=
  ∃ stored, Sheet.InFile mirror.disk (Path.ofText name) stored ∧
    Sheet.Unchanged mirror.sheet stored

end Mirror

/-- What a run on a file does, told by the sheet in memory. -/
structure Answers (name : String) (mirror : Mirror) (command : FileEdit) (run : Run) : Prop where
  fails : run.ending ≠ .finished ↔
    (∃ error, (mirror.sheet.apply command.edit).2 = .error error) ∨ command.Breaks ∨
      command.Misses mirror.disk name
  kept : run.ending ≠ .finished → run.host.disk = mirror.disk
  output : run.ending = .finished → ∃ updated,
    (mirror.sheet.apply command.edit).2 = .ok updated ∧
      run.output = command.report (mirror.sheet.apply command.edit).1 updated

/-! ### Up to the edit -/

section Found

variable {host : Host} {name : String} {stored : Sheet}

private theorem check_anyFile (inFile : Sheet.InFile host.disk (Path.ofText name) stored) :
    PathRule.anyFile.check host.disk name = .ok () := by
  obtain ⟨goal, place, tidied, writable⟩ := inFile.writable
  unfold PathRule.check
  split
  · rename_i directory
    obtain ⟨here, found⟩ := Disk.stat_eq_ok_iff.1 directory
    rw [Disk.target_ofText found tidied] at writable
    cases writable
  · rfl
  · rename_i null
    have inside := (Disk.stat_eq_null_iff ..).1 null
    exact absurd (Path.mem_text_ofText inside (by decide) (by decide))
      (Disk.target_eq_ok_iff.1 tidied).1.1
  · rfl

/-- A name that leads to a file leads to the one that its path leads to. -/
theorem load_of_stat (inFile : Sheet.InFile host.disk (Path.ofText name) stored)
    {octets : List UInt8} (file : host.disk.stat name = .ok (.file octets)) :
    Sheet.load host.disk (Path.ofText name) = .ok stored := by
  cases inFile with
  | loaded loaded => exact loaded
  | missing free =>
      obtain ⟨place, found⟩ := Disk.stat_eq_ok_iff.1 file
      cases Disk.target_ofText found free

theorem sheetIn_of_load (loaded : Sheet.load host.disk (Path.ofText name) = .ok stored) :
    sheetIn host.disk (Path.ofText name) name = .ok stored := by
  rw [sheetIn, loaded]

private theorem isThere_of_load (loaded : Sheet.load host.disk (Path.ofText name) = .ok stored) :
    isThere host.disk (Path.ofText name) = .ok true := by
  obtain ⟨place, octets, found, _⟩ := Sheet.load_eq_ok_iff.1 loaded
  rw [isThere, Disk.exists?_of_entry found]
  rfl

private theorem isThere_of_vacant {place : Place}
    (free : host.disk.target (Path.ofText name).text = .ok (.vacant place)) :
    isThere host.disk (Path.ofText name) = .ok false := by
  rw [isThere, Disk.exists?_of_vacant free]
  rfl

end Found

/-- A run that has come to the edit. -/
private def attempt (host : Host) (name : String) (stored : Sheet) (command : FileEdit)
    (refusal : EditError → String) : Run :=
  match stored.apply command.edit with
  | (_, .error error) => ⟨host, "", .refused (refusal error)⟩
  | (after, .ok updated) =>
    storeSheet host after name fun host => ⟨host, command.report after updated, .finished⟩

private theorem run_set {host : Host} {name : String} {stored : Sheet} (id : String)
    (words : List String) (inFile : Sheet.InFile host.disk (Path.ofText name) stored) :
    ∃ refusal, FileEdit.run name host (.set id words) =
      attempt host name stored (.set id words) refusal := by
  let contents := " ".intercalate words
  refine ⟨fun error => s!"Could not set cell {id} to {contents}:\n{error.message}", ?_⟩
  have checked := check_anyFile inFile
  cases inFile with
  | loaded loaded =>
      simp only [FileEdit.run, Subcommand.run, editCell, requiredPath, required, checked,
        isThere_of_load loaded, sheetIn_of_load loaded, bind, Except.bind, pure, Except.pure,
        Run.follow, if_true]
      rfl
  | missing free =>
      simp only [FileEdit.run, Subcommand.run, editCell, requiredPath, required, checked,
        isThere_of_vacant free, bind, Except.bind, pure, Except.pure, Run.follow, if_false,
        Bool.false_eq_true]
      rfl

private theorem run_delete {host : Host} {name id : String} {stored : Sheet}
    (inFile : Sheet.InFile host.disk (Path.ofText name) stored) {octets : List UInt8}
    (file : host.disk.stat name = .ok (.file octets)) :
    FileEdit.run name host (.delete id) =
      attempt host name stored (.delete id) EditError.message := by
  have loaded := load_of_stat inFile file
  have checked : PathRule.knownFile.check host.disk name = .ok () := by
    rw [PathRule.check, file]
    rfl
  simp only [FileEdit.run, Subcommand.run, clearCell, pathAndCell, requiredPath, required,
    nothingMore, checked, sheetIn_of_load loaded, bind, Except.bind, pure, Except.pure, Run.follow]
  rfl

private theorem run_of_misses {host : Host} {name : String} {command : FileEdit}
    (misses : command.Misses host.disk name) :
    ∃ ending, ending ≠ .finished ∧ command.run name host = ⟨host, "", ending⟩ := by
  cases command with
  | set => exact misses.elim
  | delete id =>
      have refused : ∃ ending, ending ≠ .finished ∧
          PathRule.knownFile.check host.disk name = .error ending := by
        unfold PathRule.check
        split
        · exact ⟨.misused, by simp, rfl⟩
        · rename_i octets file
          exact absurd ⟨octets, file⟩ misses
        · exact ⟨_, by simp, rfl⟩
        · exact ⟨.misused, by simp, rfl⟩
      obtain ⟨ending, fails, refused⟩ := refused
      refine ⟨ending, fails, ?_⟩
      simp only [FileEdit.run, Subcommand.run, clearCell, pathAndCell, requiredPath, required,
        refused, bind, Except.bind, Run.follow]

/-! ### From the edit on -/

theorem FileEdit.breaks_iff {command : FileEdit} :
    command.Breaks ↔ ∃ text, command.edit.text? = some text ∧ ∃ c ∈ text.toList, Text.EndsLine c := by
  cases command with
  | delete id => exact ⟨False.elim, by rintro ⟨_, ⟨⟩, _⟩⟩
  | set id words =>
      have text_iff : ∀ text, (FileEdit.set id words).edit.text? = some text ↔
          Cell.trimmed (" ".intercalate words) = text ∧ text ≠ "" := by
        intro text
        change (some (Cell.trimmed (" ".intercalate words))).filter (· ≠ "") = some text ↔ _
        rw [Option.filter_eq_some_iff, Option.some.injEq, decide_eq_true_eq]
      have typed : Sheet.typed (some (" ".intercalate words)) =
          (Cell.trimmed (" ".intercalate words)).toList := String.toList_ofList.symm
      simp only [text_iff]
      rw [Breaks, typed]
      constructor
      · intro breaks
        obtain ⟨c, inside, ends⟩ := breaks
        refine ⟨_, ⟨rfl, ?_⟩, c, inside, ends⟩
        intro blank
        rw [blank] at inside
        cases inside
      · rintro ⟨_, ⟨rfl, _⟩, breaks⟩
        exact breaks

/-- How a run on the file goes, with the reason where it fails. -/
private inductive Course (name : String) (mirror : Mirror) (command : FileEdit) : Run → Prop where
  | failed {host : Host} {output : String} {ending : Ending} : host.disk = mirror.disk →
      ending ≠ .finished →
      (∃ error, (mirror.sheet.apply command.edit).2 = .error error) ∨ command.Breaks ∨
        command.Misses mirror.disk name →
      Course name mirror command ⟨host, output, ending⟩
  | done {host : Host} {updated : List String} :
      (mirror.sheet.apply command.edit).2 = .ok updated → ¬ command.Breaks →
      ¬ command.Misses mirror.disk name →
      Mirror.Matches name ⟨host.disk, (mirror.sheet.apply command.edit).1⟩ →
      Course name mirror command
        ⟨host, command.report (mirror.sheet.apply command.edit).1 updated, .finished⟩

section Course

variable {name : String} {mirror : Mirror} {command : FileEdit} {host : Host} {run : Run}

private theorem Course.answers (course : Course name mirror command run) :
    Answers name mirror command run := by
  cases course with
  | failed same fails reason =>
      exact ⟨iff_of_true fails reason, fun _ => same, fun finished => absurd finished fails⟩
  | done accepted whole found _ =>
      refine ⟨iff_of_false (fun fails => fails rfl) ?_, fun fails => absurd rfl fails,
        fun _ => ⟨_, accepted, rfl⟩⟩
      rintro (⟨error, refused⟩ | breaks | misses)
      · rw [accepted] at refused
        cases refused
      · exact whole breaks
      · exact found misses

private theorem FileEdit.report_of_unchanged (command : FileEdit) {memory other : Sheet}
    (same : memory.Unchanged other) (updated : List String) :
    command.report other updated = command.report memory updated := by
  unfold report
  rw [same.display_eq]

private theorem course_attempt (same : host.disk = mirror.disk) {stored : Sheet}
    (inFile : Sheet.InFile host.disk (Path.ofText name) stored)
    (unchanged : mirror.sheet.Unchanged stored) (found : ¬ command.Misses mirror.disk name)
    (refusal : EditError → String) :
    Course name mirror command (attempt host name stored command refusal) := by
  obtain ⟨edits, rfl⟩ := inFile.edits
  have settled := Sheet.settled_ofEdits edits
  obtain ⟨answer, follows⟩ :=
    unchanged.apply (unchanged.symm.settled settled).consistent command.edit
  have settledAfter := settled.apply command.edit
  have addressedAfter := (Sheet.addressed_ofEdits edits).apply settled command.edit
  have oneLine_iff := fun updated =>
    @Sheet.OneLine.apply_iff (Sheet.ofEdits edits) command.edit updated inFile.oneLine settled
  unfold attempt
  generalize (Sheet.ofEdits edits).apply command.edit = result at *
  obtain ⟨after, error | updated⟩ := result
  · exact .failed same (by simp) (.inl ⟨error, answer.symm⟩)
  · dsimp only at answer follows settledAfter addressedAfter oneLine_iff ⊢
    have report := command.report_of_unchanged follows updated
    by_cases breaks : command.Breaks
    · have broken : ¬ after.OneLine := fun oneLine =>
        (oneLine_iff updated rfl).1 oneLine (FileEdit.breaks_iff.1 breaks)
      obtain ⟨error, refused⟩ := Sheet.save_of_not_oneLine host.disk (Path.ofText name) broken
      rw [storeSheet, refused]
      exact .failed same (by simp) (.inr (.inl breaks))
    · obtain ⟨goal, place, target, writable⟩ := inFile.writable
      obtain ⟨disk, saved, loaded, read, kept⟩ := Sheet.save_of_oneLine settledAfter addressedAfter
        ((oneLine_iff updated rfl).2 (mt FileEdit.breaks_iff.2 breaks)) target writable
      rw [storeSheet, saved]
      dsimp only
      rw [report]
      exact .done answer.symm breaks found ⟨loaded, .loaded read, follows.trans kept⟩

private theorem course_run (same : host.disk = mirror.disk) (holds : mirror.Matches name) :
    Course name mirror command (command.run name host) := by
  obtain ⟨stored, inFile, unchanged⟩ := holds
  rw [← same] at inFile
  by_cases misses : command.Misses mirror.disk name
  · rw [← same] at misses
    obtain ⟨ending, fails, run⟩ := run_of_misses misses
    rw [run]
    exact .failed same fails (.inr (.inr (same ▸ misses)))
  · cases command with
    | set id words =>
        obtain ⟨refusal, run⟩ := run_set id words inFile
        rw [run]
        exact course_attempt same inFile unchanged misses refusal
    | delete id =>
        have file : ∃ octets, host.disk.stat name = .ok (.file octets) := by
          rw [same]
          exact not_not.1 misses
        obtain ⟨octets, file⟩ := file
        rw [run_delete inFile file]
        exact course_attempt same inFile unchanged misses _

private theorem Course.after (course : Course name mirror command run)
    (holds : mirror.Matches name) :
    Mirror.Matches name ⟨run.host.disk,
      if run.ending = .finished then (mirror.sheet.apply command.edit).1 else mirror.sheet⟩ := by
  cases course with
  | failed same fails =>
      rw [if_neg fails]
      dsimp only
      rwa [same]
  | done _ _ _ holdsAfter => exact holdsAfter

end Course

/-- The match between file and memory is kept by every run. -/
theorem Mirror.Matches.after {name : String} {mirror : Mirror} (holds : mirror.Matches name)
    (call : Host × FileEdit) : (mirror.after name call).Matches name :=
  (course_run rfl holds).after holds

theorem Mirror.Matches.foldl {name : String} {mirror : Mirror} (holds : mirror.Matches name)
    (calls : List (Host × FileEdit)) : (calls.foldl (Mirror.after name) mirror).Matches name := by
  induction calls generalizing mirror with
  | nil => exact holds
  | cons call rest ih => exact ih (holds.after call)

end Spreadsheet.CommandLine
