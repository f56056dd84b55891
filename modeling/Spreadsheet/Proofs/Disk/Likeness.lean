import Spreadsheet.Proofs.Disk.Place

/-! Disks with the same directories and files, of which some have other contents. What is done
without opening one of these does the same on both. -/

set_option autoImplicit false

namespace Spreadsheet

theorem except_map_cases {ε α β : Type} {f : α → β} {first second : Except ε α}
    (same : second.map f = first.map f) :
    (∃ error, first = .error error ∧ second = .error error) ∨
      ∃ here there, first = .ok here ∧ second = .ok there ∧ f there = f here := by
  cases first with
  | error error =>
      cases second with
      | error other => exact .inl ⟨error, rfl, congrArg _ (Except.error.inj same)⟩
      | ok there => cases same
  | ok here =>
      cases second with
      | error other => cases same
      | ok there => exact .inr ⟨here, there, rfl, rfl, Except.ok.inj same⟩

/-- What can be told of an entry that is not opened. -/
def Entry.closed : Entry → Entry
  | .directory => .directory
  | .file _ => .file []

def Target.closed : Target → Target
  | .entry place here => .entry place here.closed
  | .vacant place => .vacant place

namespace Disk

/-- Directories and files stand at the same places, and what is opened is the same. -/
structure Alike (opened : Place → Prop) (first second : Disk) : Prop where
  workingPlace : second.workingPlace = first.workingPlace
  closed : ∀ place, (second.get? place).map Entry.closed = (first.get? place).map Entry.closed
  contents : ∀ place, opened place → second.get? place = first.get? place

/-- Two disks give one answer, and are alike behind it. -/
structure AnswerAlike {α : Type} (opened : Place → Prop) (first second : Disk × α) : Prop where
  answer : second.2 = first.2
  alike : Alike opened first.1 second.1

theorem AnswerAlike.exists_eq {α : Type} {opened : Place → Prop} {first second : Disk × α}
    {after : Disk} {answer : α} (both : AnswerAlike opened first second)
    (result : first = (after, answer)) :
    ∃ other, second = (other, answer) ∧ Alike opened after other := by
  obtain ⟨other, _⟩ := second
  obtain ⟨same, alike⟩ := both
  cases result
  cases same
  exact ⟨other, rfl, alike⟩

namespace Alike

variable {opened : Place → Prop} {first second : Disk} {path : Path}
  (alike : Alike opened first second)

include alike

theorem get?_cases (place : Place) : second.get? place = first.get? place ∨
    ∃ octets other, first.get? place = some (.file octets) ∧
      second.get? place = some (.file other) := by
  have closed := alike.closed place
  cases here : first.get? place with
  | none =>
      rw [here, Option.map_none, Option.map_eq_none_iff] at closed
      exact .inl closed
  | some entry =>
      rw [here, Option.map_some, Option.map_eq_some_iff] at closed
      obtain ⟨other, there, closed⟩ := closed
      cases entry <;> cases other <;> cases closed
      · exact .inl there
      · exact .inr ⟨_, _, rfl, there⟩

theorem follow_eq (place : Place) (names : List String) :
    (second.follow place names).map Target.closed =
      (first.follow place names).map Target.closed := by
  induction names generalizing place with
  | nil =>
      unfold follow
      rcases alike.get?_cases place with same | ⟨_, _, here, there⟩
      · rw [same]
      · rw [here, there]
        rfl
  | cons name rest ih =>
      unfold follow
      rcases alike.get?_cases place with same | ⟨_, _, here, there⟩
      · rw [same]
        split
        · rfl
        · rfl
        · split
          · rfl
          · rcases alike.get?_cases (enter place name) with same | ⟨_, _, here, there⟩
            · rw [same]
              split
              · rfl
              · exact ih _
            · rw [here, there]
              exact ih _
      · rw [here, there]

theorem target_eq (text : String) :
    (second.target text).map Target.closed = (first.target text).map Target.closed := by
  have start : second.startOf text = first.startOf text := by
    rw [startOf, startOf, alike.workingPlace]
  have followed := alike.follow_eq (first.startOf text) ((Path.parts text.toList).map String.ofList)
  rw [target, target, start]
  rcases except_map_cases followed with
    ⟨cause, here, there⟩ | ⟨goal, other, here, there, same⟩
  · rw [here, there]
  · rw [here, there]
    split
    · rfl
    · split
      · rfl
      · split
        · rfl
        · exact congrArg Except.ok same

private theorem stat_eq (text : String) :
    (second.stat text).map Entry.closed = (first.stat text).map Entry.closed := by
  unfold stat
  rcases except_map_cases (alike.target_eq text) with
    ⟨error, here, there⟩ | ⟨goal, other, here, there, same⟩
  · rw [here, there]
  · rw [here, there]
    cases goal with
    | vacant place =>
        cases other with
        | vacant => rfl
        | entry => cases same
    | entry place present =>
        cases other with
        | vacant => cases same
        | entry => exact congrArg Except.ok (Target.entry.inj same).2

private theorem isDirectory_eq (path : Path) :
    second.isDirectory path = first.isDirectory path := by
  unfold isDirectory look
  rcases except_map_cases (alike.stat_eq path.text) with
    ⟨error, here, there⟩ | ⟨entry, other, here, there, same⟩
  · rw [here, there]
  · rw [here, there]
    cases entry <;> cases other <;> cases same <;> rfl

theorem tolerate_eq (path : Path) (error : DiskError) :
    second.tolerate path error = first.tolerate path error := by
  unfold tolerate
  rw [alike.isDirectory_eq]

theorem put (place : Place) (entry : Entry) :
    Alike opened (first.put place entry) (second.put place entry) := by
  refine ⟨alike.workingPlace, fun other => ?_, fun other within => ?_⟩
  · rw [get?_put, get?_put]
    split
    · rfl
    · split
      · rfl
      · exact alike.closed other
  · rw [get?_put, get?_put, alike.contents other within]

/-! ### Making directories -/

theorem makeDirectory (path : Path) :
    AnswerAlike opened (first.makeDirectory path) (second.makeDirectory path) := by
  unfold Disk.makeDirectory
  rcases except_map_cases (alike.target_eq path.text) with
    ⟨error, here, there⟩ | ⟨goal, other, here, there, same⟩
  · rw [here, there]
    exact ⟨rfl, alike⟩
  · rw [here, there]
    cases goal with
    | vacant place =>
        cases other with
        | vacant =>
            cases same
            exact ⟨rfl, alike.put place .directory⟩
        | entry => cases same
    | entry place present =>
        cases other with
        | vacant => cases same
        | entry => exact ⟨rfl, alike⟩

theorem ensureDirectory (path : Path) :
    AnswerAlike opened (first.ensureDirectory path) (second.ensureDirectory path) := by
  have made := alike.makeDirectory path
  fun_cases Disk.ensureDirectory first path with
  | case1 after result | case2 after at? result =>
      obtain ⟨other, there, alike⟩ := made.exists_eq result
      rw [Disk.ensureDirectory, there]
      exact ⟨rfl, alike⟩
  | case3 after error found result =>
      obtain ⟨other, there, alike⟩ := made.exists_eq result
      unfold Disk.ensureDirectory
      rw [there]
      split <;> rename_i same <;> cases same
      · exact absurd rfl (found _)
      · exact ⟨alike.tolerate_eq path error, alike⟩

theorem ensureDirectories (path : Path) :
    AnswerAlike opened (first.ensureDirectories path) (second.ensureDirectories path) := by
  fun_induction Disk.ensureDirectories first path generalizing second with
  | case1 first path after result =>
      obtain ⟨other, there, alike⟩ := (alike.makeDirectory path).exists_eq result
      rw [Disk.ensureDirectories, there]
      exact ⟨rfl, alike⟩
  | case2 first path after at? result bare =>
      obtain ⟨other, there, alike⟩ := (alike.makeDirectory path).exists_eq result
      rw [Disk.ensureDirectories, there]
      dsimp only
      rw [dif_pos bare]
      exact ⟨rfl, alike⟩
  | case3 first path after at? result filled above madeAbove ih =>
      obtain ⟨other, there, alike⟩ := (alike.makeDirectory path).exists_eq result
      obtain ⟨further, madeThere, alike⟩ := (ih alike).exists_eq madeAbove
      rw [Disk.ensureDirectories, there]
      dsimp only
      rw [dif_neg filled, madeThere]
      exact alike.ensureDirectory path
  | case4 first path after at? result filled above error madeAbove ih =>
      obtain ⟨other, there, alike⟩ := (alike.makeDirectory path).exists_eq result
      obtain ⟨further, madeThere, alike⟩ := (ih alike).exists_eq madeAbove
      rw [Disk.ensureDirectories, there]
      dsimp only
      rw [dif_neg filled, madeThere]
      exact ⟨rfl, alike⟩
  | case5 first path after error found result =>
      obtain ⟨other, there, alike⟩ := (alike.makeDirectory path).exists_eq result
      unfold Disk.ensureDirectories
      rw [there]
      split <;> rename_i same <;> cases same
      · exact absurd rfl (found _)
      · exact ⟨alike.tolerate_eq path error, alike⟩

/-! ### What is opened -/

section Opened

variable (within : opened (first.placeOf path))

include within

theorem target_eq_of_opened : second.target path.text = first.target path.text := by
  rcases except_map_cases (alike.target_eq path.text) with
    ⟨error, here, there⟩ | ⟨goal, other, here, there, same⟩
  · rw [here, there]
  · rw [here, there]
    cases goal with
    | vacant place =>
        cases other with
        | vacant => exact congrArg Except.ok same
        | entry => cases same
    | entry place present =>
        cases other with
        | vacant => cases same
        | entry otherPlace found =>
            obtain ⟨rfl, -⟩ := Target.entry.inj same
            have place : otherPlace = first.placeOf path := place_of_target here
            have present : first.get? otherPlace = some present := (target_eq_ok_iff.1 here).2.isOn
            have found : second.get? otherPlace = some found := (target_eq_ok_iff.1 there).2.isOn
            rw [alike.contents otherPlace (place ▸ within), present] at found
            cases found
            rfl

theorem look_eq_of_opened : second.look path.text = first.look path.text := by
  rw [look, look, stat, stat, alike.target_eq_of_opened within]

theorem append_of_opened (octets : List UInt8) :
    AnswerAlike opened (first.append path octets) (second.append path octets) := by
  have same : second.filePlace path = first.filePlace path := by
    rw [filePlace, filePlace, alike.target_eq_of_opened within]
  unfold Disk.append
  rw [same]
  split
  · exact ⟨rfl, alike.put _ _⟩
  · exact ⟨rfl, alike⟩

end Opened

end Alike

end Disk

end Spreadsheet
