import Spreadsheet.Proofs.Disk.Directory
import Spreadsheet.Sheet.File

/-! Disks that differ in one area at most. A path that never gets into the area leads to the same
on both, and what is written there stays the same on both. -/

set_option autoImplicit false

namespace Spreadsheet

namespace Disk

/-- The places that names lead over, from the place that they start at. -/
def route (place : Place) : List String → List Place
  | [] => [place]
  | name :: rest => place :: route (enter place name) rest

/-- The places that a path leads over, whether or not something is there. -/
def visits (disk : Disk) (path : Path) : List Place :=
  route (disk.startOf path.text) ((Path.parts path.text.toList).map String.ofList)

/-- The path never gets into the area. -/
def Avoids (disk : Disk) (inside : Place → Prop) (path : Path) : Prop :=
  ∀ place ∈ disk.visits path, ¬ inside place

/-- The disks differ in the area at most. -/
structure AgreeOutside (inside : Place → Prop) (first second : Disk) : Prop where
  workingPlace : second.workingPlace = first.workingPlace
  get? : ∀ place, ¬ inside place → second.get? place = first.get? place

section Area

variable {inside : Place → Prop} {first second third disk : Disk} {path : Path} {place : Place}

namespace AgreeOutside

theorem refl (inside : Place → Prop) (disk : Disk) : AgreeOutside inside disk disk :=
  ⟨rfl, fun _ _ => rfl⟩

theorem symm (agree : AgreeOutside inside first second) : AgreeOutside inside second first :=
  ⟨agree.workingPlace.symm, fun place outside => (agree.get? place outside).symm⟩

theorem trans (agree : AgreeOutside inside first second)
    (further : AgreeOutside inside second third) : AgreeOutside inside first third :=
  ⟨further.workingPlace.trans agree.workingPlace,
    fun place outside => (further.get? place outside).trans (agree.get? place outside)⟩

end AgreeOutside

/-- Where a path leads over does not depend on what is there. -/
theorem Avoids.of_workingPlace (clear : first.Avoids inside path)
    (same : second.workingPlace = first.workingPlace) : second.Avoids inside path := by
  rwa [Avoids, visits, startOf, same]

theorem mem_route_self (place : Place) (names : List String) : place ∈ route place names := by
  cases names <;> exact List.mem_cons_self

private theorem mem_route_of_silent {silent names : List String} {other : Place}
    (mute : ∀ name ∈ silent, Path.Silent name) (member : other ∈ route place (silent ++ names)) :
    other ∈ route place names := by
  induction silent with
  | nil => exact member
  | cons name rest ih =>
      rw [List.forall_mem_cons] at mute
      rw [List.cons_append, route, enter_of_silent mute.1, List.mem_cons] at member
      rcases member with rfl | further
      · exact mem_route_self other names
      · exact ih mute.2 further

private theorem prefix_of_mem_route {names : List String} {other : Place}
    (proper : ∀ name ∈ names, EntryName name) (member : other ∈ route place names) :
    other <+: place ++ names := by
  induction names generalizing place with
  | nil =>
      rw [List.mem_singleton.1 member]
      exact List.prefix_append place []
  | cons name rest ih =>
      rw [List.forall_mem_cons] at proper
      rw [route, proper.1.enter, List.mem_cons] at member
      rcases member with rfl | further
      · exact List.prefix_append other _
      · have onward := ih proper.2 further
        rwa [List.append_assoc] at onward

/-- A path that never leads upwards keeps out of a directory if its last place does. -/
theorem Avoids.of_outside {directory : Place} (spelled : path.Spelled) (down : ".." ∉ path.names)
    (outside : ¬ directory <+: disk.baseOf path ++ path.names) :
    disk.Avoids (directory <+: ·) path := by
  intro place member within
  obtain ⟨silent, mute, cut⟩ := path.parts_text fun name member => (spelled name member).1
  rw [visits, startOf_text spelled, cut] at member
  have proper (name : String) (named : name ∈ path.names) : EntryName name :=
    ⟨(spelled name named).1, (spelled name named).2, fun up => down (up ▸ named)⟩
  exact outside (within.trans (prefix_of_mem_route proper (mem_route_of_silent mute member)))

private theorem follow_eq_of_route {names : List String}
    (same : ∀ other ∈ route place names, second.get? other = first.get? other) :
    second.follow place names = first.follow place names := by
  induction names generalizing place with
  | nil => rw [follow, follow, same place (mem_route_self place [])]
  | cons name rest ih =>
      rw [route, List.forall_mem_cons] at same
      unfold follow
      rw [same.1, same.2 _ (mem_route_self _ rest), ih same.2]

theorem AgreeOutside.target_eq (agree : AgreeOutside inside first second)
    (clear : first.Avoids inside path) : second.target path.text = first.target path.text := by
  have start : second.startOf path.text = first.startOf path.text := by
    rw [startOf, startOf, agree.workingPlace]
  have followed := follow_eq_of_route fun other member => agree.get? other (clear other member)
  rw [target, target, start, followed]

theorem AgreeOutside.read_eq (agree : AgreeOutside inside first second)
    (clear : first.Avoids inside path) : second.read path = first.read path := by
  unfold read stat
  rw [agree.target_eq clear]

private theorem mem_route_of_leads {names : List String} {goal : Target}
    (leads : Leads disk place names goal) {file : Place} (writable : goal.filePlace? = some file) : file ∈ route place names := by
  induction leads with
  | @here place entry present =>
      cases entry with
      | directory => cases writable
      | file =>
          cases writable
          exact List.mem_singleton_self _
  | free =>
      cases writable
      exact List.mem_cons_of_mem _ (List.mem_singleton_self _)
  | onward _ _ _ ih => exact List.mem_cons_of_mem _ (ih writable)

theorem agreeOutside_put {entry : Entry} (within : inside place) (disk : Disk) :
    AgreeOutside inside disk (disk.put place entry) := by
  refine ⟨rfl, fun other outside => ?_⟩
  have apart : other ≠ place := by
    rintro rfl
    exact outside within
  rw [get?_put, if_neg apart]
  split
  · rename_i root
    rw [root]
    rfl
  · rfl

theorem AgreeOutside.put (agree : AgreeOutside inside first second) (place : Place)
    (entry : Entry) : AgreeOutside inside (first.put place entry) (second.put place entry) :=
  ⟨agree.workingPlace, fun other outside => by rw [get?_put, get?_put, agree.get? other outside]⟩

/-- Writing to a path changes nothing but a place that the path leads over. -/
theorem write_cases (disk : Disk) (path : Path) (octets : List UInt8) :
    (∃ error, disk.write path octets = (disk, .error error)) ∨
      ∃ place ∈ disk.visits path, disk.get? place ≠ some .directory ∧
        disk.write path octets = (disk.put place (.file octets), .ok ()) := by
  cases found : disk.target path.text with
  | error error =>
      refine .inl ⟨error, ?_⟩
      rw [write, filePlace, found]
  | ok goal =>
      have leads := (target_eq_ok_iff.1 found).2
      cases writable : goal.filePlace? with
      | none =>
          cases goal with
          | vacant => cases writable
          | entry here present =>
              cases present with
              | file => cases writable
              | directory =>
                  refine .inl ⟨.system .isDirectory (some path.text), ?_⟩
                  rw [write, filePlace, found]
      | some place =>
          exact .inr ⟨place, mem_route_of_leads leads writable,
            not_directory_of_isOn leads.isOn writable, write_of_target found writable⟩

theorem AgreeOutside.write (agree : AgreeOutside inside first second)
    (clear : first.Avoids inside path) (octets : List UInt8) :
    (second.write path octets).2 = (first.write path octets).2 ∧
      AgreeOutside inside (first.write path octets).1 (second.write path octets).1 := by
  have same : second.filePlace path = first.filePlace path := by
    rw [filePlace, filePlace, agree.target_eq clear]
  unfold Disk.write
  rw [same]
  cases first.filePlace path with
  | error => exact ⟨rfl, agree⟩
  | ok found => exact ⟨rfl, agree.put found.1 (.file octets)⟩

end Area

end Disk

/-! ### Files of sheets -/

namespace Sheet

open Disk

variable {inside : Place → Prop} {first second : Disk} {path : Path}

theorem load_of_agreeOutside (agree : AgreeOutside inside first second)
    (clear : first.Avoids inside path) : Sheet.load second path = Sheet.load first path := by
  rw [load, load, agree.read_eq clear]

theorem save_of_agreeOutside (sheet : Sheet) (agree : AgreeOutside inside first second)
    (clear : first.Avoids inside path) :
    (sheet.save second path).2 = (sheet.save first path).2 ∧
      AgreeOutside inside (sheet.save first path).1 (sheet.save second path).1 := by
  unfold save
  cases sheet.toRecords with
  | error => exact ⟨rfl, agree⟩
  | ok text =>
      obtain ⟨answer, after⟩ := agree.write clear (Text.octets text)
      exact ⟨congrArg (Except.mapError FileError.disk) answer, after⟩

theorem save_cases (sheet : Sheet) (disk : Disk) (path : Path) :
    (sheet.save disk path).1 = disk ∨
      ∃ place ∈ disk.visits path, disk.get? place ≠ some .directory ∧
        ∃ octets, (sheet.save disk path).1 = disk.put place (.file octets) := by
  unfold save
  cases sheet.toRecords with
  | error => exact .inl rfl
  | ok text =>
      rcases disk.write_cases path (Text.octets text) with
        ⟨error, refused⟩ | ⟨place, member, free, written⟩
      · exact .inl (congrArg Prod.fst refused)
      · exact .inr ⟨place, member, free, Text.octets text, congrArg Prod.fst written⟩

theorem keeps_save (sheet : Sheet) (disk : Disk) (path : Path) :
    disk.Keeps (sheet.save disk path).1 := by
  rcases sheet.save_cases disk path with same | ⟨place, _, free, octets, after⟩
  · rw [same]
    exact .refl disk
  · rw [after]
    exact keeps_put free

end Sheet

end Spreadsheet
