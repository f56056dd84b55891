import Spreadsheet.Proofs.Disk.Directory

/-! The place that a path leads to, and that nothing but a write to a file's place changes it. -/

set_option autoImplicit false

namespace Spreadsheet

def Target.place : Target → Place
  | .entry place _ => place
  | .vacant place => place

private theorem Target.place_of_filePlace? {goal : Target} {place : Place}
    (writable : goal.filePlace? = some place) : goal.place = place := by
  cases goal with
  | vacant => exact Option.some.inj writable
  | entry here present =>
      cases present with
      | directory => cases writable
      | file => exact Option.some.inj writable

namespace Disk

/-- The place that the names of a path lead to, whether or not something is there. -/
def placeOf (disk : Disk) (path : Path) : Place :=
  ((Path.parts path.text.toList).map String.ofList).foldl enter (disk.startOf path.text)

section PlaceOf

variable {disk other : Disk} {path : Path} {goal : Target} {place : Place} {octets : List UInt8}

theorem placeOf_of_workingPlace (same : other.workingPlace = disk.workingPlace) (path : Path) :
    other.placeOf path = disk.placeOf path := by
  rw [placeOf, placeOf, startOf, startOf, same]

theorem Leads.place_eq {names : List String} (leads : Leads disk place names goal) :
    goal.place = names.foldl enter place := by
  induction leads with
  | here => rfl
  | free => rfl
  | onward _ _ _ ih => exact ih

theorem place_of_target (found : disk.target path.text = .ok goal) :
    goal.place = disk.placeOf path :=
  (target_eq_ok_iff.1 found).2.place_eq

theorem target_of_filePlace (found : disk.filePlace path = .ok (place, octets)) :
    ∃ goal, disk.target path.text = .ok goal ∧ goal.filePlace? = some place := by
  unfold filePlace at found
  split at found
  · rename_i reached
    cases found
    exact ⟨_, reached, rfl⟩
  · cases found
  · rename_i reached
    cases found
    exact ⟨_, reached, rfl⟩
  · cases found

/-- What can be written is at the place of its path, and no directory. -/
theorem place_of_filePlace (found : disk.filePlace path = .ok (place, octets)) :
    place = disk.placeOf path ∧ disk.get? place ≠ some .directory := by
  obtain ⟨goal, reached, writable⟩ := target_of_filePlace found
  refine ⟨?_, not_directory_of_isOn (target_eq_ok_iff.1 reached).2.isOn writable⟩
  rw [← Target.place_of_filePlace? writable, place_of_target reached]

private theorem octetsAt_of_filePlace (found : disk.filePlace path = .ok (place, octets)) :
    disk.octetsAt place = octets := by
  unfold filePlace at found
  split at found <;> cases found <;> rename_i reached
  · have present : disk.get? place = some (.file octets) := (target_eq_ok_iff.1 reached).2.isOn
    rw [octetsAt, present]
  · have free : disk.get? place = none := (target_eq_ok_iff.1 reached).2.isOn
    rw [octetsAt, free]

theorem octetsAt_append (added : disk.append path octets = (other, .ok ()))
    (inside : disk.placeOf path ≠ []) :
    other.octetsAt (disk.placeOf path) = disk.octetsAt (disk.placeOf path) ++ octets := by
  unfold append at added
  split at added
  · rename_i place before found
    cases added
    have here := (place_of_filePlace found).1
    rw [← here] at inside ⊢
    rw [octetsAt_put inside, if_pos rfl, octetsAt_of_filePlace found]
  · cases added

theorem read_put (found : disk.target path.text = .ok goal)
    (writable : goal.filePlace? = some place) (octets : List UInt8) :
    (disk.put place (.file octets)).read path = .ok octets :=
  read_eq_ok_iff.2 ⟨place, target_put found writable octets⟩

theorem foldl_enter_of_silent {names : List String} (silent : ∀ name ∈ names, Path.Silent name) :
    names.foldl enter place = place := by
  induction names with
  | nil => rfl
  | cons name rest ih =>
      rw [List.forall_mem_cons] at silent
      rw [List.foldl_cons, enter_of_silent silent.1, ih silent.2]

theorem placeOf_child (spelled : path.Spelled) {name : String}
    (proper : EntryName name) : disk.placeOf (path.child name) = disk.placeOf path ++ [name] := by
  obtain ⟨silent, mute, cut⟩ := path.parts_text fun name member => (spelled name member).1
  have written := spelled.child proper.whole proper.speaks
  obtain ⟨others, muteToo, cutToo⟩ :=
    (path.child name).parts_text fun name member => (written name member).1
  rw [placeOf, placeOf, cut, cutToo, List.foldl_append, List.foldl_append,
    foldl_enter_of_silent mute, foldl_enter_of_silent muteToo, startOf_text spelled,
    startOf_text written]
  change (path.names ++ [name]).foldl enter (disk.baseOf path) = _
  rw [List.foldl_append, List.foldl_cons, List.foldl_nil, proper.enter]

end PlaceOf

/-! ### Leaving a file alone -/

/-- No directory goes, and the file at the place stays as it is. If there is none, none comes. -/
structure Spares (place : Place) (before after : Disk) : Prop where
  keeps : before.Keeps after
  file : ∀ octets, after.get? place = some (.file octets) ↔
    before.get? place = some (.file octets)

section Spares

variable {place other : Place} {disk after : Disk} {path : Path} {octets : List UInt8}

theorem Spares.refl (place : Place) (disk : Disk) : Spares place disk disk :=
  ⟨.refl disk, fun _ => Iff.rfl⟩

theorem Spares.trans {later : Disk} (first : Spares place disk after)
    (second : Spares place after later) : Spares place disk later :=
  ⟨first.keeps.trans second.keeps, fun octets => (second.file octets).trans (first.file octets)⟩

theorem Spares.placeOf_eq (spares : Spares place disk after) (path : Path) :
    after.placeOf path = disk.placeOf path :=
  placeOf_of_workingPlace spares.keeps.workingPlace path

theorem Spares.octetsAt_eq (spares : Spares place disk after) :
    after.octetsAt place = disk.octetsAt place := by
  unfold octetsAt
  split
  · rename_i present
    rw [(spares.file _).1 present]
  · rename_i none
    split
    · rename_i present
      exact absurd ((spares.file _).2 present) (none _)
    · rfl

theorem Leads.spares {start : Place} {names : List String}
    (leads : Leads disk start names (.entry place (.file octets)))
    (spares : Spares place disk after) :
    Leads after start names (.entry place (.file octets)) := by
  generalize reached : Target.entry place (.file octets) = goal at leads
  induction leads with
  | here present =>
      cases reached
      exact .here ((spares.file octets).2 present)
  | free => cases reached
  | onward directory short _ ih =>
      exact .onward (spares.keeps.directory _ directory) short (ih reached)

theorem Spares.read (spares : Spares (disk.placeOf path) disk after)
    (stored : disk.read path = .ok octets) : after.read path = .ok octets := by
  obtain ⟨place, found⟩ := read_eq_ok_iff.1 stored
  have here : place = disk.placeOf path := place_of_target found
  obtain ⟨formed, leads⟩ := target_eq_ok_iff.1 found
  have start : after.startOf path.text = disk.startOf path.text := by
    rw [startOf, startOf, spares.keeps.workingPlace]
  exact read_eq_ok_iff.2
    ⟨place, target_eq_ok_iff.2 ⟨formed, start ▸ leads.spares (here ▸ spares)⟩⟩

theorem spares_put {entry : Entry} (free : disk.get? other ≠ some .directory)
    (apart : other ≠ place) : Spares place disk (disk.put other entry) := by
  refine ⟨keeps_put free, fun octets => ?_⟩
  rw [get?_put, if_neg (Ne.symm apart)]
  by_cases root : place = []
  · subst place
    exact iff_of_false (by simp) (by simp [get?])
  · rw [if_neg root]

private theorem spares_put_directory (free : disk.get? other = none) (place : Place) :
    Spares place disk (disk.put other .directory) := by
  by_cases same : other = place
  · subst other
    refine ⟨keeps_put_directory disk place, fun octets => iff_of_false ?_ (by simp [free])⟩
    rw [get?_put, if_pos rfl, ite_self]
    simp
  · exact spares_put (by simp [free]) same

theorem spares_put_file {entry : Entry} (found : disk.filePlace path = .ok (other, octets))
    (apart : disk.placeOf path ≠ place) : Spares place disk (disk.put other entry) := by
  obtain ⟨rfl, free⟩ := place_of_filePlace found
  exact spares_put free apart

theorem spares_write (apart : disk.placeOf path ≠ place) (octets : List UInt8) :
    Spares place disk (disk.write path octets).1 := by
  unfold write
  split
  · rename_i found
    exact spares_put_file found apart
  · exact .refl place disk

theorem spares_append (apart : disk.placeOf path ≠ place) (octets : List UInt8) :
    Spares place disk (disk.append path octets).1 := by
  unfold append
  split
  · rename_i found
    exact spares_put_file found apart
  · exact .refl place disk

theorem spares_makeDirectory (place : Place) (disk : Disk) (path : Path) :
    Spares place disk (disk.makeDirectory path).1 := by
  unfold makeDirectory
  split
  · rename_i found
    exact spares_put_directory (target_eq_ok_iff.1 found).2.isOn place
  · exact .refl place disk
  · exact .refl place disk

private theorem spares_ensureDirectory (place : Place) (disk : Disk) (path : Path) :
    Spares place disk (disk.ensureDirectory path).1 := by
  have made := spares_makeDirectory place disk path
  unfold ensureDirectory
  split <;> rename_i result <;> rwa [result] at made

theorem spares_ensureDirectories (place : Place) (disk : Disk) (path : Path) :
    Spares place disk (disk.ensureDirectories path).1 := by
  fun_induction ensureDirectories disk path with
  | case1 disk path _ result | case2 disk path _ _ result | case5 disk path _ _ _ result =>
      have made := spares_makeDirectory place disk path
      rwa [result] at made
  | case3 disk path _ _ result _ above madeAbove ih =>
      have made := spares_makeDirectory place disk path
      rw [result] at made
      rw [madeAbove] at ih
      exact (made.trans ih).trans (spares_ensureDirectory place above path)
  | case4 disk path _ _ result _ above _ madeAbove ih =>
      have made := spares_makeDirectory place disk path
      rw [result] at made
      rw [madeAbove] at ih
      exact made.trans ih

end Spares

end Disk

end Spreadsheet
