import Spreadsheet.Disk.Basic
import Spreadsheet.Proofs.Collection.Table
import Spreadsheet.Proofs.Disk.Path

/-! Where a path leads. Names that say nothing make no difference, and a path leads to the
file that was written there. -/

set_option autoImplicit false

namespace Spreadsheet

/-- The disk has what the target tells of its place. -/
def Target.IsOn (disk : Disk) : Target → Prop
  | .entry place here => disk.get? place = some here
  | .vacant place => disk.get? place = none

/-- The place of the file that the target is or can become. -/
def Target.filePlace? : Target → Option Place
  | .entry place (.file _) => some place
  | .entry _ .directory => none
  | .vacant place => some place

namespace Disk

/-- The names lead from a place to a target. Every place on the way is a directory. -/
inductive Leads (disk : Disk) : Place → List String → Target → Prop where
  | here {place : Place} {entry : Entry} : disk.get? place = some entry →
      Leads disk place [] (.entry place entry)
  | free {place : Place} {name : String} : disk.get? place = some .directory →
      (Text.octets name).length ≤ maxName → disk.get? (enter place name) = none →
      Leads disk place [name] (.vacant (enter place name))
  | onward {place : Place} {name : String} {names : List String} {goal : Target} :
      disk.get? place = some .directory → (Text.octets name).length ≤ maxName →
      Leads disk (enter place name) names goal → Leads disk place (name :: names) goal

section Leads

variable {disk : Disk} {place : Place} {names silent : List String} {goal : Target}

theorem Leads.get?_ne_none (leads : Leads disk place names goal) : disk.get? place ≠ none := by
  cases leads with
  | here found => simp [found]
  | free found => simp [found]
  | onward found => simp [found]

theorem leads_of_follow (found : disk.follow place names = .ok goal) :
    Leads disk place names goal := by
  fun_induction disk.follow place names with
  | case1 place entry present =>
      cases found
      exact .here present
  | case2 => cases found
  | case3 => cases found
  | case4 => cases found
  | case5 => cases found
  | case6 place name directory short free =>
      cases found
      exact .free directory (Nat.not_lt.1 short) free
  | case7 place name rest directory short _ ih =>
      exact .onward directory (Nat.not_lt.1 short) (ih found)

theorem Leads.follow_eq (leads : Leads disk place names goal) :
    disk.follow place names = .ok goal := by
  induction leads with
  | here present => rw [follow, present]
  | free directory short free =>
      unfold follow
      simp only [directory, Nat.not_lt.2 short, if_false, free]
  | @onward place name names goal directory short further ih =>
      unfold follow
      simp only [directory, Nat.not_lt.2 short, if_false]
      split
      · rename_i free
        exact absurd free further.get?_ne_none
      · exact ih

theorem follow_eq_ok_iff : disk.follow place names = .ok goal ↔ Leads disk place names goal :=
  ⟨leads_of_follow, Leads.follow_eq⟩

theorem Leads.isOn (leads : Leads disk place names goal) : goal.IsOn disk := by
  induction leads with
  | here present => exact present
  | free _ _ free => exact free
  | onward _ _ _ ih => exact ih

/-! ### Names that say nothing -/

theorem enter_of_silent {name : String} (mute : Path.Silent name) : enter place name = place :=
  if_pos mute

theorem Leads.silent_append (leads : Leads disk place names goal)
    (here : disk.get? place = some .directory) (mute : ∀ name ∈ silent, Path.Silent name) :
    Leads disk place (silent ++ names) goal := by
  induction silent with
  | nil => exact leads
  | cons name rest ih =>
      rw [List.forall_mem_cons] at mute
      have short : (Text.octets name).length ≤ maxName := by
        rcases mute.1 with rfl | rfl <;> decide
      refine .onward here short ?_
      rw [enter_of_silent mute.1]
      exact ih mute.2

theorem Leads.filter (leads : Leads disk place names goal) :
    Leads disk place (names.filter fun name => ¬ Path.Silent name) goal := by
  induction leads with
  | here present => exact .here present
  | @free place name directory short free =>
      have speaks : ¬ Path.Silent name := by
        intro mute
        rw [enter_of_silent mute, directory] at free
        cases free
      rw [List.filter_cons_of_pos (by simpa using speaks)]
      exact .free directory short free
  | @onward place name names goal directory short _ ih =>
      by_cases mute : Path.Silent name
      · rw [List.filter_cons_of_neg (by simpa using mute)]
        rwa [enter_of_silent mute] at ih
      · rw [List.filter_cons_of_pos (by simpa using mute)]
        exact .onward directory short ih

end Leads

/-! ### Paths -/

section Target

variable {disk : Disk} {path : String} {goal : Target}

theorem target_eq_ok_iff :
    disk.target path = .ok goal ↔
      ('\x00' ∉ path.toList ∧ (Text.octets path).length ≤ maxPath ∧ path ≠ "") ∧
        Leads disk (disk.startOf path) ((Path.parts path.toList).map String.ofList) goal := by
  rw [target, ← follow_eq_ok_iff]
  generalize disk.follow _ _ = result
  split
  · rename_i null
    simp [null]
  · rename_i plain
    split
    · rename_i long
      simp [Nat.not_le.2 long]
    · rename_i short
      split
      · rename_i blank
        simp [blank]
      · rename_i filled
        cases result <;> simp [plain, Nat.not_lt.1 short, filled]

theorem target_eq_null_iff (disk : Disk) (path : String) :
    disk.target path = .error .nullCharacter ↔ '\x00' ∈ path.toList := by
  rw [target]
  constructor
  · intro missed
    by_contra plain
    rw [if_neg plain] at missed
    split at missed
    · cases missed
    · split at missed
      · cases missed
      · split at missed <;> cases missed
  · exact fun null => if_pos null

theorem stat_eq_null_iff (disk : Disk) (path : String) :
    disk.stat path = .error .nullCharacter ↔ '\x00' ∈ path.toList := by
  rw [← target_eq_null_iff disk, stat]
  cases disk.target path with
  | error error => simp
  | ok goal => cases goal <;> simp

private theorem startOf_ofText (disk : Disk) (name : String) :
    disk.startOf (Path.ofText name).text = disk.startOf name := by
  rw [startOf, startOf]
  exact if_congr Path.head?_text_ofText_iff rfl rfl

/-- A name that leads somewhere leads to the same target as the path made from it, unless
this one leads nowhere. -/
theorem target_ofText {name : String} {other : Target} (found : disk.target name = .ok goal)
    (again : disk.target (Path.ofText name).text = .ok other) : other = goal := by
  obtain ⟨_, way⟩ := target_eq_ok_iff.1 found
  obtain ⟨_, tidied⟩ := target_eq_ok_iff.1 again
  obtain ⟨silent, mute, cut⟩ := (Path.ofText name).parts_text
    fun name member => (Path.of_mem_names_ofText member).1
  rw [startOf_ofText, cut, ← follow_eq_ok_iff] at tidied
  have start : disk.get? (disk.startOf name) = some .directory := by
    obtain ⟨first, rest, shape⟩ := List.exists_cons_of_ne_nil (Path.parts_ne_nil name.toList)
    rw [shape, List.map_cons] at way
    generalize rest.map String.ofList = others at way
    cases way with
    | free directory => exact directory
    | onward directory => exact directory
  have straight := way.filter.silent_append start mute
  rw [← Path.names_ofText, ← follow_eq_ok_iff, tidied] at straight
  cases straight
  rfl

end Target

/-! ### Files -/

section File

variable {disk : Disk} {place : Place} {goal : Target} {octets : List UInt8}

theorem get?_put (disk : Disk) (place : Place) (entry : Entry) (other : Place) :
    (disk.put place entry).get? other =
      if other = [] then some .directory
      else if other = place then some entry else disk.get? other := by
  unfold get? put
  rw [Table.get?_set]
  split <;> rfl

theorem not_directory_of_isOn (on : goal.IsOn disk) (writable : goal.filePlace? = some place) :
    disk.get? place ≠ some .directory := by
  cases goal with
  | vacant free =>
      cases writable
      rw [show disk.get? place = none from on]
      simp
  | entry here present =>
      cases present with
      | directory => cases writable
      | file octets =>
          cases writable
          rw [show disk.get? place = some (.file octets) from on]
          simp

/-- A file on the way's end does not stand in the way. -/
theorem Leads.put {start : Place} {names : List String} (leads : Leads disk start names goal)
    (writable : goal.filePlace? = some place) (octets : List UInt8) :
    Leads (disk.put place (.file octets)) start names (.entry place (.file octets)) := by
  have different := not_directory_of_isOn leads.isOn writable
  have file : (disk.put place (.file octets)).get? place = some (.file octets) := by
    have root : place ≠ [] := by
      rintro rfl
      exact different rfl
    rw [get?_put, if_neg root, if_pos rfl]
  have kept : ∀ other, disk.get? other = some .directory →
      (disk.put place (.file octets)).get? other = some .directory := by
    intro other directory
    have apart : other ≠ place := by
      rintro rfl
      exact different directory
    rw [get?_put, if_neg apart, directory]
    simp
  induction leads with
  | @here here entry present =>
      cases entry with
      | directory => cases writable
      | file =>
          cases writable
          exact .here file
  | free directory short free =>
      cases writable
      exact .onward (kept _ directory) short (.here file)
  | onward directory short _ ih => exact .onward (kept _ directory) short (ih writable)

theorem target_put {path : String} (found : disk.target path = .ok goal)
    (writable : goal.filePlace? = some place) (octets : List UInt8) :
    (disk.put place (.file octets)).target path = .ok (.entry place (.file octets)) := by
  obtain ⟨formed, leads⟩ := target_eq_ok_iff.1 found
  exact target_eq_ok_iff.2 ⟨formed, leads.put writable octets⟩

variable {path : Path}

theorem write_of_target (found : disk.target path.text = .ok goal)
    (writable : goal.filePlace? = some place) :
    disk.write path octets = (disk.put place (.file octets), .ok ()) := by
  unfold write filePlace
  rw [found]
  cases goal with
  | vacant => cases writable; rfl
  | entry here present =>
      cases present with
      | directory => cases writable
      | file => cases writable; rfl

theorem stat_eq_ok_iff {name : String} {entry : Entry} :
    disk.stat name = .ok entry ↔ ∃ place, disk.target name = .ok (.entry place entry) := by
  unfold stat
  cases disk.target name with
  | error => simp
  | ok goal => cases goal <;> simp

theorem read_eq_ok_iff :
    disk.read path = .ok octets ↔ ∃ place, disk.target path.text = .ok (.entry place (.file octets)) := by
  rw [← stat_eq_ok_iff, read]
  cases disk.stat path.text with
  | error => simp
  | ok entry => cases entry <;> simp

theorem exists?_of_entry {entry : Entry} (found : disk.target path.text = .ok (.entry place entry)) :
    disk.exists? path = .ok true := by
  simp [exists?, look, stat, found, Except.map]

theorem exists?_of_vacant (found : disk.target path.text = .ok (.vacant place)) :
    disk.exists? path = .ok false := by
  simp [exists?, look, stat, found, Except.map]

end File

end Disk

end Spreadsheet
