import Spreadsheet.Proofs.Disk.File

/-! What stands in a directory, by its path and a name: where the path of the entry leads, what
an append to it does, and that directories stay while files are written. -/

set_option autoImplicit false

namespace Spreadsheet

namespace Path

/-- Every name says something and is a single one, as in paths that were written down. -/
def Spelled (path : Path) : Prop := ∀ name ∈ path.names, '/' ∉ name.toList ∧ ¬ Silent name

theorem spelled_ofText (text : String) : (ofText text).Spelled := fun _ => of_mem_names_ofText

theorem Spelled.child {path : Path} (spelled : path.Spelled) {name : String}
    (whole : '/' ∉ name.toList) (speaks : ¬ Silent name) : (path.child name).Spelled := by
  intro other member
  rcases List.mem_append.1 member with inside | last
  · exact spelled other inside
  · exact List.mem_singleton.1 last ▸ ⟨whole, speaks⟩

theorem text_child {path : Path} (filled : path.names ≠ []) (name : String) :
    (path.child name).text = path.text ++ "/" ++ name := by
  unfold text child
  rw [if_neg (by simp), if_neg (by simp [filled]),
    String.intercalate_append_of_ne_nil filled (List.cons_ne_nil _ _), String.intercalate_singleton]
  simp only [String.append_assoc]

end Path

namespace Disk

/-- A name of an entry, and not of the directory itself or of the one above. -/
structure EntryName (name : String) : Prop where
  whole : '/' ∉ name.toList
  speaks : ¬ Path.Silent name
  inside : name ≠ ".."

theorem EntryName.enter {name : String} (proper : EntryName name) (place : Place) :
    enter place name = place ++ [name] :=
  (if_neg proper.speaks).trans (if_neg proper.inside)

/-- The system takes the path of an entry in. -/
structure Fits (path : Path) (name : String) : Prop where
  plain : '\x00' ∉ (path.child name).text.toList
  path : (Text.octets (path.child name).text).length ≤ maxPath
  name : (Text.octets name).length ≤ maxName

/-! ### Where a path leads -/

section Leads

variable {disk : Disk} {start place : Place} {names : List String} {goal : Target}

private theorem Leads.append_iff (leads : Leads disk start names (.entry place .directory))
    (more : List String) : Leads disk start (names ++ more) goal ↔ Leads disk place more goal := by
  generalize reached : Target.entry place .directory = target at leads
  induction leads with
  | here =>
      cases reached
      exact Iff.rfl
  | free => cases reached
  | @onward start name names target directory short further ih =>
      rw [← ih reached]
      refine ⟨fun leads => ?_, fun leads => .onward directory short leads⟩
      rw [List.cons_append] at leads
      generalize names ++ more = others at leads
      cases leads with
      | free _ _ free => exact absurd free further.get?_ne_none
      | onward _ _ leads => exact leads

theorem Leads.directory_of_ne_nil (leads : Leads disk start names goal) (filled : names ≠ []) :
    disk.get? start = some .directory := by
  cases leads with
  | here => exact absurd rfl filled
  | free directory => exact directory
  | onward directory => exact directory

private theorem Leads.follow_append (leads : Leads disk start names (.entry place .directory))
    (more : List String) : disk.follow start (names ++ more) = disk.follow place more := by
  generalize reached : Target.entry place .directory = target at leads
  induction leads with
  | here =>
      cases reached
      rfl
  | free => cases reached
  | @onward start name names target directory short further ih =>
      rw [← ih reached, List.cons_append, follow]
      · simp only [directory, Nat.not_lt.2 short, if_false]
      · exact fun free _ => further.get?_ne_none free

private theorem leads_entry_iff {name : String} (proper : EntryName name)
    (directory : disk.get? place = some .directory) :
    Leads disk place [name] goal ↔ (Text.octets name).length ≤ maxName ∧
      goal = match disk.get? (place ++ [name]) with
        | none => .vacant (place ++ [name])
        | some entry => .entry (place ++ [name]) entry := by
  rw [← proper.enter]
  constructor
  · intro leads
    cases leads with
    | free _ short free => exact ⟨short, by rw [free]⟩
    | onward _ short leads =>
        cases leads with
        | here present => exact ⟨short, by rw [present]⟩
  · rintro ⟨short, rfl⟩
    cases present : disk.get? (enter place name) with
    | none => exact .free directory short present
    | some entry => exact .onward directory short (.here present)

end Leads

section Target

variable {disk : Disk} {path : Path} {place : Place} {goal : Target} {name : String}

def baseOf (disk : Disk) (path : Path) : Place :=
  if path.slashes = 0 then disk.workingPlace else []

theorem startOf_text (spelled : path.Spelled) (disk : Disk) :
    disk.startOf path.text = disk.baseOf path := by
  rw [startOf, baseOf]
  by_cases relative : path.slashes = 0
  · rw [if_pos relative, if_neg (fun starts => (Path.head?_text_iff spelled).1 starts relative)]
  · rw [if_neg relative, if_pos ((Path.head?_text_iff spelled).2 relative)]

theorem text_ne_empty (spelled : path.Spelled) : path.text ≠ "" := by
  intro blank
  obtain ⟨silent, _, cut⟩ := path.parts_text fun name member => (spelled name member).1
  rw [blank] at cut
  have names : path.names = [] := by
    cases shape : path.names with
    | nil => rfl
    | cons first rest =>
        have speaks := (spelled first (shape ▸ List.mem_cons_self)).2
        have member : first ∈ [""] := by
          have parted : (Path.parts "".toList).map String.ofList = [""] := rfl
          rw [← parted, cut, shape]
          simp
        exact absurd (.inl (List.mem_singleton.1 member)) speaks
  obtain ⟨slashes, names⟩ := path
  cases names
  cases slashes with
  | zero => simp [Path.text] at blank
  | succ count =>
      have filled := congrArg String.toList blank
      simp [Path.text, List.replicate_succ] at filled

theorem target_iff_leads (spelled : path.Spelled) (filled : path.names ≠ []) :
    disk.target path.text = .ok goal ↔
      ('\x00' ∉ path.text.toList ∧ (Text.octets path.text).length ≤ maxPath) ∧
        Leads disk (disk.baseOf path) path.names goal := by
  obtain ⟨silent, mute, cut⟩ := path.parts_text fun name member => (spelled name member).1
  rw [target_eq_ok_iff, startOf_text spelled, cut]
  have stripped : (silent ++ path.names).filter (fun name => ¬ Path.Silent name) = path.names := by
    rw [List.filter_append, List.filter_eq_nil_iff.2, List.nil_append, List.filter_eq_self]
    · exact fun name member => decide_eq_true (spelled name member).2
    · exact fun name member => by simpa using mute name member
  constructor
  · rintro ⟨⟨plain, short, _⟩, leads⟩
    have leads := leads.filter
    rw [stripped] at leads
    exact ⟨⟨plain, short⟩, leads⟩
  · rintro ⟨⟨plain, short⟩, leads⟩
    exact ⟨⟨plain, short, text_ne_empty spelled⟩,
      leads.silent_append (leads.directory_of_ne_nil filled) mute⟩

/-- The path of a directory leads to it, and the paths of its entries to these. -/
theorem target_child_iff (spelled : path.Spelled) (filled : path.names ≠ [])
    (directory : disk.target path.text = .ok (.entry place .directory))
    (proper : EntryName name) :
    disk.target (path.child name).text = .ok goal ↔ Fits path name ∧
      goal = match disk.get? (place ++ [name]) with
        | none => .vacant (place ++ [name])
        | some entry => .entry (place ++ [name]) entry := by
  obtain ⟨_, leads⟩ := (target_iff_leads spelled filled).1 directory
  have base : disk.baseOf (path.child name) = disk.baseOf path := rfl
  have names : (path.child name).names = path.names ++ [name] := rfl
  rw [target_iff_leads (spelled.child proper.whole proper.speaks) (by simp [names]), base, names,
    leads.append_iff, leads_entry_iff proper leads.isOn]
  exact ⟨fun ⟨⟨plain, path⟩, name, same⟩ => ⟨⟨plain, path, name⟩, same⟩,
    fun ⟨⟨plain, path, name⟩, same⟩ => ⟨⟨plain, path⟩, name, same⟩⟩

/-- A path with a name that does not fit leads to no place, not even a free one. -/
theorem target_child_of_not_fits (spelled : path.Spelled) (filled : path.names ≠ [])
    (directory : disk.target path.text = .ok (.entry place .directory))
    (proper : EntryName name) (plain : '\x00' ∉ (path.child name).text.toList)
    (unfit : ¬ Fits path name) :
    disk.target (path.child name).text =
      .error (.system .nameTooLong (some (path.child name).text)) := by
  have written := spelled.child proper.whole proper.speaks
  obtain ⟨_, leads⟩ := (target_iff_leads spelled filled).1 directory
  have here : disk.get? place = some .directory := leads.isOn
  obtain ⟨silent, mute, cut⟩ := (path.child name).parts_text fun name member =>
    (written name member).1
  have way := (leads.silent_append (leads.directory_of_ne_nil filled) mute).follow_append [name]
  have names : (path.child name).names = path.names ++ [name] := rfl
  have base : disk.baseOf (path.child name) = disk.baseOf path := rfl
  rw [target, if_neg plain]
  split
  · rfl
  · rename_i short
    have long : maxName < (Text.octets name).length :=
      Nat.lt_of_not_le fun fits => unfit ⟨plain, Nat.not_lt.1 short, fits⟩
    have stuck : disk.follow place [name] = .error .nameTooLong := by simp [follow, here, long]
    rw [if_neg (text_ne_empty written), cut, startOf_text written, base, names,
      ← List.append_assoc, way, stuck]

end Target

/-! ### Directories stay -/

/-- Nothing has moved and what was a directory still is one. -/
structure Keeps (before after : Disk) : Prop where
  workingPlace : after.workingPlace = before.workingPlace
  directory : ∀ place, before.get? place = some .directory → after.get? place = some .directory

section Keeps

variable {disk after : Disk} {path : Path} {place : Place} {entry : Entry}

theorem Keeps.refl (disk : Disk) : disk.Keeps disk := ⟨rfl, fun _ directory => directory⟩

theorem Keeps.trans {later : Disk} (first : disk.Keeps after) (second : after.Keeps later) :
    disk.Keeps later :=
  ⟨second.workingPlace.trans first.workingPlace,
    fun place directory => second.directory place (first.directory place directory)⟩

theorem keeps_put (free : disk.get? place ≠ some .directory) :
    disk.Keeps (disk.put place entry) := by
  refine ⟨rfl, fun other directory => ?_⟩
  have apart : other ≠ place := by
    rintro rfl
    exact free directory
  rw [get?_put, if_neg apart, directory, ite_self]

theorem keeps_put_directory (disk : Disk) (place : Place) :
    disk.Keeps (disk.put place .directory) := by
  refine ⟨rfl, fun other directory => ?_⟩
  rw [get?_put, directory, ite_self, ite_self]

theorem Leads.keeps (keeps : disk.Keeps after) {start : Place} {names : List String}
    (leads : Leads disk start names (.entry place .directory)) :
    Leads after start names (.entry place .directory) := by
  generalize reached : Target.entry place .directory = goal at leads
  induction leads with
  | here present =>
      cases reached
      exact .here (keeps.directory _ present)
  | free => cases reached
  | onward directory short _ ih => exact .onward (keeps.directory _ directory) short (ih reached)

theorem Keeps.target (keeps : disk.Keeps after) {text : String}
    (found : disk.target text = .ok (.entry place .directory)) :
    after.target text = .ok (.entry place .directory) := by
  obtain ⟨formed, leads⟩ := target_eq_ok_iff.1 found
  rw [target_eq_ok_iff, startOf, keeps.workingPlace]
  exact ⟨formed, leads.keeps keeps⟩

end Keeps

/-! ### Making directories -/

section Making

variable {disk after : Disk} {path : Path} {place : Place}

theorem isDirectory_iff :
    disk.isDirectory path = .ok true ↔
      ∃ place, disk.target path.text = .ok (.entry place .directory) := by
  rw [← stat_eq_ok_iff, isDirectory, look]
  cases disk.stat path.text with
  | ok entry => cases entry <;> simp [Except.map]
  | error error =>
      cases error with
      | nullCharacter => simp [Except.map]
      | system cause at? => cases cause <;> simp [Except.map]

theorem read_eq_ok_iff_look {octets : List UInt8} :
    disk.read path = .ok octets ↔ disk.look path.text = .ok (some (.file octets)) := by
  rw [read, look]
  cases disk.stat path.text with
  | ok entry => cases entry <;> simp
  | error error =>
      cases error with
      | nullCharacter => simp
      | system cause at? => cases cause <;> simp

theorem tolerate_eq_ok_iff {cause : DiskCause} {at? : Option String} :
    disk.tolerate path (.system cause at?) = .ok () ↔ disk.isDirectory path = .ok true := by
  unfold tolerate
  cases disk.isDirectory path with
  | error => simp [bind, Except.bind]
  | ok standing => cases standing <;> simp [bind, Except.bind, pure, Except.pure, throw, throwThe,
      MonadExceptOf.throw]

private theorem Leads.put_directory {start : Place} {names : List String}
    (leads : Leads disk start names (.vacant place)) :
    Leads (disk.put place .directory) start names (.entry place .directory) := by
  generalize reached : Target.vacant place = goal at leads
  induction leads with
  | here => cases reached
  | @free start name directory short free =>
      cases reached
      have made : (disk.put (enter start name) .directory).get? (enter start name) =
          some .directory := by
        rw [get?_put, if_pos rfl, ite_self]
      exact .onward ((keeps_put_directory disk _).directory _ directory) short (.here made)
  | onward directory short _ ih =>
      exact .onward ((keeps_put_directory disk _).directory _ directory) short (ih reached)

theorem makeDirectory_of_ok (made : disk.makeDirectory path = (after, .ok ())) :
    disk.Keeps after ∧ after.isDirectory path = .ok true := by
  unfold makeDirectory at made
  cases found : disk.target path.text with
  | error => simp [found] at made
  | ok goal =>
      rw [found] at made
      cases goal with
      | entry => simp at made
      | vacant place =>
          cases made
          obtain ⟨formed, leads⟩ := target_eq_ok_iff.1 found
          exact ⟨keeps_put_directory disk place,
            isDirectory_iff.2 ⟨place, target_eq_ok_iff.2 ⟨formed, leads.put_directory⟩⟩⟩

theorem makeDirectory_of_error {error : DiskError}
    (refused : disk.makeDirectory path = (after, .error error)) : after = disk := by
  unfold makeDirectory at refused
  split at refused <;> cases refused <;> rfl

/-- What cannot be made is only let pass where a directory is. -/
theorem tolerated_of_ok {refused : Disk} {error : DiskError}
    (failed : disk.makeDirectory path = (refused, .error error))
    (tolerated : (refused, refused.tolerate path error) = (after, .ok ())) :
    disk.Keeps after ∧ after.isDirectory path = .ok true := by
  obtain rfl := makeDirectory_of_error failed
  obtain ⟨rfl, passed⟩ := Prod.mk.inj tolerated
  cases error with
  | nullCharacter => cases passed
  | system => exact ⟨.refl _, tolerate_eq_ok_iff.1 passed⟩

theorem ensureDirectory_of_ok (made : disk.ensureDirectory path = (after, .ok ())) :
    disk.Keeps after ∧ after.isDirectory path = .ok true := by
  unfold ensureDirectory at made
  split at made
  · rename_i fresh
    cases made
    exact makeDirectory_of_ok fresh
  · cases made
  · rename_i failed
    exact tolerated_of_ok failed made

theorem ensureDirectories_of_ok (made : disk.ensureDirectories path = (after, .ok ())) :
    disk.Keeps after ∧ after.isDirectory path = .ok true := by
  fun_induction ensureDirectories disk path generalizing after with
  | case1 disk path _ fresh =>
      cases made
      exact makeDirectory_of_ok fresh
  | case2 => cases made
  | case3 disk path _ _ failed _ above madeAbove ih =>
      obtain rfl := makeDirectory_of_error failed
      obtain ⟨keeps, standing⟩ := ensureDirectory_of_ok made
      exact ⟨(ih madeAbove).1.trans keeps, standing⟩
  | case4 => cases made
  | case5 disk path _ _ _ failed => exact tolerated_of_ok failed made

theorem makeDirectory_of_isDirectory (standing : disk.isDirectory path = .ok true) :
    disk.makeDirectory path = (disk, .error (.system .alreadyExists (some path.text))) := by
  obtain ⟨place, found⟩ := isDirectory_iff.1 standing
  rw [makeDirectory, found]

theorem ensureDirectory_of_isDirectory (standing : disk.isDirectory path = .ok true) :
    disk.ensureDirectory path = (disk, .ok ()) := by
  rw [ensureDirectory, makeDirectory_of_isDirectory standing]
  exact congrArg (Prod.mk disk) (tolerate_eq_ok_iff.2 standing)

theorem ensureDirectories_of_isDirectory (standing : disk.isDirectory path = .ok true) :
    disk.ensureDirectories path = (disk, .ok ()) := by
  unfold ensureDirectories
  rw [makeDirectory_of_isDirectory standing]
  exact congrArg (Prod.mk disk) (tolerate_eq_ok_iff.2 standing)

end Making

/-! ### Adding to files -/

section Append

variable {disk after : Disk} {path : Path} {place : Place} {name : String} {octets : List UInt8}

/-- The octets of the file at a place; none if there is no file. -/
def octetsAt (disk : Disk) (place : Place) : List UInt8 :=
  match disk.get? place with
  | some (.file octets) => octets
  | _ => []

theorem get?_of_octetsAt_ne_nil (filled : disk.octetsAt place ≠ []) :
    disk.get? place = some (.file (disk.octetsAt place)) := by
  unfold octetsAt at filled ⊢
  split at filled
  · rename_i found
    rw [found]
  · exact absurd rfl filled

theorem octetsAt_put (root : place ≠ []) (other : Place) :
    (disk.put place (.file octets)).octetsAt other =
      if other = place then octets else disk.octetsAt other := by
  unfold octetsAt
  rw [get?_put]
  by_cases same : other = place
  · subst same
    rw [if_neg root, if_pos rfl, if_pos rfl]
  · rw [if_neg same, if_neg same]
    by_cases atRoot : other = []
    · subst atRoot
      rfl
    · rw [if_neg atRoot]

theorem append_of_error {error : DiskError}
    (refused : disk.append path octets = (after, .error error)) : after = disk := by
  unfold append at refused
  split at refused <;> cases refused
  rfl

theorem append_child_eq_ok_iff (spelled : path.Spelled) (filled : path.names ≠ [])
    (directory : disk.target path.text = .ok (.entry place .directory))
    (proper : EntryName name) :
    disk.append (path.child name) octets = (after, .ok ()) ↔
      (Fits path name ∧ disk.get? (place ++ [name]) ≠ some .directory) ∧
        after = disk.put (place ++ [name]) (.file (disk.octetsAt (place ++ [name]) ++ octets)) := by
  have leads (goal : Target) : disk.target (path.child name).text = .ok goal ↔ _ :=
    target_child_iff spelled filled directory proper
  unfold append filePlace octetsAt
  constructor
  · intro added
    cases found : disk.target (path.child name).text with
    | error => simp [found] at added
    | ok goal =>
        obtain ⟨fits, rfl⟩ := (leads goal).1 found
        rw [found] at added
        cases present : disk.get? (place ++ [name]) with
        | none =>
            rw [present] at added
            cases added
            exact ⟨⟨fits, nofun⟩, rfl⟩
        | some entry =>
            rw [present] at added
            cases entry with
            | directory => cases added
            | file =>
                cases added
                exact ⟨⟨fits, nofun⟩, rfl⟩
  · rintro ⟨⟨fits, free⟩, rfl⟩
    rw [(leads _).2 ⟨fits, rfl⟩]
    cases present : disk.get? (place ++ [name]) with
    | none => rfl
    | some entry =>
        cases entry with
        | directory => exact absurd present free
        | file => rfl

end Append

end Disk

end Spreadsheet
