import Spreadsheet.Collection.Table
import Spreadsheet.Disk.Error
import Spreadsheet.Disk.Path
import Spreadsheet.Text.Utf8

/-!
# Disks

A tree of directories and files as a value, with the operations that programs use
on it. Operations answer as the system does: which error arises follows from the
first name on the way that cannot be passed.
-/

set_option autoImplicit false

namespace Spreadsheet

/-- What stands at a place. -/
inductive Entry where
  | directory
  | file (octets : List UInt8)
deriving DecidableEq, Repr

/-- A place, as the names from the root on. -/
abbrev Place := List String

/-- A disk with the directory that relative paths start from. The root is always a
directory and has no entry. -/
structure Disk where
  entries : Table Place Entry
  workingPlace : Place
deriving DecidableEq

/-- Where a path leads: to an entry, or to a free name in a directory. -/
inductive Target where
  | entry (place : Place) (entry : Entry)
  | vacant (place : Place)
deriving DecidableEq, Repr

namespace Disk

def get? (disk : Disk) (place : Place) : Option Entry :=
  if place = [] then some .directory else disk.entries.get? place

def put (disk : Disk) (place : Place) (entry : Entry) : Disk :=
  { disk with entries := disk.entries.set place entry }

/-- The place that a name leads to from a directory. Nothing lies above the root. -/
def enter (place : Place) (name : String) : Place :=
  if name = "" ∨ name = "." then place
  else if name = ".." then place.dropLast
  else place ++ [name]

/-- The longest name, in octets. -/
def maxName : Nat := 255

/-- The longest path, in octets. -/
def maxPath : Nat := 4095

/-- Follows names from a place. Only directories can be passed. -/
def follow (disk : Disk) (place : Place) : List String → Except DiskCause Target
  | [] =>
    match disk.get? place with
    | some entry => .ok (.entry place entry)
    | none => .error .notFound
  | name :: rest =>
    match disk.get? place with
    | none => .error .notFound
    | some (.file _) => .error .notDirectory
    | some .directory =>
      if maxName < (Text.octets name).length then .error .nameTooLong
      else
        match disk.get? (enter place name), rest with
        | none, [] => .ok (.vacant (enter place name))
        | _, _ => disk.follow (enter place name) rest

/-- The place that a path starts from. -/
def startOf (disk : Disk) (path : String) : Place :=
  if path.toList.head? = some '/' then [] else disk.workingPlace

def target (disk : Disk) (path : String) : Except DiskError Target :=
  if '\x00' ∈ path.toList then .error .nullCharacter
  else if maxPath < (Text.octets path).length then .error (.system .nameTooLong (some path))
  else if path = "" then .error (.system .notFound (some path))
  else
    match disk.follow (disk.startOf path) ((Path.parts path.toList).map String.ofList) with
    | .ok target => .ok target
    | .error cause => .error (.system cause (some path))

def stat (disk : Disk) (path : String) : Except DiskError Entry :=
  match disk.target path with
  | .ok (.entry _ entry) => .ok entry
  | .ok (.vacant _) => .error (.system .notFound (some path))
  | .error error => .error error

/-- What stands where a path leads, if anything: a path that cannot be followed
leads to nothing. Other errors remain. -/
def look (disk : Disk) (path : String) : Except DiskError (Option Entry) :=
  match disk.stat path with
  | .ok entry => .ok (some entry)
  | .error .nullCharacter => .ok none
  | .error (.system .notFound _) => .ok none
  | .error (.system .notDirectory _) => .ok none
  | .error error => .error error

def exists? (disk : Disk) (path : Path) : Except DiskError Bool :=
  (disk.look path.text).map Option.isSome

def isDirectory (disk : Disk) (path : Path) : Except DiskError Bool :=
  (disk.look path.text).map (· == some .directory)

def read (disk : Disk) (path : Path) : Except DiskError (List UInt8) :=
  match disk.stat path.text with
  | .ok (.file octets) => .ok octets
  | .ok .directory => .error (.system .isDirectory (some path.text))
  | .error error => .error error

/-- The place of the file that a path leads to, or would lead to, with the octets
that are there. -/
def filePlace (disk : Disk) (path : Path) : Except DiskError (Place × List UInt8) :=
  match disk.target path.text with
  | .ok (.entry place (.file octets)) => .ok (place, octets)
  | .ok (.entry _ .directory) => .error (.system .isDirectory (some path.text))
  | .ok (.vacant place) => .ok (place, [])
  | .error error => .error error

/-- The disk after some octets have replaced those of a file. The file is created if
there is none. -/
def write (disk : Disk) (path : Path) (octets : List UInt8) : Disk × Except DiskError Unit :=
  match disk.filePlace path with
  | .ok (place, _) => (disk.put place (.file octets), .ok ())
  | .error error => (disk, .error error)

/-- The disk after some octets have been added to the end of a file. The file is
created if there is none. -/
def append (disk : Disk) (path : Path) (octets : List UInt8) : Disk × Except DiskError Unit :=
  match disk.filePlace path with
  | .ok (place, before) => (disk.put place (.file (before ++ octets)), .ok ())
  | .error error => (disk, .error error)

def makeDirectory (disk : Disk) (path : Path) : Disk × Except DiskError Unit :=
  match disk.target path.text with
  | .ok (.vacant place) => (disk.put place .directory, .ok ())
  | .ok (.entry ..) => (disk, .error (.system .alreadyExists (some path.text)))
  | .error error => (disk, .error error)

/-- An error in making a directory is none if the directory is there already. -/
def tolerate (disk : Disk) (path : Path) (error : DiskError) : Except DiskError Unit :=
  match error with
  | .nullCharacter => .error error
  | .system .. => do
    if ← disk.isDirectory path then pure () else throw error

/-- The disk with a directory at a path, whose parent is there. -/
def ensureDirectory (disk : Disk) (path : Path) : Disk × Except DiskError Unit :=
  match disk.makeDirectory path with
  | (disk, .ok ()) => (disk, .ok ())
  | (disk, .error (.system .notFound at?)) => (disk, .error (.system .notFound at?))
  | (disk, .error error) => (disk, disk.tolerate path error)

/-- The disk with a directory at a path and directories at all paths above it. -/
def ensureDirectories (disk : Disk) (path : Path) : Disk × Except DiskError Unit :=
  match disk.makeDirectory path with
  | (disk, .ok ()) => (disk, .ok ())
  | (disk, .error (.system .notFound at?)) =>
    if _h : path.names = [] then (disk, .error (.system .notFound at?))
    else
      match disk.ensureDirectories path.parent with
      | (disk, .ok ()) => disk.ensureDirectory path
      | (disk, .error error) => (disk, .error error)
  | (disk, .error error) => (disk, disk.tolerate path error)
termination_by path.names.length
decreasing_by
  have := List.length_pos_iff.2 _h
  simp only [Path.parent, List.length_dropLast]
  omega

end Disk

end Spreadsheet
