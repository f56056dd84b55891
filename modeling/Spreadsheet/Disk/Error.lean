import Spreadsheet.Text.Quoted

/-!
# Disk errors

Why an operation on a disk fails. Errors of the system have a number and a fixed
wording, followed by the path they are about, if there is one.
-/

set_option autoImplicit false

namespace Spreadsheet

/-- The causes that the system gives. -/
inductive DiskCause where
  | notFound
  | alreadyExists
  | notDirectory
  | isDirectory
  | invalidArgument
  | nameTooLong
deriving DecidableEq, Repr

def DiskCause.number : DiskCause → Nat
  | notFound => 2
  | alreadyExists => 17
  | notDirectory => 20
  | isDirectory => 21
  | invalidArgument => 22
  | nameTooLong => 36

def DiskCause.wording : DiskCause → String
  | notFound => "No such file or directory"
  | alreadyExists => "File exists"
  | notDirectory => "Not a directory"
  | isDirectory => "Is a directory"
  | invalidArgument => "Invalid argument"
  | nameTooLong => "File name too long"

/-- Why an operation fails: the system refuses it, or the path cannot be handed to
the system. -/
inductive DiskError where
  | system (cause : DiskCause) (path : Option String)
  | nullCharacter
deriving DecidableEq, Repr

def DiskError.message : DiskError → String
  | system cause none => s!"[Errno {cause.number}] {cause.wording}"
  | system cause (some path) => s!"[Errno {cause.number}] {cause.wording}: {Text.quote path}"
  | nullCharacter => "embedded null byte"

end Spreadsheet
