import Spreadsheet.Disk.Basic
import Spreadsheet.Sheet.Records

/-!
# Sheet files

Sheets kept on a disk as text records. A sheet that cannot be written as records leaves
its file as it was.
-/

set_option autoImplicit false

namespace Spreadsheet

/-- Why a sheet file cannot be read or written. -/
inductive FileError where
  | disk (error : DiskError)
  | record (error : RecordError)
deriving DecidableEq, Repr

def FileError.message : FileError → String
  | disk error => error.message
  | record error => error.message

namespace Sheet

def load (disk : Disk) (path : Path) : Except FileError Sheet := do
  let octets ← (disk.read path).mapError FileError.disk
  (ofOctets octets).mapError FileError.record

def save (sheet : Sheet) (disk : Disk) (path : Path) : Disk × Except FileError Unit :=
  match sheet.toRecords with
  | .error error => (disk, .error (.record error))
  | .ok text =>
    let (disk, result) := disk.write path (Text.octets text)
    (disk, result.mapError FileError.disk)

end Sheet

end Spreadsheet
