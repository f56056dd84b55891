import Spreadsheet.Clock
import Spreadsheet.CommandLine.Footprint
import Std.Time.DateTime.Timestamp

/-!
# The program itself

Brings in the part of the disk that a run can look at, runs it, and writes back what has
changed. Lines of an interactive session are read one at a time.
-/

set_option autoImplicit false

namespace Spreadsheet.Main

def placeText (place : Place) : String := "/" ++ "/".intercalate place

def probe (place : Place) : IO (Option Entry) := do
  match ← (IO.FS.readBinFile (placeText place)).toBaseIO with
  | .ok octets => pure (some (.file octets.toList))
  | .error (.inappropriateType ..) => pure (some .directory)
  | .error (.noFileOrDirectory ..) => pure none
  | .error _ => pure none

/-- Brings in what stands on the way along some names, up to the first gap. -/
def bringNames (disk : Disk) (place : Place) : List String → IO Disk
  | [] => pure disk
  | name :: rest => do
    let place := Disk.enter place name
    if place = [] then bringNames disk place rest
    else
      match ← probe place with
      | none => pure { disk with entries := disk.entries.erase place }
      | some (.file octets) => pure (disk.put place (.file octets))
      | some .directory => bringNames (disk.put place .directory) place rest

def bringPath (disk : Disk) (path : String) : IO Disk :=
  bringNames disk (disk.startOf path) ((Path.parts path.toList).map String.ofList)

def bringPaths (disk : Disk) (paths : List String) : IO Disk := paths.foldlM bringPath disk

def firstDisk : IO Disk := do
  let names := ((Path.ofText (← IO.currentDir).toString).names)
  bringNames ⟨∅, names⟩ [] names

/-- Writes an entry that has changed. What was added to a file is added to it. -/
def writeEntry (before : Disk) (place : Place) (entry : Entry) : IO Unit :=
  match before.get? place, entry with
  | none, .directory => IO.FS.createDir (placeText place)
  | some (.file known), .file octets =>
    if known = octets then pure ()
    else if known.isPrefixOf octets then do
      let handle ← IO.FS.Handle.mk (placeText place) .append
      handle.write ⟨(octets.drop known.length).toArray⟩
    else IO.FS.writeBinFile (placeText place) ⟨octets.toArray⟩
  | _, .file octets => IO.FS.writeBinFile (placeText place) ⟨octets.toArray⟩
  | some _, .directory => pure ()

def writeBack (before after : Disk) : IO Unit :=
  after.entries.rows.forM fun (place, entry) => writeEntry before place entry

/-- The host at the present moment. -/
def refresh (host : Host) : IO Host := do
  let now ← Std.Time.Timestamp.now
  let microseconds := now.toNanosecondsSinceUnixEpoch.val.toNat / 1000
  let milliseconds ← IO.monoMsNow
  pure { host with time := Clock.text microseconds, seconds := milliseconds / 1000 }

def newName : IO String := do
  let octets ← IO.getRandomBytes 6
  let digits := octets.toList.flatMap fun octet =>
    [Nat.digitChar (octet.toNat / 16), Nat.digitChar (octet.toNat % 16)]
  pure (String.ofList digits)

def report (run : CommandLine.Run) : IO UInt32 := do
  IO.print run.output
  IO.eprint run.complaints
  match run.ending with
  | .misused => IO.eprintln "Usage: gridcalc [OPTIONS] COMMAND [ARGS]..."
  | .broken fault => IO.eprintln ((fault.message?).getD "unexpected value in the log")
  | _ => pure ()
  pure run.ending.exitCode.toUInt32

/-- Tells the user about warnings, which are told only once. -/
def tellWarnings (host : Host) : IO Host := do
  IO.eprint (CommandLine.Run.finished host "").complaints
  pure { host with warnings := [] }

def close (before : Disk) (turn : Turn) (ending : CommandLine.Ending) (output : String) :
    IO UInt32 := do
  let host := turn.session.finish Host.recorder turn.host
  writeBack before host.disk
  report ⟨host, output, ending⟩

/-- Reads lines and runs them until the session is over. -/
partial def converse (input : IO.FS.Stream) (host : Host) (session : Session) : IO UInt32 := do
  IO.print (CommandLine.prompt session)
  (← IO.getStdout).flush
  let text ← input.getLine
  let host ← refresh host
  let line := ((Text.feedLines (Text.unifyLineEnds text.toList)).head?).getD []
  let disk ← bringPaths host.disk (CommandLine.linePaths host session line)
  let host := { host with disk }
  let turn :=
    if text = "" then session.run Host.recorder host .quit
    else session.execute Host.recorder host line
  match turn.reply with
  | .error error => close disk turn (.broken (.disk error)) ""
  | .ok reply =>
    let output := CommandLine.plain reply.printed
    if reply.quits then close disk turn .finished (output ++ CommandLine.farewell)
    else
      writeBack disk turn.host.disk
      IO.print output
      converse input (← tellWarnings turn.host) turn.session

def runShell (host : Host) (arguments : CommandLine.Arguments) : IO UInt32 := do
  let before := host.disk
  match CommandLine.openSession host arguments with
  | (host, .error ending) =>
    writeBack before host.disk
    report ⟨host, "", ending⟩
  | (host, .ok session) =>
    writeBack before host.disk
    IO.print CommandLine.greeting
    converse (← IO.getStdin) (← tellWarnings host) session

def run (words : List String) : IO UInt32 := do
  let request := CommandLine.Request.ofWords words
  let name ← newName
  let disk ← firstDisk
  let disk ← bringPaths disk (request.paths disk name)
  let disk ← bringPaths disk (request.paths disk name)
  let host ← refresh (Host.start disk .usual "" 0 [name])
  match request with
  | .call .shell arguments => runShell host arguments
  | request =>
    let run := request.run host []
    writeBack disk run.host.disk
    report run

end Spreadsheet.Main

def main (words : List String) : IO UInt32 := Spreadsheet.Main.run words
