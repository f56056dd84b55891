import Spreadsheet.Journal.Limit
import Spreadsheet.Journal.Sink

/-!
# Hosts

What a program runs on: a disk, a clock, the logs that events go to, and the warnings
that were given. Recording an event never fails; what goes wrong is at most told in a
warning.
-/

set_option autoImplicit false

namespace Spreadsheet

/-- The state around a program. Logs are read with at most so many `levels`. `time` is the text of
the present moment and `seconds` its distance from some fixed one. Sessions to come take their
names from `sessionNames`. -/
structure Host where
  disk : Disk
  levels : Journal.Levels
  sink : Option Journal.Sink
  time : String
  seconds : Nat
  lastWarning : Option Nat
  warnings : List String
  sessionNames : List String
deriving DecidableEq

/-- Why events cannot be sent to the logs of a project. -/
inductive AttachError where
  | config (error : ConfigError)
  | limit (error : Journal.LimitError)
  | disk (error : DiskError)
deriving DecidableEq, Repr

def AttachError.message? : AttachError → Option String
  | config error => some error.message
  | limit error => error.message?
  | disk error => some error.message

namespace Host

def start (disk : Disk) (levels : Journal.Levels) (time : String) (seconds : Nat)
    (sessionNames : List String) : Host :=
  ⟨disk, levels, none, time, seconds, none, [], sessionNames⟩

def warningInterval : Nat := 60

def warn (host : Host) (text : String) : Host :=
  match host.lastWarning with
  | some last =>
    if host.seconds < last + warningInterval then host
    else { host with lastWarning := some host.seconds, warnings := host.warnings ++ [text] }
  | none => { host with lastWarning := some host.seconds, warnings := host.warnings ++ [text] }

/-- Records an event, for a session if one is named. Without logs nothing is recorded. -/
def record (host : Host) (event : Journal.Event) (session : Option String) : Host :=
  match host.sink with
  | none => host
  | some sink =>
    match sink.write host.disk event.truncated session with
    | (disk, .ok ()) => { host with disk }
    | (disk, .error error) => { host with disk }.warn s!"logging failed: {error.message}"

def detach (host : Host) : Host := { host with sink := none }

def attach (host : Host) (directory : Path) (readLimit : Int) :
    Host × Except DiskError Unit :=
  match Journal.Sink.create host.disk directory readLimit host.levels with
  | (disk, .ok sink) => ({ host with disk, sink := some sink }, .ok ())
  | (disk, .error error) => ({ host with disk }, .error error)

/-- Sends events to the logs of a directory from now on, as a configuration wants it. -/
def useConfig (host : Host) (project : Path) (config : Config) : Host × Except AttachError Unit :=
  if !config.isSet "logging_enabled" true then (host.detach, .ok ())
  else
    match Journal.limitOf (config.get? "logging_tail_bytes") with
    | .error error => (host, .error (.limit error))
    | .ok readLimit =>
      let (host, result) := host.attach project readLimit
      (host, result.mapError AttachError.disk)

/-- Sends events to the logs of a project from now on, as its configuration wants it. A
configuration that cannot be read counts as empty, unless what is wrong is unforeseen. -/
def useProject (host : Host) (project : Path) : Host × Except AttachError Unit :=
  match Config.load host.disk project with
  | .ok config => host.useConfig project config
  | .error error =>
    if error.isUnforeseen then (host, .error (.config error))
    else
      (host.warn s!"could not read project config: {error.message}").useConfig project ⟨[]⟩

def takeName (host : Host) : Host × String :=
  match host.sessionNames with
  | [] => (host, "")
  | name :: rest => ({ host with sessionNames := rest }, name)

end Host

end Spreadsheet
