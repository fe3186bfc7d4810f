import RowSieve.Cli.Arguments
import RowSieve.Cli.Files
import RowSieve.Program.Explain
import RowSieve.Program.Report
import RowSieve.Settings.Decode
import RowSieve.Log.Directive
import RowSieve.Log.Plain
import RowSieve.Log.JsonLine
import RowSieve.Run

/-! Carrying out a command: from the arguments and what the machine holds to the exit code,
both output streams and the files afterwards. A command that fails says why on the error
stream and exits with 1; arguments that make no command exit with 2. The devices that a run writes
its output to may fail on the way. The log filter is that of the settings alone, as where the
environment names none. -/
namespace RowSieve.Cli

structure Machine where
  files : FileTree
  cwd : Place
  stdin : Bytes
  time : Text
  deriving DecidableEq, Repr

/-- A device that fails once it has taken `room` bytes, and in what words. -/
structure Limit where
  room : Nat
  why : Text
  deriving DecidableEq, Repr

structure Devices where
  stdout : Option Limit
  disk : Option Limit
  deriving DecidableEq, Repr

namespace Devices

def sound : Devices := ⟨none, none⟩

/-- The limit of the device that the output goes to. -/
def limit? (d : Devices) (o : RunOptions) : Option Limit :=
  match o.output with
  | none => d.stdout
  | some _ => d.disk

end Devices

structure Outcome where
  code : Nat
  stdout : Bytes
  stderr : Text
  files : FileTree
  deriving DecidableEq, Repr

def failed (files : FileTree) (stdout : Bytes) (log message : Text) : Outcome :=
  ⟨1, stdout, log ++ "Error: ".toList ++ message ++ ['\n'], files⟩

namespace Machine

def readText (m : Machine) (path shown : Text) : Except Text Text :=
  let failure (why : Text) := "failed to read ".toList ++ shown ++ ": ".toList ++ why
  match m.files.read m.cwd path with
  | .error e => .error (failure e.message)
  | .ok content =>
    match content.toText? with
    | some t => .ok t
    | none => .error (failure "stream did not contain valid UTF-8".toList)

def program (m : Machine) : Source → Except Text Text
  | .inline t => .ok t
  | .file path => m.readText path path

/-- The settings of a configuration file and the folder it lies in. -/
def configured (m : Machine) (path : Text) : Except Text (Settings × Place) :=
  match m.files.existing m.cwd path with
  | .error e => .error ("config path '".toList ++ path ++ "': ".toList ++ e.message)
  | .ok place => do
    let shown := FileTree.render place
    let t ← m.readText shown shown
    match Settings.parse t with
    | .ok s => return (s, place.dropLast)
    | .error e => throw (shown ++ ": ".toList ++ e.report t)

/-- The settings of the configuration file or the defaults, and the folder that relative paths
count from. -/
def ownSettings (m : Machine) (o : RunOptions) : Except Text (Settings × Place) :=
  match o.config with
  | some path => m.configured path
  | none => .ok (.default, m.cwd)

/-- The settings with the delimiter of the command line, if there is one, in place of both. -/
def delimited (o : RunOptions) (own : Settings) : Except Text Settings :=
  match o.delimiter with
  | none => .ok own
  | some t =>
    match Delimiter.parse t with
    | .ok d => .ok (own.withDelimiter d)
    | .error why => .error why.message

def settings (m : Machine) (o : RunOptions) : Except Text (Settings × Place) := do
  let (own, base) ← m.ownSettings o
  return (← delimited o own, base)

end Machine

structure Logger where
  filter : Log.Filter
  format : Settings.LogFormat
  file : Option Place
  deriving DecidableEq, Repr

namespace Logger

def stderrLine (l : Logger) (time : Text) (e : Log.Event) : Text :=
  match l.format with
  | .plain => e.plainLine true time
  | .json => e.jsonLine time

def fileLine (l : Logger) (time : Text) (e : Log.Event) : Text :=
  match l.format with
  | .plain => e.plainLine false time
  | .json => e.jsonLine time

def stderr (l : Logger) (time : Text) (events : List Log.Event) : Text :=
  (events.filter l.filter.passes).flatMap (l.stderrLine time)

/-- The files after the events have been added to the log file. -/
def record (l : Logger) (time : Text) (events : List Log.Event) (files : FileTree) : FileTree :=
  match l.file with
  | none => files
  | some place =>
    files.append place
      (Bytes.ofText ((events.filter l.filter.passes).flatMap (l.fileLine time)))

end Logger

def openLogFile (files : FileTree) (path : Text) : Except Text (FileTree × Place) :=
  let names := (FileTree.namesOf path).filter (· ≠ ['.'])
  match names.getLast? with
  | none => .error "log file path has no parent directory".toList
  | some name =>
    if name = ['.', '.'] then .error "log file path has no file name".toList
    else match files.makeFolders [] names.dropLast with
      | .error e => .error e.message
      | .ok (files, folder) =>
        let place := folder ++ [name]
        match files.node place with
        | .folder => .error OsError.isAFolder.message
        | _ => .ok (files.append place [], place)

def openLog (files : FileTree) (s : Settings.Logging) (base : Place) :
    Except Text (FileTree × Logger) :=
  match Log.Filter.parse s.directives with
  | .error e =>
    .error ("invalid log filter '".toList ++ s.directives ++ "': ".toList ++ e.message)
  | .ok filter =>
    match s.path? (FileTree.render base) with
    | none => .ok (files, ⟨filter, s.format, none⟩)
    | some path => do
      let (files, place) ← openLogFile files path
      return (files, ⟨filter, s.format, some place⟩)

def showPath : Option Text → Text
  | none => "None".toList
  | some path => "Some(".toList ++ Text.escapedPath path ++ ")".toList

def startingEvent (o : RunOptions) : Log.Event :=
  ⟨.debug, "rowfilter::cmd_run".toList, "starting run".toList,
    [Run.inDomain "sys", ("input".toList, .plain (showPath o.input)),
      ("output".toList, .plain (showPath o.output))]⟩

/-- A run whose settings are read and whose log is open. -/
structure Ready where
  settings : Settings
  machine : Machine
  logger : Logger
  deriving DecidableEq

def Machine.ready (m : Machine) (o : RunOptions) : Except Text Ready := do
  let (s, base) ← m.settings o
  let (files, logger) ← openLog m.files s.logging base
  return ⟨s, { m with files }, logger⟩

/-- The input of a run. A folder can be opened and fails at its first line. -/
def inputOf (m : Machine) (o : RunOptions) : Except RunError Bytes :=
  match o.input with
  | none => .ok m.stdin
  | some path =>
    match m.files.read m.cwd path with
    | .ok content => .ok content
    | .error .isAFolder => .error (.unreadable (RunError.lineLabel 1) OsError.isAFolder.message)
    | .error e => .error (.unreadable path e.message)

structure Ran where
  events : List Log.Event
  result : Except RunError Stats
  stdout : Bytes
  files : FileTree

/-- Writes a file. It is made or emptied first, so that a disk that fails leaves it cut short. -/
def store (m : Machine) (disk : Option Limit) (path : Text) (bytes : Bytes) :
    FileTree × Except RunError Unit :=
  match m.files.writable m.cwd path with
  | .error e => (m.files, .error (.unwritable path e.message))
  | .ok place =>
    match disk.filter fun limit => limit.room < bytes.length with
    | none => (m.files.put place bytes, .ok ())
    | some limit =>
      (m.files.put place (bytes.take limit.room), .error (.unwritable path limit.why))

/-- Runs the program between the input and the output. The output stream is written by the run
itself; an output file is written after the run, and only if that has succeeded. -/
def runBetween (m : Machine) (d : Devices) (s : Settings) (o : RunOptions) (p : Program) : Ran :=
  match inputOf m o with
  | .error e => ⟨[], .error e, [], m.files⟩
  | .ok input =>
    match o.output with
    | none =>
      let finished := run p s input (d.stdout.map Limit.room)
      ⟨finished.events, finished.result, finished.written, m.files⟩
    | some path =>
      let finished := run p s input none
      match finished.result with
      | .error e => ⟨finished.events, .error e, [], m.files⟩
      | .ok stats =>
        let (files, stored) := store m d.disk path finished.written
        ⟨finished.events, stored.map fun _ => stats, [], files⟩

/-- How an error of a run is told. An output stream that takes no more tells why itself. -/
def Devices.tell (d : Devices) (e : RunError) : Text :=
  match e, d.stdout with
  | .full, some limit => e.messageWith limit.why
  | _, _ => e.message

/-- Carries out a run. Its files are looked up only once the log is open. -/
def executeRun (m : Machine) (o : RunOptions) (d : Devices := .sound) : Outcome :=
  match m.ready o with
  | .error message => failed m.files [] [] message
  | .ok ⟨s, m, logger⟩ =>
    match m.program o.program with
    | .error message => failed m.files [] [] message
    | .ok t =>
      let compiled := Run.compile t
      match compiled.result with
      | .error e =>
        failed (logger.record m.time compiled.events m.files) []
          (logger.stderr m.time compiled.events) e.message
      | .ok p =>
        let ran := runBetween m d s o p
        let events := compiled.events ++ startingEvent o :: ran.events
        let files := logger.record m.time events ran.files
        match ran.result with
        | .error e => failed files ran.stdout (logger.stderr m.time events) (d.tell e)
        | .ok _ => ⟨0, ran.stdout, logger.stderr m.time events, files⟩

def executeCheck (m : Machine) (source : Source) : Outcome :=
  match m.program source with
  | .error message => failed m.files [] [] message
  | .ok t =>
    match Program.parse t with
    | .error e => failed m.files [] (e.report false ++ ['\n']) "program rejected".toList
    | .ok p =>
      let lines := p.lint.map (Warning.report false) ++ [Warning.summary false p.lint.length]
      ⟨0, [], lines.flatMap (· ++ ['\n']), m.files⟩

def executeExplain (m : Machine) (source : Source) : Outcome :=
  match m.program source with
  | .error message => failed m.files [] [] message
  | .ok t =>
    match Program.parse t with
    | .error e => failed m.files [] [] e.message
    | .ok p => ⟨0, Bytes.ofText (p.explain.render false), [], m.files⟩

def execute (m : Machine) (c : Command) (d : Devices := .sound) : Outcome :=
  match c with
  | .run o => executeRun m o d
  | .check source => executeCheck m source
  | .explain source => executeExplain m source

def executeArguments (m : Machine) (args : List Text) (d : Devices := .sound) : Outcome :=
  match Command.parse? args with
  | some c => execute m c d
  | none => ⟨2, [], [], m.files⟩

end RowSieve.Cli
