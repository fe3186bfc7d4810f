import RowSieve.Cli.Disk

/-! What a run is asked for and what it leaves, told apart from the order in which it works: the
job that the options name, wherever its parts lie, and where the bytes that the job writes go. -/
namespace RowSieve.Cli

/-- Both trees hold the same files, those at the given places apart. -/
def FileTree.SameBut (places : List Place) (before after : FileTree) : Prop :=
  ∀ p ∉ places, after.files.lookup p = before.files.lookup p

structure Job where
  settings : Settings
  program : Text
  input : Bytes

/-- The bytes that the job writes, if it succeeds. -/
def Job.written (job : Job) : Except RunError Bytes := do
  let p ← (Run.compile job.program).result
  let finished := run p job.settings job.input none
  finished.result.map fun _ => finished.written

def Devices.HasRoom (d : Devices) (o : RunOptions) (bytes : Bytes) : Prop :=
  ∀ limit ∈ d.limit? o, bytes.length ≤ limit.room

/-- What the job writes, if it succeeds, has room on the device that it goes to. -/
def Job.Fits (job : Job) (d : Devices) (o : RunOptions) : Prop :=
  ∀ bytes, job.written = .ok bytes → d.HasRoom o bytes

namespace Machine

/-- The machine once the log of a run is open; as it is if that fails. -/
def logged (m : Machine) (o : RunOptions) : Machine :=
  match m.ready o with
  | .ok r => r.machine
  | .error _ => m

def logPlace? (m : Machine) (o : RunOptions) : Option Place :=
  match m.ready o with
  | .ok r => r.logger.file
  | .error _ => none

/-- The place that a path of a run leads to. -/
def placeOf (m : Machine) (o : RunOptions) (path : Text) : Except OsError Place :=
  (m.logged o).files.place m.cwd path

/-- The log file is none of the files that the paths of the run lead to. -/
def LogApart (m : Machine) (o : RunOptions) : Prop :=
  ∀ log ∈ m.logPlace? o, ∀ path ∈ (Command.run o).paths, m.placeOf o path ≠ .ok log

/-- The path leads to a file that holds these bytes before the run. -/
def Holds (m : Machine) (o : RunOptions) (path : Text) (content : Bytes) : Prop :=
  ∃ place, m.placeOf o path = .ok place ∧ m.files.files.lookup place = some content

/-- The settings are those of the configuration file, or else the defaults, with the delimiter
of the command line in place of both; relative paths count from the folder `base`. -/
def Configured (m : Machine) (o : RunOptions) (s : Settings) (base : Place) : Prop :=
  ∃ own,
    (match o.config with
      | none => own = .default ∧ base = m.cwd
      | some path => m.configured path = .ok (own, base)) ∧
    match o.delimiter with
      | none => s = own
      | some t => ∃ d, Delimiter.parse t = .ok d ∧ s = own.withDelimiter d

/-- The run is asked for this job, and the log for it can be opened. -/
structure Asks (m : Machine) (o : RunOptions) (job : Job) : Prop where
  settings : ∃ base logger, m.Configured o job.settings base ∧
    openLog m.files job.settings.logging base = .ok ((m.logged o).files, logger)
  program : match o.program with
    | .inline t => job.program = t
    | .file path => m.Holds o path (Bytes.ofText job.program)
  input : match o.input with
    | none => job.input = m.stdin
    | some path => m.Holds o path job.input

/-- The output can be written where it is to go. -/
def Takes (m : Machine) (o : RunOptions) : Prop :=
  ∀ path ∈ o.output, ∃ place, (m.logged o).files.writable m.cwd path = .ok place

/-- The output is to go where the input comes from. -/
def InPlace (m : Machine) (o : RunOptions) : Prop :=
  ∃ input ∈ o.input, ∃ output ∈ o.output, ∃ place,
    m.placeOf o input = .ok place ∧ m.placeOf o output = .ok place

/-- All the bytes are on the output stream, with no file changed, or in the output file, with
nothing on the stream and no other file changed; the log file does not count. -/
def Delivered (m : Machine) (o : RunOptions) (after : Outcome) (bytes : Bytes) : Prop :=
  match o.output with
  | none => after.stdout = bytes ∧ m.files.SameBut (m.logPlace? o).toList after.files
  | some path => after.stdout = [] ∧ ∃ place, m.placeOf o path = .ok place ∧
      after.files.files.lookup place = some bytes ∧
      m.files.SameBut (place :: (m.logPlace? o).toList) after.files

/-- The output stream is empty and no file but the log file is changed. -/
def Untouched (m : Machine) (o : RunOptions) (after : Outcome) : Prop :=
  after.stdout = [] ∧ m.files.SameBut (m.logPlace? o).toList after.files

/-- The job is done but its output did not fit on the device, which has what it took of it. -/
def CutShort (m : Machine) (d : Devices) (o : RunOptions) (after : Outcome) : Prop :=
  ∃ job bytes, m.Asks o job ∧ job.written = .ok bytes ∧ m.Takes o ∧
    ∃ limit ∈ d.limit? o, limit.room < bytes.length ∧
      m.Delivered o after (bytes.take limit.room)

end Machine
end RowSieve.Cli
