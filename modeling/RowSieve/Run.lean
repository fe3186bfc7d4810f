import RowSieve.Program.Parse
import RowSieve.Program.Lint
import RowSieve.Program.Render
import RowSieve.Program.Execute
import RowSieve.Reader
import RowSieve.Table
import RowSieve.Log.Event

/-! A run: every record of the input goes through the program, and the printed records are
written at the end, so that an error on the way leaves nothing written. The run also tells
its own log events in order; what is traced elsewhere of each record's branch is not among them. -/
namespace RowSieve

/-- What is unreadable is named by its path or by the line that was due; a full destination takes no
more. -/
inductive RunError where
  | rejected (e : SyntaxError)
  | evaluation (line : Nat) (e : EvalError)
  | input (e : ReadError)
  | unreadable (place why : Text)
  | full
  | unwritable (path why : Text)
  deriving DecidableEq, Repr

namespace RunError

def code : RunError → Nat
  | rejected _ => 3001
  | evaluation .. => 3002
  | input _ | unreadable .. => 3003
  | full | unwritable .. => 3004

def reason : RunError → Text
  | rejected _ => "program syntax error".toList
  | evaluation .. => "row evaluation error".toList
  | input _ | unreadable .. => "input error".toList
  | full | unwritable .. => "output error".toList

def lineLabel (line : Nat) : Text := "line ".toList ++ Text.decimal line

/-- Where the error arose, for errors that do not tell it in their detail. -/
def position? : RunError → Option Text
  | rejected _ => none
  | evaluation line _ => some (lineLabel line)
  | input (.notUtf8 line) => some (lineLabel line)
  | input _ => none
  | unreadable place _ => some place
  | full => none
  | unwritable path _ => some path

def detail : RunError → Text
  | rejected e => e.message
  | evaluation _ e => e.message
  | input (.notUtf8 _) => "stream did not contain valid UTF-8".toList
  | input (.duplicateColumn line name) =>
    lineLabel line ++ ": duplicate column ".toList ++ Text.accented name ++
      " in header".toList
  | input (.fieldCount line expected found) =>
    lineLabel line ++ ": expected ".toList ++ Text.decimal expected ++
      " fields, found ".toList ++ Text.decimal found
  | unreadable _ why => why
  | full => "sink full".toList
  | unwritable _ why => why

def messageWith (e : RunError) (detail : Text) : Text :=
  '[' :: Text.decimal e.code ++ "] ".toList ++ e.reason ++
    (match e.position? with
      | none => []
      | some place => "\n  -> At: ".toList ++ place) ++
    "\n  -> Details: ".toList ++ detail

def message (e : RunError) : Text := e.messageWith e.detail

end RunError

/-- What a run has counted: records read, records on which the query held, prints and
settings carried out. -/
structure Stats where
  rows : Nat
  matched : Nat
  printed : Nat
  mutated : Nat
  deriving DecidableEq, Repr

namespace Stats

def zero : Stats := ⟨0, 0, 0, 0⟩

def ofExecuted (x : Program.Executed) : Stats :=
  ⟨1, x.matched.toNat, x.done.effects.printed, x.done.effects.mutated⟩

def add (a b : Stats) : Stats :=
  ⟨a.rows + b.rows, a.matched + b.matched, a.printed + b.printed, a.mutated + b.mutated⟩

end Stats

namespace Run

open Log

def pipelineTarget : Text := "rf_runtime::pipeline".toList
def readerTarget : Text := "rf_runtime::reader".toList

def inDomain (domain : String) : Text × Value := (Event.domainName, .quoted domain.toList)

def warningEvent (w : Warning) : Event :=
  ⟨.warn, pipelineTarget, w.message, [inDomain "conf", ("code".toList, .quoted w.code)]⟩

def compiledEvent (p : Program) : Event :=
  ⟨.debug, pipelineTarget, "program compiled".toList,
    [inDomain "conf", ("program".toList, .plain p.render)]⟩

def headerEvent (columns : Nat) : Event :=
  ⟨.debug, readerTarget, "header read".toList,
    [inDomain "pipe", ("columns".toList, .integer columns)]⟩

def recordEvent (line : Nat) : Event :=
  ⟨.trace, readerTarget, "record read".toList,
    [inDomain "pipe", ("line".toList, .integer line)]⟩

def completeEvent (s : Stats) : Event :=
  ⟨.info, pipelineTarget, "run complete".toList,
    [inDomain "res", ("rows".toList, .integer s.rows), ("matched".toList, .integer s.matched),
      ("printed".toList, .integer s.printed), ("mutated".toList, .integer s.mutated)]⟩

structure Traced (α : Type) where
  events : List Event
  result : Except RunError α

/-- Reads the program; its warnings are events and do not keep it from running. -/
def compile (t : Text) : Traced Program :=
  match Program.parse t with
  | .error e => ⟨[], .error (.rejected e)⟩
  | .ok p => ⟨p.lint.map warningEvent ++ [compiledEvent p], .ok p⟩

structure Tally where
  stats : Stats
  printed : List Record
  deriving DecidableEq, Repr

namespace Tally

def empty : Tally := ⟨.zero, []⟩

def ofExecuted (x : Program.Executed) : Tally := ⟨.ofExecuted x, x.done.printed⟩

def append (a b : Tally) : Tally := ⟨a.stats.add b.stats, a.printed ++ b.printed⟩

end Tally

/-- Takes the items one by one up to the first error. -/
def feed (p : Program) : List Reader.Item → Traced Tally
  | [] => ⟨[], .ok .empty⟩
  | .error e :: _ => ⟨[], .error (.input e)⟩
  | .ok (line, r) :: items =>
    match p.execute r with
    | .error e => ⟨[recordEvent line], .error (.evaluation line e)⟩
    | .ok x =>
      let more := feed p items
      ⟨recordEvent line :: more.events, more.result.map (Tally.ofExecuted x).append⟩

structure Collected where
  stats : Stats
  table : Table
  deriving DecidableEq, Repr

def Collected.ofTally (columns : List Text) (t : Tally) : Collected :=
  ⟨t.stats, (Table.start columns).emitAll t.printed⟩

/-- Reads the header and takes all items. A header has at least one column. -/
def process (p : Program) (s : Settings.Input) (input : Bytes) : Traced Collected :=
  match Reader.start s input with
  | .error e => ⟨[], .error (.input e)⟩
  | .ok opened =>
    let taken := feed p (opened.items s)
    ⟨(if opened.header.isEmpty then [] else [headerEvent opened.header.length]) ++ taken.events,
      taken.result.map (.ofTally opened.header)⟩

/-- Hands the pieces to a destination that takes `room` bytes: what it has taken, and
whether that was everything. An empty piece never fails. -/
def takePieces (room : Nat) : List Bytes → Bytes × Bool
  | [] => ([], true)
  | piece :: pieces =>
    if piece.length ≤ room then
      let (taken, all) := takePieces (room - piece.length) pieces
      (piece ++ taken, all)
    else (piece.take room, false)

/-- The destination of a run, limited to a number of bytes or not at all. -/
def deliver (room : Option Nat) (pieces : List Bytes) : Bytes × Bool :=
  match room with
  | none => (pieces.flatten, true)
  | some room => takePieces room pieces

def bytePieces (t : Table) (layout : Table.Layout) : List Bytes :=
  (t.pieces layout).map Bytes.ofText

structure Finished where
  events : List Event
  result : Except RunError Stats
  written : Bytes

def layout (s : Settings.Output) : Table.Layout := ⟨s.delimiter.char, s.header⟩

end Run

open Run in
/-- Runs the program over the input, with `room` bytes for the output. -/
def run (p : Program) (s : Settings) (input : Bytes) (room : Option Nat) : Finished :=
  let processed := process p s.input input
  match processed.result with
  | .error e => ⟨processed.events, .error e, []⟩
  | .ok c =>
    let (written, all) := deliver room (bytePieces c.table (layout s.output))
    if all then ⟨processed.events ++ [completeEvent c.stats], .ok c.stats, written⟩
    else ⟨processed.events, .error .full, written⟩

end RowSieve
