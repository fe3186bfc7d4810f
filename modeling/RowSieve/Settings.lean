import RowSieve.Delimiter
import RowSieve.Log.Level

/-! The settings of a run: how rows are read, how they are written and what is logged.
Every setting has a default. -/
namespace RowSieve

namespace Settings

structure Input where
  delimiter : Delimiter
  trimFields : Bool
  deriving DecidableEq

structure Output where
  delimiter : Delimiter
  header : Bool
  deriving DecidableEq

inductive LogFormat where
  | plain
  | json
  deriving DecidableEq, Repr

structure Logging where
  level : Text
  modules : List (Text × Text)
  file : Option Text
  format : LogFormat
  deriving DecidableEq, Repr

def Input.default : Input := ⟨.comma, false⟩

def Output.default : Output := ⟨.comma, true⟩

def Logging.default : Logging := ⟨"warn".toList, [], none, .plain⟩

def LogFormat.name : LogFormat → Text
  | plain => "plain".toList
  | json => "json".toList

def LogFormat.all : List LogFormat := [.plain, .json]

def LogFormat.ofName? (t : Text) : Option LogFormat := all.find? fun f => f.name == t

/-- Where the log file lies: a relative path counts from the given directory. -/
def Logging.path? (l : Logging) (base : Text) : Option Text :=
  l.file.map fun file =>
    if file.head? = some '/' then file
    else if base.isEmpty || base.getLast? = some '/' then base ++ file
    else base ++ '/' :: file

/-- The thresholds as the text of a filter: the general one, then `module=level`. -/
def Logging.directives (l : Logging) : Text :=
  l.level ++ l.modules.flatMap fun (name, level) => ',' :: name ++ '=' :: level

end Settings

structure Settings where
  input : Settings.Input
  output : Settings.Output
  logging : Settings.Logging
  deriving DecidableEq

namespace Settings

def default : Settings := ⟨.default, .default, .default⟩

def withDelimiter (s : Settings) (d : Delimiter) : Settings :=
  { s with input.delimiter := d, output.delimiter := d }

end Settings
end RowSieve
