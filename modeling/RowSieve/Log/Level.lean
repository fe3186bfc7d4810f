import RowSieve.Text

/-! Levels of log events and thresholds, which let pass what is at least as severe. -/
namespace RowSieve.Log

inductive Level where
  | error
  | warn
  | info
  | debug
  | trace
  deriving DecidableEq, Repr

namespace Level

def name : Level → Text
  | error => "ERROR".toList
  | warn => "WARN".toList
  | info => "INFO".toList
  | debug => "DEBUG".toList
  | trace => "TRACE".toList

/-- The more severe, the smaller. -/
def rank : Level → Nat
  | error => 1
  | warn => 2
  | info => 3
  | debug => 4
  | trace => 5

end Level

/-- A threshold is `off` or the least severe level that passes. -/
inductive Threshold where
  | off
  | level (l : Level)
  deriving DecidableEq, Repr

namespace Threshold

def passes (limit : Threshold) (l : Level) : Bool :=
  match limit with
  | off => false
  | level least => l.rank ≤ least.rank

def names : List (Text × Threshold) := [
  ("trace".toList, .level .trace), ("debug".toList, .level .debug),
  ("info".toList, .level .info), ("warn".toList, .level .warn),
  ("error".toList, .level .error), ("off".toList, .off)]

/-- A name counts in letters of either case. -/
def ofName? (t : Text) : Option Threshold :=
  (names.find? fun (name, _) => Text.sameLetters name t).map Prod.snd

end Threshold
end RowSieve.Log
