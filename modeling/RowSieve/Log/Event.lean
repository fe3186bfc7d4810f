import RowSieve.Log.Level
import RowSieve.Text.Escaped

/-! A log event: a message with a level, the target that directives select by, and named
fields. A field named `domain` tells which concern of the program speaks. -/
namespace RowSieve.Log

/-- Quoted and debugged texts are shown in escaped form; as a domain a debugged one loses its outer
double quotes. -/
inductive Value where
  | quoted (t : Text)
  | debugged (t : Text)
  | plain (t : Text)
  | integer (n : Int)
  | boolean (b : Bool)
  deriving DecidableEq, Repr

def Value.render : Value → Text
  | quoted t => Text.escaped t
  | debugged t => Text.escaped t
  | plain t => t
  | integer n => Text.signed n
  | boolean true => "true".toList
  | boolean false => "false".toList

structure Event where
  level : Level
  target : Text
  message : Text
  fields : List (Text × Value)
  deriving DecidableEq, Repr

namespace Event

def domainName : Text := "domain".toList

/-- Takes the double quotes off both ends. -/
def trimQuotes (t : Text) : Text :=
  ((t.dropWhile (· == '"')).reverse.dropWhile (· == '"')).reverse

def domainText : Value → Text
  | .quoted t => t
  | value => trimQuotes value.render

/-- Whether a field tells the domain; a number or a truth value of that name does not. -/
def tellsDomain : Text × Value → Bool
  | (_, .integer _) | (_, .boolean _) => false
  | (name, _) => name == domainName

/-- The domain that was named last. -/
def domain? (e : Event) : Option Text :=
  ((e.fields.filter tellsDomain).getLast?).map fun (_, v) => domainText v

/-- The names by which a field can be asked for; the message counts as one. -/
def fieldNames (e : Event) : List Text := "message".toList :: e.fields.map Prod.fst

def rest (e : Event) : List (Text × Value) :=
  e.fields.filter fun field => !tellsDomain field

end Event
end RowSieve.Log
