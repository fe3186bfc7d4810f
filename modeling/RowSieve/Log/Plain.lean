import RowSieve.Log.Event
import RowSieve.Terminal

/-! The plain layout of a log line: time, level, domain in brackets, message, fields. -/
namespace RowSieve.Log

open Terminal

def Level.style : Level → Style
  | error => .red
  | warn => .yellow
  | info => .green
  | debug => .blue
  | trace => .magenta

namespace Event

def renderField : Text × Value → Text
  | (name, value) => name ++ '=' :: value.render

def renderFields (fields : List (Text × Value)) : Text :=
  (fields.map renderField).intersperse [' '] |>.flatten

def plainBody (color : Bool) (e : Event) : Text :=
  paint color e.level.style (Text.padLeft 5 ' ' e.level.name) ++ ' ' ::
    (match e.domain? with
      | none => []
      | some domain => paint color .boldCyan ('[' :: domain ++ [']']) ++ [' ']) ++
    e.message ++
    if e.rest.isEmpty then [] else ' ' :: paint color .italic (renderFields e.rest)

def plainLine (color : Bool) (time : Text) (e : Event) : Text :=
  paint color .dim time ++ ' ' :: e.plainBody color ++ ['\n']

end Event
end RowSieve.Log
