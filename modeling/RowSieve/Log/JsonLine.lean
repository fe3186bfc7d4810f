import RowSieve.Log.Event

/-! The JSON layout of a log line: one object with time, level and the fields, of which
the message is the first. -/
namespace RowSieve.Log

namespace Json

def hexDigit (n : Nat) : Char := (Nat.toDigits 16 n).headD '0'

def escapeChar (c : Char) : Text :=
  if c = '"' then ['\\', '"']
  else if c = '\\' then ['\\', '\\']
  else if c = '\n' then ['\\', 'n']
  else if c = '\r' then ['\\', 'r']
  else if c = '\t' then ['\\', 't']
  else if c.toNat = 8 then ['\\', 'b']
  else if c.toNat = 12 then ['\\', 'f']
  else if c.toNat < 0x20 then
    ['\\', 'u', '0', '0', hexDigit (c.toNat / 16), hexDigit (c.toNat % 16)]
  else [c]

def string (t : Text) : Text := '"' :: t.flatMap escapeChar ++ ['"']

def object (members : List (Text × Text)) : Text :=
  '{' :: ((members.map fun (name, value) => string name ++ ':' :: value).intersperse
    [',']).flatten ++ ['}']

end Json

/-- Numbers and truth values stay what they are; all else becomes a string. -/
def Value.json : Value → Text
  | quoted t => Json.string t
  | debugged t => Json.string (Text.escaped t)
  | plain t => Json.string t
  | integer n => Text.signed n
  | boolean b => (boolean b).render

namespace Event

def jsonLine (time : Text) (e : Event) : Text :=
  Json.object [
    ("timestamp".toList, Json.string time),
    ("level".toList, Json.string e.level.name),
    ("fields".toList, Json.object
      (("message".toList, Json.string e.message) ::
        e.fields.map fun (name, value) => (name, value.json)))] ++ ['\n']

end Event
end RowSieve.Log
