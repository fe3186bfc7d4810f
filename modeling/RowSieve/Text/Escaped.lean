import RowSieve.Text
import RowSieve.Text.Unprintable
import RowSieve.Text.Combining

/-! The escaped form of a text: between double quotes, with a backslash before what
would end it and a code point in braces for what could not be seen. Messages,
explanations and log fields show values in this form. -/
namespace RowSieve.Text

def codePoint (c : Char) : Text := '\\' :: 'u' :: '{' :: Nat.toDigits 16 c.toNat ++ ['}']

/-- `apostrophes` tells whether the single quote takes a backslash too. -/
def escapeChar (apostrophes : Bool) (c : Char) : Text :=
  if c = '"' then ['\\', '"']
  else if c = '\\' then ['\\', '\\']
  else if c = '\'' then (if apostrophes then ['\\', '\''] else ['\''])
  else if c = '\n' then ['\\', 'n']
  else if c = '\r' then ['\\', 'r']
  else if c = '\t' then ['\\', 't']
  else if c.toNat = 0 then ['\\', '0']
  else if isUnprintable c || isCombining c then codePoint c
  else [c]

def escapedWith (apostrophes : Bool) (t : Text) : Text :=
  '"' :: t.flatMap (escapeChar apostrophes) ++ ['"']

def escaped (t : Text) : Text := escapedWith false t

/-- The escaped form of a file path, where single quotes take a backslash as well. -/
def escapedPath (t : Text) : Text := escapedWith true t

end RowSieve.Text
