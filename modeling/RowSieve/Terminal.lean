import RowSieve.Text

/-! Colours on a terminal: a text is put between a select-graphic-rendition sequence and
the sequence that resets it. Removing such sequences gives the plain text again. -/
namespace RowSieve.Terminal

inductive Style where
  | bold
  | dim
  | italic
  | red
  | green
  | yellow
  | blue
  | magenta
  | cyan
  | boldRed
  | boldGreen
  | boldCyan
  | boldOrange
  deriving DecidableEq, Repr

def Style.parameters : Style → Text
  | bold => "1".toList
  | dim => "2".toList
  | italic => "3".toList
  | red => "31".toList
  | green => "32".toList
  | yellow => "33".toList
  | blue => "34".toList
  | magenta => "35".toList
  | cyan => "36".toList
  | boldRed => "1;31".toList
  | boldGreen => "1;32".toList
  | boldCyan => "1;36".toList
  | boldOrange => "1;38;5;208".toList

def escape : Char := '\x1b'

def sequence (parameters : Text) : Text := escape :: '[' :: parameters ++ ['m']

/-- The text in the given style, or as it is where `color` is off. -/
def paint (color : Bool) (style : Style) (t : Text) : Text :=
  if color then sequence style.parameters ++ t ++ sequence ['0'] else t

inductive Mode where
  | plain
  | escaped
  | inside
  deriving DecidableEq, Repr

/-- Removes every sequence from an escape character and `[` up to the next `m`. -/
def stripFrom : Mode → Text → Text
  | .plain, [] => []
  | .plain, c :: t => if c = escape then stripFrom .escaped t else c :: stripFrom .plain t
  | .escaped, [] => [escape]
  | .escaped, c :: t =>
    if c = '[' then stripFrom .inside t
    else if c = escape then escape :: stripFrom .escaped t
    else escape :: c :: stripFrom .plain t
  | .inside, [] => []
  | .inside, c :: t => if c = 'm' then stripFrom .plain t else stripFrom .inside t

def strip (t : Text) : Text := stripFrom .plain t

end RowSieve.Terminal
