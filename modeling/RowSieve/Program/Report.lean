import RowSieve.Program.Lint
import RowSieve.SyntaxError
import RowSieve.Terminal

/-! What checking a program shows: the error with a caret below the rejected text, or
the warnings and their number. -/
namespace RowSieve

open Terminal

/-- The error, the text it is about, and a caret under the character where reading
stopped. -/
def SyntaxError.report (color : Bool) (e : SyntaxError) : Text :=
  paint color .boldRed "error".toList ++ ": ".toList ++ e.message ++
    "\n  ".toList ++ e.text ++
    "\n  ".toList ++ List.replicate e.column ' ' ++ ['^']

def Warning.report (color : Bool) (w : Warning) : Text :=
  paint color .boldOrange ("warning[".toList ++ w.code ++ [']']) ++
    " in ".toList ++ w.part.label ++ ": ".toList ++ w.message

/-- The closing line; only the good news is coloured. -/
def Warning.summary (color : Bool) (count : Nat) : Text :=
  if count = 0 then paint color .boldGreen "No issues found.".toList
  else Text.decimal count ++ " warning(s)".toList

end RowSieve
