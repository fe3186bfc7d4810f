import RowSieve.Bytes
import RowSieve.Record
import RowSieve.Settings

/-! Reading delimited rows. The first line that is not empty holds the column names, and
every later line must hold exactly as many fields. There is no quoting: a delimiter always
ends a field. Empty lines are passed over, but under a single column an empty line is a
record with one empty field. -/
namespace RowSieve

/-- What can be wrong with a line; each names the number of the line. -/
inductive ReadError where
  | notUtf8 (line : Nat)
  | duplicateColumn (line : Nat) (name : Text)
  | fieldCount (line expected found : Nat)
  deriving DecidableEq, Repr

namespace Reader

def trimReturns (t : Text) : Text :=
  (t.reverse.dropWhile fun c => c == '\r' || c == '\n').reverse

def fields (s : Settings.Input) (line : Text) : List Text :=
  (Text.split s.delimiter.char line).map fun f => if s.trimFields then Text.trim f else f

def duplicate? (seen : List Text) : List Text → Option Text
  | [] => none
  | name :: names => if seen.contains name then some name else duplicate? (name :: seen) names

/-- A reader past its header: the column names, the number of the last line that was read
and the lines still to come. Without a header there are no columns and no lines. -/
structure Opened where
  header : List Text
  line : Nat
  rest : List Bytes
  deriving DecidableEq, Repr

def openFrom (s : Settings.Input) : (number : Nat) → List Bytes → Except ReadError Opened
  | number, [] => .ok ⟨[], number, []⟩
  | number, raw :: rest =>
    match raw.toText? with
    | none => .error (.notUtf8 (number + 1))
    | some t =>
      if (trimReturns t).isEmpty then openFrom s (number + 1) rest
      else
        let header := fields s (trimReturns t)
        match duplicate? [] header with
        | some name => .error (.duplicateColumn (number + 1) name)
        | none => .ok ⟨header, number + 1, rest⟩

def start (s : Settings.Input) (input : Bytes) : Except ReadError Opened :=
  openFrom s 0 input.lines

/-- A record with the number of its line, or what is wrong with a line. -/
abbrev Item := Except ReadError (Nat × Record)

def item (header values : List Text) (number : Nat) : Item :=
  if values.length = header.length then .ok (number, .ofColumns header values)
  else .error (.fieldCount number header.length values.length)

/-- The items after the given number of lines. A line that is not UTF-8 is not counted. -/
def itemsFrom (s : Settings.Input) (header : List Text) :
    (number : Nat) → List Bytes → List Item
  | _, [] => []
  | number, raw :: rest =>
    match raw.toText? with
    | none => .error (.notUtf8 (number + 1)) :: itemsFrom s header number rest
    | some t =>
      if (trimReturns t).isEmpty && header.length != 1 then itemsFrom s header (number + 1) rest
      else
        item header (fields s (trimReturns t)) (number + 1) ::
          itemsFrom s header (number + 1) rest

/-- All that the reader gives after its header, past errors and up to the end. -/
def Opened.items (r : Opened) (s : Settings.Input) : List Item :=
  itemsFrom s r.header r.line r.rest

end Reader
end RowSieve
