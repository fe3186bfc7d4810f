import RowSieve.Reader

/-! The reading of an input that is all UTF-8, told by its lines at once: they are numbered
first, the header is looked for among them, and each line behind the header that counts gives
one item. -/
namespace RowSieve.Reader

/-- The last piece counts only if there is something in it. -/
def filled (all : List Text) : List Text := if all.getLast? = some [] then all.dropLast else all

def pieces (t : Text) : List Text := filled (t.splitOn '\n')

def unreturned (line : Text) : Text := (line.reverse.dropWhile (· == '\r')).reverse

/-- The lines without the returns at their ends, each with its number from 1. -/
def physicalLines (t : Text) : List (Text × Nat) := ((pieces t).map unreturned).zipIdx 1

def cells (s : Settings.Input) (line : Text) : List Text :=
  (line.splitOn s.delimiter.char).map fun cell => if s.trimFields then Text.trim cell else cell

/-- Whether a line behind the header gives an item: under a single column every line does. -/
def counts (header : List Text) (line : Text) : Bool := header.length == 1 || !line.isEmpty

def lineItem (s : Settings.Input) (header : List Text) (line : Text) (number : Nat) : Item :=
  if (cells s line).length = header.length then .ok (number, ⟨header.zip (cells s line)⟩)
  else .error (.fieldCount number header.length (cells s line).length)

def lineItems (s : Settings.Input) (header : List Text) (lines : List (Text × Nat)) : List Item :=
  (lines.filter fun (line, _) => counts header line).map fun (line, number) =>
    lineItem s header line number

/-- The lines are empty up to the first one with something in it. -/
structure HeaderAt (lines : List (Text × Nat)) (first : Text) (number : Nat)
    (later : List (Text × Nat)) : Prop where
  shown : first ≠ []
  before : ∃ empty : List (Text × Nat), (∀ line ∈ empty, line.1 = []) ∧
    lines = empty ++ (first, number) :: later

structure Reading (s : Settings.Input) (lines : List (Text × Nat))
    (outcome : Except ReadError Opened) : Prop where
  empty : (∀ line ∈ lines, line.1 = []) →
    ∃ opened, outcome = .ok opened ∧ opened.header = [] ∧ opened.items s = []
  repeated : ∀ first number later, HeaderAt lines first number later →
    ¬(cells s first).Nodup →
    ∃ before name after, cells s first = before ++ name :: after ∧ before.Nodup ∧ name ∈ before ∧
      outcome = .error (.duplicateColumn number name)
  items : ∀ first number later, HeaderAt lines first number later → (cells s first).Nodup →
    ∃ opened, outcome = .ok opened ∧ opened.header = cells s first ∧
      opened.items s = lineItems s (cells s first) later

end RowSieve.Reader
