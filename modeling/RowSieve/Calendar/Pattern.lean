import RowSieve.Calendar.DateTime

/-! Patterns: the written forms of dates and of dates with a time. A pattern is a list of
items, each of which reads from the front of the text; a text has the form if nothing of
it is left and its parts make a date. -/
namespace RowSieve.Calendar

def digitsValue (ds : Text) : Nat := ds.foldl (fun n c => 10 * n + (c.toNat - '0'.toNat)) 0

def takeDigits : (limit : Nat) → Text → Text × Text
  | 0, t => ([], t)
  | _ + 1, [] => ([], [])
  | limit + 1, c :: t =>
    if c.isDigit then let (ds, rest) := takeDigits limit t; (c :: ds, rest) else ([], c :: t)

def number? (limit : Nat) (t : Text) : Option (Nat × Text) :=
  match takeDigits limit t with
  | ([], _) => none
  | (ds, rest) => some (digitsValue ds, rest)

structure Parts where
  year : Int
  month : Nat
  day : Nat
  hour : Nat
  minute : Nat
  second : Nat
  deriving DecidableEq, Repr

def Parts.start : Parts := ⟨0, 0, 0, 0, 0, 0⟩

inductive Item where
  | year
  | month
  | day
  | hour
  | minute
  | second
  | monthShort
  | monthLong
  | blanks
  | exactly (c : Char)
  deriving DecidableEq, Repr

def monthNames : List (Text × Text) := [
  ("jan".toList, "uary".toList), ("feb".toList, "ruary".toList), ("mar".toList, "ch".toList),
  ("apr".toList, "il".toList), ("may".toList, []), ("jun".toList, "e".toList),
  ("jul".toList, "y".toList), ("aug".toList, "ust".toList), ("sep".toList, "tember".toList),
  ("oct".toList, "ober".toList), ("nov".toList, "ember".toList), ("dec".toList, "ember".toList)]

/-- What follows a word at the front of the text, letters of either case. -/
def afterWord? (word t : Text) : Option Text :=
  if Text.sameLetters word (t.take word.length) then some (t.drop word.length) else none

/-- The month, counted from `n`, whose three letters stand at the front of the text, with
the letters that would complete its name. -/
def monthAmong? (n : Nat) (t : Text) : List (Text × Text) → Option (Nat × Text × Text)
  | [] => none
  | (letters, others) :: names =>
    match afterWord? letters t with
    | some rest => some (n, others, rest)
    | none => monthAmong? (n + 1) t names

/-- A year has up to four digits, or any number of digits after a sign. -/
def year? (t : Text) : Option (Int × Text) :=
  match Text.trimStart t with
  | '-' :: t => (number? t.length t).map fun (n, rest) => (-(n : Int), rest)
  | '+' :: t => (number? t.length t).map fun (n, rest) => ((n : Int), rest)
  | t => (number? 4 t).map fun (n, rest) => ((n : Int), rest)

/-- One or two digits after any blanks. -/
def twoDigits? (t : Text) : Option (Nat × Text) := number? 2 (Text.trimStart t)

namespace Item

def read (p : Parts) (t : Text) : Item → Option (Parts × Text)
  | year => (year? t).map fun (n, rest) => ({ p with year := n }, rest)
  | month => (twoDigits? t).map fun (n, rest) => ({ p with month := n }, rest)
  | day => (twoDigits? t).map fun (n, rest) => ({ p with day := n }, rest)
  | hour => (twoDigits? t).map fun (n, rest) => ({ p with hour := n }, rest)
  | minute => (twoDigits? t).map fun (n, rest) => ({ p with minute := n }, rest)
  | second => (twoDigits? t).map fun (n, rest) => ({ p with second := n }, rest)
  | monthShort =>
    (monthAmong? 1 t monthNames).map fun (n, _, rest) => ({ p with month := n }, rest)
  | monthLong =>
    (monthAmong? 1 t monthNames).map fun (n, others, rest) =>
      ({ p with month := n }, (afterWord? others rest).getD rest)
  | blanks => some (p, Text.trimStart t)
  | exactly c =>
    match t with
    | [] => none
    | d :: t => if d = c then some (p, t) else none

def readAll (p : Parts) : Text → List Item → Option Parts
  | [], [] => some p
  | _ :: _, [] => none
  | t, item :: items =>
    match item.read p t with
    | some (p, t) => readAll p t items
    | none => none

end Item

abbrev Pattern := List Item

namespace Pattern

def dashes : Pattern := [.year, .exactly '-', .month, .exactly '-', .day]
def slashes : Pattern := [.year, .exactly '/', .month, .exactly '/', .day]
def shortName : Pattern := [.day, .blanks, .monthShort, .blanks, .year]
def longName : Pattern := [.day, .blanks, .monthLong, .blanks, .year]
def monthFirst : Pattern := [.month, .exactly '/', .day, .exactly '/', .year]

def clock : Pattern := [.hour, .exactly ':', .minute, .exactly ':', .second]

def withLetter : Pattern := dashes ++ .exactly 'T' :: clock
def withBlanks : Pattern := dashes ++ .blanks :: clock

def date? (pattern : Pattern) (t : Text) : Option DateTime := do
  let p ← Item.readAll .start t pattern
  let d ← Date.ofParts? p.year p.month p.day
  return .midnight d

def dateTime? (pattern : Pattern) (t : Text) : Option DateTime := do
  let p ← Item.readAll .start t pattern
  let d ← Date.ofParts? p.year p.month p.day
  DateTime.ofClock? d p.hour p.minute p.second 0

end Pattern
end RowSieve.Calendar
