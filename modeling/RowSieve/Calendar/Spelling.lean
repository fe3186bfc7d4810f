import RowSieve.Calendar.Instant
import RowSieve.Calendar.Reading

/-! The spellings in which a date may be given, with all fields padded by zeros. -/
namespace RowSieve.Calendar

def capitalized : Text → Text
  | [] => []
  | c :: t => c.toUpper :: t

def monthName (month : Nat) : Text × Text :=
  match monthNames[month - 1]? with
  | some (letters, others) => (capitalized letters, capitalized (letters ++ others))
  | none => ([], [])

namespace Date

def dashes (d : Date) : Text :=
  DateTime.renderYear d.year ++ '-' :: DateTime.renderTwo d.month ++
    '-' :: DateTime.renderTwo d.day

def slashes (d : Date) : Text :=
  DateTime.renderYear d.year ++ '/' :: DateTime.renderTwo d.month ++
    '/' :: DateTime.renderTwo d.day

def shortName (d : Date) : Text :=
  DateTime.renderTwo d.day ++ ' ' :: (monthName d.month).1 ++ ' ' :: DateTime.renderYear d.year

def longName (d : Date) : Text :=
  DateTime.renderTwo d.day ++ ' ' :: (monthName d.month).2 ++ ' ' :: DateTime.renderYear d.year

def monthFirst (d : Date) : Text :=
  DateTime.renderTwo d.month ++ '/' :: DateTime.renderTwo d.day ++
    '/' :: DateTime.renderYear d.year

end Date

/-- An offset from UTC in whole minutes, less than a day either way. No offset at all may have
either sign. -/
structure Offset where
  behind : Bool
  minutes : Nat
  minutes_lt : minutes < 1440
  deriving DecidableEq

namespace Offset

def seconds (o : Offset) : Int :=
  if o.behind then -(60 * o.minutes : Nat) else (60 * o.minutes : Nat)

def text (o : Offset) : Text :=
  (if o.behind then '-' else '+') :: DateTime.renderTwo (o.minutes / 60) ++
    ':' :: DateTime.renderTwo (o.minutes % 60)

end Offset

namespace DateTime

def clockText (t : DateTime) : Text :=
  renderTwo (t.second / 3600) ++ ':' :: renderTwo (t.second / 60 % 60) ++
    ':' :: renderTwo (t.second % 60)

/-- Whether the moment can be spelled: it has a year of four digits and whole seconds. -/
def Plain (t : DateTime) : Prop := 0 ≤ t.date.year ∧ t.date.year ≤ 9999 ∧ t.nano = 0

instance (t : DateTime) : Decidable t.Plain := inferInstanceAs (Decidable (_ ∧ _ ∧ _))

end DateTime

/-- One way to spell a moment by what a wall clock shows. -/
inductive Spelling where
  | dashes
  | slashes
  | shortName
  | longName
  | monthFirst
  | withLetter
  | withSpace
  | utc
  | offset (o : Offset)
  deriving DecidableEq

namespace Spelling

def ahead : Spelling → Int
  | offset o => o.seconds
  | _ => 0

def text (s : Spelling) (wall : DateTime) : Text :=
  match s with
  | dashes => wall.date.dashes
  | slashes => wall.date.slashes
  | shortName => wall.date.shortName
  | longName => wall.date.longName
  | monthFirst => wall.date.monthFirst
  | withLetter => wall.date.dashes ++ 'T' :: wall.clockText
  | withSpace => wall.date.dashes ++ ' ' :: wall.clockText
  | utc => wall.date.dashes ++ 'T' :: wall.clockText ++ ['Z']
  | offset o => wall.date.dashes ++ 'T' :: wall.clockText ++ o.text

/-- Whether a spelling without a time of day is meant for midnights only. -/
def dateOnly : Spelling → Bool
  | dashes | slashes | shortName | longName | monthFirst => true
  | withLetter | withSpace | utc | offset _ => false

structure Shows (s : Spelling) (wall t : DateTime) : Prop where
  plain : wall.Plain
  moment_plain : t.Plain
  ahead : wall.instant = t.instant + s.ahead
  midnight : s.dateOnly = true → wall.second = 0

end Spelling

/-- Whether a text is a spelling of the moment, blanks around it included. -/
def Spells (text : Text) (t : DateTime) : Prop :=
  ∃ (s : Spelling) (wall : DateTime) (lead trail : Text), s.Shows wall t ∧
    AllBlank lead ∧ AllBlank trail ∧ text = lead ++ s.text wall ++ trail

end RowSieve.Calendar
