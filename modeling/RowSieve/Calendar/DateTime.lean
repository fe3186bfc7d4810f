import RowSieve.Text

/-! Dates of the proleptic Gregorian calendar and times of day, in order of time. A leap
second is the last second of its minute with a fraction of one second or more. -/
namespace RowSieve.Calendar

def isLeap (year : Int) : Bool := year % 4 == 0 && (year % 100 != 0 || year % 400 == 0)

def daysIn (year : Int) (month : Nat) : Nat :=
  if month = 2 then (if isLeap year then 29 else 28)
  else if month = 4 ∨ month = 6 ∨ month = 9 ∨ month = 11 then 30
  else 31

theorem daysIn_pos (year : Int) (month : Nat) : 28 ≤ daysIn year month := by
  grind [daysIn]

theorem daysIn_le (year : Int) (month : Nat) : daysIn year month ≤ 31 := by
  grind [daysIn]

structure Date where
  year : Int
  month : Nat
  day : Nat
  month_pos : 1 ≤ month
  month_le : month ≤ 12
  day_pos : 1 ≤ day
  day_le : day ≤ daysIn year month
  deriving DecidableEq

namespace Date

def minYear : Int := -262143
def maxYear : Int := 262142

def ofParts? (year : Int) (month day : Nat) : Option Date :=
  if h : 1 ≤ month ∧ month ≤ 12 ∧ 1 ≤ day ∧ day ≤ daysIn year month then
    if minYear ≤ year ∧ year ≤ maxYear then
      some ⟨year, month, day, h.1, h.2.1, h.2.2.1, h.2.2.2⟩
    else none
  else none

def next (d : Date) : Date :=
  if h : d.day < daysIn d.year d.month then
    { d with day := d.day + 1, day_pos := by omega, day_le := h }
  else if h : d.month < 12 then
    ⟨d.year, d.month + 1, 1, by omega, by omega, by omega,
      Nat.le_trans (by decide) (daysIn_pos _ _)⟩
  else ⟨d.year + 1, 1, 1, by omega, by omega, by omega,
    Nat.le_trans (by decide) (daysIn_pos _ _)⟩

def prev (d : Date) : Date :=
  if h : 1 < d.day then
    { d with
      day := d.day - 1
      day_pos := by omega
      day_le := Nat.le_trans (Nat.sub_le _ _) d.day_le }
  else if h : 1 < d.month then
    ⟨d.year, d.month - 1, daysIn d.year (d.month - 1), by omega,
      by have := d.month_le; omega, Nat.le_trans (by decide) (daysIn_pos _ _), Nat.le_refl _⟩
  else ⟨d.year - 1, 12, 31, by omega, by omega, by omega, by simp [daysIn]⟩

def later : (days : Nat) → Date → Date
  | 0, d => d
  | days + 1, d => later days d.next

def epoch : Date := ⟨1970, 1, 1, by decide, by decide, by decide, by decide⟩

def order (a b : Date) : Ordering :=
  (compare a.year b.year).then ((compare a.month b.month).then (compare a.day b.day))

end Date

/-- A date with the seconds since its midnight and a fraction in nanoseconds. -/
structure DateTime where
  date : Date
  second : Nat
  nano : Nat
  second_lt : second < 86400
  nano_lt : nano < 2000000000
  deriving DecidableEq

namespace DateTime

def midnight (d : Date) : DateTime := ⟨d, 0, 0, by decide, by decide⟩

/-- Stands for an empty text; real dates come before it. -/
def sentinel : DateTime :=
  midnight ⟨2999, 12, 31, by decide, by decide, by decide, by decide⟩

def order (a b : DateTime) : Ordering :=
  (a.date.order b.date).then ((compare a.second b.second).then (compare a.nano b.nano))

/-- The date and time of a clock, where `second` 60 is the leap second. -/
def ofClock? (date : Date) (hour minute second nano : Nat) : Option DateTime :=
  if h : hour < 24 ∧ minute < 60 ∧ second ≤ 60 ∧ nano < 1000000000 then
    if leap : second = 60 then
      some ⟨date, hour * 3600 + minute * 60 + 59, nano + 1000000000, by omega, by omega⟩
    else some ⟨date, hour * 3600 + minute * 60 + second, nano, by omega, by omega⟩
  else none

/-- The moment `seconds` earlier, for less than a day either way; the fraction stays. -/
def earlier (t : DateTime) (seconds : Int) : DateTime :=
  let moved : Int := t.second - seconds
  if moved < 0 then
    ⟨t.date.prev, (moved + 86400).toNat % 86400, t.nano, Nat.mod_lt _ (by decide), t.nano_lt⟩
  else if moved < 86400 then
    ⟨t.date, moved.toNat % 86400, t.nano, Nat.mod_lt _ (by decide), t.nano_lt⟩
  else
    ⟨t.date.next, (moved - 86400).toNat % 86400, t.nano, Nat.mod_lt _ (by decide), t.nano_lt⟩

def renderYear (year : Int) : Text :=
  let digits := Text.padLeft 4 '0' (Text.decimal year.natAbs)
  if year < 0 then '-' :: digits else if year > 9999 then '+' :: digits else digits

def renderTwo (n : Nat) : Text := Text.padLeft 2 '0' (Text.decimal n)

/-- Three, six or nine digits after the point, as few as are exact; none for zero. -/
def renderFraction (nano : Nat) : Text :=
  if nano = 0 then []
  else if nano % 1000000 = 0 then
    '.' :: Text.padLeft 3 '0' (Text.decimal (nano / 1000000))
  else if nano % 1000 = 0 then
    '.' :: Text.padLeft 6 '0' (Text.decimal (nano / 1000))
  else '.' :: Text.padLeft 9 '0' (Text.decimal nano)

/-- Year, month, day and time of day; a leap second is shown as second 60. -/
def render (t : DateTime) : Text :=
  let leap := t.nano / 1000000000
  renderYear t.date.year ++ '-' :: renderTwo t.date.month ++ '-' :: renderTwo t.date.day ++
    ' ' :: renderTwo (t.second / 3600) ++ ':' :: renderTwo (t.second / 60 % 60) ++
    ':' :: renderTwo (t.second % 60 + leap) ++ renderFraction (t.nano % 1000000000)

end DateTime
end RowSieve.Calendar
