import RowSieve.Calendar.DateTime

/-! The line of time: days are numbered one after the other, and a moment lies so many seconds
behind the start of the numbering. A leap second shares the place of the second before it. -/
namespace RowSieve.Calendar

namespace Date

def daysBeforeYear (year : Int) : Int :=
  365 * (year - 1) + (year - 1) / 4 - (year - 1) / 100 + (year - 1) / 400

def daysBeforeMonth (year : Int) : (month : Nat) → Nat
  | 0 | 1 => 0
  | month + 2 => daysBeforeMonth year (month + 1) + daysIn year (month + 1)

/-- The number of a day; 1 January of year 1 has number 1. -/
def dayNumber (d : Date) : Int :=
  daysBeforeYear d.year + daysBeforeMonth d.year d.month + d.day

end Date

namespace DateTime

def instant (t : DateTime) : Int := t.date.dayNumber * 86400 + t.second

end DateTime
end RowSieve.Calendar
