import RowSieve.Calendar.Timestamp

/-! The date that a text stands for. -/
namespace RowSieve.Calendar

/-- `2024-03-07`, `2024/03/07`, `7 Mar 2024`, `7 March 2024`, `03/07/2024`, then the first one with
a time of day behind a `T` or behind blanks, and timestamps. They are tried in this order. -/
def forms : List (Text → Option DateTime) := [
  Pattern.date? .dashes, Pattern.date? .slashes, Pattern.date? .shortName,
  Pattern.date? .longName, Pattern.date? .monthFirst,
  Pattern.dateTime? .withLetter, Pattern.dateTime? .withBlanks,
  Timestamp.read?]

/-- Blanks around the text do not count; a blank text stands for the sentinel. -/
def read? (t : Text) : Option DateTime :=
  let t := Text.trim t
  if t.isEmpty then some .sentinel else forms.findSome? (· t)

end RowSieve.Calendar
