import RowSieve.Calendar.Pattern

/-! Timestamps in the form of RFC 3339, such as `2024-03-07T12:30:00.5+02:00`: fixed widths,
an optional fraction, and an offset from UTC that must be there. The value is in UTC. -/
namespace RowSieve.Calendar.Timestamp

def fixed? (width : Nat) (t : Text) : Option (Nat × Text) :=
  let (ds, rest) := takeDigits width t
  if ds.length = width then some (digitsValue ds, rest) else none

def exactly? (c : Char) : Text → Option Text
  | [] => none
  | d :: t => if d = c then some t else none

/-- Between date and time stands a `T` of either case or one space. -/
def separator? : Text → Option Text
  | 'T' :: t | 't' :: t | ' ' :: t => some t
  | _ => none

/-- The fraction in nanoseconds: digits beyond the ninth are dropped. -/
def fraction? (t : Text) : Option (Nat × Text) :=
  match t with
  | '.' :: t =>
    match takeDigits t.length t with
    | ([], _) => none
    | (ds, rest) =>
      let kept := ds.take 9
      some (digitsValue kept * Nat.pow 10 (9 - kept.length), rest)
  | t => some (0, t)

/-- The sign of an offset; U+2212 is a minus sign as well. -/
def sign? : Text → Option (Int × Text)
  | '+' :: t => some (1, t)
  | '-' :: t => some (-1, t)
  | '\u2212' :: t => some (-1, t)
  | _ => none

def offset? (t : Text) : Option (Int × Text) :=
  match t with
  | 'Z' :: t | 'z' :: t => some (0, t)
  | t => do
    let (sign, t) ← sign? t
    let (hours, t) ← fixed? 2 t
    let t ← exactly? ':' t
    let (minutes, t) ← fixed? 2 t
    if hours < 24 ∧ minutes < 60 then
      some (sign * (hours * 3600 + minutes * 60 : Nat), t)
    else none

def read? (t : Text) : Option DateTime := do
  let (year, t) ← fixed? 4 t
  let t ← exactly? '-' t
  let (month, t) ← fixed? 2 t
  let t ← exactly? '-' t
  let (day, t) ← fixed? 2 t
  let t ← separator? t
  let (hour, t) ← fixed? 2 t
  let t ← exactly? ':' t
  let (minute, t) ← fixed? 2 t
  let t ← exactly? ':' t
  let (second, t) ← fixed? 2 t
  let (nano, t) ← fraction? t
  let (offset, t) ← offset? t
  if t.isEmpty then
    let date ← Date.ofParts? year month day
    let wall ← DateTime.ofClock? date hour minute second nano
    some (wall.earlier offset)
  else none

end RowSieve.Calendar.Timestamp
