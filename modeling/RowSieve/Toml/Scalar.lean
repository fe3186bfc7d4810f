import RowSieve.Toml.Value
import RowSieve.Calendar.Timestamp

/-! TOML values written without quotes or brackets: truth values, integers, floats and
dates. Each function takes the whole text of the value. -/
namespace RowSieve.Toml

/-- Digits of a base with single underscores between them, the underscores dropped. -/
def digits? (isDigit : Char → Bool) : Text → Option Text
  | [] => none
  | [c] => if isDigit c then some [c] else none
  | c :: '_' :: t => if isDigit c then (digits? isDigit t).map (c :: ·) else none
  | c :: d :: t => if isDigit c then (digits? isDigit (d :: t)).map (c :: ·) else none

def digitValue (c : Char) : Nat :=
  if c.isDigit then c.toNat - '0'.toNat else c.toLower.toNat - 'a'.toNat + 10

def natOf (base : Nat) (ds : Text) : Nat := ds.foldl (fun n c => base * n + digitValue c) 0

/-- An integer is held if it fits into 128 bits, with or without a sign. -/
def integerOf (n : Int) : Value :=
  if -(Nat.pow 2 127 : Int) ≤ n ∧ n < (Nat.pow 2 128 : Int) then .integer n else .hugeInteger

/-- Decimal digits without a zero before others. -/
def plainDigits? (t : Text) : Option Text := do
  let ds ← digits? Char.isDigit t
  if ds.head? = some '0' ∧ ds.length > 1 then none else some ds

def signOf : Text → Bool × Text
  | '-' :: t => (true, t)
  | '+' :: t => (false, t)
  | t => (false, t)

def isHexDigit (c : Char) : Bool :=
  c.isDigit || ('a' ≤ c && c ≤ 'f') || ('A' ≤ c && c ≤ 'F')

def integer? (t : Text) : Option Value :=
  match t with
  | '0' :: 'x' :: t => (digits? isHexDigit t).map fun ds => integerOf (natOf 16 ds)
  | '0' :: 'o' :: t =>
    (digits? (fun c => c.isDigit && c ≤ '7') t).map fun ds => integerOf (natOf 8 ds)
  | '0' :: 'b' :: t =>
    (digits? (fun c => c == '0' || c == '1') t).map fun ds => integerOf (natOf 2 ds)
  | t =>
    let (negative, t) := signOf t
    (plainDigits? t).map fun ds =>
      integerOf (if negative then -(natOf 10 ds : Int) else natOf 10 ds)

def power? : Text → Option Int
  | [] => some 0
  | c :: t =>
    if c = 'e' ∨ c = 'E' then do
      let (negative, t) := signOf t
      let ds ← digits? Char.isDigit t
      some (if negative then -(natOf 10 ds : Int) else natOf 10 ds)
    else none

def isPowerMark (c : Char) : Bool := c == 'e' || c == 'E'

/-- A float has a fraction, a power of ten or both, or is one of two words. -/
def float? (t : Text) : Option Value :=
  let (negative, t) := signOf t
  if t == "inf".toList then some (.float (.infinite negative))
  else if t == "nan".toList then some (.float .nan)
  else do
    let whole ← plainDigits? (t.takeWhile fun c => c ≠ '.' ∧ ¬ isPowerMark c)
    let rest := t.dropWhile fun c => c ≠ '.' ∧ ¬ isPowerMark c
    let (places, rest) ← match rest with
      | '.' :: rest => do
        let places ← digits? Char.isDigit (rest.takeWhile (¬ isPowerMark ·))
        some (places, rest.dropWhile (¬ isPowerMark ·))
      | rest => if rest.isEmpty then none else some ([], rest)
    let power ← power? rest
    match Decimal.ofDigits? negative (natOf 10 (whole ++ places)) (power - places.length) with
    | some x => return .float x
    | none => return .hugeFloat

open Calendar in
/-- A date `YYYY-MM-DD` at the front of the text. -/
def date? (t : Text) : Option (Text × Text) := do
  let (year, t) ← Timestamp.fixed? 4 t
  let t ← Timestamp.exactly? '-' t
  let (month, t) ← Timestamp.fixed? 2 t
  let t ← Timestamp.exactly? '-' t
  let (day, t) ← Timestamp.fixed? 2 t
  let d ← Date.ofParts? year month day
  return (DateTime.renderYear d.year ++ '-' :: DateTime.renderTwo d.month ++
    '-' :: DateTime.renderTwo d.day, t)

open Calendar in
/-- The seconds of a time with their fraction. Both may be missing, which makes them zero. -/
def seconds? (t : Text) : Option (Text × Text) :=
  match t with
  | ':' :: t => do
    let (second, t) ← Timestamp.fixed? 2 t
    let (nano, t) ← Timestamp.fraction? t
    if second ≤ 60 then
      let places := (Text.padLeft 9 '0' (Text.decimal nano)).reverse.dropWhile (· == '0')
      some (':' :: DateTime.renderTwo second ++
        if places.isEmpty then [] else '.' :: places.reverse, t)
    else none
  | t => some (":00".toList, t)

open Calendar in
def time? (t : Text) : Option (Text × Text) := do
  let (hour, t) ← Timestamp.fixed? 2 t
  let t ← Timestamp.exactly? ':' t
  let (minute, t) ← Timestamp.fixed? 2 t
  let (seconds, t) ← seconds? t
  if hour < 24 ∧ minute < 60 then
    some (DateTime.renderTwo hour ++ ':' :: DateTime.renderTwo minute ++ seconds, t)
  else none

open Calendar in
/-- An offset from UTC, or nothing. An offset of zero shows a plus sign. -/
def zone? (t : Text) : Option Text :=
  match t with
  | [] => some []
  | ['Z'] | ['z'] => some ['Z']
  | c :: t =>
    if c = '+' ∨ c = '-' then do
      let (hours, t) ← Timestamp.fixed? 2 t
      let t ← Timestamp.exactly? ':' t
      let (minutes, t) ← Timestamp.fixed? 2 t
      if hours < 24 ∧ minutes < 60 ∧ t.isEmpty then
        let sign := if hours = 0 ∧ minutes = 0 then '+' else c
        some (sign :: DateTime.renderTwo hours ++ ':' :: DateTime.renderTwo minutes)
      else none
    else none

/-- A date, a time of day, or both with an offset that may be missing. -/
def datetime? (t : Text) : Option Value :=
  match date? t with
  | some (date, []) => some (.datetime date)
  | some (date, c :: t) =>
    if c = 'T' ∨ c = 't' ∨ c = ' ' then do
      let (time, t) ← time? t
      let zone ← zone? t
      return .datetime (date ++ 'T' :: time ++ zone)
    else none
  | none =>
    match time? t with
    | some (time, []) => some (.datetime time)
    | _ => none

def scalar? (t : Text) : Option Value :=
  if t == "true".toList then some (.boolean true)
  else if t == "false".toList then some (.boolean false)
  else integer? t <|> float? t <|> datetime? t

end RowSieve.Toml
