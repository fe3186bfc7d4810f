import RowSieve.Text

/-! Floating-point numbers of 64 bits, from decimal literals and back to the shortest
decimal that is nearest to them. All steps are exact arithmetic on natural numbers. -/
namespace RowSieve

/-- A number `± mantissa · 2 ^ exponent`, or one of the values beyond numbers. -/
inductive Binary64 where
  | finite (negative : Bool) (mantissa : Nat) (exponent : Int)
  | infinite (negative : Bool)
  | nan
  deriving DecidableEq, Repr

namespace Decimal

/-- The quotient rounded to the nearest integer, a half to the even one. -/
def roundDiv (num den : Nat) : Nat :=
  let q := num / den
  let twice := 2 * (num % den)
  if twice < den then q else if den < twice then q + 1 else if q % 2 = 0 then q else q + 1

def scale (num den : Nat) (exponent : Int) : Nat × Nat :=
  if exponent < 0 then (num * Nat.pow 2 exponent.natAbs, den)
  else (num, den * Nat.pow 2 exponent.natAbs)

/-- The nearest double of `num / den`, with the mantissa of a normal number in
`2 ^ 52 ≤ m < 2 ^ 53`; `none` where that is beyond the greatest one. -/
def nearest? (negative : Bool) (num den : Nat) : Option Binary64 :=
  if num = 0 then some (.finite negative 0 (-1074))
  else
    let guess : Int := max ((num.log2 : Int) - den.log2 - 53) (-1074)
    let (n, d) := scale num den guess
    let exponent := if n / d ≥ Nat.pow 2 53 then guess + 1 else guess
    let (n, d) := scale num den exponent
    let m := roundDiv n d
    let (m, exponent) := if m = Nat.pow 2 53 then (Nat.pow 2 52, exponent + 1) else (m, exponent)
    if exponent > 971 then none else some (.finite negative m exponent)

def ofDigits? (negative : Bool) (digits : Nat) (power : Int) : Option Binary64 :=
  let length : Int := (Nat.toDigits 10 digits).length
  if digits = 0 ∨ length + power < -400 then some (.finite negative 0 (-1074))
  else if length + power > 400 then none
  else if power < 0 then nearest? negative digits (Nat.pow 10 power.natAbs)
  else nearest? negative (digits * Nat.pow 10 power.natAbs) 1

/-- The decimal with `count` digits that is nearest to `m · 2 ^ e` among those that read
back as it, as digits and power of ten. Of two that are equally near the greater is taken. -/
def candidate? (m : Nat) (e : Int) (magnitude : Int) (count : Nat) : Option (Nat × Int) :=
  let power : Int := magnitude - count
  -- everything is compared over one denominator, in quarters of the last binary place
  let unit : Nat × Nat := scale 1 4 (-e)
  let grid : Nat × Nat :=
    if power < 0 then (1, Nat.pow 10 power.natAbs) else (Nat.pow 10 power.natAbs, 1)
  let value := 4 * m * unit.1 * grid.2
  let step := grid.1 * unit.2
  let low := (4 * m - if m = Nat.pow 2 52 ∧ e > -1074 then 1 else 2) * unit.1 * grid.2
  let high := (4 * m + 2) * unit.1 * grid.2
  let fits (d : Nat) : Bool :=
    if m % 2 = 0 then low ≤ d * step && d * step ≤ high
    else low < d * step && d * step < high
  let below := value / step
  let nearBelow : Bool := 2 * (value - below * step) < step
  let first := if nearBelow then below else below + 1
  let second := if nearBelow then below + 1 else below
  let found (d : Nat) : Nat × Int := if d = Nat.pow 10 count then (1, magnitude) else (d, power)
  if fits first then some (found first)
  else if fits second then some (found second)
  else none

/-- The fewest digits, counted up from `count`. -/
def shortestFrom (m : Nat) (e : Int) (magnitude : Int) : (left count : Nat) → Nat × Int
  | 0, _ => (m, e)
  | left + 1, count =>
    match candidate? m e magnitude count with
    | some found => found
    | none => shortestFrom m e magnitude left (count + 1)

/-- The number of digits before the point, zero or negative for small numbers. -/
def magnitude (m : Nat) (e : Int) : Int :=
  let (n, d) := scale m 1 (-e)
  if n ≥ d then (Nat.toDigits 10 (n / d)).length
  else
    -- the least power of ten that lifts the number to at least one
    let zeros := (Nat.toDigits 10 (d / n)).length
    let lifted := if n * Nat.pow 10 (zeros - 1) ≥ d then zeros - 1 else zeros
    1 - (lifted : Int)

def positional (digits : Nat) (power : Int) : Text :=
  let ds := Text.decimal digits
  if 0 ≤ power then ds ++ List.replicate power.natAbs '0' ++ ['.', '0']
  else
    let places := power.natAbs
    let ds := Text.padLeft (places + 1) '0' ds
    ds.take (ds.length - places) ++ '.' :: ds.drop (ds.length - places)

end Decimal

/-- The shortest decimal in positional notation, always with a point. -/
def Binary64.render : Binary64 → Text
  | nan => "NaN".toList
  | infinite negative => (if negative then ['-'] else []) ++ "inf".toList
  | finite negative m e =>
    (if negative then ['-'] else []) ++
      if m = 0 then "0.0".toList
      else
        let (digits, power) := Decimal.shortestFrom m e (Decimal.magnitude m e) 17 1
        Decimal.positional digits power

end RowSieve
