import RowSieve.Query
import RowSieve.Record
import RowSieve.Calendar.Reading

/-! Deciding a query on a record. Connectives decide from left to right and stop as soon
as the result is known, so an operand that is not reached cannot fail. -/
namespace RowSieve

inductive EvalError where
  | unknownField (field : Text)
  | notADate (value : Text)
  deriving DecidableEq, Repr

def EvalError.message : EvalError → Text
  | unknownField field => "unknown field ".toList ++ Text.accented field
  | notADate value => "cannot parse ".toList ++ Text.accented value ++ " as a date".toList

def Record.get (r : Record) (field : Text) : Except EvalError Text :=
  match r.value? field with
  | some value => .ok value
  | none => .error (.unknownField field)

def readDate (t : Text) : Except EvalError Calendar.DateTime :=
  match Calendar.read? t with
  | some d => .ok d
  | none => .error (.notADate t)

/-- How a value of a row compares with the literal of an atom: dates by time, all else by
code points. -/
def Cast.order (k : Cast) (value literal : Text) : Except EvalError Ordering :=
  match k with
  | .text | .integer => .ok (Text.order value literal)
  | .date => do
    let a ← readDate value
    let b ← readDate literal
    return a.order b

def Atom.eval (a : Atom) (r : Record) : Except EvalError Bool := do
  let value ← r.get a.field
  let order ← a.cast.order value a.value
  return a.relation.holds order

namespace Query

def eval (q : Query) (r : Record) : Except EvalError Bool :=
  match q with
  | atom a => a.eval r
  | and left right =>
    match left.eval r with
    | .ok true => right.eval r
    | decided => decided
  | or left right =>
    match left.eval r with
    | .ok false => right.eval r
    | decided => decided
  | not child =>
    match child.eval r with
    | .ok holds => .ok !holds
    | .error e => .error e

end Query
end RowSieve
