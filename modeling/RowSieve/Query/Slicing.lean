import RowSieve.Query

/-! Another reading of a query, by slices: the text is trimmed, each group is cut out whole at
the parenthesis that closes it, and the slices are read on their own. It says which texts
are queries without saying where a text that is none goes wrong. -/
namespace RowSieve

/-- Cuts a text that stands behind an opened group: what is inside the group and what
follows its `)`. `opened` counts the parentheses opened inside. -/
def splitClosing? : (opened : Nat) → Text → Option (Text × Text)
  | _, [] => none
  | opened, c :: t =>
    if c = ')' then
      match opened with
      | 0 => some ([], t)
      | opened + 1 => (splitClosing? opened t).map fun (inner, rest) => (c :: inner, rest)
    else if c = '(' then
      (splitClosing? (opened + 1) t).map fun (inner, rest) => (c :: inner, rest)
    else (splitClosing? opened t).map fun (inner, rest) => (c :: inner, rest)

def lastGroup? (t : Text) : Option Text :=
  match splitClosing? 0 t with
  | some (inner, []) => some inner
  | _ => none

namespace Atom

/-- The cast behind a value: none, or a `.` and one tag at the very end. -/
def sliceCast? : Text → Option Cast
  | [] => some .text
  | ['.', k] => Cast.ofTag? k
  | _ => none

def inField (c : Char) : Bool := (Relation.ofSymbol? c).isNone

/-- The atom whose text this is, blanks at the end included in the value: the field before
the first symbol of a relation, the value behind it up to the first `.`. -/
def slice? (t : Text) : Option Atom :=
  match t.dropWhile inField with
  | [] => none
  | c :: behind => do
    let relation ← Relation.ofSymbol? c
    let cast ← sliceCast? (behind.dropWhile (· ≠ '.'))
    return ⟨t.takeWhile inField, relation, behind.takeWhile (· ≠ '.'), cast⟩

end Atom

namespace Query

def connective? (c : Char) : Option (Query → Query → Query) :=
  if c = '&' then some .and else if c = '|' then some .or else none

def slice? : (room : Nat) → Text → Option Query
  | 0, _ => none
  | room + 1, t =>
    match Text.trim t with
    | [] => none
    | '(' :: t =>
      match splitClosing? 0 t with
      | some (left, c :: '(' :: t) => do
        let connect ← connective? c
        let right ← lastGroup? t
        return connect (← slice? room left) (← slice? room right)
      | _ => none
    | '!' :: t =>
      match t with
      | '(' :: t => do
        let inner ← lastGroup? t
        return .not (← slice? room inner)
      | _ => none
    | t => (Atom.slice? t).map .atom

end Query
end RowSieve
