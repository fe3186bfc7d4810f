import RowSieve.Query.Parse
import RowSieve.Query.Render

/-! The queries that have a text: those whose canonical text reads back as the same query.
A field must leave room for its relation, a value for its tag, and inside a group the
parentheses of an atom must close what they open. -/
namespace RowSieve

/-- Every `)` closes a `(` before it, `opened` of them being open at the start, and none is
open at the end. -/
def balanced : (opened : Nat) → Text → Bool
  | opened, [] => opened == 0
  | opened, c :: t =>
    if c = ')' then
      match opened with
      | 0 => false
      | opened + 1 => balanced opened t
    else if c = '(' then balanced (opened + 1) t
    else balanced opened t

namespace Atom

/-- A field that ends where the relation begins and does not begin like a group. -/
def fieldReadable (field : Text) : Bool :=
  field.all (fun c => (Relation.ofSymbol? c).isNone) &&
    match field with
    | [] => true
    | c :: _ => !isBlank c && c != '(' && c != '!'

/-- Whether the atom has a text under so many connectives. -/
def readableUnder (above : Nat) (a : Atom) : Bool :=
  fieldReadable a.field && !a.value.contains '.' && above ≤ maxNesting &&
    (above == 0 || balanced 0 (a.field ++ a.value))

end Atom

namespace Query

def readableUnder (above : Nat) : Query → Bool
  | atom a => a.readableUnder above
  | and l r => l.readableUnder (above + 1) && r.readableUnder (above + 1)
  | or l r => l.readableUnder (above + 1) && r.readableUnder (above + 1)
  | not q => q.readableUnder (above + 1)

def Readable (q : Query) : Prop := q.readableUnder 0 = true

instance (q : Query) : Decidable q.Readable := inferInstanceAs (Decidable (_ = true))

end Query
end RowSieve
