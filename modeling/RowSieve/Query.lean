import RowSieve.Text

/-! A query: atoms that relate a field of a row to a literal, joined by explicit
grouping. The shape of the tree is the parenthesisation that was written. -/
namespace RowSieve

inductive Relation where
  | equal
  | less
  | greater
  deriving DecidableEq, Repr

namespace Relation

def symbol : Relation → Char
  | equal => '='
  | less => '<'
  | greater => '>'

def ofSymbol? (c : Char) : Option Relation :=
  if c = '=' then some equal else if c = '<' then some less else if c = '>' then some greater
  else none

@[simp] theorem ofSymbol?_symbol (r : Relation) : ofSymbol? r.symbol = some r := by
  cases r <;> rfl

theorem ofSymbol?_eq_some_iff {c : Char} {r : Relation} :
    ofSymbol? c = some r ↔ c = r.symbol := by
  cases r <;> grind [Relation.ofSymbol?, Relation.symbol]

def holds (r : Relation) (o : Ordering) : Bool :=
  match r with
  | equal => o == .eq
  | less => o == .lt
  | greater => o == .gt

end Relation

/-- The sense in which an atom compares. `integer` is accepted and compares as `text`. -/
inductive Cast where
  | text
  | integer
  | date
  deriving DecidableEq, Repr

namespace Cast

def tag : Cast → Char
  | text => 's'
  | integer => 'i'
  | date => 'd'

def ofTag? (c : Char) : Option Cast :=
  if c = 's' then some text else if c = 'i' then some integer else if c = 'd' then some date
  else none

@[simp] theorem ofTag?_tag (k : Cast) : ofTag? k.tag = some k := by
  cases k <;> rfl

theorem ofTag?_eq_some_iff {c : Char} {k : Cast} : ofTag? c = some k ↔ c = k.tag := by
  cases k <;> grind [Cast.ofTag?, Cast.tag]

def name : Cast → Text
  | text => "string".toList
  | integer => "int".toList
  | date => "date".toList

end Cast

/-- One test of a row: `field relation value`, compared under the cast. -/
structure Atom where
  field : Text
  relation : Relation
  value : Text
  cast : Cast
  deriving DecidableEq, Repr

inductive Query where
  | atom (a : Atom)
  | and (left right : Query)
  | or (left right : Query)
  | not (child : Query)
  deriving DecidableEq, Repr

namespace Query

def atoms : Query → List Atom
  | atom a => [a]
  | and l r => l.atoms ++ r.atoms
  | or l r => l.atoms ++ r.atoms
  | not q => q.atoms

def nodes : Query → Nat
  | atom _ => 1
  | and l r => l.nodes + r.nodes + 1
  | or l r => l.nodes + r.nodes + 1
  | not q => q.nodes + 1

end Query
end RowSieve
