import RowSieve.Query

/-! The nodes of a query from the root down and from left to right, each with the number of
connectives above it. -/
namespace RowSieve.Query

inductive Node where
  | atom (a : Atom)
  | and
  | or
  | not
  deriving DecidableEq, Repr

def Node.isConnective : Node → Bool
  | atom _ => false
  | and | or | not => true

def root : Query → Node
  | atom a => .atom a
  | and .. => .and
  | or .. => .or
  | not _ => .not

def operands : Query → List Query
  | atom _ => []
  | and l r | or l r => [l, r]
  | not q => [q]

/-- A node comes before the nodes of its operands, and those of the left operand before those of
the right one. -/
def preorder (depth : Nat) : Query → List (Nat × Node)
  | atom a => [(depth, .atom a)]
  | and l r => (depth, .and) :: (l.preorder (depth + 1) ++ r.preorder (depth + 1))
  | or l r => (depth, .or) :: (l.preorder (depth + 1) ++ r.preorder (depth + 1))
  | not q => (depth, .not) :: q.preorder (depth + 1)

theorem length_preorder (depth : Nat) (q : Query) : (q.preorder depth).length = q.nodes := by
  induction q generalizing depth with
  | atom a => rfl
  | and l r left right | or l r left right =>
    simp only [preorder, List.length_cons, List.length_append, left, right, nodes]
  | not q child => simp only [preorder, List.length_cons, child, nodes]

end RowSieve.Query
