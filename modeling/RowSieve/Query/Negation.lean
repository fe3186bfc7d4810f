import RowSieve.Query

/-! Queries without negation. A negation goes inwards: it exchanges conjunction and
disjunction, cancels against another one, and at an atom gives the two other relations. -/
namespace RowSieve

def Atom.withRelation (a : Atom) (r : Relation) : Query := .atom { a with relation := r }

/-- The atom denied: the value stands to the literal in one of the two other relations. -/
def Atom.denied (a : Atom) : Query :=
  match a.relation with
  | .equal => .or (a.withRelation .less) (a.withRelation .greater)
  | .less => .or (a.withRelation .equal) (a.withRelation .greater)
  | .greater => .or (a.withRelation .equal) (a.withRelation .less)

namespace Query

/-- The query, or its denial, with every negation taken into the atoms. -/
def pushed : (denied : Bool) → Query → Query
  | false, atom a => atom a
  | true, atom a => a.denied
  | false, and l r => and (l.pushed false) (r.pushed false)
  | true, and l r => or (l.pushed true) (r.pushed true)
  | false, or l r => or (l.pushed false) (r.pushed false)
  | true, or l r => and (l.pushed true) (r.pushed true)
  | denied, not q => q.pushed !denied

def withoutNot (q : Query) : Query := q.pushed false

def negationFree : Query → Bool
  | atom _ => true
  | and l r => l.negationFree && r.negationFree
  | or l r => l.negationFree && r.negationFree
  | not _ => false

theorem negationFree_denied (a : Atom) : a.denied.negationFree = true := by
  unfold Atom.denied
  split <;> rfl

end Query
end RowSieve
