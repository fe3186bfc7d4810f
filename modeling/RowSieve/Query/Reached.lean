import RowSieve.Query.Eval

/-! The atoms that deciding a query on a record comes to, in the order in which they are
tested: an operand is passed over once the other one has decided. -/
namespace RowSieve.Query

def reached (r : Record) : Query → List Atom
  | atom a => [a]
  | and left right =>
    match left.eval r with
    | .ok true => left.reached r ++ right.reached r
    | _ => left.reached r
  | or left right =>
    match left.eval r with
    | .ok false => left.reached r ++ right.reached r
    | _ => left.reached r
  | not child => child.reached r

/-- Deciding a query with a note of every atom when it is tested. -/
def watch (r : Record) : Query → List Atom × Except EvalError Bool
  | atom a => ([a], a.eval r)
  | and left right =>
    match left.watch r with
    | (tested, .ok true) =>
      let (more, decided) := right.watch r
      (tested ++ more, decided)
    | stopped => stopped
  | or left right =>
    match left.watch r with
    | (tested, .ok false) =>
      let (more, decided) := right.watch r
      (tested ++ more, decided)
    | stopped => stopped
  | not child =>
    let (tested, decided) := child.watch r
    (tested, decided.map (!·))

/-- Only atoms of the query are reached, and in the order of its text. -/
theorem reached_sublist_atoms (r : Record) (q : Query) : (q.reached r).Sublist q.atoms := by
  induction q with
  | atom a => exact List.Sublist.refl _
  | and left right hl hr | or left right hl hr =>
    rw [reached, atoms]
    split
    · exact hl.append hr
    · exact hl.trans (List.sublist_append_left _ _)
  | not child ih => exact ih

end RowSieve.Query
