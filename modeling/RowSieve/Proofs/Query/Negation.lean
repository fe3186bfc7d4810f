import RowSieve.Query.Eval
import RowSieve.Query.Negation

/-! A query and the one without negations that it becomes decide alike, errors included. With
operands that may be passed over this is more than De Morgan's laws: a conjunction and the
disjunction of the denials go on to their second operand in the same cases. At an atom one
comparison serves all three relations, so they fail together, and exactly one of them holds. -/
namespace RowSieve

namespace Relation

/-- Of three ways to compare there is one, so a relation fails just where one of the others holds. -/
theorem not_holds (o : Ordering) :
    (!equal.holds o) = (less.holds o || greater.holds o) ∧
      (!less.holds o) = (equal.holds o || greater.holds o) ∧
      (!greater.holds o) = (equal.holds o || less.holds o) := by
  cases o <;> decide

end Relation

namespace Atom

/-- How the value of the row compares with the literal, whichever relation is asked for. -/
def compared (a : Atom) (r : Record) : Except EvalError Ordering := do
  let value ← r.get a.field
  a.cast.order value a.value

theorem eval_eq_compared (a : Atom) (r : Record) :
    a.eval r = (a.compared r).map a.relation.holds := by
  unfold eval compared
  cases r.get a.field with
  | error e => rfl
  | ok value =>
    simp only [Bind.bind, Except.bind]
    cases a.cast.order value a.value <;> rfl

theorem eval_withRelation (a : Atom) (rel : Relation) (r : Record) :
    (a.withRelation rel).eval r = (a.compared r).map rel.holds :=
  eval_eq_compared { a with relation := rel } r

theorem eval_either (a : Atom) (first second : Relation) (r : Record) :
    (Query.or (a.withRelation first) (a.withRelation second)).eval r =
      (a.compared r).map fun o => first.holds o || second.holds o := by
  simp only [Query.eval, eval_withRelation]
  cases a.compared r with
  | error e => rfl
  | ok o => cases held : first.holds o <;> simp [Except.map, held]

theorem eval_denied (a : Atom) (r : Record) : a.denied.eval r = (a.eval r).map (!·) := by
  have others : a.denied.eval r = (a.compared r).map fun o => !a.relation.holds o := by
    unfold denied
    split <;> rename_i own <;> rw [eval_either, own] <;> congr <;> funext o
    · exact (Relation.not_holds o).1.symm
    · exact (Relation.not_holds o).2.1.symm
    · exact (Relation.not_holds o).2.2.symm
  rw [others, eval_eq_compared]
  cases a.compared r <;> rfl

end Atom

namespace Query

theorem negationFree_pushed (denied : Bool) (q : Query) : (q.pushed denied).negationFree = true := by
  induction q generalizing denied with
  | atom a =>
    cases denied with
    | false => rfl
    | true => exact negationFree_denied a
  | and l r hl hr | or l r hl hr => cases denied <;> simp [pushed, negationFree, hl, hr]
  | not q ih => cases denied <;> simp [pushed, ih]

/-- What is pushed inwards decides as the query, or as its denial, and fails as the query does. -/
theorem eval_pushed (denied : Bool) (q : Query) (r : Record) :
    (q.pushed denied).eval r = (q.eval r).map (denied ^^ ·) := by
  induction q generalizing denied with
  | atom a =>
    cases denied with
    | false => cases h : a.eval r <;> simp [pushed, eval, h, Except.map]
    | true => simpa [pushed, eval] using a.eval_denied r
  | and left right hl hr | or left right hl hr =>
    cases denied
    all_goals
      simp only [pushed, eval, hl, hr]
      -- the second operand is reached on either side or on neither
      rcases left.eval r with e | _ | _ <;> rcases right.eval r with e' | _ | _ <;> rfl
  | not q ih =>
    simp only [pushed, eval, ih]
    cases denied <;> rcases q.eval r with e | _ | _ <;> rfl

/-- The rules by which negations go inwards: one for each shape of a query, and one for each shape
of what is negated. -/
structure PushesInward (elim : Query → Query) : Prop where
  atom : ∀ a, elim (.atom a) = .atom a
  and : ∀ l r, elim (.and l r) = .and (elim l) (elim r)
  or : ∀ l r, elim (.or l r) = .or (elim l) (elim r)
  not_and : ∀ l r, elim (.not (.and l r)) = .or (elim (.not l)) (elim (.not r))
  not_or : ∀ l r, elim (.not (.or l r)) = .and (elim (.not l)) (elim (.not r))
  not_not : ∀ q, elim (.not (.not q)) = elim q
  not_equal : ∀ field value cast, elim (.not (.atom ⟨field, .equal, value, cast⟩)) =
    .or (.atom ⟨field, .less, value, cast⟩) (.atom ⟨field, .greater, value, cast⟩)
  not_less : ∀ field value cast, elim (.not (.atom ⟨field, .less, value, cast⟩)) =
    .or (.atom ⟨field, .equal, value, cast⟩) (.atom ⟨field, .greater, value, cast⟩)
  not_greater : ∀ field value cast, elim (.not (.atom ⟨field, .greater, value, cast⟩)) =
    .or (.atom ⟨field, .equal, value, cast⟩) (.atom ⟨field, .less, value, cast⟩)

theorem withoutNot_pushesInward : PushesInward withoutNot where
  atom _ := rfl
  and _ _ := rfl
  or _ _ := rfl
  not_and _ _ := rfl
  not_or _ _ := rfl
  not_not _ := rfl
  not_equal _ _ _ := rfl
  not_less _ _ _ := rfl
  not_greater _ _ _ := rfl

/-- Pushing all negations into the atoms leaves none, and the query decides every record as before:
with the same truth value or with the same error. -/
theorem eval_withoutNot :
    PushesInward withoutNot ∧ ∀ q : Query, q.withoutNot.negationFree = true ∧
      ∀ r : Record, q.withoutNot.eval r = q.eval r := by
  refine ⟨withoutNot_pushesInward, fun q => ⟨negationFree_pushed false q, fun r => ?_⟩⟩
  rw [withoutNot, eval_pushed]
  cases q.eval r <;> simp [Except.map]

end Query
end RowSieve
