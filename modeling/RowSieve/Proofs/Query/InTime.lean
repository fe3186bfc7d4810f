import RowSieve.Proofs.Calendar.Reading
import RowSieve.Query.Eval

/-! Atoms that compare dates. Whatever spellings the value of the row and the literal have, the
atom tells how the two moments lie on the line of time. -/
namespace RowSieve

open Calendar (DateTime Spells)

/-- Whether two moments stand in the relation on the line of time. -/
def Relation.InTime (rel : Relation) (a b : DateTime) : Prop :=
  match rel with
  | equal => a.instant = b.instant
  | less => a.instant < b.instant
  | greater => b.instant < a.instant

theorem Relation.holds_order_iff (rel : Relation) {a b : DateTime} (whole : a.nano = b.nano) :
    rel.holds (a.order b) = true ↔ rel.InTime a b := by
  rw [DateTime.order_eq_compare whole]
  cases rel with
  | equal => simp [holds, InTime]
  | less => simp [holds, InTime, compare_lt_iff_lt]
  | greater => simp [holds, InTime, compare_gt_iff_gt]

theorem readDate_of_spells {text : Text} {t : DateTime} (spells : Spells text t) :
    readDate text = .ok t := by
  rw [readDate, Calendar.read?_of_spells spells]

namespace Atom

/-- Two spelled moments are read as they are, and an atom under the date cast decides how they lie
in time; it never fails. -/
theorem eval_spelled_dates {value literal : Text} {a b : DateTime} (left : Spells value a)
    (right : Spells literal b) (field : Text) (rel : Relation) {r : Record}
    (found : r.value? field = some value) :
    readDate value = .ok a ∧ readDate literal = .ok b ∧
      ∃ holds, Atom.eval ⟨field, rel, literal, .date⟩ r = .ok holds ∧
        (holds = true ↔ rel.InTime a b) := by
  have read := readDate_of_spells left
  have read' := readDate_of_spells right
  have whole : a.nano = b.nano := by
    obtain ⟨_, _, _, _, shows, _⟩ := left
    obtain ⟨_, _, _, _, shows', _⟩ := right
    exact shows.moment_plain.2.2.trans shows'.moment_plain.2.2.symm
  refine ⟨read, read', rel.holds (a.order b), ?_, rel.holds_order_iff whole⟩
  have present : r.get field = .ok value := by rw [Record.get, found]
  have order : Cast.date.order value literal = .ok (a.order b) := by
    rw [Cast.order, read, read']
    rfl
  rw [Atom.eval, present]
  change Cast.date.order value literal >>= _ = _
  rw [order]
  rfl

/-- Half past midnight of 1 March, two hours ahead of UTC, is a moment of the leap day before it and
later than its start. -/
theorem eval_across_leap_day :
    Spells " 2024-03-01T00:30:00+02:00".toList
        ⟨⟨2024, 2, 29, by decide, by decide, by decide, by decide⟩, 81000, 0, by decide,
          by decide⟩ ∧
    Spells "29 February 2024".toList
        (.midnight ⟨2024, 2, 29, by decide, by decide, by decide, by decide⟩) ∧
    Atom.eval ⟨['f'], .greater, "29 February 2024".toList, .date⟩
        ⟨[(['f'], " 2024-03-01T00:30:00+02:00".toList)]⟩ = .ok true :=
  have left : Spells " 2024-03-01T00:30:00+02:00".toList
      ⟨⟨2024, 2, 29, by decide, by decide, by decide, by decide⟩, 81000, 0, by decide, by decide⟩ :=
    ⟨.offset ⟨false, 120, by decide⟩,
      ⟨⟨2024, 3, 1, by decide, by decide, by decide, by decide⟩, 1800, 0, by decide, by decide⟩,
      [' '], [], ⟨by decide, by decide, by decide, by decide⟩, by simp [AllBlank]; decide,
      by simp [AllBlank], by decide⟩
  have right : Spells "29 February 2024".toList
      (.midnight ⟨2024, 2, 29, by decide, by decide, by decide, by decide⟩) :=
    ⟨.longName, .midnight ⟨2024, 2, 29, by decide, by decide, by decide, by decide⟩, [], [],
      ⟨by decide, by decide, by decide, by decide⟩, by simp [AllBlank], by simp [AllBlank],
      by decide⟩
  have ⟨_, evaluated, later⟩ := (eval_spelled_dates left right ['f'] .greater rfl).2.2
  ⟨left, right, later.mpr (show _ < _ by decide) ▸ evaluated⟩

end Atom
end RowSieve
