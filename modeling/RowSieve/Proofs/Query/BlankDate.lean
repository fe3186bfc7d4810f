import RowSieve.Proofs.Calendar.Sentinel
import RowSieve.Proofs.Outcome
import RowSieve.Query.Eval

/-! Atoms that compare a date with a blank, which stands for the last day of the year 2999. Every
date of an earlier day comes before it, and no other one does. -/
namespace RowSieve

open Calendar (DateTime)

namespace Atom
variable {value literal field : Text} {a b : DateTime} {r : Record}

/-- Under the date cast an atom compares the two moments. -/
theorem eval_dates (rel : Relation) (found : r.value? field = some value)
    (left : Calendar.read? value = some a) (right : Calendar.read? literal = some b) :
    Atom.eval ⟨field, rel, literal, .date⟩ r = .ok (rel.holds (a.order b)) := by
  have present : r.get field = .ok value := by rw [Record.get, found]
  have read : readDate value = .ok a := by rw [readDate, left]
  have read' : readDate literal = .ok b := by rw [readDate, right]
  have order : Cast.date.order value literal = .ok (a.order b) :=
    bind_eq_ok_iff.mpr ⟨a, read, bind_eq_ok_iff.mpr ⟨b, read', rfl⟩⟩
  exact bind_eq_ok_iff.mpr ⟨value, present, bind_eq_ok_iff.mpr ⟨_, order, rfl⟩⟩

theorem holds_less_sentinel (a : DateTime) :
    Relation.less.holds (a.order .sentinel) = decide a.BeforeSentinel := by
  rw [Relation.holds, Bool.eq_iff_iff, beq_iff_eq, decide_eq_true_iff, DateTime.order_sentinel_iff]

theorem holds_equal_sentinel (a : DateTime) :
    Relation.equal.holds (a.order .sentinel) = decide (a = .sentinel) := by
  rw [Relation.holds, Bool.eq_iff_iff, beq_iff_eq, decide_eq_true_iff, DateTime.order_eq_iff]

theorem holds_greater_sentinel (a : DateTime) :
    Relation.greater.holds (a.order .sentinel) =
      decide (¬a.BeforeSentinel ∧ a ≠ .sentinel) := by
  rw [Relation.holds, Bool.eq_iff_iff, beq_iff_eq, decide_eq_true_iff,
    ← DateTime.order_sentinel_iff, Ne, ← DateTime.order_eq_iff]
  cases a.order .sentinel <;> decide

/-- The other way round, the sentinel is later than just the moments before it. -/
theorem holds_sentinel_greater (a : DateTime) :
    Relation.greater.holds (DateTime.sentinel.order a) = decide a.BeforeSentinel := by
  rw [← holds_less_sentinel, ← DateTime.order_swap a]
  cases a.order .sentinel <;> rfl

/-- How the dates that texts stand for lie to that of a blank: they have years up to 262142, and
those of the days before 31 December 2999, no others, are before it. An atom that compares a row's
date with a blank, or a row's blank with a date, says so. -/
theorem eval_against_blank {t : Text} (read : Calendar.read? t = some a) :
    (Calendar.Date.minYear ≤ a.date.year ∧ a.date.year ≤ Calendar.Date.maxYear) ∧
    ∀ blank, AllBlank blank → Calendar.read? blank = some .sentinel ∧
      (a.order .sentinel = .lt ↔ a.BeforeSentinel) ∧
      (∀ field r, r.value? field = some t →
        Atom.eval ⟨field, .less, blank, .date⟩ r = .ok (decide a.BeforeSentinel) ∧
        Atom.eval ⟨field, .equal, blank, .date⟩ r = .ok (decide (a = .sentinel)) ∧
        Atom.eval ⟨field, .greater, blank, .date⟩ r =
          .ok (decide (¬a.BeforeSentinel ∧ a ≠ .sentinel))) ∧
      ∀ field r, r.value? field = some blank →
        Atom.eval ⟨field, .greater, t, .date⟩ r = .ok (decide a.BeforeSentinel) := by
  refine ⟨Calendar.year_of_read? read, fun blank only => ?_⟩
  have last := Calendar.read?_of_allBlank only
  refine ⟨last, DateTime.order_sentinel_iff, fun field r found => ⟨?_, ?_, ?_⟩,
    fun field r found => ?_⟩
  · rw [eval_dates .less found read last, holds_less_sentinel]
  · rw [eval_dates .equal found read last, holds_equal_sentinel]
  · rw [eval_dates .greater found read last, holds_greater_sentinel]
  · rw [eval_dates .greater found last read, holds_sentinel_greater]

/-- The last second of 30 December 2999 in UTC, a leap second, on a clock two hours ahead. -/
theorem eval_leap_second_against_blank :
    let t := "2999-12-31T01:59:60.9+02:00".toList
    let a : DateTime := ⟨⟨2999, 12, 30, by decide, by decide, by decide, by decide⟩, 86399,
      1900000000, by decide, by decide⟩
    Calendar.read? t = some a ∧ AllBlank [' '] ∧ a.order .sentinel = .lt ∧
      Atom.eval ⟨['f'], .less, [' '], .date⟩ ⟨[(['f'], t)]⟩ = .ok true ∧
      Atom.eval ⟨['f'], .equal, [' '], .date⟩ ⟨[(['f'], t)]⟩ = .ok false ∧
      Atom.eval ⟨['f'], .greater, [' '], .date⟩ ⟨[(['f'], t)]⟩ = .ok false ∧
      Atom.eval ⟨['f'], .greater, t, .date⟩ ⟨[(['f'], [' '])]⟩ = .ok true := by
  intro t a
  have read : Calendar.read? t = some a := by decide
  have blank : AllBlank [' '] := List.forall_mem_singleton.mpr rfl
  have early : a.BeforeSentinel := by decide
  obtain ⟨-, against⟩ := eval_against_blank read
  obtain ⟨-, order, dated, empty⟩ := against [' '] blank
  obtain ⟨less, equal, greater⟩ := dated ['f'] ⟨[(['f'], t)]⟩ rfl
  exact ⟨read, blank, order.mpr early, less, equal, greater, empty ['f'] ⟨[(['f'], [' '])]⟩ rfl⟩

/-- A date of the year 9999 lies behind that of a blank. -/
theorem blank_before_late_date :
    let t := "9999-12-31".toList
    let a : DateTime := .midnight ⟨9999, 12, 31, by decide, by decide, by decide, by decide⟩
    Calendar.read? t = some a ∧ a.order .sentinel = .gt ∧
      Atom.eval ⟨['f'], .less, [], .date⟩ ⟨[(['f'], t)]⟩ = .ok false ∧
      Atom.eval ⟨['f'], .greater, [], .date⟩ ⟨[(['f'], t)]⟩ = .ok true ∧
      Atom.eval ⟨['f'], .greater, t, .date⟩ ⟨[(['f'], [])]⟩ = .ok false ∧
      ¬∀ t a, ¬AllBlank t → Calendar.read? t = some a → a.order .sentinel = .lt := by
  intro t a
  have read : Calendar.read? t = some a := by decide
  have late : a.order .sentinel = .gt := by decide
  refine ⟨read, late, by decide, by decide, by decide, fun before => ?_⟩
  have shown : ¬AllBlank t := fun blanks => absurd (blanks '9' (by decide)) (by decide)
  rw [before t a shown read] at late
  exact absurd late (by decide)

end Atom
end RowSieve
