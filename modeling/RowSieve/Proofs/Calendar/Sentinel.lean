import RowSieve.Proofs.Calendar.Clash
import RowSieve.Proofs.Calendar.Instant

/-! Which written dates come before the sentinel that stands for an empty text: those of all days
before the last one of the year 2999. The accepted years go on long after that. -/
namespace RowSieve.Calendar

namespace Date

theorem year_bounds {year : Int} {month day : Nat} {d : Date}
    (made : ofParts? year month day = some d) : minYear ≤ d.year ∧ d.year ≤ maxYear := by
  rw [(parts_of_ofParts? made).1]
  rw [ofParts?] at made
  split at made
  · split at made
    · assumption
    · simp at made
  · simp at made

theorem order_swap (a b : Date) : (a.order b).swap = b.order a := by
  simp only [order, Ordering.swap_then, Int.compare_swap, Nat.compare_swap]

theorem year_next (d : Date) : d.next.year = d.year ∨ d.next.year = d.year + 1 := by
  unfold next
  split
  · exact .inl rfl
  · split
    · exact .inl rfl
    · exact .inr rfl

theorem year_prev (d : Date) : d.prev.year = d.year ∨ d.prev.year = d.year - 1 := by
  unfold prev
  split
  · exact .inl rfl
  · split
    · exact .inl rfl
    · exact .inr rfl

end Date

namespace DateTime

theorem date_ofClock? {d : Date} {hour minute second nano : Nat} {t : DateTime}
    (made : ofClock? d hour minute second nano = some t) : t.date = d := by
  rw [ofClock?] at made
  split at made
  · split at made
    all_goals
      obtain rfl := Option.some.inj made
      rfl
  · simp at made

/-- Less than a day leads to the next year or the last one at most. -/
theorem year_earlier (t : DateTime) (seconds : Int) :
    t.date.year - 1 ≤ (t.earlier seconds).date.year ∧
      (t.earlier seconds).date.year ≤ t.date.year + 1 := by
  have before := t.date.year_prev
  have behind := t.date.year_next
  simp only [earlier]
  split
  · dsimp only
    omega
  · split
    · dsimp only
      omega
    · dsimp only
      omega

/-- Moments compare by their days first. -/
theorem order_of_date_ne {a b : DateTime} (differ : a.date ≠ b.date) :
    a.order b = a.date.order b.date := by
  rw [order]
  cases days : a.date.order b.date with
  | eq => exact absurd (Date.order_eq_iff.mp days) differ
  | lt => rfl
  | gt => rfl

theorem order_eq_iff {a b : DateTime} : a.order b = .eq ↔ a = b := by
  simp only [order, Ordering.then_eq_eq, Date.order_eq_iff, Nat.compare_eq_eq]
  cases a
  cases b
  simp

theorem order_swap (a b : DateTime) : (a.order b).swap = b.order a := by
  simp only [order, Ordering.swap_then, Date.order_swap, Nat.compare_swap]

/-- Nothing comes before a midnight on its own day. -/
theorem order_midnight_iff {t : DateTime} {d : Date} :
    t.order (midnight d) = .lt ↔ t.date.order d = .lt := by
  by_cases same : t.date = d
  · have day : t.date.order d = .eq := Date.order_eq_iff.mpr same
    have second : compare t.second 0 ≠ .lt := by simp [Nat.compare_eq_lt]
    have nano : compare t.nano 0 ≠ .lt := by simp [Nat.compare_eq_lt]
    have later : t.order (midnight d) = (compare t.second 0).then (compare t.nano 0) := by
      rw [order, midnight, day]
      rfl
    rw [later, Ordering.then_eq_lt, day]
    simp [second, nano]
  · rw [order_of_date_ne same]
    rfl

/-- Whether a moment lies on a day before the sentinel. -/
def BeforeSentinel (t : DateTime) : Prop :=
  t.date.year < 2999 ∨ t.date.year = 2999 ∧ (t.date.month < 12 ∨ t.date.day < 31)

instance (t : DateTime) : Decidable t.BeforeSentinel := inferInstanceAs (Decidable (_ ∨ _))

/-- A moment is before the sentinel if its day is, whatever its time of day. -/
theorem order_sentinel_iff {t : DateTime} : t.order .sentinel = .lt ↔ t.BeforeSentinel := by
  rw [sentinel, order_midnight_iff, BeforeSentinel]
  simp only [Date.order, Ordering.then_eq_lt, compare_lt_iff_lt, compare_eq_iff_eq]
  have := t.date.month_le
  have := t.date.day_le
  have := daysIn_le t.date.year t.date.month
  omega

end DateTime

variable {t : Text} {a : DateTime}

namespace Pattern

theorem year_of_date? {pattern : Pattern} (read : pattern.date? t = some a) :
    Date.minYear ≤ a.date.year ∧ a.date.year ≤ Date.maxYear := by
  obtain ⟨p, _, read⟩ := Option.bind_eq_some_iff.mp read
  obtain ⟨d, made, read⟩ := Option.bind_eq_some_iff.mp read
  obtain rfl := Option.some.inj read
  exact Date.year_bounds made

theorem year_of_dateTime? {pattern : Pattern} (read : pattern.dateTime? t = some a) :
    Date.minYear ≤ a.date.year ∧ a.date.year ≤ Date.maxYear := by
  obtain ⟨p, _, read⟩ := Option.bind_eq_some_iff.mp read
  obtain ⟨d, made, clock⟩ := Option.bind_eq_some_iff.mp read
  rw [DateTime.date_ofClock? clock]
  exact Date.year_bounds made

end Pattern

theorem digit_lt {c : Char} (digit : c.isDigit = true) : c.toNat - '0'.toNat < 10 := by
  have bounds : 48 ≤ c.toNat ∧ c.toNat ≤ 57 := by
    simpa [Char.isDigit, UInt32.le_iff_toNat_le] using digit
  have zero : '0'.toNat = 48 := rfl
  omega

theorem Figures.lt {width n : Nat} {ds : Text} (figures : Figures width n ds) :
    n < 10 ^ width := by
  obtain ⟨rfl, digits, rfl⟩ := figures
  induction ds with
  | nil => decide
  | cons c ds ih =>
    obtain ⟨digit, digits⟩ := List.forall_mem_cons.mp digits
    have first := digit_lt digit
    have value : digitsValue (c :: ds) =
        (c.toNat - '0'.toNat) * 10 ^ ds.length + digitsValue ds := by
      rw [digitsValue, List.foldl_cons, foldl_digits, Nat.mul_zero, Nat.zero_add]
    calc digitsValue (c :: ds)
        < (c.toNat - '0'.toNat) * 10 ^ ds.length + 10 ^ ds.length := by
          rw [value]
          exact Nat.add_lt_add_left (ih digits) _
      _ = (c.toNat - '0'.toNat + 1) * 10 ^ ds.length := (Nat.succ_mul ..).symm
      _ ≤ 10 * 10 ^ ds.length := Nat.mul_le_mul_right _ first
      _ = 10 ^ (c :: ds).length := (Nat.pow_succ' ..).symm

/-- The year of a timestamp has four digits, and its offset changes it by one at most. -/
theorem Timestamp.year_of_read? (read : Timestamp.read? t = some a) :
    -1 ≤ a.date.year ∧ a.date.year ≤ 10000 := by
  rw [Timestamp.read?] at read
  obtain ⟨year, ys, _, figures, rfl, afterYear⟩ := Timestamp.fixed?_bind_eq_some read
  have small : year < 10 ^ 4 := figures.lt
  -- only the date at the front and the shift at the end bear on the year
  obtain ⟨_, _, afterYear⟩ := Option.bind_eq_some_iff.mp afterYear
  obtain ⟨⟨month, _⟩, _, afterMonth⟩ := Option.bind_eq_some_iff.mp afterYear
  obtain ⟨_, _, afterMonth⟩ := Option.bind_eq_some_iff.mp afterMonth
  obtain ⟨⟨day, _⟩, _, afterDay⟩ := Option.bind_eq_some_iff.mp afterMonth
  obtain ⟨_, _, afterDay⟩ := Option.bind_eq_some_iff.mp afterDay
  obtain ⟨⟨hour, _⟩, _, afterHour⟩ := Option.bind_eq_some_iff.mp afterDay
  obtain ⟨_, _, afterHour⟩ := Option.bind_eq_some_iff.mp afterHour
  obtain ⟨⟨minute, _⟩, _, afterMinute⟩ := Option.bind_eq_some_iff.mp afterHour
  obtain ⟨_, _, afterMinute⟩ := Option.bind_eq_some_iff.mp afterMinute
  obtain ⟨⟨second, _⟩, _, afterSecond⟩ := Option.bind_eq_some_iff.mp afterMinute
  obtain ⟨⟨nano, _⟩, _, afterNano⟩ := Option.bind_eq_some_iff.mp afterSecond
  obtain ⟨⟨offset, rest⟩, _, made⟩ := Option.bind_eq_some_iff.mp afterNano
  dsimp only at made
  split at made
  · obtain ⟨d, date, made⟩ := Option.bind_eq_some_iff.mp made
    obtain ⟨wall, clock, made⟩ := Option.bind_eq_some_iff.mp made
    obtain rfl := Option.some.inj made
    have near := wall.year_earlier offset
    rw [DateTime.date_ofClock? clock, (Date.parts_of_ofParts? date).1] at near
    omega
  · simp at made

/-- The years of the accepted dates. -/
theorem year_of_read? (read : read? t = some a) :
    Date.minYear ≤ a.date.year ∧ a.date.year ≤ Date.maxYear := by
  simp only [read?] at read
  split at read
  · obtain rfl := Option.some.inj read
    decide
  · obtain ⟨form, known, read⟩ := List.exists_of_findSome?_eq_some read
    simp only [forms, List.mem_cons, List.not_mem_nil, or_false] at known
    rcases known with rfl | rfl | rfl | rfl | rfl | rfl | rfl | rfl
    · exact Pattern.year_of_date? read
    · exact Pattern.year_of_date? read
    · exact Pattern.year_of_date? read
    · exact Pattern.year_of_date? read
    · exact Pattern.year_of_date? read
    · exact Pattern.year_of_dateTime? read
    · exact Pattern.year_of_dateTime? read
    · have near := Timestamp.year_of_read? read
      simp only [Date.minYear, Date.maxYear]
      omega

theorem read?_of_allBlank (blank : AllBlank t) : read? t = some .sentinel := by
  rw [read?, Text.trim_of_allBlank blank]
  rfl

end RowSieve.Calendar
