import Mathlib.Data.Int.Order.Basic
import Mathlib.Data.Nat.Basic
import Mathlib.Order.Lattice
import RowSieve.Calendar.Instant

/-! The calendar on the line of time: each day has the number behind that of the day before, later
dates have greater numbers, and going back by some seconds goes back as far on the line. -/
namespace RowSieve.Calendar

/-- Keys that are compared one after the other, put together into one number. -/
theorem then_eq_compare {α : Type} [LinearOrder α] {x y : α} {p q : Int} {rest : Ordering}
    (before : x < y → p < q) (behind : y < x → q < p) (same : x = y → rest = compare p q) :
    (compare x y).then rest = compare p q := by
  rcases lt_trichotomy x y with lt | eq | gt
  · rw [compare_lt_iff_lt.mpr lt, compare_lt_iff_lt.mpr (before lt)]
    rfl
  · rw [compare_eq_iff_eq.mpr eq, same eq]
    rfl
  · rw [compare_gt_iff_gt.mpr gt, compare_gt_iff_gt.mpr (behind gt)]
    rfl

theorem compare_eq_compare {α : Type} [LinearOrder α] {x y : α} {p q : Int}
    (before : x < y → p < q) (behind : y < x → q < p) (same : x = y → p = q) :
    compare x y = compare p q := by
  have joined : (compare x y).then .eq = compare p q :=
    then_eq_compare before behind fun eq => (compare_eq_iff_eq.mpr (same eq)).symm
  rwa [Ordering.then_eq] at joined

namespace Date

theorem daysBeforeMonth_succ (year : Int) {month : Nat} (first : 1 ≤ month) :
    daysBeforeMonth year (month + 1) = daysBeforeMonth year month + daysIn year month := by
  obtain ⟨month, rfl⟩ := Nat.exists_eq_add_of_le' first
  rfl

theorem daysBeforeMonth_one (year : Int) : daysBeforeMonth year 1 = 0 := rfl

/-- The months of a year fill it. -/
theorem daysBeforeYear_succ (year : Int) :
    daysBeforeYear (year + 1) = daysBeforeYear year + daysBeforeMonth year 13 := by
  have february : daysBeforeMonth year 13 = 337 + daysIn year 2 := by
    simp [daysBeforeMonth, daysIn]
    omega
  rw [february]
  simp only [daysBeforeYear, daysIn, isLeap, if_true, Bool.and_eq_true, Bool.or_eq_true,
    beq_iff_eq, bne_iff_ne]
  split <;> omega

theorem daysBeforeMonth_mono (year : Int) {m n : Nat} (first : 1 ≤ m) (le : m ≤ n) :
    daysBeforeMonth year m ≤ daysBeforeMonth year n := by
  induction le with
  | refl => exact Nat.le_refl _
  | @step n le ih =>
    rw [Nat.succ_eq_add_one, daysBeforeMonth_succ year (Nat.le_trans first le)]
    exact Nat.le_trans ih (Nat.le_add_right _ _)

theorem daysBeforeYear_mono {a b : Int} (le : a ≤ b) : daysBeforeYear a ≤ daysBeforeYear b := by
  simp only [daysBeforeYear]
  omega

/-- A date lies in its month. -/
theorem dayNumber_bounds (d : Date) :
    daysBeforeYear d.year + daysBeforeMonth d.year d.month < d.dayNumber ∧
      d.dayNumber ≤ daysBeforeYear d.year + daysBeforeMonth d.year (d.month + 1) := by
  have := d.day_pos
  have := d.day_le
  rw [daysBeforeMonth_succ _ d.month_pos, dayNumber]
  omega

theorem dayNumber_lt_of_year {a b : Date} (lt : a.year < b.year) : a.dayNumber < b.dayNumber := by
  have years : daysBeforeYear a.year + daysBeforeMonth a.year 13 ≤ daysBeforeYear b.year := by
    rw [← daysBeforeYear_succ]
    exact daysBeforeYear_mono lt
  have months : daysBeforeMonth a.year (a.month + 1) ≤ daysBeforeMonth a.year 13 :=
    daysBeforeMonth_mono a.year (Nat.le_add_left ..) (Nat.succ_le_succ a.month_le)
  have := a.dayNumber_bounds
  have := b.dayNumber_bounds
  omega

theorem dayNumber_lt_of_month {a b : Date} (year : a.year = b.year) (lt : a.month < b.month) :
    a.dayNumber < b.dayNumber := by
  have months : daysBeforeMonth a.year (a.month + 1) ≤ daysBeforeMonth a.year b.month :=
    daysBeforeMonth_mono a.year (Nat.le_add_left ..) lt
  have := a.dayNumber_bounds
  have := b.dayNumber_bounds
  rw [← year] at this
  omega

theorem dayNumber_lt_of_day {a b : Date} (year : a.year = b.year) (month : a.month = b.month)
    (lt : a.day < b.day) : a.dayNumber < b.dayNumber := by
  rw [dayNumber, dayNumber, year, month]
  omega

/-- Dates come in the order of their numbers. -/
theorem order_eq_compare (a b : Date) : a.order b = compare a.dayNumber b.dayNumber := by
  refine then_eq_compare dayNumber_lt_of_year dayNumber_lt_of_year fun year => ?_
  refine then_eq_compare (dayNumber_lt_of_month year) (dayNumber_lt_of_month year.symm)
    fun month => ?_
  refine compare_eq_compare (dayNumber_lt_of_day year month)
    (dayNumber_lt_of_day year.symm month.symm) fun day => ?_
  rw [dayNumber, dayNumber, year, month, day]

theorem order_eq_iff {a b : Date} : a.order b = .eq ↔ a = b := by
  simp only [order, Ordering.then_eq_eq, compare_eq_iff_eq]
  cases a
  cases b
  simp

theorem dayNumber_injective {a b : Date} (same : a.dayNumber = b.dayNumber) : a = b :=
  order_eq_iff.mp (by rw [order_eq_compare, compare_eq_iff_eq.mpr same])

theorem dayNumber_next (d : Date) : d.next.dayNumber = d.dayNumber + 1 := by
  have := d.day_le
  have := d.month_le
  have month := daysBeforeMonth_succ d.year d.month_pos
  unfold next
  split
  · simp only [dayNumber]
    omega
  · split
    · simp only [dayNumber, month]
      omega
    · have last : d.month = 12 := by omega
      have months : daysBeforeMonth d.year 13 = daysBeforeMonth d.year 12 + daysIn d.year 12 :=
        daysBeforeMonth_succ d.year (by decide)
      have month : daysIn d.year d.month = daysIn d.year 12 := congrArg _ last
      simp only [dayNumber, daysBeforeYear_succ, months, last, daysBeforeMonth_one]
      omega

theorem dayNumber_prev (d : Date) : d.prev.dayNumber = d.dayNumber - 1 := by
  have := d.day_pos
  have := d.month_pos
  unfold prev
  split
  · simp only [dayNumber]
    omega
  · split
    · have month := daysBeforeMonth_succ d.year (show 1 ≤ d.month - 1 by omega)
      rw [Nat.sub_add_cancel d.month_pos] at month
      simp only [dayNumber, month]
      omega
    · have first : d.month = 1 := by omega
      have year := daysBeforeYear_succ (d.year - 1)
      rw [Int.sub_add_cancel, daysBeforeMonth_succ _ (by decide)] at year
      simp only [dayNumber, first, year, daysBeforeMonth]
      simp [daysIn]
      omega

end Date

namespace DateTime

theorem order_eq_compare {a b : DateTime} (whole : a.nano = b.nano) :
    a.order b = compare a.instant b.instant := by
  have := a.second_lt
  have := b.second_lt
  rw [order, Date.order_eq_compare, whole, compare_eq_iff_eq.mpr (rfl : b.nano = b.nano),
    Ordering.then_eq]
  refine then_eq_compare (fun lt => ?_) (fun gt => ?_) fun same => ?_
  · simp only [instant]
    omega
  · simp only [instant]
    omega
  · rw [instant, instant, same]
    exact compare_eq_compare (by omega) (by omega) (by omega)

theorem eq_of_instant {a b : DateTime} (same : a.instant = b.instant) (whole : a.nano = b.nano) :
    a = b := by
  have := a.second_lt
  have := b.second_lt
  simp only [instant] at same
  have date : a.date = b.date := Date.dayNumber_injective (by omega)
  have second : a.second = b.second := by
    rw [date] at same
    omega
  cases a
  cases b
  simp_all

theorem nano_earlier (t : DateTime) (seconds : Int) : (t.earlier seconds).nano = t.nano := by
  simp only [earlier]
  split
  · rfl
  · split <;> rfl

/-- Less than a day either way, the new moment lies so many seconds before the old one. -/
theorem instant_earlier (t : DateTime) {seconds : Int} (back : seconds < 86400)
    (ahead : -86400 < seconds) : (t.earlier seconds).instant = t.instant - seconds := by
  have := t.second_lt
  simp only [earlier]
  split
  · simp only [instant, Date.dayNumber_prev]
    omega
  · split
    · simp only [instant]
      omega
    · simp only [instant, Date.dayNumber_next]
      omega

end DateTime
end RowSieve.Calendar
