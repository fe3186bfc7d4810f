import Mathlib.Tactic.Ring
import RowSieve.Calendar.Spelling
import RowSieve.Proofs.Text.Trim

/-! Numbers in written dates: fixed numbers of digits, which the readers take off the front of a
text. -/
namespace RowSieve.Calendar

open DateTime (renderTwo renderYear)

theorem isBlank_digit {c : Char} (digit : c.isDigit = true) : isBlank c = false := by
  have bounds : 48 ≤ c.toNat ∧ c.toNat ≤ 57 := by
    simpa [Char.isDigit, UInt32.le_iff_toNat_le] using digit
  simp only [isBlank, Bool.or_eq_false_iff, Bool.and_eq_false_iff, decide_eq_false_iff_not,
    beq_eq_false_iff_ne]
  omega

structure Figures (width n : Nat) (ds : Text) : Prop where
  length : ds.length = width
  digits : ∀ c ∈ ds, c.isDigit = true
  value : digitsValue ds = n

theorem foldl_digits (n : Nat) (ds : Text) :
    ds.foldl (fun n c => 10 * n + (c.toNat - '0'.toNat)) n =
      n * 10 ^ ds.length + digitsValue ds := by
  rw [digitsValue]
  induction ds generalizing n with
  | nil => simp
  | cons c ds ih =>
    rw [List.foldl_cons, List.foldl_cons, ih, ih (10 * 0 + _), List.length_cons]
    ring

namespace Figures

theorem digit {n : Nat} (small : n < 10) : Figures 1 n [Nat.digitChar n] where
  length := rfl
  digits c member := by
    rw [List.mem_singleton.mp member, Nat.isDigit_digitChar]
    exact decide_eq_true small
  value := by
    have code := Nat.toNat_digitChar_of_lt_ten small
    simp only [digitsValue, List.foldl_cons, List.foldl_nil, code]
    exact (Nat.zero_add _).trans (Nat.add_sub_cancel_left 48 n)

theorem append {v w m n : Nat} {ds es : Text} (high : Figures v m ds) (low : Figures w n es) :
    Figures (v + w) (m * 10 ^ w + n) (ds ++ es) where
  length := by rw [List.length_append, high.length, low.length]
  digits c member := (List.mem_append.mp member).elim (high.digits c) (low.digits c)
  value := by
    rw [digitsValue, List.foldl_append, foldl_digits, low.length, low.value]
    exact congrArg (· * 10 ^ w + n) high.value

end Figures

/-- The last digit stands apart from those before it. -/
theorem padLeft_decimal (width n : Nat) :
    Text.padLeft (width + 2) '0' (Text.decimal n) =
      Text.padLeft (width + 1) '0' (Text.decimal (n / 10)) ++ [Nat.digitChar (n % 10)] := by
  simp only [Text.padLeft, Text.decimal]
  rw [Nat.toDigits_eq_if (by decide : 1 < 10)]
  split
  · rename_i small
    rw [Nat.div_eq_of_lt small, Nat.mod_eq_of_lt small]
    simp [List.replicate_succ']
  · simp

theorem figures_padLeft {n : Nat} (width : Nat) (small : n < 10 ^ (width + 1)) :
    Figures (width + 1) n (Text.padLeft (width + 1) '0' (Text.decimal n)) := by
  induction width generalizing n with
  | zero =>
    have small : n < 10 := small
    rw [Text.decimal, Nat.toDigits_of_lt_base small]
    exact .digit small
  | succ width ih =>
    have high : n / 10 < 10 ^ (width + 1) := by
      rw [Nat.div_lt_iff_lt_mul (by decide)]
      exact small
    have parts := (ih high).append (.digit (Nat.mod_lt n (by decide)))
    rw [padLeft_decimal]
    rwa [Nat.pow_one, Nat.div_add_mod'] at parts

theorem figures_renderTwo {n : Nat} (small : n < 100) : Figures 2 n (renderTwo n) :=
  figures_padLeft 1 small

theorem figures_renderYear {year : Int} (past : 0 ≤ year) (small : year ≤ 9999) :
    Figures 4 year.toNat (renderYear year) := by
  obtain ⟨n, rfl⟩ := Int.eq_ofNat_of_zero_le past
  simp only [renderYear, Int.natAbs_natCast, Int.toNat_natCast]
  rw [if_neg (by omega), if_neg (by omega)]
  exact figures_padLeft 3 (by omega)

/-- Digits are taken up to the limit or to the first character that is none. -/
theorem takeDigits_append {limit : Nat} {ds rest : Text} (digits : ∀ c ∈ ds, c.isDigit = true)
    (room : ds.length ≤ limit)
    (stop : ds.length = limit ∨ ∀ c ∈ rest.head?, c.isDigit = false) :
    takeDigits limit (ds ++ rest) = (ds, rest) := by
  induction limit generalizing ds with
  | zero =>
    obtain rfl := List.length_eq_zero_iff.mp (Nat.le_zero.mp room)
    rfl
  | succ limit ih =>
    cases ds with
    | nil =>
      have other := stop.resolve_left (by simp)
      cases rest with
      | nil => rfl
      | cons c rest => simp [takeDigits, other c rfl]
    | cons d ds =>
      obtain ⟨digit, digits⟩ := List.forall_mem_cons.mp digits
      have taken := ih digits (Nat.le_of_succ_le_succ room) (stop.imp_left Nat.succ.inj)
      simp [takeDigits, digit, taken]

namespace Figures

variable {width n : Nat} {ds : Text}

theorem number? {limit : Nat} (figures : Figures (width + 1) n ds) (rest : Text)
    (room : width + 1 ≤ limit)
    (stop : width + 1 = limit ∨ ∀ c ∈ rest.head?, c.isDigit = false) :
    Calendar.number? limit (ds ++ rest) = some (n, rest) := by
  obtain ⟨length, digits, rfl⟩ := figures
  obtain ⟨d, ds, rfl⟩ := List.exists_cons_of_length_eq_add_one length
  rw [← length] at room stop
  rw [Calendar.number?, takeDigits_append digits room stop]

theorem fixed? (figures : Figures width n ds) (rest : Text) :
    Timestamp.fixed? width (ds ++ rest) = some (n, rest) := by
  obtain ⟨rfl, digits, rfl⟩ := figures
  simp [Timestamp.fixed?, takeDigits_append digits (Nat.le_refl _) (.inl rfl)]

theorem trimStart (figures : Figures (width + 1) n ds) (rest : Text) :
    Text.trimStart (ds ++ rest) = ds ++ rest := by
  obtain ⟨length, digits, rfl⟩ := figures
  obtain ⟨d, ds, rfl⟩ := List.exists_cons_of_length_eq_add_one length
  exact Text.trimStart_cons (isBlank_digit (digits d List.mem_cons_self))

end Figures

/-! What a reader has taken off the front of a text is a number of this kind. -/

theorem exists_takeDigits (limit : Nat) (t : Text) :
    ∃ ds rest, takeDigits limit t = (ds, rest) ∧ t = ds ++ rest ∧
      (∀ c ∈ ds, c.isDigit = true) ∧ ds.length ≤ limit := by
  fun_induction takeDigits limit t with
  | case1 t => exact ⟨[], t, rfl, rfl, by simp, by simp⟩
  | case2 limit => exact ⟨[], [], rfl, rfl, by simp, by simp⟩
  | case3 limit c t digit ds rest taken ih =>
    obtain ⟨ds', rest', taken', parts, digits, room⟩ := ih
    rw [taken] at taken'
    obtain ⟨rfl, rfl⟩ := Prod.mk.inj taken'
    refine ⟨c :: ds, rest, rfl, by rw [parts, List.cons_append], ?_, Nat.succ_le_succ room⟩
    exact List.forall_mem_cons.mpr ⟨digit, digits⟩
  | case4 limit c t other => exact ⟨[], c :: t, rfl, rfl, by simp, by simp⟩

theorem number?_eq_some {limit n : Nat} {t rest : Text} (read : number? limit t = some (n, rest)) :
    ∃ width ds, width < limit ∧ Figures (width + 1) n ds ∧ t = ds ++ rest := by
  obtain ⟨ds, rest', taken, parts, digits, room⟩ := exists_takeDigits limit t
  rw [number?, taken] at read
  cases ds with
  | nil => simp at read
  | cons d ds =>
    obtain ⟨rfl, rfl⟩ := Prod.mk.inj (Option.some.inj read)
    exact ⟨ds.length, d :: ds, room, ⟨rfl, digits, rfl⟩, parts⟩

theorem fixed?_eq_some {width n : Nat} {t rest : Text}
    (read : Timestamp.fixed? width t = some (n, rest)) :
    ∃ ds, Figures width n ds ∧ t = ds ++ rest := by
  obtain ⟨ds, rest', taken, parts, digits, room⟩ := exists_takeDigits width t
  simp only [Timestamp.fixed?, taken] at read
  split at read
  · rename_i length
    obtain ⟨rfl, rfl⟩ := Prod.mk.inj (Option.some.inj read)
    exact ⟨ds, ⟨length, digits, rfl⟩, parts⟩
  · simp at read

end RowSieve.Calendar
