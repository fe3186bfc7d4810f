import RowSieve.Text

/-! Where printed characters stand. The cursor is the place of the next character: a line
end takes it to the front of the next line, any other character one column on. -/
namespace RowSieve.Terminal

/-- Lines and columns count from 0, columns in characters. -/
structure Cursor where
  line : Nat
  column : Nat
  deriving DecidableEq, Repr

namespace Cursor

def start : Cursor := ⟨0, 0⟩

def advance (k : Cursor) (c : Char) : Cursor :=
  if c = '\n' then ⟨k.line + 1, 0⟩ else ⟨k.line, k.column + 1⟩

def past (k : Cursor) (t : Text) : Cursor := t.foldl advance k

@[simp] theorem past_nil (k : Cursor) : k.past [] = k := rfl
@[simp] theorem past_cons (k : Cursor) (c : Char) (t : Text) :
    k.past (c :: t) = (k.advance c).past t := rfl
@[simp] theorem past_append (k : Cursor) (s t : Text) : k.past (s ++ t) = (k.past s).past t :=
  List.foldl_append

theorem advance_newline (k : Cursor) : k.advance '\n' = ⟨k.line + 1, 0⟩ := rfl
theorem advance_other (k : Cursor) {c : Char} (other : c ≠ '\n') :
    k.advance c = ⟨k.line, k.column + 1⟩ := if_neg other

/-- Each line end leads to a new line. -/
theorem line_past (k : Cursor) (t : Text) : (k.past t).line = k.line + t.count '\n' := by
  induction t generalizing k with
  | nil => rfl
  | cons c t ih =>
    rw [past_cons, ih, List.count_cons]
    by_cases ended : c = '\n'
    · subst ended
      simp only [advance_newline, beq_self_eq_true, if_true]
      omega
    · simp only [advance_other k ended, beq_iff_eq, ended, if_false, Nat.add_zero]

/-- On one line every character takes a column. -/
theorem past_of_notMem (k : Cursor) {t : Text} (unbroken : '\n' ∉ t) :
    k.past t = ⟨k.line, k.column + t.length⟩ := by
  induction t generalizing k with
  | nil => rfl
  | cons c t ih =>
    obtain ⟨first, rest⟩ := List.ne_and_not_mem_of_not_mem_cons unbroken
    rw [past_cons, advance_other k (Ne.symm first), ih _ rest, List.length_cons]
    simp only [mk.injEq, true_and]
    omega

theorem column_past_le (k : Cursor) (t : Text) : (k.past t).column ≤ k.column + t.length := by
  induction t generalizing k with
  | nil => exact Nat.le_refl _
  | cons c t ih =>
    have later := ih (k.advance c)
    have step : (k.advance c).column ≤ k.column + 1 := by
      unfold advance
      split <;> simp
    rw [past_cons, List.length_cons]
    omega

/-- A line end sets the cursor back. -/
theorem column_past_lt (k : Cursor) {t : Text} (broken : '\n' ∈ t) :
    (k.past t).column < k.column + t.length := by
  obtain ⟨before, after, rfl⟩ := List.append_of_mem broken
  rw [past_append, past_cons, advance_newline, List.length_append, List.length_cons]
  calc ((⟨(k.past before).line + 1, 0⟩ : Cursor).past after).column
      ≤ 0 + after.length := column_past_le _ after
    _ < k.column + (before.length + (after.length + 1)) := by omega

end Cursor
end RowSieve.Terminal
