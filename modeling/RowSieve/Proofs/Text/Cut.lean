import Mathlib.Data.List.TakeWhile
import RowSieve.Text

/-! Cutting a text before its first character of some kind. -/
namespace RowSieve.Text

variable {p : Char → Bool} {t before rest : Text} {d : Char}

theorem takeWhile_append_stop (pass : ∀ c ∈ before, p c = true) (stop : p d = false) :
    (before ++ d :: rest).takeWhile p = before := by
  rw [List.takeWhile_append_of_pos pass, List.takeWhile_cons_of_neg (by simp [stop]),
    List.append_nil]

theorem dropWhile_append_stop (pass : ∀ c ∈ before, p c = true) (stop : p d = false) :
    (before ++ d :: rest).dropWhile p = d :: rest := by
  rw [List.dropWhile_append_of_pos pass, List.dropWhile_cons_of_neg (by simp [stop])]

/-- A text is passed over as far as a character that does not occur in it. -/
theorem passes_of_not_mem {stop : Char} (absent : stop ∉ t) : ∀ c ∈ t, decide (c ≠ stop) = true := by
  intro c member
  exact decide_eq_true fun same => absent (same ▸ member)

/-- A text is cut in one place only. -/
theorem append_stop_inj {before' rest' : Text} {d' : Char} (pass : ∀ c ∈ before, p c = true)
    (pass' : ∀ c ∈ before', p c = true) (stop : p d = false) (stop' : p d' = false)
    (same : before ++ d :: rest = before' ++ d' :: rest') :
    before = before' ∧ d = d' ∧ rest = rest' := by
  have front := congrArg (List.takeWhile p) same
  rw [takeWhile_append_stop pass stop, takeWhile_append_stop pass' stop'] at front
  rw [front] at same
  exact ⟨front, List.cons.inj (List.append_cancel_left same)⟩

/-- What stops the cut, and what was passed over before it. -/
theorem dropWhile_eq_cons_iff :
    t.dropWhile p = d :: rest ↔
      p d = false ∧ (∀ c ∈ t.takeWhile p, p c = true) ∧ t = t.takeWhile p ++ d :: rest := by
  constructor
  · intro stopped
    have first := List.head?_dropWhile_not p t
    rw [stopped] at first
    refine ⟨by simpa using first, fun _ => List.mem_takeWhile_imp, ?_⟩
    rw [← stopped, List.takeWhile_append_dropWhile]
  · rintro ⟨stop, pass, parts⟩
    rw [parts]
    exact dropWhile_append_stop pass stop

theorem takeWhile_of_dropWhile_eq_nil (all : t.dropWhile p = []) : t.takeWhile p = t :=
  List.takeWhile_eq_self_iff.mpr (List.dropWhile_eq_nil_iff.mp all)

end RowSieve.Text
