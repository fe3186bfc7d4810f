import Mathlib.Data.List.DropRight
import Mathlib.Data.List.TakeWhile
import RowSieve.Text

/-! Trimming seen from the parts of a text: blanks at an end go away, and the first
character that is no blank stays with all that is beyond it. -/
namespace RowSieve

@[simp] theorem allBlank_nil : AllBlank [] := by simp [AllBlank]

@[simp] theorem allBlank_append {s t : Text} : AllBlank (s ++ t) ↔ AllBlank s ∧ AllBlank t := by
  simp [AllBlank, or_imp, forall_and]

theorem allBlank_reverse {t : Text} : AllBlank t.reverse ↔ AllBlank t := by simp [AllBlank]

namespace Text

theorem trimStart_append_of_blank {s t : Text} (blank : AllBlank s) :
    trimStart (s ++ t) = trimStart t :=
  List.dropWhile_append_of_pos blank

theorem trimStart_cons {c : Char} {t : Text} (dark : isBlank c = false) :
    trimStart (c :: t) = c :: t :=
  List.dropWhile_cons_of_neg (by simp [dark])

theorem trimStart_blank_cons {s t : Text} {c : Char} (blank : AllBlank s)
    (dark : isBlank c = false) : trimStart (s ++ c :: t) = c :: t := by
  rw [trimStart_append_of_blank blank, trimStart_cons dark]

/-- What trimming takes away at the start. -/
theorem exists_trimStart (t : Text) : ∃ before, AllBlank before ∧ t = before ++ trimStart t :=
  ⟨t.takeWhile isBlank, fun _ member => List.mem_takeWhile_imp member,
    List.takeWhile_append_dropWhile.symm⟩

theorem trimStart_eq_nil_iff {t : Text} : trimStart t = [] ↔ AllBlank t :=
  List.dropWhile_eq_nil_iff

theorem dark_of_trimStart {t rest : Text} {c : Char} (start : trimStart t = c :: rest) :
    isBlank c = false := by
  have first := List.head?_dropWhile_not isBlank t
  rw [trimStart] at start
  simpa [start] using first

theorem trimEnd_eq_reverse (t : Text) : trimEnd t = (trimStart t.reverse).reverse := rfl

theorem trimEnd_append_of_blank {s t : Text} (blank : AllBlank t) :
    trimEnd (s ++ t) = trimEnd s := by
  rw [trimEnd_eq_reverse, List.reverse_append,
    trimStart_append_of_blank (allBlank_reverse.mpr blank), ← trimEnd_eq_reverse]

/-- A character that is no blank keeps everything before it. -/
theorem trimEnd_append_cons {s t : Text} {c : Char} (dark : isBlank c = false) :
    trimEnd (s ++ c :: t) = s ++ c :: trimEnd t := by
  obtain ⟨before, blank, parts⟩ := exists_trimStart t.reverse
  have turned : (s ++ c :: t).reverse = before ++ (trimStart t.reverse ++ c :: s.reverse) := by
    rw [← List.append_assoc, ← parts]
    simp
  rw [trimEnd_eq_reverse, turned, trimStart_append_of_blank blank, trimEnd_eq_reverse]
  cases rest : trimStart t.reverse with
  | nil => simp [trimStart_cons dark]
  | cons d rest' => simp [trimStart_cons (dark_of_trimStart rest)]

theorem trimEnd_of_allBlank {t : Text} (blank : AllBlank t) : trimEnd t = [] :=
  trimEnd_append_of_blank (s := []) blank

theorem trimEnd_append_cons_blank {s t : Text} {c : Char} (dark : isBlank c = false)
    (blank : AllBlank t) : trimEnd (s ++ c :: t) = s ++ [c] := by
  rw [trimEnd_append_cons dark, trimEnd_of_allBlank blank]

theorem exists_trimEnd (t : Text) : ∃ after, AllBlank after ∧ t = trimEnd t ++ after := by
  obtain ⟨before, blank, parts⟩ := exists_trimStart t.reverse
  refine ⟨before.reverse, allBlank_reverse.mpr blank, ?_⟩
  rw [trimEnd_eq_reverse, ← List.reverse_append, ← parts, List.reverse_reverse]

theorem trimEnd_trimEnd (t : Text) : trimEnd (trimEnd t) = trimEnd t :=
  List.rdropWhile_idempotent ..

theorem exists_trim (t : Text) :
    ∃ before after, AllBlank before ∧ AllBlank after ∧ t = before ++ trim t ++ after := by
  obtain ⟨before, blank, start⟩ := exists_trimStart t
  obtain ⟨after, blank', stop⟩ := exists_trimEnd (trimStart t)
  refine ⟨before, after, blank, blank', ?_⟩
  rw [List.append_assoc, trim, ← stop, ← start]

theorem trim_subset (t : Text) : trim t ⊆ t := by
  obtain ⟨before, after, _, _, parts⟩ := exists_trim t
  intro c inside
  rw [parts]
  simp [inside]

theorem trim_of_allBlank {t : Text} (blank : AllBlank t) : trim t = [] := by
  rw [trim, trimStart_eq_nil_iff.mpr blank]
  rfl

theorem dark_of_trim {t rest : Text} {c : Char} (start : trim t = c :: rest) :
    isBlank c = false := by
  obtain ⟨after, _, stop⟩ := exists_trimEnd (trimStart t)
  rw [trim] at start
  rw [start] at stop
  exact dark_of_trimStart stop

theorem trim_append_of_blank {before t after : Text} (blank : AllBlank before)
    (blank' : AllBlank after) : trim (before ++ t ++ after) = trim t := by
  rw [List.append_assoc, trim, trimStart_append_of_blank blank]
  by_cases empty : AllBlank t
  · rw [trim_of_allBlank empty, trimStart_eq_nil_iff.mpr (allBlank_append.mpr ⟨empty, blank'⟩)]
    rfl
  · obtain ⟨lead, leadBlank, parts⟩ := exists_trimStart t
    obtain ⟨c, rest, start⟩ :=
      List.exists_cons_of_ne_nil (mt trimStart_eq_nil_iff.mp empty)
    have dark := dark_of_trimStart start
    rw [start] at parts
    subst parts
    rw [List.append_assoc, List.cons_append, trimStart_blank_cons leadBlank dark, trim, start,
      ← List.cons_append, trimEnd_append_of_blank blank']

/-- A text between two characters that are no blanks stands as it is, whatever blanks there
are around it. -/
theorem trim_between {before after : Text} {c d : Char} (blank : AllBlank before)
    (blank' : AllBlank after) (dark : isBlank c = false) (dark' : isBlank d = false) (t : Text) :
    trim (before ++ c :: (t ++ d :: after)) = c :: (t ++ [d]) := by
  rw [trim, trimStart_blank_cons blank dark, ← List.cons_append,
    trimEnd_append_cons_blank dark' blank', List.cons_append]

theorem trim_trim (t : Text) : trim (trim t) = trim t := by
  obtain ⟨before, after, blank, blank', parts⟩ := exists_trim t
  exact (trim_append_of_blank blank blank').symm.trans (congrArg trim parts.symm)

theorem trimStart_eq_self {t : Text} (first : ∀ c ∈ t.head?, isBlank c = false) :
    trimStart t = t := by
  cases t with
  | nil => rfl
  | cons c t => exact trimStart_cons (first c rfl)

theorem trimEnd_eq_self {t : Text} (last : ∀ c ∈ t.getLast?, isBlank c = false) :
    trimEnd t = t := by
  rw [trimEnd_eq_reverse, trimStart_eq_self, List.reverse_reverse]
  simpa using last

/-- A text with no blank at either end is left as it is. -/
theorem trim_eq_self {t : Text} (first : ∀ c ∈ t.head?, isBlank c = false)
    (last : ∀ c ∈ t.getLast?, isBlank c = false) : trim t = t := by
  rw [trim, trimStart_eq_self first, trimEnd_eq_self last]

end Text
end RowSieve
