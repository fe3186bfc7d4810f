import RowSieve.Text

/-! Cutting a text and joining its pieces. Joined pieces are found again when none of them holds
the character between them, and they end as their last piece does. -/
namespace RowSieve.Text

theorem split_eq_splitOn (d : Char) (t : Text) : split d t = t.splitOn d := by
  induction t with
  | nil => rfl
  | cons c t ih =>
    rw [List.splitOn_cons_eq_if_modifyHead, ← ih, split]
    obtain ⟨piece, more, pieces⟩ := List.exists_cons_of_ne_nil (split_ne_nil d t)
    by_cases cut : c = d
    · simp [cut]
    · simp [cut, pieces]

theorem intercalate_split (d : Char) (t : Text) : [d].intercalate (split d t) = t := by
  rw [split_eq_splitOn, List.intercalate_splitOn]

theorem split_intercalate {d : Char} {pieces : List Text} (plain : ∀ piece ∈ pieces, d ∉ piece)
    (some : pieces ≠ []) : split d ([d].intercalate pieces) = pieces := by
  rw [split_eq_splitOn, List.splitOn_intercalate d plain some]

/-- Every piece but the last is followed by the character. -/
theorem intercalate_concat (d : Char) (before : List Text) (last : Text) :
    [d].intercalate (before ++ [last]) = before.flatMap (· ++ [d]) ++ last := by
  induction before with
  | nil => simp
  | cons piece before ih =>
    rw [List.cons_append, List.intercalate_cons_of_ne_nil (by simp), ih]
    simp

theorem mem_intercalate {d c : Char} {pieces : List Text} (member : c ∈ [d].intercalate pieces) :
    c = d ∨ ∃ piece ∈ pieces, c ∈ piece := by
  rcases List.eq_nil_or_concat pieces with rfl | ⟨before, last, rfl⟩
  · simp at member
  rw [List.concat_eq_append, intercalate_concat] at member
  rcases List.mem_append.mp member with early | final
  · obtain ⟨piece, inside, here⟩ := List.mem_flatMap.mp early
    rcases List.mem_append.mp here with own | between
    · exact .inr ⟨piece, by simp [inside], own⟩
    · exact .inl (List.mem_singleton.mp between)
  · exact .inr ⟨last, by simp, final⟩

theorem subset_intercalate (d : Char) {pieces : List Text} {piece : Text}
    (member : piece ∈ pieces) : piece ⊆ [d].intercalate pieces := by
  rcases List.eq_nil_or_concat pieces with rfl | ⟨before, last, rfl⟩
  · simp at member
  rw [List.concat_eq_append] at member ⊢
  rw [intercalate_concat]
  intro c inside
  rcases List.mem_append.mp member with early | final
  · exact List.mem_append_left _ (List.mem_flatMap.mpr ⟨piece, early, List.mem_append_left _ inside⟩)
  · exact List.mem_append_right _ (List.mem_singleton.mp final ▸ inside)

theorem suffix_intercalate (d : Char) {pieces : List Text} {last : Text}
    (ends : pieces.getLast? = some last) : last <:+ [d].intercalate pieces := by
  obtain ⟨before, rfl⟩ := List.getLast?_eq_some_iff.mp ends
  rw [intercalate_concat]
  exact List.suffix_append ..

/-- Nothing but the last piece, or the character before it, ends the joined text. -/
theorem getLast?_intercalate {d c : Char} {pieces : List Text} {last : Text}
    (ends : pieces.getLast? = some last) (final : c ∈ ([d].intercalate pieces).getLast?) :
    c = d ∨ c ∈ last.getLast? := by
  obtain ⟨before, rfl⟩ := List.getLast?_eq_some_iff.mp ends
  rw [intercalate_concat, List.getLast?_append] at final
  cases own : last.getLast? with
  | some other => exact .inr (by simpa [own] using final)
  | none =>
    rcases List.eq_nil_or_concat before with rfl | ⟨first, piece, rfl⟩
    · simp [own] at final
    · exact .inl (by simpa [own, eq_comm] using final)

theorem intercalate_eq_nil_iff {d : Char} {pieces : List Text} :
    [d].intercalate pieces = [] ↔ pieces = [] ∨ pieces = [[]] := by
  rcases pieces with _ | ⟨first, _ | ⟨second, more⟩⟩
  · simp
  · simp
  · simp [List.intercalate_cons_cons]

end RowSieve.Text
