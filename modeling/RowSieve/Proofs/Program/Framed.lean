import RowSieve.Program.Frame
import RowSieve.Proofs.Outcome
import RowSieve.Proofs.Text.Cut

/-! Reading the bodies of a program finds the frame that they stand in. -/
namespace RowSieve.Program

@[simp] theorem allGap_nil : AllGap [] := by simp [AllGap]

/-- A section is a body in its frame, with the rest of the text behind it. -/
theorem readSection_eq_ok_iff {keyword : Char} {missing : Cause} {t body rest : Text}
    (letter : isGap keyword = false) :
    readSection keyword missing t = .ok (body, rest) ↔
      ∃ s : FramedSection, s.WellFormed ∧ s.body = body ∧ t = s.text keyword ++ rest := by
  constructor
  · intro read
    unfold readSection at read
    split at read
    · simp at read
    · rename_i c behind found
      obtain ⟨_, gap, parts⟩ := Text.dropWhile_eq_cons_iff.mp found
      split at read
      · simp at read
      · rename_i same
        split at read
        · rename_i inside opened
          obtain ⟨_, gap', parts'⟩ := Text.dropWhile_eq_cons_iff.mp opened
          split at read
          · simp at read
          · rename_i d rest' closed
            obtain ⟨stop, open', parts''⟩ := Text.dropWhile_eq_cons_iff.mp closed
            obtain ⟨rfl, rfl⟩ := Prod.mk.inj (Except.ok.inj read)
            obtain rfl : d = '}' := by simpa using stop
            obtain rfl : c = keyword := by simpa using same
            refine ⟨⟨t.takeWhile isGap, behind.takeWhile isGap, _⟩,
              ⟨gap, gap', fun member => by simpa using open' _ member⟩, rfl, ?_⟩
            rw [parts''] at parts'
            rw [parts'] at parts
            exact parts.trans (by simp [FramedSection.text])
        · simp at read
  · rintro ⟨⟨before, inner, body⟩, ⟨gap, gap', noBrace⟩, rfl, rfl⟩
    have pass := Text.passes_of_not_mem noBrace
    have shape : FramedSection.text ⟨before, inner, body⟩ keyword ++ rest =
        before ++ keyword :: (inner ++ '{' :: (body ++ '}' :: rest)) := by
      simp [FramedSection.text]
    rw [readSection, shape, Text.dropWhile_append_stop gap letter]
    simp only [ne_eq, not_true_eq_false, if_false,
      Text.dropWhile_append_stop gap' (d := '{') (by decide)]
    rw [Text.dropWhile_append_stop pass (d := '}') (by simp),
      Text.takeWhile_append_stop pass (d := '}') (by simp)]

theorem allGap_iff {t : Text} : t.dropWhile isGap = [] ↔ AllGap t := List.dropWhile_eq_nil_iff

/-- The bodies are those of a frame whose text is the whole text. -/
theorem readBodies_eq_ok_iff {t : Text} {b : Bodies} :
    readBodies t = .ok b ↔ ∃ f : Frame, f.WellFormed ∧ f.text = t ∧ f.bodies = b := by
  have query {t body rest : Text} :=
    @readSection_eq_ok_iff 'q' .querySectionMissing t body rest (by decide)
  have onTrue {t body rest : Text} :=
    @readSection_eq_ok_iff 't' .trueSectionMissing t body rest (by decide)
  have onFalse {t body rest : Text} :=
    @readSection_eq_ok_iff 'f' .falseSectionMissing t body rest (by decide)
  constructor
  · intro read
    obtain ⟨⟨_, t₁⟩, readQuery, read⟩ := bind_eq_ok_iff.mp read
    obtain ⟨⟨_, t₂⟩, readTrue, read⟩ := bind_eq_ok_iff.mp read
    obtain ⟨⟨_, t₃⟩, readFalse, ending⟩ := bind_eq_ok_iff.mp read
    obtain ⟨q, formed, rfl, rfl⟩ := query.mp readQuery
    obtain ⟨s, formed', rfl, rfl⟩ := onTrue.mp readTrue
    obtain ⟨u, formed'', rfl, rfl⟩ := onFalse.mp readFalse
    dsimp only at ending
    split at ending
    · rename_i gap
      obtain rfl := pure_eq_ok_iff.mp ending
      exact ⟨⟨q, s, u, t₃⟩, ⟨formed, formed', formed'', allGap_iff.mp gap⟩,
        by simp [Frame.text], rfl⟩
    · simp [throw, throwThe, MonadExceptOf.throw] at ending
  · rintro ⟨⟨q, s, u, after⟩, ⟨formed, formed', formed'', gap⟩, rfl, rfl⟩
    have shape : Frame.text ⟨q, s, u, after⟩ =
        q.text 'q' ++ (s.text 't' ++ (u.text 'f' ++ after)) := by
      simp [Frame.text]
    rw [shape]
    refine bind_eq_ok_iff.mpr ⟨_, query.mpr ⟨q, formed, rfl, rfl⟩, ?_⟩
    refine bind_eq_ok_iff.mpr ⟨_, onTrue.mpr ⟨s, formed', rfl, rfl⟩, ?_⟩
    refine bind_eq_ok_iff.mpr ⟨_, onFalse.mpr ⟨u, formed'', rfl, rfl⟩, ?_⟩
    simp only [allGap_iff.mpr gap]
    rfl

theorem inPart_eq_ok_iff {part : Part} {x : Except SyntaxError α} {a : α} :
    inPart part x = .ok a ↔ x = .ok a := by
  cases x <;> simp [inPart]

/-- A program is read from its three trimmed bodies. -/
theorem ofBodies_eq_ok_iff {b : Bodies} {p : Program} :
    ofBodies b = .ok p ↔ Query.parse (Text.trim b.query) = .ok p.query ∧
      Chain.parse (Text.trim b.onTrue) = .ok p.onTrue ∧
      Chain.parse (Text.trim b.onFalse) = .ok p.onFalse := by
  constructor
  · intro read
    obtain ⟨_, query, read⟩ := bind_eq_ok_iff.mp read
    obtain ⟨_, onTrue, read⟩ := bind_eq_ok_iff.mp read
    obtain ⟨_, onFalse, read⟩ := bind_eq_ok_iff.mp read
    obtain rfl := pure_eq_ok_iff.mp read
    exact ⟨inPart_eq_ok_iff.mp query, inPart_eq_ok_iff.mp onTrue, inPart_eq_ok_iff.mp onFalse⟩
  · rintro ⟨query, onTrue, onFalse⟩
    exact bind_eq_ok_iff.mpr ⟨_, inPart_eq_ok_iff.mpr query,
      bind_eq_ok_iff.mpr ⟨_, inPart_eq_ok_iff.mpr onTrue,
        bind_eq_ok_iff.mpr ⟨_, inPart_eq_ok_iff.mpr onFalse, rfl⟩⟩⟩

theorem parse_eq_ok_iff_framed {t : Text} {p : Program} :
    parse t = .ok p ↔ ∃ f : Frame, f.WellFormed ∧ f.text = t ∧ ofBodies f.bodies = .ok p := by
  rw [parse]
  split
  · rename_i failure read
    simp only [reduceCtorEq, false_iff, not_exists, not_and]
    intro f formed text
    rw [readBodies_eq_ok_iff.mpr ⟨f, formed, text, rfl⟩] at read
    simp at read
  · rename_i bodies read
    constructor
    · intro ok
      obtain ⟨f, formed, text, rfl⟩ := readBodies_eq_ok_iff.mp read
      exact ⟨f, formed, text, ok⟩
    · rintro ⟨f, formed, text, ok⟩
      rw [readBodies_eq_ok_iff.mpr ⟨f, formed, text, rfl⟩] at read
      exact Except.ok.inj read ▸ ok

end RowSieve.Program
