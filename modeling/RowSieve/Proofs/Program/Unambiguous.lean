import RowSieve.Proofs.Program.Framed

/-! The frame of a program is unambiguous: the three bodies stand in a text in one way only, since
no gap has a keyword or an opening brace in it and no body a closing one. -/
namespace RowSieve.Program

theorem FramedSection.eq_of_text_append_eq {s s' : FramedSection} {keyword : Char}
    {rest rest' : Text} (letter : isGap keyword = false) (formed : s.WellFormed)
    (formed' : s'.WellFormed) (same : s.text keyword ++ rest = s'.text keyword ++ rest') :
    s = s' ∧ rest = rest' := by
  obtain ⟨before, inner, body⟩ := s
  obtain ⟨before', inner', body'⟩ := s'
  obtain ⟨gap, innerGap, noBrace⟩ := formed
  obtain ⟨gap', innerGap', noBrace'⟩ := formed'
  simp only [text, List.append_assoc, List.cons_append, List.nil_append] at same
  obtain ⟨rfl, _, same⟩ := Text.append_stop_inj gap gap' letter letter same
  obtain ⟨rfl, _, same⟩ := Text.append_stop_inj innerGap innerGap' (by decide) (by decide) same
  obtain ⟨rfl, _, same⟩ := Text.append_stop_inj (Text.passes_of_not_mem noBrace)
    (Text.passes_of_not_mem noBrace') (by simp) (by simp) same
  exact ⟨rfl, same⟩

theorem Frame.eq_of_text_eq {f g : Frame} (formed : f.WellFormed) (formed' : g.WellFormed)
    (same : f.text = g.text) : f = g := by
  have letters : isGap 'q' = false ∧ isGap 't' = false ∧ isGap 'f' = false := by decide
  obtain ⟨query, onTrue, onFalse, after⟩ := f
  obtain ⟨query', onTrue', onFalse', after'⟩ := g
  simp only [text, List.append_assoc] at same
  obtain ⟨rfl, behind⟩ := FramedSection.eq_of_text_append_eq letters.1 formed.query_formed
    formed'.query_formed same
  obtain ⟨rfl, behind'⟩ := FramedSection.eq_of_text_append_eq letters.2.1 formed.onTrue_formed
    formed'.onTrue_formed behind
  obtain ⟨rfl, rfl⟩ := FramedSection.eq_of_text_append_eq letters.2.2 formed.onFalse_formed
    formed'.onFalse_formed behind'
  rfl

/-- Reading a text as a program finds the three bodies in their frame and reads each of them on its
own, without the blanks around it. A text has at most one frame. -/
theorem parse_in_frame (t : Text) :
    (∀ p, parse t = .ok p ↔ ∃ f : Frame, f.WellFormed ∧ f.text = t ∧
        Query.parse (Text.trim f.query.body) = .ok p.query ∧
        Chain.parse (Text.trim f.onTrue.body) = .ok p.onTrue ∧
        Chain.parse (Text.trim f.onFalse.body) = .ok p.onFalse) ∧
      ∀ f g : Frame, f.WellFormed → g.WellFormed → f.text = t → g.text = t → f = g := by
  constructor
  · intro p
    rw [parse_eq_ok_iff_framed]
    exact exists_congr fun f => and_congr_right fun _ => and_congr_right fun _ => ofBodies_eq_ok_iff
  · rintro f g formed formed' text text'
    exact Frame.eq_of_text_eq formed formed' (text.trans text'.symm)

/-- A body with an opening brace and the keyword of the next section in it, and gaps between all
tokens. -/
theorem parse_in_frame_with_braces :
    let frame : Frame := ⟨⟨[], [' '], "a=t\x7b ".toList⟩, ⟨['\n'], ['\t'], "p;".toList⟩,
      ⟨['\r', '\n'], [], []⟩, [' ']⟩
    frame.text = "q \x7ba=t\x7b \x7d\nt\t\x7bp;\x7d\r\nf\x7b\x7d ".toList ∧
      parse frame.text = .ok ⟨.atom ⟨['a'], .equal, ['t', '{'], .text⟩, [.print], []⟩ ∧
      ∀ other : Frame, other.WellFormed → other.text = frame.text → other = frame := by
  intro frame
  have gaps : AllGap [' '] ∧ AllGap ['\n'] ∧ AllGap ['\t'] ∧ AllGap ['\r', '\n'] := by
    simp [AllGap, isGap]
  have formed : frame.WellFormed :=
    ⟨⟨allGap_nil, gaps.1, by decide⟩, ⟨gaps.2.1, gaps.2.2.1, by decide⟩,
      ⟨gaps.2.2.2, allGap_nil, by decide⟩, gaps.1⟩
  obtain ⟨read, only⟩ := parse_in_frame frame.text
  refine ⟨by decide, (read _).mpr ⟨frame, formed, rfl, by rfl, by rfl, by rfl⟩, ?_⟩
  exact fun other formed' same => only other frame formed' formed same rfl

end RowSieve.Program
