import RowSieve.Proofs.Chain.Written

/-! The written forms of a chain are unambiguous: a text has the form of one chain only, in one way
only. Steps beyond the longest chain are refused where they begin. -/
namespace RowSieve

/-- The letters of a step leave no choice for the blanks inside it. -/
theorem Step.Placed.inner_eq {s s' : Step.Placed} (formed : s.WellFormed) (formed' : s'.WellFormed)
    (step : s.step = s'.step) (own : s.own = s'.own) : s.inner = s'.inner := by
  obtain ⟨step, inner, after⟩ := s
  obtain ⟨_, inner', after'⟩ := s'
  obtain rfl := step
  cases step with
  | print => exact (formed.inner_print rfl).trans (formed'.inner_print rfl).symm
  | set field value => simpa [Step.Placed.own] using own

namespace Chain

variable {before before' : Text} {s s' : Step.Placed} {more more' : List Step.Placed}

theorem not_allBlank_text_cons : ¬AllBlank (Placed.text ⟨before, s :: more⟩) := by
  intro blank
  obtain ⟨c, letters, own, dark⟩ := s.own_begins
  have member : c ∈ Placed.text ⟨before, s :: more⟩ := by simp [text_cons, own]
  simp [blank c member] at dark

/-- Two steps that stand first in one text, behind some blanks, are the same step, and the same
text is left behind them. -/
theorem text_cons_inj (blank : AllBlank before) (blank' : AllBlank before')
    (formed : s.WellFormed) (formed' : s'.WellFormed)
    (same : Placed.text ⟨before, s :: more⟩ = Placed.text ⟨before', s' :: more'⟩) :
    before = before' ∧ s.step = s'.step ∧ s.inner = s'.inner ∧
      Placed.text ⟨s.after, more⟩ = Placed.text ⟨s'.after, more'⟩ := by
  have start := trimStart_text_cons blank s more []
  rw [same, trimStart_text_cons blank' s' more' []] at start
  simp only [List.append_nil] at start
  have read := Step.read_own formed (Placed.text ⟨s.after, more⟩)
  rw [← start, Step.read_own formed'] at read
  obtain ⟨step, behind⟩ := Prod.mk.inj (Except.ok.inj read)
  rw [behind] at start
  have own := List.append_cancel_right start
  rw [text_cons, text_cons, own, behind] at same
  exact ⟨List.append_cancel_right same, step.symm,
    Step.Placed.inner_eq formed formed' step.symm own.symm, behind.symm⟩

theorem steps_eq {steps steps' : List Step.Placed} (blank : AllBlank before)
    (blank' : AllBlank before') (formed : ∀ s ∈ steps, s.WellFormed)
    (formed' : ∀ s ∈ steps', s.WellFormed)
    (same : Placed.text ⟨before, steps⟩ = Placed.text ⟨before', steps'⟩) :
    before = before' ∧ steps = steps' := by
  induction steps generalizing before before' steps' with
  | nil =>
    cases steps' with
    | nil => simpa [Placed.text] using same
    | cons s' more' =>
      have text : Placed.text ⟨before, []⟩ = before := by simp [Placed.text]
      exact absurd (same ▸ text.symm ▸ blank) not_allBlank_text_cons
  | cons s more ih =>
    cases steps' with
    | nil =>
      have text : Placed.text ⟨before', []⟩ = before' := by simp [Placed.text]
      exact absurd (same ▸ text.symm ▸ blank') not_allBlank_text_cons
    | cons s' more' =>
      have head := formed s List.mem_cons_self
      have head' := formed' s' List.mem_cons_self
      obtain ⟨rfl, step, inner, behind⟩ := text_cons_inj blank blank' head head' same
      obtain ⟨after, rfl⟩ := ih head.after_blank head'.after_blank
        (fun p member => formed p (List.mem_cons_of_mem _ member))
        (fun p member => formed' p (List.mem_cons_of_mem _ member)) behind
      obtain ⟨_, _, _⟩ := s
      obtain ⟨_, _, _⟩ := s'
      obtain ⟨rfl, rfl, rfl⟩ := And.intro step (And.intro inner after)
      exact ⟨rfl, rfl⟩

theorem Placed.eq_of_text_eq {p q : Placed} (formed : p.WellFormed) (formed' : q.WellFormed)
    (same : p.text = q.text) : p = q := by
  obtain ⟨before, steps⟩ := p
  obtain ⟨before', steps'⟩ := q
  obtain ⟨rfl, rfl⟩ := steps_eq formed.before_blank formed'.before_blank formed.steps_formed
    formed'.steps_formed same
  rfl

/-- Behind the longest chain nothing but blanks may come. -/
theorem parse_too_long {p : Placed} (blank : AllBlank p.before)
    (formed : ∀ s ∈ p.steps, s.WellFormed) (full : p.steps.length = maxSteps) {d : Char}
    (dark : isBlank d = false) (rest : Text) :
    parse (p.text ++ d :: rest) =
      .error (Failure.locate ⟨.chainTooLong, d :: rest⟩ (p.text ++ d :: rest)) := by
  have read := read_append_placed blank formed 0 (d :: rest)
  rw [full, Nat.add_zero, read_full (Text.trimStart_cons dark)] at read
  rw [parse, read]
  rfl

/-- Reading a text as a chain finds the chain of which the text is a written form. The form is the
only one the text has. A text without one is refused, and behind the longest chain that is so for
whatever begins there. -/
theorem parse_grammar (t : Text) :
    (∀ c, parse t = .ok c ↔ Written c t) ∧
      (∀ p q : Placed, p.WellFormed → q.WellFormed → p.text = t → q.text = t → p = q) ∧
      ((∃ e, parse t = .error e) ↔ ∀ c, ¬Written c t) ∧
      ∀ p : Placed, AllBlank p.before → (∀ s ∈ p.steps, s.WellFormed) →
        p.steps.length = maxSteps → ∀ d rest, isBlank d = false → t = p.text ++ d :: rest →
          parse t = .error (Failure.locate ⟨.chainTooLong, d :: rest⟩ t) := by
  refine ⟨fun c => parse_eq_ok_iff_written, ?_, ?_, ?_⟩
  · rintro p q formed formed' text text'
    exact Placed.eq_of_text_eq formed formed' (text.trans text'.symm)
  · rw [exists_error_iff]
    exact forall_congr' fun c => not_congr parse_eq_ok_iff_written
  · rintro p blank formed full d rest dark rfl
    exact parse_too_long blank formed full dark rest

/-- Blanks inside a field and behind a value are part of them, those behind the `s` are not; and one
print more than the longest chain has is refused. -/
theorem parse_grammar_blanks :
    let form : Placed := ⟨[' '], [⟨.set ['a', ' '] ['x', ' '], ['\t'], ['\n']⟩, ⟨.print, [], []⟩]⟩
    let full : Placed := ⟨[], List.replicate maxSteps ⟨.print, [], [' ']⟩⟩
    form.text = " s\ta =x ;\np;".toList ∧
      parse form.text = .ok [.set ['a', ' '] ['x', ' '], .print] ∧
      (∀ other : Placed, other.WellFormed → other.text = form.text → other = form) ∧
      parse (full.text ++ ['p', ';']) =
        .error (Failure.locate ⟨.chainTooLong, ['p', ';']⟩ (full.text ++ ['p', ';'])) := by
  intro form full
  have blanks : AllBlank [' '] ∧ AllBlank ['\t'] ∧ AllBlank ['\n'] := by
    simp [AllBlank, isBlank]
  have fits : Step.FieldFits ['a', ' '] := ⟨⟨'a', [' '], rfl, by decide⟩, by decide, by decide⟩
  have formed : form.WellFormed := by
    refine ⟨blanks.1, ?_, by decide⟩
    simp only [form, List.forall_mem_cons, List.not_mem_nil, false_imp_iff, implies_true, and_true]
    exact ⟨⟨⟨fits, by decide⟩, blanks.2.1, by simp, blanks.2.2⟩,
      ⟨trivial, allBlank_nil, fun _ => rfl, allBlank_nil⟩⟩
  have prints : ∀ s ∈ full.steps, s.WellFormed := by
    intro s member
    obtain rfl := List.eq_of_mem_replicate member
    exact ⟨trivial, allBlank_nil, fun _ => rfl, blanks.1⟩
  obtain ⟨read, only, _, _⟩ := parse_grammar form.text
  obtain ⟨_, _, _, long⟩ := parse_grammar (full.text ++ ['p', ';'])
  refine ⟨by decide, (read _).mpr ⟨form, formed, rfl, rfl⟩, ?_, ?_⟩
  · intro other formed' same
    exact only other form formed' formed same rfl
  · exact long full allBlank_nil prints List.length_replicate 'p' [';'] (by decide) rfl

end Chain
end RowSieve
