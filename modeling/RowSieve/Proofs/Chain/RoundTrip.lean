import RowSieve.Chain.Render
import RowSieve.Proofs.Chain.Written

/-! The canonical text of a chain is one of its written forms, if it has any. -/
namespace RowSieve

def Step.texts : Step → List Text
  | print => []
  | set field value => [field, value]

def Step.spaced (step : Step) (after : Text) : Step.Placed :=
  ⟨step, match step with
    | .print => []
    | .set .. => [' '], after⟩

@[simp] theorem Step.text_spaced (step : Step) (after : Text) :
    (step.spaced after).text = step.render ++ after := by
  cases step <;> simp [Step.spaced, Step.Placed.text, Step.Placed.own, Step.render]

theorem Step.spaced_wellFormed {step : Step} (fits : step.Fits) {after : Text}
    (blank : AllBlank after) : (step.spaced after).WellFormed := by
  refine ⟨fits, ?_, ?_, blank⟩
  · cases step with
    | print => exact allBlank_nil
    | set field value => simp [Step.spaced, AllBlank, isBlank]
  · rintro ⟨⟩
    rfl

/-- Field and value of a step stand in its text. -/
theorem Step.texts_subset (p : Step.Placed) {u : Text} (member : u ∈ p.step.texts) : u ⊆ p.own := by
  obtain ⟨step, inner, after⟩ := p
  cases step with
  | print => simp [Step.texts] at member
  | set field value =>
    simp only [Step.texts, List.mem_cons, List.not_mem_nil, or_false] at member
    intro c inside
    rcases member with rfl | rfl <;> simp [Step.Placed.own, inside]

namespace Chain

/-- The chains that have a text: no longer than allowed, and made of steps that can be
written. -/
structure Writable (c : Chain) : Prop where
  short : c.length ≤ maxSteps
  fits : ∀ step ∈ c, step.Fits

def texts (c : Chain) : List Text := c.flatMap Step.texts

def spaced : Chain → List Step.Placed
  | [] => []
  | [step] => [step.spaced []]
  | step :: steps => step.spaced [' '] :: spaced steps

theorem map_spaced (c : Chain) : (spaced c).map Step.Placed.step = c := by
  fun_induction spaced c <;> simp_all [Step.spaced]

theorem flatMap_spaced (c : Chain) : (spaced c).flatMap Step.Placed.text = c.render := by
  fun_induction spaced c with
  | case1 => rfl
  | case2 step => simp [Chain.render]
  | case3 step steps more ih => simp [ih, Chain.render.eq_3 _ _ more]

theorem spaced_wellFormed {c : Chain} (fits : ∀ step ∈ c, step.Fits) :
    ∀ s ∈ spaced c, s.WellFormed := by
  fun_induction spaced c with
  | case1 => simp
  | case2 step => simpa using Step.spaced_wellFormed (fits step (by simp)) allBlank_nil
  | case3 step steps more ih =>
    intro s member
    rcases List.mem_cons.mp member with rfl | member
    · exact Step.spaced_wellFormed (fits step (by simp)) (by simp [AllBlank, isBlank])
    · exact ih (fun step inside => fits step (List.mem_cons_of_mem _ inside)) s member

theorem parse_render_of_writable {c : Chain} (writable : c.Writable) : parse c.render = .ok c := by
  refine parse_eq_ok_iff_written.mpr ⟨⟨[], spaced c⟩, ⟨allBlank_nil, ?_, ?_⟩, ?_, map_spaced c⟩
  · exact spaced_wellFormed writable.fits
  · have length := congrArg List.length (map_spaced c)
    rw [List.length_map] at length
    exact length ▸ writable.short
  · exact flatMap_spaced c

theorem writable_of_parse {t : Text} {c : Chain} (ok : parse t = .ok c) : c.Writable := by
  obtain ⟨p, formed, _, rfl⟩ := parse_eq_ok_iff_written.mp ok
  refine ⟨by simpa [Placed.chain] using formed.short, fun step member => ?_⟩
  obtain ⟨s, inside, rfl⟩ := List.mem_map.mp member
  exact (formed.steps_formed s inside).fits

theorem parse_render_iff_writable {c : Chain} : parse c.render = .ok c ↔ c.Writable :=
  ⟨writable_of_parse, parse_render_of_writable⟩

/-- Reading adds nothing to the text. -/
theorem texts_subset_of_parse {t : Text} {c : Chain} (ok : parse t = .ok c) {u : Text}
    (member : u ∈ c.texts) : u ⊆ t := by
  obtain ⟨p, _, rfl, rfl⟩ := parse_eq_ok_iff_written.mp ok
  obtain ⟨step, inside, own⟩ := List.mem_flatMap.mp member
  obtain ⟨s, placed, rfl⟩ := List.mem_map.mp inside
  intro c found
  refine List.mem_append_right _ (List.mem_flatMap.mpr ⟨s, placed, List.mem_append_left _ ?_⟩)
  exact Step.texts_subset s own found

theorem getLast?_render_step (step : Step) : step.render.getLast? = some ';' := by
  cases step with
  | print => rfl
  | set field value => exact List.getLast?_concat

theorem getLast?_render {c : Chain} (present : c ≠ []) : c.render.getLast? = some ';' := by
  induction c with
  | nil => exact absurd rfl present
  | cons step steps ih =>
    cases steps with
    | nil => exact getLast?_render_step step
    | cons next more =>
      have last := ih (List.cons_ne_nil _ _)
      rw [render.eq_3 _ _ (List.cons_ne_nil _ _), List.getLast?_append, List.getLast?_cons, last]
      rfl

/-- The canonical text begins with a letter and ends with a `;`. -/
theorem trim_render (c : Chain) : Text.trim c.render = c.render := by
  apply Text.trim_eq_self
  · fun_cases Chain.render c with
    | case1 => simp
    | case2 step => cases step <;> simp [Step.render, isBlank]
    | case3 step steps => cases step <;> simp [Step.render, isBlank]
  · by_cases empty : c = []
    · simp [empty, render]
    · simp [getLast?_render empty, isBlank]

end Chain
end RowSieve
