import RowSieve.Program.Render
import RowSieve.Proofs.Chain.RoundTrip
import RowSieve.Proofs.Program.Framed
import RowSieve.Proofs.Query.RoundTrip

/-! Which programs have a text. Nothing can stand for the brace that ends a section, so a
brace in a field or a value would end its section there; apart from that a program reads
back when its three parts do. -/
namespace RowSieve

/-- The characters that the text of a query has besides those of its fields and values. -/
def Query.signs : Text := ['(', ')', '&', '|', '!', '=', '<', '>', '.', 's', 'i', 'd']

theorem Query.notMem_render {q : Query} {d : Char} (other : d ∉ signs)
    (free : ∀ u ∈ q.texts, d ∉ u) : d ∉ q.render := by
  simp only [signs, List.mem_cons, List.not_mem_nil, or_false, not_or] at other
  induction q with
  | atom a =>
    have field : d ∉ a.field := free _ (by simp [texts, atoms])
    have value : d ∉ a.value := free _ (by simp [texts, atoms])
    have symbol : d ≠ a.relation.symbol := by cases a.relation <;> simp [Relation.symbol, other]
    have tag : d ≠ a.cast.tag := by cases a.cast <;> simp [Cast.tag, other]
    rw [render, Atom.render]
    split <;> simp [field, value, symbol, tag, other]
  | and l r left right =>
    simp only [texts_and, List.mem_append] at free
    simp [render, group, other, left fun u inside => free u (.inl inside),
      right fun u inside => free u (.inr inside)]
  | or l r left right =>
    simp only [texts_or, List.mem_append] at free
    simp [render, group, other, left fun u inside => free u (.inl inside),
      right fun u inside => free u (.inr inside)]
  | not q child => simpa [render, group, other] using child free

def Chain.signs : Text := ['p', 's', '=', ';', ' ']

theorem Chain.notMem_render {c : Chain} {d : Char} (other : d ∉ signs)
    (free : ∀ u ∈ c.texts, d ∉ u) : d ∉ c.render := by
  simp only [signs, List.mem_cons, List.not_mem_nil, or_false, not_or] at other
  have step {s : Step} (own : ∀ u ∈ s.texts, d ∉ u) : d ∉ s.render := by
    cases s with
    | print => simp [Step.render, other]
    | set field value => simpa [Step.texts, Step.render, other] using own
  fun_induction Chain.render c with
  | case1 => simp
  | case2 s => exact step (by simpa [texts] using free)
  | case3 s steps _ ih =>
    simp only [texts, List.flatMap_cons, List.mem_append] at free
    simp [other, step fun u inside => free u (.inl inside), ih fun u inside => free u (.inr inside)]

namespace Program

def texts (p : Program) : List Text := p.query.texts ++ (p.onTrue.texts ++ p.onFalse.texts)

/-- No field or value holds the brace that ends a section. -/
def BraceFree (p : Program) : Prop := ∀ u ∈ p.texts, '}' ∉ u

def frame (p : Program) : Frame where
  query := ⟨[], [], p.query.render⟩
  onTrue := ⟨[' '], [], Chain.render p.onTrue⟩
  onFalse := ⟨[' '], [], Chain.render p.onFalse⟩
  after := []

theorem text_frame (p : Program) : p.frame.text = p.render := by
  simp [frame, Frame.text, FramedSection.text, render, renderSection]

theorem frame_wellFormed {p : Program} (free : p.BraceFree) : p.frame.WellFormed := by
  have gap : AllGap [' '] := by simp [AllGap, isGap]
  simp only [BraceFree, texts, List.mem_append] at free
  refine ⟨⟨allGap_nil, allGap_nil, ?_⟩, ⟨gap, allGap_nil, ?_⟩, ⟨gap, allGap_nil, ?_⟩, allGap_nil⟩
  · exact Query.notMem_render (by decide) fun u inside => free u (.inl inside)
  · exact Chain.notMem_render (by decide) fun u inside => free u (.inr (.inl inside))
  · exact Chain.notMem_render (by decide) fun u inside => free u (.inr (.inr inside))

/-- The fields and values of a program that was read come from its bodies. -/
theorem texts_subset_of_parse {t : Text} {p : Program} (read : parse t = .ok p) :
    ∃ f : Frame, f.WellFormed ∧ f.text = t ∧
      ∀ u ∈ p.texts, u ⊆ f.query.body ∨ u ⊆ f.onTrue.body ∨ u ⊆ f.onFalse.body := by
  obtain ⟨f, formed, text, bodies⟩ := parse_eq_ok_iff_framed.mp read
  obtain ⟨query, onTrue, onFalse⟩ := ofBodies_eq_ok_iff.mp bodies
  refine ⟨f, formed, text, fun u member => ?_⟩
  simp only [texts, List.mem_append] at member
  rcases member with member | member | member
  · exact .inl (List.Subset.trans (Query.texts_subset_of_parse query member) (Text.trim_subset _))
  · have inside := Chain.texts_subset_of_parse onTrue member
    exact .inr (.inl (List.Subset.trans inside (Text.trim_subset _)))
  · have inside := Chain.texts_subset_of_parse onFalse member
    exact .inr (.inr (List.Subset.trans inside (Text.trim_subset _)))

/-- A program that was read holds no brace, as a body ends at the first one. -/
theorem braceFree_of_parse {t : Text} {p : Program} (read : parse t = .ok p) : p.BraceFree := by
  obtain ⟨f, formed, _, inBodies⟩ := texts_subset_of_parse read
  intro u member inside
  rcases inBodies u member with here | here | here
  · exact formed.query_formed.body_open (here inside)
  · exact formed.onTrue_formed.body_open (here inside)
  · exact formed.onFalse_formed.body_open (here inside)

theorem ofBodies_frame_iff {p : Program} :
    ofBodies p.frame.bodies = .ok p ↔
      Query.parse p.query.render = .ok p.query ∧ p.onTrue.Writable ∧ p.onFalse.Writable := by
  simp only [ofBodies_eq_ok_iff, frame, Frame.bodies, Query.parse_trim, Chain.trim_render,
    Chain.parse_render_iff_writable]

theorem parse_render_iff_parts {p : Program} :
    parse p.render = .ok p ↔ Query.parse p.query.render = .ok p.query ∧ p.onTrue.Writable ∧
      p.onFalse.Writable ∧ p.BraceFree := by
  constructor
  · intro read
    have free := braceFree_of_parse read
    have bodies : readBodies p.render = .ok p.frame.bodies :=
      readBodies_eq_ok_iff.mpr ⟨p.frame, frame_wellFormed free, text_frame p, rfl⟩
    rw [parse, bodies] at read
    obtain ⟨query, onTrue, onFalse⟩ := ofBodies_frame_iff.mp read
    exact ⟨query, onTrue, onFalse, free⟩
  · rintro ⟨query, onTrue, onFalse, free⟩
    exact parse_eq_ok_iff_framed.mpr ⟨p.frame, frame_wellFormed free, text_frame p,
      ofBodies_frame_iff.mpr ⟨query, onTrue, onFalse⟩⟩

/-- A program that was read reads back from its canonical text. -/
theorem parse_render_of_parse {t : Text} {p : Program} (read : parse t = .ok p) :
    parse p.render = .ok p := by
  obtain ⟨f, _, _, bodies⟩ := parse_eq_ok_iff_framed.mp read
  obtain ⟨query, onTrue, onFalse⟩ := ofBodies_eq_ok_iff.mp bodies
  exact parse_render_iff_parts.mpr ⟨Query.parse_eq_ok_of_readable (Query.readable_of_parse query),
    Chain.writable_of_parse onTrue, Chain.writable_of_parse onFalse, braceFree_of_parse read⟩

/-- The canonical text of a program reads back exactly when its query does on its own, both
chains can be written, and no brace occurs. This is so for every program that was read. -/
theorem parse_render_faithful :
    (∀ (t : Text) (p : Program), parse t = .ok p → parse p.render = .ok p) ∧
      ∀ p : Program, parse p.render = .ok p ↔
        Query.parse p.query.render = .ok p.query ∧ p.onTrue.Writable ∧ p.onFalse.Writable ∧
          p.BraceFree :=
  ⟨fun _ _ => parse_render_of_parse, fun _ => parse_render_iff_parts⟩

/-- Gaps, blanks inside a setting and at the end of its value. -/
theorem parse_render_spaced :
    parse ['q', ' ', '{', ' ', 'a', '=', '}', '\n', 't', '{', 's', ' ', ' ', 'b', '=', 'c', ' ',
        ';', 'p', ';', '}', 'f', '{', ' ', '}', ' '] =
        .ok ⟨.atom ⟨['a'], .equal, [], .text⟩, [.set ['b'] ['c', ' '], .print], []⟩ ∧
      parse (render ⟨.atom ⟨['a'], .equal, [], .text⟩, [.set ['b'] ['c', ' '], .print], []⟩) =
        .ok ⟨.atom ⟨['a'], .equal, [], .text⟩, [.set ['b'] ['c', ' '], .print], []⟩ :=
  have read : parse ['q', ' ', '{', ' ', 'a', '=', '}', '\n', 't', '{', 's', ' ', ' ', 'b', '=',
      'c', ' ', ';', 'p', ';', '}', 'f', '{', ' ', '}', ' '] =
      .ok ⟨.atom ⟨['a'], .equal, [], .text⟩, [.set ['b'] ['c', ' '], .print], []⟩ := by rfl
  ⟨read, parse_render_faithful.1 _ _ read⟩

end Program
end RowSieve
