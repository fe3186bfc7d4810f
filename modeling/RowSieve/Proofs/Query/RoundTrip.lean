import RowSieve.Proofs.Query.Slicing

/-! The queries that have a text are the ones whose canonical text reads back, and reading
gives no others. Both are proved on slices: `readableUnder` counts the connectives above an
atom upwards from the root, a derivation counts its room downwards. -/
namespace RowSieve

namespace Atom

/-- What a field must not begin with. -/
def beginsGroup (c : Char) : Bool := isBlank c || c == '(' || c == '!'

theorem fieldReadable_iff {field : Text} :
    fieldReadable field = true ↔
      (∀ c ∈ field, inField c = true) ∧ ∀ c ∈ field.head?, beginsGroup c = false := by
  cases field with
  | nil => simp [fieldReadable]
  | cons c field => simp [fieldReadable, inField, beginsGroup, and_assoc]

theorem readableUnder_iff {above : Nat} {a : Atom} :
    a.readableUnder above = true ↔
      a.Parted ∧ (∀ c ∈ a.field.head?, beginsGroup c = false) ∧ above ≤ maxNesting ∧
        Query.Closed (above != 0) (a.field ++ a.value) := by
  have parted : a.Parted ↔ (∀ c ∈ a.field, inField c = true) ∧ '.' ∉ a.value :=
    ⟨fun parted => ⟨parted.field, parted.value⟩, fun ⟨field, value⟩ => ⟨field, value⟩⟩
  simp only [readableUnder, Bool.and_eq_true, fieldReadable_iff, parted, Query.Closed]
  cases above <;> simp <;> grind

theorem isBracket_symbol (r : Relation) : isBracket r.symbol = false := by cases r <;> decide

theorem brackets_body (a : Atom) : brackets a.body = brackets (a.field ++ a.value) := by
  simp [body, brackets, isBracket_symbol]

theorem brackets_cast (k : Cast) : brackets ['.', k.tag] = [] := by cases k <;> rfl

/-- Where an atom stands alone its first character tells it from a group. -/
theorem head_of_body {a : Atom} {c : Char} {tail rest : Text} (start : a.body ++ tail = c :: rest) :
    (∀ d ∈ a.field.head?, beginsGroup d = false) ↔ beginsGroup c = false := by
  unfold body at start
  cases field : a.field with
  | nil =>
    rw [field] at start
    obtain ⟨rfl, _⟩ := List.cons.inj start
    cases a.relation <;> simp [Relation.symbol, beginsGroup, isBlank]
  | cons d field' =>
    rw [field] at start
    obtain ⟨rfl, _⟩ := List.cons.inj start
    simp

/-- An atom that was sliced from the text of a query can be read again. -/
theorem readable_of_slice? {above : Nat} {a : Atom} {c : Char} {rest : Text}
    (found : slice? (c :: rest) = some a) (begins : beginsGroup c = false)
    (level : above ≤ maxNesting) (closed : Query.Closed (above != 0) (c :: rest)) :
    a.readableUnder above = true := by
  obtain ⟨parted, forms⟩ := slice?_eq_some_iff.mp found
  obtain ⟨tail, whole, plain⟩ : ∃ tail, c :: rest = a.body ++ tail ∧ brackets tail = [] := by
    rcases forms with ⟨bare, _⟩ | cast
    · exact ⟨[], by simpa using bare, rfl⟩
    · exact ⟨_, cast, brackets_cast _⟩
  have same : brackets (c :: rest) = brackets (a.field ++ a.value) := by
    rw [whole, brackets_append, plain, List.append_nil, brackets_body]
  exact readableUnder_iff.mpr ⟨parted, (head_of_body whole.symm).mpr begins, level,
    (Query.closed_congr same).mp closed⟩

theorem render_of_needsTag {a : Atom} (tagged : a.needsTag = true) :
    a.render = a.body ++ ['.', a.cast.tag] := by
  rw [render, if_pos tagged, body]

theorem render_of_not_needsTag {a : Atom} (bare : a.needsTag = false) : a.render = a.body := by
  rw [render, bare, body]
  exact List.append_nil _

/-- The parentheses of an atom are those of its field and value. -/
theorem brackets_render (a : Atom) : brackets a.render = brackets (a.field ++ a.value) := by
  cases tag : a.needsTag with
  | true =>
    rw [render_of_needsTag tag, brackets_append, brackets_cast, List.append_nil, brackets_body]
  | false => rw [render_of_not_needsTag tag, brackets_body]

theorem exists_render (a : Atom) : ∃ tail, a.render = a.body ++ tail := by
  cases tag : a.needsTag with
  | true => exact ⟨_, render_of_needsTag tag⟩
  | false => exact ⟨[], by rw [render_of_not_needsTag tag, List.append_nil]⟩

/-- The tag keeps a blank at the end of the value from being the end of the text. -/
theorem last_of_render (a : Atom) : ∀ c ∈ a.render.getLast?, isBlank c = false := by
  cases tag : a.needsTag with
  | true =>
    rw [render_of_needsTag tag]
    simp [isBlank_tag]
  | false =>
    rw [render_of_not_needsTag tag, body]
    simp only [needsTag, Bool.or_eq_false_iff] at tag
    rcases List.eq_nil_or_concat a.value with empty | ⟨before, c, parts⟩
    · simp [empty, isBlank_symbol]
    · have last : (a.relation.symbol :: (before ++ [c])).getLast? = some c :=
        List.getLast?_concat (l := a.relation.symbol :: before)
      simpa [parts, last] using tag.2

/-- The canonical text of an atom is sliced as that atom. -/
theorem slice?_render {a : Atom} (parted : a.Parted) : slice? a.render = some a := by
  rw [slice?_eq_some_iff]
  cases tag : a.needsTag with
  | true => exact ⟨parted, .inr (render_of_needsTag tag)⟩
  | false =>
    refine ⟨parted, .inl ⟨render_of_not_needsTag tag, ?_⟩⟩
    simp only [needsTag, Bool.or_eq_false_iff] at tag
    simpa using tag.1

end Atom

namespace Query

theorem level_of_readable {above : Nat} {q : Query} (readable : q.readableUnder above = true) :
    above ≤ maxNesting := by
  induction q generalizing above with
  | atom a => exact (Atom.readableUnder_iff.mp readable).2.2.1
  | and l r left _ | or l r left _ =>
    simp only [readableUnder, Bool.and_eq_true] at readable
    exact Nat.le_of_succ_le (left readable.1)
  | not q child => exact Nat.le_of_succ_le (child readable)

/-- Slicing gives readable queries only. -/
theorem Sliced.readableUnder {room : Nat} {t : Text} {q : Query} (sliced : Sliced room t q)
    {above : Nat} (level : room + above = maxNesting + 1) (closed : Closed (above != 0) t) :
    q.readableUnder above = true := by
  induction sliced generalizing above with
  | binary _ leftClosed rightClosed connective _ _ left right =>
    have readLeft : Query.readableUnder (above + 1) _ = true :=
      left (by omega) fun _ => leftClosed
    have readRight : Query.readableUnder (above + 1) _ = true :=
      right (by omega) fun _ => rightClosed
    rcases connective?_eq_some_iff.mp connective with ⟨_, rfl⟩ | ⟨_, rfl⟩
    · simp [Query.readableUnder, readLeft, readRight]
    · simp [Query.readableUnder, readLeft, readRight]
  | negation _ inside _ child =>
    exact child (by omega) fun _ => inside
  | @atom room t rest c a shape noGroup noNegation found =>
    obtain ⟨before, after, blank, blank', parts⟩ := Text.exists_trim t
    rw [parts, closed_append_of_blank blank blank', shape] at closed
    refine Atom.readable_of_slice? found ?_ (by omega) closed
    simp [Atom.beginsGroup, Text.dark_of_trim shape, noGroup, noNegation]

theorem Sliced.groups {room : Nat} {l r : Text} {c : Char} {connect : Query → Query → Query}
    {left right : Query} (connective : connective? c = some connect)
    (leftClosed : balanced 0 l = true) (rightClosed : balanced 0 r = true)
    (slicedLeft : Sliced room l left) (slicedRight : Sliced room r right) (grouped : Bool) :
    Sliced (room + 1) (group l ++ c :: group r) (connect left right) ∧
      Closed grouped (group l ++ c :: group r) := by
  have shape : group l ++ c :: group r = '(' :: (l ++ ')' :: c :: '(' :: (r ++ [')'])) := by
    simp [group]
  rw [shape]
  refine ⟨?_, fun _ => balanced_binary (isBracket_connective connective) leftClosed rightClosed⟩
  simpa using Sliced.binary_within allBlank_nil allBlank_nil leftClosed rightClosed connective
    slicedLeft slicedRight

theorem exists_room {q : Query} {room above : Nat} (readable : q.readableUnder above = true)
    (level : room + above = maxNesting + 1) :
    ∃ less, room = less + 1 ∧ less + (above + 1) = maxNesting + 1 := by
  have within := level_of_readable readable
  exact ⟨room - 1, by omega, by omega⟩

/-- The canonical text of a readable query is made up of slices, and in a group it is
balanced. -/
theorem sliced_render {q : Query} {room above : Nat} (readable : q.readableUnder above = true)
    (level : room + above = maxNesting + 1) :
    Sliced room q.render q ∧ Closed (above != 0) q.render := by
  induction q generalizing room above with
  | atom a =>
    obtain ⟨room, rfl, _⟩ := exists_room readable level
    obtain ⟨parted, begins, _, closed⟩ := Atom.readableUnder_iff.mp readable
    obtain ⟨tail, parts⟩ := a.exists_render
    obtain ⟨c, rest, start⟩ : ∃ c rest, a.render = c :: rest := by
      rw [parts]
      cases field : a.field <;> simp [Atom.body, field]
    have begins' := (Atom.head_of_body (parts ▸ start)).mp begins
    simp only [Atom.beginsGroup, Bool.or_eq_false_iff, beq_eq_false_iff_ne] at begins'
    have trimmed : Text.trim a.render = c :: rest := by
      rw [Text.trim_eq_self (by simp [start, begins']) a.last_of_render, start]
    refine ⟨.atom trimmed begins'.1.2 begins'.2 ?_, (closed_congr a.brackets_render).mpr closed⟩
    rw [← start, Atom.slice?_render parted]
  | and l r left right =>
    obtain ⟨room, rfl, deeper⟩ := exists_room readable level
    simp only [readableUnder, Bool.and_eq_true] at readable
    obtain ⟨slicedLeft, leftClosed⟩ := left readable.1 deeper
    obtain ⟨slicedRight, rightClosed⟩ := right readable.2 deeper
    exact Sliced.groups (c := '&') rfl (leftClosed rfl) (rightClosed rfl) slicedLeft slicedRight _
  | or l r left right =>
    obtain ⟨room, rfl, deeper⟩ := exists_room readable level
    simp only [readableUnder, Bool.and_eq_true] at readable
    obtain ⟨slicedLeft, leftClosed⟩ := left readable.1 deeper
    obtain ⟨slicedRight, rightClosed⟩ := right readable.2 deeper
    exact Sliced.groups (c := '|') rfl (leftClosed rfl) (rightClosed rfl) slicedLeft slicedRight _
  | not q child =>
    obtain ⟨room, rfl, deeper⟩ := exists_room readable level
    obtain ⟨slicedChild, closed⟩ := child readable deeper
    refine ⟨?_, fun _ => balanced_negation (closed rfl)⟩
    simpa [render, group] using
      Sliced.negation_within allBlank_nil allBlank_nil (closed rfl) slicedChild

theorem parse_eq_ok_of_readable {q : Query} (readable : q.Readable) : parse q.render = .ok q :=
  parse_eq_ok_iff_sliced.mpr (sliced_render readable rfl).1

theorem readable_of_parse {t : Text} {q : Query} (read : parse t = .ok q) : q.Readable :=
  (parse_eq_ok_iff_sliced.mp read).readableUnder rfl nofun

def texts (q : Query) : List Text := q.atoms.flatMap fun a => [a.field, a.value]

theorem texts_and (l r : Query) : (Query.and l r).texts = l.texts ++ r.texts := by
  simp [texts, atoms]

theorem texts_or (l r : Query) : (Query.or l r).texts = l.texts ++ r.texts := by
  simp [texts, atoms]

/-- Slicing adds nothing to the text. -/
theorem Sliced.texts_subset {room : Nat} {t : Text} {q : Query} (sliced : Sliced room t q)
    {u : Text} (member : u ∈ q.texts) : u ⊆ t := by
  induction sliced with
  | @binary room t l r c connect left right shape _ _ connective _ _ inLeft inRight =>
    have sides : u ∈ left.texts ∨ u ∈ right.texts := by
      rcases connective?_eq_some_iff.mp connective with ⟨_, rfl⟩ | ⟨_, rfl⟩
      · simpa [texts_and] using member
      · simpa [texts_or] using member
    refine fun d inside => Text.trim_subset t (shape ▸ ?_)
    rcases sides with inText | inText
    · simp [inLeft inText inside]
    · simp [inRight inText inside]
  | @negation room t inner child shape _ _ inChild =>
    refine fun d inside => Text.trim_subset t (shape ▸ ?_)
    simp [inChild member inside]
  | @atom room t rest c a shape _ _ found =>
    refine fun d inside => Text.trim_subset t (shape ▸ ?_)
    have own : d ∈ a.body := by
      simp only [texts, atoms, List.flatMap_cons, List.flatMap_nil, List.append_nil,
        List.mem_cons, List.not_mem_nil, or_false] at member
      rcases member with rfl | rfl <;> simp [Atom.body, inside]
    rcases (Atom.slice?_eq_some_iff.mp found).2 with ⟨bare, _⟩ | cast
    · exact bare ▸ own
    · exact cast ▸ List.mem_append_left _ own

theorem texts_subset_of_parse {t : Text} {q : Query} (read : parse t = .ok q) {u : Text}
    (member : u ∈ q.texts) : u ⊆ t :=
  (parse_eq_ok_iff_sliced.mp read).texts_subset member

/-- Blanks around a query do not count. -/
theorem parse_trim {t : Text} {q : Query} : parse (Text.trim t) = .ok q ↔ parse t = .ok q := by
  have same : slice? (maxNesting + 1) (Text.trim t) = slice? (maxNesting + 1) t := by
    simp only [slice?, Text.trim_trim]
  rw [parse_eq_ok_iff_sliced, parse_eq_ok_iff_sliced, ← slice?_eq_some_iff, same,
    slice?_eq_some_iff]

/-- The canonical text of a query reads back exactly when the query is readable, and every
query that is read from some text is. -/
theorem parse_render_iff_readable :
    (∀ q : Query, parse q.render = .ok q ↔ q.Readable) ∧
      ∀ (t : Text) (q : Query), parse t = .ok q → q.Readable :=
  ⟨fun _ => ⟨readable_of_parse, parse_eq_ok_of_readable⟩, fun _ _ => readable_of_parse⟩

/-- Parentheses and a blank at the end of a value inside a group. -/
theorem readable_group_value :
    parse ['!', '(', ' ', 'a', '=', '(', 'x', ')', ' ', '.', 's', ' ', ')'] =
        .ok (.not (.atom ⟨['a'], .equal, ['(', 'x', ')', ' '], .text⟩)) ∧
      (Query.not (.atom ⟨['a'], .equal, ['(', 'x', ')', ' '], .text⟩)).Readable :=
  have read : parse ['!', '(', ' ', 'a', '=', '(', 'x', ')', ' ', '.', 's', ' ', ')'] =
      .ok (.not (.atom ⟨['a'], .equal, ['(', 'x', ')', ' '], .text⟩)) := by rfl
  ⟨read, parse_render_iff_readable.2 _ _ read⟩

end Query
end RowSieve
