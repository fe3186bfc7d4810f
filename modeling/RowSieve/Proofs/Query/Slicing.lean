import RowSieve.Proofs.Outcome
import RowSieve.Proofs.Query.AtomText
import RowSieve.Proofs.Query.Brackets

/-! Reading a query in one pass finds the same trees as slicing it. Between the two stands
`Sliced`, the derivation of a tree from a text, in which every group is balanced. The pass
never looks for the `)` of a group: that it stops there is proved along the derivation. -/
namespace RowSieve.Query

/-- How the slices of a text make up a tree, at most `room` of them inside each other. -/
inductive Sliced : (room : Nat) → Text → Query → Prop
  | binary {room : Nat} {t l r : Text} {c : Char} {connect : Query → Query → Query}
      {left right : Query}
      (shape : Text.trim t = '(' :: (l ++ ')' :: c :: '(' :: (r ++ [')'])))
      (leftClosed : balanced 0 l = true) (rightClosed : balanced 0 r = true)
      (connective : connective? c = some connect)
      (left_sliced : Sliced room l left) (right_sliced : Sliced room r right) :
      Sliced (room + 1) t (connect left right)
  | negation {room : Nat} {t inner : Text} {child : Query}
      (shape : Text.trim t = '!' :: '(' :: (inner ++ [')']))
      (closed : balanced 0 inner = true) (child_sliced : Sliced room inner child) :
      Sliced (room + 1) t (.not child)
  | atom {room : Nat} {t rest : Text} {c : Char} {a : Atom} (shape : Text.trim t = c :: rest)
      (noGroup : c ≠ '(') (noNegation : c ≠ '!') (found : Atom.slice? (c :: rest) = some a) :
      Sliced (room + 1) t (.atom a)

theorem lastGroup?_eq_some_iff {t inner : Text} :
    lastGroup? t = some inner ↔ t = inner ++ [')'] ∧ balanced 0 inner = true := by
  rw [← splitClosing?_eq_some_iff, lastGroup?]
  split
  · rename_i found
    simp [found]
  · rename_i other
    constructor
    · simp
    · intro found
      exact absurd found (other _)

theorem slice?_of_sliced {room : Nat} {t : Text} {q : Query} (sliced : Sliced room t q) :
    slice? room t = some q := by
  induction sliced with
  | binary shape leftClosed rightClosed connective _ _ left right =>
    simp [slice?, shape, splitClosing?_eq_some_iff.mpr ⟨rfl, leftClosed⟩,
      lastGroup?_eq_some_iff.mpr ⟨rfl, rightClosed⟩, connective, left, right]
  | negation shape closed _ child =>
    simp [slice?, shape, lastGroup?_eq_some_iff.mpr ⟨rfl, closed⟩, child]
  | atom shape noGroup noNegation found =>
    rw [slice?, shape]
    split
    · simp_all
    · simp_all
    · simp_all
    · simp [found]

theorem sliced_of_slice? {room : Nat} {t : Text} {q : Query} (found : slice? room t = some q) :
    Sliced room t q := by
  induction room generalizing t q with
  | zero => simp [slice?] at found
  | succ room ih =>
    rw [slice?] at found
    split at found
    · simp at found
    · rename_i shape
      split at found
      · rename_i l c t' closing
        simp only [Option.bind_eq_bind, Option.bind_eq_some_iff, Option.pure_def,
          Option.some.injEq] at found
        obtain ⟨connect, connective, r, closing', left, foundLeft, right, foundRight, rfl⟩ := found
        obtain ⟨rfl, leftClosed⟩ := splitClosing?_eq_some_iff.mp closing
        obtain ⟨rfl, rightClosed⟩ := lastGroup?_eq_some_iff.mp closing'
        exact .binary shape leftClosed rightClosed connective (ih foundLeft) (ih foundRight)
      · simp at found
    · rename_i shape
      split at found
      · simp only [Option.bind_eq_bind, Option.bind_eq_some_iff, Option.pure_def,
          Option.some.injEq] at found
        obtain ⟨inner, closing, child, foundChild, rfl⟩ := found
        obtain ⟨rfl, closed⟩ := lastGroup?_eq_some_iff.mp closing
        exact .negation shape closed (ih foundChild)
      · simp at found
    · rename_i noText noGroup noNegation
      obtain ⟨a, foundAtom, rfl⟩ := Option.map_eq_some_iff.mp found
      obtain ⟨c, rest, shape⟩ := List.exists_cons_of_ne_nil noText
      rw [shape] at foundAtom
      exact .atom shape (fun same => noGroup _ (same ▸ shape))
        (fun same => noNegation _ (same ▸ shape)) foundAtom

theorem slice?_eq_some_iff {room : Nat} {t : Text} {q : Query} :
    slice? room t = some q ↔ Sliced room t q :=
  ⟨sliced_of_slice?, slice?_of_sliced⟩

/-- Where a query stops: inside a group before a `)`, else at the end of the text. -/
def Stops (grouped : Bool) (rest : Text) : Prop :=
  if grouped then ∃ t, rest = ')' :: t else rest = []

theorem stops_close (t : Text) : Stops true (')' :: t) := ⟨t, rfl⟩

theorem stops_end : Stops false [] := rfl

/-- Inside a group a query closes every parenthesis that it opens. -/
def Closed (grouped : Bool) (own : Text) : Prop := grouped = true → balanced 0 own = true

theorem closed_congr {grouped : Bool} {s t : Text} (same : brackets s = brackets t) :
    Closed grouped s ↔ Closed grouped t := by
  rw [Closed, Closed, balanced_congr same]

theorem closed_append_of_blank {grouped : Bool} {before own after : Text}
    (blank : AllBlank before) (blank' : AllBlank after) :
    Closed grouped (before ++ own ++ after) ↔ Closed grouped own := by
  apply closed_congr
  simp [brackets_of_allBlank blank, brackets_of_allBlank blank']

theorem expect_eq_ok_iff {c : Char} {cause : Cause} {t rest : Text} :
    expect c cause t = .ok rest ↔ t = c :: rest := by
  cases t with
  | nil => simp [expect]
  | cons d t =>
    by_cases same : d = c <;> simp [expect, same]

theorem connective?_eq_some_iff {c : Char} {connect : Query → Query → Query} :
    connective? c = some connect ↔ c = '&' ∧ connect = .and ∨ c = '|' ∧ connect = .or := by
  unfold connective?
  by_cases both : c = '&'
  · simp [both, eq_comm]
  · by_cases either : c = '|' <;> simp [both, either, eq_comm]

theorem isBracket_connective {c : Char} {connect : Query → Query → Query}
    (connective : connective? c = some connect) : isBracket c = false := by
  rcases connective?_eq_some_iff.mp connective with ⟨rfl, _⟩ | ⟨rfl, _⟩ <;> decide

theorem readConnective_eq_ok_iff {t rest : Text} {connect : Query → Query → Query} :
    readConnective t = .ok (connect, rest) ↔
      ∃ c, connective? c = some connect ∧ t = c :: rest := by
  simp only [connective?_eq_some_iff]
  constructor
  · intro read
    unfold readConnective at read
    split at read
    · simp only [Except.ok.injEq, Prod.mk.injEq] at read
      exact ⟨'&', .inl ⟨rfl, read.1.symm⟩, by rw [read.2]⟩
    · simp only [Except.ok.injEq, Prod.mk.injEq] at read
      exact ⟨'|', .inr ⟨rfl, read.1.symm⟩, by rw [read.2]⟩
    · simp at read
  · rintro ⟨c, ⟨rfl, rfl⟩ | ⟨rfl, rfl⟩, rfl⟩ <;> rfl

/-- Behind a group stand only blanks, up to the place where the query stops. -/
theorem finish_eq_ok_iff {grouped : Bool} {cause : Cause} {q q' : Query} {t rest : Text}
    (stops : Stops grouped rest) :
    finish grouped cause q t = .ok (q', rest) ↔
      q = q' ∧ ∃ after, AllBlank after ∧ t = after ++ rest := by
  constructor
  · intro finished
    obtain ⟨after, blank, parts⟩ := Text.exists_trimStart t
    suffices same : q = q' ∧ Text.trimStart t = rest from
      ⟨same.1, after, blank, same.2 ▸ parts⟩
    unfold finish at finished
    split at finished
    · simp_all
    · split at finished <;> simp_all
  · rintro ⟨rfl, after, blank, rfl⟩
    rw [finish, Text.trimStart_append_of_blank blank]
    cases grouped with
    | false =>
      obtain rfl : rest = [] := stops
      rfl
    | true =>
      obtain ⟨t, rfl⟩ := stops
      simp [Text.trimStart_cons (c := ')') (by decide)]

theorem readAtom_eq_ok_iff_cut {grouped : Bool} {t rest : Text} {a : Atom} :
    Atom.read grouped t = .ok (a, rest) ↔
      ∃ own, (if grouped then Atom.cutGroup 0 t else (t, [])) = (own, rest) ∧
        Atom.ofText own = .ok a := by
  rw [Atom.read]
  generalize (if grouped then Atom.cutGroup 0 t else (t, [])) = cut
  cases read : Atom.ofText cut.1 <;> grind

/-- An atom has its own text up to where the query stops. -/
theorem readAtom_eq_ok_iff {grouped : Bool} {t rest : Text} {a : Atom}
    (stops : Stops grouped rest) :
    Atom.read grouped t = .ok (a, rest) ↔
      ∃ own, t = own ++ rest ∧ Closed grouped own ∧ Atom.ofText own = .ok a := by
  rw [readAtom_eq_ok_iff_cut]
  cases grouped with
  | false =>
    obtain rfl : rest = [] := stops
    simp [Closed]
  | true =>
    obtain ⟨t', rfl⟩ := stops
    simp [cutGroup_eq_iff, Closed, and_assoc]

/-- Two groups with a connective between them are read one after the other. -/
theorem read_binary_eq_ok_iff {room : Nat} {grouped : Bool} {t inside rest : Text} {q : Query}
    (start : Text.trimStart t = '(' :: inside) :
    read (room + 1) grouped t = .ok (q, rest) ↔
      ∃ left right c connect between behind, connective? c = some connect ∧
        read room true inside = .ok (left, ')' :: c :: '(' :: between) ∧
        read room true between = .ok (right, ')' :: behind) ∧
        finish grouped .afterBinary (connect left right) behind = .ok (q, rest) := by
  rw [read, start]
  constructor
  · intro ok
    obtain ⟨⟨left, t₁⟩, readLeft, ok⟩ := bind_eq_ok_iff.mp ok
    obtain ⟨t₂, closing, ok⟩ := bind_eq_ok_iff.mp ok
    obtain ⟨⟨connect, t₃⟩, joined, ok⟩ := bind_eq_ok_iff.mp ok
    obtain ⟨t₄, opening, ok⟩ := bind_eq_ok_iff.mp ok
    obtain ⟨⟨right, t₅⟩, readRight, ok⟩ := bind_eq_ok_iff.mp ok
    obtain ⟨t₆, closing', ok⟩ := bind_eq_ok_iff.mp ok
    obtain rfl := expect_eq_ok_iff.mp closing
    obtain ⟨c, connective, rfl⟩ := readConnective_eq_ok_iff.mp joined
    obtain rfl := expect_eq_ok_iff.mp opening
    obtain rfl := expect_eq_ok_iff.mp closing'
    exact ⟨left, right, c, connect, t₄, t₆, connective, readLeft, readRight, ok⟩
  · rintro ⟨left, right, c, connect, between, behind, connective, readLeft, readRight, ok⟩
    refine bind_eq_ok_iff.mpr ⟨_, readLeft, ?_⟩
    refine bind_eq_ok_iff.mpr ⟨_, expect_eq_ok_iff.mpr rfl, ?_⟩
    refine bind_eq_ok_iff.mpr ⟨_, readConnective_eq_ok_iff.mpr ⟨c, connective, rfl⟩, ?_⟩
    refine bind_eq_ok_iff.mpr ⟨_, expect_eq_ok_iff.mpr rfl, ?_⟩
    refine bind_eq_ok_iff.mpr ⟨_, readRight, ?_⟩
    exact bind_eq_ok_iff.mpr ⟨_, expect_eq_ok_iff.mpr rfl, ok⟩

theorem read_negation_eq_ok_iff {room : Nat} {grouped : Bool} {t after rest : Text} {q : Query}
    (start : Text.trimStart t = '!' :: after) :
    read (room + 1) grouped t = .ok (q, rest) ↔
      ∃ child inside behind, after = '(' :: inside ∧
        read room true inside = .ok (child, ')' :: behind) ∧
        finish grouped .afterNegation (.not child) behind = .ok (q, rest) := by
  rw [read, start]
  constructor
  · intro ok
    obtain ⟨t₁, opening, ok⟩ := bind_eq_ok_iff.mp ok
    obtain ⟨⟨child, t₂⟩, readChild, ok⟩ := bind_eq_ok_iff.mp ok
    obtain ⟨t₃, closing, ok⟩ := bind_eq_ok_iff.mp ok
    obtain rfl := expect_eq_ok_iff.mp closing
    exact ⟨child, t₁, t₃, expect_eq_ok_iff.mp opening, readChild, ok⟩
  · rintro ⟨child, inside, behind, rfl, readChild, ok⟩
    refine bind_eq_ok_iff.mpr ⟨_, expect_eq_ok_iff.mpr rfl, ?_⟩
    refine bind_eq_ok_iff.mpr ⟨_, readChild, ?_⟩
    exact bind_eq_ok_iff.mpr ⟨_, expect_eq_ok_iff.mpr rfl, ok⟩

theorem read_atom_eq_ok_iff {room : Nat} {grouped : Bool} {t behind rest : Text} {c : Char}
    {q : Query} (start : Text.trimStart t = c :: behind) (noGroup : c ≠ '(')
    (noNegation : c ≠ '!') :
    read (room + 1) grouped t = .ok (q, rest) ↔
      (grouped && c == ')') = false ∧
        ∃ a, q = .atom a ∧ Atom.read grouped (c :: behind) = .ok (a, rest) := by
  rw [read, start]
  split
  · simp_all
  · simp_all
  · simp_all
  · rename_i same
    obtain ⟨rfl, rfl⟩ := List.cons.inj same
    cases close : grouped && c == ')' with
    | true => simp
    | false =>
      simp only [Bool.false_eq_true, if_false, true_and]
      constructor
      · intro ok
        obtain ⟨⟨a, t'⟩, readAtom, ok⟩ := bind_eq_ok_iff.mp ok
        obtain ⟨rfl, rfl⟩ := Prod.mk.inj (pure_eq_ok_iff.mp ok)
        exact ⟨a, rfl, readAtom⟩
      · rintro ⟨a, rfl, readAtom⟩
        exact bind_eq_ok_iff.mpr ⟨_, readAtom, rfl⟩

/-- A text made up of slices is read up to its end, whatever the query that it stands in
goes on with. -/
theorem read_of_sliced {room : Nat} {own : Text} {q : Query} (sliced : Sliced room own q)
    {grouped : Bool} (closed : Closed grouped own) {rest : Text} (stops : Stops grouped rest) :
    read room grouped (own ++ rest) = .ok (q, rest) := by
  induction sliced generalizing grouped rest with
  | @binary room t l r c connect left right shape leftClosed rightClosed connective _ _
      readLeft readRight =>
    obtain ⟨before, after, blank, blank', parts⟩ := Text.exists_trim t
    rw [shape] at parts
    have start : Text.trimStart (t ++ rest) =
        '(' :: (l ++ ')' :: c :: '(' :: (r ++ ')' :: (after ++ rest))) := by
      rw [parts]
      simp [Text.trimStart_append_of_blank blank, Text.trimStart_cons (c := '(') (by decide)]
    refine (read_binary_eq_ok_iff start).mpr ⟨left, right, c, connect, r ++ ')' :: (after ++ rest),
      after ++ rest, connective, ?_, ?_, ?_⟩
    · exact readLeft (fun _ => leftClosed) (stops_close _)
    · exact readRight (fun _ => rightClosed) (stops_close _)
    · exact (finish_eq_ok_iff stops).mpr ⟨rfl, after, blank', rfl⟩
  | @negation room t inner child shape closedInside _ readChild =>
    obtain ⟨before, after, blank, blank', parts⟩ := Text.exists_trim t
    rw [shape] at parts
    have start : Text.trimStart (t ++ rest) =
        '!' :: '(' :: (inner ++ ')' :: (after ++ rest)) := by
      rw [parts]
      simp [Text.trimStart_append_of_blank blank, Text.trimStart_cons (c := '!') (by decide)]
    refine (read_negation_eq_ok_iff start).mpr ⟨child, _, after ++ rest, rfl, ?_, ?_⟩
    · exact readChild (fun _ => closedInside) (stops_close _)
    · exact (finish_eq_ok_iff stops).mpr ⟨rfl, after, blank', rfl⟩
  | @atom room t trimmed c a shape noGroup noNegation found =>
    obtain ⟨before, after, blank, blank', parts⟩ := Text.exists_trim t
    have dark := Text.dark_of_trim shape
    rw [shape] at parts
    have start : Text.trimStart (t ++ rest) = c :: (trimmed ++ (after ++ rest)) := by
      rw [parts]
      simp [Text.trimStart_append_of_blank blank, Text.trimStart_cons dark]
    have closedOwn : Closed grouped (c :: trimmed ++ after) := by
      rw [parts, closed_append_of_blank blank blank'] at closed
      simpa using (closed_append_of_blank allBlank_nil blank').mpr closed
    have ownText : Atom.ofText (c :: trimmed ++ after) = .ok a := by
      have ended : Text.trimEnd (c :: trimmed) = c :: trimmed := by
        rw [← shape, Text.trim, Text.trimEnd_trimEnd]
      rw [Atom.ofText_eq_ok_iff, Text.trimEnd_append_of_blank blank', ended, found]
    have noClose : (grouped && c == ')') = false := by
      cases grouped with
      | false => rfl
      | true =>
        have inside := closedOwn rfl
        rw [List.cons_append] at inside
        by_cases close : c = ')'
        · simp [close, balanced_close] at inside
        · simp [close]
    refine (read_atom_eq_ok_iff start noGroup noNegation).mpr ⟨noClose, a, rfl, ?_⟩
    exact (readAtom_eq_ok_iff stops).mpr ⟨c :: trimmed ++ after, by simp, closedOwn, ownText⟩

theorem Sliced.binary_within {room : Nat} {before after l r : Text} {c : Char}
    {connect : Query → Query → Query} {left right : Query} (blank : AllBlank before)
    (blank' : AllBlank after) (leftClosed : balanced 0 l = true)
    (rightClosed : balanced 0 r = true) (connective : connective? c = some connect)
    (slicedLeft : Sliced room l left) (slicedRight : Sliced room r right) :
    Sliced (room + 1) (before ++ '(' :: (l ++ ')' :: c :: '(' :: (r ++ [')'])) ++ after)
      (connect left right) := by
  have trimmed := Text.trim_between (c := '(') (d := ')') blank blank' (by decide) (by decide)
    (l ++ ')' :: c :: '(' :: r)
  exact .binary (by simpa using trimmed) leftClosed rightClosed connective slicedLeft slicedRight

theorem Sliced.negation_within {room : Nat} {before after inner : Text} {child : Query}
    (blank : AllBlank before) (blank' : AllBlank after) (closed : balanced 0 inner = true)
    (slicedChild : Sliced room inner child) :
    Sliced (room + 1) (before ++ '!' :: '(' :: (inner ++ [')']) ++ after) (.not child) := by
  have trimmed := Text.trim_between (c := '!') (d := ')') blank blank' (by decide) (by decide)
    ('(' :: inner)
  exact .negation (by simpa using trimmed) closed slicedChild

theorem Sliced.atom_within {room : Nat} {before own : Text} {c : Char} {a : Atom}
    (blank : AllBlank before) (dark : isBlank c = false) (noGroup : c ≠ '(')
    (noNegation : c ≠ '!') (read : Atom.ofText (c :: own) = .ok a) :
    Sliced (room + 1) (before ++ c :: own) (.atom a) := by
  have trimmed : Text.trim (before ++ c :: own) = c :: Text.trimEnd own := by
    rw [Text.trim, Text.trimStart_blank_cons blank dark]
    exact Text.trimEnd_append_cons (s := []) dark
  have found := Atom.ofText_eq_ok_iff.mp read
  rw [← Text.trimStart_blank_cons blank dark, ← Text.trim, trimmed] at found
  exact .atom trimmed noGroup noNegation found

/-- What is read as a query is made up of slices, and inside a group it is balanced. -/
theorem sliced_of_read {room : Nat} {grouped : Bool} {t rest : Text} {q : Query}
    (stops : Stops grouped rest) (ok : read room grouped t = .ok (q, rest)) :
    ∃ own, t = own ++ rest ∧ Closed grouped own ∧ Sliced room own q := by
  induction room generalizing grouped t rest q with
  | zero => simp [read] at ok
  | succ room ih =>
    obtain ⟨before, blank, parts⟩ := Text.exists_trimStart t
    cases start : Text.trimStart t with
    | nil => simp [read, start] at ok
    | cons c t' =>
      rw [start] at parts
      by_cases group : c = '('
      · subst group
        obtain ⟨left, right, c, connect, between, behind, connective, readLeft, readRight, ok⟩ :=
          (read_binary_eq_ok_iff start).mp ok
        obtain ⟨rfl, after, blank', rfl⟩ := (finish_eq_ok_iff stops).mp ok
        obtain ⟨r, rfl, rightClosed, slicedRight⟩ := ih (stops_close _) readRight
        obtain ⟨l, rfl, leftClosed, slicedLeft⟩ := ih (stops_close _) readLeft
        refine ⟨_, ?_, (closed_append_of_blank blank blank').mpr fun _ => ?_,
          .binary_within blank blank' (leftClosed rfl) (rightClosed rfl) connective slicedLeft
            slicedRight⟩
        · rw [parts]
          simp
        · exact balanced_binary (isBracket_connective connective) (leftClosed rfl)
            (rightClosed rfl)
      · by_cases negation : c = '!'
        · subst negation
          obtain ⟨child, inside, behind, rfl, readChild, ok⟩ :=
            (read_negation_eq_ok_iff start).mp ok
          obtain ⟨rfl, after, blank', rfl⟩ := (finish_eq_ok_iff stops).mp ok
          obtain ⟨inner, rfl, closed, slicedChild⟩ := ih (stops_close _) readChild
          refine ⟨_, ?_, (closed_append_of_blank blank blank').mpr fun _ => ?_,
            .negation_within blank blank' (closed rfl) slicedChild⟩
          · rw [parts]
            simp
          · exact balanced_negation (closed rfl)
        · obtain ⟨_, a, rfl, readAtom⟩ := (read_atom_eq_ok_iff start group negation).mp ok
          obtain ⟨own, ownParts, closed, ownText⟩ := (readAtom_eq_ok_iff stops).mp readAtom
          cases own with
          | nil => simp [Atom.ofText, Atom.splitRelation?] at ownText
          | cons d own =>
            obtain ⟨rfl, rfl⟩ := List.cons.inj ownParts
            refine ⟨before ++ c :: own, ?_, ?_, .atom_within blank
              (Text.dark_of_trimStart start) group negation ownText⟩
            · rw [parts]
              simp
            · simpa using (closed_append_of_blank blank allBlank_nil).mpr closed

/-- Reading goes on to where the query stops, and what it has taken is made up of slices. -/
theorem read_eq_ok_iff {room : Nat} {grouped : Bool} {t rest : Text} {q : Query}
    (stops : Stops grouped rest) :
    read room grouped t = .ok (q, rest) ↔
      ∃ own, t = own ++ rest ∧ Closed grouped own ∧ Sliced room own q := by
  constructor
  · exact sliced_of_read stops
  · rintro ⟨own, rfl, closed, sliced⟩
    exact read_of_sliced sliced closed stops

theorem rest_of_finish {cause : Cause} {q q' : Query} {t rest : Text}
    (ok : finish false cause q t = .ok (q', rest)) : rest = [] := by
  unfold finish at ok
  split at ok
  · exact (Prod.mk.inj (Except.ok.inj ok)).2.symm
  · simp at ok

/-- A query that stands in no group leaves nothing unread. -/
theorem rest_of_read {room : Nat} {t rest : Text} {q : Query}
    (ok : read room false t = .ok (q, rest)) : rest = [] := by
  cases room with
  | zero => simp [read] at ok
  | succ room =>
    cases start : Text.trimStart t with
    | nil => simp_all [read]
    | cons c t' =>
      by_cases group : c = '('
      · subst group
        obtain ⟨_, _, _, _, _, _, _, _, _, ok⟩ := (read_binary_eq_ok_iff start).mp ok
        exact rest_of_finish ok
      · by_cases negation : c = '!'
        · subst negation
          obtain ⟨_, _, _, _, _, ok⟩ := (read_negation_eq_ok_iff start).mp ok
          exact rest_of_finish ok
        · obtain ⟨_, a, rfl, readAtom⟩ := (read_atom_eq_ok_iff start group negation).mp ok
          obtain ⟨own, cut, _⟩ := readAtom_eq_ok_iff_cut.mp readAtom
          exact (Prod.mk.inj cut).2.symm

theorem parse_eq_ok_iff_sliced {t : Text} {q : Query} :
    parse t = .ok q ↔ Sliced (maxNesting + 1) t q := by
  have whole : read (maxNesting + 1) false t = .ok (q, []) ↔ Sliced (maxNesting + 1) t q := by
    simp [read_eq_ok_iff stops_end, Closed]
  rw [← whole, parse]
  split
  · rename_i read
    obtain rfl := rest_of_read read
    simp [read]
  · rename_i read
    simp [read]

/-- A text is read as a query exactly when its slices make up that query. -/
theorem parse_iff_slice (t : Text) (q : Query) :
    parse t = .ok q ↔ slice? (maxNesting + 1) t = some q := by
  rw [parse_eq_ok_iff_sliced, slice?_eq_some_iff]

end RowSieve.Query
