import RowSieve.Proofs.Text.Cut
import RowSieve.Proofs.Text.Trim
import RowSieve.Query.Parse
import RowSieve.Query.Slicing

/-! The texts of an atom: its field, relation and value, and behind them nothing or a cast.
Reading and slicing find the same atom once the blanks at the end are gone. -/
namespace RowSieve.Atom

def body (a : Atom) : Text := a.field ++ a.relation.symbol :: a.value

/-- The parts of an atom that can be told apart in its text. -/
structure Parted (a : Atom) : Prop where
  field : ∀ c ∈ a.field, inField c = true
  value : '.' ∉ a.value

@[simp] theorem inField_symbol (r : Relation) : inField r.symbol = false := by simp [inField]

theorem isBlank_symbol (r : Relation) : isBlank r.symbol = false := by cases r <;> decide

theorem isBlank_tag (k : Cast) : isBlank k.tag = false := by cases k <;> decide

theorem takeWhile_body {a : Atom} (parted : a.Parted) (t : Text) :
    (a.body ++ t).takeWhile inField = a.field := by
  rw [body, List.append_assoc]
  exact Text.takeWhile_append_stop parted.field (inField_symbol _)

theorem dropWhile_body {a : Atom} (parted : a.Parted) (t : Text) :
    (a.body ++ t).dropWhile inField = a.relation.symbol :: (a.value ++ t) := by
  rw [body, List.append_assoc]
  exact Text.dropWhile_append_stop parted.field (inField_symbol _)

theorem sliceCast?_eq_some_iff {t : Text} {k : Cast} :
    sliceCast? t = some k ↔ t = [] ∧ k = .text ∨ t = ['.', k.tag] := by
  constructor
  · intro sliced
    unfold sliceCast? at sliced
    split at sliced
    · exact .inl ⟨rfl, (Option.some.inj sliced).symm⟩
    · exact .inr (by rw [Cast.ofTag?_eq_some_iff.mp sliced])
    · simp at sliced
  · rintro (⟨rfl, rfl⟩ | rfl)
    · rfl
    · simp [sliceCast?]

/-- The value ends before the first `.`, with which only the cast can begin. -/
theorem value_iff {t value : Text} {k : Cast} :
    t.takeWhile (· ≠ '.') = value ∧ sliceCast? (t.dropWhile (· ≠ '.')) = some k ↔
      '.' ∉ value ∧ (t = value ∧ k = .text ∨ t = value ++ ['.', k.tag]) := by
  rw [sliceCast?_eq_some_iff]
  constructor
  · rintro ⟨rfl, ⟨all, rfl⟩ | rest⟩
    · have whole := Text.takeWhile_of_dropWhile_eq_nil all
      refine ⟨fun member => ?_, .inl ⟨whole.symm, rfl⟩⟩
      simpa using List.mem_takeWhile_imp member
    · obtain ⟨_, pass, parts⟩ := Text.dropWhile_eq_cons_iff.mp rest
      exact ⟨fun member => by simpa using pass _ member, .inr parts⟩
  · rintro ⟨absent, ⟨rfl, rfl⟩ | rfl⟩
    · have all := Text.passes_of_not_mem absent
      exact ⟨List.takeWhile_eq_self_iff.mpr all, .inl ⟨List.dropWhile_eq_nil_iff.mpr all, rfl⟩⟩
    · have pass := Text.passes_of_not_mem absent
      exact ⟨Text.takeWhile_append_stop pass (by simp),
        .inr (Text.dropWhile_append_stop pass (by simp))⟩

/-- Behind the value stands nothing or a cast. -/
theorem slice?_eq_some_iff {t : Text} {a : Atom} :
    slice? t = some a ↔
      a.Parted ∧ (t = a.body ∧ a.cast = .text ∨ t = a.body ++ ['.', a.cast.tag]) := by
  constructor
  · intro sliced
    unfold slice? at sliced
    split at sliced
    · simp at sliced
    · rename_i c behind stopped
      obtain ⟨_, pass, parts⟩ := Text.dropWhile_eq_cons_iff.mp stopped
      simp only [Option.bind_eq_bind, Option.bind_eq_some_iff] at sliced
      obtain ⟨relation, symbol, k, cast, made⟩ := sliced
      obtain rfl := Relation.ofSymbol?_eq_some_iff.mp symbol
      generalize t.takeWhile inField = field at pass parts made
      generalize found : behind.takeWhile (· ≠ '.') = value at made
      obtain ⟨absent, forms⟩ := value_iff.mp ⟨found, cast⟩
      obtain rfl := Option.some.inj made
      refine ⟨⟨pass, absent⟩, ?_⟩
      simpa [parts, body] using forms
  · rintro ⟨parted, forms⟩
    obtain ⟨tail, rfl, behind⟩ : ∃ tail, t = a.body ++ tail ∧
        (tail = [] ∧ a.cast = .text ∨ tail = ['.', a.cast.tag]) := by
      rcases forms with ⟨rfl, text⟩ | rfl
      · exact ⟨[], by simp, .inl ⟨rfl, text⟩⟩
      · exact ⟨_, rfl, .inr rfl⟩
    have value := value_iff (t := a.value ++ tail).mpr ⟨parted.value, by simpa using behind⟩
    rw [slice?, dropWhile_body parted, takeWhile_body parted]
    simp only [Relation.ofSymbol?_symbol, value.1, value.2]
    rfl

theorem readCast_eq_ok_iff {t : Text} {k : Cast} :
    readCast t = .ok k ↔ ∃ after, AllBlank after ∧ t = k.tag :: after := by
  cases t with
  | nil => simp [readCast]
  | cons c t =>
    simp only [readCast]
    constructor
    · intro read
      split at read
      · simp at read
      · rename_i cast tag
        split at read
        · rename_i blank
          obtain rfl := Except.ok.inj read
          exact ⟨t, Text.trimStart_eq_nil_iff.mp blank, by rw [Cast.ofTag?_eq_some_iff.mp tag]⟩
        · simp at read
    · rintro ⟨after, blank, parts⟩
      obtain ⟨rfl, rfl⟩ := List.cons.inj parts
      simp [Text.trimStart_eq_nil_iff.mpr blank]

theorem splitRelation?_body {a : Atom} (parted : a.Parted) (t : Text) :
    splitRelation? (a.body ++ t) = some (a.field, a.relation, a.value ++ t) := by
  rw [splitRelation?_eq_some_iff]
  exact ⟨by simp [body], fun c member => by simpa [inField] using parted.field c member⟩

theorem dot_not_blank {t : Text} (blank : AllBlank t) : '.' ∉ t := fun member => by
  simpa [isBlank] using blank '.' member

theorem ofText_bare {a : Atom} (parted : a.Parted) (text : a.cast = .text)
    (trimmed : Text.trimEnd a.value = a.value) {after : Text} (blank : AllBlank after) :
    ofText (a.body ++ after) = .ok a := by
  have noDot := Text.passes_of_not_mem
    (List.not_mem_append parted.value (dot_not_blank blank))
  rw [ofText, splitRelation?_body parted]
  simp only [List.dropWhile_eq_nil_iff.mpr noDot, List.takeWhile_eq_self_iff.mpr noDot,
    Text.trimEnd_append_of_blank blank, trimmed, ← text]

theorem ofText_cast {a : Atom} (parted : a.Parted) {after : Text} (blank : AllBlank after) :
    ofText (a.body ++ '.' :: a.cast.tag :: after) = .ok a := by
  have pass := Text.passes_of_not_mem parted.value
  have cast : readCast (a.cast.tag :: after) = .ok a.cast :=
    readCast_eq_ok_iff.mpr ⟨after, blank, rfl⟩
  rw [ofText, splitRelation?_body parted]
  simp only [Text.takeWhile_append_stop pass (d := '.') (by simp),
    Text.dropWhile_append_stop pass (d := '.') (by simp), cast]
  rfl

/-- What is read as an atom is sliced as the same atom. -/
theorem slice?_of_ofText {t : Text} {a : Atom} (read : ofText t = .ok a) :
    slice? (Text.trimEnd t) = some a := by
  unfold ofText at read
  split at read
  · simp at read
  · rename_i field relation behind found
    obtain ⟨rfl, pass⟩ := splitRelation?_eq_some_iff.mp found
    have pass' : ∀ c ∈ field, inField c = true := by simpa [inField] using pass
    rw [Text.trimEnd_append_cons (isBlank_symbol relation), slice?_eq_some_iff]
    split at read
    · rename_i all
      rw [Text.takeWhile_of_dropWhile_eq_nil all] at read
      obtain rfl := Except.ok.inj read
      obtain ⟨after, _, parts⟩ := Text.exists_trimEnd behind
      refine ⟨⟨pass', fun member => ?_⟩, .inl ⟨rfl, rfl⟩⟩
      have inside : '.' ∈ behind := by
        rw [parts]
        exact List.mem_append_left _ member
      simpa using List.dropWhile_eq_nil_iff.mp all _ inside
    · rename_i d rest stopped
      obtain ⟨stop, dotFree, parts⟩ := Text.dropWhile_eq_cons_iff.mp stopped
      cases cast : readCast rest with
      | error f => simp [cast, Except.map] at read
      | ok k =>
        rw [cast] at read
        obtain rfl := Except.ok.inj read
        obtain ⟨after, blank, rfl⟩ := readCast_eq_ok_iff.mp cast
        obtain rfl : d = '.' := by simpa using stop
        refine ⟨⟨pass', fun member => by simpa using dotFree _ member⟩, .inr ?_⟩
        generalize behind.takeWhile (· ≠ '.') = value at parts
        have ending := Text.trimEnd_append_cons_blank (s := value ++ ['.']) (isBlank_tag k) blank
        simp only [List.append_assoc, List.singleton_append] at ending
        rw [parts, ending]
        simp [body]

/-- Reading an atom is slicing its text without the blanks at the end. -/
theorem ofText_eq_ok_iff {t : Text} {a : Atom} :
    ofText t = .ok a ↔ slice? (Text.trimEnd t) = some a := by
  refine ⟨slice?_of_ofText, fun sliced => ?_⟩
  obtain ⟨parted, forms⟩ := slice?_eq_some_iff.mp sliced
  obtain ⟨after, blank, parts⟩ := Text.exists_trimEnd t
  rcases forms with ⟨bare, text⟩ | cast
  · have trimmed : Text.trimEnd a.body = a.body := by
      rw [← bare, Text.trimEnd_trimEnd]
    rw [body, Text.trimEnd_append_cons (isBlank_symbol _)] at trimmed
    rw [parts, bare]
    exact ofText_bare parted text (by simpa using trimmed) blank
  · rw [parts, cast, List.append_assoc]
    exact ofText_cast parted blank

end RowSieve.Atom
