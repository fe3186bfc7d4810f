import Mathlib.Tactic.IntervalCases
import RowSieve.Proofs.Calendar.Figures

/-! What the accepted forms make of the spellings of a date. Every form finds the date in its own
spelling, and a form that is tried before the right one finds nothing, or the same date. -/
namespace RowSieve.Calendar

open DateTime (renderTwo renderYear)

namespace Item

variable {p : Parts} {t rest : Text}

theorem readAll_nil (p : Parts) (t : Text) : readAll p t [] = if t = [] then some p else none := by
  cases t <;> rfl

theorem readAll_cons (p : Parts) (t : Text) (item : Item) (items : List Item) :
    readAll p t (item :: items) = (item.read p t).bind fun (p, t) => readAll p t items := by
  cases t <;> rw [readAll] <;> cases item.read p _ <;> rfl

theorem readAll_exactly (p : Parts) (c : Char) (t : Text) (items : List Item) :
    readAll p (c :: t) (.exactly c :: items) = readAll p t items := by
  simp [readAll_cons, read]

theorem readAll_blanks (p : Parts) (t : Text) (items : List Item) :
    readAll p t (.blanks :: items) = readAll p (Text.trimStart t) items := by
  rw [readAll_cons]
  rfl

theorem readAll_other (p : Parts) {c d : Char} (other : d ≠ c) (t : Text) (items : List Item) :
    readAll p (d :: t) (.exactly c :: items) = none := by
  simp [readAll_cons, read, other]

end Item

theorem year?_of_digit {c : Char} (digit : c.isDigit = true) (t : Text) :
    year? (c :: t) = (number? 4 (c :: t)).map fun (n, rest) => ((n : Int), rest) := by
  rw [year?, Text.trimStart_cons (isBlank_digit digit)]
  split
  · rename_i same
    obtain ⟨rfl, _⟩ := List.cons.inj same
    exact absurd digit (by decide)
  · rename_i same
    obtain ⟨rfl, _⟩ := List.cons.inj same
    exact absurd digit (by decide)
  · rfl

theorem year?_of_other {c : Char} (dark : isBlank c = false) (other : c.isDigit = false)
    (unsigned : c ≠ '-' ∧ c ≠ '+') (t : Text) : year? (c :: t) = none := by
  rw [year?, Text.trimStart_cons dark]
  split
  · rename_i same
    exact absurd (List.cons.inj same).1 unsigned.1
  · rename_i same
    exact absurd (List.cons.inj same).1 unsigned.2
  · simp [number?, takeDigits, other]

theorem twoDigits?_of_other {c : Char} (dark : isBlank c = false) (other : c.isDigit = false)
    (t : Text) : twoDigits? (c :: t) = none := by
  simp [twoDigits?, Text.trimStart_cons dark, number?, takeDigits, other]

namespace Figures

variable {width n : Nat} {ds : Text}

theorem year? (figures : Figures (width + 1) n ds) (rest : Text) (room : width + 1 ≤ 4)
    (stop : width + 1 = 4 ∨ ∀ c ∈ rest.head?, c.isDigit = false) :
    Calendar.year? (ds ++ rest) = some ((n : Int), rest) := by
  have read := figures.number? rest room stop
  obtain ⟨length, digits, _⟩ := figures
  obtain ⟨d, ds, rfl⟩ := List.exists_cons_of_length_eq_add_one length
  rw [List.cons_append] at read ⊢
  rw [year?_of_digit (digits d List.mem_cons_self), read]
  rfl

theorem twoDigits? (figures : Figures 2 n ds) (rest : Text) :
    Calendar.twoDigits? (ds ++ rest) = some (n, rest) := by
  rw [Calendar.twoDigits?, figures.trimStart, figures.number? rest (Nat.le_refl _) (.inl rfl)]

/-- Of more than two digits only two are taken. -/
theorem twoDigits?_cut (figures : Figures (width + 3) n ds) (rest : Text) :
    ∃ m c more, c.isDigit = true ∧ Calendar.twoDigits? (ds ++ rest) = some (m, c :: more) := by
  obtain ⟨length, digits, _⟩ := figures
  match ds, length with
  | a :: b :: c :: ds, _ =>
    have front : ∀ x ∈ [a, b], x.isDigit = true := fun x member => digits x (by
      rcases List.mem_pair.mp member with rfl | rfl <;> simp)
    have cut := (Figures.mk rfl front rfl).twoDigits? (c :: (ds ++ rest))
    exact ⟨_, c, ds ++ rest, digits c (by simp), cut⟩

end Figures

/-! The names of the months. -/

theorem afterWord?_append (word t : Text) : afterWord? word (word ++ t) = some t := by
  simp [afterWord?, Text.sameLetters]

theorem afterWord?_of_head {w c : Char} (differ : w.toLower ≠ c.toLower) (word t : Text) :
    afterWord? (w :: word) (c :: t) = none := by
  simp [afterWord?, Text.sameLetters, differ]

theorem monthAmong?_eq_none {c : Char} {names : List (Text × Text)}
    (differ : ∀ name ∈ names, ∃ w ∈ name.1.head?, w.toLower ≠ c.toLower) (n : Nat) (t : Text) :
    monthAmong? n (c :: t) names = none := by
  induction names generalizing n with
  | nil => rfl
  | cons name names ih =>
    obtain ⟨⟨w, first, here⟩, later⟩ := List.forall_mem_cons.mp differ
    obtain ⟨word, start⟩ := List.head?_eq_some_iff.mp first
    rw [monthAmong?, start, afterWord?_of_head here]
    exact ih later (n + 1)

theorem isAlpha_iff {c : Char} :
    c.isAlpha = true ↔ 65 ≤ c.toNat ∧ c.toNat ≤ 90 ∨ 97 ≤ c.toNat ∧ c.toNat ≤ 122 := by
  change (decide (c.val ≥ 'A'.val ∧ c.val ≤ 'Z'.val) ||
    (decide (c.val ≥ 'a'.val) && decide (c.val ≤ 'z'.val))) = true ↔ _
  simp [UInt32.le_iff_toNat_le]

theorem isAlpha_of_toLower {c : Char} (letter : c.toLower.isAlpha = true) : c.isAlpha = true := by
  by_cases upper : c.val ≥ 'A'.val ∧ c.val ≤ 'Z'.val
  · apply isAlpha_iff.mpr
    exact .inl (by simpa [UInt32.le_iff_toNat_le] using upper)
  · have same : c.toLower = c := dif_neg upper
    rwa [same] at letter

theorem plain_of_isAlpha {c : Char} (letter : c.isAlpha = true) :
    isBlank c = false ∧ c.isDigit = false ∧ c ≠ '-' ∧ c ≠ '+' ∧ c ≠ '/' := by
  have bounds := isAlpha_iff.mp letter
  refine ⟨?_, ?_, ?_, ?_, ?_⟩
  · simp only [isBlank, Bool.or_eq_false_iff, Bool.and_eq_false_iff, decide_eq_false_iff_not,
      beq_eq_false_iff_ne]
    omega
  · simp [Char.isDigit, UInt32.le_iff_toNat_le]
    omega
  all_goals
    rintro rfl
    simp at bounds

/-- No name of a month begins with a character that is no letter. -/
theorem monthAmong?_of_other {c : Char} (other : c.toLower.isAlpha = false) (t : Text) :
    monthAmong? 1 (c :: t) monthNames = none := by
  have letters : ∀ name ∈ monthNames, name.1.head?.any (·.toLower.isAlpha) = true := by decide
  refine monthAmong?_eq_none (fun name member => ?_) 1 t
  obtain ⟨w, first, letter⟩ := (Option.any_eq_true _ _).mp (letters name member)
  exact ⟨w, first, fun same => by simp [same, other] at letter⟩

theorem isAlpha_toLower_digit {c : Char} (digit : c.isDigit = true) :
    c.toLower.isAlpha = false := by
  by_contra letter
  have other := (plain_of_isAlpha (isAlpha_of_toLower (by simpa using letter))).2.1
  simp [digit] at other

def monthEnding (month : Nat) : Text := ((monthNames[month - 1]?).map Prod.snd).getD []

theorem monthAmong?_name {month : Nat} (first : 1 ≤ month) (last : month ≤ 12) (t : Text) :
    monthAmong? 1 ((monthName month).1 ++ t) monthNames = some (month, monthEnding month, t) := by
  interval_cases month <;> rfl

theorem trimStart_blank_monthName {month : Nat} (first : 1 ≤ month) (last : month ≤ 12) (t : Text) :
    Text.trimStart (' ' :: ((monthName month).1 ++ t)) = (monthName month).1 ++ t := by
  interval_cases month <;> rfl

theorem trimStart_space (t : Text) : Text.trimStart (' ' :: t) = Text.trimStart t := rfl

theorem monthEnding_cases (month : Nat) :
    monthEnding month = [] ∨ ∃ c ending, monthEnding month = c :: ending ∧ isBlank c = false ∧
      c.isDigit = false ∧ c ≠ '-' ∧ c ≠ '+' := by
  have known : ∀ name ∈ monthNames, name.2 = [] ∨ name.2.head?.any (fun c =>
      isBlank c = false ∧ c.isDigit = false ∧ c ≠ '-' ∧ c ≠ '+') = true := by decide
  cases found : monthNames[month - 1]? with
  | none => exact .inl (by simp [monthEnding, found])
  | some name =>
    have ending : monthEnding month = name.2 := by simp [monthEnding, found]
    rw [ending]
    refine (known name (List.mem_of_getElem? found)).imp_right fun some => ?_
    obtain ⟨c, first, plain⟩ := (Option.any_eq_true _ _).mp some
    obtain ⟨letters, start⟩ := List.head?_eq_some_iff.mp first
    exact ⟨c, letters, start, of_decide_eq_true plain⟩

theorem monthName_long {month : Nat} (first : 1 ≤ month) (last : month ≤ 12) :
    (monthName month).2 = (monthName month).1 ++ monthEnding month := by
  interval_cases month <;> rfl

/-! The spellings of dates. -/

namespace Date

theorem figures_month (d : Date) : Figures 2 d.month (renderTwo d.month) :=
  figures_renderTwo (Nat.lt_of_le_of_lt d.month_le (by decide))

theorem figures_day (d : Date) : Figures 2 d.day (renderTwo d.day) :=
  figures_renderTwo (Nat.lt_of_le_of_lt (Nat.le_trans d.day_le (daysIn_le _ _)) (by decide))

theorem ofParts?_self {d : Date} (past : 0 ≤ d.year) (small : d.year ≤ 9999) :
    ofParts? d.year d.month d.day = some d := by
  have inside : minYear ≤ d.year ∧ d.year ≤ maxYear := by
    simp only [minYear, maxYear]
    omega
  rw [ofParts?, dif_pos ⟨d.month_pos, d.month_le, d.day_pos, d.day_le⟩, if_pos inside]

/-- What a form has read when it has read a date. -/
def parts (d : Date) : Parts := { Parts.start with year := d.year, month := d.month, day := d.day }

end Date

namespace Pattern

variable {d : Date} {t : Text} {pattern : Pattern}

theorem date?_of_parts (past : 0 ≤ d.year) (small : d.year ≤ 9999)
    (read : Item.readAll .start t pattern = some d.parts) :
    pattern.date? t = some (.midnight d) := by
  simp [date?, read, Date.parts, Date.ofParts?_self past small]

theorem date?_of_none (read : Item.readAll .start t pattern = none) : pattern.date? t = none := by
  simp [date?, read]

theorem dateTime?_of_none (read : Item.readAll .start t pattern = none) :
    pattern.dateTime? t = none := by
  simp [dateTime?, read]

section
variable (past : 0 ≤ d.year) (small : d.year ≤ 9999) (rest : Text)
include past small

theorem year?_renderYear : year? (renderYear d.year ++ rest) = some (d.year, rest) := by
  rw [(figures_renderYear past small).year? rest (by decide) (.inl rfl), Int.toNat_of_nonneg past]

omit rest in
theorem year?_renderYear_last :
    year? (Text.trimStart (renderYear d.year)) = some (d.year, []) := by
  have year := year?_renderYear past small []
  rw [← (figures_renderYear past small).trimStart, List.append_nil] at year
  exact year

/-- A form that begins with a year, a month and a day goes on behind such a date. -/
theorem readAll_yearFirst (c : Char) (items : List Item) :
    Item.readAll .start
        (renderYear d.year ++ c :: renderTwo d.month ++ c :: renderTwo d.day ++ rest)
        (.year :: .exactly c :: .month :: .exactly c :: .day :: items) =
      Item.readAll d.parts rest items := by
  simp only [List.append_assoc, List.cons_append, Item.readAll_cons, Item.read,
    year?_renderYear past small, d.figures_month.twoDigits?, d.figures_day.twoDigits?,
    Option.map_some, Option.bind_some, if_true]
  rfl

theorem readAll_dashes (items : List Item) :
    Item.readAll .start (d.dashes ++ rest) (dashes ++ items) = Item.readAll d.parts rest items :=
  readAll_yearFirst past small rest '-' items

theorem readAll_slashes (items : List Item) :
    Item.readAll .start (d.slashes ++ rest) (slashes ++ items) = Item.readAll d.parts rest items :=
  readAll_yearFirst past small rest '/' items

theorem date?_dashes_more (c : Char) : date? .dashes (d.dashes ++ c :: rest) = none := by
  have read := readAll_dashes past small (c :: rest) []
  rw [List.append_nil] at read
  exact date?_of_none read

theorem date?_slashes_of_dashes : date? .slashes (d.dashes ++ rest) = none := by
  refine date?_of_none ?_
  simp [Date.dashes, slashes, Item.readAll_cons, Item.read, year?_renderYear past small]

theorem date?_dashes_of_slashes : date? .dashes (d.slashes ++ rest) = none := by
  refine date?_of_none ?_
  simp [Date.slashes, dashes, Item.readAll_cons, Item.read, year?_renderYear past small]

/-- A text that begins with a year does not begin with a day and the name of a month, nor with a
month and a slash. -/
theorem date?_of_year_first :
    date? .shortName (renderYear d.year ++ rest) = none ∧
    date? .longName (renderYear d.year ++ rest) = none ∧
    date? .monthFirst (renderYear d.year ++ rest) = none := by
  obtain ⟨n, c, more, digit, cut⟩ := (figures_renderYear past small).twoDigits?_cut rest
  have letter := isAlpha_toLower_digit digit
  have slash : c ≠ '/' := by
    rintro rfl
    exact absurd digit (by decide)
  refine ⟨date?_of_none ?_, date?_of_none ?_, date?_of_none ?_⟩
  · simp [shortName, Item.readAll_cons, Item.read, cut, Text.trimStart_cons (isBlank_digit digit),
      monthAmong?_of_other letter]
  · simp [longName, Item.readAll_cons, Item.read, cut, Text.trimStart_cons (isBlank_digit digit),
      monthAmong?_of_other letter]
  · simp [monthFirst, Item.readAll_cons, Item.read, cut, slash]

end

/-- A text that begins with two digits and then no dash or slash does not begin with a year and
such a character. -/
theorem date?_of_two_first {n : Nat} {ds : Text} (figures : Figures 2 n ds) {c : Char}
    (stop : c.isDigit = false) (rest : Text) :
    (c ≠ '-' → date? .dashes (ds ++ c :: rest) = none) ∧
    (c ≠ '/' → date? .slashes (ds ++ c :: rest) = none) := by
  have year := figures.year? (c :: rest) (by decide)
    (.inr fun _ first => Option.some.inj first ▸ stop)
  refine ⟨fun other => date?_of_none ?_, fun other => date?_of_none ?_⟩
  · simp [dashes, Item.readAll_cons, Item.read, year, other]
  · simp [slashes, Item.readAll_cons, Item.read, year, other]

section
variable (past : 0 ≤ d.year) (small : d.year ≤ 9999)
include past small

theorem readAll_shortName : Item.readAll .start d.shortName shortName = some d.parts := by
  simp only [Date.shortName, shortName, List.append_assoc, List.cons_append, Item.readAll_cons,
    Item.read, d.figures_day.twoDigits?, trimStart_blank_monthName d.month_pos d.month_le,
    monthAmong?_name d.month_pos d.month_le, trimStart_space, year?_renderYear_last past small,
    Option.map_some, Option.bind_some, Item.readAll_nil, if_true]
  rfl

theorem readAll_longName : Item.readAll .start d.longName longName = some d.parts := by
  simp only [Date.longName, longName, monthName_long d.month_pos d.month_le, List.append_assoc,
    List.cons_append, Item.readAll_cons, Item.read, d.figures_day.twoDigits?,
    trimStart_blank_monthName d.month_pos d.month_le, monthAmong?_name d.month_pos d.month_le,
    afterWord?_append, Option.getD_some, trimStart_space, year?_renderYear_last past small,
    Option.map_some, Option.bind_some, Item.readAll_nil, if_true]
  rfl

/-- The long name of a month is its short name, or has letters behind it. -/
theorem readAll_shortName_of_longName :
    Item.readAll .start d.longName shortName = none ∨
      Item.readAll .start d.longName shortName = some d.parts := by
  have rest : Item.readAll .start d.longName shortName =
      Item.readAll { Parts.start with month := d.month, day := d.day }
        (monthEnding d.month ++ ' ' :: renderYear d.year) [.blanks, .year] := by
    simp only [Date.longName, shortName, monthName_long d.month_pos d.month_le, List.append_assoc,
      List.cons_append, Item.readAll_cons, Item.read, d.figures_day.twoDigits?,
      trimStart_blank_monthName d.month_pos d.month_le, monthAmong?_name d.month_pos d.month_le,
      Option.map_some, Option.bind_some]
  rw [rest]
  rcases monthEnding_cases d.month with short | ⟨c, ending, long, dark, other, unsigned⟩
  · right
    simp only [short, List.nil_append, Item.readAll_cons, Item.read, trimStart_space,
      year?_renderYear_last past small, Option.map_some, Option.bind_some, Item.readAll_nil,
      if_true]
    rfl
  · left
    simp [long, Item.readAll_cons, Item.read, Text.trimStart_cons dark,
      year?_of_other dark other unsigned]

theorem readAll_monthFirst : Item.readAll .start d.monthFirst monthFirst = some d.parts := by
  have year := year?_renderYear past small []
  rw [List.append_nil] at year
  simp only [Date.monthFirst, monthFirst, List.append_assoc, List.cons_append, Item.readAll_cons,
    Item.read, d.figures_day.twoDigits?, d.figures_month.twoDigits?, year, Option.map_some,
    Option.bind_some, Item.readAll_nil, if_true]
  rfl

/-- With the month first, what would be the day has four digits, which are too many. -/
theorem date?_slashes_of_monthFirst : date? .slashes d.monthFirst = none := by
  obtain ⟨n, c, more, digit, cut⟩ := (figures_renderYear past small).twoDigits?_cut []
  rw [List.append_nil] at cut
  have year (rest : Text) := d.figures_month.year? ('/' :: rest) (by decide)
    (.inr fun _ first => Option.some.inj first ▸ rfl)
  refine date?_of_none ?_
  simp [Date.monthFirst, slashes, Item.readAll_cons, Item.read, year, d.figures_day.twoDigits?,
    cut, Item.readAll_nil]

end

/-- Behind the month stands a slash and not the name of a month. -/
theorem date?_named_of_monthFirst :
    date? .shortName d.monthFirst = none ∧ date? .longName d.monthFirst = none := by
  have letter : ('/').toLower.isAlpha = false := by decide
  have dark : isBlank '/' = false := by decide
  refine ⟨date?_of_none ?_, date?_of_none ?_⟩
  · simp [Date.monthFirst, shortName, Item.readAll_cons, Item.read, d.figures_month.twoDigits?,
      Text.trimStart_cons dark, monthAmong?_of_other letter]
  · simp [Date.monthFirst, longName, Item.readAll_cons, Item.read, d.figures_month.twoDigits?,
      Text.trimStart_cons dark, monthAmong?_of_other letter]

end Pattern
end RowSieve.Calendar
