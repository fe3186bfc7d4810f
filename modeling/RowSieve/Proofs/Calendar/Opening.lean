import RowSieve.Calendar.Reading
import RowSieve.Proofs.Calendar.Forms

/-! What a form that has taken a text has found in it. The character behind the first number is a
dash, a slash or neither, and tells three families of forms apart; within a family the forms read
the front of the text alike. -/
namespace RowSieve.Calendar

/-- One or two digits that stand for a number, behind any blanks. -/
def Short (n : Nat) (t : Text) : Prop :=
  ∃ lead ds, AllBlank lead ∧ (Figures 1 n ds ∨ Figures 2 n ds) ∧ t = lead ++ ds

/-- No digit stands at the front of what follows a number. -/
def Stops (rest : Text) : Prop := ∀ c ∈ rest.head?, c.isDigit = false

theorem stops_nil : Stops [] := by simp [Stops]

theorem stops_cons {c : Char} (other : c.isDigit = false) (rest : Text) : Stops (c :: rest) := by
  simpa [Stops] using other

theorem twoDigits?_eq_some_iff {n : Nat} {t rest : Text} (stop : Stops rest) :
    twoDigits? t = some (n, rest) ↔ ∃ a, Short n a ∧ t = a ++ rest := by
  constructor
  · intro read
    obtain ⟨lead, blank, parts⟩ := Text.exists_trimStart t
    obtain ⟨width, ds, small, figures, start⟩ := number?_eq_some read
    refine ⟨lead ++ ds, ⟨lead, ds, blank, ?_, rfl⟩, ?_⟩
    · obtain rfl | rfl : width = 0 ∨ width = 1 := by omega
      · exact .inl figures
      · exact .inr figures
    · rw [parts, start, List.append_assoc]
  · rintro ⟨_, ⟨lead, ds, blank, figures, rfl⟩, rfl⟩
    rw [twoDigits?, List.append_assoc, Text.trimStart_append_of_blank blank]
    rcases figures with figures | figures
    · rw [figures.trimStart, figures.number? rest (by decide) (.inr stop)]
    · rw [figures.trimStart, figures.number? rest (by decide) (.inl rfl)]

theorem year?_append_of_blank {lead t : Text} (blank : AllBlank lead) :
    year? (lead ++ t) = year? t := by
  rw [year?, year?, Text.trimStart_append_of_blank blank]

theorem year?_of_short {n : Nat} {a rest : Text} (short : Short n a) (stop : Stops rest) :
    year? (a ++ rest) = some ((n : Int), rest) := by
  obtain ⟨lead, ds, blank, figures, rfl⟩ := short
  rw [List.append_assoc, year?_append_of_blank blank]
  rcases figures with figures | figures
  · exact figures.year? rest (by decide) (.inr stop)
  · exact figures.year? rest (by decide) (.inr stop)

namespace Item

/-- Reads the items one after the other, whatever they leave. -/
def readOn : Parts → Text → List Item → Option (Parts × Text)
  | p, t, [] => some (p, t)
  | p, t, item :: items => (item.read p t).bind fun (p, t) => readOn p t items

theorem readAll_append (p : Parts) (t : Text) (items more : List Item) :
    readAll p t (items ++ more) =
      (readOn p t items).bind fun (p, t) => readAll p t more := by
  induction items generalizing p t with
  | nil => rfl
  | cons item items ih =>
    rw [List.cons_append, readAll_cons, readOn, Option.bind_assoc]
    exact congrArg _ (funext fun (p, t) => ih p t)

theorem readAll_eq_some_iff {p q : Parts} {t : Text} {items : List Item} :
    readAll p t items = some q ↔ readOn p t items = some (q, []) := by
  have all := readAll_append p t items []
  rw [List.append_nil] at all
  rw [all]
  cases readOn p t items with
  | none => simp
  | some read =>
    obtain ⟨r, rest⟩ := read
    simp [readAll_nil, and_comm]

end Item

/-! What stands behind the first number of a text tells the forms apart. -/

def opening (t : Text) : Option Char := (year? t).bind fun (_, rest) => rest.head?

theorem opening_of_short {n : Nat} {c : Char} {t rest : Text} (other : c.isDigit = false)
    (read : twoDigits? t = some (n, c :: rest)) : opening t = some c := by
  have stop := stops_cons other rest
  obtain ⟨a, short, rfl⟩ := (twoDigits?_eq_some_iff stop).mp read
  rw [opening, year?_of_short short stop]
  rfl

theorem opening_of_year {c : Char} {p : Parts} {t : Text} {items : List Item}
    {read : Parts × Text}
    (front : Item.readOn p t (.year :: .exactly c :: items) = some read) : opening t = some c := by
  obtain ⟨_, year, behind⟩ := Option.bind_eq_some_iff.mp front
  obtain ⟨⟨n, rest⟩, found, rfl⟩ := Option.map_eq_some_iff.mp year
  obtain ⟨_, follows, _⟩ := Option.bind_eq_some_iff.mp behind
  rw [opening, found]
  cases rest with
  | nil => simp [Item.read] at follows
  | cons d rest =>
    by_cases same : d = c
    · rw [same]
      rfl
    · simp [Item.read, same] at follows

/-! The forms with the name of a month. -/

theorem letter_of_monthAmong? {t : Text} {found : Nat × Text × Text}
    (read : monthAmong? 1 t monthNames = some found) :
    ∃ c rest, t = c :: rest ∧ c.isAlpha = true := by
  cases t with
  | nil =>
    have nothing : monthAmong? 1 [] monthNames = none := rfl
    simp [nothing] at read
  | cons c rest =>
    refine ⟨c, rest, rfl, ?_⟩
    by_contra other
    rw [monthAmong?_of_other] at read
    · simp at read
    · exact Bool.eq_false_iff.mpr fun letter => other (isAlpha_of_toLower letter)

/-- The letters that would complete a name are those of a name in the table. -/
theorem mem_of_monthAmong? {n m : Nat} {t others rest : Text} {names : List (Text × Text)}
    (read : monthAmong? n t names = some (m, others, rest)) : others ∈ names.map Prod.snd := by
  fun_induction monthAmong? n t names with
  | case1 n => simp at read
  | case2 n letters others' names rest' after =>
    obtain ⟨rfl, rest⟩ := Prod.mk.inj (Option.some.inj read)
    obtain ⟨rfl, rfl⟩ := Prod.mk.inj rest
    exact List.mem_cons_self
  | case3 n letters others' names none ih => exact List.mem_cons_of_mem _ (ih read)

theorem head_of_afterWord? {c : Char} {word t rest : Text} (letter : c.toLower.isAlpha = true)
    (read : afterWord? (c :: word) t = some rest) : ∃ d more, t = d :: more ∧ d.isAlpha = true := by
  cases t with
  | nil => simp [afterWord?, Text.sameLetters] at read
  | cons d more =>
    refine ⟨d, more, rfl, isAlpha_of_toLower ?_⟩
    by_cases same : c.toLower = d.toLower
    · rw [← same]
      exact letter
    · rw [afterWord?_of_head same] at read
      simp at read

theorem year?_of_letter {c : Char} (letter : c.isAlpha = true) (t : Text) :
    year? (c :: t) = none := by
  obtain ⟨dark, other, minus, plus, _⟩ := plain_of_isAlpha letter
  exact year?_of_other dark other ⟨minus, plus⟩ t

/-- The letters of a name that are left over after its first three make no year. -/
theorem readAll_year_of_ending {p q : Parts} {t others rest : Text} {n m : Nat} {u : Text}
    (read : monthAmong? n u monthNames = some (m, others, t))
    (more : afterWord? others t = some rest)
    (year : Item.readAll p t [.blanks, .year] = some q) : rest = t := by
  have letters : (monthNames.map Prod.snd).all (·.all (·.toLower.isAlpha)) = true := by decide
  have known := List.all_eq_true.mp (List.all_eq_true.mp letters _ (mem_of_monthAmong? read))
  cases others with
  | nil => simpa [afterWord?, Text.sameLetters] using more.symm
  | cons c word =>
    obtain ⟨d, t, rfl, letter⟩ := head_of_afterWord? (known c List.mem_cons_self) more
    have dark := (plain_of_isAlpha letter).1
    rw [Item.readAll_blanks, Text.trimStart_cons dark, Item.readAll_cons] at year
    simp [Item.read, year?_of_letter letter] at year

theorem date?_eq_some {pattern : Pattern} {t : Text} {a : DateTime}
    (read : pattern.date? t = some a) : ∃ p, Item.readAll .start t pattern = some p := by
  obtain ⟨p, parts, _⟩ := Option.bind_eq_some_iff.mp read
  exact ⟨p, parts⟩

theorem dateTime?_eq_some {pattern : Pattern} {t : Text} {a : DateTime}
    (read : pattern.dateTime? t = some a) : ∃ p, Item.readAll .start t pattern = some p := by
  obtain ⟨p, parts, _⟩ := Option.bind_eq_some_iff.mp read
  exact ⟨p, parts⟩

/-- A form with a name reads a day, blanks and three letters; the long one may go on to the end of
the name. -/
theorem readAll_named {name : Item} {t : Text} {p : Parts}
    (named : name = .monthShort ∨ name = .monthLong)
    (read : Item.readAll .start t [.day, .blanks, name, .blanks, .year] = some p) :
    ∃ n behind m others rest rest', twoDigits? t = some (n, behind) ∧
      monthAmong? 1 (Text.trimStart behind) monthNames = some (m, others, rest) ∧
      (rest' = rest ∨ name = .monthLong ∧ afterWord? others rest = some rest') ∧
      Item.readAll { Parts.start with day := n, month := m } rest' [.blanks, .year] = some p := by
  rw [Item.readAll_cons] at read
  obtain ⟨_, day, read⟩ := Option.bind_eq_some_iff.mp read
  obtain ⟨⟨n, behind⟩, readDay, rfl⟩ := Option.map_eq_some_iff.mp day
  dsimp only at read
  rw [Item.readAll_blanks, Item.readAll_cons] at read
  obtain ⟨_, found, read⟩ := Option.bind_eq_some_iff.mp read
  rcases named with rfl | rfl
  · obtain ⟨⟨m, others, rest⟩, readName, rfl⟩ := Option.map_eq_some_iff.mp found
    exact ⟨n, behind, m, others, rest, rest, readDay, readName, .inl rfl, read⟩
  · obtain ⟨⟨m, others, rest⟩, readName, rfl⟩ := Option.map_eq_some_iff.mp found
    refine ⟨n, behind, m, others, rest, _, readDay, readName, ?_, read⟩
    cases after : afterWord? others rest with
    | none => exact .inl rfl
    | some rest' => exact .inr ⟨rfl, rfl⟩

theorem opening_of_named {name : Item} {t : Text} {p : Parts}
    (named : name = .monthShort ∨ name = .monthLong)
    (read : Item.readAll .start t [.day, .blanks, name, .blanks, .year] = some p) :
    opening t ≠ some '-' ∧ opening t ≠ some '/' := by
  obtain ⟨n, behind, m, others, rest, _, day, found, _⟩ := readAll_named named read
  obtain ⟨c, tail, start, letter⟩ := letter_of_monthAmong? found
  obtain ⟨_, digit, minus, _, slash⟩ := plain_of_isAlpha letter
  obtain ⟨lead, blank, parts⟩ := Text.exists_trimStart behind
  rw [start] at parts
  cases lead with
  | nil =>
    rw [parts] at day
    rw [opening_of_short digit day]
    exact ⟨by simpa using minus, by simpa using slash⟩
  | cons d lead =>
    rw [parts] at day
    have dark := blank d List.mem_cons_self
    have digit : d.isDigit = false := by
      by_contra digit
      rw [isBlank_digit (by simpa using digit)] at dark
      simp at dark
    rw [opening_of_short digit day]
    constructor
    all_goals
      rintro ⟨⟩
      exact absurd dark (by decide)

/-! The forms with slashes. -/

/-- A month or a day in front of a character that must follow. -/
theorem short_of_exactly {item : Item} {c : Char} {p q : Parts} {t : Text} {items : List Item}
    (number : item = .month ∨ item = .day) (other : c.isDigit = false)
    (read : Item.readAll p t (item :: .exactly c :: items) = some q) :
    ∃ n a rest r, Short n a ∧ t = a ++ c :: rest ∧ Item.readAll r rest items = some q := by
  have step : ∃ n rest r, twoDigits? t = some (n, rest) ∧
      Item.readAll r rest (.exactly c :: items) = some q := by
    rw [Item.readAll_cons] at read
    obtain ⟨_, found, read⟩ := Option.bind_eq_some_iff.mp read
    rcases number with rfl | rfl
    all_goals
      obtain ⟨⟨n, rest⟩, digits, rfl⟩ := Option.map_eq_some_iff.mp found
      exact ⟨n, rest, _, digits, read⟩
  obtain ⟨n, rest, r, digits, read⟩ := step
  cases rest with
  | nil => simp [Item.readAll_cons, Item.read] at read
  | cons d rest =>
    by_cases same : d = c
    · subst same
      rw [Item.readAll_exactly] at read
      obtain ⟨a, short, parts⟩ := (twoDigits?_eq_some_iff (stops_cons other rest)).mp digits
      exact ⟨n, a, rest, r, short, parts, read⟩
    · rw [Item.readAll_other _ same] at read
      simp at read

/-! The forms with dashes. -/

/-- Blanks before the hour are passed over. -/
theorem readOn_clock_trimStart (p : Parts) (t : Text) :
    Item.readOn p (Text.trimStart t) Pattern.clock = Item.readOn p t Pattern.clock := by
  have again : twoDigits? (Text.trimStart t) = twoDigits? t := by
    rw [twoDigits?, twoDigits?, Text.trimStart, Text.trimStart, List.dropWhile_idempotent]
  simp only [Pattern.clock, Item.readOn, Item.read, again]

theorem readOn_clock_of_other (p : Parts) {c : Char} (dark : isBlank c = false)
    (other : c.isDigit = false) (t : Text) :
    Item.readOn p (c :: t) Pattern.clock = none := by
  simp [Pattern.clock, Item.readOn, Item.read, twoDigits?_of_other dark other]

theorem readOn_clock_nil (p : Parts) : Item.readOn p [] Pattern.clock = none := rfl

variable {t : Text} {a : DateTime}

theorem rest_of_dashes (read : Pattern.date? .dashes t = some a) :
    ∃ p, Item.readOn .start t Pattern.dashes = some (p, []) := by
  obtain ⟨p, read⟩ := date?_eq_some read
  exact ⟨p, Item.readAll_eq_some_iff.mp read⟩

theorem rest_of_dashes_append {items : List Item}
    (read : Pattern.dateTime? (Pattern.dashes ++ items) t = some a) :
    ∃ p rest q, Item.readOn .start t Pattern.dashes = some (p, rest) ∧
      Item.readAll p rest items = some q := by
  obtain ⟨q, read⟩ := dateTime?_eq_some read
  rw [Item.readAll_append] at read
  obtain ⟨⟨p, rest⟩, front, read⟩ := Option.bind_eq_some_iff.mp read
  exact ⟨p, rest, q, front, read⟩

theorem rest_of_withLetter (read : Pattern.dateTime? .withLetter t = some a) :
    ∃ p rest q, Item.readOn .start t Pattern.dashes = some (p, 'T' :: rest) ∧
      Item.readOn p rest Pattern.clock = some (q, []) := by
  obtain ⟨p, rest, q, front, read⟩ := rest_of_dashes_append read
  cases rest with
  | nil => simp [Item.readAll_cons, Item.read] at read
  | cons c rest =>
    by_cases letter : c = 'T'
    · subst letter
      rw [Item.readAll_exactly] at read
      exact ⟨p, rest, q, front, Item.readAll_eq_some_iff.mp read⟩
    · rw [Item.readAll_other _ letter] at read
      simp at read

theorem rest_of_withBlanks (read : Pattern.dateTime? .withBlanks t = some a) :
    ∃ p rest q, Item.readOn .start t Pattern.dashes = some (p, rest) ∧
      Item.readOn p rest Pattern.clock = some (q, []) := by
  obtain ⟨p, rest, q, front, read⟩ := rest_of_dashes_append read
  rw [Item.readAll_blanks, Item.readAll_eq_some_iff, readOn_clock_trimStart] at read
  exact ⟨p, rest, q, front, read⟩

section
variable {β : Type} {b : β}

theorem Timestamp.fixed?_bind_eq_some {width : Nat} {next : Nat × Text → Option β}
    (read : (fixed? width t).bind next = some b) :
    ∃ n ds rest, Figures width n ds ∧ t = ds ++ rest ∧ next (n, rest) = some b := by
  obtain ⟨⟨n, rest⟩, digits, read⟩ := Option.bind_eq_some_iff.mp read
  obtain ⟨ds, figures, parts⟩ := fixed?_eq_some digits
  exact ⟨n, ds, rest, figures, parts, read⟩

theorem Timestamp.exactly?_bind_eq_some {c : Char} {next : Text → Option β}
    (read : (exactly? c t).bind next = some b) : ∃ rest, t = c :: rest ∧ next rest = some b := by
  obtain ⟨rest, found, read⟩ := Option.bind_eq_some_iff.mp read
  cases t with
  | nil => simp [exactly?] at found
  | cons d t =>
    by_cases same : d = c
    · simp_all [exactly?]
    · simp [exactly?, same] at found

end

theorem Timestamp.separator?_eq_some {rest : Text} (read : separator? t = some rest) :
    ∃ c, t = c :: rest ∧ (c = 'T' ∨ c = 't' ∨ c = ' ') := by
  unfold separator? at read
  split at read
  · exact ⟨'T', by simpa using read, by simp⟩
  · exact ⟨'t', by simpa using read, by simp⟩
  · exact ⟨' ', by simpa using read, by simp⟩
  · simp at read

theorem readOn_dashes_of_figures {year month day : Nat} {ys ms ds : Text}
    (first : Figures 4 year ys) (second : Figures 2 month ms) (third : Figures 2 day ds)
    (rest : Text) :
    Item.readOn .start (ys ++ '-' :: (ms ++ '-' :: (ds ++ rest))) Pattern.dashes =
      some ({ Parts.start with year := year, month := month, day := day }, rest) := by
  simp only [Pattern.dashes, Item.readOn, Item.read, first.year? _ (by decide) (.inl rfl),
    second.twoDigits?, third.twoDigits?, Option.map_some, Option.bind_some, if_true]

theorem readOn_clock_of_figures (p : Parts) {hour minute second : Nat} {hs ms ss : Text}
    (first : Figures 2 hour hs) (middle : Figures 2 minute ms) (last : Figures 2 second ss)
    (rest : Text) :
    Item.readOn p (hs ++ ':' :: (ms ++ ':' :: (ss ++ rest))) Pattern.clock =
      some ({ p with hour := hour, minute := minute, second := second }, rest) := by
  simp only [Pattern.clock, Item.readOn, Item.read, first.twoDigits?, middle.twoDigits?,
    last.twoDigits?, Option.map_some, Option.bind_some, if_true]

/-- A timestamp has its parts in fixed widths, which the items of a pattern take as well, and goes
on behind its time of day. -/
theorem rest_of_timestamp (read : Timestamp.read? t = some a) :
    ∃ p c rest q zone, Item.readOn .start t Pattern.dashes = some (p, c :: rest) ∧
      (c = 'T' ∨ c = 't' ∨ c = ' ') ∧
      Item.readOn p rest Pattern.clock = some (q, zone) ∧ zone ≠ [] := by
  rw [Timestamp.read?] at read
  obtain ⟨year, ys, _, yearFigures, rfl, afterYear⟩ := Timestamp.fixed?_bind_eq_some read
  obtain ⟨_, rfl, atMonth⟩ := Timestamp.exactly?_bind_eq_some afterYear
  obtain ⟨month, ms, _, monthFigures, rfl, afterMonth⟩ := Timestamp.fixed?_bind_eq_some atMonth
  obtain ⟨_, rfl, atDay⟩ := Timestamp.exactly?_bind_eq_some afterMonth
  obtain ⟨day, ds, _, dayFigures, rfl, afterDay⟩ := Timestamp.fixed?_bind_eq_some atDay
  obtain ⟨_, separator, atHour⟩ := Option.bind_eq_some_iff.mp afterDay
  obtain ⟨c, rfl, known⟩ := Timestamp.separator?_eq_some separator
  obtain ⟨hour, hs, _, hourFigures, rfl, afterHour⟩ := Timestamp.fixed?_bind_eq_some atHour
  obtain ⟨_, rfl, atMinute⟩ := Timestamp.exactly?_bind_eq_some afterHour
  obtain ⟨minute, ns, _, minuteFigures, rfl, afterMinute⟩ := Timestamp.fixed?_bind_eq_some atMinute
  obtain ⟨_, rfl, atSecond⟩ := Timestamp.exactly?_bind_eq_some afterMinute
  obtain ⟨second, ss, zone, secondFigures, rfl, afterSecond⟩ :=
    Timestamp.fixed?_bind_eq_some atSecond
  have present : zone ≠ [] := by
    rintro rfl
    obtain ⟨⟨_, rest⟩, fraction, atZone⟩ := Option.bind_eq_some_iff.mp afterSecond
    obtain ⟨_, rfl⟩ := Prod.mk.inj (Option.some.inj fraction)
    obtain ⟨_, offset, _⟩ := Option.bind_eq_some_iff.mp atZone
    simp [Timestamp.offset?, Timestamp.sign?] at offset
  exact ⟨_, c, _, _, zone, readOn_dashes_of_figures yearFigures monthFigures dayFigures _, known,
    readOn_clock_of_figures _ hourFigures minuteFigures secondFigures zone, present⟩

/-! The three families. -/

/-- The forms with dashes, of which a text has one at most. -/
def dashedForms : List (Text → Option DateTime) :=
  [Pattern.date? .dashes, Pattern.dateTime? .withLetter, Pattern.dateTime? .withBlanks,
    Timestamp.read?]

def slashedForms : List (Text → Option DateTime) :=
  [Pattern.date? .slashes, Pattern.date? .monthFirst]

def namedForms : List (Text → Option DateTime) :=
  [Pattern.date? .shortName, Pattern.date? .longName]

theorem opening_of_dashed {f : Text → Option DateTime} (form : f ∈ dashedForms)
    (read : f t = some a) : opening t = some '-' := by
  have front : ∃ p, Item.readOn .start t Pattern.dashes = some p := by
    simp only [dashedForms, List.mem_cons, List.not_mem_nil, or_false] at form
    rcases form with rfl | rfl | rfl | rfl
    · obtain ⟨p, front⟩ := rest_of_dashes read
      exact ⟨_, front⟩
    · obtain ⟨p, rest, q, front, _⟩ := rest_of_withLetter read
      exact ⟨_, front⟩
    · obtain ⟨p, rest, q, front, _⟩ := rest_of_withBlanks read
      exact ⟨_, front⟩
    · obtain ⟨p, c, rest, q, zone, front, _⟩ := rest_of_timestamp read
      exact ⟨_, front⟩
  obtain ⟨_, front⟩ := front
  exact opening_of_year front

theorem opening_of_slashed {f : Text → Option DateTime} (form : f ∈ slashedForms)
    (read : f t = some a) : opening t = some '/' := by
  simp only [slashedForms, List.mem_cons, List.not_mem_nil, or_false] at form
  rcases form with rfl | rfl
  · obtain ⟨p, slashes⟩ := date?_eq_some read
    exact opening_of_year (Item.readAll_eq_some_iff.mp slashes)
  · obtain ⟨p, monthFirst⟩ := date?_eq_some read
    have slash : ('/').isDigit = false := by decide
    obtain ⟨n, b, rest, _, short, rfl, _⟩ := short_of_exactly (.inl rfl) slash monthFirst
    exact opening_of_short slash ((twoDigits?_eq_some_iff (stops_cons slash rest)).mpr
      ⟨b, short, rfl⟩)

theorem opening_of_namedForms {f : Text → Option DateTime} (form : f ∈ namedForms)
    (read : f t = some a) : opening t ≠ some '-' ∧ opening t ≠ some '/' := by
  simp only [namedForms, List.mem_cons, List.not_mem_nil, or_false] at form
  rcases form with rfl | rfl
  · obtain ⟨p, short⟩ := date?_eq_some read
    exact opening_of_named (.inl rfl) short
  · obtain ⟨p, long⟩ := date?_eq_some read
    exact opening_of_named (.inr rfl) long

end RowSieve.Calendar
