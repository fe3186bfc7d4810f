import RowSieve.Proofs.Calendar.Forms
import RowSieve.Proofs.Calendar.Instant

/-! Reading what was spelled: every spelling of a moment, with any blanks around it, is read as that
moment. -/
namespace RowSieve.Calendar

open DateTime (renderTwo renderYear)

namespace DateTime

variable (t : DateTime)

theorem figures_hour : Figures 2 (t.second / 3600) (renderTwo (t.second / 3600)) := by
  have := t.second_lt
  exact figures_renderTwo (by omega)

theorem figures_minute : Figures 2 (t.second / 60 % 60) (renderTwo (t.second / 60 % 60)) :=
  figures_renderTwo (by omega)

theorem figures_second : Figures 2 (t.second % 60) (renderTwo (t.second % 60)) :=
  figures_renderTwo (by omega)

variable {t}

theorem ofClock?_self (whole : t.nano = 0) :
    ofClock? t.date (t.second / 3600) (t.second / 60 % 60) (t.second % 60) 0 = some t := by
  have := t.second_lt
  rw [ofClock?, dif_pos (by omega), dif_neg (by omega)]
  obtain ⟨date, second, nano, second_lt, nano_lt⟩ := t
  obtain rfl : nano = 0 := whole
  simp only [Option.some.injEq, mk.injEq, true_and, and_true]
  omega

end DateTime

def DateTime.parts (t : DateTime) : Parts :=
  { t.date.parts with
    hour := t.second / 3600
    minute := t.second / 60 % 60
    second := t.second % 60 }

namespace Pattern

variable {t : DateTime}

theorem readAll_clock (rest : Text) :
    Item.readAll t.date.parts (t.clockText ++ rest) clock =
      if rest = [] then some t.parts else none := by
  simp only [DateTime.clockText, clock, List.append_assoc, List.cons_append, Item.readAll_cons,
    Item.read, t.figures_hour.twoDigits?, t.figures_minute.twoDigits?, t.figures_second.twoDigits?,
    Option.map_some, Option.bind_some, if_true, Item.readAll_nil]
  rfl

theorem dateTime?_of_parts {pattern : Pattern} {text : Text} (plain : t.Plain)
    (read : Item.readAll .start text pattern = some t.parts) :
    pattern.dateTime? text = some t := by
  obtain ⟨past, small, whole⟩ := plain
  have date : Date.ofParts? t.parts.year t.parts.month t.parts.day = some t.date :=
    Date.ofParts?_self past small
  have time : DateTime.ofClock? t.date t.parts.hour t.parts.minute t.parts.second 0 = some t :=
    DateTime.ofClock?_self whole
  simp [dateTime?, read, date, time]

end Pattern

theorem Timestamp.exactly?_self (c : Char) (t : Text) : exactly? c (c :: t) = some t := if_pos rfl

theorem Timestamp.read?_zone {t : DateTime} (plain : t.Plain) {zone : Text} {seconds : Int}
    (unbroken : zone.head? ≠ some '.') (offset : offset? zone = some (seconds, [])) :
    Timestamp.read? (t.date.dashes ++ 'T' :: (t.clockText ++ zone)) = some (t.earlier seconds) := by
  obtain ⟨past, small, whole⟩ := plain
  have year := (figures_renderYear past small).fixed?
  have date : Date.ofParts? (t.date.year.toNat : Int) t.date.month t.date.day = some t.date := by
    rw [Int.toNat_of_nonneg past, Date.ofParts?_self past small]
  have next {α β : Type} (a : α) (f : α → Option β) : (some a >>= f) = f a := rfl
  have separator (t : Text) : separator? ('T' :: t) = some t := rfl
  have fraction : fraction? zone = some (0, zone) := by
    unfold fraction?
    split
    · simp at unbroken
    · rfl
  -- Each part is read in its turn; simplifying all parts at once would take very long.
  rw [Timestamp.read?]
  simp only [Date.dashes, DateTime.clockText, List.append_assoc, List.cons_append]
  rw [year, next, exactly?_self, next, t.date.figures_month.fixed?, next, exactly?_self, next,
    t.date.figures_day.fixed?, next, separator, next, t.figures_hour.fixed?, next, exactly?_self,
    next, t.figures_minute.fixed?, next, exactly?_self, next, t.figures_second.fixed?, next,
    fraction, next, offset, next, List.isEmpty_nil, if_pos rfl, date, next,
    DateTime.ofClock?_self whole, next]

theorem offset?_text (o : Offset) : Timestamp.offset? o.text = some (o.seconds, []) := by
  obtain ⟨behind, minutes, minutes_lt⟩ := o
  have hours := (figures_renderTwo (show minutes / 60 < 100 by omega)).fixed?
  have rest := (figures_renderTwo (show minutes % 60 < 100 by omega)).fixed? []
  have bounds : minutes / 60 < 24 ∧ minutes % 60 < 60 := by omega
  rw [List.append_nil] at rest
  cases behind with
  | false =>
    simp [Offset.text, Timestamp.offset?, Timestamp.sign?, hours, rest, Timestamp.exactly?, bounds,
      Offset.seconds]
    omega
  | true =>
    simp [Offset.text, Timestamp.offset?, Timestamp.sign?, hours, rest, Timestamp.exactly?, bounds,
      Offset.seconds]
    omega

/-! The forms in the order in which they are tried. -/

section
variable {d : Date} (past : 0 ≤ d.year) (small : d.year ≤ 9999)
include past small

theorem forms_dashes : forms.findSome? (· d.dashes) = some (.midnight d) := by
  have read := Pattern.readAll_dashes past small [] []
  rw [List.append_nil, List.append_nil] at read
  simp only [forms, List.findSome?_cons, Pattern.date?_of_parts past small read]

theorem forms_slashes : forms.findSome? (· d.slashes) = some (.midnight d) := by
  have dashes := Pattern.date?_dashes_of_slashes past small []
  have read := Pattern.readAll_slashes past small [] []
  rw [List.append_nil] at dashes
  rw [List.append_nil, List.append_nil] at read
  simp only [forms, List.findSome?_cons, dashes, Pattern.date?_of_parts past small read]

theorem forms_shortName : forms.findSome? (· d.shortName) = some (.midnight d) := by
  have begun : d.shortName =
      renderTwo d.day ++ ' ' :: ((monthName d.month).1 ++ ' ' :: renderYear d.year) := by
    simp [Date.shortName]
  obtain ⟨dashes, slashes⟩ := begun ▸ Pattern.date?_of_two_first d.figures_day
    (show (' ').isDigit = false by decide) ((monthName d.month).1 ++ ' ' :: renderYear d.year)
  have read := Pattern.readAll_shortName past small
  simp only [forms, List.findSome?_cons, dashes (by decide), slashes (by decide),
    Pattern.date?_of_parts past small read]

theorem forms_longName : forms.findSome? (· d.longName) = some (.midnight d) := by
  have begun : d.longName =
      renderTwo d.day ++ ' ' :: ((monthName d.month).2 ++ ' ' :: renderYear d.year) := by
    simp [Date.longName]
  obtain ⟨dashes, slashes⟩ := begun ▸ Pattern.date?_of_two_first d.figures_day
    (show (' ').isDigit = false by decide) ((monthName d.month).2 ++ ' ' :: renderYear d.year)
  have read := Pattern.readAll_longName past small
  simp only [forms, List.findSome?_cons, dashes (by decide), slashes (by decide)]
  rcases Pattern.readAll_shortName_of_longName past small with short | short
  · simp only [Pattern.date?_of_none short, Pattern.date?_of_parts past small read]
  · simp only [Pattern.date?_of_parts past small short]

theorem forms_monthFirst : forms.findSome? (· d.monthFirst) = some (.midnight d) := by
  have begun : d.monthFirst =
      renderTwo d.month ++ '/' :: (renderTwo d.day ++ '/' :: renderYear d.year) := by
    simp [Date.monthFirst]
  obtain ⟨dashes, _⟩ := begun ▸ Pattern.date?_of_two_first d.figures_month
    (show ('/').isDigit = false by decide) (renderTwo d.day ++ '/' :: renderYear d.year)
  obtain ⟨shortName, longName⟩ := Pattern.date?_named_of_monthFirst (d := d)
  have read := Pattern.readAll_monthFirst past small
  simp only [forms, List.findSome?_cons, dashes (by decide),
    Pattern.date?_slashes_of_monthFirst past small, shortName, longName,
    Pattern.date?_of_parts past small read]

/-- Behind a date with dashes there is something that no form of a date alone takes. -/
theorem forms_dashes_more (c : Char) (rest : Text) :
    forms.findSome? (· (d.dashes ++ c :: rest)) =
      [Pattern.dateTime? .withLetter, Pattern.dateTime? .withBlanks, Timestamp.read?].findSome?
        (· (d.dashes ++ c :: rest)) := by
  obtain ⟨shortName, longName, monthFirst⟩ := Pattern.date?_of_year_first past small
    ('-' :: (renderTwo d.month ++ '-' :: (renderTwo d.day ++ c :: rest)))
  have begun : d.dashes ++ c :: rest = renderYear d.year ++
      ('-' :: (renderTwo d.month ++ '-' :: (renderTwo d.day ++ c :: rest))) := by
    simp [Date.dashes]
  rw [← begun] at shortName longName monthFirst
  simp only [forms, List.findSome?_cons, Pattern.date?_dashes_more past small,
    Pattern.date?_slashes_of_dashes past small, shortName, longName, monthFirst]

end

section
variable {t : DateTime} (plain : t.Plain)
include plain

theorem forms_withLetter : forms.findSome? (· (t.date.dashes ++ 'T' :: t.clockText)) = some t := by
  have read : Item.readAll .start (t.date.dashes ++ 'T' :: t.clockText) Pattern.withLetter =
      some t.parts := by
    rw [Pattern.withLetter, Pattern.readAll_dashes plain.1 plain.2.1, Item.readAll_exactly,
      ← List.append_nil t.clockText, Pattern.readAll_clock, if_pos rfl]
  rw [forms_dashes_more plain.1 plain.2.1]
  simp only [List.findSome?_cons, Pattern.dateTime?_of_parts plain read]

theorem forms_withSpace : forms.findSome? (· (t.date.dashes ++ ' ' :: t.clockText)) = some t := by
  have letter : Pattern.dateTime? .withLetter (t.date.dashes ++ ' ' :: t.clockText) = none := by
    refine Pattern.dateTime?_of_none ?_
    rw [Pattern.withLetter, Pattern.readAll_dashes plain.1 plain.2.1,
      Item.readAll_other _ (by decide)]
  have started : Text.trimStart (' ' :: t.clockText) = t.clockText := by
    rw [trimStart_space, DateTime.clockText, List.append_assoc, t.figures_hour.trimStart]
  have read : Item.readAll .start (t.date.dashes ++ ' ' :: t.clockText) Pattern.withBlanks =
      some t.parts := by
    rw [Pattern.withBlanks, Pattern.readAll_dashes plain.1 plain.2.1, Item.readAll_blanks,
      started, ← List.append_nil t.clockText, Pattern.readAll_clock, if_pos rfl]
  rw [forms_dashes_more plain.1 plain.2.1]
  simp only [List.findSome?_cons, letter, Pattern.dateTime?_of_parts plain read]

theorem forms_timestamp {zone : Text} {seconds : Int} (some : zone ≠ [])
    (unbroken : zone.head? ≠ .some '.') (offset : Timestamp.offset? zone = .some (seconds, [])) :
    forms.findSome? (· (t.date.dashes ++ 'T' :: (t.clockText ++ zone))) =
      .some (t.earlier seconds) := by
  have letter : Pattern.dateTime? .withLetter
      (t.date.dashes ++ 'T' :: (t.clockText ++ zone)) = none := by
    refine Pattern.dateTime?_of_none ?_
    rw [Pattern.withLetter, Pattern.readAll_dashes plain.1 plain.2.1, Item.readAll_exactly,
      Pattern.readAll_clock, if_neg some]
  have blanks : Pattern.dateTime? .withBlanks
      (t.date.dashes ++ 'T' :: (t.clockText ++ zone)) = none := by
    refine Pattern.dateTime?_of_none ?_
    have dark : isBlank 'T' = false := by decide
    rw [Pattern.withBlanks, Pattern.readAll_dashes plain.1 plain.2.1]
    simp [Pattern.clock, Item.readAll_cons, Item.read, Text.trimStart_cons dark,
      twoDigits?_of_other dark (by decide)]
  rw [forms_dashes_more plain.1 plain.2.1]
  simp only [List.findSome?_cons, letter, blanks, Timestamp.read?_zone plain unbroken offset]

end

theorem DateTime.eq_midnight {t : DateTime} (start : t.second = 0) (whole : t.nano = 0) :
    t = .midnight t.date := by
  obtain ⟨date, second, nano, second_lt, nano_lt⟩ := t
  obtain rfl : second = 0 := start
  obtain rfl : nano = 0 := whole
  rfl

theorem Offset.seconds_bounds (o : Offset) : -86400 < o.seconds ∧ o.seconds < 86400 := by
  have := o.minutes_lt
  unfold seconds
  split <;> omega

theorem Spelling.ahead_bounds (s : Spelling) : -86400 < s.ahead ∧ s.ahead < 86400 := by
  cases s with
  | offset o => exact o.seconds_bounds
  | _ => exact ⟨by decide, by decide⟩

/-- The forms take every spelling back to UTC. -/
theorem forms_text {s : Spelling} {wall : DateTime} (plain : wall.Plain)
    (midnight : s.dateOnly = true → wall.second = 0) :
    forms.findSome? (· (s.text wall)) = some (wall.earlier s.ahead) := by
  have still : wall.earlier 0 = wall :=
    DateTime.eq_of_instant
      (by rw [DateTime.instant_earlier _ (by decide) (by decide), Int.sub_zero])
      (DateTime.nano_earlier wall 0)
  have date (only : s.dateOnly = true) : .midnight wall.date = wall.earlier 0 := by
    rw [still, ← DateTime.eq_midnight (midnight only) plain.2.2]
  cases s with
  | dashes => exact (forms_dashes plain.1 plain.2.1).trans (congrArg some (date rfl))
  | slashes => exact (forms_slashes plain.1 plain.2.1).trans (congrArg some (date rfl))
  | shortName => exact (forms_shortName plain.1 plain.2.1).trans (congrArg some (date rfl))
  | longName => exact (forms_longName plain.1 plain.2.1).trans (congrArg some (date rfl))
  | monthFirst => exact (forms_monthFirst plain.1 plain.2.1).trans (congrArg some (date rfl))
  | withLetter => exact (forms_withLetter plain).trans (congrArg some still.symm)
  | withSpace => exact (forms_withSpace plain).trans (congrArg some still.symm)
  | utc =>
    have zone : Timestamp.offset? ['Z'] = some (0, []) := rfl
    have read := forms_timestamp plain (by decide) (by decide) zone
    simpa [Spelling.text, Spelling.ahead] using read
  | offset o =>
    have sign : o.text.head? = some (if o.behind then '-' else '+') := rfl
    have unbroken : o.text.head? ≠ some '.' := by
      rw [sign]
      split <;> decide
    have read := forms_timestamp plain (by simp [Offset.text]) unbroken (offset?_text o)
    simpa [Spelling.text, Spelling.ahead] using read

/-! No spelling begins or ends with a blank. -/

/-- A text that trimming leaves as it is. -/
structure Dark (t : Text) : Prop where
  some : t ≠ []
  first : ∀ c ∈ t.head?, isBlank c = false
  last : ∀ c ∈ t.getLast?, isBlank c = false

theorem Dark.join {s t : Text} (left : Dark s) (mid : Text) (right : Dark t) :
    Dark (s ++ (mid ++ t)) where
  some := by simp [left.some]
  first c begins := by
    rw [List.head?_append_of_ne_nil _ left.some] at begins
    exact left.first c begins
  last c ends := by
    rw [← List.append_assoc, List.getLast?_append_of_ne_nil _ right.some] at ends
    exact right.last c ends

theorem dark_singleton {c : Char} (dark : isBlank c = false) : Dark [c] :=
  ⟨by simp, by simpa using dark, by simpa using dark⟩

theorem Figures.dark {width n : Nat} {ds : Text} (figures : Figures (width + 1) n ds) :
    Dark ds where
  some := by
    rintro rfl
    simpa using figures.length
  first c begins := isBlank_digit (figures.digits c (List.mem_of_mem_head? begins))
  last c ends := isBlank_digit (figures.digits c (List.mem_of_getLast? ends))

theorem dark_text (s : Spelling) {wall : DateTime} (plain : wall.Plain) : Dark (s.text wall) := by
  have year := (figures_renderYear plain.1 plain.2.1).dark
  have month := wall.date.figures_month.dark
  have day := wall.date.figures_day.dark
  have dashes : Dark wall.date.dashes := (year.join ['-'] month).join ['-'] day
  have clock : Dark wall.clockText :=
    (wall.figures_hour.dark.join [':'] wall.figures_minute.dark).join [':'] wall.figures_second.dark
  have joined (c : Char) : Dark (wall.date.dashes ++ c :: wall.clockText) := dashes.join [c] clock
  have named (name : Text) :
      Dark (renderTwo wall.date.day ++ ' ' :: name ++ ' ' :: renderYear wall.date.year) := by
    simpa using day.join (' ' :: (name ++ [' '])) year
  cases s with
  | dashes => exact dashes
  | slashes => exact (year.join ['/'] month).join ['/'] day
  | shortName => exact named _
  | longName => exact named _
  | monthFirst => exact (month.join ['/'] day).join ['/'] year
  | withLetter => exact joined 'T'
  | withSpace => exact joined ' '
  | utc => exact (joined 'T').join [] (dark_singleton (by decide))
  | offset o =>
    have minutes := (figures_renderTwo (show o.minutes % 60 < 100 by omega)).dark
    have sign : isBlank (if o.behind then '-' else '+') = false := by
      cases o.behind <;> decide
    have zone : Dark o.text := by
      simpa [Offset.text] using
        (dark_singleton sign).join (renderTwo (o.minutes / 60) ++ [':']) minutes
    exact (joined 'T').join [] zone

theorem read?_of_spells {text : Text} {t : DateTime} (spells : Spells text t) :
    read? text = some t := by
  obtain ⟨s, wall, lead, trail, shows, blank, blank', rfl⟩ := spells
  have dark := dark_text s shows.plain
  have found := forms_text shows.plain shows.midnight
  have back : wall.earlier s.ahead = t := by
    obtain ⟨behind, before⟩ := s.ahead_bounds
    apply DateTime.eq_of_instant
    · rw [DateTime.instant_earlier _ before behind, shows.ahead, Int.add_sub_cancel]
    · rw [DateTime.nano_earlier, shows.plain.2.2, shows.moment_plain.2.2]
  rw [read?, Text.trim_append_of_blank blank blank', Text.trim_eq_self dark.first dark.last]
  simp only [List.isEmpty_iff, dark.some, if_false, found, back]

end RowSieve.Calendar
