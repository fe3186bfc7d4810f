import Mathlib.Data.List.Pairwise
import Mathlib.Tactic.Tauto
import RowSieve.Proofs.Calendar.Opening

/-! Texts with two dates. Two or more of the accepted forms may take the same text; they then find
the same moment in it, save for the two forms with slashes on three short numbers. -/
namespace RowSieve.Calendar

def Slashed (x y z : Nat) (t : Text) : Prop :=
  ∃ a b c, Short x a ∧ Short y b ∧ Short z c ∧ t = a ++ '/' :: (b ++ '/' :: c)

/-- Three short numbers that name one day as year, month and day, and another one as month, day
and year. -/
def Clash (t : Text) : Prop :=
  ∃ x y z, Slashed x y z t ∧ ¬(x = y ∧ y = z) ∧ (Date.ofParts? x y z).isSome ∧
    (Date.ofParts? z x y).isSome

/-- Two forms find the same moment in a text, if both find one. -/
def Agree (t : Text) (f g : Text → Option DateTime) : Prop :=
  ∀ a b, f t = some a → g t = some b → a = b

def readBy (order : List (Text → Option DateTime)) (t : Text) : Option DateTime :=
  let t := Text.trim t
  if t.isEmpty then some .sentinel else order.findSome? (· t)

theorem Date.parts_of_ofParts? {year : Int} {month day : Nat} {d : Date}
    (made : ofParts? year month day = some d) : d.year = year ∧ d.month = month ∧ d.day = day := by
  rw [ofParts?] at made
  split at made
  · split at made
    · obtain rfl := Option.some.inj made
      exact ⟨rfl, rfl, rfl⟩
    · simp at made
  · simp at made

theorem Pattern.date?_of_read {pattern : Pattern} {t : Text} {p : Parts}
    (read : Item.readAll .start t pattern = some p) :
    pattern.date? t = (Date.ofParts? p.year p.month p.day).map .midnight := by
  rw [date?, read, Option.bind_eq_bind, Option.bind_some]
  cases Date.ofParts? p.year p.month p.day <;> rfl

theorem agree_named (t : Text) : Agree t (Pattern.date? .shortName) (Pattern.date? .longName) := by
  intro a b short long
  obtain ⟨p, readShort⟩ := date?_eq_some short
  obtain ⟨q, readLong⟩ := date?_eq_some long
  suffices same : p = q by
    simp only [Pattern.date?, readShort, same] at short
    simp only [Pattern.date?, readLong] at long
    exact Option.some.inj (short.symm.trans long)
  obtain ⟨n, behind, m, others, rest, _, day, name, ending, year⟩ :=
    readAll_named (.inl rfl) readShort
  obtain ⟨n', behind', m', others', rest', tail, day', name', ending', year'⟩ :=
    readAll_named (.inr rfl) readLong
  obtain ⟨rfl, rfl⟩ := Prod.mk.inj (Option.some.inj (day.symm.trans day'))
  obtain ⟨rfl, found⟩ := Prod.mk.inj (Option.some.inj (name.symm.trans name'))
  obtain ⟨rfl, rfl⟩ := Prod.mk.inj found
  obtain rfl := ending.resolve_right (by simp)
  rcases ending' with rfl | ⟨_, more⟩
  · exact Option.some.inj (year.symm.trans year')
  · rw [readAll_year_of_ending name more year] at year'
    exact Option.some.inj (year.symm.trans year')

section
variable {x y z : Nat} {t : Text}

theorem date?_slashes_of_slashed (slashed : Slashed x y z t) :
    Pattern.date? .slashes t = (Date.ofParts? x y z).map .midnight := by
  obtain ⟨a, b, c, first, second, third, rfl⟩ := slashed
  have stop (rest : Text) : Stops ('/' :: rest) := stops_cons (by decide) rest
  have year := year?_of_short first (stop (b ++ '/' :: c))
  have month := (twoDigits?_eq_some_iff (stop c)).mpr ⟨b, second, rfl⟩
  have day := (twoDigits?_eq_some_iff stops_nil).mpr ⟨c, third, (List.append_nil c).symm⟩
  have read : Item.readAll .start (a ++ '/' :: (b ++ '/' :: c)) Pattern.slashes =
      some { Parts.start with year := x, month := y, day := z } := by
    simp [Pattern.slashes, Item.readAll_cons, Item.read, year, month, day, Item.readAll_nil]
  exact Pattern.date?_of_read read

theorem date?_monthFirst_of_slashed (slashed : Slashed x y z t) :
    Pattern.date? .monthFirst t = (Date.ofParts? z x y).map .midnight := by
  obtain ⟨a, b, c, first, second, third, rfl⟩ := slashed
  have stop (rest : Text) : Stops ('/' :: rest) := stops_cons (by decide) rest
  have month := (twoDigits?_eq_some_iff (stop (b ++ '/' :: c))).mpr ⟨a, first, rfl⟩
  have day := (twoDigits?_eq_some_iff (stop c)).mpr ⟨b, second, rfl⟩
  have year := year?_of_short third stops_nil
  rw [List.append_nil] at year
  have read : Item.readAll .start (a ++ '/' :: (b ++ '/' :: c)) Pattern.monthFirst =
      some { Parts.start with year := z, month := x, day := y } := by
    simp [Pattern.monthFirst, Item.readAll_cons, Item.read, year, month, day, Item.readAll_nil]
  exact Pattern.date?_of_read read

/-- A text with slashes that has a month first and a day last holds three short numbers. -/
theorem slashed_of_readAll {p q : Parts} (slashes : Item.readAll .start t Pattern.slashes = some p)
    (monthFirst : Item.readAll .start t Pattern.monthFirst = some q) :
    ∃ x y z, Slashed x y z t := by
  have slash : ('/').isDigit = false := by decide
  obtain ⟨x, a, _, _, first, rfl, behind⟩ := short_of_exactly (.inl rfl) slash monthFirst
  obtain ⟨y, b, rest, _, second, rfl, _⟩ := short_of_exactly (.inr rfl) slash behind
  have year := year?_of_short first (stops_cons slash (b ++ '/' :: rest))
  have month := (twoDigits?_eq_some_iff (stops_cons slash rest)).mpr ⟨b, second, rfl⟩
  simp only [Pattern.slashes, Item.readAll_cons, Item.read, year, month, Option.map_some,
    Option.bind_some, if_true] at slashes
  obtain ⟨_, found, nothing⟩ := Option.bind_eq_some_iff.mp slashes
  obtain ⟨⟨z, left⟩, day, rfl⟩ := Option.map_eq_some_iff.mp found
  obtain rfl : left = [] := by
    by_contra more
    simp [Item.readAll_nil, more] at nothing
  obtain ⟨c, third, parts⟩ := (twoDigits?_eq_some_iff stops_nil).mp day
  rw [List.append_nil] at parts
  exact ⟨x, y, z, a, b, c, first, second, third, by rw [parts]⟩

theorem agree_slashes_iff :
    Agree t (Pattern.date? .slashes) (Pattern.date? .monthFirst) ↔ ¬Clash t := by
  constructor
  · rintro agree ⟨x, y, z, slashed, differ, yearFirst, monthFirst⟩
    obtain ⟨d, made⟩ := Option.isSome_iff_exists.mp yearFirst
    obtain ⟨e, made'⟩ := Option.isSome_iff_exists.mp monthFirst
    have same := agree (.midnight d) (.midnight e)
      (by rw [date?_slashes_of_slashed slashed, made]; rfl)
      (by rw [date?_monthFirst_of_slashed slashed, made']; rfl)
    have same : d = e := congrArg DateTime.date same
    obtain ⟨year, month, day⟩ := Date.parts_of_ofParts? made
    obtain ⟨year', month', day'⟩ := Date.parts_of_ofParts? made'
    rw [← same] at year' month' day'
    exact differ (by omega)
  · intro clear a b slashes monthFirst
    by_contra apart
    obtain ⟨p, read⟩ := date?_eq_some slashes
    obtain ⟨q, read'⟩ := date?_eq_some monthFirst
    obtain ⟨x, y, z, slashed⟩ := slashed_of_readAll read read'
    rw [date?_slashes_of_slashed slashed] at slashes
    rw [date?_monthFirst_of_slashed slashed] at monthFirst
    refine clear ⟨x, y, z, slashed, ?_, ?_, ?_⟩
    · rintro ⟨rfl, rfl⟩
      exact apart (Option.some.inj (slashes.symm.trans monthFirst))
    · obtain ⟨d, made, _⟩ := Option.map_eq_some_iff.mp slashes
      exact Option.isSome_iff_exists.mpr ⟨d, made⟩
    · obtain ⟨d, made, _⟩ := Option.map_eq_some_iff.mp monthFirst
      exact Option.isSome_iff_exists.mpr ⟨d, made⟩

end

/-- The forms with dashes differ in what stands behind the day: nothing, the letter and a time of
day, blanks and a time of day, or a separator, a time of day and more behind it. -/
theorem agree_dashed (t : Text) : dashedForms.Pairwise (Agree t) := by
  have letter : isBlank 'T' = false ∧ ('T').isDigit = false := by decide
  have small : isBlank 't' = false ∧ ('t').isDigit = false := by decide
  simp only [dashedForms, List.pairwise_cons, List.mem_cons, List.not_mem_nil, or_false,
    forall_eq_or_imp, forall_eq, List.Pairwise.nil, and_true, IsEmpty.forall_iff, implies_true]
  refine ⟨⟨?_, ?_, ?_⟩, ⟨?_, ?_⟩, ?_⟩
  · intro a b dashes withLetter
    obtain ⟨p, front⟩ := rest_of_dashes dashes
    obtain ⟨p', rest, q, front', _⟩ := rest_of_withLetter withLetter
    simp [front] at front'
  · intro a b dashes withBlanks
    obtain ⟨p, front⟩ := rest_of_dashes dashes
    obtain ⟨p', rest, q, front', clock⟩ := rest_of_withBlanks withBlanks
    obtain ⟨rfl, rfl⟩ := Prod.mk.inj (Option.some.inj (front.symm.trans front'))
    simp [readOn_clock_nil] at clock
  · intro a b dashes timestamp
    obtain ⟨p, front⟩ := rest_of_dashes dashes
    obtain ⟨p', c, rest, q, zone, front', _⟩ := rest_of_timestamp timestamp
    simp [front] at front'
  · intro a b withLetter withBlanks
    obtain ⟨p, rest, q, front, _⟩ := rest_of_withLetter withLetter
    obtain ⟨p', rest', q', front', clock⟩ := rest_of_withBlanks withBlanks
    obtain ⟨rfl, rfl⟩ := Prod.mk.inj (Option.some.inj (front.symm.trans front'))
    simp [readOn_clock_of_other p letter.1 letter.2] at clock
  · intro a b withLetter timestamp
    obtain ⟨p, rest, q, front, clock⟩ := rest_of_withLetter withLetter
    obtain ⟨p', c, rest', q', zone, front', _, clock', more⟩ := rest_of_timestamp timestamp
    obtain ⟨rfl, same⟩ := Prod.mk.inj (Option.some.inj (front.symm.trans front'))
    obtain ⟨_, rfl⟩ := List.cons.inj same
    simp [clock, more.symm] at clock'
  · intro a b withBlanks timestamp
    obtain ⟨p, rest, q, front, clock⟩ := rest_of_withBlanks withBlanks
    obtain ⟨p', c, rest', q', zone, front', known, clock', more⟩ := rest_of_timestamp timestamp
    obtain ⟨rfl, rfl⟩ := Prod.mk.inj (Option.some.inj (front.symm.trans front'))
    rcases known with rfl | rfl | rfl
    · simp [readOn_clock_of_other p letter.1 letter.2] at clock
    · simp [readOn_clock_of_other p small.1 small.2] at clock
    · rw [← readOn_clock_trimStart, trimStart_space, readOn_clock_trimStart, clock'] at clock
      simp [more] at clock

/-! All forms together. -/

theorem mem_forms_iff {f : Text → Option DateTime} :
    f ∈ forms ↔ f ∈ dashedForms ++ (slashedForms ++ namedForms) := by
  simp only [forms, dashedForms, slashedForms, namedForms, List.mem_append, List.mem_cons,
    List.not_mem_nil, or_false]
  tauto

instance (t : Text) : Std.Symm (Agree t) :=
  ⟨fun _ _ agree a b read read' => (agree b a read' read).symm⟩

theorem agree_self (t : Text) (f : Text → Option DateTime) : Agree t f f :=
  fun _ _ read read' => Option.some.inj (read.symm.trans read')

/-- Only the two forms with slashes can find two dates in one text. -/
theorem agree_forms_iff (t : Text) :
    (∀ f ∈ forms, ∀ g ∈ forms, Agree t f g) ↔ ¬Clash t := by
  constructor
  · intro agree
    exact agree_slashes_iff.mp (agree _ (by simp [forms]) _ (by simp [forms]))
  · intro clear
    have slashed : slashedForms.Pairwise (Agree t) :=
      List.pairwise_pair.mpr (agree_slashes_iff.mpr clear)
    have named : namedForms.Pairwise (Agree t) := List.pairwise_pair.mpr (agree_named t)
    have together : (dashedForms ++ (slashedForms ++ namedForms)).Pairwise (Agree t) := by
      refine List.pairwise_append.mpr ⟨agree_dashed t,
        List.pairwise_append.mpr ⟨slashed, named, ?_⟩, ?_⟩
      · intro f form g form' a b read read'
        exact absurd (opening_of_slashed form read) (opening_of_namedForms form' read').2
      · intro f form g form' a b read read'
        have dash := opening_of_dashed form read
        rcases List.mem_append.mp form' with form' | form'
        · rw [opening_of_slashed form' read'] at dash
          simp at dash
        · exact absurd dash (opening_of_namedForms form' read').1
    intro f form g form'
    exact together.forall_of_forall (fun h _ => agree_self t h) (mem_forms_iff.mp form)
      (mem_forms_iff.mp form')

/-- The order in which functions are tried does not matter exactly when those that give a result
give the same one. -/
theorem findSome?_perm_iff {α β : Type} (fs : List (α → Option β)) (x : α) :
    (∀ order : List (α → Option β), order.Perm fs → order.findSome? (· x) = fs.findSome? (· x)) ↔
      ∀ f ∈ fs, ∀ g ∈ fs, ∀ a b, f x = some a → g x = some b → a = b := by
  constructor
  · intro same f form g form' a b found found'
    have first {f : α → Option β} (form : f ∈ fs) {a : β} (found : f x = some a) :
        fs.findSome? (· x) = some a := by
      obtain ⟨before, after, rfl⟩ := List.append_of_mem form
      rw [← same _ List.perm_middle.symm, List.findSome?_cons, found]
    exact Option.some.inj ((first form found).symm.trans (first form' found'))
  · intro agree order perm
    cases result : fs.findSome? (· x) with
    | none =>
      rw [List.findSome?_eq_none_iff] at result ⊢
      exact fun f form => result f (perm.mem_iff.mp form)
    | some a =>
      obtain ⟨f, form, found⟩ := List.exists_of_findSome?_eq_some result
      cases other : order.findSome? (· x) with
      | none =>
        have nothing := List.findSome?_eq_none_iff.mp other f (perm.mem_iff.mpr form)
        simp [found] at nothing
      | some b =>
        obtain ⟨g, form', found'⟩ := List.exists_of_findSome?_eq_some other
        rw [agree g (perm.mem_iff.mp form') f form b a found' found]

theorem not_clash_nil : ¬Clash [] := by
  rintro ⟨x, y, z, ⟨a, b, c, _, _, _, parts⟩, _⟩
  simp at parts

theorem readBy_eq_read?_iff (t : Text) :
    (∀ order, order.Perm forms → readBy order t = read? t) ↔ ¬Clash (Text.trim t) := by
  by_cases blank : Text.trim t = []
  · simp [readBy, read?, blank, not_clash_nil]
  · rw [← agree_forms_iff]
    have step (order : List (Text → Option DateTime)) :
        readBy order t = order.findSome? (· (Text.trim t)) := by
      simp [readBy, blank]
    have read : read? t = readBy forms t := rfl
    simp only [read, step]
    exact findSome?_perm_iff forms (Text.trim t)

/-- All forms that take a text find the same moment in it, in whatever order they are tried, unless
it is made of three short numbers with slashes between them that can be read both with the year
first and with the month first, as two different days. -/
theorem forms_agree_unless_clash (t : Text) :
    ((∀ f ∈ forms, ∀ g ∈ forms, Agree (Text.trim t) f g) ↔ ¬Clash (Text.trim t)) ∧
      ((∀ order, order.Perm forms → readBy order t = read? t) ↔ ¬Clash (Text.trim t)) :=
  ⟨agree_forms_iff _, readBy_eq_read?_iff t⟩

/-- A year of two digits: the form with the year first takes the text for a day of July in the year
3, and the form with the month first for a day of March in the year 24. -/
theorem two_dates_of_short_year :
    read? "03/07/24".toList =
        some (.midnight ⟨3, 7, 24, by decide, by decide, by decide, by decide⟩) ∧
      Pattern.date? .monthFirst "03/07/24".toList =
        some (.midnight ⟨24, 3, 7, by decide, by decide, by decide, by decide⟩) ∧
      ¬∀ t, ∀ f ∈ forms, ∀ g ∈ forms, Agree (Text.trim t) f g := by
  have yearFirst : Pattern.date? .slashes "03/07/24".toList =
      some (.midnight ⟨3, 7, 24, by decide, by decide, by decide, by decide⟩) := by decide
  have monthFirst : Pattern.date? .monthFirst "03/07/24".toList =
      some (.midnight ⟨24, 3, 7, by decide, by decide, by decide, by decide⟩) := by decide
  refine ⟨by decide, monthFirst, fun agree => ?_⟩
  have same := agree "03/07/24".toList _ (by simp [forms]) _ (by simp [forms]) _ _ yearFirst
    monthFirst
  exact absurd same (by decide)

end RowSieve.Calendar
