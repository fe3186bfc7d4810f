import RowSieve.Chain.Grammar
import RowSieve.Proofs.Outcome
import RowSieve.Proofs.Text.Cut
import RowSieve.Proofs.Text.Trim

/-! Reading a chain accepts its written forms and nothing else. -/
namespace RowSieve

namespace Step

theorem fieldFits_iff {field : Text} :
    FieldFits field ↔
      (∃ c rest, field = c :: rest ∧ isBlank c = false) ∧ ∀ c ∈ field, inField c = true := by
  constructor
  · rintro ⟨begins, no_equals, no_end⟩
    exact ⟨begins, by grind [inField]⟩
  · rintro ⟨begins, inside⟩
    exact ⟨begins, by grind [inField], by grind [inField]⟩

theorem readValue_eq_ok_iff {field t rest : Text} {step : Step} :
    readValue field t = .ok (step, rest) ↔
      ∃ value, step = .set field value ∧ ';' ∉ value ∧ t = value ++ ';' :: rest := by
  rw [readValue]
  constructor
  · intro read
    split at read
    · simp at read
    · rename_i d rest' stopped
      obtain ⟨stop, pass, parts⟩ := Text.dropWhile_eq_cons_iff.mp stopped
      obtain ⟨rfl, rfl⟩ := Prod.mk.inj (Except.ok.inj read)
      obtain rfl : d = ';' := by simpa using stop
      exact ⟨_, rfl, fun member => by simpa using pass _ member, parts⟩
  · rintro ⟨value, rfl, absent, rfl⟩
    have pass := Text.passes_of_not_mem absent
    rw [Text.takeWhile_append_stop pass (by simp), Text.dropWhile_append_stop pass (by simp)]

theorem readSet_eq_ok_iff {t rest : Text} {step : Step} :
    readSet t = .ok (step, rest) ↔
      ∃ field value, step = .set field value ∧ field ≠ [] ∧ (∀ c ∈ field, inField c = true) ∧
        ';' ∉ value ∧ t = field ++ '=' :: value ++ ';' :: rest := by
  simp only [readSet]
  constructor
  · intro read
    split at read
    · simp at read
    · rename_i present
      split at read
      · rename_i behind stopped
        obtain ⟨_, pass, parts⟩ := Text.dropWhile_eq_cons_iff.mp stopped
        obtain ⟨value, rfl, absent, rfl⟩ := readValue_eq_ok_iff.mp read
        refine ⟨_, value, rfl, by simpa using present, pass, absent, ?_⟩
        simpa using parts
      · simp at read
  · rintro ⟨field, value, rfl, present, pass, absent, rfl⟩
    rw [List.append_assoc, List.cons_append, Text.takeWhile_append_stop pass (by decide),
      Text.dropWhile_append_stop pass (by decide), if_neg (by simpa using present)]
    exact readValue_eq_ok_iff.mpr ⟨value, rfl, absent, rfl⟩

theorem read_eq_ok_iff {t rest : Text} {step : Step} :
    Step.read t = .ok (step, rest) ↔
      ∃ inner, AllBlank inner ∧ (step = .print → inner = []) ∧ step.Fits ∧
        t = Placed.own ⟨step, inner, []⟩ ++ rest := by
  constructor
  · intro read
    unfold Step.read at read
    split at read
    · obtain ⟨rfl, rfl⟩ := Prod.mk.inj (Except.ok.inj read)
      exact ⟨[], allBlank_nil, fun _ => rfl, trivial, rfl⟩
    · simp at read
    · rename_i behind
      obtain ⟨inner, blank, parts⟩ := Text.exists_trimStart behind
      obtain ⟨field, value, rfl, present, pass, absent, start⟩ := readSet_eq_ok_iff.mp read
      obtain ⟨c, field, rfl⟩ := List.exists_cons_of_ne_nil present
      have dark := Text.dark_of_trimStart start
      refine ⟨inner, blank, nofun, ⟨fieldFits_iff.mpr ⟨⟨c, field, rfl, dark⟩, pass⟩, absent⟩, ?_⟩
      rw [parts, start]
      simp [Placed.own]
    · simp at read
  · rintro ⟨inner, blank, noInner, fits, rfl⟩
    cases step with
    | print => rfl
    | set field value =>
      obtain ⟨fieldFits, absent⟩ := fits
      obtain ⟨⟨c, field', rfl, dark⟩, pass⟩ := fieldFits_iff.mp fieldFits
      have start : Text.trimStart (inner ++ c :: field' ++ '=' :: value ++ [';'] ++ rest) =
          (c :: field') ++ '=' :: value ++ ';' :: rest := by
        simp [Text.trimStart_append_of_blank blank, Text.trimStart_cons dark]
      have read := readSet_eq_ok_iff.mpr ⟨_, value, rfl, List.cons_ne_nil _ _, pass, absent, start⟩
      exact read

theorem read_own {s : Placed} (formed : s.WellFormed) (rest : Text) :
    Step.read (s.own ++ rest) = .ok (s.step, rest) :=
  read_eq_ok_iff.mpr ⟨s.inner, formed.inner_blank, formed.inner_print, formed.fits, rfl⟩

/-- A step begins with a letter. -/
theorem Placed.own_begins (p : Placed) : ∃ c rest, p.own = c :: rest ∧ isBlank c = false := by
  unfold Placed.own
  split
  · exact ⟨'p', _, rfl, by decide⟩
  · exact ⟨'s', _, rfl, by decide⟩

end Step

namespace Chain

theorem text_cons (before : Text) (s : Step.Placed) (more : List Step.Placed) :
    Placed.text ⟨before, s :: more⟩ = before ++ (s.own ++ Placed.text ⟨s.after, more⟩) := by
  simp [Placed.text, Step.Placed.text]

theorem trimStart_text_cons {before : Text} (blank : AllBlank before) (s : Step.Placed)
    (more : List Step.Placed) (rest : Text) :
    Text.trimStart (Placed.text ⟨before, s :: more⟩ ++ rest) =
      s.own ++ (Placed.text ⟨s.after, more⟩ ++ rest) := by
  obtain ⟨c, letters, own, dark⟩ := s.own_begins
  rw [text_cons, List.append_assoc, List.append_assoc, Text.trimStart_append_of_blank blank, own]
  exact Text.trimStart_cons dark

theorem read_end {room : Nat} {t : Text} (nothing : Text.trimStart t = []) :
    read room t = .ok [] := by
  unfold read
  simp only [nothing]

theorem read_full {t rest : Text} {c : Char} (start : Text.trimStart t = c :: rest) :
    read 0 t = .error ⟨.chainTooLong, c :: rest⟩ := by
  unfold read
  simp only [start]

theorem read_step {room : Nat} {t rest : Text} {c : Char} (start : Text.trimStart t = c :: rest) :
    read (room + 1) t = (do
      let (step, t) ← Step.read (c :: rest)
      let steps ← read room t
      return step :: steps) := by
  rw [read]
  simp only [start]

theorem read_blanks {before : Text} (blank : AllBlank before) (room : Nat) (t : Text) :
    read room (before ++ t) = read room t := by
  rw [read, read, Text.trimStart_append_of_blank blank]

theorem read_own_cons {room : Nat} {s : Step.Placed} {t rest : Text} (formed : s.WellFormed)
    (start : Text.trimStart t = s.own ++ rest) :
    read (room + 1) t = (read room rest).map (s.step :: ·) := by
  obtain ⟨c, letters, own, _⟩ := s.own_begins
  have readHead := Step.read_own formed rest
  rw [own, List.cons_append] at start readHead
  rw [read_step start, readHead]
  change (read room rest >>= fun steps => pure (s.step :: steps)) = _
  cases read room rest <;> rfl

/-- Steps written with blanks around them are read off a text, and then it goes on with what stands
behind them and with the room they leave. -/
theorem read_append_placed {before : Text} {steps : List Step.Placed} (blank : AllBlank before)
    (formed : ∀ s ∈ steps, s.WellFormed) (room : Nat) (rest : Text) :
    read (steps.length + room) (Placed.text ⟨before, steps⟩ ++ rest) =
      (read room rest).map (Placed.chain ⟨before, steps⟩ ++ ·) := by
  induction steps generalizing before with
  | nil =>
    have shape : Placed.text ⟨before, []⟩ ++ rest = before ++ rest := by simp [Placed.text]
    rw [shape, read_blanks blank, List.length_nil, Nat.zero_add]
    cases read room rest <;> rfl
  | cons s more ih =>
    have head := formed s List.mem_cons_self
    have readMore := ih head.after_blank fun p member => formed p (List.mem_cons_of_mem _ member)
    rw [List.length_cons, Nat.add_right_comm,
      read_own_cons head (trimStart_text_cons blank s more rest), readMore]
    cases read room rest <;> rfl

/-- Steps written with blanks around them are read, as long as there is room for them. -/
theorem read_placed {room : Nat} {before : Text} {steps : List Step.Placed}
    (blank : AllBlank before) (formed : ∀ s ∈ steps, s.WellFormed) (short : steps.length ≤ room) :
    read room (Placed.text ⟨before, steps⟩) = .ok (Placed.chain ⟨before, steps⟩) := by
  obtain ⟨left, rfl⟩ := Nat.exists_eq_add_of_le short
  have whole := read_append_placed blank formed left []
  rw [List.append_nil, read_end (t := []) rfl] at whole
  simpa [Except.map] using whole

theorem placed_of_blank {room : Nat} {t : Text} {c : Chain} (nothing : Text.trimStart t = [])
    (ok : read room t = .ok c) :
    ∃ p : Placed, AllBlank p.before ∧ (∀ s ∈ p.steps, s.WellFormed) ∧ p.steps.length ≤ room ∧
      p.text = t ∧ p.chain = c := by
  rw [read_end nothing] at ok
  exact ⟨⟨t, []⟩, Text.trimStart_eq_nil_iff.mp nothing, by simp, by simp, by simp [Placed.text],
    Except.ok.inj ok⟩

/-- What is read as a chain was written in this way. -/
theorem placed_of_read {room : Nat} {t : Text} {c : Chain} (ok : read room t = .ok c) :
    ∃ p : Placed, AllBlank p.before ∧ (∀ s ∈ p.steps, s.WellFormed) ∧ p.steps.length ≤ room ∧
      p.text = t ∧ p.chain = c := by
  induction room generalizing t c with
  | zero =>
    cases start : Text.trimStart t with
    | nil => exact placed_of_blank start ok
    | cons d rest => simp [read_full start] at ok
  | succ room ih =>
    obtain ⟨before, blank, parts⟩ := Text.exists_trimStart t
    cases start : Text.trimStart t with
    | nil => exact placed_of_blank start ok
    | cons d rest =>
      rw [read_step start] at ok
      obtain ⟨⟨step, behind⟩, readHead, ok⟩ := bind_eq_ok_iff.mp ok
      obtain ⟨steps, readMore, ok⟩ := bind_eq_ok_iff.mp ok
      obtain rfl := pure_eq_ok_iff.mp ok
      obtain ⟨inner, innerBlank, noInner, fits, own⟩ := Step.read_eq_ok_iff.mp readHead
      obtain ⟨⟨after, more⟩, afterBlank, formed, short, rfl, rfl⟩ := ih readMore
      refine ⟨⟨before, ⟨step, inner, after⟩ :: more⟩, blank, ?_, Nat.succ_le_succ short, ?_, rfl⟩
      · intro s member
        rcases List.mem_cons.mp member with rfl | member
        · exact ⟨fits, innerBlank, noInner, afterBlank⟩
        · exact formed s member
      · rw [text_cons, parts, start, own]
        rfl

theorem parse_eq_ok_iff_read {t : Text} {c : Chain} :
    parse t = .ok c ↔ read maxSteps t = .ok c := by
  rw [parse]
  split <;> simp_all

theorem parse_eq_ok_iff_written {t : Text} {c : Chain} : parse t = .ok c ↔ Written c t := by
  rw [parse_eq_ok_iff_read]
  constructor
  · intro ok
    obtain ⟨p, blank, formed, short, text, chain⟩ := placed_of_read ok
    exact ⟨p, ⟨blank, formed, short⟩, text, chain⟩
  · rintro ⟨p, ⟨blank, formed, short⟩, rfl, rfl⟩
    exact read_placed blank formed short

end Chain
end RowSieve
