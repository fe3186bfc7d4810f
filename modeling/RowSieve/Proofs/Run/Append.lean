import RowSieve.Proofs.Run.Delivery

/-! Runs over an input that comes in two parts under one header line. A run carries nothing from
one row to the next but the number of lines, the counts and the printed records, so the run over
both parts is put together from the runs over each. -/
namespace RowSieve

namespace RunError

def later (n : Nat) : RunError → RunError
  | evaluation line e => evaluation (line + n) e
  | input e => input (e.later n)
  | e => e

theorem line?_later {e : RunError} {line : Nat} (named : e.line? = some line) (n : Nat) :
    (e.later n).line? = some (line + n) := by
  cases e <;> simp_all [line?, later]

end RunError

namespace Run

variable {p : Program}

theorem Tally.append_assoc (a b c : Tally) : (a.append b).append c = a.append (b.append c) := by
  simp [Tally.append, Stats.add, Nat.add_assoc]

theorem Tally.empty_append (t : Tally) : Tally.empty.append t = t := by
  simp [Tally.append, Tally.empty, Stats.add, Stats.zero]

/-- Items are taken one part after the other: an error of the first part stands, and otherwise
the tallies of the parts add. -/
theorem feed_append (a b : List Reader.Item) :
    (feed p (a ++ b)).result =
      (feed p a).result >>= fun tally => (feed p b).result.map tally.append := by
  induction a with
  | nil =>
    change (feed p b).result = (feed p b).result.map Tally.empty.append
    cases (feed p b).result <;> simp [Except.map, Tally.empty_append]
  | cons item a ih =>
    rw [List.cons_append, feed_cons, feed_cons, ih]
    cases taken p item with
    | error e => rfl
    | ok first =>
      cases (feed p a).result with
      | error e => rfl
      | ok more =>
        change ((feed p b).result.map more.append).map first.append =
          (feed p b).result.map (first.append more).append
        cases (feed p b).result <;> simp [Except.map, Tally.append_assoc]

theorem taken_later (n : Nat) (item : Reader.Item) :
    taken p (item.later n) = (taken p item).mapError (RunError.later n) := by
  rcases item with refused | ⟨line, r⟩
  · rfl
  · simp only [Reader.Item.later, taken]
    cases p.execute r <;> rfl

/-- The numbers of the lines show in an error only. -/
theorem feed_later (n : Nat) (items : List Reader.Item) :
    (feed p (items.map (Reader.Item.later n))).result =
      (feed p items).result.mapError (RunError.later n) := by
  induction items with
  | nil => rfl
  | cons item items ih =>
    rw [List.map_cons, feed_cons, feed_cons, taken_later, ih]
    cases taken p item with
    | error e => rfl
    | ok tally => cases (feed p items).result <;> rfl

def onBody (p : Program) (s : Settings.Input) (header : List Text) (body : Bytes) :
    Except RunError Tally :=
  (feed p (Reader.itemsFrom s header 1 body.lines)).result

section
variable {s : Settings.Input} {header : List Text} {first second : Bytes}

theorem onBody_append_of_error (ended : first.Ended) {e : RunError}
    (failed : onBody p s header first = .error e) : onBody p s header (first ++ second) = .error e := by
  rw [onBody] at failed
  rw [onBody, Bytes.lines_append ended, Reader.itemsFrom_append, feed_append, failed]
  rfl

theorem onBody_append_of_ok (ended : first.Ended) {tally : Tally}
    (done : onBody p s header first = .ok tally) :
    onBody p s header (first ++ second) =
      ((onBody p s header second).mapError (RunError.later (first.count Bytes.newline))).map
        tally.append := by
  obtain ⟨records, items, _, _⟩ := feed_eq_ok done
  -- A line that cannot be decoded is not counted, but it would have been an error.
  have counted : Reader.counted first.lines = first.count Bytes.newline := by
    rw [Reader.counted_of_records items, Bytes.length_lines ended]
  rw [onBody] at done
  rw [onBody, Bytes.lines_append ended, Reader.itemsFrom_append, feed_append, done, counted,
    Reader.itemsFrom_later, feed_later]
  rfl

end

/-- Under one header line the runs over all bodies fail with the header, or each of them does
what its body says. -/
theorem process_header (p : Program) (s : Settings.Input) {h : Bytes} (own : Bytes.newline ∉ h)
    (dark : ∃ b ∈ h, b ≠ Bytes.carriage) :
    (∃ e, ∀ body, (process p s (h ++ Bytes.newline :: body)).result = .error (.input e)) ∨
    (∃ header, ∀ body, (process p s (h ++ Bytes.newline :: body)).result =
      (onBody p s header body).map (Collected.ofTally header)) := by
  obtain ⟨opened, start⟩ := Reader.start_header s own dark
  rcases opened with e | header
  · refine .inl ⟨e, fun body => ?_⟩
    rw [process, start body]
    rfl
  · refine .inr ⟨header, fun body => ?_⟩
    rw [process, start body]
    rfl

/-- What the runs over two bodies under one header line say about the run over both bodies. -/
structure Composed (p : Program) (s : Settings) (h first second : Bytes) : Prop where
  fails_first : ∀ room e, (run p s (h ++ Bytes.newline :: first) room).result = .error e →
    e.line?.isSome →
    ∀ room', (run p s (h ++ Bytes.newline :: (first ++ second)) room').result = .error e
  succeeds : ∀ room stats room' stats',
    (run p s (h ++ Bytes.newline :: first) room).result = .ok stats →
    (run p s (h ++ Bytes.newline :: second) room').result = .ok stats' →
    (run p s (h ++ Bytes.newline :: (first ++ second)) none).result = .ok (stats.add stats') ∧
      ∃ a b c : Collected,
        (process p s.input (h ++ Bytes.newline :: first)).result = .ok a ∧
        (process p s.input (h ++ Bytes.newline :: second)).result = .ok b ∧
        (process p s.input (h ++ Bytes.newline :: (first ++ second))).result = .ok c ∧
        (run p s (h ++ Bytes.newline :: (first ++ second)) none).written =
          Bytes.ofText (c.table.render (layout s.output)) ∧
        c.table.rows = a.table.rows ++ b.table.rows ∧
        c.table.columns =
          a.table.columns ++ b.table.columns.filter fun name => name ∉ a.table.columns
  fails_second : ∀ room stats room' e line,
    (run p s (h ++ Bytes.newline :: first) room).result = .ok stats →
    (run p s (h ++ Bytes.newline :: second) room').result = .error e →
    e.line? = some line →
    (∀ room'', (run p s (h ++ Bytes.newline :: (first ++ second)) room'').result =
        .error (e.later (first.count Bytes.newline))) ∧
      (e.later (first.count Bytes.newline)).line? = some (line + first.count Bytes.newline)

section
variable {s : Settings} {h first second : Bytes}

/-- Under a header that is refused all runs fail with it. -/
theorem composed_of_refused {e : ReadError}
    (refused : ∀ body, (process p s.input (h ++ Bytes.newline :: body)).result =
      .error (.input e)) : Composed p s h first second := by
  have fails (body : Bytes) (room : Option Nat) :
      (run p s (h ++ Bytes.newline :: body) room).result = .error (.input e) :=
    (run_of_error (refused body) room).1
  refine ⟨fun room e' failed _ room' => ?_, fun room stats _ _ ran => ?_,
    fun room stats _ _ _ ran => ?_⟩
  · rw [← failed, fails, fails]
  · cases (fails first room).symm.trans ran
  · cases (fails first room).symm.trans ran

theorem composed_of_header {header : List Text} (ended : first.Ended)
    (taken : ∀ body, (process p s.input (h ++ Bytes.newline :: body)).result =
      (onBody p s.input header body).map (Collected.ofTally header)) :
    Composed p s h first second := by
  have fails {body : Bytes} {e : RunError} (failed : onBody p s.input header body = .error e)
      (room : Option Nat) : (run p s (h ++ Bytes.newline :: body) room).result = .error e := by
    have refused := taken body
    rw [failed] at refused
    exact (run_of_error refused room).1
  have failed_of {body : Bytes} {e : RunError} {room : Option Nat}
      (failed : (run p s (h ++ Bytes.newline :: body) room).result = .error e)
      (named : e.line?.isSome) : onBody p s.input header body = .error e :=
    map_eq_error_iff.mp ((taken body).symm.trans (process_eq_error failed named))
  have tally_of {body : Bytes} {stats : Stats} {room : Option Nat}
      (ran : (run p s (h ++ Bytes.newline :: body) room).result = .ok stats) :
      ∃ tally, onBody p s.input header body = .ok tally ∧ stats = tally.stats := by
    obtain ⟨c, processed, rfl, _⟩ := run_eq_ok ran
    obtain ⟨tally, done, rfl⟩ := map_eq_ok_iff.mp ((taken body).symm.trans processed)
    exact ⟨tally, done, rfl⟩
  have collected {body : Bytes} {tally : Tally} (done : onBody p s.input header body = .ok tally) :
      (process p s.input (h ++ Bytes.newline :: body)).result = .ok (.ofTally header tally) := by
    rw [taken, done]
    rfl
  constructor
  case fails_first =>
    intro room e failed named room'
    exact fails (onBody_append_of_error ended (failed_of failed named)) room'
  case succeeds =>
    intro room stats room' stats' ran ran'
    obtain ⟨tally, done, rfl⟩ := tally_of ran
    obtain ⟨tally', done', rfl⟩ := tally_of ran'
    have both : onBody p s.input header (first ++ second) = .ok (tally.append tally') := by
      rw [onBody_append_of_ok ended done, done']
      rfl
    refine ⟨(run_of_ok (collected both)).1, _, _, _, collected done, collected done',
      collected both, (run_of_ok (collected both)).2, ?_, ?_⟩
    · rfl
    · exact Table.columns_emitAll_append header tally.printed tally'.printed
  case fails_second =>
    intro room stats room' e line ran failed named
    obtain ⟨tally, done, rfl⟩ := tally_of ran
    have behind := failed_of failed (by rw [named]; rfl)
    refine ⟨fails ?_, RunError.line?_later named _⟩
    rw [onBody_append_of_ok ended done, behind]
    rfl

end

/-- Runs over two bodies of lines under one header line add up to the run over both: the first
error counts, the counts add, the printed records follow each other, and an error in the second
body lies as many lines further down as the first body has. -/
theorem run_append (p : Program) (s : Settings) (h first second : Bytes) (own : Bytes.newline ∉ h)
    (dark : ∃ b ∈ h, b ≠ Bytes.carriage) (ended : first.Ended) :
    Composed p s h first second := by
  rcases process_header p s.input own dark with ⟨e, refused⟩ | ⟨header, taken⟩
  · exact composed_of_refused refused
  · exact composed_of_header ended taken

/-- The ragged line is the third under its own header, and the sixth behind three more lines. -/
theorem run_append_ragged :
    (run ⟨.atom ⟨['a'], .equal, ['1'], .text⟩, [.set ['c'] ['x'], .print], []⟩ .default
        (Bytes.ofText ['a', ',', 'b'] ++ Bytes.newline ::
          Bytes.ofText ['1', ',', '2', '\n', '\n', '3', ',', '4', '\n']) none).result =
      .ok ⟨2, 1, 1, 1⟩ ∧
    (run ⟨.atom ⟨['a'], .equal, ['1'], .text⟩, [.set ['c'] ['x'], .print], []⟩ .default
        (Bytes.ofText ['a', ',', 'b'] ++ Bytes.newline ::
          Bytes.ofText ['1', ',', '5', '\n', '6']) none).result =
      .error (.input (.fieldCount 3 2 1)) ∧
    ∀ room, (run ⟨.atom ⟨['a'], .equal, ['1'], .text⟩, [.set ['c'] ['x'], .print], []⟩ .default
        (Bytes.ofText ['a', ',', 'b'] ++ Bytes.newline ::
          (Bytes.ofText ['1', ',', '2', '\n', '\n', '3', ',', '4', '\n'] ++
            Bytes.ofText ['1', ',', '5', '\n', '6'])) room).result =
      .error (.input (.fieldCount 6 2 1)) :=
  have composed := run_append ⟨.atom ⟨['a'], .equal, ['1'], .text⟩, [.set ['c'] ['x'], .print], []⟩
    .default (Bytes.ofText ['a', ',', 'b'])
    (Bytes.ofText ['1', ',', '2', '\n', '\n', '3', ',', '4', '\n'])
    (Bytes.ofText ['1', ',', '5', '\n', '6']) (by decide) ⟨97, by decide, by decide⟩
    fun _ last => (Option.some.inj last).symm
  have ran := by rfl
  have failed := by rfl
  ⟨ran, failed, (composed.fails_second none _ none _ 3 ran failed rfl).1⟩

end Run
end RowSieve
