import RowSieve.Log.Directive
import RowSieve.Proofs.Reader.Placed
import RowSieve.Proofs.Run.Delivery

/-! The events of a run tell what it did. A course of a run over the items of its reader says which
records reach the program and what ends it; a step of the run adds the event of one record, and so
the events are those of the course from its first record to its last. -/
namespace RowSieve.Run

open Log

variable {p : Program}

/-- The query has a value on each of the records. -/
def Decides (p : Program) (records : List (Nat × Record)) : Prop :=
  ∀ record ∈ records, ∃ b, p.query.eval record.2 = .ok b

theorem decides_nil : Decides p [] := List.forall_mem_nil _

theorem Decides.cons {record : Nat × Record} {records : List (Nat × Record)} {b : Bool}
    (first : p.query.eval record.2 = .ok b) (decided : Decides p records) :
    Decides p (record :: records) :=
  List.forall_mem_cons.mpr ⟨⟨b, first⟩, decided⟩

/-- The records that a run hands to its program, and the error that ends it if there is one. -/
inductive Course (p : Program) :
    List Reader.Item → List (Nat × Record) → Option RunError → Prop where
  | whole {records : List (Nat × Record)} (decided : Decides p records) :
      Course p (records.map .ok) records none
  | refused {records : List (Nat × Record)} (decided : Decides p records) (e : ReadError)
      (later : List Reader.Item) :
      Course p (records.map .ok ++ .error e :: later) records (some (.input e))
  | undecided {records : List (Nat × Record)} (decided : Decides p records) {line : Nat}
      {r : Record} {e : EvalError} (failed : p.query.eval r = .error e)
      (later : List Reader.Item) :
      Course p (records.map .ok ++ .ok (line, r) :: later) (records ++ [(line, r)])
        (some (.evaluation line e))

namespace Course
variable {items : List Reader.Item} {records : List (Nat × Record)} {stop : Option RunError}

/-- A step on a record on which the query has a value. -/
theorem next {record : Nat × Record} {b : Bool} (first : p.query.eval record.2 = .ok b)
    (course : Course p items records stop) :
    Course p (.ok record :: items) (record :: records) stop := by
  cases course with
  | whole decided => exact .whole (decided.cons first)
  | refused decided e later => exact .refused (decided.cons first) e later
  | undecided decided failed later => exact .undecided (decided.cons first) failed later

/-- Only records come before the end of a course, and the last of them is handed over too. -/
theorem parts (course : Course p items records stop) : ∃ more, items = records.map .ok ++ more := by
  cases course with
  | whole => exact ⟨[], (List.append_nil _).symm⟩
  | refused decided e later => exact ⟨_, rfl⟩
  | undecided decided failed later => exact ⟨later, by simp⟩

end Course

def outcome (p : Program) (records : List (Nat × Record)) : Option RunError → Except RunError Tally
  | none => .ok (totalOf p (records.map Prod.snd))
  | some e => .error e

def recordEvents (records : List (Nat × Record)) : List Event :=
  records.map fun (line, _) => recordEvent line

/-- The items are taken one by one: a record that the query decides is told, and the rest follows. -/
theorem feed_course (p : Program) (items : List Reader.Item) :
    ∃ records stop, Course p items records stop ∧
      feed p items = ⟨recordEvents records, outcome p records stop⟩ := by
  induction items with
  | nil => exact ⟨[], none, .whole decides_nil, rfl⟩
  | cons item items ih =>
    rcases item with e | ⟨line, r⟩
    · exact ⟨[], some (.input e), .refused decides_nil e items, rfl⟩
    cases executed : p.execute r with
    | error e =>
      have failed := Program.execute_eq_error executed
      refine ⟨[(line, r)], some (.evaluation line e), ?_, ?_⟩
      · exact .undecided decides_nil failed items
      · simp only [feed, executed]
        rfl
    | ok x =>
      obtain ⟨records, stop, course, fed⟩ := ih
      have decided := (Program.execute_eq_ok executed).1
      refine ⟨(line, r) :: records, stop, course.next decided, ?_⟩
      simp only [feed, executed, fed, ofExecuted_eq_tallyOf executed]
      cases stop <;> rfl

def headerEvents (header : Option (List Text)) : List Event :=
  header.toList.map fun names => headerEvent names.length

def completeEvents : Except RunError Stats → List Event
  | .ok stats => [completeEvent stats]
  | .error _ => []

theorem process_course (p : Program) (s : Settings.Input) (input : Bytes) :
    ∃ records stop, Course p (Reader.given s input) records stop ∧
      (process p s input).events =
        headerEvents (Reader.header? s input) ++ recordEvents records ∧
      (process p s input).result.map Collected.stats = (outcome p records stop).map Tally.stats := by
  cases found : Reader.start s input with
  | error e =>
    refine ⟨[], some (.input e), ?_, ?_, ?_⟩
    · rw [Reader.given, found]
      exact .refused decides_nil e []
    · simp [process, Reader.header?, found, headerEvents, recordEvents]
    · simp [process, found, outcome, Except.map]
  | ok opened =>
    obtain ⟨records, stop, course, fed⟩ := feed_course p (opened.items s)
    refine ⟨records, stop, ?_, ?_, ?_⟩
    · rwa [Reader.given, found]
    · cases empty : opened.header.isEmpty <;>
        simp [process, Reader.header?, found, fed, headerEvents, empty]
    · simp only [process, found, fed]
      cases stop <;> rfl

/-- What was collected is delivered and the end is told, or there is no room for it. -/
theorem run_of_collected {s : Settings} {input : Bytes} {c : Collected}
    (processed : (process p s.input input).result = .ok c) (room : Option Nat) :
    (run p s input room).result = .ok c.stats ∧
        (run p s input room).events = (process p s.input input).events ++ [completeEvent c.stats] ∨
      (run p s input room).result = .error .full ∧
        (run p s input room).events = (process p s.input input).events := by
  by_cases all : (deliver room (bytePieces c.table (layout s.output))).2 = true
  · exact .inl (by simp [run, processed, all])
  · exact .inr (by simp [run, processed, all])

theorem run_events (p : Program) (s : Settings) (input : Bytes) (room : Option Nat) :
    (run p s input room).events =
      (process p s.input input).events ++ completeEvents (run p s input room).result := by
  cases processed : (process p s.input input).result with
  | error e => simp [run, processed, completeEvents]
  | ok c =>
    rcases run_of_collected processed room with ⟨result, events⟩ | ⟨result, events⟩
    · rw [events, result, completeEvents]
    · rw [events, result, completeEvents, List.append_nil]

/-- What a run has read, told by its input: the header, the records that reached the program, and
what ended it. -/
structure Read (p : Program) (s : Settings.Input) (input : Bytes) (header : Option (List Text))
    (records : List (Nat × Record)) (stop : Option RunError) : Prop where
  accepted : ∀ names, header = some names ↔ Reader.HeaderRead s input.lines names
  course : Course p (Reader.given s input) records stop
  placed : ∀ record ∈ records, ∃ names i, header = some names ∧ record.1 = i + 1 ∧
    Reader.RowAt s names input.lines i record.2
  ordered : records.Pairwise (·.1 < ·.1)

theorem read_of_course {s : Settings.Input} {input : Bytes} {records : List (Nat × Record)}
    {stop : Option RunError} (course : Course p (Reader.given s input) records stop) :
    Read p s input (Reader.header? s input) records stop := by
  obtain ⟨more, items⟩ := course.parts
  obtain ⟨placed, ordered⟩ := Reader.placed_of_given items
  refine ⟨fun names => Reader.header?_eq_some_iff, course, fun record member => ?_, ordered⟩
  obtain ⟨names, i, read, line, row⟩ := placed record member
  exact ⟨names, i, Reader.header?_eq_some_iff.mpr read, line, row⟩

/-- What the end of a course means for the result of the run. -/
structure Ended (records : List (Nat × Record)) (stop : Option RunError)
    (result : Except RunError Stats) : Prop where
  failed : ∀ e, stop = some e → result = .error e
  finished : stop = none → result = .error .full ∨ ∃ stats, result = .ok stats
  counted : ∀ stats, result = .ok stats → stop = none ∧ stats.rows = records.length

theorem run_ended {s : Settings} {input : Bytes} {records : List (Nat × Record)}
    {stop : Option RunError} (room : Option Nat)
    (result : (process p s.input input).result.map Collected.stats =
      (outcome p records stop).map Tally.stats) :
    Ended records stop (run p s input room).result := by
  cases stop with
  | some e =>
    have failed : (process p s.input input).result = .error e := map_eq_error_iff.mp result
    have ran := (run_of_error failed room).1
    refine ⟨fun e' same => ran.trans (congrArg _ (Option.some.inj same)), fun absent => ?_,
      fun stats found => ?_⟩
    · contradiction
    · cases ran.symm.trans found
  | none =>
    obtain ⟨c, processed, stats⟩ := map_eq_ok_iff.mp result
    have rows : c.stats.rows = records.length := by rw [stats, totalOf_stats, List.length_map]
    have endless : ∀ e, none = some e → (run p s input room).result = .error e :=
      fun e same => absurd same (Option.some_ne_none e).symm
    rcases run_of_collected processed room with ⟨ran, _⟩ | ⟨ran, _⟩
    · refine ⟨endless, fun _ => .inr ⟨_, ran⟩, fun stats' found => ⟨rfl, ?_⟩⟩
      obtain rfl := Except.ok.inj (ran.symm.trans found)
      exact rows
    · refine ⟨endless, fun _ => .inl ran, fun stats' found => ?_⟩
      cases ran.symm.trans found

/-- A filter for the level `trace` lets every event pass. -/
theorem filter_trace : ∃ f, Filter.parse "trace".toList = .ok f ∧
    ∀ events : List Event, events.filter f.passes = events := by
  refine ⟨[⟨[], none, .level .trace⟩], by decide, fun events => List.filter_eq_self.mpr ?_⟩
  intro e _
  cases level : e.level <;>
    simp [Filter.passes, Filter.deciding?, Filter.better, Directive.concerns, Text.after?,
      Threshold.passes, Level.rank, level]

def tellsRecord (e : Event) : Bool := e.message == "record read".toList

/-- The messages of warnings begin otherwise. -/
theorem tellsRecord_warningEvent (w : Warning) : tellsRecord (warningEvent w) = false := by
  refine beq_eq_false_iff_ne.mpr fun same => ?_
  have first := congrArg List.head? same
  have quoted : "`".toList.head? ≠ "record read".toList.head? := by decide
  have named : "field".toList.head? ≠ "record read".toList.head? := by decide
  have empty : "both".toList.head? ≠ "record read".toList.head? := by decide
  cases w with
  | integerCast a => exact quoted first
  | repeatedSet part field => exact named first
  | emptyBranches => exact empty first

theorem tellsRecord_recordEvent (line : Nat) : tellsRecord (recordEvent line) = true :=
  beq_self_eq_true _

theorem countP_tellsRecord (header : Option (List Text)) (records : List (Nat × Record))
    (result : Except RunError Stats) :
    (p.lint.map warningEvent ++ [compiledEvent p] ++ headerEvents header ++ recordEvents records ++
      completeEvents result).countP tellsRecord = records.length := by
  have compiled : tellsRecord (compiledEvent p) = false :=
    (by decide : ("program compiled".toList == "record read".toList) = false)
  have headed (n : Nat) : tellsRecord (headerEvent n) = false :=
    (by decide : ("header read".toList == "record read".toList) = false)
  have completed (stats : Stats) : tellsRecord (completeEvent stats) = false :=
    (by decide : ("run complete".toList == "record read".toList) = false)
  have warnings : (p.lint.map warningEvent).countP tellsRecord = 0 := by
    simp [List.countP_eq_zero, tellsRecord_warningEvent]
  have header : (headerEvents header).countP tellsRecord = 0 := by
    simp [headerEvents, List.countP_eq_zero, headed]
  have complete : (completeEvents result).countP tellsRecord = 0 := by
    cases result <;> simp [completeEvents, completed]
  have read : (recordEvents records).countP tellsRecord = records.length := by
    rw [List.countP_eq_length.mpr, recordEvents, List.length_map]
    intro e member
    obtain ⟨record, _, rfl⟩ := List.mem_map.mp member
    exact tellsRecord_recordEvent record.1
  simp only [List.countP_append, List.countP_singleton, compiled, warnings, header, complete, read]
  simp

/-- The log of a run at the level `trace` is a faithful trace of it. A text that is no program
leaves no event. Otherwise the warnings come first, in their order, and the program; then the header,
if one is accepted; then the records that reach the program, each with the number of its line; and
last the completion, if the run ends well, with what the run returns. -/
theorem log_tells_run (t : Text) (s : Settings) (input : Bytes) (room : Option Nat) :
    (∃ f, Filter.parse "trace".toList = .ok f ∧
      ∀ events : List Event, events.filter f.passes = events) ∧
    (∀ e, Program.parse t = .error e → compile t = ⟨[], .error (.rejected e)⟩) ∧
    ∀ p, Program.parse t = .ok p → (compile t).result = .ok p ∧ ∃ header records stop,
      (compile t).events ++ (run p s input room).events =
        p.lint.map warningEvent ++ [compiledEvent p] ++ headerEvents header ++
          recordEvents records ++ completeEvents (run p s input room).result ∧
      Read p s.input input header records stop ∧
      Ended records stop (run p s input room).result ∧
      ∀ stats, (run p s input room).result = .ok stats →
        ((compile t).events ++ (run p s input room).events).countP tellsRecord = stats.rows := by
  refine ⟨filter_trace, fun e rejected => ?_, fun p read => ?_⟩
  · rw [compile, rejected]
  have compiled : compile t = ⟨p.lint.map warningEvent ++ [compiledEvent p], .ok p⟩ := by
    rw [compile, read]
  obtain ⟨records, stop, course, events, result⟩ := process_course p s.input input
  have ended := run_ended room result
  have all : (compile t).events ++ (run p s input room).events =
      p.lint.map warningEvent ++ [compiledEvent p] ++ headerEvents (Reader.header? s.input input) ++
        recordEvents records ++ completeEvents (run p s input room).result := by
    rw [compiled, run_events, events]
    simp only [List.append_assoc]
  refine ⟨by rw [compiled], _, records, stop, all, read_of_course course, ended,
    fun stats ran => ?_⟩
  rw [all, countP_tellsRecord, (ended.counted stats ran).2]

/-- The fourth line of the first input has too few fields: the header and the second line are told,
the empty third line is not, nor is the end. A run over the header alone is told to its end. -/
theorem log_tells_run_ragged :
    let t : Text := ['q', '{', 'a', '=', '1', '}', 't', '{', '}', 'f', '{', '}']
    let p : Program := ⟨.atom ⟨['a'], .equal, ['1'], .text⟩, [], []⟩
    let input := Bytes.ofText ['a', ',', 'b', '\n', '1', ',', '2', '\n', '\n', '3', '\n']
    let e : SyntaxError := ⟨.querySectionMissing, [], 0, none⟩
    Program.parse [] = .error e ∧ compile [] = ⟨[], .error (.rejected e)⟩ ∧
      Program.parse t = .ok p ∧
      (compile t).events ++ (run p .default input none).events =
        [warningEvent .emptyBranches, compiledEvent p, headerEvent 2, recordEvent 2] ∧
      (∃ header records stop,
        [warningEvent .emptyBranches, compiledEvent p, headerEvent 2, recordEvent 2] =
          p.lint.map warningEvent ++ [compiledEvent p] ++ headerEvents header ++
            recordEvents records ++ completeEvents (run p .default input none).result ∧
        Read p .default input header records stop ∧
        Ended records stop (run p .default input none).result) ∧
      (run p .default (Bytes.ofText ['a']) none).events = [headerEvent 1, completeEvent .zero] ∧
      ((compile t).events ++ (run p .default (Bytes.ofText ['a']) none).events).countP tellsRecord =
        0 := by
  intro t p input e
  have rejected : Program.parse [] = .error e := by rfl
  have read : Program.parse t = .ok p := by rfl
  have told : (compile t).events ++ (run p .default input none).events =
      [warningEvent .emptyBranches, compiledEvent p, headerEvent 2, recordEvent 2] := by rfl
  have whole : (run p .default (Bytes.ofText ['a']) none).result = .ok .zero := by rfl
  obtain ⟨_, header, records, stop, all, reads, ended, _⟩ :=
    (log_tells_run t .default input none).2.2 p read
  obtain ⟨_, _, _, _, _, _, _, counted⟩ :=
    (log_tells_run t .default (Bytes.ofText ['a']) none).2.2 p read
  exact ⟨rejected, (log_tells_run [] .default input none).2.1 e rejected, read, told,
    ⟨header, records, stop, told ▸ all, reads, ended⟩, by rfl, counted .zero whole⟩

/-- A record on which the query has no value is told as well. -/
example : (run ⟨.atom ⟨['x'], .equal, ['1'], .text⟩, [], []⟩ .default
    (Bytes.ofText ['a', '\n', '1', '\n', '2']) none).events =
      [headerEvent 1, recordEvent 2] := by rfl

end RowSieve.Run
