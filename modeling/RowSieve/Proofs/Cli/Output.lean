import Mathlib.Tactic.Common
import RowSieve.Cli.Job
import RowSieve.Proofs.Outcome
import RowSieve.Proofs.Run.Delivery

/-! What running a program between an input and an output leaves at the output. The output stream
is in the hands of the run and an output file is opened behind it, and yet both come to the same:
a run that fails of its own leaves nothing, and a device that fails keeps what it took. -/
namespace RowSieve.Cli

variable {m : Machine} {d : Devices} {o : RunOptions}

/-! ### Writing a file -/

theorem store_cases (m : Machine) (disk : Option Limit) (path : Text) (bytes : Bytes) :
    (∃ e, m.files.writable m.cwd path = .error e ∧
      store m disk path bytes = (m.files, .error (.unwritable path e.message))) ∨
    ∃ place, m.files.writable m.cwd path = .ok place ∧
      ((∀ limit ∈ disk, bytes.length ≤ limit.room) ∧
          store m disk path bytes = (m.files.put place bytes, .ok ()) ∨
        ∃ limit ∈ disk, limit.room < bytes.length ∧ store m disk path bytes =
          (m.files.put place (bytes.take limit.room), .error (.unwritable path limit.why))) := by
  cases free : m.files.writable m.cwd path with
  | error e => exact .inl ⟨e, rfl, by simp [store, free]⟩
  | ok place =>
    refine .inr ⟨place, rfl, ?_⟩
    cases disk with
    | none => exact .inl ⟨fun _ given => (Option.not_mem_none _ given).elim, by simp [store, free]⟩
    | some limit =>
      by_cases short : limit.room < bytes.length
      · exact .inr ⟨limit, rfl, short, by simp [store, free, Option.filter, short]⟩
      · refine .inl ⟨fun _ same => ?_, by simp [store, free, Option.filter, short]⟩
        cases same
        omega

/-! ### What a run writes -/

/-- With all the room it wants the run succeeds and writes these bytes. -/
def Writes (p : Program) (s : Settings) (input bytes : Bytes) : Prop :=
  (∃ stats, (run p s input none).result = .ok stats) ∧ (run p s input none).written = bytes

theorem Job.written_eq_ok_iff {s : Settings} {t : Text} {input bytes : Bytes} :
    Job.written ⟨s, t, input⟩ = .ok bytes ↔
      ∃ p, (Run.compile t).result = .ok p ∧ Writes p s input bytes := by
  simp only [Job.written, Writes, bind_eq_ok_iff, map_eq_ok_iff, exists_and_right]

section
variable {p : Program} {s : Settings} {input : Bytes}

theorem not_writes {e : RunError} (failed : (Run.process p s.input input).result = .error e)
    (bytes : Bytes) : ¬ Writes p s input bytes := by
  rintro ⟨⟨stats, succeeded⟩, -⟩
  cases (Run.run_of_error failed none).1.symm.trans succeeded

theorem writes_of_process {c : Run.Collected}
    (processed : (Run.process p s.input input).result = .ok c) :
    Writes p s input (run p s input none).written :=
  ⟨⟨c.stats, (Run.run_of_ok processed).1⟩, rfl⟩

end

/-! ### How far it gets -/

/-- These bytes are where the output goes, and all else is as it was. -/
def Ran.Left (ran : Ran) (m : Machine) (o : RunOptions) (bytes : Bytes) : Prop :=
  match o.output with
  | none => ran.stdout = bytes ∧ ran.files = m.files
  | some path => ran.stdout = [] ∧
      ∃ place, m.files.writable m.cwd path = .ok place ∧ ran.files = m.files.put place bytes

/-- The output file cannot be opened. -/
def Refused (m : Machine) (o : RunOptions) : Prop :=
  ∃ path ∈ o.output, ∃ e, m.files.writable m.cwd path = .error e

/-- How far running a program gets: it fails with its output untouched, or what it writes is cut
short by the device or is left as a whole. -/
inductive Reached (m : Machine) (d : Devices) (s : Settings) (o : RunOptions) (p : Program)
    (ran : Ran) : Prop where
  | nothing (e : RunError) (failed : ran.result = .error e)
      (still : ran.stdout = [] ∧ ran.files = m.files)
      (short : ∀ input bytes, inputOf m o = .ok input → Writes p s input bytes → Refused m o)
  | part (e : RunError) (failed : ran.result = .error e) (input bytes : Bytes)
      (given : inputOf m o = .ok input) (writes : Writes p s input bytes) (limit : Limit)
      (limited : limit ∈ d.limit? o) (short : limit.room < bytes.length)
      (left : ran.Left m o (bytes.take limit.room))
  | whole (stats : Stats) (succeeded : ran.result = .ok stats) (input bytes : Bytes)
      (given : inputOf m o = .ok input) (writes : Writes p s input bytes)
      (room : d.HasRoom o bytes) (left : ran.Left m o bytes)

section
variable {p : Program} {s : Settings} {input : Bytes}

/-- A run that fails of its own is as far from writing with all the room it wants. -/
theorem Reached.of_error {ran : Ran} {e : RunError} (given : inputOf m o = .ok input)
    (processed : (Run.process p s.input input).result = .error e) (failed : ran.result = .error e)
    (still : ran.stdout = [] ∧ ran.files = m.files) : Reached m d s o p ran := by
  refine .nothing e failed still fun input' bytes given' writes => ?_
  cases given.symm.trans given'
  exact absurd writes (not_writes processed bytes)

theorem reached_stream (out : o.output = none) (given : inputOf m o = .ok input) :
    Reached m d s o p (runBetween m d s o p) := by
  have limited : d.limit? o = d.stdout := by simp only [Devices.limit?, out]
  simp only [runBetween, given, out]
  cases processed : (Run.process p s.input input).result with
  | error e =>
    obtain ⟨failed, nothing⟩ := Run.run_of_error processed (d.stdout.map Limit.room)
    exact .of_error given processed failed ⟨nothing, rfl⟩
  | ok c =>
    have writes := writes_of_process processed
    cases stream : d.stdout with
    | none =>
      refine .whole c.stats (Run.run_of_ok processed).1 input _ given writes ?_ ?_
      · simp [Devices.HasRoom, limited, stream]
      · simp [Ran.Left, out]
    | some limit =>
      have delivered := Run.run_limited_of_ok processed limit.room
      split at delivered
      · rename_i fits
        refine .whole c.stats delivered.1 input _ given writes ?_ ?_
        · simpa [Devices.HasRoom, limited, stream] using fits
        · simpa [Ran.Left, out] using delivered.2
      · rename_i exceeds
        refine .part .full delivered.1 input _ given writes limit ?_ (Nat.lt_of_not_le exceeds) ?_
        · rw [limited, stream, Option.mem_some_iff]
        · simpa [Ran.Left, out] using delivered.2

theorem reached_file {path : Text} (out : o.output = some path)
    (given : inputOf m o = .ok input) : Reached m d s o p (runBetween m d s o p) := by
  have limited : d.limit? o = d.disk := by simp only [Devices.limit?, out]
  simp only [runBetween, given, out]
  cases processed : (Run.process p s.input input).result with
  | error e =>
    simp only [(Run.run_of_error processed none).1]
    exact .of_error given processed rfl ⟨rfl, rfl⟩
  | ok c =>
    have writes := writes_of_process processed
    simp only [(Run.run_of_ok processed).1]
    rcases store_cases m d.disk path (run p s input none).written with
      ⟨e, refused, stored⟩ | ⟨place, free, ⟨room, stored⟩ | ⟨limit, there, short, stored⟩⟩
    · rw [stored]
      exact .nothing _ rfl ⟨rfl, rfl⟩ fun _ _ _ _ => ⟨path, out, e, refused⟩
    · rw [stored]
      refine .whole c.stats rfl input _ given writes ?_ ?_
      · rwa [Devices.HasRoom, limited]
      · simp [Ran.Left, out, free]
    · rw [stored]
      refine .part _ rfl input _ given writes limit (limited ▸ there) short ?_
      simp [Ran.Left, out, free]

end

theorem runBetween_reached (m : Machine) (d : Devices) (s : Settings) (o : RunOptions)
    (p : Program) : Reached m d s o p (runBetween m d s o p) := by
  cases given : inputOf m o with
  | error e =>
    simp only [runBetween, given]
    refine .nothing e rfl ⟨rfl, rfl⟩ fun input bytes given' => ?_
    cases given.symm.trans given'
  | ok input =>
    cases out : o.output with
    | none => exact reached_stream out given
    | some path => exact reached_file out given

end RowSieve.Cli
