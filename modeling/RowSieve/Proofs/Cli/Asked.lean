import RowSieve.Proofs.Cli.Files

/-! What a run works on. It reads its settings, opens its log and only then looks up its files;
the log being none of them, it finds in them what they held before. -/
namespace RowSieve.Cli

variable {m : Machine} {o : RunOptions}

/-! ### Settings and log -/

theorem ownSettings_eq_ok_iff {own : Settings} {base : Place} :
    m.ownSettings o = .ok (own, base) ↔
      match o.config with
      | none => own = .default ∧ base = m.cwd
      | some path => m.configured path = .ok (own, base) := by
  unfold Machine.ownSettings
  cases o.config with
  | none => simp [eq_comm]
  | some path => exact Iff.rfl

theorem delimited_eq_ok_iff {own s : Settings} :
    Machine.delimited o own = .ok s ↔
      match o.delimiter with
      | none => s = own
      | some t => ∃ d, Delimiter.parse t = .ok d ∧ s = own.withDelimiter d := by
  unfold Machine.delimited
  cases o.delimiter with
  | none => simp [eq_comm]
  | some t => cases parsed : Delimiter.parse t <;> simp [parsed, eq_comm]

theorem settings_eq_ok_iff {s : Settings} {base : Place} :
    m.settings o = .ok (s, base) ↔ m.Configured o s base := by
  simp only [Machine.settings, bind_eq_ok_iff, pure_eq_ok_iff]
  constructor
  · rintro ⟨⟨own, folder⟩, given, s', replaced, same⟩
    cases same
    exact ⟨own, ownSettings_eq_ok_iff.mp given, delimited_eq_ok_iff.mp replaced⟩
  · rintro ⟨own, given, replaced⟩
    exact ⟨(own, base), ownSettings_eq_ok_iff.mpr given, s, delimited_eq_ok_iff.mpr replaced, rfl⟩

theorem ready_eq_ok_iff {r : Ready} :
    m.ready o = .ok r ↔ ∃ base, m.Configured o r.settings base ∧
      openLog m.files r.settings.logging base = .ok (r.machine.files, r.logger) ∧
      r.machine = { m with files := r.machine.files } := by
  simp only [Machine.ready, bind_eq_ok_iff, pure_eq_ok_iff]
  constructor
  · rintro ⟨⟨s, base⟩, given, ⟨files, logger⟩, opened, rfl⟩
    exact ⟨base, settings_eq_ok_iff.mp given, opened, rfl⟩
  · rintro ⟨base, given, opened, same⟩
    refine ⟨(r.settings, base), settings_eq_ok_iff.mpr given, _, opened, ?_⟩
    rw [← same]

section
variable {r : Ready}

theorem logged_of_ready (ready : m.ready o = .ok r) : m.logged o = r.machine := by
  simp only [Machine.logged, ready]

theorem logPlace?_of_ready (ready : m.ready o = .ok r) : m.logPlace? o = r.logger.file := by
  simp only [Machine.logPlace?, ready]

theorem sameBut_ready (ready : m.ready o = .ok r) :
    m.files.SameBut (m.logPlace? o).toList r.machine.files := by
  obtain ⟨base, -, opened, -⟩ := ready_eq_ok_iff.mp ready
  rw [logPlace?_of_ready ready]
  exact FileTree.sameBut_openLog opened

end

/-- Opening the log leaves every other file of the run as it is. -/
theorem sameBut_logged : m.files.SameBut (m.logPlace? o).toList (m.logged o).files := by
  cases ready : m.ready o with
  | error message =>
    simp only [Machine.logged, ready]
    exact .refl _ _
  | ok r =>
    rw [logged_of_ready ready]
    exact sameBut_ready ready

theorem logged_eq : m.logged o = { m with files := (m.logged o).files } := by
  cases ready : m.ready o with
  | error message => simp only [Machine.logged, ready]
  | ok r =>
    obtain ⟨base, -, -, same⟩ := ready_eq_ok_iff.mp ready
    rw [logged_of_ready ready]
    exact same

@[simp] theorem cwd_logged : (m.logged o).cwd = m.cwd := by rw [logged_eq]

@[simp] theorem stdin_logged : (m.logged o).stdin = m.stdin := by rw [logged_eq]

theorem notMem_logPlace? (apart : m.LogApart o) {path : Text} (asked : path ∈ (Command.run o).paths)
    {place : Place} (led : m.placeOf o path = .ok place) : place ∉ (m.logPlace? o).toList :=
  fun log => apart place (Option.mem_toList.mp log) path asked led

/-- What a run reads of its files is what they held before. -/
theorem holds_iff_read (apart : m.LogApart o) {path : Text} (asked : path ∈ (Command.run o).paths)
    {content : Bytes} :
    m.Holds o path content ↔ (m.logged o).files.read (m.logged o).cwd path = .ok content := by
  rw [FileTree.read_eq_ok_iff, cwd_logged]
  refine exists_congr fun place => and_congr_right fun led => ?_
  rw [sameBut_logged place (notMem_logPlace? apart asked led)]

/-! ### The parts of the job -/

theorem readText_eq_ok_iff {path shown t : Text} :
    m.readText path shown = .ok t ↔ m.files.read m.cwd path = .ok (Bytes.ofText t) := by
  unfold Machine.readText
  cases read : m.files.read m.cwd path with
  | error e => simp
  | ok content =>
    rw [Except.ok.injEq, ← Bytes.toText?_eq_some_iff]
    cases decoded : content.toText? <;> simp [decoded]

theorem program_eq_ok_iff (apart : m.LogApart o) {t : Text} :
    (m.logged o).program o.program = .ok t ↔
      match o.program with
      | .inline inlined => t = inlined
      | .file path => m.Holds o path (Bytes.ofText t) := by
  cases source : o.program with
  | inline inlined => simp [Machine.program, eq_comm]
  | file path =>
    have asked : path ∈ (Command.run o).paths := by simp [Command.paths, source, Source.path?]
    rw [Machine.program, readText_eq_ok_iff, ← holds_iff_read apart asked]

theorem inputOf_eq_ok_iff (apart : m.LogApart o) {input : Bytes} :
    inputOf (m.logged o) o = .ok input ↔
      match o.input with
      | none => input = m.stdin
      | some path => m.Holds o path input := by
  unfold inputOf
  cases source : o.input with
  | none => simp [eq_comm]
  | some path =>
    have asked : path ∈ (Command.run o).paths := by simp [Command.paths, source]
    simp only [holds_iff_read apart asked]
    split <;> simp_all

/-- A run is asked for what it loads. -/
theorem asks_iff (apart : m.LogApart o) {job : Job} :
    m.Asks o job ↔ (∃ logger, m.ready o = .ok ⟨job.settings, m.logged o, logger⟩) ∧
      (m.logged o).program o.program = .ok job.program ∧
      inputOf (m.logged o) o = .ok job.input := by
  rw [program_eq_ok_iff apart, inputOf_eq_ok_iff apart]
  constructor
  · rintro ⟨⟨base, logger, given, opened⟩, program, input⟩
    have ready : m.ready o = .ok ⟨job.settings, { m with files := (m.logged o).files }, logger⟩ :=
      ready_eq_ok_iff.mpr ⟨base, given, opened, rfl⟩
    refine ⟨⟨logger, ?_⟩, program, input⟩
    rw [logged_of_ready ready] at ready ⊢
    exact ready
  · rintro ⟨⟨logger, ready⟩, program, input⟩
    obtain ⟨base, given, opened, -⟩ := ready_eq_ok_iff.mp ready
    exact ⟨⟨base, logger, given, opened⟩, program, input⟩

/-- No two jobs are asked for at once. -/
theorem asks_unique (apart : m.LogApart o) {a b : Job} (first : m.Asks o a) (second : m.Asks o b) :
    a = b := by
  obtain ⟨⟨l, ready⟩, loaded, given⟩ := (asks_iff apart).mp first
  obtain ⟨⟨l', ready'⟩, loaded', given'⟩ := (asks_iff apart).mp second
  cases a
  cases b
  cases ready.symm.trans ready'
  cases loaded.symm.trans loaded'
  cases given.symm.trans given'
  rfl

end RowSieve.Cli
