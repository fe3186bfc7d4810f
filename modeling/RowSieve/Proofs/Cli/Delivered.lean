import Mathlib.Tactic.Common
import RowSieve.Proofs.Cli.Asked
import RowSieve.Proofs.Cli.Output

/-! What a run leaves. It comes to one of three ends. It fails before it has touched its output,
and then nothing but the log is changed; or its output is on the way when the device fails, which
keeps what it took; or the bytes of the job are where they were to go. -/
namespace RowSieve.Cli

variable {m : Machine} {d : Devices} {o : RunOptions}

/-! ### Devices -/

@[simp] theorem Devices.limit?_sound : Devices.sound.limit? o = none := by
  unfold Devices.limit?
  cases o.output <;> rfl

/-- Devices that do not fail have room for everything. -/
theorem Job.fits_sound (job : Job) (o : RunOptions) : job.Fits .sound o := by
  intro bytes _ limit given
  simp at given

/-! ### The output and the log -/

theorem not_takes_of_refused (refused : Refused (m.logged o) o) : ¬ m.Takes o := by
  obtain ⟨path, out, e, refused⟩ := refused
  intro takes
  obtain ⟨place, free⟩ := takes path out
  rw [cwd_logged] at refused
  cases refused.symm.trans free

theorem takes_of_left {ran : Ran} {bytes : Bytes} (left : ran.Left (m.logged o) o bytes) :
    m.Takes o := by
  intro path out
  simp only [Ran.Left, Option.mem_def.mp out, cwd_logged] at left
  obtain ⟨-, place, free, -⟩ := left
  exact ⟨place, free⟩

/-- What was left is still there when the log is written. -/
theorem delivered_of_left (apart : m.LogApart o) {ran : Ran} {bytes : Bytes} {after : FileTree}
    (left : ran.Left (m.logged o) o bytes)
    (recorded : ran.files.SameBut (m.logPlace? o).toList after) (code : Nat) (stderr : Text) :
    m.Delivered o ⟨code, ran.stdout, stderr, after⟩ bytes := by
  unfold Ran.Left at left
  unfold Machine.Delivered
  cases out : o.output with
  | none =>
    simp only [out] at left ⊢
    obtain ⟨stdout, files⟩ := left
    exact ⟨stdout, sameBut_logged.trans (files ▸ recorded)⟩
  | some path =>
    simp only [out, cwd_logged] at left ⊢
    obtain ⟨stdout, place, free, files⟩ := left
    rw [files] at recorded
    have led : m.placeOf o path = .ok place := FileTree.place_of_writable free
    have asked : path ∈ (Command.run o).paths := by simp [Command.paths, out]
    refine ⟨stdout, place, led, ?_, ?_⟩
    · rw [recorded place (notMem_logPlace? apart asked led), FileTree.lookup_put, if_pos rfl]
    · have opened := (sameBut_logged (m := m) (o := o)).mono (List.subset_cons_self place _)
      have put := (FileTree.sameBut_put (m.logged o).files place bytes).mono
        (List.cons_subset_cons place (List.nil_subset (m.logPlace? o).toList))
      exact (opened.trans put).trans (recorded.mono (List.subset_cons_self place _))

/-- Where a run reads its input, it can write its output. -/
theorem takes_of_inPlace (apart : m.LogApart o) {job : Job} (asks : m.Asks o job)
    (same : m.InPlace o) : m.Takes o := by
  obtain ⟨input, source, output, given, place, led, back⟩ := same
  have asked : input ∈ (Command.run o).paths := by
    simp [Command.paths, Option.mem_def.mp source]
  have held : m.Holds o input job.input := by
    have held := asks.input
    rwa [Option.mem_def.mp source] at held
  obtain ⟨place', led', there⟩ := FileTree.read_eq_ok_iff.mp ((holds_iff_read apart asked).mp held)
  rw [cwd_logged] at led'
  obtain rfl : place = place' := Except.ok.inj (led.symm.trans led')
  intro path some
  obtain rfl : output = path := Option.some.inj (given.symm.trans some)
  exact ⟨place, FileTree.writable_of_lookup back there⟩

/-! ### The ends of a run -/

/-- A run comes to one of three ends. -/
inductive Ends (m : Machine) (d : Devices) (o : RunOptions) (after : Outcome) : Prop where
  | failed (code : after.code = 1) (untouched : m.Untouched o after)
      (short : ∀ job bytes, m.Asks o job → job.written = .ok bytes → ¬ m.Takes o)
  | cut (code : after.code = 1) (job : Job) (bytes : Bytes) (asks : m.Asks o job)
      (written : job.written = .ok bytes) (takes : m.Takes o) (limit : Limit)
      (limited : limit ∈ d.limit? o) (short : limit.room < bytes.length)
      (delivered : m.Delivered o after (bytes.take limit.room))
  | done (code : after.code = 0) (job : Job) (bytes : Bytes) (asks : m.Asks o job)
      (written : job.written = .ok bytes) (takes : m.Takes o) (room : d.HasRoom o bytes)
      (delivered : m.Delivered o after bytes)

section
variable {s : Settings} {t : Text} {logger : Logger}

/-- Once the settings and the program are there, a job that is asked for differs in its input
alone. -/
theorem asks_iff_of_loaded (apart : m.LogApart o)
    (ready : m.ready o = .ok ⟨s, m.logged o, logger⟩)
    (loaded : (m.logged o).program o.program = .ok t) {job : Job} :
    m.Asks o job ↔ ∃ input, job = ⟨s, t, input⟩ ∧ inputOf (m.logged o) o = .ok input := by
  rw [asks_iff apart]
  constructor
  · rintro ⟨⟨logger', ready'⟩, loaded', given⟩
    obtain ⟨s', t', input⟩ := job
    cases ready.symm.trans ready'
    cases loaded.symm.trans loaded'
    exact ⟨input, rfl, given⟩
  · rintro ⟨input, rfl, given⟩
    exact ⟨⟨logger, ready⟩, loaded, given⟩

/-- The end that a run comes to by what its program has left, once the log is written. -/
theorem Ends.of_reached (apart : m.LogApart o) (ready : m.ready o = .ok ⟨s, m.logged o, logger⟩)
    (loaded : (m.logged o).program o.program = .ok t) {p : Program}
    (compiled : (Run.compile t).result = .ok p) {ran : Ran}
    (reached : Reached (m.logged o) d s o p ran) {after : FileTree}
    (recorded : ran.files.SameBut (m.logPlace? o).toList after) (stderr : Text) :
    (∀ e, ran.result = .error e → Ends m d o ⟨1, ran.stdout, stderr, after⟩) ∧
      ∀ stats, ran.result = .ok stats → Ends m d o ⟨0, ran.stdout, stderr, after⟩ := by
  have asks {input : Bytes} (given : inputOf (m.logged o) o = .ok input) :
      m.Asks o ⟨s, t, input⟩ := (asks_iff_of_loaded apart ready loaded).mpr ⟨input, rfl, given⟩
  have written {input bytes : Bytes} (writes : Writes p s input bytes) :
      Job.written ⟨s, t, input⟩ = .ok bytes :=
    Job.written_eq_ok_iff.mpr ⟨p, compiled, writes⟩
  cases reached with
  | nothing e failed still short =>
    refine ⟨fun _ _ => ?_, fun stats succeeded => ?_⟩
    · refine .failed rfl ⟨still.1, sameBut_logged.trans (still.2 ▸ recorded)⟩ ?_
      intro job bytes asked finished
      obtain ⟨input, rfl, given⟩ := (asks_iff_of_loaded apart ready loaded).mp asked
      obtain ⟨p', found, writes⟩ := Job.written_eq_ok_iff.mp finished
      cases compiled.symm.trans found
      exact not_takes_of_refused (short input bytes given writes)
    · cases failed.symm.trans succeeded
  | part e failed input bytes given writes limit limited short left =>
    refine ⟨fun _ _ => ?_, fun stats succeeded => ?_⟩
    · exact .cut rfl _ bytes (asks given) (written writes) (takes_of_left left) limit limited short
        (delivered_of_left apart left recorded 1 stderr)
    · cases failed.symm.trans succeeded
  | whole stats succeeded input bytes given writes room left =>
    refine ⟨fun e failed => ?_, fun _ _ => ?_⟩
    · cases succeeded.symm.trans failed
    · exact .done rfl _ bytes (asks given) (written writes) (takes_of_left left) room
        (delivered_of_left apart left recorded 0 stderr)

end

theorem executeRun_ends (apart : m.LogApart o) (d : Devices) :
    Ends m d o (executeRun m o d) := by
  unfold executeRun
  cases ready : m.ready o with
  | error message =>
    refine .failed rfl ⟨rfl, .refl _ _⟩ fun job bytes asks => ?_
    obtain ⟨⟨logger, found⟩, -⟩ := (asks_iff apart).mp asks
    cases ready.symm.trans found
  | ok r =>
    obtain ⟨s, now, logger⟩ := r
    obtain rfl : m.logged o = now := logged_of_ready ready
    have recorded (events : List Log.Event) (files : FileTree) :
        files.SameBut (m.logPlace? o).toList (logger.record (m.logged o).time events files) := by
      rw [logPlace?_of_ready ready]
      exact FileTree.sameBut_record _ _ _ _
    simp only
    cases loaded : (m.logged o).program o.program with
    | error message =>
      refine .failed rfl ⟨rfl, sameBut_logged⟩ fun job bytes asks => ?_
      cases loaded.symm.trans ((asks_iff apart).mp asks).2.1
    | ok t =>
      simp only
      cases compiled : (Run.compile t).result with
      | error e =>
        refine .failed rfl ⟨rfl, sameBut_logged.trans (recorded _ _)⟩ ?_
        intro job bytes asks written
        obtain ⟨input, rfl, -⟩ := (asks_iff_of_loaded apart ready loaded).mp asks
        obtain ⟨p, found, -⟩ := Job.written_eq_ok_iff.mp written
        cases compiled.symm.trans found
      | ok p =>
        simp only
        have reached := runBetween_reached (m.logged o) d s o p
        cases result : (runBetween (m.logged o) d s o p).result with
        | error e =>
          refine (Ends.of_reached apart ready loaded compiled reached ?_ _).1 e result
          exact recorded _ _
        | ok stats =>
          refine (Ends.of_reached apart ready loaded compiled reached ?_ _).2 stats result
          exact recorded _ _

namespace Ends

variable {after : Outcome}

theorem code_cases (ends : Ends m d o after) : after.code = 0 ∨ after.code = 1 := by
  cases ends with
  | failed code | cut code => exact .inr code
  | done code => exact .inl code

theorem of_code_one (ends : Ends m d o after) (one : after.code = 1) :
    m.Untouched o after ∨ m.CutShort d o after := by
  cases ends with
  | failed _ untouched => exact .inl untouched
  | cut _ job bytes asks written takes limit limited short delivered =>
    exact .inr ⟨job, bytes, asks, written, takes, limit, limited, short, delivered⟩
  | done code => omega

theorem of_code_zero (ends : Ends m d o after) (zero : after.code = 0) :
    ∃ job bytes, m.Asks o job ∧ job.written = .ok bytes ∧ m.Delivered o after bytes := by
  cases ends with
  | failed code | cut code => omega
  | done code job bytes asks written takes room delivered =>
    exact ⟨job, bytes, asks, written, delivered⟩

theorem code_eq_zero_iff (ends : Ends m d o after) (apart : m.LogApart o) {job : Job}
    (asks : m.Asks o job) :
    after.code = 0 ↔ m.Takes o ∧ ∃ bytes, job.written = .ok bytes ∧ d.HasRoom o bytes := by
  cases ends with
  | failed code _ short =>
    refine ⟨fun zero => by omega, ?_⟩
    rintro ⟨takes, bytes, written, -⟩
    exact absurd takes (short job bytes asks written)
  | cut code job' bytes asks' written takes limit limited short =>
    obtain rfl := asks_unique apart asks asks'
    refine ⟨fun zero => by omega, ?_⟩
    rintro ⟨-, bytes', written', room⟩
    obtain rfl : bytes = bytes' := Except.ok.inj (written.symm.trans written')
    exact absurd (room limit limited) (Nat.not_le_of_lt short)
  | done code job' bytes asks' written takes room =>
    obtain rfl := asks_unique apart asks asks'
    exact ⟨fun _ => ⟨takes, bytes, written, room⟩, fun _ => code⟩

/-- A device that fails keeps what it took. -/
theorem delivered_of_short (ends : Ends m d o after) (apart : m.LogApart o) {job : Job}
    (asks : m.Asks o job) {bytes : Bytes} (written : job.written = .ok bytes) (takes : m.Takes o)
    {limit : Limit} (limited : limit ∈ d.limit? o) (short : limit.room < bytes.length) :
    m.Delivered o after (bytes.take limit.room) := by
  cases ends with
  | failed _ _ refused => exact absurd takes (refused job bytes asks written)
  | cut _ job' bytes' asks' written' _ limit' limited' _ delivered =>
    obtain rfl := asks_unique apart asks asks'
    obtain rfl : bytes = bytes' := Except.ok.inj (written.symm.trans written')
    obtain rfl : limit = limit' := Option.some.inj (limited.symm.trans limited')
    exact delivered
  | done _ job' bytes' asks' written' _ room =>
    obtain rfl := asks_unique apart asks asks'
    obtain rfl : bytes = bytes' := Except.ok.inj (written.symm.trans written')
    exact absurd (room limit limited) (Nat.not_le_of_lt short)

end Ends

theorem Machine.CutShort.not_fits {after : Outcome} (cut : m.CutShort d o after) :
    ∃ job, m.Asks o job ∧ ¬ job.Fits d o := by
  obtain ⟨job, bytes, asks, written, -, limit, limited, short, -⟩ := cut
  exact ⟨job, asks, fun fits => Nat.not_le_of_lt short (fits bytes written limit limited)⟩

/-- A run with accepted arguments exits with 0 or with 1. With 1 the output stream is empty and no
file but the log file is changed, unless the device that the output goes to fails, as a sound one
never does: then it has the bytes that it took of those the job writes, and all else is as it was.
With 0 all the bytes that the job writes are delivered. The code and the bytes depend on the job and
on whether the output can be written, not on where the parts of the job come from or the output
goes; where the input is read it can be written. -/
theorem executeArguments_run {m : Machine} {args : List Text} {o : RunOptions}
    (accepted : Command.parse? args = some (.run o)) (apart : m.LogApart o) (d : Devices) :
    let after := executeArguments m args d
    (after.code = 0 ∨ after.code = 1) ∧
    (after.code = 1 → m.Untouched o after ∨ m.CutShort d o after) ∧
    ((∀ job, m.Asks o job → job.Fits d o) → after.code = 1 → m.Untouched o after) ∧
    (after.code = 0 → ∃ job bytes, m.Asks o job ∧ job.written = .ok bytes ∧
      m.Delivered o after bytes) ∧
    ∀ job, m.Asks o job → (m.InPlace o → m.Takes o) ∧
      (after.code = 0 ↔ m.Takes o ∧ ∃ bytes, job.written = .ok bytes ∧ d.HasRoom o bytes) ∧
      (∀ bytes, job.written = .ok bytes → m.Takes o → ∀ limit ∈ d.limit? o,
        limit.room < bytes.length → m.Delivered o after (bytes.take limit.room)) ∧
      ∀ m' args' o' d', Command.parse? args' = some (.run o') → m'.LogApart o' → m'.Asks o' job →
        m.Takes o → m'.Takes o' → job.Fits d o → job.Fits d' o' →
        after.code = (executeArguments m' args' d').code ∧
        (after.code = 0 → ∃ bytes, m.Delivered o after bytes ∧
          m'.Delivered o' (executeArguments m' args' d') bytes) := by
  have ran {m : Machine} {args o d} (accepted : Command.parse? args = some (.run o)) :
      executeArguments m args d = executeRun m o d := by
    simp only [executeArguments, accepted, execute]
  have ends := executeRun_ends apart d
  simp only [ran accepted]
  refine ⟨ends.code_cases, ends.of_code_one, fun fits one => ?_, ends.of_code_zero, fun job asks =>
    ⟨takes_of_inPlace apart asks, ends.code_eq_zero_iff apart asks, ?_, ?_⟩⟩
  · refine (ends.of_code_one one).resolve_right fun cut => ?_
    obtain ⟨job, asks, exceeds⟩ := cut.not_fits
    exact exceeds (fits job asks)
  · exact fun bytes written takes limit limited short =>
      ends.delivered_of_short apart asks written takes limited short
  intro m' args' o' d' accepted' apart' asks' takes takes' fits fits'
  have ends' := executeRun_ends apart' d'
  simp only [ran accepted']
  have same : (executeRun m o d).code = 0 ↔ (executeRun m' o' d').code = 0 := by
    rw [ends.code_eq_zero_iff apart asks, ends'.code_eq_zero_iff apart' asks']
    constructor
    · rintro ⟨-, bytes, written, -⟩
      exact ⟨takes', bytes, written, fits' bytes written⟩
    · rintro ⟨-, bytes, written, -⟩
      exact ⟨takes, bytes, written, fits bytes written⟩
  refine ⟨?_, fun done => ?_⟩
  · rcases ends.code_cases with code | code <;> rcases ends'.code_cases with code' | code' <;> omega
  · obtain ⟨job₁, bytes, asks₁, written, delivered⟩ := ends.of_code_zero done
    obtain ⟨job₂, bytes', asks₂, written', delivered'⟩ := ends'.of_code_zero (same.mp done)
    obtain rfl := asks_unique apart asks asks₁
    obtain rfl := asks_unique apart' asks' asks₂
    obtain rfl : bytes = bytes' := Except.ok.inj (written.symm.trans written')
    exact ⟨bytes, delivered, delivered'⟩

/-! A program given to the standard streams, and the same one given to files with the output in
place of the input. -/

/-- A folder `w` with a program, its input and settings that name a log file. The input is on the
input stream as well. -/
def workshop : Machine :=
  ⟨⟨[(["w".toList, "p".toList], Bytes.ofText "q{a=1} t{p;} f{}".toList),
      (["w".toList, "d".toList], Bytes.ofText "a\tb\n1\t2\n3\t4\n".toList),
      (["w".toList, "c".toList], Bytes.ofText "[logging]\nfile = \"l\"\n".toList)], []⟩,
    ["w".toList], Bytes.ofText "a\tb\n1\t2\n3\t4\n".toList, []⟩

def workshopJob : Job :=
  ⟨{ Settings.default.withDelimiter .tab with logging.file := some "l".toList },
    "q{a=1} t{p;} f{}".toList, Bytes.ofText "a\tb\n1\t2\n3\t4\n".toList⟩

def workshopLogger : Logger :=
  ⟨[⟨[], none, .level .warn⟩], .plain, some ["w".toList, "l".toList]⟩

theorem workshop_apart {o : RunOptions}
    (ready : workshop.logPlace? o = workshopLogger.file)
    (others : ∀ path ∈ (Command.run o).paths,
      workshop.placeOf o path ≠ .ok ["w".toList, "l".toList]) :
    workshop.LogApart o := by
  intro place found
  obtain rfl := Option.some.inj (ready.symm.trans found)
  exact others

def overStreams : RunOptions :=
  ⟨.inline "q{a=1} t{p;} f{}".toList, none, none, some "c".toList, some "tab".toList⟩

theorem workshop_asks_overStreams :
    workshop.LogApart overStreams ∧ workshop.Asks overStreams workshopJob := by
  have apart : workshop.LogApart overStreams :=
    workshop_apart (by decide +kernel) (by decide +kernel)
  exact ⟨apart, (asks_iff apart).mpr
    ⟨⟨workshopLogger, by decide +kernel⟩, by decide +kernel, by decide +kernel⟩⟩

def overFile : RunOptions :=
  ⟨.file "p".toList, some "d".toList, some "d".toList, some "c".toList, some "tab".toList⟩

theorem workshop_asks_overFile :
    workshop.LogApart overFile ∧ workshop.Asks overFile workshopJob := by
  have apart : workshop.LogApart overFile :=
    workshop_apart (by decide +kernel) (by decide +kernel)
  exact ⟨apart, (asks_iff apart).mpr
    ⟨⟨workshopLogger, by decide +kernel⟩, by decide +kernel, by decide +kernel⟩⟩

theorem workshop_inPlace : workshop.InPlace overFile :=
  ⟨"d".toList, rfl, "d".toList, rfl, ["w".toList, "d".toList], by decide +kernel, by decide +kernel⟩

def workshopBytes : Bytes := Bytes.ofText "a\tb\n1\t2\n".toList

def brokenPipe : Devices := ⟨some ⟨3, "Broken pipe (os error 32)".toList⟩, none⟩

/-- Both invocations exit with 0 and deliver the same bytes. Over the broken output stream the
first one exits with 1 and leaves three of them. -/
theorem executeArguments_workshop :
    let streams := executeArguments workshop
      (["run", "-p", "q{a=1} t{p;} f{}", "-c", "c", "-d", "tab"].map String.toList)
    let file := executeArguments workshop
      (["run", "-f", "p", "-i", "d", "-o", "d", "-c", "c", "-d", "tab"].map String.toList)
    let broken := executeArguments workshop
      (["run", "-p", "q{a=1} t{p;} f{}", "-c", "c", "-d", "tab"].map String.toList) brokenPipe
    streams.code = 0 ∧ file.code = 0 ∧
      (∃ bytes, workshop.Delivered overStreams streams bytes ∧
        workshop.Delivered overFile file bytes) ∧
      broken.code = 1 ∧ workshop.Delivered overStreams broken (Bytes.ofText "a\tb".toList) := by
  obtain ⟨apart, asks⟩ := workshop_asks_overStreams
  obtain ⟨apart', asks'⟩ := workshop_asks_overFile
  have written : workshopJob.written = .ok workshopBytes := by decide +kernel
  have takes : workshop.Takes overStreams := fun path none => by cases none
  have accepted : Command.parse? (["run", "-p", "q{a=1} t{p;} f{}", "-c", "c",
      "-d", "tab"].map String.toList) = some (.run overStreams) := by decide +kernel
  have accepted' : Command.parse? (["run", "-f", "p", "-i", "d", "-o", "d", "-c", "c",
      "-d", "tab"].map String.toList) = some (.run overFile) := by decide +kernel
  have fits := workshopJob.fits_sound
  obtain ⟨-, -, -, -, ran⟩ := executeArguments_run accepted apart .sound
  obtain ⟨-, zero, -, same⟩ := ran workshopJob asks
  obtain ⟨-, -, -, -, ran'⟩ := executeArguments_run accepted' apart' .sound
  obtain ⟨code, delivered⟩ := same workshop _ overFile .sound accepted' apart' asks' takes
    ((ran' workshopJob asks').1 workshop_inPlace) (fits _) (fits _)
  have done := zero.mpr ⟨takes, _, written, fits _ _ written⟩
  -- three bytes are fewer than the job writes
  have short : 3 < workshopBytes.length := by decide +kernel
  obtain ⟨codes, -, -, -, broken⟩ := executeArguments_run accepted apart brokenPipe
  obtain ⟨-, zero', cut, -⟩ := broken workshopJob asks
  refine ⟨done, code ▸ done, delivered done, codes.resolve_left fun none => ?_,
    cut _ written takes _ rfl short⟩
  obtain ⟨-, bytes, written', room⟩ := zero'.mp none
  obtain rfl : workshopBytes = bytes := Except.ok.inj (written.symm.trans written')
  exact Nat.not_le_of_lt short (room _ rfl)

end RowSieve.Cli
