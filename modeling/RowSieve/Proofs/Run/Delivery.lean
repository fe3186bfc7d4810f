import RowSieve.Proofs.Reader.Numbering
import RowSieve.Proofs.Run.Account

/-! What reaches the destination. Records are only collected until the input has been read to its
end, so an error on the way finds the destination untouched; and the destination takes the written
table byte by byte, wherever the cuts between the pieces lie. -/
namespace RowSieve

/-- The line that an error names, if it comes from a row or from the input. -/
def RunError.line? : RunError → Option Nat
  | evaluation line _ => some line
  | input e => some e.line
  | rejected _ | unreadable .. | full | unwritable .. => none

namespace Run

variable {p : Program}

def taken (p : Program) : Reader.Item → Except RunError Tally
  | .error e => .error (.input e)
  | .ok (line, r) =>
    match p.execute r with
    | .error e => .error (.evaluation line e)
    | .ok x => .ok (.ofExecuted x)

theorem feed_cons (item : Reader.Item) (items : List Reader.Item) :
    (feed p (item :: items)).result =
      taken p item >>= fun tally => (feed p items).result.map tally.append := by
  rcases item with refused | ⟨line, r⟩
  · rfl
  · simp only [feed, taken]
    cases p.execute r <;> rfl

theorem taken_error_named {item : Reader.Item} {e : RunError} (failed : taken p item = .error e) :
    e.line?.isSome := by
  rcases item with refused | ⟨line, r⟩
  · cases failed
    rfl
  · simp only [taken] at failed
    cases executed : p.execute r with
    | error why =>
      simp only [executed] at failed
      cases failed
      rfl
    | ok x => simp [executed] at failed

theorem feed_error_named {items : List Reader.Item} {e : RunError}
    (failed : (feed p items).result = .error e) : e.line?.isSome := by
  induction items with
  | nil => cases failed
  | cons item items ih =>
    rw [feed_cons] at failed
    cases here : taken p item with
    | error why =>
      rw [here] at failed
      cases failed
      exact taken_error_named here
    | ok tally =>
      rw [here] at failed
      exact ih (map_eq_error_iff.mp failed)

theorem process_error_named {s : Settings.Input} {input : Bytes} {e : RunError}
    (failed : (process p s input).result = .error e) : e.line?.isSome := by
  unfold process at failed
  cases found : Reader.start s input with
  | error why =>
    simp only [found] at failed
    cases failed
    rfl
  | ok opened =>
    simp only [found] at failed
    exact feed_error_named (map_eq_error_iff.mp failed)

section
variable {s : Settings} {input : Bytes}

theorem run_of_error {e : RunError} (failed : (process p s.input input).result = .error e)
    (room : Option Nat) :
    (run p s input room).result = .error e ∧ (run p s input room).written = [] := by
  simp [run, failed]

theorem run_of_ok {c : Collected} (processed : (process p s.input input).result = .ok c) :
    (run p s input none).result = .ok c.stats ∧
      (run p s input none).written = Bytes.ofText (c.table.render (layout s.output)) := by
  simp [run, processed, deliver, flatten_bytePieces]

theorem run_limited_of_ok {c : Collected} (processed : (process p s.input input).result = .ok c)
    (n : Nat) :
    if (run p s input none).written.length ≤ n then
      (run p s input (some n)).result = .ok c.stats ∧
        (run p s input (some n)).written = (run p s input none).written
    else
      (run p s input (some n)).result = .error .full ∧
        (run p s input (some n)).written = (run p s input none).written.take n := by
  rw [(run_of_ok processed).2]
  split
  · rename_i fits
    simp [run, processed, deliver, takePieces_eq, flatten_bytePieces, fits,
      List.take_of_length_le fits]
  · rename_i exceeds
    simp [run, processed, deliver, takePieces_eq, flatten_bytePieces, exceeds]

/-- An error that names a line arose before anything was handed out. -/
theorem process_eq_error {room : Option Nat} {e : RunError}
    (failed : (run p s input room).result = .error e) (named : e.line?.isSome) :
    (process p s.input input).result = .error e := by
  cases processed : (process p s.input input).result with
  | error e' =>
    exact congrArg Except.error (Except.error.inj ((run_of_error processed room).1.symm.trans failed))
  | ok c =>
    simp only [run, processed] at failed
    split at failed
    · contradiction
    · cases failed
      contradiction

end

/-- A run that fails for want of anything but room fails in the same way whatever the room is,
with nothing written. A run that succeeds with all the room it wants does so in any room that
holds what it writes; in less it fills the room and reports that. -/
theorem run_all_or_nothing (p : Program) (s : Settings) (input : Bytes) (n : Nat) :
    (∀ e, (run p s input none).result = .error e →
      e.line?.isSome ∧ (run p s input (some n)).result = .error e ∧
        (run p s input (some n)).written = []) ∧
    ∀ stats, (run p s input none).result = .ok stats →
      if (run p s input none).written.length ≤ n then
        (run p s input (some n)).result = .ok stats ∧
          (run p s input (some n)).written = (run p s input none).written
      else
        (run p s input (some n)).result = .error .full ∧
          (run p s input (some n)).written = (run p s input none).written.take n := by
  cases processed : (process p s.input input).result with
  | error e =>
    have failed := run_of_error processed
    refine ⟨fun e' found => ?_, fun stats found => ?_⟩
    · obtain rfl := Except.error.inj ((failed none).1.symm.trans found)
      exact ⟨process_error_named processed, failed (some n)⟩
    · cases (failed none).1.symm.trans found
  | ok c =>
    have ran := (run_of_ok processed).1
    refine ⟨fun e found => ?_, fun stats found => ?_⟩
    · cases ran.symm.trans found
    · obtain rfl := Except.ok.inj (ran.symm.trans found)
      exact run_limited_of_ok processed n

end Run
end RowSieve
