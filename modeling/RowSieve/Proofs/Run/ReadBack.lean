import Mathlib.Data.List.Forall2
import RowSieve.Proofs.Run.Delivery
import RowSieve.Proofs.Table.Tidy

/-! What a run writes, read again. What the reader gives is a sheet, the program prints records
that can be written, and so the written table is a sheet in which the reader finds them. -/
namespace RowSieve.Run

variable {p : Program} {s : Settings} {input : Bytes}

/-- A written table with the names of its columns is read back when it is a sheet. -/
theorem reads_render (headed : s.output.header = true) (untrimmed : s.input.trimFields = false)
    (same : s.output.delimiter = s.input.delimiter) {t : Table}
    (sheet : Sheet s.input.delimiter.char t.columns (t.rows.map (Table.cells t.columns))) :
    Reader.Reads s.input (Bytes.ofText (t.render (layout s.output))) t.columns
      ((t.rows.map (Table.cells t.columns)).map (.ofColumns t.columns)) := by
  have reads := Reader.reads_written untrimmed sheet
  rw [Table.render_eq_lines, Table.lines, layout, headed, same, if_pos rfl]
  exact reads

/-- A program of clean settings prints nothing that cannot be written. -/
theorem tidy_printed {d : Char} (clean : p.Clean d) {header : List Text} {rows : List (List Text)}
    (sheet : Sheet d header rows) {printed : Record}
    (member : printed ∈ (rows.map (.ofColumns header)).flatMap p.printsOf) :
    printed.Tidy d header := by
  obtain ⟨r, read, printing⟩ := List.mem_flatMap.mp member
  obtain ⟨row, inside, rfl⟩ := List.mem_map.mp read
  have tidy := Record.tidy_ofColumns (sheet.wide row inside)
    (sheet.legible row (List.mem_cons_of_mem _ inside))
  exact tidy.printsOf (clean.chainFor _) printing

theorem sheet_of_run (untrimmed : s.input.trimFields = false)
    (clean : p.Clean s.input.delimiter.char) {c : Collected}
    (processed : (process p s.input input).result = .ok c) :
    Sheet s.input.delimiter.char c.table.columns (c.table.rows.map (Table.cells c.table.columns)) ∧
      c.table.rows.length = c.stats.printed := by
  obtain ⟨opened, tally, found, fed, rfl⟩ := process_eq_ok processed
  obtain ⟨records, items, _, rfl⟩ := feed_eq_ok fed
  obtain ⟨rows, sheet, same⟩ := Reader.sheet_of_reads untrimmed ⟨opened, records, found, rfl, items, rfl⟩
  have printed := totalOf_printed p (records.map Prod.snd)
  refine ⟨?_, ?_⟩
  · refine Table.sheet_emitAll sheet.distinct sheet.named (fun empty => ?_)
      (sheet.legible _ List.mem_cons_self) fun r member => ?_
    · rw [printed, same, sheet.headed empty]
      rfl
    · rw [printed, same] at member
      exact tidy_printed clean sheet member
  · calc (totalOf p (records.map Prod.snd)).printed.length
        = ((records.map Prod.snd).flatMap p.printsOf).length := congrArg List.length printed
      _ = (totalOf p (records.map Prod.snd)).stats.printed := length_printed p _

/-- Records that are each printed as they are make up all that is printed. -/
theorem feed_of_unchanged {numbered : List (Nat × Record)}
    (unchanged : ∀ r ∈ numbered.map Prod.snd, ∃ x, p.execute r = .ok x ∧ x.done.printed = [r]) :
    ∃ stats, (feed p (numbered.map .ok)).result = .ok ⟨stats, numbered.map Prod.snd⟩ := by
  induction numbered with
  | nil => exact ⟨_, rfl⟩
  | cons first numbered ih =>
    obtain ⟨line, r⟩ := first
    obtain ⟨⟨x, executed, printed⟩, later⟩ := List.forall_mem_cons.mp unchanged
    obtain ⟨stats, fed⟩ := ih later
    refine ⟨(Stats.ofExecuted x).add stats, ?_⟩
    simp [feed, executed, fed, Except.map, Tally.append, Tally.ofExecuted, printed]

theorem process_of_unchanged {header : List Text} {records : List Record}
    (reads : Reader.Reads s.input input header records)
    (unchanged : ∀ r ∈ records, ∃ x, p.execute r = .ok x ∧ x.done.printed = [r]) :
    ∃ stats, (process p s.input input).result = .ok (.ofTally header ⟨stats, records⟩) := by
  obtain ⟨opened, numbered, found, rfl, items, rfl⟩ := reads
  obtain ⟨stats, fed⟩ := feed_of_unchanged unchanged
  refine ⟨stats, ?_⟩
  simp [process, found, items, fed, Except.map]

/-- What a reader with the same settings makes of the written bytes. -/
structure ReadBack (p : Program) (s : Settings) : Prop where
  printed : p.Clean s.input.delimiter.char → ∀ input room stats,
    (run p s input room).result = .ok stats →
    ∃ (c : Collected) (records : List Record),
      (process p s.input input).result = .ok c ∧ c.stats = stats ∧
      c.table.rows.length = stats.printed ∧
      Reader.Reads s.input (run p s input room).written c.table.columns records ∧
      List.Forall₂ (fun printed r => r.names = c.table.columns ∧
        ∀ column ∈ c.table.columns, r.value? column = some ((printed.value? column).getD []))
        c.table.rows records
  unchanged : ∀ input header records, Reader.Reads s.input input header records →
    (∀ r ∈ records, ∃ x, p.execute r = .ok x ∧ x.done.printed = [r]) →
    (∃ stats, (run p s input none).result = .ok stats) ∧
      Reader.Reads s.input (run p s input none).written header records

/-- The reader gives back the columns and the printed records, the cells of missing fields empty;
and a program that prints every record as it is hands its input on to the next reader. -/
theorem run_read_back (p : Program) (s : Settings) (headed : s.output.header = true)
    (untrimmed : s.input.trimFields = false) (same : s.output.delimiter = s.input.delimiter) :
    ReadBack p s := by
  constructor
  case printed =>
    intro clean input room stats ran
    obtain ⟨c, processed, rfl, written⟩ := run_eq_ok ran
    obtain ⟨sheet, prints⟩ := sheet_of_run untrimmed clean processed
    refine ⟨c, _, processed, rfl, prints, written ▸ reads_render headed untrimmed same sheet, ?_⟩
    rw [List.forall₂_map_right_iff, List.forall₂_map_right_iff, List.forall₂_same]
    refine fun r _ => ⟨?_, fun column member => ?_⟩
    · exact List.map_fst_zip (by simp [Table.cells])
    · exact Table.value?_cells member r
  case unchanged =>
    intro input header records reads unchanged
    obtain ⟨rows, sheet, rfl⟩ := Reader.sheet_of_reads untrimmed reads
    obtain ⟨stats, processed⟩ := process_of_unchanged reads unchanged
    obtain ⟨ran, written⟩ := run_of_ok processed
    -- The table of the records is the sheet they were read from, so no setting has to be clean.
    have cells := Table.cells_sheet sheet
    have again : Reader.Reads s.input (Bytes.ofText
        (Table.render ⟨header, rows.map (.ofColumns header)⟩ (layout s.output))) header
        (((rows.map (.ofColumns header)).map (Table.cells header)).map (.ofColumns header)) :=
      reads_render headed untrimmed same (cells.symm ▸ sheet)
    rw [cells, ← Table.emitAll_sheet sheet] at again
    exact ⟨⟨stats, ran⟩, written ▸ again⟩

/-- Three lines under one column, the second of them empty and the third with returns; the first
gains a column, or all are printed as they are. -/
theorem read_back_growing_column : ∃ s : Settings, s.input.delimiter.char = '→' ∧
    (∃ (c : Collected) (records : List Record), c.table.columns = [['a'], ['b']] ∧
      records.length = 3 ∧
      Reader.Reads s.input
        (run ⟨.atom ⟨['a'], .equal, ['1'], .text⟩, [.set ['b'] ['2'], .print], [.print]⟩ s
          (Bytes.ofText ['a', '\n', '1', '\n', '\n', 'x', '\r', 'y', '\r', '\n']) none).written
        c.table.columns records) ∧
    Reader.Reads s.input
      (run ⟨.atom ⟨['a'], .equal, ['1'], .text⟩, [.print], [.print]⟩ s
        (Bytes.ofText ['a', '\n', '1', '\n', '\n', 'x', '\r', 'y', '\r', '\n']) none).written
      [['a']] [⟨[(['a'], ['1'])]⟩, ⟨[(['a'], [])]⟩, ⟨[(['a'], ['x', '\r', 'y'])]⟩] := by
  refine ⟨.withDelimiter .default ⟨'→', by decide, by decide, by decide⟩, rfl, ?_, ?_⟩
  · obtain ⟨c, records, processed, _, prints, reads, cells⟩ :=
      (run_read_back ⟨.atom ⟨['a'], .equal, ['1'], .text⟩, [.set ['b'] ['2'], .print], [.print]⟩
        (.withDelimiter .default ⟨'→', by decide, by decide, by decide⟩) rfl rfl rfl).printed
        (by decide) (Bytes.ofText ['a', '\n', '1', '\n', '\n', 'x', '\r', 'y', '\r', '\n']) none
        ⟨3, 1, 3, 1⟩ (by rfl)
    have columns := congrArg (Except.map fun c : Collected => c.table.columns) processed
    exact ⟨c, records, (Except.ok.inj columns).symm, cells.length_eq.symm.trans prints, reads⟩
  · have reads : Reader.Reads
        (Settings.withDelimiter .default ⟨'→', by decide, by decide, by decide⟩).input
        (Bytes.ofText ['a', '\n', '1', '\n', '\n', 'x', '\r', 'y', '\r', '\n'])
        [['a']] [⟨[(['a'], ['1'])]⟩, ⟨[(['a'], [])]⟩, ⟨[(['a'], ['x', '\r', 'y'])]⟩] :=
      ⟨⟨[['a']], 1, [[49], [], [120, 13, 121, 13]]⟩, [(2, ⟨[(['a'], ['1'])]⟩), (3, ⟨[(['a'], [])]⟩),
        (4, ⟨[(['a'], ['x', '\r', 'y'])]⟩)], by rfl, rfl, by rfl, rfl⟩
    refine ((run_read_back ⟨.atom ⟨['a'], .equal, ['1'], .text⟩, [.print], [.print]⟩ _ rfl rfl
      rfl).unchanged _ _ _ reads ?_).2
    simp only [List.forall_mem_cons]
    exact ⟨⟨_, rfl, rfl⟩, ⟨_, rfl, rfl⟩, ⟨_, rfl, rfl⟩, by simp⟩

end RowSieve.Run
