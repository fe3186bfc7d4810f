import RowSieve.Proofs.Chain.Moments
import RowSieve.Proofs.Outcome
import RowSieve.Proofs.Reader.Header
import RowSieve.Proofs.Table.Columns
import RowSieve.Run

/-! A run that ends well accounts for every record the reader gave: the counts, the columns
and every written cell follow from the records alone. -/
namespace RowSieve

theorem Bytes.ofText_flatten (pieces : List Text) :
    ofText pieces.flatten = (pieces.map ofText).flatten := by
  simp only [ofText, List.flatMap_def, List.map_flatten, List.flatten_flatten, List.map_map]
  rfl

namespace Program

def holds (p : Program) (r : Record) : Bool := p.query.eval r matches .ok true

def printsOf (p : Program) (r : Record) : List Record := (p.chainFor (p.holds r)).printsOf r

theorem execute_eq_ok {p : Program} {r : Record} {x : Executed} (executed : p.execute r = .ok x) :
    p.query.eval r = .ok (p.holds r) ∧ x = ⟨p.holds r, (p.chainFor (p.holds r)).run r⟩ := by
  unfold execute at executed
  split at executed
  · rename_i matched decided
    have same : p.holds r = matched := by cases matched <;> simp [holds, decided]
    rw [same]
    exact ⟨decided, (Except.ok.inj executed).symm⟩
  · contradiction

theorem execute_eq_error {p : Program} {r : Record} {e : EvalError}
    (failed : p.execute r = .error e) : p.query.eval r = .error e := by
  unfold execute at failed
  split at failed
  · contradiction
  · rename_i undecided
    exact undecided.trans (congrArg _ (Except.error.inj failed))

/-- The columns of what is printed for the records, under a header. -/
def columnsOf (p : Program) (header : List Text) (records : List Record) : List Text :=
  header ++ Table.newNames header ((records.flatMap p.printsOf).flatMap Record.names)

end Program

namespace Run

def tallyOf (p : Program) (r : Record) : Tally :=
  let chain := p.chainFor (p.holds r)
  ⟨⟨1, (p.holds r).toNat, chain.prints, chain.sets⟩, p.printsOf r⟩

theorem ofExecuted_eq_tallyOf {p : Program} {r : Record} {x : Program.Executed}
    (executed : p.execute r = .ok x) : Tally.ofExecuted x = tallyOf p r := by
  obtain ⟨_, rfl⟩ := Program.execute_eq_ok executed
  simp [Tally.ofExecuted, Stats.ofExecuted, tallyOf, Program.printsOf, Chain.effects_run,
    Chain.printed_run]

def totalOf (p : Program) (records : List Record) : Tally :=
  records.foldr (fun r => (tallyOf p r).append) .empty

theorem totalOf_printed (p : Program) (records : List Record) :
    (totalOf p records).printed = records.flatMap p.printsOf := by
  induction records with
  | nil => rfl
  | cons r records ih =>
    rw [List.flatMap_cons, ← ih]
    rfl

theorem totalOf_stats (p : Program) (records : List Record) :
    (totalOf p records).stats =
      ⟨records.length, records.countP p.holds,
        records.countP p.holds * p.onTrue.prints
          + (records.length - records.countP p.holds) * p.onFalse.prints,
        records.countP p.holds * p.onTrue.sets
          + (records.length - records.countP p.holds) * p.onFalse.sets⟩ := by
  induction records with
  | nil => simp [totalOf, Tally.empty, Stats.zero]
  | cons r records ih =>
    have step : (totalOf p (r :: records)).stats =
        (tallyOf p r).stats.add (totalOf p records).stats := rfl
    rw [step, ih]
    have within := List.countP_le_length (p := p.holds) (l := records)
    cases decided : p.holds r with
    | true =>
      simp [tallyOf, Stats.add, Program.chainFor, decided]
      grind
    | false =>
      have others : records.length + 1 - records.countP p.holds =
          records.length - records.countP p.holds + 1 := by omega
      simp [tallyOf, Stats.add, Program.chainFor, decided, others]
      grind

/-- A run over the items succeeds on records only, each of which decides the query. -/
theorem feed_eq_ok {p : Program} {items : List Reader.Item} {tally : Tally}
    (fed : (feed p items).result = .ok tally) :
    ∃ records : List (Nat × Record), items = records.map .ok ∧
      (∀ r ∈ records.map Prod.snd, p.query.eval r = .ok (p.holds r)) ∧
      tally = totalOf p (records.map Prod.snd) := by
  induction items generalizing tally with
  | nil =>
    cases fed
    exact ⟨[], rfl, by simp, rfl⟩
  | cons item items ih =>
    rcases item with _ | ⟨line, r⟩
    · contradiction
    · simp only [feed] at fed
      split at fed
      · contradiction
      · rename_i x executed
        obtain ⟨more, later, rfl⟩ := map_eq_ok_iff.mp fed
        obtain ⟨records, rfl, decided, rfl⟩ := ih later
        refine ⟨(line, r) :: records, rfl, ?_, ?_⟩
        · simpa using ⟨(Program.execute_eq_ok executed).1, by simpa using decided⟩
        · rw [ofExecuted_eq_tallyOf executed]
          rfl

/-- A limited destination takes the beginning of all that is handed to it. -/
theorem takePieces_eq (room : Nat) (pieces : List Bytes) :
    takePieces room pieces = (pieces.flatten.take room, decide (pieces.flatten.length ≤ room)) := by
  fun_induction takePieces room pieces with
  | case1 room => simp
  | case2 room piece pieces fits taken all more ih =>
    obtain ⟨rfl, rfl⟩ := Prod.mk.inj (more.symm.trans ih)
    have rest : pieces.flatten.length ≤ room - piece.length ↔
        piece.length + pieces.flatten.length ≤ room := by omega
    simp only [List.flatten_cons, List.take_append, List.take_of_length_le fits,
      List.length_append, rest]
  | case3 room piece pieces exceeds =>
    have short : room ≤ piece.length := by omega
    have cut : ¬piece.length + pieces.flatten.length ≤ room := by omega
    simp only [List.flatten_cons, List.take_append_of_le_length short, List.length_append, cut,
      decide_false]

theorem deliver_all {room : Option Nat} {pieces : List Bytes}
    (all : (deliver room pieces).2 = true) : (deliver room pieces).1 = pieces.flatten := by
  cases room with
  | none => rfl
  | some room =>
    simp only [deliver, takePieces_eq, decide_eq_true_eq] at all ⊢
    exact List.take_of_length_le all

theorem flatten_bytePieces (t : Table) (layout : Table.Layout) :
    (bytePieces t layout).flatten = Bytes.ofText (t.render layout) :=
  (Bytes.ofText_flatten _).symm

theorem process_eq_ok {p : Program} {s : Settings.Input} {input : Bytes} {c : Collected}
    (processed : (process p s input).result = .ok c) :
    ∃ opened tally, Reader.start s input = .ok opened ∧
      (feed p (opened.items s)).result = .ok tally ∧ c = .ofTally opened.header tally := by
  simp only [process] at processed
  split at processed
  · contradiction
  · rename_i opened found
    obtain ⟨tally, fed, rfl⟩ := map_eq_ok_iff.mp processed
    exact ⟨opened, tally, found, fed, rfl⟩

theorem run_eq_ok {p : Program} {s : Settings} {input : Bytes} {room : Option Nat} {stats : Stats}
    (ran : (run p s input room).result = .ok stats) :
    ∃ c, (process p s.input input).result = .ok c ∧ stats = c.stats ∧
      (run p s input room).written = Bytes.ofText (c.table.render (layout s.output)) := by
  cases processed : (process p s.input input).result with
  | error e => simp [run, processed] at ran
  | ok c =>
    by_cases all : (deliver room (bytePieces c.table (layout s.output))).2 = true
    · simp only [run, processed, all, if_true, Except.ok.injEq] at ran ⊢
      exact ⟨c, rfl, ran.symm, by rw [deliver_all all, flatten_bytePieces]⟩
    · simp [run, processed, all] at ran

/-- What a run owes to the records it has read: the counts, and the written table down to
the cell. -/
structure Accounted (p : Program) (layout : Table.Layout) (header : List Text)
    (records : List Record) (stats : Stats) (written : Bytes) : Prop where
  decided : ∀ r ∈ records, p.query.eval r = .ok (p.holds r)
  rows : stats.rows = records.length
  matched : stats.matched = records.countP p.holds
  printed : stats.printed =
    stats.matched * p.onTrue.prints + (stats.rows - stats.matched) * p.onFalse.prints
  mutated : stats.mutated =
    stats.matched * p.onTrue.sets + (stats.rows - stats.matched) * p.onFalse.sets
  lines : (records.flatMap p.printsOf).length = stats.printed
  written : written = Bytes.ofText
    (((if layout.header then [p.columnsOf header records] else []) ++
      (records.flatMap p.printsOf).map (Table.cells (p.columnsOf header records))).flatMap
        (Table.lineText layout.delimiter))
  distinct : (p.columnsOf header records).Nodup
  placed : ∀ r ∈ records.flatMap p.printsOf, ∀ name value, (name, value) ∈ r.fields →
    ∃ i : Nat, (p.columnsOf header records)[i]? = some name ∧
      (Table.cells (p.columnsOf header records) r)[i]? = some value ∧
      ∀ j : Nat, (p.columnsOf header records)[j]? = some name → j = i

theorem nodup_names_printed {p : Program} {header : List Text} {records : List Record}
    (distinct : header.Nodup) (named : ∀ r ∈ records, r.names = header) {printed : Record}
    (member : printed ∈ records.flatMap p.printsOf) : printed.names.Nodup := by
  obtain ⟨r, read, member⟩ := List.mem_flatMap.mp member
  exact Chain.nodup_of_mem_printsOf (named r read ▸ distinct) member

theorem length_printed (p : Program) (records : List Record) :
    (records.flatMap p.printsOf).length = (totalOf p records).stats.printed := by
  induction records with
  | nil => rfl
  | cons r records ih =>
    rw [List.flatMap_cons, List.length_append, ih]
    exact congrArg (· + _) (Chain.length_printsOf _ r)

theorem names_of_items {s : Settings.Input} {opened : Reader.Opened}
    {records : List (Nat × Record)} (items : opened.items s = records.map .ok) :
    ∀ r ∈ records.map Prod.snd, r.names = opened.header := by
  intro r read
  obtain ⟨⟨line, r⟩, member, rfl⟩ := List.mem_map.mp read
  have given : .ok (line, r) ∈ opened.items s := items ▸ List.mem_map_of_mem member
  exact Reader.names_of_mem_itemsFrom given

theorem accounted_ofTally {p : Program} {layout : Table.Layout} {header : List Text}
    {records : List Record} (distinct : header.Nodup) (named : ∀ r ∈ records, r.names = header)
    (decided : ∀ r ∈ records, p.query.eval r = .ok (p.holds r)) :
    Accounted p layout header records (totalOf p records).stats
      (Bytes.ofText ((Collected.ofTally header (totalOf p records)).table.render layout)) := by
  have counts := totalOf_stats p records
  have columns : (p.columnsOf header records).Nodup := Table.nodup_columns distinct _
  refine ⟨decided, ?_, ?_, ?_, ?_, length_printed p _, ?_, columns, ?_⟩
  · rw [counts]
  · rw [counts]
  · rw [counts]
  · rw [counts]
  · rw [Table.render_eq_lines]
    simp only [Table.lines, Collected.ofTally, Table.columns_emitAll, totalOf_printed,
      Program.columnsOf]
    rfl
  · intro r member name value field
    have covered : name ∈ p.columnsOf header records :=
      Table.mem_columns (List.mem_flatMap.mpr ⟨r, member, List.mem_map_of_mem field⟩)
    exact Table.cell_of_field columns (nodup_names_printed distinct named member) field covered

/-- A run that ends well has read nothing but records, and accounts for all of them. -/
theorem run_accounted (p : Program) (s : Settings) (input : Bytes) (room : Option Nat)
    (stats : Stats) (ran : (run p s input room).result = .ok stats) :
    ∃ (opened : Reader.Opened) (records : List (Nat × Record)),
      Reader.start s.input input = .ok opened ∧ opened.items s.input = records.map .ok ∧
      Accounted p (layout s.output) opened.header (records.map Prod.snd) stats
        (run p s input room).written := by
  obtain ⟨c, processed, rfl, written⟩ := run_eq_ok ran
  obtain ⟨opened, tally, found, fed, rfl⟩ := process_eq_ok processed
  obtain ⟨records, items, decided, rfl⟩ := feed_eq_ok fed
  refine ⟨opened, records, found, items, ?_⟩
  rw [written]
  exact accounted_ofTally (Reader.nodup_header found) (names_of_items items) decided

/-- Two rows; the first takes the chain that prints it before and after it gains a field. -/
theorem accounted_two_rows :
    (run ⟨.atom ⟨['a'], .equal, ['1'], .text⟩, [.print, .set ['c'] ['x'], .print], [.print]⟩
        .default (Bytes.ofText ['a', ',', 'b', '\n', '1', ',', '2', '\n', '3', ',', '4'])
        none).result = .ok ⟨2, 1, 3, 1⟩ ∧
      ∃ (opened : Reader.Opened) (records : List (Nat × Record)),
        Reader.start .default
            (Bytes.ofText ['a', ',', 'b', '\n', '1', ',', '2', '\n', '3', ',', '4']) =
          .ok opened ∧
        opened.items .default = records.map .ok ∧
        Accounted
          ⟨.atom ⟨['a'], .equal, ['1'], .text⟩, [.print, .set ['c'] ['x'], .print], [.print]⟩
          (layout .default) opened.header (records.map Prod.snd) ⟨2, 1, 3, 1⟩
          (run
            ⟨.atom ⟨['a'], .equal, ['1'], .text⟩, [.print, .set ['c'] ['x'], .print], [.print]⟩
            .default (Bytes.ofText ['a', ',', 'b', '\n', '1', ',', '2', '\n', '3', ',', '4'])
            none).written :=
  have ran : (run
      ⟨.atom ⟨['a'], .equal, ['1'], .text⟩, [.print, .set ['c'] ['x'], .print], [.print]⟩
      .default (Bytes.ofText ['a', ',', 'b', '\n', '1', ',', '2', '\n', '3', ',', '4'])
      none).result = .ok ⟨2, 1, 3, 1⟩ := by rfl
  ⟨ran, run_accounted _ _ _ _ _ ran⟩

/-- The column that comes late is empty in the lines printed before it came. -/
example : (run
    ⟨.atom ⟨['a'], .equal, ['1'], .text⟩, [.print, .set ['c'] ['x'], .print], [.print]⟩ .default
    (Bytes.ofText "a,b\n1,2\n3,4".toList) none).written =
      Bytes.ofText "a,b,c\n1,2,\n1,2,x\n3,4,\n".toList := by rfl

end Run
end RowSieve
