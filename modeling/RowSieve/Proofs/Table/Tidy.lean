import RowSieve.Proofs.Chain.Moments
import RowSieve.Proofs.Reader.Sheet
import RowSieve.Program.Execute

/-! Tables that can be read back. The records of a sheet stay fit to be written as long as nothing
is set in them that cuts a line, and the table of such records is a sheet again. -/
namespace RowSieve

/-- A text that cuts no field and no line, and that loses nothing at the end of a line. -/
def Text.Clean (d : Char) (t : Text) : Prop := d ∉ t ∧ '\n' ∉ t ∧ '\r' ∉ t

instance (d : Char) (t : Text) : Decidable (Text.Clean d t) :=
  inferInstanceAs (Decidable (d ∉ t ∧ '\n' ∉ t ∧ '\r' ∉ t))

theorem Text.Clean.open_end {d : Char} {t : Text} (clean : Clean d t) : '\r' ∉ t.getLast? :=
  fun final => clean.2.2 (List.mem_of_getLast? final)

/-- A step that sets nothing but clean names and values. -/
def Step.Clean (d : Char) : Step → Prop
  | .print => True
  | .set field value => Text.Clean d field ∧ Text.Clean d value

instance (d : Char) : (step : Step) → Decidable (step.Clean d)
  | .print => inferInstanceAs (Decidable True)
  | .set field value => inferInstanceAs (Decidable (Text.Clean d field ∧ Text.Clean d value))

def Program.Clean (d : Char) (p : Program) : Prop :=
  ∀ step ∈ p.onTrue ++ p.onFalse, step.Clean d

instance (d : Char) (p : Program) : Decidable (p.Clean d) :=
  inferInstanceAs (Decidable (∀ step ∈ p.onTrue ++ p.onFalse, step.Clean d))

theorem Program.Clean.chainFor {d : Char} {p : Program} (clean : p.Clean d) (matched : Bool) :
    ∀ step ∈ p.chainFor matched, step.Clean d := by
  intro step member
  cases matched with
  | true => exact clean step (List.mem_append_left _ member)
  | false => exact clean step (List.mem_append_right _ member)

namespace Record

/-- A record that can be written: names that are not of the header are clean, no value is cut, and
a value that ends with a return stands before the last column of the header. -/
structure Tidy (d : Char) (header : List Text) (r : Record) : Prop where
  named : ∀ name ∈ r.names, name ∈ header ∨ Text.Clean d name
  uncut : ∀ name value, (name, value) ∈ r.fields → d ∉ value ∧ '\n' ∉ value
  ended : ∀ name value, (name, value) ∈ r.fields → '\r' ∈ value.getLast? → name ∈ header.dropLast

variable {d : Char} {header : List Text} {r : Record}

theorem Tidy.set (tidy : r.Tidy d header) {name value : Text} (clean : Text.Clean d name)
    (plain : Text.Clean d value) : (r.set name value).Tidy d header := by
  constructor
  · intro other member
    rw [names_set] at member
    split at member
    · exact tidy.named other member
    · rcases List.mem_append.mp member with old | new
      · exact tidy.named other old
      · exact .inr (List.mem_singleton.mp new ▸ clean)
  · intro other cell member
    rcases mem_set member with old | ⟨rfl, rfl⟩
    · exact tidy.uncut other cell old
    · exact ⟨plain.1, plain.2.1⟩
  · intro other cell member final
    rcases mem_set member with old | ⟨rfl, rfl⟩
    · exact tidy.ended other cell old final
    · exact absurd final plain.open_end

theorem Tidy.after (tidy : r.Tidy d header) {steps : Chain} (clean : ∀ step ∈ steps, step.Clean d) :
    (r.after steps).Tidy d header := by
  induction steps generalizing r with
  | nil => exact tidy
  | cons step steps ih =>
    have later : ∀ step ∈ steps, step.Clean d := fun step member => clean step (.tail _ member)
    cases step with
    | print => exact ih tidy later
    | set field value =>
      have own : Text.Clean d field ∧ Text.Clean d value := clean _ List.mem_cons_self
      exact ih (tidy.set own.1 own.2) later

theorem Tidy.printsOf (tidy : r.Tidy d header) {chain : Chain}
    (clean : ∀ step ∈ chain, step.Clean d) {printed : Record} (member : printed ∈ chain.printsOf r) :
    printed.Tidy d header := by
  obtain ⟨i, _, rfl⟩ := List.mem_map.mp member
  exact tidy.after fun step inside => clean step (List.mem_of_mem_take inside)

theorem tidy_ofColumns {row : List Text} (wide : row.length = header.length)
    (legible : Legible d row) : (ofColumns header row).Tidy d header := by
  refine ⟨?_, ?_, ?_⟩
  · intro name member
    rw [names, ofColumns, List.map_fst_zip (Nat.le_of_eq wide.symm)] at member
    exact .inl member
  · intro name value member
    exact legible.uncut value (List.of_mem_zip member).2
  · intro name value member final
    -- The last value goes with the last name, so a pair before it has one of the earlier names.
    rcases List.eq_nil_or_concat header with rfl | ⟨names, lastName, rfl⟩
    · simp [ofColumns] at member
    rcases List.eq_nil_or_concat row with rfl | ⟨values, lastValue, rfl⟩
    · simp [ofColumns] at member
    have same : names.length = values.length := by simpa using wide.symm
    simp only [ofColumns, List.concat_eq_append, List.zip_append same, List.mem_append] at member
    rcases member with before | last
    · simpa using (List.of_mem_zip before).1
    · obtain ⟨rfl, rfl⟩ : name = lastName ∧ value = lastValue := by simpa using last
      exact absurd final (legible.ended value (by simp))

end Record

namespace Table

variable {d : Char} {header : List Text} {printed : List Record}

theorem legible_columns (legible : Legible d header) (tidy : ∀ r ∈ printed, r.Tidy d header) :
    Legible d (header ++ newNames header (printed.flatMap Record.names)) := by
  have clean : ∀ name ∈ newNames header (printed.flatMap Record.names), Text.Clean d name := by
    intro name member
    obtain ⟨r, inside, named⟩ := List.mem_flatMap.mp
      (List.mem_of_mem_filter (List.mem_eraseDups.mp member))
    exact ((tidy r inside).named name named).resolve_left (notMem_of_mem_newNames member)
  constructor
  · intro name member
    rcases List.mem_append.mp member with old | new
    · exact legible.uncut name old
    · exact ⟨(clean name new).1, (clean name new).2.1⟩
  · intro last ends
    rw [List.getLast?_append] at ends
    cases added : (newNames header (printed.flatMap Record.names)).getLast? with
    | none => exact legible.ended last (by simpa [added] using ends)
    | some new =>
      obtain rfl : new = last := by simpa [added] using ends
      exact (clean new (List.mem_of_getLast? added)).open_end

theorem dropLast_subset_append (header added : List Text) :
    header.dropLast ⊆ (header ++ added).dropLast := by
  by_cases none : added = []
  · simp [none]
  · rw [List.dropLast_append_of_ne_nil none]
    exact List.Subset.trans (List.dropLast_subset _) (List.subset_append_left ..)

theorem legible_cells {added : List Text} (distinct : (header ++ added).Nodup) {r : Record}
    (tidy : r.Tidy d header) : Legible d (cells (header ++ added) r) := by
  constructor
  · intro cell member
    obtain ⟨column, _, rfl⟩ := List.mem_map.mp member
    cases found : r.value? column with
    | none => simp
    | some value => exact tidy.uncut column value (Record.mem_of_value? found)
  · intro last ends final
    rw [cells, List.getLast?_map] at ends
    obtain ⟨column, ending, rfl⟩ := Option.map_eq_some_iff.mp ends
    cases found : r.value? column with
    | none => simp [found] at final
    | some value =>
      rw [found] at final
      have early := tidy.ended column value (Record.mem_of_value? found) final
      -- A column before the last one of the header is not the last of all.
      obtain ⟨before, columns⟩ := List.getLast?_eq_some_iff.mp ending
      have inside := dropLast_subset_append header added early
      rw [columns] at distinct inside
      rw [List.dropLast_concat] at inside
      exact (List.nodup_append.mp distinct).2.2 column inside column List.mem_cons_self rfl

/-- The table of printed records is a sheet. -/
theorem sheet_emitAll (distinct : header.Nodup) (named : header ≠ [[]])
    (headed : header = [] → printed = []) (legible : Legible d header)
    (tidy : ∀ r ∈ printed, r.Tidy d header) :
    Sheet d ((start header).emitAll printed).columns
      (printed.map (cells ((start header).emitAll printed).columns)) := by
  rw [columns_emitAll]
  have columns := nodup_columns distinct (printed.flatMap Record.names)
  refine ⟨columns, ?_, ?_, ?_, List.forall_mem_cons.mpr ⟨legible_columns legible tidy, ?_⟩⟩
  · intro single
    rcases List.append_eq_singleton_iff.mp single with ⟨empty, grown⟩ | ⟨same, _⟩
    · simp [headed empty, newNames] at grown
    · exact named same
  · intro empty
    rw [headed (List.append_eq_nil_iff.mp empty).1, List.map_nil]
  · intro row member
    obtain ⟨r, _, rfl⟩ := List.mem_map.mp member
    exact List.length_map ..
  · intro row member
    obtain ⟨r, inside, rfl⟩ := List.mem_map.mp member
    exact legible_cells columns (tidy r inside)

theorem emitAll_sheet {rows : List (List Text)} (sheet : Sheet d header rows) :
    (start header).emitAll (rows.map (.ofColumns header)) =
      ⟨header, rows.map (.ofColumns header)⟩ := by
  have named : ∀ r ∈ rows.map (Record.ofColumns header), r.names = header := by
    intro r member
    obtain ⟨row, inside, rfl⟩ := List.mem_map.mp member
    exact List.map_fst_zip (Nat.le_of_eq (sheet.wide row inside).symm)
  exact congrArg (Table.mk · (rows.map (.ofColumns header))) (columns_emitAll_same named)

theorem cells_sheet {rows : List (List Text)} (sheet : Sheet d header rows) :
    (rows.map (.ofColumns header)).map (cells header) = rows := by
  rw [List.map_map]
  conv_rhs => rw [← List.map_id rows]
  exact List.map_congr_left fun row member => cells_ofColumns sheet.distinct (sheet.wide row member)

end Table

end RowSieve
