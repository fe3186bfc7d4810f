import RowSieve.Proofs.Record
import RowSieve.Table

/-! The columns of a table and what stands in them. Names join the columns at the end, each
at its first occurrence, so no column repeats; a field whose name is a column then has one
place in its line. -/
namespace RowSieve.Table

/-- The names that are no columns yet, each once, in the order of first occurrence. -/
def newNames (columns names : List Text) : List Text :=
  (names.filter fun n => n ∉ columns).eraseDups

theorem newNames_cons_old {columns : List Text} {name : Text} (old : name ∈ columns)
    (names : List Text) : newNames columns (name :: names) = newNames columns names := by
  simp [newNames, old]

theorem newNames_cons_new {columns : List Text} {name : Text} (new : name ∉ columns)
    (names : List Text) :
    newNames columns (name :: names) = name :: newNames (columns ++ [name]) names := by
  simp [newNames, new, List.eraseDups_cons, List.filter_filter, beq_eq_decide, Bool.and_comm]

theorem foldl_addColumn (columns names : List Text) :
    names.foldl addColumn columns = columns ++ newNames columns names := by
  induction names generalizing columns with
  | nil => simp [newNames]
  | cons name names ih =>
    by_cases old : name ∈ columns
    · simp [addColumn, old, ih, newNames_cons_old old]
    · simp [addColumn, old, ih, newNames_cons_new old]

theorem columns_emitAll (columns : List Text) (rs : List Record) :
    ((start columns).emitAll rs).columns =
      columns ++ newNames columns (rs.flatMap Record.names) := by
  rw [← foldl_addColumn, List.foldl_flatMap]
  rfl

theorem notMem_of_mem_newNames {columns names : List Text} {name : Text}
    (member : name ∈ newNames columns names) : name ∉ columns := by
  have kept := List.mem_eraseDups.mp member
  simpa using (List.mem_filter.mp kept).2

/-- What is added to the known names when some names are seen: those that were not known, each once
and in the order in which they are first seen. -/
structure Joins (known seen added : List Text) : Prop where
  members : ∀ name, name ∈ added ↔ name ∈ seen ∧ name ∉ known
  in_order : added.Pairwise fun a b => seen.idxOf a < seen.idxOf b

theorem joins_newNames (known seen : List Text) : Joins known seen (newNames known seen) := by
  refine ⟨fun name => by simp [newNames], ?_⟩
  induction seen generalizing known with
  | nil => simp [newNames]
  | cons first seen ih =>
    -- no name that is added later is the first one, so all of them are first seen behind it
    have later {known : List Text} (old : first ∈ known) :
        (newNames known seen).Pairwise fun a b =>
          (first :: seen).idxOf a < (first :: seen).idxOf b := by
      refine (ih known).imp_of_mem fun {a b} ofA ofB before => ?_
      have notFirst {name : Text} (member : name ∈ newNames known seen) : first ≠ name :=
        fun same => notMem_of_mem_newNames member (same ▸ old)
      simpa [List.idxOf_cons_ne _ (notFirst ofA), List.idxOf_cons_ne _ (notFirst ofB)] using before
    by_cases old : first ∈ known
    · rw [newNames_cons_old old]
      exact later old
    · rw [newNames_cons_new old]
      refine List.pairwise_cons.mpr ⟨fun name member => ?_, later (by simp)⟩
      have other : first ≠ name := fun same => notMem_of_mem_newNames member (by simp [same])
      simp [List.idxOf_cons_ne _ other]

theorem newNames_append (columns names more : List Text) :
    newNames columns (names ++ more) =
      newNames columns names ++ newNames (columns ++ newNames columns names) more := by
  have joined := foldl_addColumn columns (names ++ more)
  rw [List.foldl_append, foldl_addColumn, foldl_addColumn, List.append_assoc] at joined
  exact (List.append_cancel_left joined).symm

/-- Under more columns there is less to add. -/
theorem newNames_of_subset {columns wider : List Text} (within : columns ⊆ wider)
    (names : List Text) :
    newNames wider names = (newNames columns names).filter fun n => n ∉ wider := by
  induction names generalizing columns wider with
  | nil => rfl
  | cons name names ih =>
    by_cases old : name ∈ columns
    · rw [newNames_cons_old old, newNames_cons_old (within old), ih within]
    · rw [newNames_cons_new old, List.filter_cons]
      by_cases known : name ∈ wider
      · have still : columns ++ [name] ⊆ wider := by simpa using ⟨within, known⟩
        simp [newNames_cons_old known, ih still, known]
      · have still : columns ++ [name] ⊆ wider ++ [name] := by
          simpa using List.Subset.trans within (List.subset_append_left ..)
        rw [newNames_cons_new known, ih still, if_pos (by simpa using known)]
        congr 1
        refine List.filter_congr fun n member => ?_
        have other := notMem_of_mem_newNames member
        simp_all

/-- The columns of what is emitted in two parts, from the columns of the parts. -/
theorem columns_emitAll_append (columns : List Text) (rs more : List Record) :
    ((start columns).emitAll (rs ++ more)).columns =
      ((start columns).emitAll rs).columns ++
        ((start columns).emitAll more).columns.filter
          fun n => n ∉ ((start columns).emitAll rs).columns := by
  simp only [columns_emitAll, List.flatMap_append]
  generalize rs.flatMap Record.names = first, more.flatMap Record.names = second
  have old : columns.filter (fun n => n ∉ columns ++ newNames columns first) = [] := by
    simp +contextual [List.filter_eq_nil_iff]
  rw [newNames_append, newNames_of_subset (List.subset_append_left columns (newNames columns first)),
    List.filter_append, old, List.nil_append, List.append_assoc]

/-- Records that have the columns already add none. -/
theorem columns_emitAll_same {header : List Text} {printed : List Record}
    (named : ∀ r ∈ printed, r.names = header) :
    ((start header).emitAll printed).columns = header := by
  have old : newNames header (printed.flatMap Record.names) = [] := by
    refine List.eq_nil_iff_forall_not_mem.mpr fun name member => ?_
    obtain ⟨r, inside, own⟩ := List.mem_flatMap.mp
      (List.mem_of_mem_filter (List.mem_eraseDups.mp member))
    exact notMem_of_mem_newNames member (named r inside ▸ own)
  rw [columns_emitAll, old, List.append_nil]

theorem nodup_addColumn {columns : List Text} (distinct : columns.Nodup) (name : Text) :
    (addColumn columns name).Nodup := by
  unfold addColumn
  split
  · exact distinct
  · rename_i absent
    simpa using List.Nodup.concat (by simpa using absent) distinct

theorem nodup_foldl_addColumn {columns : List Text} (distinct : columns.Nodup)
    (names : List Text) : (names.foldl addColumn columns).Nodup := by
  induction names generalizing columns with
  | nil => exact distinct
  | cons name names ih => exact ih (nodup_addColumn distinct name)

theorem nodup_columns {columns : List Text} (distinct : columns.Nodup) (names : List Text) :
    (columns ++ newNames columns names).Nodup := by
  rw [← foldl_addColumn]
  exact nodup_foldl_addColumn distinct names

theorem mem_columns {columns names : List Text} {name : Text} (member : name ∈ names) :
    name ∈ columns ++ newNames columns names := by
  by_cases old : name ∈ columns
  · exact List.mem_append_left _ old
  · exact List.mem_append_right _ (List.mem_eraseDups.mpr (by simp [member, old]))

/-- The value of a field stands in the one column that has the field's name. -/
theorem cell_of_field {columns : List Text} (distinct : columns.Nodup) {r : Record}
    (names : r.names.Nodup) {name value : Text} (field : (name, value) ∈ r.fields)
    (covered : name ∈ columns) :
    ∃ i : Nat, columns[i]? = some name ∧ (cells columns r)[i]? = some value ∧
      ∀ j : Nat, columns[j]? = some name → j = i := by
  obtain ⟨i, bound, at_i⟩ := List.getElem_of_mem covered
  have place : columns[i]? = some name := List.getElem?_eq_some_iff.mpr ⟨bound, at_i⟩
  refine ⟨i, place, ?_, ?_⟩
  · simp [cells, place, Record.value?_of_mem names field]
  · intro j other
    obtain ⟨bound', at_j⟩ := List.getElem?_eq_some_iff.mp other
    exact (List.Nodup.getElem_inj_iff distinct).mp (at_j.trans at_i.symm)

theorem value?_cells {columns : List Text} {column : Text} (member : column ∈ columns)
    (r : Record) :
    (Record.ofColumns columns (cells columns r)).value? column =
      some ((r.value? column).getD []) := by
  rw [Record.value?, Record.ofColumns, cells]
  induction columns with
  | nil => simp at member
  | cons first columns ih =>
    by_cases here : column = first
    · simp [here]
    · have later := ih ((List.mem_cons.mp member).resolve_left here)
      simpa [List.lookup_cons, beq_eq_false_iff_ne.mpr here] using later

/-- A row that already has the columns is written as it is. -/
theorem cells_ofColumns {columns row : List Text} (distinct : columns.Nodup)
    (wide : row.length = columns.length) : cells columns (.ofColumns columns row) = row := by
  have names : (Record.ofColumns columns row).names.Nodup := by
    rw [Record.names, Record.ofColumns, List.map_fst_zip (Nat.le_of_eq wide.symm)]
    exact distinct
  refine List.ext_getElem (by simp [cells, wide]) fun i within _ => ?_
  have column : i < columns.length := by simpa [cells] using within
  have field : (columns[i], row[i]) ∈ (Record.ofColumns columns row).fields :=
    List.mem_iff_getElem.mpr ⟨i, by simp [Record.ofColumns, wide, column], by simp [Record.ofColumns]⟩
  simp [cells, Record.value?_of_mem names field]

def lineText (delimiter : Char) (line : List Text) : Text :=
  [delimiter].intercalate line ++ ['\n']

theorem flatten_linePieces (delimiter : Char) (line : List Text) :
    (linePieces delimiter line).flatten = lineText delimiter line := by
  simp [linePieces, lineText, List.intercalate]

theorem render_eq_lines (t : Table) (layout : Layout) :
    t.render layout = (t.lines layout).flatMap (lineText layout.delimiter) := by
  simp only [render, pieces, List.flatMap_def, List.flatten_flatten, List.map_map]
  exact congrArg List.flatten (List.map_congr_left fun line _ => flatten_linePieces _ line)

end RowSieve.Table
