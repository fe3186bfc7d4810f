import RowSieve.Proofs.Table.Columns

/-! A table that takes one record after the other only extends what it has. Lines are laid out at the
end, under columns that later records have brought, and yet what stands in a line never changes:
every name of a record is a column by the time the record is taken, so a column that comes later
finds nothing in it. -/
namespace RowSieve.Table

/-- Every name of every row is a column. -/
def Covers (t : Table) : Prop := ∀ r ∈ t.rows, r.names ⊆ t.columns

theorem covers_start (columns : List Text) : Covers (start columns) := by simp [Covers, start]

theorem columns_emit (t : Table) (r : Record) :
    (t.emit r).columns = t.columns ++ newNames t.columns r.names :=
  foldl_addColumn t.columns r.names

theorem Covers.emit {t : Table} (covers : t.Covers) (r : Record) : (t.emit r).Covers := by
  intro row member name named
  rw [columns_emit]
  rcases List.mem_append.mp member with old | new
  · exact List.mem_append_left _ (covers row old named)
  · obtain rfl := List.mem_singleton.mp new
    exact mem_columns named

def emitted (header : List Text) (rs : List Record) : Table := rs.foldl emit (start header)

theorem covers_emitted (header : List Text) (rs : List Record) : (emitted header rs).Covers := by
  have kept (t : Table) (covers : t.Covers) : (rs.foldl emit t).Covers := by
    induction rs generalizing t with
    | nil => exact covers
    | cons r rs ih => exact ih (t.emit r) (covers.emit r)
  exact kept _ (covers_start header)

theorem foldl_emit (t : Table) (rs : List Record) : rs.foldl emit t = t.emitAll rs := by
  induction rs generalizing t with
  | nil => exact (emitAll_nil t).symm
  | cons r rs ih => exact (ih (t.emit r)).trans (emitAll_cons t r rs).symm

theorem rows_emitted (header : List Text) (rs : List Record) : (emitted header rs).rows = rs := by
  rw [emitted, foldl_emit]
  exact List.nil_append rs

theorem columns_emitted (header : List Text) (rs : List Record) :
    (emitted header rs).columns = header ++ newNames header (rs.flatMap Record.names) := by
  rw [emitted, foldl_emit, columns_emitAll]

/-- What more records add to the columns. -/
theorem columns_emitted_append (header : List Text) (xs ys : List Record) :
    (emitted header (xs ++ ys)).columns = (emitted header xs).columns ++
      newNames (emitted header xs).columns (ys.flatMap Record.names) := by
  simp only [columns_emitted, List.flatMap_append, newNames_append, List.append_assoc]

/-- A record has nothing under columns that none of its names is among. -/
theorem cells_append_new {columns added : List Text} {r : Record} (within : r.names ⊆ columns)
    (new : ∀ name ∈ added, name ∉ columns) :
    cells (columns ++ added) r = cells columns r ++ List.replicate added.length [] := by
  have empty : cells added r = List.replicate added.length [] := by
    refine List.eq_replicate_iff.mpr ⟨by simp [cells], fun cell member => ?_⟩
    obtain ⟨name, inside, rfl⟩ := List.mem_map.mp member
    have absent : r.value? name = none := by
      refine Option.eq_none_iff_forall_ne_some.mpr fun value found => ?_
      have named : name ∈ r.names := List.mem_map_of_mem (Record.mem_of_value? found)
      exact new name inside (within named)
    rw [absent, Option.getD_none]
  rw [← empty]
  exact List.map_append

/-- The line of a record under the columns that it was emitted with, and under those that later
records add. -/
theorem cells_emitted_append (header : List Text) {xs : List Record} (ys : List Record) {r : Record}
    (member : r ∈ xs) :
    cells (emitted header (xs ++ ys)).columns r = cells (emitted header xs).columns r ++
      List.replicate
        (newNames (emitted header xs).columns (ys.flatMap Record.names)).length [] := by
  have covered : r.names ⊆ (emitted header xs).columns :=
    covers_emitted header xs r (by rwa [rows_emitted])
  rw [columns_emitted_append, cells_append_new covered fun name => notMem_of_mem_newNames]

def keep (kept : List Record) (r : Record) : List Record := kept ++ [r]

theorem foldl_keep (kept rs : List Record) : rs.foldl keep kept = kept ++ rs := by
  induction rs generalizing kept with
  | nil => exact (List.append_nil kept).symm
  | cons r rs ih => exact (ih (keep kept r)).trans (List.append_assoc ..)

/-- What a table has after some records it still has after more of them, which add columns at the
end and empty cells to the lines that were there. -/
structure OnlyExtends (header : List Text) (xs ys : List Record) : Prop where
  columns : ∃ added, (emitted header xs).columns = header ++ added ∧
    Joins header (xs.flatMap Record.names) added
  rows : (emitted header xs).rows = xs
  kept : xs.foldl keep [] = (emitted header xs).rows
  cell : ∀ (r : Record) (i : Nat) (name : Text), (emitted header xs).columns[i]? = some name →
    (cells (emitted header xs).columns r)[i]? = some ((r.value? name).getD [])
  later : ∃ added, (emitted header (xs ++ ys)).columns = (emitted header xs).columns ++ added ∧
    ∀ layout, (emitted header (xs ++ ys)).lines layout =
      (if layout.header then [(emitted header (xs ++ ys)).columns] else []) ++
        ((emitted header xs).lines ⟨layout.delimiter, false⟩).map
          (· ++ List.replicate added.length []) ++
        ys.map (cells (emitted header (xs ++ ys)).columns)

/-- Emitting only ever extends a table: its columns, its rows and each line of it. -/
theorem emitted_onlyExtends (header : List Text) (xs ys : List Record) :
    OnlyExtends header xs ys where
  columns := ⟨_, columns_emitted header xs, joins_newNames _ _⟩
  rows := rows_emitted header xs
  kept := by rw [foldl_keep, rows_emitted, List.nil_append]
  cell r i name column := by simp [cells, column]
  later := by
    refine ⟨_, columns_emitted_append header xs ys, fun layout => ?_⟩
    have wider : xs.map (cells (emitted header (xs ++ ys)).columns) = _ :=
      List.map_congr_left fun r member => cells_emitted_append header ys member
    simp [lines, rows_emitted, wider]

end RowSieve.Table
