import RowSieve.Record

/-! A table collects printed records and lays them out as delimited text. Its columns
start with those of the input and grow by every new name of a printed record. -/
namespace RowSieve

structure Table where
  columns : List Text
  rows : List Record
  deriving DecidableEq, Repr

namespace Table

def start (columns : List Text) : Table := ⟨columns, []⟩

/-- Adds the name as a last column unless it is one already. -/
def addColumn (columns : List Text) (name : Text) : List Text :=
  if columns.contains name then columns else columns ++ [name]

def widen (columns : List Text) (r : Record) : List Text := r.names.foldl addColumn columns

def emit (t : Table) (r : Record) : Table := ⟨widen t.columns r, t.rows ++ [r]⟩

def emitAll (t : Table) (rs : List Record) : Table :=
  ⟨rs.foldl widen t.columns, t.rows ++ rs⟩

@[simp] theorem emitAll_nil (t : Table) : t.emitAll [] = t := by simp [emitAll]
@[simp] theorem emitAll_cons (t : Table) (r : Record) (rs : List Record) :
    t.emitAll (r :: rs) = (t.emit r).emitAll rs := by
  simp [emitAll, emit]
theorem emitAll_append (t : Table) (rs more : List Record) :
    t.emitAll (rs ++ more) = (t.emitAll rs).emitAll more := by
  simp [emitAll]

@[simp] theorem rows_emit (t : Table) (r : Record) : (t.emit r).rows = t.rows ++ [r] := rfl

/-- One cell per column; a column that the record lacks is left empty. -/
def cells (columns : List Text) (r : Record) : List Text :=
  columns.map fun c => (r.value? c).getD []

structure Layout where
  delimiter : Char
  header : Bool
  deriving DecidableEq, Repr

def lines (t : Table) (layout : Layout) : List (List Text) :=
  (if layout.header then [t.columns] else []) ++ t.rows.map (cells t.columns)

/-- The pieces in which a line is handed to its destination: cells, the delimiters
between them and the line end. -/
def linePieces (delimiter : Char) (line : List Text) : List Text :=
  line.intersperse [delimiter] ++ [['\n']]

def pieces (t : Table) (layout : Layout) : List Text :=
  (t.lines layout).flatMap (linePieces layout.delimiter)

def render (t : Table) (layout : Layout) : Text := (t.pieces layout).flatten

end Table
end RowSieve
