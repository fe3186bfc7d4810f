import RowSieve.Text

/-! A record: the named values of one row in order. A name may occur more than once;
looking up and setting concern its first occurrence. -/
namespace RowSieve

structure Record where
  fields : List (Text × Text)
  deriving DecidableEq, Repr

namespace Record

def empty : Record := ⟨[]⟩

/-- Pairs a header with the values of one line, as far as both go. -/
def ofColumns (names values : List Text) : Record := ⟨names.zip values⟩

def names (r : Record) : List Text := r.fields.map Prod.fst

def value? (r : Record) (name : Text) : Option Text := r.fields.lookup name

/-- Gives the first field of that name the value, or adds the field at the end. -/
def setIn (name value : Text) : List (Text × Text) → List (Text × Text)
  | [] => [(name, value)]
  | (n, v) :: rest => if n = name then (n, value) :: rest else (n, v) :: setIn name value rest

def set (r : Record) (name value : Text) : Record := ⟨setIn name value r.fields⟩

@[simp] theorem value?_empty (name : Text) : empty.value? name = none := rfl

theorem lookup_setIn (fields : List (Text × Text)) (name value other : Text) :
    (setIn name value fields).lookup other =
      if other = name then some value else fields.lookup other := by
  induction fields with
  | nil =>
    by_cases h : other = name <;> simp [setIn, List.lookup_cons, h, beq_eq_false_iff_ne.mpr]
  | cons field rest ih =>
    obtain ⟨n, v⟩ := field
    by_cases same : n = name <;> by_cases found : other = n <;>
      simp_all [setIn, List.lookup_cons, beq_eq_false_iff_ne.mpr]

@[simp] theorem value?_set_same (r : Record) (name value : Text) :
    (r.set name value).value? name = some value := by
  simp [value?, set, lookup_setIn]

theorem value?_set_other (r : Record) {name other : Text} (value : Text) (h : other ≠ name) :
    (r.set name value).value? other = r.value? other := by
  simp [value?, set, lookup_setIn, h]

end Record
end RowSieve
