import Mathlib.Data.List.Nodup
import RowSieve.Chain
import RowSieve.Record

/-! The names of a record. A setting adds at most one name, at the end, so the names stay
pairwise different, and then every field is found under its own name. Of two settings of one field
the later one counts, also with settings of other fields between them. -/
namespace RowSieve.Record

theorem names_setIn (name value : Text) (fields : List (Text × Text)) :
    (setIn name value fields).map Prod.fst =
      if name ∈ fields.map Prod.fst then fields.map Prod.fst
      else fields.map Prod.fst ++ [name] := by
  induction fields with
  | nil => simp [setIn]
  | cons field rest ih =>
    obtain ⟨n, v⟩ := field
    by_cases same : n = name
    · simp [setIn, same]
    · have other : ¬name = n := fun h => same h.symm
      simp only [setIn, if_neg same, List.map_cons, ih, List.mem_cons, other, false_or]
      split <;> simp

theorem names_set (r : Record) (name value : Text) :
    (r.set name value).names = if name ∈ r.names then r.names else r.names ++ [name] :=
  names_setIn name value r.fields

theorem nodup_set {r : Record} (distinct : r.names.Nodup) (name value : Text) :
    (r.set name value).names.Nodup := by
  rw [names_set]
  split
  · exact distinct
  · rename_i absent
    simpa using distinct.concat absent

theorem mem_set {r : Record} {name value n v : Text} (member : (n, v) ∈ (r.set name value).fields) :
    (n, v) ∈ r.fields ∨ n = name ∧ v = value := by
  obtain ⟨fields⟩ := r
  simp only [set] at member ⊢
  induction fields with
  | nil => simpa [setIn] using member
  | cons field rest ih =>
    obtain ⟨m, w⟩ := field
    rw [setIn] at member
    split at member
    · rename_i same
      rcases List.mem_cons.mp member with here | later
      · obtain ⟨rfl, rfl⟩ := Prod.mk.inj here
        exact .inr ⟨same, rfl⟩
      · exact .inl (List.mem_cons_of_mem _ later)
    · rcases List.mem_cons.mp member with here | later
      · exact .inl (here ▸ List.mem_cons_self)
      · exact (ih later).imp_left (List.mem_cons_of_mem _)

theorem setIn_setIn (name first second : Text) (fields : List (Text × Text)) :
    setIn name second (setIn name first fields) = setIn name second fields := by
  induction fields with
  | nil => simp [setIn]
  | cons field rest ih =>
    obtain ⟨n, v⟩ := field
    by_cases same : n = name
    · simp [setIn, same]
    · simp [setIn, same, ih]

theorem set_set (r : Record) (name first second : Text) :
    (r.set name first).set name second = r.set name second := by
  simp only [set, setIn_setIn]

/-- A field that is there keeps its place while another one is set, whichever value it has. -/
theorem setIn_between {name other : Text} (different : name ≠ other) (first value second : Text)
    (fields : List (Text × Text)) :
    setIn name second (setIn other value (setIn name first fields)) =
      setIn other value (setIn name second fields) := by
  induction fields with
  | nil => simp [setIn, different]
  | cons field rest ih =>
    obtain ⟨n, v⟩ := field
    by_cases here : n = name
    · simp [setIn, here, different]
    · by_cases there : n = other
      · simp [setIn, there, different.symm, setIn_setIn]
      · simp [setIn, here, there, ih]

theorem set_between (r : Record) {name other : Text} (different : name ≠ other)
    (first value second : Text) :
    ((r.set name first).set other value).set name second =
      (r.set name second).set other value := by
  simp only [set, setIn_between different]

theorem mem_of_value? {r : Record} {name value : Text} (found : r.value? name = some value) :
    (name, value) ∈ r.fields := by
  obtain ⟨before, after, parts, _⟩ := List.lookup_eq_some_iff.mp found
  simp [parts]

theorem value?_of_mem {r : Record} (distinct : r.names.Nodup) {name value : Text}
    (member : (name, value) ∈ r.fields) : r.value? name = some value := by
  obtain ⟨fields⟩ := r
  simp only [names] at distinct
  simp only [value?]
  induction fields with
  | nil => simp at member
  | cons field rest ih =>
    obtain ⟨n, v⟩ := field
    simp only [List.map_cons, List.nodup_cons] at distinct
    rcases List.mem_cons.mp member with same | member
    · obtain ⟨rfl, rfl⟩ := Prod.mk.inj same
      simp
    · have other : name ≠ n := by
        intro same
        exact distinct.1 (same ▸ List.mem_map_of_mem (f := Prod.fst) member)
      simpa [List.lookup_cons, beq_eq_false_iff_ne.mpr other] using ih distinct.2 member

def after (r : Record) (steps : List Step) : Record :=
  steps.foldl (fun r step => match step with
    | .print => r
    | .set field value => r.set field value) r

end RowSieve.Record
