import RowSieve.Proofs.Chain.Hidden
import RowSieve.Proofs.Chain.Moments
import RowSieve.Proofs.Table.Columns

/-! What a chain leaves. Of the settings of one field the last one counts; fields that were not
there follow those that were, in the order in which they are first set. The same holds of every
record that is printed on the way, as it is what the steps before the print leave. -/
namespace RowSieve

def Step.valueFor? (name : Text) : Step → Option Text
  | print => none
  | set field value => if field = name then some value else none

def Step.field? : Step → Option Text
  | print => none
  | set field _ => some field

namespace Chain

def fieldsSet (chain : Chain) : List Text := chain.filterMap Step.field?

def lastSet? (chain : Chain) (name : Text) : Option Text :=
  (chain.filterMap (Step.valueFor? name)).getLast?

theorem lastSet?_print (chain : Chain) (name : Text) :
    lastSet? (.print :: chain) name = chain.lastSet? name := rfl

theorem lastSet?_set (field value : Text) (chain : Chain) (name : Text) :
    lastSet? (.set field value :: chain) name =
      (chain.lastSet? name).or (if field = name then some value else none) := by
  simp only [lastSet?]
  by_cases same : field = name
  · rw [List.filterMap_cons_some (b := value) (by simp [Step.valueFor?, same]), List.getLast?_cons,
      if_pos same]
    cases (chain.filterMap (Step.valueFor? name)).getLast? <;> rfl
  · rw [List.filterMap_cons_none (by simp [Step.valueFor?, same]), if_neg same, Option.or_none]

end Chain

namespace Record

/-- A setting leaves alone the fields of other names, and of its own name all but the first. -/
theorem setIn_unchanged {name n v : Text} {fields : List (Text × Text)} {i : Nat} (value : Text)
    (field : fields[i]? = some (n, v)) (passed : n = name → name ∈ (fields.map Prod.fst).take i) :
    (setIn name value fields)[i]? = some (n, v) := by
  induction fields generalizing i with
  | nil => simp at field
  | cons head rest ih =>
    obtain ⟨m, w⟩ := head
    cases i with
    | zero =>
      obtain ⟨rfl, rfl⟩ : m = n ∧ w = v := by simpa using field
      have other : m ≠ name := fun same => by simpa using passed same
      simp [setIn, other]
    | succ i =>
      have below : rest[i]? = some (n, v) := by simpa using field
      rw [setIn]
      split
      · exact below
      · rename_i other
        refine ih below fun same => ?_
        have earlier : name = m ∨ name ∈ (rest.map Prod.fst).take i := by simpa using passed same
        exact earlier.resolve_left fun here => other here.symm

/-- The names of a record stay where they are, and each field that is set and was not there follows
them once. -/
theorem names_after (r : Record) (steps : Chain) :
    (r.after steps).names = r.names ++ Table.newNames r.names steps.fieldsSet := by
  induction steps generalizing r with
  | nil => exact (List.append_nil _).symm
  | cons step steps ih =>
    cases step with
    | print => exact ih r
    | set field value =>
      have rest := ih (r.set field value)
      rw [names_set] at rest
      by_cases old : field ∈ r.names
      · rw [if_pos old] at rest
        exact rest.trans (congrArg _ (Table.newNames_cons_old old _).symm)
      · rw [if_neg old, List.append_assoc] at rest
        exact rest.trans (congrArg _ (Table.newNames_cons_new old _).symm)

theorem value?_after (r : Record) (steps : Chain) (name : Text) :
    (r.after steps).value? name = (steps.lastSet? name).or (r.value? name) := by
  induction steps generalizing r with
  | nil => rfl
  | cons step steps ih =>
    cases step with
    | print =>
      rw [Chain.lastSet?_print]
      exact ih r
    | set field value =>
      have rest := ih (r.set field value)
      rw [Chain.lastSet?_set, Option.or_assoc]
      by_cases same : field = name
      · subst same
        rw [value?_set_same] at rest
        rw [if_pos rfl, Option.some_or]
        exact rest
      · rw [value?_set_other r value (Ne.symm same)] at rest
        rw [if_neg same, Option.none_or]
        exact rest

/-- A field that repeats the name of an earlier one stays as it is. -/
theorem repeated_after {r : Record} {i : Nat} {name value : Text} (steps : Chain)
    (field : r.fields[i]? = some (name, value)) (earlier : name ∈ r.names.take i) :
    (r.after steps).fields[i]? = some (name, value) := by
  induction steps generalizing r with
  | nil => exact field
  | cons step steps ih =>
    cases step with
    | print => exact ih field earlier
    | set other new =>
      refine ih (setIn_unchanged new field fun same => same ▸ earlier) ?_
      rw [names_set]
      split
      · exact earlier
      · rw [List.take_append]
        exact List.mem_append_left _ earlier

end Record

namespace Chain

theorem record_run (chain : Chain) (r : Record) : (chain.run r).record = r.after chain := by
  fun_induction run chain r with
  | case1 r => rfl
  | case2 r steps ih => exact ih
  | case3 r field value steps ih => exact ih

/-- What the chain does is told by its last settings and by its prints alone. Names stay and new
ones follow in the order of their first settings; a print hands out what the steps before it leave when
they are run alone, whatever the destination does with it. -/
structure LastWriter (chain : Chain) (r : Record) : Prop where
  names : ∃ added, (chain.run r).record.names = r.names ++ added ∧
    Table.Joins r.names chain.fieldsSet added
  values : ∀ name, (chain.run r).record.value? name = (chain.lastSet? name).or (r.value? name)
  repeated : ∀ (i : Nat) name value, r.fields[i]? = some (name, value) →
    name ∈ r.names.take i → (chain.run r).record.fields[i]? = some (name, value)
  printed : (chain.run r).printed =
    chain.printPlaces.map fun i => (run (chain.take i) r).record
  handed : ∀ (Output : Type) (emit : Output → Record → Output) (out : Output),
    chain.runInto emit r out = ((chain.run r).record, (chain.run r).printed.foldl emit out)
  effects : (chain.run r).effects = ⟨chain.prints, chain.sets⟩

/-- The last setting of a field is the one that counts, in what a chain leaves and in each record
that it prints. -/
theorem run_lastWriter (chain : Chain) (r : Record) : LastWriter chain r where
  names := by
    rw [record_run, Record.names_after]
    exact ⟨_, rfl, Table.joins_newNames _ _⟩
  values name := by rw [record_run, Record.value?_after]
  repeated i name value field earlier := by
    rw [record_run]
    exact Record.repeated_after chain field earlier
  printed := by simp only [printed_run, printsOf, record_run]
  handed _ emit out := runInto_eq emit chain r out
  effects := effects_run chain r

end Chain
end RowSieve
