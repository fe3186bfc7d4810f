import RowSieve.Chain

/-! Settings whose value nobody sees: the field is set once more before a print. -/
namespace RowSieve.Chain

def setAt? (steps : Chain) (i : Nat) : Option Text :=
  match steps[i]? with
  | some (.set field _) => some field
  | _ => none

@[simp] theorem setAt?_cons_succ (step : Step) (steps : Chain) (i : Nat) :
    setAt? (step :: steps) (i + 1) = setAt? steps i := rfl

@[simp] theorem setAt?_print_zero (steps : Chain) : setAt? (.print :: steps) 0 = none := rfl

@[simp] theorem setAt?_set_zero (field value : Text) (steps : Chain) :
    setAt? (.set field value :: steps) 0 = some field := rfl

/-- The step at `j` sets the field once more that the step at `i` has set, and no print
lies between them. -/
def Hides (steps : Chain) (i j : Nat) : Prop :=
  i < j ∧ (steps.setAt? i).isSome ∧ steps.setAt? i = steps.setAt? j ∧
    ∀ k, i < k → k < j → steps[k]? ≠ some .print

instance (steps : Chain) (i j : Nat) : Decidable (steps.Hides i j) :=
  decidable_of_iff
    (i < j ∧ (steps.setAt? i).isSome ∧ steps.setAt? i = steps.setAt? j ∧
      ∀ k < j, i < k → steps[k]? ≠ some .print)
    ⟨fun h => ⟨h.1, h.2.1, h.2.2.1, fun k low high => h.2.2.2 k high low⟩,
      fun h => ⟨h.1, h.2.1, h.2.2.1, fun k high low => h.2.2.2 k low high⟩⟩

def repeatPlaces (steps : Chain) : List Nat :=
  (List.range steps.length).filter fun j => ∃ i < j, steps.Hides i j

/-- Of the settings that the step at `j` hides the latest is the one at `i`. -/
def LatestHidden (steps : Chain) (i j : Nat) : Prop :=
  steps.Hides i j ∧ ∀ k, i < k → ¬steps.Hides k j

def withValueAt : Chain → (i : Nat) → (value : Text) → Chain
  | [], _, _ => []
  | .set field _ :: steps, 0, value => .set field value :: steps
  | .print :: steps, 0, _ => .print :: steps
  | step :: steps, i + 1, value => step :: withValueAt steps i value

theorem length_withValueAt (steps : Chain) (i : Nat) (value : Text) :
    (steps.withValueAt i value).length = steps.length := by
  fun_induction withValueAt steps i value <;> simp_all

end RowSieve.Chain
