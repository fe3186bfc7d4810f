import Mathlib.Data.Nat.Find
import RowSieve.Chain.Hidden
import RowSieve.Chain.Run
import RowSieve.Program.Lint
import RowSieve.Proofs.Record

/-! Settings whose value nobody sees. The search for repeated settings finds exactly the steps that
hide an earlier one, and the value of a hidden setting does not matter to what a chain does. -/
namespace RowSieve.Chain

section
variable {step : Step} {steps : Chain} {field other value : Text} {i j : Nat}

/-- The step at `j` sets the field, and no print lies before it. -/
def SetsUnprinted (steps : Chain) (field : Text) (j : Nat) : Prop :=
  steps.setAt? j = some field ∧ ∀ k < j, steps[k]? ≠ some .print

instance : Decidable (SetsUnprinted steps field j) :=
  inferInstanceAs (Decidable (_ ∧ _))

theorem not_setsUnprinted_print : ¬SetsUnprinted (.print :: steps) field j := by
  rintro ⟨sets, unprinted⟩
  cases j with
  | zero => simp at sets
  | succ j => exact unprinted 0 j.succ_pos rfl

theorem setsUnprinted_set_zero :
    SetsUnprinted (.set other value :: steps) field 0 ↔ other = field := by
  simp [SetsUnprinted]

theorem setsUnprinted_set_succ :
    SetsUnprinted (.set other value :: steps) field (j + 1) ↔ SetsUnprinted steps field j := by
  simp only [SetsUnprinted, setAt?_cons_succ]
  refine and_congr_right fun _ => ⟨fun unprinted k before => ?_, fun unprinted k before => ?_⟩
  · exact unprinted (k + 1) (by omega)
  · cases k with
    | zero => simp
    | succ k => exact unprinted k (by omega)

theorem hides_cons_succ : Hides (step :: steps) (i + 1) (j + 1) ↔ Hides steps i j := by
  simp only [Hides, setAt?_cons_succ, Nat.add_lt_add_iff_right]
  refine and_congr_right fun _ => and_congr_right fun _ => and_congr_right fun _ => ?_
  refine ⟨fun unprinted k low high => ?_, fun unprinted k low high => ?_⟩
  · exact unprinted (k + 1) (by omega) (by omega)
  · obtain ⟨k, rfl⟩ := Nat.exists_eq_succ_of_ne_zero (Nat.ne_of_gt (Nat.zero_lt_of_lt low))
    exact unprinted k (by omega) (by omega)

theorem not_hides_print_zero : ¬Hides (.print :: steps) 0 j := by
  rintro ⟨_, sets, _⟩
  simp at sets

theorem hides_set_zero :
    Hides (.set field value :: steps) 0 (j + 1) ↔ SetsUnprinted steps field j := by
  simp only [Hides, SetsUnprinted, setAt?_cons_succ, setAt?_set_zero, Option.isSome_some,
    true_and, Nat.zero_lt_succ]
  refine and_congr eq_comm ⟨fun unprinted k before => ?_, fun unprinted k low high => ?_⟩
  · exact unprinted (k + 1) (by omega) (by omega)
  · obtain ⟨k, rfl⟩ := Nat.exists_eq_succ_of_ne_zero (Nat.ne_of_gt low)
    exact unprinted k (by omega)

theorem exists_hides_cons :
    (∃ i < j + 1, Hides (step :: steps) i (j + 1)) ↔
      Hides (step :: steps) 0 (j + 1) ∨ ∃ i < j, Hides steps i j := by
  constructor
  · rintro ⟨i, before, hides⟩
    cases i with
    | zero => exact .inl hides
    | succ i => exact .inr ⟨i, by omega, hides_cons_succ.mp hides⟩
  · rintro (hides | ⟨i, before, hides⟩)
    · exact ⟨0, j.succ_pos, hides⟩
    · exact ⟨i + 1, by omega, hides_cons_succ.mpr hides⟩

/-- The step at `j` sets one of the pending fields before any print, or hides a setting of the
chain. -/
def Repeats (pending : List Text) (steps : Chain) (j : Nat) : Prop :=
  (∃ field ∈ pending, SetsUnprinted steps field j) ∨ ∃ i < j, steps.Hides i j

instance (pending : List Text) : Decidable (Repeats pending steps j) :=
  inferInstanceAs (Decidable (_ ∨ _))

variable {pending : List Text}

theorem not_repeats_print_zero : ¬Repeats pending (.print :: steps) 0 := by
  rintro (⟨field, _, sets⟩ | ⟨i, before, _⟩)
  · exact not_setsUnprinted_print sets
  · omega

theorem repeats_print_succ :
    Repeats pending (.print :: steps) (j + 1) ↔ Repeats [] steps j := by
  simp only [Repeats, exists_hides_cons, not_hides_print_zero, not_setsUnprinted_print,
    List.not_mem_nil, and_false, false_and, exists_false, false_or]

theorem repeats_set_zero :
    Repeats pending (.set field value :: steps) 0 ↔ field ∈ pending := by
  simp [Repeats, setsUnprinted_set_zero]

theorem repeats_set_succ :
    Repeats pending (.set field value :: steps) (j + 1) ↔ Repeats (field :: pending) steps j := by
  simp only [Repeats, exists_hides_cons, hides_set_zero, setsUnprinted_set_succ, List.mem_cons,
    exists_eq_or_imp]
  rw [or_left_comm, or_assoc]

theorem repeats_cons_of_mem (member : field ∈ pending) :
    Repeats (field :: pending) steps j ↔ Repeats pending steps j := by
  have absorb : SetsUnprinted steps field j → ∃ field ∈ pending, SetsUnprinted steps field j :=
    fun sets => ⟨field, member, sets⟩
  simp only [Repeats, List.mem_cons, exists_eq_or_imp, or_iff_right_of_imp absorb]

end

/-- The search gives the fields of the repeated settings, one for each and in their order. The
pending fields stand for the settings since the last print before the chain. -/
theorem repeatedSets_eq (pending : List Text) (steps : Chain) :
    (repeatedSets pending steps).map some =
      ((List.range steps.length).filter fun j => Repeats pending steps j).map steps.setAt? := by
  induction steps generalizing pending with
  | nil => rfl
  | cons step steps ih =>
    rw [List.length_cons, List.range_succ_eq_map, List.filter_cons, List.filter_map]
    cases step with
    | print =>
      simp [repeatedSets, ih, not_repeats_print_zero, repeats_print_succ, Function.comp_def]
    | set field value =>
      by_cases member : field ∈ pending
      · simp [repeatedSets, ih, member, repeats_set_zero, repeats_set_succ, repeats_cons_of_mem,
          Function.comp_def]
      · simp [repeatedSets, ih, member, repeats_set_zero, repeats_set_succ, Function.comp_def]

theorem repeatedSets_places (steps : Chain) :
    (repeatedSets [] steps).map some = steps.repeatPlaces.map steps.setAt? := by
  rw [repeatedSets_eq]
  simp [repeatPlaces, Repeats]

/-! The value of a hidden setting. -/

/-- A field that is set once more before any print may have had any value until then. -/
theorem run_set_of_setsUnprinted {steps : Chain} {field : Text} {j : Nat}
    (sets : SetsUnprinted steps field j) (r : Record) (first second : Text) :
    steps.run (r.set field first) = steps.run (r.set field second) := by
  induction steps generalizing r j with
  | nil => simp [SetsUnprinted, setAt?] at sets
  | cons step steps ih =>
    cases step with
    | print => exact absurd sets not_setsUnprinted_print
    | set other value =>
      simp only [run]
      by_cases same : field = other
      · rw [← same, Record.set_set, Record.set_set]
      · cases j with
        | zero => exact absurd (setsUnprinted_set_zero.mp sets).symm same
        | succ j =>
          have later := setsUnprinted_set_succ.mp sets
          -- the field is there already and so keeps its place while the other one is set
          rw [← Record.set_between r same first value first,
            ← Record.set_between r same first value second, ih later]

theorem run_withValueAt {steps : Chain} {i j : Nat} (hides : steps.Hides i j) (value : Text)
    (r : Record) : (steps.withValueAt i value).run r = steps.run r := by
  induction steps generalizing i j r with
  | nil => simp [Hides, setAt?] at hides
  | cons step steps ih =>
    obtain ⟨j, rfl⟩ := Nat.exists_eq_succ_of_ne_zero (Nat.ne_of_gt (Nat.zero_lt_of_lt hides.1))
    cases i with
    | zero =>
      cases step with
      | print => exact absurd hides not_hides_print_zero
      | set field earlier =>
        have sets := hides_set_zero.mp hides
        simp only [withValueAt, run, run_set_of_setsUnprinted sets r value earlier]
    | succ i =>
      have later := hides_cons_succ.mp hides
      cases step with
      | print => simp only [withValueAt, run, ih later]
      | set field earlier => simp only [withValueAt, run, ih later]

theorem exists_latestHidden {steps : Chain} {j : Nat} (member : j ∈ steps.repeatPlaces) :
    ∃ i, steps.LatestHidden i j := by
  obtain ⟨_, found⟩ := List.mem_filter.mp member
  obtain ⟨i, before, hides⟩ := of_decide_eq_true found
  have greatest := Nat.findGreatest_spec (P := fun i => steps.Hides i j) (Nat.le_of_lt before) hides
  refine ⟨_, greatest, fun k above hidden => ?_⟩
  exact Nat.findGreatest_is_greatest above (Nat.le_of_lt hidden.1) hidden

theorem LatestHidden.unique {steps : Chain} {i k j : Nat} (latest : steps.LatestHidden i j)
    (latest' : steps.LatestHidden k j) : k = i := by
  rcases Nat.lt_trichotomy i k with above | same | below
  · exact absurd latest'.1 (latest.2 k above)
  · exact same.symm
  · exact absurd latest.1 (latest'.2 i below)

/-- Runs a chain with an output of any kind, which is given each record as it is printed. -/
def runInto {Output : Type} (emit : Output → Record → Output) :
    Chain → Record → Output → Record × Output
  | [], r, out => (r, out)
  | .print :: steps, r, out => runInto emit steps r (emit out r)
  | .set field value :: steps, r, out => runInto emit steps (r.set field value) out

theorem runInto_eq {Output : Type} (emit : Output → Record → Output) (steps : Chain) (r : Record)
    (out : Output) :
    runInto emit steps r out =
      ((steps.run r).record, (steps.run r).printed.foldl emit out) := by
  fun_induction runInto emit steps r out with
  | case1 r out => rfl
  | case2 steps r out ih => simp [run, Done.afterPrint, ih]
  | case3 field value steps r out ih => simp [run, Done.afterSet, ih]

end RowSieve.Chain
