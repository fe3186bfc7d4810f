import RowSieve.Program.Lint
import RowSieve.Proofs.Chain.Hidden

/-! The warnings about repeated settings: one for each step that hides an earlier setting, and the
value of the hidden setting is never seen. -/
namespace RowSieve

/-- The warnings that a part of a program deserves for the repeated settings of its chain. -/
def Chain.repeatWarnings (part : Part) (steps : Chain) : List (Option Warning) :=
  steps.repeatPlaces.map fun j => (steps.setAt? j).map (.repeatedSet part)

namespace Program

theorem filter_code_lint (p : Program) :
    p.lint.filter (fun w => w.code = "duplicate-set".toList) =
      (Chain.repeatedSets [] p.onTrue).map (.repeatedSet .onTrue) ++
        (Chain.repeatedSets [] p.onFalse).map (.repeatedSet .onFalse) := by
  have other : "int-cast".toList ≠ "duplicate-set".toList := by decide
  have other' : "empty-branches".toList ≠ "duplicate-set".toList := by decide
  have integers :
      (integerCasts p.query).filter (fun w => w.code = "duplicate-set".toList) = [] := by
    refine List.filter_eq_nil_iff.mpr fun w member same => ?_
    obtain ⟨a, _, rfl⟩ := List.mem_map.mp member
    exact other (of_decide_eq_true same)
  have repeats (part : Part) (fields : List Text) :
      (fields.map (Warning.repeatedSet part)).filter (fun w => w.code = "duplicate-set".toList) =
        fields.map (.repeatedSet part) := by
    refine List.filter_eq_self.mpr fun w member => decide_eq_true ?_
    obtain ⟨field, _, rfl⟩ := List.mem_map.mp member
    rfl
  have empty (b : Bool) :
      (if b then [Warning.emptyBranches] else []).filter
        (fun w => w.code = "duplicate-set".toList) = [] := by
    refine List.filter_eq_nil_iff.mpr fun w member same => ?_
    obtain ⟨_, rfl⟩ : b = true ∧ w = .emptyBranches := by simpa using member
    exact other' (of_decide_eq_true same)
  rw [lint, List.filter_append, List.filter_append, List.filter_append, integers, repeats, repeats,
    empty, List.nil_append, List.append_nil]

theorem map_some_repeatedSets (part : Part) (steps : Chain) :
    ((Chain.repeatedSets [] steps).map (Warning.repeatedSet part)).map some =
      steps.repeatWarnings part := by
  calc ((Chain.repeatedSets [] steps).map (Warning.repeatedSet part)).map some
    _ = ((Chain.repeatedSets [] steps).map some).map (Option.map (.repeatedSet part)) := by simp
    _ = (steps.repeatPlaces.map steps.setAt?).map (Option.map (.repeatedSet part)) := by
      rw [Chain.repeatedSets_places]
    _ = steps.repeatWarnings part := by simp [Chain.repeatWarnings]

/-- The warnings about repeated settings are right: they name the steps that hide an earlier
setting, those of the chain for matching rows first, and each such step has a latest setting that
it hides, whose value makes no difference to what the chain prints, leaves and counts. -/
theorem lint_repeated_settings (p : Program) :
    ((p.lint.filter fun w => w.code = "duplicate-set".toList).map some =
        p.onTrue.repeatWarnings .onTrue ++ p.onFalse.repeatWarnings .onFalse) ∧
      ∀ steps : Chain, ∀ j ∈ steps.repeatPlaces, ∃ i, steps.LatestHidden i j ∧
        (∀ k, steps.LatestHidden k j → k = i) ∧ ∀ (value : Text) (r : Record),
          (steps.withValueAt i value).run r = steps.run r ∧
            ∀ (Output : Type) (emit : Output → Record → Output) (out : Output),
              (steps.withValueAt i value).runInto emit r out = steps.runInto emit r out := by
  constructor
  · rw [filter_code_lint, List.map_append, map_some_repeatedSets, map_some_repeatedSets]
  · intro steps j member
    obtain ⟨i, latest⟩ := Chain.exists_latestHidden member
    refine ⟨i, latest, fun k latest' => latest.unique latest', fun value r => ?_⟩
    have same := Chain.run_withValueAt latest.1 value r
    refine ⟨same, fun Output emit out => ?_⟩
    rw [Chain.runInto_eq, Chain.runInto_eq, same]

/-- A field set three times before it is printed: both later settings are named, and the second
value is the one that the last of them hides. -/
theorem lint_field_set_thrice :
    let steps : Chain :=
      [.set ['a'] ['1'], .set ['b'] [], .set ['a'] ['2'], .set ['a'] ['3'], .print]
    (lint ⟨.atom ⟨['a'], .equal, [], .text⟩, steps, []⟩).filter
        (fun w => w.code = "duplicate-set".toList) =
          [.repeatedSet .onTrue ['a'], .repeatedSet .onTrue ['a']] ∧
      3 ∈ steps.repeatPlaces ∧ steps.LatestHidden 2 3 ∧
      ∀ (value : Text) (r : Record), (steps.withValueAt 2 value).run r = steps.run r := by
  intro steps
  have repeated : 3 ∈ steps.repeatPlaces := by decide
  have latest : steps.LatestHidden 2 3 := by
    refine ⟨by decide, fun k above hidden => ?_⟩
    have below := hidden.1
    omega
  obtain ⟨warned, unseen⟩ := lint_repeated_settings ⟨.atom ⟨['a'], .equal, [], .text⟩, steps, []⟩
  refine ⟨?_, repeated, latest, ?_⟩
  · apply List.map_injective_iff.mpr fun _ _ => Option.some.inj
    rw [warned]
    decide
  · obtain ⟨i, _, only, same⟩ := unseen steps 3 repeated
    obtain rfl := only 2 latest
    exact fun value r => (same value r).1

end Program
end RowSieve
