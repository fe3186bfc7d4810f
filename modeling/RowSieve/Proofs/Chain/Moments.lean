import RowSieve.Chain.Run
import RowSieve.Proofs.Record

/-! What a chain prints: for each of its prints, in their order, the record as the steps
before that print have left it. -/
namespace RowSieve

theorem Record.nodup_after {r : Record} (distinct : r.names.Nodup) (steps : Chain) :
    (r.after steps).names.Nodup := by
  induction steps generalizing r with
  | nil => exact distinct
  | cons step steps ih =>
    cases step with
    | print => exact ih distinct
    | set field value => exact ih (nodup_set distinct field value)

namespace Chain

def printPlaces (chain : Chain) : List Nat :=
  (List.range chain.length).filter fun i => chain[i]? = some .print

/-- The record at the moment of each print. -/
def printsOf (chain : Chain) (r : Record) : List Record :=
  chain.printPlaces.map fun i => r.after (chain.take i)

theorem printPlaces_print (chain : Chain) :
    printPlaces (.print :: chain) = 0 :: chain.printPlaces.map (· + 1) := by
  simp [printPlaces, List.range_succ_eq_map, List.filter_map, Function.comp_def]

theorem printPlaces_set (field value : Text) (chain : Chain) :
    printPlaces (.set field value :: chain) = chain.printPlaces.map (· + 1) := by
  simp [printPlaces, List.range_succ_eq_map, List.filter_map, Function.comp_def]

theorem printed_run (chain : Chain) (r : Record) : (chain.run r).printed = chain.printsOf r := by
  fun_induction run chain r with
  | case1 r => rfl
  | case2 r steps ih =>
    simp only [Done.afterPrint, ih, printsOf, printPlaces_print, List.map_cons, List.map_map]
    rfl
  | case3 r field value steps ih =>
    simp only [Done.afterSet, ih, printsOf, printPlaces_set, List.map_map]
    rfl

theorem effects_run (chain : Chain) (r : Record) :
    (chain.run r).effects = ⟨chain.prints, chain.sets⟩ := by
  fun_induction run chain r with
  | case1 r => rfl
  | case2 r steps ih => simp [Done.afterPrint, ih, prints, sets]
  | case3 r field value steps ih => simp [Done.afterSet, ih, prints, sets]

theorem length_printsOf (chain : Chain) (r : Record) :
    (chain.printsOf r).length = chain.prints := by
  rw [← printed_run, ← printed_eq_length, effects_run]

theorem nodup_of_mem_printsOf {chain : Chain} {r printed : Record} (distinct : r.names.Nodup)
    (member : printed ∈ chain.printsOf r) : printed.names.Nodup := by
  obtain ⟨i, _, rfl⟩ := List.mem_map.mp member
  exact Record.nodup_after distinct _

end Chain
end RowSieve
