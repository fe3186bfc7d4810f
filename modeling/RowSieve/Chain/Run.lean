import RowSieve.Chain
import RowSieve.Record

/-! Running a chain on a record: settings change the record, prints hand out the record
as it stands at that moment. -/
namespace RowSieve

structure Effects where
  printed : Nat
  mutated : Nat
  deriving DecidableEq, Repr

def Effects.none : Effects := ⟨0, 0⟩

def Effects.isNone (e : Effects) : Bool := e.printed == 0 && e.mutated == 0

/-- What a chain has done: the record it leaves, the records it printed, and the count. -/
structure Chain.Done where
  record : Record
  printed : List Record
  effects : Effects
  deriving DecidableEq, Repr

namespace Chain

def Done.afterPrint (r : Record) (d : Done) : Done :=
  ⟨d.record, r :: d.printed, ⟨d.effects.printed + 1, d.effects.mutated⟩⟩

def Done.afterSet (d : Done) : Done :=
  ⟨d.record, d.printed, ⟨d.effects.printed, d.effects.mutated + 1⟩⟩

def run : Chain → Record → Done
  | [], r => ⟨r, [], .none⟩
  | .print :: steps, r => (run steps r).afterPrint r
  | .set field value :: steps, r => (run steps (r.set field value)).afterSet

theorem printed_eq_length (c : Chain) (r : Record) :
    (c.run r).effects.printed = (c.run r).printed.length := by
  fun_induction run c r <;> simp_all [Effects.none, Done.afterPrint, Done.afterSet]

end Chain
end RowSieve
