import RowSieve.Program
import RowSieve.Query.Render

/-! Findings that do not keep a program from running: atoms with the integer cast,
settings that a later setting hides, and programs that do nothing. -/
namespace RowSieve

inductive Warning where
  | integerCast (a : Atom)
  | repeatedSet (part : Part) (field : Text)
  | emptyBranches
  deriving DecidableEq, Repr

namespace Warning

def code : Warning → Text
  | integerCast _ => "int-cast".toList
  | repeatedSet .. => "duplicate-set".toList
  | emptyBranches => "empty-branches".toList

def part : Warning → Part
  | integerCast _ => .query
  | repeatedSet part _ => part
  | emptyBranches => .query

def message : Warning → Text
  | integerCast a =>
    Text.accented a.render ++
      " uses the int cast, which compares as a string; \"9\" > \"10\" holds".toList
  | repeatedSet _ field =>
    "field ".toList ++ Text.accented field ++
      " is set again before being printed; the earlier value is never observed".toList
  | emptyBranches => "both branches are empty; the program has no effect".toList

def line (w : Warning) : Text :=
  w.code ++ " in ".toList ++ w.part.label ++ ": ".toList ++ w.message

end Warning

/-- The fields that are set again while an earlier value is still unprinted. `pending`
holds the fields set since the last print. -/
def Chain.repeatedSets (pending : List Text) : Chain → List Text
  | [] => []
  | .print :: steps => repeatedSets [] steps
  | .set field _ :: steps =>
    if pending.contains field then field :: repeatedSets pending steps
    else repeatedSets (field :: pending) steps

namespace Program

def integerCasts (q : Query) : List Warning :=
  (q.atoms.filter fun a => a.cast == .integer).map .integerCast

def lint (p : Program) : List Warning :=
  integerCasts p.query ++
    (Chain.repeatedSets [] p.onTrue).map (.repeatedSet .onTrue) ++
    (Chain.repeatedSets [] p.onFalse).map (.repeatedSet .onFalse) ++
    if p.onTrue.isEmpty && p.onFalse.isEmpty then [.emptyBranches] else []

end Program
end RowSieve
