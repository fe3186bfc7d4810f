import RowSieve.Program
import RowSieve.Chain.Run
import RowSieve.Query.Eval

/-! Executing a program on one record: the query chooses the chain, and the chain runs
only once the query has been decided. -/
namespace RowSieve.Program

structure Executed where
  matched : Bool
  done : Chain.Done
  deriving DecidableEq, Repr

def chainFor (p : Program) (matched : Bool) : Chain := if matched then p.onTrue else p.onFalse

def execute (p : Program) (r : Record) : Except EvalError Executed :=
  match p.query.eval r with
  | .ok matched => .ok ⟨matched, (p.chainFor matched).run r⟩
  | .error e => .error e

end RowSieve.Program
