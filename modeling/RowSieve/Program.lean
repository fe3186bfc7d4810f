import RowSieve.Query
import RowSieve.Chain

/-! A program: a query, the chain for rows on which it holds and the chain for the others. -/
namespace RowSieve

structure Program where
  query : Query
  onTrue : Chain
  onFalse : Chain
  deriving DecidableEq, Repr

/-- The three parts of a program, in the order in which they are written. -/
inductive Part where
  | query
  | onTrue
  | onFalse
  deriving DecidableEq, Repr

namespace Part

def label : Part → Text
  | query => "q\x7b...\x7d".toList
  | onTrue => "t\x7b...\x7d".toList
  | onFalse => "f\x7b...\x7d".toList

end Part
end RowSieve
