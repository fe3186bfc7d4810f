import RowSieve.Text

/-! A chain: the steps that a row goes through once the query has decided. -/
namespace RowSieve

inductive Step where
  | print
  | set (field value : Text)
  deriving DecidableEq, Repr

abbrev Chain := List Step

namespace Chain

/-- Every chain ends with a link that does nothing, which counts as one. -/
def links (c : Chain) : Nat := c.length + 1

def prints (c : Chain) : Nat := c.countP fun step => step matches .print

def sets (c : Chain) : Nat := c.countP fun step => step matches .set ..

end Chain
end RowSieve
