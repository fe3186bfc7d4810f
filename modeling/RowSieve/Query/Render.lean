import RowSieve.Query

/-! The canonical text of a query, which reads back as the same query wherever the
query has a text at all. -/
namespace RowSieve

/-- The tag of `text` is left out unless the value ends with a blank, which reading
would drop from a value without a tag. -/
def Atom.needsTag (a : Atom) : Bool :=
  a.cast != .text || a.value.getLast?.any isBlank

def Atom.render (a : Atom) : Text :=
  a.field ++ a.relation.symbol :: a.value ++ if a.needsTag then ['.', a.cast.tag] else []

namespace Query

def group (t : Text) : Text := '(' :: t ++ [')']

def render : Query → Text
  | atom a => a.render
  | and l r => group l.render ++ '&' :: group r.render
  | or l r => group l.render ++ '|' :: group r.render
  | not q => '!' :: group q.render

end Query
end RowSieve
