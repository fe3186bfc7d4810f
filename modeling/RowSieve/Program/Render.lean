import RowSieve.Program
import RowSieve.Query.Render
import RowSieve.Chain.Render

/-! The canonical text of a program: three sections with one blank between them. -/
namespace RowSieve.Program

def renderSection (keyword : Char) (body : Text) : Text :=
  keyword :: '{' :: body ++ ['}']

def render (p : Program) : Text :=
  renderSection 'q' p.query.render ++ ' ' :: renderSection 't' (Chain.render p.onTrue) ++
    ' ' :: renderSection 'f' (Chain.render p.onFalse)

end RowSieve.Program
